import ParamSql.Clauses
import ParamSql.Diagnostics

/-!
# Commands

A command is a statement in a dialect: its text, with a placeholder for every
parameter, and the values of the parameters in the order of the placeholders.
-/

namespace ParamSql

/-- A statement ready to be run. -/
structure Command where
  verb : Verb
  sql : String
  params : List Value
  /-- How long it took to compile, if that was measured. -/
  elapsed : Option Duration := none

/-- Write a statement about a table in a dialect, unless it says too little:
first its clauses, one after the other, and then the whole of them. -/
def Statement.compile (dialect : Dialect) (name : QualifiedName) (statement : Statement) :
    Except Violation Command :=
  statement.clauses.map fun clauses =>
    let (texts, params) := clauses.render dialect
    { verb := statement.verb, sql := texts.assemble dialect name, params }

namespace Diagnostics

/-- The text in front of a statement that is to be explained. -/
def explainOpening : String := "EXPLAIN ANALYZE "

/-- The events that are requested about a command. -/
def events (d : Diagnostics) (command : Command) (elapsed : Duration) : List Event :=
  (if d.showAll || d.showStatement then
    [.statementText d.level command.verb command.sql] else []) ++
  (if d.showAll || d.showParams then
    [.statementParams d.level command.verb command.params] else []) ++
  (if d.showAll || d.showTiming then
    [.statementTiming d.level command.verb elapsed] else [])

/-- A command as diagnostics change it, and what they report about it.  The
time that compiling took is given. -/
def observe (d : Diagnostics) (elapsed : Duration) (command : Command) :
    Command × List Notice :=
  if d.enabled then
    let command :=
      { command with
        elapsed := some elapsed
        sql := if d.explain then explainOpening ++ command.sql else command.sql }
    (command, (d.events command elapsed).map .event ++
      (d.hook.map fun hook => hook.notice command.sql command.params elapsed).toList)
  else (command, [])

end Diagnostics

end ParamSql
