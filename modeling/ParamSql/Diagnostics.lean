import ParamSql.Event
import ParamSql.Text.Excerpt

/-!
# Diagnostics

Diagnostics say what is reported about a statement while it is compiled and
whether it is then run.  They count only while they are enabled.  A report is
a list of notices in order: the requested events, then one call of the hook.
-/

namespace ParamSql

/-! ## Hooks -/

/-- A hook that logs one event for each statement, with its text cut to a
number of bytes. -/
structure LogHook where
  level : Level := .debug
  /-- The most bytes of a statement that are shown. -/
  maxBytes : Option Nat := some 200

namespace LogHook

/-- The text of a statement, cut and marked with dots if it is too long. -/
def excerpt (hook : LogHook) (sql : String) : String :=
  match hook.maxBytes with
  | some bytes => if bytes < sql.utf8ByteSize then Text.cutToBytes sql bytes ++ "..." else sql
  | none => sql

/-- The parts of a hook. -/
def outline (hook : LogHook) : Outline :=
  .fields "TracingHook" [
    ("level", hook.level.outline),
    ("max_sql_length", match hook.maxBytes with
      | some bytes => .call "Some" [.atom bytes.repr]
      | none => .atom "None")]

end LogHook

/-- Something that happens besides the answer: an event, or a call of a hook
that the caller supplied. -/
inductive Notice where
  | event (event : Event)
  | hookCall (sql : String) (params : List Value) (elapsed : Duration)

/-- What is called after a statement has been compiled. -/
inductive Hook where
  /-- A function of the caller. -/
  | caller
  | log (hook : LogHook)

/-- The notice that a hook gives about a statement. -/
def Hook.notice (hook : Hook) (sql : String) (params : List Value) (elapsed : Duration) :
    Notice :=
  match hook with
  | .caller => .hookCall sql params elapsed
  | .log hook => .event (.statementExcerpt hook.level params.length elapsed (hook.excerpt sql))

/-! ## Options -/

/-- What is reported about a statement and whether it is run. -/
structure Diagnostics where
  enabled : Bool := false
  showStatement : Bool := false
  showParams : Bool := false
  showTiming : Bool := false
  showAll : Bool := false
  explain : Bool := false
  dryRun : Bool := false
  level : Level := .debug
  hook : Option Hook := none

namespace Diagnostics

/-- Diagnostics that report nothing yet. -/
def active : Diagnostics := { enabled := true }

/-- Whether a statement is compiled but not run. -/
def suppressesExecution (d : Diagnostics) : Bool :=
  d.enabled && d.dryRun

/-- The parts of diagnostics; of the hook only whether there is one. -/
def outline (d : Diagnostics) : Outline :=
  let flag := fun (value : Bool) => Outline.atom (if value then "true" else "false")
  .fields "DebugOptions" [
    ("enabled", flag d.enabled),
    ("print_query", flag d.showStatement),
    ("print_params", flag d.showParams),
    ("print_timing", flag d.showTiming),
    ("print_all", flag d.showAll),
    ("explain", flag d.explain),
    ("dry_run", flag d.dryRun),
    ("level", d.level.outline),
    ("hook", flag d.hook.isSome)]

end Diagnostics

end ParamSql
