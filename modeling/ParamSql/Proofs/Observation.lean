import ParamSql.Table

/-!
# What observing a statement changes

Diagnostics look at a statement after it was compiled.  They keep its verb and
its parameters, add the time and, if asked to, the words that have it
explained; what they report is about the statement as they leave it.  A
statement that is refused is not observed.

The main statement is about every query on every table: the diagnostics that
count are those of the query, else those of the table, and diagnostics that
were overridden count for nothing.
-/

namespace ParamSql

/-! ## What is asked for -/

/-- What an event can tell about a command. -/
inductive Aspect where
  | text
  | params
  | timing

namespace Aspect

/-- Every aspect, in the order in which they are told. -/
def all : List Aspect :=
  [text, params, timing]

/-- The event that tells an aspect of a command. -/
def event (level : Level) (command : Command) (elapsed : Duration) : Aspect → Event
  | text => .statementText level command.verb command.sql
  | params => .statementParams level command.verb command.params
  | timing => .statementTiming level command.verb elapsed

end Aspect

namespace Diagnostics

/-- An aspect is asked for by a flag of its own and by the flag for all. -/
def wants (d : Diagnostics) : Aspect → Bool
  | .text => d.showAll || d.showStatement
  | .params => d.showAll || d.showParams
  | .timing => d.showAll || d.showTiming

/-- There is one event for each aspect that is asked for. -/
theorem events_eq (d : Diagnostics) (command : Command) (elapsed : Duration) :
    d.events command elapsed =
      (Aspect.all.filter d.wants).map (Aspect.event d.level command elapsed) := by
  have single : ∀ (aspect : Aspect) (rest : List Aspect),
      ((aspect :: rest).filter d.wants).map (Aspect.event d.level command elapsed) =
        (if d.wants aspect then [aspect.event d.level command elapsed] else []) ++
          (rest.filter d.wants).map (Aspect.event d.level command elapsed) := by
    intro aspect rest
    by_cases wanted : d.wants aspect <;> simp [wanted]
  rw [Aspect.all, single, single, single, List.filter_nil, List.map_nil, List.append_nil,
    ← List.append_assoc]
  rfl

/-! ## What is left of a command -/

/-- How diagnostics leave a command that was written as `base`, and what they
report about it. -/
structure Observes (d : Diagnostics) (elapsed : Duration) (base final : Command)
    (notices : List Notice) : Prop where
  verb : final.verb = base.verb
  params : final.params = base.params
  /-- The time is set exactly by diagnostics that are enabled. -/
  timed : final.elapsed = if d.enabled then some elapsed else none
  /-- The text changes only for a statement that is to be explained. -/
  sql : final.sql =
    if d.enabled && d.explain then "EXPLAIN ANALYZE " ++ base.sql else base.sql
  /-- Diagnostics that are not enabled report nothing, whatever their flags. -/
  silent : d.enabled = false → notices = []
  /-- The events that are asked for come first and then one notice of the hook:
  a hook of the caller is called, and one that logs emits an event.  All of
  them are about the command as it is left. -/
  report : d.enabled = true → notices =
    (Aspect.all.filter d.wants).map (fun aspect => .event (aspect.event d.level final elapsed)) ++
      match d.hook with
      | none => []
      | some .caller => [.hookCall final.sql final.params elapsed]
      | some (.log hook) =>
          [.event (.statementExcerpt hook.level final.params.length elapsed
            (hook.excerpt final.sql))]

/-- Enabled diagnostics first change the command and then report what it has
become. -/
theorem observe_of_enabled {d : Diagnostics} (enabled : d.enabled = true) (elapsed : Duration)
    (base : Command) :
    ∃ final : Command,
      d.observe elapsed base = (final, (d.events final elapsed).map .event ++
        (d.hook.map fun hook => hook.notice final.sql final.params elapsed).toList) ∧
      final.verb = base.verb ∧ final.params = base.params ∧ final.elapsed = some elapsed ∧
      final.sql = if d.explain then explainOpening ++ base.sql else base.sql :=
  ⟨_, if_pos enabled, rfl, rfl, rfl, rfl⟩

theorem observes_observe (d : Diagnostics) (elapsed : Duration) {base : Command}
    (untimed : base.elapsed = none) :
    d.Observes elapsed base (d.observe elapsed base).1 (d.observe elapsed base).2 := by
  by_cases enabled : d.enabled = true
  · obtain ⟨final, observed, verb, params, timed, sql⟩ := observe_of_enabled enabled elapsed base
    rw [observed]
    exact {
      verb, params
      timed := by rw [if_pos enabled, timed]
      sql := by rw [enabled, Bool.true_and, sql, explainOpening]
      silent := fun disabled => absurd (enabled.symm.trans disabled) Bool.noConfusion
      report := fun _ => by
        rw [events_eq, List.map_map]
        cases d.hook with
        | none => rfl
        | some hook =>
            cases hook with
            | caller => rfl
            | log hook => rfl }
  · have observed : d.observe elapsed base = (base, []) := if_neg enabled
    rw [observed]
    exact {
      verb := rfl
      params := rfl
      timed := by rw [if_neg enabled, untimed]
      sql := by rw [Bool.eq_false_iff.mpr enabled]; rfl
      silent := fun _ => rfl
      report := fun active => absurd active enabled }

/-- What compiling under diagnostics comes to, told from what the statement
alone comes to. -/
inductive Observed (d : Diagnostics) (elapsed : Duration) :
    Except Violation Command → Except Error (Command × List Notice) → Prop where
  /-- A statement that is refused is refused for the same reason. -/
  | refused (violation : Violation) :
      Observed d elapsed (.error violation) (.error (.validation violation))
  | written {base final : Command} {notices : List Notice}
      (observes : d.Observes elapsed base final notices) :
      Observed d elapsed (.ok base) (.ok (final, notices))

variable {d : Diagnostics} {elapsed : Duration}

theorem Observes.unique {base final other : Command} {notices others : List Notice}
    (first : d.Observes elapsed base final notices)
    (second : d.Observes elapsed base other others) : final = other ∧ notices = others := by
  have same : final = other := by
    rcases final with ⟨verb, sql, params, timed⟩
    rcases other with ⟨verb', sql', params', timed'⟩
    rw [Command.mk.injEq]
    exact ⟨first.verb.trans second.verb.symm, first.sql.trans second.sql.symm,
      first.params.trans second.params.symm, first.timed.trans second.timed.symm⟩
  subst same
  constructor
  · rfl
  · cases enabled : d.enabled with
    | false => rw [first.silent enabled, second.silent enabled]
    | true => rw [first.report enabled, second.report enabled]

/-- Nothing about the outcome is left open. -/
theorem Observed.unique {alone : Except Violation Command}
    {result other : Except Error (Command × List Notice)}
    (first : d.Observed elapsed alone result) (second : d.Observed elapsed alone other) :
    result = other := by
  cases first with
  | refused violation =>
      cases second
      rfl
  | written observes =>
      cases second with
      | written again =>
          obtain ⟨rfl, rfl⟩ := observes.unique again
          rfl

end Diagnostics

/-! ## Queries on tables -/

theorem Statement.elapsed_eq_none {dialect : Dialect} {name : QualifiedName}
    {statement : Statement} {command : Command}
    (compiled : statement.compile dialect name = .ok command) : command.elapsed = none := by
  unfold Statement.compile at compiled
  cases clauses : statement.clauses with
  | error violation => rw [clauses] at compiled; cases compiled
  | ok _ => rw [clauses] at compiled; cases compiled; rfl

theorem Session.run_notifyAll {σ : Type} (backend : Backend σ) (notices : List Notice)
    (state : σ) : (notifyAll notices).run backend state = ((), state, notices) := by
  induction notices with
  | nil => rfl
  | cons notice rest ih => simp only [notifyAll, run, ih]

namespace Table

/-- The notices of a compilation; there are none for a statement that is
refused. -/
def noticesOf : Except Error (Command × List Notice) → List Notice
  | .error _ => []
  | .ok (_, notices) => notices

/-- A run gives the notices of the compilation and no others, whatever answers
its request. -/
theorem run_notices {σ : Type} (table : Table) (elapsed : Duration) (query : Query)
    (backend : Backend σ) (state : σ) :
    ((table.run elapsed query).run backend state).2.2 =
      noticesOf (table.compile elapsed query) := by
  unfold Table.run
  cases table.compile elapsed query with
  | error error => rfl
  | ok result =>
      obtain ⟨command, notices⟩ := result
      simp only [Session.run_bind, Session.run_notifyAll]
      by_cases suppressed : (table.diagnosticsFor query).suppressesExecution = true
      · rw [if_pos suppressed]
        exact List.append_nil _
      · rw [if_neg suppressed]
        exact List.append_nil _

/-- Compiling a query on a table is compiling its statement and letting the
diagnostics that count observe the result.  A run reports what compiling
reports, and diagnostics of the table that a query overrides change neither. -/
theorem compile_observed (table : Table) (elapsed : Duration) (query : Query) :
    ((query.diagnostics.getD table.diagnostics).Observed elapsed
      (query.statement.compile table.dialect ⟨query.schema.getD table.schema, table.name⟩)
      (table.compile elapsed query)) ∧
    (∀ (σ : Type) (backend : Backend σ) (state : σ),
      ((table.run elapsed query).run backend state).2.2 =
        noticesOf (table.compile elapsed query)) ∧
    (∀ own other : Diagnostics,
      compile { table with diagnostics := other } elapsed { query with diagnostics := some own } =
          table.compile elapsed { query with diagnostics := some own } ∧
        run { table with diagnostics := other } elapsed { query with diagnostics := some own } =
          table.run elapsed { query with diagnostics := some own }) := by
  constructor
  · unfold Table.compile nameFor diagnosticsFor
    cases compiled : query.statement.compile table.dialect
        ⟨query.schema.getD table.schema, table.name⟩ with
    | error violation => exact .refused violation
    | ok base =>
        apply Diagnostics.Observed.written
        exact Diagnostics.observes_observe _ elapsed (Statement.elapsed_eq_none compiled)
  constructor
  · intro σ backend state
    exact table.run_notices elapsed query backend state
  · intro own other
    constructor <;> rfl

/-- A table that logs what is compiled for it, but only the first six bytes. -/
def logging : Table where
  name := "t"
  diagnostics := {
    enabled := true
    showParams := true
    hook := some (.log { level := .info, maxBytes := some 6 }) }

/-- A query that is to be explained and has a hook of its own. -/
def explained : Query where
  statement := .select {
    columns := ["*"]
    restriction := { filter := some (.ofRecord (Record.ofList [("a", .int 1)])) } }
  diagnostics := some {
    enabled := true
    showStatement := true
    showTiming := true
    explain := true
    hook := some .caller }

/-- The hook of the query is called with the text that is sent, and the table
logs nothing.  Without diagnostics of its own the same query is logged. -/
theorem compile_observed_hooks :
    logging.compile ⟨2, 5⟩ explained = .ok (
        { verb := .select
          sql := "EXPLAIN ANALYZE SELECT * FROM \"public\".\"t\" WHERE \"a\"=$1;"
          params := [.int 1]
          elapsed := some ⟨2, 5⟩ },
        [.event (.statementText .debug .select
            "EXPLAIN ANALYZE SELECT * FROM \"public\".\"t\" WHERE \"a\"=$1;"),
          .event (.statementTiming .debug .select ⟨2, 5⟩),
          .hookCall "EXPLAIN ANALYZE SELECT * FROM \"public\".\"t\" WHERE \"a\"=$1;" [.int 1]
            ⟨2, 5⟩]) ∧
      logging.compile ⟨2, 5⟩ { explained with diagnostics := none } = .ok (
        { verb := .select
          sql := "SELECT * FROM \"public\".\"t\" WHERE \"a\"=$1;"
          params := [.int 1]
          elapsed := some ⟨2, 5⟩ },
        [.event (.statementParams .debug .select [.int 1]),
          .event (.statementExcerpt .info 1 ⟨2, 5⟩ "SELECT...")]) := by
  have base : explained.statement.compile .postgres ⟨"public", "t"⟩ = .ok {
      verb := .select
      sql := "SELECT * FROM \"public\".\"t\" WHERE \"a\"=$1;"
      params := [.int 1] } := rfl
  constructor
  · obtain ⟨observed, -, -⟩ := logging.compile_observed ⟨2, 5⟩ explained
    apply observed.unique
    change Diagnostics.Observed _ _ (explained.statement.compile .postgres ⟨"public", "t"⟩) _
    rw [base]
    exact .written ⟨rfl, rfl, rfl, rfl, nofun, fun _ => rfl⟩
  · obtain ⟨observed, -, -⟩ :=
      logging.compile_observed ⟨2, 5⟩ { explained with diagnostics := none }
    apply observed.unique
    change Diagnostics.Observed _ _ (explained.statement.compile .postgres ⟨"public", "t"⟩) _
    rw [base]
    exact .written ⟨rfl, rfl, rfl, rfl, nofun, fun _ => rfl⟩

end Table

end ParamSql
