import ParamSql.Proofs.Exchange
import ParamSql.Proofs.Observation

/-!
# What a query on a table asks for

A query is run by at most one request.  A statement that is refused asks for
nothing, and neither does a dry run; every other query asks once for the rows
of exactly the text and the parameters that it compiles to, and the reply is
its answer.

The main statement holds for every way in which the request can be answered,
and for every backend.  It compares a run with a compilation of its own, which
may take another time: the time is the only thing in which two compilations of
a query differ.
-/

namespace ParamSql

/-! ## Sessions that begin with notices -/

namespace Session

variable {α σ : Type}

theorem traces_notifyAll_bind {notices : List Notice} {next : Unit → Session α} {answer : α}
    {exchanges : List Exchange} :
    ((notifyAll notices).bind next).Traces exchanges answer ↔
      (next ()).Traces exchanges answer := by
  induction notices with
  | nil => rfl
  | cons notice rest ih => exact ih

theorem outcome_notifyAll_bind (backend : Backend σ) (notices : List Notice)
    (next : Unit → Session α) (state : σ) :
    ((notifyAll notices).bind next).outcome backend state =
      (next ()).outcome backend state := by
  have given : (notifyAll notices).outcome backend state = ((), state) := by
    rw [outcome, run_notifyAll]
  rw [outcome_bind, given]

end Session

/-! ## What a compilation gives to be sent -/

namespace Diagnostics

/-- Diagnostics leave the same text and parameters, whatever time was
measured. -/
theorem observe_sent (d : Diagnostics) (elapsed measured : Duration) (command : Command) :
    (d.observe elapsed command).1.sql = (d.observe measured command).1.sql ∧
      (d.observe elapsed command).1.params = (d.observe measured command).1.params := by
  unfold observe
  cases d.enabled with
  | false => exact ⟨rfl, rfl⟩
  | true => exact ⟨rfl, rfl⟩

theorem suppressesExecution_iff (d : Diagnostics) :
    d.suppressesExecution = true ↔ d.enabled = true ∧ d.dryRun = true :=
  Bool.and_eq_true_iff

end Diagnostics

namespace Table

/-- The text and the parameters that a compilation gives to be sent. -/
def message (compiled : Except Error (Command × List Notice)) :
    Except Error (String × List Value) :=
  compiled.map fun result => (result.1.sql, result.1.params)

/-- Two compilations of a query give the same to be sent. -/
theorem message_compile (table : Table) (query : Query) (elapsed measured : Duration) :
    message (table.compile elapsed query) = message (table.compile measured query) := by
  unfold Table.compile
  cases query.statement.compile table.dialect (table.nameFor query) with
  | error violation => rfl
  | ok command =>
      obtain ⟨text, params⟩ :=
        (table.diagnosticsFor query).observe_sent elapsed measured command
      exact congrArg Except.ok (Prod.ext text params)

/-! ## Runs -/

/-- How the run of a query comes out, told from what the query compiles to and
from whether diagnostics withhold it. -/
inductive Executed (withheld : Prop) :
    Except Error (Command × List Notice) → List Exchange → Except Error (List Row) → Prop where
  /-- A statement that is refused asks for nothing; the reason is the answer. -/
  | refused (error : Error) : Executed withheld (.error error) [] (.error error)
  /-- A statement that is withheld asks for nothing and has no rows. -/
  | skipped (command : Command) (notices : List Notice) (held : withheld) :
      Executed withheld (.ok (command, notices)) [] (.ok [])
  /-- Every other statement is asked for once; the reply is the answer. -/
  | asked (command : Command) (notices : List Notice) (free : ¬withheld)
      (reply : Except Error (List Row)) :
      Executed withheld (.ok (command, notices))
        [⟨.query command.sql command.params, reply⟩] reply

namespace Executed

variable {withheld : Prop} {exchanges : List Exchange} {answer : Except Error (List Row)}

theorem length_le_one {compiled : Except Error (Command × List Notice)}
    (executed : Executed withheld compiled exchanges answer) : exchanges.length ≤ 1 := by
  cases executed with
  | refused error => exact Nat.zero_le 1
  | skipped command notices held => exact Nat.zero_le 1
  | asked command notices free reply => exact Nat.le_refl 1

/-- Only what is sent counts. -/
theorem congr {first second : Except Error (Command × List Notice)}
    (same : message first = message second)
    (executed : Executed withheld first exchanges answer) :
    Executed withheld second exchanges answer := by
  cases executed with
  | refused error =>
      rcases second with other | ⟨command, notices⟩
      · obtain rfl : error = other := Except.error.inj same
        exact .refused error
      · cases same
  | skipped command notices held =>
      rcases second with other | ⟨another, others⟩
      · cases same
      · exact .skipped another others held
  | asked command notices free reply =>
      rcases second with other | ⟨another, others⟩
      · cases same
      · obtain ⟨text, params⟩ := Prod.mk.inj (Except.ok.inj same)
        have asked := Executed.asked another others free answer
        rwa [← text, ← params] at asked

end Executed

/-- What a run comes to is told by the compilation that it starts with. -/
theorem traces_run (table : Table) (query : Query) (elapsed : Duration)
    {exchanges : List Exchange} {answer : Except Error (List Row)} :
    (table.run elapsed query).Traces exchanges answer ↔
      Executed ((table.diagnosticsFor query).suppressesExecution = true)
        (table.compile elapsed query) exchanges answer := by
  unfold Table.run
  rcases table.compile elapsed query with error | ⟨command, notices⟩
  · constructor
    · rintro ⟨rfl, rfl⟩
      exact .refused error
    · rintro ⟨⟩
      exact ⟨rfl, rfl⟩
  · simp only [Session.traces_notifyAll_bind]
    by_cases withheld : (table.diagnosticsFor query).suppressesExecution = true
    · rw [if_pos withheld]
      constructor
      · rintro ⟨rfl, rfl⟩
        exact .skipped command notices withheld
      · rintro (_ | _ | ⟨_, _, free, _⟩)
        · exact ⟨rfl, rfl⟩
        · exact absurd withheld free
    · rw [if_neg withheld]
      constructor
      · intro trace
        obtain rfl := Session.traces_request.mp trace
        exact .asked command notices withheld answer
      · rintro (_ | ⟨_, _, held⟩ | _)
        · exact absurd held withheld
        · exact Session.traces_request.mpr rfl

/-- A backend is asked for what was compiled, and only if it is asked it goes
on to another state. -/
theorem outcome_run {σ : Type} (table : Table) (query : Query) (elapsed : Duration)
    (backend : Backend σ) (state : σ) :
    (table.run elapsed query).outcome backend state =
      match message (table.compile elapsed query) with
      | .error error => (.error error, state)
      | .ok (text, params) =>
          if (table.diagnosticsFor query).suppressesExecution then (.ok [], state)
          else backend.answer (.query text params) state := by
  unfold Table.run
  rcases table.compile elapsed query with error | ⟨command, notices⟩
  · rfl
  · simp only [Session.outcome_notifyAll_bind, message, Except.map]
    split
    · rfl
    · rfl

/-- The run of a query asks for at most one thing.  A refused statement asks
for nothing and its error is the answer; a query that is withheld by the
diagnostics that count, those of the query or else those of the table, asks
for nothing and has no rows; every other query asks once, for exactly the text
and the parameters that compiling it gives, and answers what it is answered. -/
theorem run_executed (table : Table) (query : Query) (elapsed measured : Duration) :
    (∀ exchanges answer, (table.run elapsed query).Traces exchanges answer →
      exchanges.length ≤ 1) ∧
    (∀ exchanges answer, (table.run elapsed query).Traces exchanges answer ↔
      Executed
        ((query.diagnostics.getD table.diagnostics).enabled = true ∧
          (query.diagnostics.getD table.diagnostics).dryRun = true)
        (table.compile measured query) exchanges answer) ∧
    (∀ (σ : Type) (backend : Backend σ) (state : σ),
      (table.run elapsed query).outcome backend state =
        match table.compile measured query with
        | .error error => (.error error, state)
        | .ok (command, _) =>
            if (query.diagnostics.getD table.diagnostics).enabled = true ∧
                (query.diagnostics.getD table.diagnostics).dryRun = true then (.ok [], state)
            else backend.answer (.query command.sql command.params) state) := by
  have same := table.message_compile query elapsed measured
  constructor
  · intro exchanges answer trace
    exact ((table.traces_run query elapsed).mp trace).length_le_one
  constructor
  · intro exchanges answer
    rw [traces_run, diagnosticsFor, Diagnostics.suppressesExecution_iff]
    constructor
    · intro executed
      exact executed.congr same
    · intro executed
      exact executed.congr same.symm
  · intro σ backend state
    rw [outcome_run, diagnosticsFor, same]
    simp only [Diagnostics.suppressesExecution_iff]
    rcases table.compile measured query with error | ⟨command, notices⟩
    · rfl
    · rfl

end Table

end ParamSql
