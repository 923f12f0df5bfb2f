import ParamSql.Proofs.Application
import ParamSql.Proofs.Discipline

/-!
# How a run of migrations ends

A run of migrations can fail in many places: when the names are read, when the
ledger is created, when they are read again, and for each migration when its
transaction is begun, in its work, when its name is entered, when the
transaction is committed and when it is rolled back.

This file lists the ways in which a run can end, each with the blocks that lead
there and with its answer.  The main result is that these are the runs: with
whatever the requests are answered, a run ends in one of these ways, and each
of them is a run.
-/

namespace ParamSql

/-! ## Errors that look alike -/

/-- Errors that cannot be told apart by what they show. -/
structure Error.LooksLike (error other : Error) : Prop where
  kind : error.kind = other.kind
  message : error.message = other.message
  causes : error.causes = other.causes
  sqlState? : error.sqlState? = other.sqlState?
  isValidation : error.isValidation = other.isValidation
  isNotFound : error.isNotFound = other.isNotFound
  outline : error.outline = other.outline

namespace Error

/-- What is said of a failure that could not be rolled back. -/
def rollbackText (cause : Error) (rollback : DriverError) : String :=
  cause.message ++ " (rollback failed: " ++ rollback.message ++ ")"

/-- Where a rollback failed, a text is all that is left of both errors. -/
theorem rollbackFailed_looksLike (cause : Error) (rollback : DriverError) :
    (rollbackFailed cause rollback).LooksLike (.other (cause.rollbackText rollback)) where
  kind := rfl
  message := rfl
  causes := rfl
  sqlState? := rfl
  isValidation := rfl
  isNotFound := rfl
  outline := rfl

/-- A migration shows the error that it failed with. -/
theorem LooksLike.migration {error other : Error} (alike : error.LooksLike other)
    (name : String) : (Error.migration name error).LooksLike (.migration name other) where
  kind := rfl
  message := congrArg ("Migration '" ++ name ++ "' failed: " ++ ·) alike.message
  causes := by simp only [Error.causes, alike.message, alike.causes]
  sqlState? := alike.sqlState?
  isValidation := rfl
  isNotFound := rfl
  outline := by simp only [Error.outline, alike.outline]

end Error

/-! ## What a task does -/

/-- Creating the ledger comes to what its text comes to. -/
theorem Task.traces_work_creation {ledger : Ledger} {work : List Exchange}
    {answer : Except Error Unit} :
    (Task.creation.work ledger).Traces work answer ↔
      work = [⟨.batch ledger.creation, answer⟩] :=
  Session.traces_request

/-- A migration that is a text comes to what the text comes to. -/
theorem Task.traces_work_sql (ledger : Ledger) (name text : String) {work : List Exchange}
    {answer : Except Error Unit} :
    ((Task.migration ⟨name, .sql text⟩).work ledger).Traces work answer ↔
      work = [⟨.batch text, answer⟩] := by
  constructor
  · rintro ⟨error | ⟨⟩, _, rfl, rfl, rfl⟩ <;> rfl
  · rintro rfl
    cases answer <;> exact ⟨_, [], rfl, rfl, rfl⟩

/-! ## Attempts that fail -/

namespace Session

variable {body : Session (Except Error Unit)} {inside : List Exchange}

/-- A body that fails is rolled back. -/
theorem traces_transaction_of_error {error : Error} (trace : body.Traces inside (.error error))
    (ending : Except DriverError Unit) :
    (transaction body).Traces (⟨.begin, .ok ()⟩ :: (inside ++ [⟨.rollback, ending⟩]))
      (.error (rolledBack error ending)) := by
  refine ⟨.ok (), _, rfl, traces_bind.mpr ⟨inside, _, _, rfl, trace, ending, [], rfl, ?_⟩⟩
  cases ending <;> exact ⟨rfl, rfl⟩

/-- A body that succeeds is committed. -/
theorem traces_transaction_of_ok (trace : body.Traces inside (.ok ()))
    (ending : Except DriverError Unit) :
    (transaction body).Traces (⟨.begin, .ok ()⟩ :: (inside ++ [⟨.commit, ending⟩]))
      (ending.mapError .query) := by
  refine ⟨.ok (), _, rfl, traces_bind.mpr ⟨inside, _, _, rfl, trace, ending, [], rfl, ?_⟩⟩
  cases ending <;> exact ⟨rfl, rfl⟩

end Session

theorem Ledger.traces_enter (ledger : Ledger) (name : String) (reply : Except Error (List Row)) :
    (ledger.enter name).Traces [⟨.query ledger.entryText [.text name], reply⟩]
      (reply.map fun _ => ()) := by
  rw [enter_eq]
  exact ⟨reply, [], rfl, rfl, rfl⟩

namespace Attempt

/-- How an attempt fails, and with which error. -/
inductive Fails : Attempt → Error → Prop where
  /-- The transaction is not begun. -/
  | begin (error : DriverError) : Fails (refused error) (.query error)
  /-- The work fails and is undone. -/
  | work (work : List Exchange) (error : Error) : Fails (workFailed work error (.ok ())) error
  /-- The name is not entered, and the work is undone. -/
  | entry (work : List Exchange) (error : Error) : Fails (entryFailed work error (.ok ())) error
  /-- The work fails and is not undone. -/
  | workLeft (work : List Exchange) (error : Error) (rollback : DriverError) :
      Fails (workFailed work error (.error rollback)) (.rollbackFailed error rollback)
  /-- The name is not entered, and the work is not undone. -/
  | entryLeft (work : List Exchange) (error : Error) (rollback : DriverError) :
      Fails (entryFailed work error (.error rollback)) (.rollbackFailed error rollback)
  /-- The transaction is not committed. -/
  | commit (work : List Exchange) (rows : List Row) (error : DriverError) :
      Fails (entered work rows (.error error)) (.query error)

variable {ledger : Ledger} {task : Task} {attempt : Attempt} {error : Error}

theorem fails_iff : attempt.Fails error ↔ attempt.answer = .error error := by
  constructor
  · intro fails
    cases fails <;> rfl
  · intro failed
    cases attempt with
    | refused error =>
        cases failed
        exact .begin error
    | workFailed work error ending =>
        cases ending <;> cases failed
        · exact .workLeft work error _
        · exact .work work error
    | entryFailed work error ending =>
        cases ending <;> cases failed
        · exact .entryLeft work error _
        · exact .entry work error
    | entered work rows ending =>
        cases ending <;> cases failed
        exact .commit work rows _

/-- An attempt that succeeds was committed. -/
theorem exists_entered_of_answer {result : Unit} (succeeded : attempt.answer = .ok result) :
    ∃ work rows, attempt = entered work rows (.ok ()) := by
  cases attempt with
  | refused error => cases succeeded
  | workFailed work error ending => cases ending <;> cases succeeded
  | entryFailed work error ending => cases ending <;> cases succeeded
  | entered work rows ending =>
      cases ending <;> cases succeeded
      exact ⟨work, rows, rfl⟩

/-- Every attempt that does the work of a task can be made. -/
theorem traces_attempt (faithful : attempt.Faithful ledger task) :
    (task.attempt ledger).Traces (attempt.exchanges ledger task) attempt.answer := by
  cases attempt with
  | refused error => exact ⟨.error error, [], rfl, rfl, rfl⟩
  | workFailed work error ending =>
      apply Session.traces_transaction_of_error
      exact Session.traces_andThen.mpr (.inl ⟨error, faithful, rfl⟩)
  | entryFailed work error ending =>
      apply Session.traces_transaction_of_error
      exact Session.traces_andThen.mpr
        (.inr ⟨work, (), _, rfl, faithful, ledger.traces_enter (task.name ledger) (.error error)⟩)
  | entered work rows ending =>
      apply Session.traces_transaction_of_ok
      exact Session.traces_andThen.mpr
        (.inr ⟨work, (), _, rfl, faithful, ledger.traces_enter (task.name ledger) (.ok rows)⟩)

/-- What failed in an attempt, apart from the rollback. -/
def cause? : Attempt → Option Error
  | refused error => some (.query error)
  | workFailed _ error _ | entryFailed _ error _ => some error
  | entered _ _ (.error error) => some (.query error)
  | entered _ _ (.ok ()) => none

/-- Whether the rollback failed. -/
def isLeft : Attempt → Bool
  | workFailed _ _ (.error _) | entryFailed _ _ (.error _) => true
  | _ => false

end Attempt

/-! ## Blocks that fail -/

namespace Block

/-- What failed in a block, apart from a rollback. -/
def cause? : Block → Option Error
  | read reply =>
      match reply.bind Ledger.namesOf with
      | .error error => some error
      | .ok _ => none
  | transaction _ attempt => attempt.cause?

/-- Whether a rollback failed. -/
def isLeft : Block → Bool
  | read _ => false
  | transaction _ attempt => attempt.isLeft

/-- Whatever is attempted in a block is committed. -/
def Committed (block : Block) : Prop :=
  ∀ task attempt, block = .transaction task attempt →
    ∃ work rows, attempt = .entered work rows (.ok ())

end Block

/-- The last of the blocks failed, and an error has the SQL state of what
failed there; it has none if the rollback failed too. -/
def HasStateOfLast (blocks : List Block) (error : Error) : Prop :=
  ∃ before last cause, blocks = before ++ [last] ∧ last.cause? = some cause ∧
    error.sqlState? = if last.isLeft then none else cause.sqlState?

namespace HasStateOfLast

variable {blocks : List Block} {error : Error}

/-- Only the last block counts. -/
theorem append (front : List Block) (state : HasStateOfLast blocks error) :
    HasStateOfLast (front ++ blocks) error := by
  obtain ⟨before, last, cause, rfl, failed, same⟩ := state
  exact ⟨front ++ before, last, cause, (List.append_assoc ..).symm, failed, same⟩

/-- The SQL state is seen through the name of a migration. -/
theorem migration (name : String) (state : HasStateOfLast blocks error) :
    HasStateOfLast blocks (.migration name error) :=
  state

theorem of_attempt {attempt : Attempt} (task : Task) (fails : attempt.Fails error) :
    HasStateOfLast [.transaction task attempt] error := by
  cases fails with
  | begin error => exact ⟨[], _, .query error, rfl, rfl, rfl⟩
  | work work error => exact ⟨[], _, error, rfl, rfl, rfl⟩
  | entry work error => exact ⟨[], _, error, rfl, rfl, rfl⟩
  | workLeft work error rollback => exact ⟨[], _, error, rfl, rfl, rfl⟩
  | entryLeft work error rollback => exact ⟨[], _, error, rfl, rfl, rfl⟩
  | commit work rows error => exact ⟨[], _, .query error, rfl, rfl, rfl⟩

end HasStateOfLast

namespace Ledger

/-! ## Reading the names -/

/-- The first row whose name cannot be read has this fault. -/
inductive FirstFault : List Row → ReadFault → Prop where
  | here {row : Row} {fault : ReadFault} (faulty : row.read "name" .text true = .error fault)
      (rest : List Row) : FirstFault (row :: rest) fault
  | later {row : Row} {rest : List Row} {fault : ReadFault} {cell : Option Scalar}
      (legible : row.read "name" .text true = .ok cell) (behind : FirstFault rest fault) :
      FirstFault (row :: rest) fault

/-- Reading the names fails exactly if one of them cannot be read. -/
theorem namesOf_eq_error_iff {rows : List Row} {error : Error} :
    namesOf rows = .error error ↔
      ∃ fault, FirstFault rows fault ∧ error = .decode "name" fault := by
  induction rows with
  | nil =>
      constructor
      · rintro ⟨⟩
      · rintro ⟨_, ⟨⟩, _⟩
  | cons row rest ih =>
      rw [namesOf, Row.column]
      constructor
      · intro unreadable
        cases cell : row.read "name" .text true with
        | error fault =>
            rw [cell] at unreadable
            cases unreadable
            exact ⟨fault, .here cell rest, rfl⟩
        | ok value =>
            rw [cell] at unreadable
            cases others : namesOf rest with
            | ok names =>
                rw [others] at unreadable
                cases unreadable
            | error fault =>
                rw [others] at unreadable
                cases unreadable
                obtain ⟨fault, behind, rfl⟩ := ih.mp others
                exact ⟨fault, .later cell behind, rfl⟩
      · rintro ⟨fault, first, rfl⟩
        cases first with
        | here faulty =>
            rw [faulty]
            rfl
        | later legible behind =>
            rw [legible]
            simp only [Except.mapError, ih.mpr ⟨fault, behind, rfl⟩, Except.map]

/-- What comes of a reply to the reading of the names. -/
inductive Reads : Except Error (List Row) → Except Error (List String) → Prop where
  | named {rows : List Row} {names : List String} (named : namesOf rows = .ok names) :
      Reads (.ok rows) (.ok names)
  /-- A name cannot be read. -/
  | illegible {rows : List Row} {fault : ReadFault} (first : FirstFault rows fault) :
      Reads (.ok rows) (.error (.decode "name" fault))
  /-- The rows are refused. -/
  | refused (error : Error) : Reads (.error error) (.error error)

theorem reads_iff {reply : Except Error (List Row)} {result : Except Error (List String)} :
    Reads reply result ↔ result = reply.bind namesOf := by
  constructor
  · intro reads
    cases reads with
    | named named => exact named.symm
    | illegible first => exact (namesOf_eq_error_iff.mpr ⟨_, first, rfl⟩).symm
    | refused error => rfl
  · rintro rfl
    cases reply with
    | error error => exact .refused error
    | ok rows =>
        change Reads (.ok rows) (namesOf rows)
        cases read : namesOf rows with
        | ok names => exact .named read
        | error error =>
            obtain ⟨fault, first, rfl⟩ := namesOf_eq_error_iff.mp read
            exact .illegible first

theorem Reads.hasStateOfLast {reply : Except Error (List Row)} {error : Error}
    (reads : Reads reply (.error error)) : HasStateOfLast [.read reply] error := by
  refine ⟨[], .read reply, error, rfl, ?_, rfl⟩
  rw [Block.cause?, ← reads_iff.mp reads]

variable (ledger : Ledger)

/-- How a run comes by the names that were recorded: it reads them; if there is
no ledger it creates it and reads again. -/
inductive Opens : List Block → Except Error (List String) → Prop where
  /-- There is a ledger, or it cannot be told that there is none. -/
  | read {reply : Except Error (List Row)} {result : Except Error (List String)}
      (reads : Reads reply result)
      (told : ∀ error, reply = .error error → error.sqlState? ≠ some "42P01") :
      Opens [.read reply] result
  /-- There is no ledger and it cannot be created. -/
  | uncreated {missing : Error} (told : missing.sqlState? = some "42P01") {attempt : Attempt}
      (faithful : attempt.Faithful ledger .creation) {error : Error}
      (fails : attempt.Fails error) :
      Opens [.read (.error missing), .transaction .creation attempt] (.error error)
  /-- There was no ledger and it is created; what the second reading fails with
  does not count. -/
  | created {missing : Error} (told : missing.sqlState? = some "42P01")
      {work : List Exchange} {rows : List Row}
      (faithful : (Attempt.entered work rows (.ok ())).Faithful ledger .creation)
      {reply : Except Error (List Row)} {result : Except Error (List String)}
      (reads : Reads reply result) :
      Opens [.read (.error missing), .transaction .creation (.entered work rows (.ok ())),
        .read reply] result

/-- How a run goes through the migrations that are to be applied. -/
inductive Works : List Migration → List Block → Except Error (List String) → Prop where
  | done : Works [] [] (.ok [])
  /-- A migration fails, and those behind it are not attempted. -/
  | failed {m : Migration} {attempt : Attempt} (faithful : attempt.Faithful ledger (.migration m))
      {error : Error} (fails : attempt.Fails error) (rest : List Migration) :
      Works (m :: rest) [.transaction (.migration m) attempt] (.error (.migration m.name error))
  /-- A migration is committed, and the run goes on. -/
  | applied {m : Migration} {work : List Exchange} {rows : List Row}
      (faithful : (Attempt.entered work rows (.ok ())).Faithful ledger (.migration m))
      {rest : List Migration} {blocks : List Block} {answer : Except Error (List String)}
      (later : Works rest blocks answer) :
      Works (m :: rest) (.transaction (.migration m) (.entered work rows (.ok ())) :: blocks)
        (answer.map (m.name :: ·))

/-- How a run of migrations ends. -/
inductive Ends (migrations : List Migration) : List Block → Except Error (List String) → Prop where
  /-- The names are not come by, and no migration is attempted. -/
  | unopened {blocks : List Block} {error : Error} (opens : ledger.Opens blocks (.error error)) :
      Ends migrations blocks (.error error)
  | worked {blocks later : List Block} {recorded : List String}
      {answer : Except Error (List String)} (opens : ledger.Opens blocks (.ok recorded))
      (works : ledger.Works (Migration.unapplied recorded migrations) later answer) :
      Ends migrations (blocks ++ later) answer

variable {ledger}

/-! ## These are the runs -/

variable {exchanges : List Exchange} {answer : Except Error (List String)}

theorem traces_read :
    ledger.read.Traces exchanges answer ↔
      ∃ reply, exchanges = (Block.read reply).exchanges ledger ∧ Reads reply answer := by
  simp only [reads_iff]
  constructor
  · exact exists_of_traces_read
  · rintro ⟨reply, rfl, rfl⟩
    rw [read_eq]
    exact ⟨reply, [], rfl, rfl, rfl⟩

/-- Where there is no ledger, its creation and the second reading decide. -/
theorem exists_opens_of_missing {missing : Error} (told : missing.sqlState? = some "42P01")
    (trace : (ledger.create.andThen fun () => ledger.read).Traces exchanges answer) :
    ∃ blocks, (Block.read (.error missing)).exchanges ledger ++ exchanges =
        blocks.flatMap (Block.exchanges ledger) ∧ ledger.Opens blocks answer := by
  rw [Task.create_eq_attempt] at trace
  rcases Session.traces_andThen.mp trace with
    ⟨error, creating, rfl⟩ | ⟨_, ⟨⟩, later, rfl, creating, rereading⟩
  · obtain ⟨attempt, faithful, rfl, failed⟩ := Attempt.exists_of_traces creating
    have opens := Opens.uncreated told faithful (Attempt.fails_iff.mpr failed.symm)
    exact ⟨_, by simp [Block.exchanges], opens⟩
  · obtain ⟨attempt, faithful, rfl, done⟩ := Attempt.exists_of_traces creating
    obtain ⟨work, rows, rfl⟩ := Attempt.exists_entered_of_answer done.symm
    obtain ⟨reply, rfl, reads⟩ := traces_read.mp rereading
    exact ⟨_, by simp [Block.exchanges], .created told faithful reads⟩

/-- However a run comes by the names, it is one of the ways. -/
theorem exists_opens (trace : ledger.readOrCreate.Traces exchanges answer) :
    ∃ blocks, exchanges = blocks.flatMap (Block.exchanges ledger) ∧
      ledger.Opens blocks answer := by
  rw [readOrCreate] at trace
  obtain ⟨_, result, after, rfl, reading, going⟩ := Session.traces_bind.mp trace
  obtain ⟨reply, rfl, reads⟩ := traces_read.mp reading
  cases result with
  | ok names =>
      obtain ⟨rfl, rfl⟩ := going
      refine ⟨[.read reply], rfl, .read reads ?_⟩
      rintro error rfl
      cases reads
  | error error =>
      by_cases missing : error.isUndefinedTable = true
      · simp only [if_pos missing, Session.traces_notify] at going
        have told : error.sqlState? = some "42P01" := of_decide_eq_true missing
        cases reads with
        | illegible first => cases told
        | refused => exact exists_opens_of_missing told going
      · simp only [if_neg missing] at going
        obtain ⟨rfl, rfl⟩ := going
        refine ⟨[.read reply], rfl, .read reads ?_⟩
        rintro _ rfl told
        cases reads
        exact missing (decide_eq_true told)

/-- A refusal to read that says that there is no ledger is followed by its
creation. -/
theorem traces_readOrCreate_of_missing {missing : Error}
    (told : missing.sqlState? = some "42P01")
    (trace : (ledger.create.andThen fun () => ledger.read).Traces exchanges answer) :
    ledger.readOrCreate.Traces ((Block.read (.error missing)).exchanges ledger ++ exchanges)
      answer := by
  apply Session.traces_bind.mpr
  refine ⟨_, .error missing, exchanges, rfl, traces_read.mpr ⟨_, rfl, .refused missing⟩, ?_⟩
  have undefined : missing.isUndefinedTable = true := decide_eq_true told
  simpa only [if_pos undefined, Session.traces_notify] using trace

/-- Each of the ways to come by the names can be taken. -/
theorem Opens.traces {blocks : List Block} (opens : ledger.Opens blocks answer) :
    ledger.readOrCreate.Traces (blocks.flatMap (Block.exchanges ledger)) answer := by
  cases opens with
  | @read reply result reads told =>
      rw [List.flatMap_singleton]
      apply Session.traces_bind.mpr
      refine ⟨_, answer, [], (List.append_nil _).symm, traces_read.mpr ⟨reply, rfl, reads⟩, ?_⟩
      cases reads with
      | named named => exact ⟨rfl, rfl⟩
      | illegible first => exact ⟨rfl, rfl⟩
      | refused error =>
          have present : ¬ error.isUndefinedTable = true := by
            intro missing
            exact told error rfl (of_decide_eq_true missing)
          simp only [if_neg present]
          exact ⟨rfl, rfl⟩
  | @uncreated missing told attempt faithful error fails =>
      have creating := Attempt.traces_attempt faithful
      rw [Attempt.fails_iff.mp fails] at creating
      rw [List.flatMap_cons, List.flatMap_singleton]
      apply traces_readOrCreate_of_missing told
      exact Session.traces_andThen.mpr (.inl ⟨error, creating, rfl⟩)
  | @created missing told work rows faithful reply result reads =>
      rw [List.flatMap_cons, List.flatMap_cons, List.flatMap_singleton]
      apply traces_readOrCreate_of_missing told
      have creating := Attempt.traces_attempt faithful
      have rereading : ledger.read.Traces ((Block.read reply).exchanges ledger) answer :=
        traces_read.mpr ⟨reply, rfl, reads⟩
      exact Session.traces_andThen.mpr (.inr ⟨_, (), _, rfl, creating, rereading⟩)

/-- The ways through the migrations are those of the session.  By induction on
the list: one attempt decides whether the run goes on to the rest. -/
theorem traces_applyNew {seen : List String} {migrations : List Migration} :
    (applyNew ledger seen migrations).Traces exchanges answer ↔
      ∃ blocks, exchanges = blocks.flatMap (Block.exchanges ledger) ∧
        ledger.Works (Migration.unapplied seen migrations) blocks answer := by
  induction migrations generalizing seen exchanges answer with
  | nil =>
      constructor
      · rintro ⟨rfl, rfl⟩
        exact ⟨[], rfl, .done⟩
      · rintro ⟨_, rfl, ⟨⟩⟩
        exact ⟨rfl, rfl⟩
  | cons m rest ih =>
      by_cases known : m.name ∈ seen
      · rw [applyNew, if_pos known, Migration.unapplied_cons_of_mem known]
        exact ih
      rw [applyNew, if_neg known, Migration.unapplied_cons_of_not_mem known, Session.traces_bind,
        Task.apply_eq_attempt]
      constructor
      · rintro ⟨_, result, after, rfl, tried, trace⟩
        obtain ⟨attempt, faithful, rfl, rfl⟩ := Attempt.exists_of_traces tried
        cases outcome : attempt.answer with
        | error error =>
            rw [outcome] at trace
            obtain ⟨rfl, rfl⟩ := trace
            exact ⟨_, rfl, .failed faithful (Attempt.fails_iff.mpr outcome) _⟩
        | ok done =>
            rw [outcome] at trace
            obtain ⟨result, others, rfl⟩ := Session.traces_andThen_done trace
            obtain ⟨blocks, rfl, works⟩ := ih.mp others
            obtain ⟨work, rows, rfl⟩ := Attempt.exists_entered_of_answer outcome
            exact ⟨_, rfl, .applied faithful works⟩
      · rintro ⟨_, rfl, works⟩
        cases works with
        | @failed _ attempt faithful error fails =>
            have tried := Attempt.traces_attempt faithful
            rw [Attempt.fails_iff.mp fails] at tried
            exact ⟨_, _, [], rfl, tried, rfl, rfl⟩
        | @applied _ work rows faithful _ blocks result later =>
            refine ⟨_, _, _, rfl, Attempt.traces_attempt faithful, ?_⟩
            have others := ih.mpr ⟨blocks, rfl, later⟩
            cases result with
            | error error => exact Session.traces_andThen.mpr (.inl ⟨error, others, rfl⟩)
            | ok names =>
                exact Session.traces_andThen.mpr
                  (.inr ⟨_, names, [], (List.append_nil _).symm, others, rfl, rfl⟩)

/-- A run of migrations ends in one of the ways, and in each of them. -/
theorem traces_migrate {migrations : List Migration} :
    (ledger.migrate migrations).Traces exchanges answer ↔
      ∃ blocks, exchanges = blocks.flatMap (Block.exchanges ledger) ∧
        ledger.Ends migrations blocks answer := by
  rw [migrate, Session.traces_andThen]
  constructor
  · rintro (⟨error, opening, rfl⟩ | ⟨_, recorded, _, rfl, opening, working⟩)
    · obtain ⟨blocks, rfl, opens⟩ := exists_opens opening
      exact ⟨blocks, rfl, .unopened opens⟩
    · obtain ⟨blocks, rfl, opens⟩ := exists_opens opening
      obtain ⟨later, rfl, works⟩ := traces_applyNew.mp working
      exact ⟨blocks ++ later, List.flatMap_append.symm, .worked opens works⟩
  · rintro ⟨_, rfl, ends⟩
    cases ends with
    | unopened opens => exact .inl ⟨_, opens.traces, rfl⟩
    | @worked blocks later recorded _ opens works =>
        exact .inr ⟨_, recorded, _, List.flatMap_append, opens.traces,
          traces_applyNew.mpr ⟨later, rfl, works⟩⟩

/-! ## What the endings tell -/

theorem Opens.hasStateOfLast {blocks : List Block} {error : Error}
    (opens : ledger.Opens blocks (.error error)) : HasStateOfLast blocks error := by
  cases opens with
  | read reads told => exact reads.hasStateOfLast
  | uncreated told faithful fails => exact (HasStateOfLast.of_attempt .creation fails).append [_]
  | created told faithful reads => exact reads.hasStateOfLast.append [_, _]

theorem Works.hasStateOfLast {migrations : List Migration} {blocks : List Block}
    {answer : Except Error (List String)} (works : ledger.Works migrations blocks answer)
    {error : Error} (failed : answer = .error error) : HasStateOfLast blocks error := by
  induction works with
  | done => cases failed
  | @failed m attempt faithful source fails rest =>
      cases failed
      exact (HasStateOfLast.of_attempt (.migration m) fails).migration m.name
  | @applied m work rows faithful rest blocks answer later ih =>
      cases answer with
      | ok names => cases failed
      | error source =>
          cases failed
          exact (ih rfl).append [_]

theorem Ends.hasStateOfLast {migrations : List Migration} {blocks : List Block} {error : Error}
    (ends : ledger.Ends migrations blocks (.error error)) : HasStateOfLast blocks error := by
  cases ends with
  | unopened opens => exact opens.hasStateOfLast
  | worked opens works => exact (works.hasStateOfLast rfl).append _

theorem Opens.committed {blocks : List Block} {recorded : List String}
    (opens : ledger.Opens blocks (.ok recorded)) : ∀ block ∈ blocks, block.Committed := by
  have reading : ∀ reply, (Block.read reply).Committed := by
    rintro _ _ _ ⟨⟩
  cases opens with
  | read reads told => exact List.forall_mem_singleton.mpr (reading _)
  | @created missing told work rows faithful reply result reads =>
      refine List.forall_mem_cons.mpr ⟨reading _, List.forall_mem_cons.mpr ⟨?_, ?_⟩⟩
      · rintro _ _ ⟨⟩
        exact ⟨work, rows, rfl⟩
      · exact List.forall_mem_singleton.mpr (reading _)

theorem Works.committed {migrations : List Migration} {blocks : List Block}
    {answer : Except Error (List String)} (works : ledger.Works migrations blocks answer)
    {names : List String} (succeeded : answer = .ok names) :
    ∀ block ∈ blocks, block.Committed := by
  induction works generalizing names with
  | done => exact List.forall_mem_nil _
  | failed faithful fails rest => cases succeeded
  | @applied m work rows faithful rest blocks answer later ih =>
      cases answer with
      | error error => cases succeeded
      | ok others =>
          refine List.forall_mem_cons.mpr ⟨?_, ih rfl⟩
          rintro _ _ ⟨⟩
          exact ⟨work, rows, rfl⟩

theorem Ends.committed {migrations : List Migration} {blocks : List Block} {names : List String}
    (ends : ledger.Ends migrations blocks (.ok names)) : ∀ block ∈ blocks, block.Committed := by
  cases ends with
  | worked opens works =>
      exact List.forall_mem_append.mpr ⟨opens.committed, works.committed rfl⟩

/-- Whatever a run of migrations is answered, it ends in one of the ways, and it
can end in each of them; so does every run against a backend.  An error has the
SQL state of what failed in the last block, unless the rollback failed too:
then it has none, and it shows itself as a text about both failures.  A run
succeeds only if all that it attempted was committed. -/
theorem migrate_ends (ledger : Ledger) (migrations : List Migration) :
    (∀ exchanges answer, (ledger.migrate migrations).Traces exchanges answer ↔
      ∃ blocks, exchanges = blocks.flatMap (Block.exchanges ledger) ∧
        ledger.Ends migrations blocks answer) ∧
    (∀ {σ : Type} (backend : Backend σ) (state : σ), ∃ blocks,
      (ledger.migrate migrations).exchanges backend state =
          blocks.flatMap (Block.exchanges ledger) ∧
        ledger.Ends migrations blocks ((ledger.migrate migrations).outcome backend state).1) ∧
    (∀ blocks error, ledger.Ends migrations blocks (.error error) →
      HasStateOfLast blocks error) ∧
    (∀ (cause : Error) (rollback : DriverError) (name : String),
      (Error.rollbackFailed cause rollback).LooksLike (.other (cause.rollbackText rollback)) ∧
        (Error.migration name (.rollbackFailed cause rollback)).LooksLike
          (.migration name (.other (cause.rollbackText rollback)))) ∧
    ∀ blocks names, ledger.Ends migrations blocks (.ok names) →
      ∀ block ∈ blocks, block.Committed := by
  refine ⟨fun _ _ => traces_migrate, ?_, fun _ _ ends => ends.hasStateOfLast, ?_,
    fun _ _ ends => ends.committed⟩
  · intro σ backend state
    exact traces_migrate.mp (Session.traces_exchanges backend _ state)
  · intro cause rollback name
    have alike := cause.rollbackFailed_looksLike rollback
    exact ⟨alike, alike.migration name⟩

end Ledger

/-! ## A sample -/

/-- A migration that is refused as a duplicate. -/
def Attempt.stranded : Attempt :=
  .workFailed [⟨.batch "x", .error (.query (.server "23505" "taken"))⟩]
    (.query (.server "23505" "taken")) (.error (.server "08006" "gone"))

/-- The blocks of a run that creates its ledger and then loses the connection
in the rollback of its only migration. -/
def Block.stranded : List Block :=
  [.read (.error (.query (.server "42P01" "no such table"))),
    .transaction .creation (.entered [⟨.batch ({} : Ledger).creation, .ok ()⟩] [] (.ok ())),
    .read (.ok []),
    .transaction (.migration ⟨"a", .sql "x"⟩) .stranded]

/-- The error of the run has no SQL state, though both failures have one. -/
theorem Ledger.migrate_ends_sample :
    let error : Error := .migration "a"
      (.rollbackFailed (.query (.server "23505" "taken")) (.server "08006" "gone"))
    (Ledger.migrate {} [⟨"a", .sql "x"⟩]).Traces (Block.stranded.flatMap (Block.exchanges {}))
        (.error error) ∧
      HasStateOfLast Block.stranded error ∧ error.sqlState? = none ∧
      error.message =
        "Migration 'a' failed: Query error: db error (rollback failed: db error)" := by
  intro error
  have opens : Opens {} (Block.stranded.take 3) (.ok []) :=
    .created rfl (Task.traces_work_creation.mpr rfl) (.named rfl)
  have faithful : Attempt.stranded.Faithful {} (.migration ⟨"a", .sql "x"⟩) :=
    (Task.traces_work_sql {} "a" "x").mpr rfl
  have works : Works {} [⟨"a", .sql "x"⟩] (Block.stranded.drop 3) (.error error) :=
    .failed faithful (.workLeft _ _ _) []
  have ends : Ends {} [⟨"a", .sql "x"⟩] Block.stranded (.error error) := .worked opens works
  obtain ⟨runs, -, state, -⟩ := migrate_ends {} [⟨"a", .sql "x"⟩]
  exact ⟨(runs _ _).mpr ⟨_, rfl, ends⟩, state _ _ ends, rfl, rfl⟩

end ParamSql
