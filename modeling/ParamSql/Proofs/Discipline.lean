import ParamSql.Proofs.Exchange
import ParamSql.Proofs.Ledger

/-!
# The discipline of a run of migrations

A run of migrations asks in blocks.  A block reads the names or attempts a
task, and an attempt is one transaction from its begin to its end.  The main
result says, whatever the requests are answered with, which blocks there are,
that their transactions are bracketed, and that a failure ends the run.
-/

namespace ParamSql

variable {α : Type}

/-! ## Places in lists -/

theorem singleton_eq_append_cons {before after : List α} {only element : α}
    (split : [only] = before ++ element :: after) :
    before = [] ∧ element = only ∧ after = [] := by
  cases before with
  | nil =>
      cases split
      exact ⟨rfl, rfl, rfl⟩
  | cons first before => cases before <;> cases split

theorem concat_eq_append_cons {inside before after : List α} {last element : α}
    (split : inside ++ [last] = before ++ element :: after) :
    (∃ back, inside = before ++ element :: back ∧ after = back ++ [last]) ∨
      element = last ∧ after = [] := by
  rcases List.eq_nil_or_concat after with rfl | ⟨back, final, rfl⟩
  · exact .inr ⟨(List.singleton_inj.mp (List.append_inj' split rfl).2).symm, rfl⟩
  rw [List.concat_eq_append, ← List.cons_append, ← List.append_assoc] at split
  obtain ⟨rfl, same⟩ := List.append_inj' split rfl
  exact .inl ⟨back, rfl, by rw [List.concat_eq_append, same]⟩

/-! ## Exchanges that fail -/

/-- Whether a request is answered with an error. -/
def Exchange.failed : Exchange → Bool
  | ⟨.begin, reply⟩ | ⟨.commit, reply⟩ | ⟨.rollback, reply⟩ => !reply.isOk
  | ⟨.batch _, reply⟩ => !reply.isOk
  | ⟨.query .., reply⟩ => !reply.isOk
  | ⟨.execute .., reply⟩ => !reply.isOk

/-- A session that asks nothing after an error and answers with a failure. -/
def Session.Stops (session : Session (Except Error α)) : Prop :=
  ∀ exchanges answer, session.Traces exchanges answer →
    ∀ before exchange after, exchanges = before ++ exchange :: after →
      exchange.failed = true → after = [] ∧ ∃ error, answer = .error error

/-- Texts are run up to the first that is refused. -/
theorem stops_runBatches (failure : Option Error) (texts : List String) :
    (runBatches failure texts).Stops := by
  induction texts with
  | nil =>
      rintro _ _ ⟨rfl, -⟩ before exchange after split
      cases before <;> cases split
  | cons text rest ih =>
      intro exchanges answer trace before exchange after split failed
      rcases Session.traces_andThen.mp trace with
        ⟨error, ⟨_, _, rfl, rfl, rfl⟩, rfl⟩ | ⟨_, _, later, rfl, ⟨_, _, rfl, rfl, rfl⟩, others⟩
      · obtain ⟨-, -, last⟩ := singleton_eq_append_cons split
        exact ⟨last, error, rfl⟩
      · cases before with
        | nil =>
            cases split
            cases failed
        | cons first before =>
            exact ih later answer others before exchange after (List.cons_eq_cons.mp split).2 failed

/-! ## Transactions -/

/-- How a transaction answers a failure of its body. -/
def Session.rolledBack (error : Error) : Except DriverError Unit → Error
  | .ok () => error
  | .error rollback => .rollbackFailed error rollback

/-- A transaction is refused, or it is ended once: rolled back where its body
failed, else committed. -/
theorem Session.traces_transaction {body : Session (Except Error α)}
    {exchanges : List Exchange} {answer : Except Error α}
    (trace : (transaction body).Traces exchanges answer) :
    (∃ error, exchanges = [⟨.begin, .error error⟩] ∧ answer = .error (.query error)) ∨
      (∃ inside error ending, body.Traces inside (.error error) ∧
        exchanges = ⟨.begin, .ok ()⟩ :: (inside ++ [⟨.rollback, ending⟩]) ∧
        answer = .error (rolledBack error ending)) ∨
      ∃ inside result ending, body.Traces inside (.ok result) ∧
        exchanges = ⟨.begin, .ok ()⟩ :: (inside ++ [⟨.commit, ending⟩]) ∧
        answer = (ending.mapError .query).map fun () => result := by
  obtain ⟨error | ⟨⟩, later, rfl, trace⟩ := trace
  · obtain ⟨rfl, rfl⟩ := trace
    exact .inl ⟨error, rfl, rfl⟩
  · obtain ⟨inside, error | result, after, rfl, body, ended⟩ := traces_bind.mp trace
    · obtain ⟨ending, _, rfl, ended⟩ := ended
      refine .inr (.inl ⟨inside, error, ending, body, ?_⟩)
      cases ending <;> obtain ⟨rfl, rfl⟩ := ended <;> exact ⟨rfl, rfl⟩
    · obtain ⟨ending, _, rfl, ended⟩ := ended
      refine .inr (.inr ⟨inside, result, ending, body, ?_⟩)
      cases ending <;> obtain ⟨rfl, rfl⟩ := ended <;> exact ⟨rfl, rfl⟩

/-! ## Attempts -/

theorem Task.statements_of_traces {ledger : Ledger} (task : Task) {work : List Exchange}
    {answer : Except Error Unit} (trace : (task.work ledger).Traces work answer) :
    ∀ exchange ∈ work, exchange.request.isStatement = true :=
  fun _ member => (task.asks_work ledger).of_mem_traces trace member

/-- What happened when a task was attempted. -/
inductive Attempt where
  /-- There was no transaction. -/
  | refused (error : DriverError)
  /-- The work failed, so the transaction was rolled back. -/
  | workFailed (work : List Exchange) (error : Error) (ending : Except DriverError Unit)
  /-- The name was not entered, so the transaction was rolled back. -/
  | entryFailed (work : List Exchange) (error : Error) (ending : Except DriverError Unit)
  /-- The work was done and the name was entered, so the transaction was
  committed. -/
  | entered (work : List Exchange) (rows : List Row) (ending : Except DriverError Unit)

namespace Attempt

variable (ledger : Ledger) (task : Task)

/-- The request that enters the name of a task, and a reply to it. -/
def entry (reply : Except Error (List Row)) : Exchange :=
  ⟨.query ledger.entryText [.text (task.name ledger)], reply⟩

/-- What was asked and answered. -/
def exchanges : Attempt → List Exchange
  | refused error => [⟨.begin, .error error⟩]
  | workFailed work _ ending => ⟨.begin, .ok ()⟩ :: (work ++ [⟨.rollback, ending⟩])
  | entryFailed work error ending =>
      ⟨.begin, .ok ()⟩ :: (work ++ [entry ledger task (.error error)] ++ [⟨.rollback, ending⟩])
  | entered work rows ending =>
      ⟨.begin, .ok ()⟩ :: (work ++ [entry ledger task (.ok rows)] ++ [⟨.commit, ending⟩])

/-- What was done in the transaction was the work of the task, and it came to
what it is said to. -/
def Faithful : Attempt → Prop
  | refused _ => True
  | workFailed work error _ => (task.work ledger).Traces work (.error error)
  | entryFailed work _ _ | entered work _ _ => (task.work ledger).Traces work (.ok ())

/-- What the attempt came to. -/
def answer : Attempt → Except Error Unit
  | refused error => .error (.query error)
  | workFailed _ error ending | entryFailed _ error ending =>
      .error (Session.rolledBack error ending)
  | entered _ _ ending => ending.mapError .query

variable {ledger task}

theorem statements_entry {work : List Exchange} {answer : Except Error Unit}
    (trace : (task.work ledger).Traces work answer) (reply : Except Error (List Row)) :
    ∀ exchange ∈ work ++ [entry ledger task reply], exchange.request.isStatement = true :=
  List.forall_mem_append.mpr
    ⟨task.statements_of_traces trace, List.forall_mem_singleton.mpr rfl⟩

/-- However a task is attempted, it is one of these attempts. -/
theorem exists_of_traces {exchanges : List Exchange} {answer : Except Error Unit}
    (trace : (task.attempt ledger).Traces exchanges answer) :
    ∃ attempt : Attempt, attempt.Faithful ledger task ∧
      exchanges = attempt.exchanges ledger task ∧ answer = attempt.answer := by
  rcases Session.traces_transaction trace with
    ⟨error, rfl, rfl⟩ | ⟨inside, error, ending, body, rfl, rfl⟩ |
      ⟨inside, ⟨⟩, ending, body, rfl, rfl⟩
  · exact ⟨refused error, trivial, rfl, rfl⟩
  · rcases Session.traces_andThen.mp body with
      ⟨_, work, same⟩ | ⟨work, ⟨⟩, later, rfl, done, entering⟩
    · cases same
      exact ⟨workFailed inside error ending, work, rfl, rfl⟩
    · rw [Ledger.enter_eq] at entering
      obtain ⟨reply | rows, _, rfl, rfl, same⟩ := entering
      · cases same
        exact ⟨entryFailed work error ending, done, rfl, rfl⟩
      · cases same
  · rcases Session.traces_andThen.mp body with
      ⟨_, work, same⟩ | ⟨work, ⟨⟩, later, rfl, done, entering⟩
    · cases same
    · rw [Ledger.enter_eq] at entering
      obtain ⟨reply | rows, _, rfl, rfl, same⟩ := entering
      · cases same
      · refine ⟨entered work rows ending, done, rfl, ?_⟩
        cases ending <;> rfl

end Attempt

/-! ## Blocks -/

/-- What a run of migrations asks at one go. -/
inductive Block where
  /-- The names are read outside of a transaction. -/
  | read (reply : Except Error (List Row))
  /-- A task is attempted in a transaction. -/
  | transaction (task : Task) (attempt : Attempt)

namespace Block

variable (ledger : Ledger)

/-- What is asked and answered in a block. -/
def exchanges : Block → List Exchange
  | read reply => [⟨.query ledger.namesText [], reply⟩]
  | transaction task attempt => attempt.exchanges ledger task

/-- Attempts do their tasks, which are to create the ledger or to apply a
migration of a list. -/
def Faithful (migrations : List Migration) : Block → Prop
  | read _ => True
  | transaction task attempt =>
      attempt.Faithful ledger task ∧ ∀ m, task = .migration m → m ∈ migrations

/-- A migration of a list is attempted. -/
def Applies (migrations : List Migration) (block : Block) : Prop :=
  ∃ m ∈ migrations, ∃ attempt : Attempt,
    attempt.Faithful ledger (.migration m) ∧ block = transaction (.migration m) attempt

/-- A block came to an error: there are no names, or the task was not done. -/
def Failed : Block → Prop
  | read reply => ∃ error, reply.bind Ledger.namesOf = .error error
  | transaction _ attempt => ∃ error, attempt.answer = .error error

/-- Whether the names are read. -/
def isRead : Block → Bool
  | read _ => true
  | transaction .. => false

/-- Whether the creation of the ledger is attempted. -/
def isCreation : Block → Bool
  | transaction .creation _ => true
  | _ => false

/-- Whether it turns out that there is no ledger, which a server tells by the
SQL state of a table that does not exist. -/
def isMissing : Block → Bool
  | read (.error error) => error.sqlState? = some "42P01"
  | _ => false

variable {ledger}

theorem Applies.cons {migrations : List Migration} {m : Migration} {block : Block}
    (applies : block.Applies ledger migrations) : block.Applies ledger (m :: migrations) := by
  obtain ⟨m', listed, attempt, faithful, rfl⟩ := applies
  exact ⟨m', List.mem_cons_of_mem _ listed, attempt, faithful, rfl⟩

theorem Applies.faithful {migrations : List Migration} {block : Block}
    (applies : block.Applies ledger migrations) : block.Faithful ledger migrations := by
  obtain ⟨m, listed, attempt, faithful, rfl⟩ := applies
  refine ⟨faithful, ?_⟩
  rintro _ ⟨⟩
  exact listed

theorem countP_isRead_of_applies {migrations : List Migration} {blocks : List Block}
    (applies : ∀ block ∈ blocks, block.Applies ledger migrations) :
    blocks.countP isRead = 0 := by
  refine List.countP_eq_zero.mpr fun block member => ?_
  obtain ⟨_, -, _, -, rfl⟩ := applies block member
  exact Bool.false_ne_true

theorem countP_isCreation_of_applies {migrations : List Migration} {blocks : List Block}
    (applies : ∀ block ∈ blocks, block.Applies ledger migrations) :
    blocks.countP isCreation = 0 := by
  refine List.countP_eq_zero.mpr fun block member => ?_
  obtain ⟨_, -, _, -, rfl⟩ := applies block member
  exact Bool.false_ne_true

end Block

/-- No block failed, or the last one did and that is the answer. -/
def Settled (blocks : List Block) : Except Error α → Prop
  | .ok _ => ∀ block ∈ blocks, ¬ block.Failed
  | .error _ => ∃ before last, blocks = before ++ [last] ∧
      (∀ block ∈ before, ¬ block.Failed) ∧ last.Failed

namespace Settled

variable {blocks later : List Block} {answer : Except Error α}

theorem cons {block : Block} (fine : ¬ block.Failed) (settled : Settled later answer) :
    Settled (block :: later) answer := by
  cases answer with
  | ok result => exact List.forall_mem_cons.mpr ⟨fine, settled⟩
  | error error =>
      obtain ⟨before, last, rfl, others, failed⟩ := settled
      exact ⟨block :: before, last, rfl, List.forall_mem_cons.mpr ⟨fine, others⟩, failed⟩

theorem single {block : Block} {error : Error} (failed : block.Failed) :
    Settled [block] (.error error : Except Error α) :=
  ⟨[], block, rfl, List.forall_mem_nil _, failed⟩

theorem map {β : Type} (settled : Settled blocks answer) (make : α → β) :
    Settled blocks (answer.map make) := by
  cases answer with
  | ok result => exact settled
  | error error => exact settled

/-- A block that failed is the last one. -/
theorem of_failed (settled : Settled blocks answer) {before after : List Block} {block : Block}
    (split : blocks = before ++ block :: after) (failed : block.Failed) :
    after = [] ∧ ∃ error, answer = .error error := by
  subst split
  cases answer with
  | ok result =>
      exact absurd failed (settled block (List.mem_append_right _ List.mem_cons_self))
  | error error =>
      obtain ⟨front, last, split, fine, -⟩ := settled
      rcases concat_eq_append_cons split.symm with ⟨back, rfl, -⟩ | ⟨-, last⟩
      · exact absurd failed (fine block (List.mem_append_right _ List.mem_cons_self))
      · exact ⟨last, error, rfl⟩

end Settled

/-! ## Runs of migrations in blocks -/

namespace Ledger

variable {ledger : Ledger}

theorem exists_of_traces_read {exchanges : List Exchange} {answer : Except Error (List String)}
    (trace : ledger.read.Traces exchanges answer) :
    ∃ reply, exchanges = (Block.read reply).exchanges ledger ∧ answer = reply.bind namesOf := by
  rw [read_eq] at trace
  obtain ⟨reply, _, rfl, rfl, rfl⟩ := trace
  exact ⟨reply, rfl, rfl⟩

/-- Names that cannot be read are not taken for a missing ledger. -/
theorem isUndefinedTable_of_namesOf {rows : List Row} {error : Error}
    (unreadable : namesOf rows = .error error) : error.isUndefinedTable = false := by
  induction rows with
  | nil => cases unreadable
  | cons row rest ih =>
      rw [namesOf, Row.column] at unreadable
      cases read : row.read "name" .text true with
      | error fault =>
          rw [read] at unreadable
          cases unreadable
          rfl
      | ok cell =>
          rw [read] at unreadable
          cases others : namesOf rest with
          | error fault =>
              rw [others] at unreadable
              cases unreadable
              exact ih others
          | ok names =>
              rw [others] at unreadable
              cases unreadable

/-- A reading that fails tells whether there is a ledger. -/
theorem isUndefinedTable_eq_isMissing {reply : Except Error (List Row)} {error : Error}
    (failed : reply.bind namesOf = .error error) :
    error.isUndefinedTable = (Block.read reply).isMissing := by
  cases reply with
  | ok rows => exact isUndefinedTable_of_namesOf failed
  | error fault =>
      cases failed
      rfl

/-- The new migrations are attempted one after the other. -/
theorem exists_of_traces_applyNew {seen : List String} {migrations : List Migration}
    {exchanges : List Exchange} {answer : Except Error (List String)}
    (trace : (applyNew ledger seen migrations).Traces exchanges answer) :
    ∃ blocks, exchanges = blocks.flatMap (Block.exchanges ledger) ∧ Settled blocks answer ∧
      ∀ block ∈ blocks, block.Applies ledger migrations := by
  induction migrations generalizing seen exchanges answer with
  | nil =>
      obtain ⟨rfl, rfl⟩ := trace
      exact ⟨[], rfl, List.forall_mem_nil _, List.forall_mem_nil _⟩
  | cons m rest ih =>
      rw [applyNew] at trace
      by_cases known : m.name ∈ seen
      · rw [if_pos known] at trace
        obtain ⟨blocks, covered, settled, applied⟩ := ih trace
        exact ⟨blocks, covered, settled, fun block member => (applied block member).cons⟩
      rw [if_neg known] at trace
      obtain ⟨_, result, after, rfl, tried, trace⟩ := Session.traces_bind.mp trace
      rw [Task.apply_eq_attempt] at tried
      obtain ⟨attempt, faithful, rfl, rfl⟩ := Attempt.exists_of_traces tried
      have applies : (Block.transaction (.migration m) attempt).Applies ledger (m :: rest) :=
        ⟨m, List.mem_cons_self, attempt, faithful, rfl⟩
      cases outcome : attempt.answer with
      | error error =>
          rw [outcome] at trace
          obtain ⟨rfl, rfl⟩ := trace
          refine ⟨[.transaction (.migration m) attempt], rfl, ?_, ?_⟩
          · exact Settled.single ⟨error, outcome⟩
          · exact List.forall_mem_singleton.mpr applies
      | ok done =>
          rw [outcome] at trace
          have fine : ¬ (Block.transaction (.migration m) attempt).Failed := by
            rintro ⟨error, failed⟩
            cases outcome.symm.trans failed
          obtain ⟨result, others, rfl⟩ := Session.traces_andThen_done trace
          obtain ⟨blocks, rfl, settled, applied⟩ := ih others
          exact ⟨.transaction (.migration m) attempt :: blocks, rfl,
            Settled.cons fine (settled.map _),
            List.forall_mem_cons.mpr ⟨applies, fun block member => (applied block member).cons⟩⟩

theorem exists_of_traces_named {reply : Except Error (List Row)} {names : List String}
    {migrations : List Migration} {exchanges : List Exchange}
    {answer : Except Error (List String)} (named : reply.bind namesOf = .ok names)
    (trace : (applyNew ledger names migrations).Traces exchanges answer) :
    ∃ applied, exchanges = applied.flatMap (Block.exchanges ledger) ∧
      Settled (.read reply :: applied) answer ∧
        ∀ block ∈ applied, block.Applies ledger migrations := by
  obtain ⟨applied, covered, settled, applies⟩ := exists_of_traces_applyNew trace
  refine ⟨applied, covered, Settled.cons ?_ settled, applies⟩
  rintro ⟨error, failed⟩
  cases named.symm.trans failed

theorem exists_of_traces_read_applyNew {migrations : List Migration}
    {exchanges : List Exchange} {answer : Except Error (List String)}
    (trace : (ledger.read.andThen fun names => applyNew ledger names migrations).Traces
      exchanges answer) :
    ∃ reply applied,
      exchanges = (Block.read reply :: applied).flatMap (Block.exchanges ledger) ∧
        Settled (.read reply :: applied) answer ∧
          ∀ block ∈ applied, block.Applies ledger migrations := by
  rcases Session.traces_andThen.mp trace with
    ⟨error, reading, rfl⟩ | ⟨_, names, later, rfl, reading, applying⟩
  · obtain ⟨reply, rfl, failed⟩ := exists_of_traces_read reading
    refine ⟨reply, [], (List.flatMap_singleton ..).symm, ?_, List.forall_mem_nil _⟩
    exact Settled.single ⟨error, failed.symm⟩
  · obtain ⟨reply, rfl, named⟩ := exists_of_traces_read reading
    obtain ⟨applied, rfl, settled⟩ := exists_of_traces_named named.symm applying
    exact ⟨reply, applied, rfl, settled⟩

/-- A run reads the names first.  If there is no ledger it creates it and
starts again. -/
theorem migrate_eq (migrations : List Migration) :
    ledger.migrate migrations = ledger.read.bind fun
      | .ok names => applyNew ledger names migrations
      | .error error =>
          if error.isUndefinedTable then
            .notify (.event (.creatingLedger ledger.schema ledger.table)) <|
              ledger.create.andThen fun () =>
                ledger.read.andThen fun names => applyNew ledger names migrations
          else .done (.error error) := by
  rw [migrate, readOrCreate, Session.andThen, Session.bind_assoc]
  congr 1
  funext reply
  rcases reply with error | names
  · by_cases missing : error.isUndefinedTable = true
    · simp only [if_pos missing, Session.bind, Session.andThen, Session.bind_assoc]
      congr 2
      funext created
      rcases created with error | ⟨⟩ <;> rfl
    · simp only [if_neg missing]
      rfl
  · rfl

/-- The blocks of a run of migrations. -/
structure Course (ledger : Ledger) (migrations : List Migration) (blocks : List Block)
    (exchanges : List Exchange) (answer : Except Error α) : Prop where
  /-- All that is asked is asked in the blocks. -/
  covered : exchanges = blocks.flatMap (Block.exchanges ledger)
  faithful : ∀ block ∈ blocks, block.Faithful ledger migrations
  /-- The names are read first. -/
  opened : ∃ reply, blocks.head? = some (.read reply)
  /-- They are read twice at most. -/
  reads : blocks.countP Block.isRead ≤ 2
  /-- The creation of the ledger is attempted once where the first reading says
  that there is none, and else never. -/
  creations : blocks.countP Block.isCreation = if blocks.head?.any Block.isMissing then 1 else 0
  /-- A block that fails is the last one, unless it is that first reading. -/
  halts : ∀ before block after, blocks = before ++ block :: after → block.Failed →
    before = [] ∧ block.isMissing = true ∨ after = [] ∧ ∃ error, answer = .error error
  /-- A failure that is answered is that of the last block. -/
  fails : ∀ error, answer = .error error → ∃ last, blocks.getLast? = some last ∧ last.Failed

namespace Course

variable {migrations : List Migration} {later : List Block} {answer : Except Error α}

/-- Where the ledger is there, or cannot be read for another reason, the names
are read and migrations are attempted. -/
theorem of_present {reply : Except Error (List Row)}
    (present : (Block.read reply).isMissing = false)
    (applies : ∀ block ∈ later, block.Applies ledger migrations)
    (settled : Settled (.read reply :: later) answer) :
    Course ledger migrations (.read reply :: later)
      ((Block.read reply :: later).flatMap (Block.exchanges ledger)) answer where
  covered := rfl
  faithful := by
    refine List.forall_mem_cons.mpr ⟨trivial, ?_⟩
    exact fun block member => (applies block member).faithful
  opened := ⟨reply, rfl⟩
  reads := by
    rw [List.countP_cons, Block.countP_isRead_of_applies applies]
    exact Nat.le_succ 1
  creations := by
    rw [List.countP_cons, Block.countP_isCreation_of_applies applies, List.head?_cons,
      Option.any_some, present]
    rfl
  halts _ _ _ split failed := .inr (settled.of_failed split failed)
  fails error failed := by
    subst failed
    obtain ⟨before, last, split, -, failed⟩ := settled
    exact ⟨last, by rw [split, List.getLast?_concat], failed⟩

/-- Where there is no ledger its creation is attempted, and unless that fails
the run starts again. -/
theorem of_missing {reply : Except Error (List Row)} {attempt : Attempt}
    (missing : (Block.read reply).isMissing = true) (faithful : attempt.Faithful ledger .creation)
    (again : later = [] ∨ ∃ reply applied, later = .read reply :: applied ∧
      ∀ block ∈ applied, block.Applies ledger migrations)
    (settled : Settled (.transaction .creation attempt :: later) answer) :
    Course ledger migrations (.read reply :: .transaction .creation attempt :: later)
      ((Block.read reply :: .transaction .creation attempt :: later).flatMap
        (Block.exchanges ledger)) answer := by
  have parts : (∀ block ∈ later, block.Faithful ledger migrations) ∧
      later.countP Block.isRead ≤ 1 ∧ later.countP Block.isCreation = 0 := by
    rcases again with rfl | ⟨reply, applied, rfl, applies⟩
    · exact ⟨List.forall_mem_nil _, Nat.zero_le 1, rfl⟩
    · rw [List.countP_cons, List.countP_cons, Block.countP_isRead_of_applies applies,
        Block.countP_isCreation_of_applies applies]
      exact ⟨List.forall_mem_cons.mpr
        ⟨trivial, fun block member => (applies block member).faithful⟩, Nat.le_refl 1, rfl⟩
  obtain ⟨others, reads, creations⟩ := parts
  refine ⟨rfl, ?_, ⟨reply, rfl⟩, ?_, ?_, ?_, ?_⟩
  · refine List.forall_mem_cons.mpr ⟨trivial, List.forall_mem_cons.mpr ⟨⟨faithful, ?_⟩, others⟩⟩
    rintro _ ⟨⟩
  · rw [List.countP_cons, List.countP_cons]
    exact Nat.succ_le_succ reads
  · rw [List.countP_cons, List.countP_cons, creations, List.head?_cons, Option.any_some, missing]
    rfl
  · intro before block after split failed
    cases before with
    | nil =>
        cases split
        exact .inl ⟨rfl, missing⟩
    | cons first before =>
        exact .inr (settled.of_failed (List.cons_eq_cons.mp split).2 failed)
  · rintro error rfl
    obtain ⟨before, last, split, -, failed⟩ := settled
    exact ⟨last, by rw [split, ← List.cons_append, List.getLast?_concat], failed⟩

end Course

theorem exists_course_of_missing {reply : Except Error (List Row)}
    (missing : (Block.read reply).isMissing = true) {migrations : List Migration}
    {exchanges : List Exchange} {answer : Except Error (List String)}
    (trace : (ledger.create.andThen fun () =>
      ledger.read.andThen fun names => applyNew ledger names migrations).Traces exchanges answer) :
    ∃ blocks, Course ledger migrations blocks
      ((Block.read reply).exchanges ledger ++ exchanges) answer := by
  rcases Session.traces_andThen.mp trace with
    ⟨error, creating, rfl⟩ | ⟨_, ⟨⟩, later, rfl, creating, restarting⟩
  · rw [Task.create_eq_attempt] at creating
    obtain ⟨attempt, faithful, rfl, failed⟩ := Attempt.exists_of_traces creating
    rw [← List.append_nil (Attempt.exchanges ..)]
    refine ⟨_, Course.of_missing missing faithful (.inl rfl) ?_⟩
    exact Settled.single ⟨error, failed.symm⟩
  · rw [Task.create_eq_attempt] at creating
    obtain ⟨attempt, faithful, rfl, created⟩ := Attempt.exists_of_traces creating
    obtain ⟨next, applied, rfl, settled, applies⟩ := exists_of_traces_read_applyNew restarting
    refine ⟨_, Course.of_missing missing faithful (.inr ⟨next, applied, rfl, applies⟩)
      (Settled.cons ?_ settled)⟩
    rintro ⟨error, failed⟩
    cases created.trans failed

/-- Every run of migrations has a course. -/
theorem exists_course {migrations : List Migration} {exchanges : List Exchange}
    {answer : Except Error (List String)}
    (trace : (ledger.migrate migrations).Traces exchanges answer) :
    ∃ blocks, Course ledger migrations blocks exchanges answer := by
  rw [migrate_eq] at trace
  obtain ⟨_, result, after, rfl, reading, going⟩ := Session.traces_bind.mp trace
  obtain ⟨reply, rfl, rfl⟩ := exists_of_traces_read reading
  cases named : reply.bind namesOf with
  | ok names =>
      have present : (Block.read reply).isMissing = false := by
        cases reply with
        | ok rows => rfl
        | error error => cases named
      rw [named] at going
      obtain ⟨applied, rfl, settled, applies⟩ := exists_of_traces_named named going
      exact ⟨_, Course.of_present present applies settled⟩
  | error error =>
      have told := isUndefinedTable_eq_isMissing named
      rw [named] at going
      by_cases missing : error.isUndefinedTable = true
      · simp only [if_pos missing, Session.traces_notify] at going
        exact exists_course_of_missing (told.symm.trans missing) going
      · simp only [if_neg missing] at going
        obtain ⟨rfl, rfl⟩ := going
        rw [Bool.not_eq_true] at missing
        refine ⟨_, Course.of_present (told.symm.trans missing) (List.forall_mem_nil _) ?_⟩
        exact Settled.single ⟨error, named⟩

/-! ## Brackets -/

/-- Transactions do not overlap, each one that is begun is ended once, and
outside of them the names are read. -/
inductive Bracketed (ledger : Ledger) : List Exchange → Prop where
  | nil : Bracketed ledger []
  | read (reply : Except Error (List Row)) {rest : List Exchange} (later : Bracketed ledger rest) :
      Bracketed ledger (⟨.query ledger.namesText [], reply⟩ :: rest)
  | refused (error : DriverError) {rest : List Exchange} (later : Bracketed ledger rest) :
      Bracketed ledger (⟨.begin, .error error⟩ :: rest)
  | transaction {inside : List Exchange} {ending : Exchange} {rest : List Exchange}
      (statements : ∀ exchange ∈ inside, exchange.request.isStatement = true)
      (ended : ending.request = .commit ∨ ending.request = .rollback)
      (later : Bracketed ledger rest) :
      Bracketed ledger (⟨.begin, .ok ()⟩ :: (inside ++ ending :: rest))

namespace Bracketed

theorem append {first second : List Exchange} (before : ledger.Bracketed first)
    (after : ledger.Bracketed second) : ledger.Bracketed (first ++ second) := by
  induction before with
  | nil => exact after
  | read reply later ih => exact .read reply ih
  | refused error later ih => exact .refused error ih
  | transaction statements ended later ih =>
      rw [List.cons_append, List.append_assoc, List.cons_append]
      exact .transaction statements ended ih

theorem of_attempt {task : Task} {attempt : Attempt} (faithful : attempt.Faithful ledger task) :
    ledger.Bracketed (attempt.exchanges ledger task) := by
  cases attempt with
  | refused error => exact .refused error .nil
  | workFailed work error ending =>
      exact .transaction (task.statements_of_traces faithful) (.inr rfl) .nil
  | entryFailed work error ending =>
      exact .transaction (Attempt.statements_entry faithful _) (.inr rfl) .nil
  | entered work rows ending =>
      exact .transaction (Attempt.statements_entry faithful _) (.inl rfl) .nil

theorem of_blocks {migrations : List Migration} {blocks : List Block}
    (faithful : ∀ block ∈ blocks, block.Faithful ledger migrations) :
    ledger.Bracketed (blocks.flatMap (Block.exchanges ledger)) := by
  induction blocks with
  | nil => exact .nil
  | cons block rest ih =>
      obtain ⟨first, others⟩ := List.forall_mem_cons.mp faithful
      refine append ?_ (ih others)
      cases block with
      | read reply => exact .read reply .nil
      | transaction task attempt => exact of_attempt first.1

end Bracketed

/-! ## After a failure -/

/-- After an error nothing is asked but the rollback of the transaction that is
open, and the answer is a failure.  That there is no ledger does not count
where it is said first. -/
def Silent (ledger : Ledger) (exchanges : List Exchange) (answer : Except Error α) : Prop :=
  ∀ before exchange after, exchanges = before ++ exchange :: after → exchange.failed = true →
    (before = [] ∧ ∃ error, exchange = ⟨.query ledger.namesText [], .error error⟩ ∧
      error.sqlState? = some "42P01") ∨
    (after = [] ∨ exchange.request.isStatement = true ∧ ∃ reply, after = [⟨.rollback, reply⟩]) ∧
      ∃ error, answer = .error error

end Ledger

/-- An exchange that fails in a transaction is inside of it or ends it. -/
theorem exists_of_transaction_split {inside before after : List Exchange}
    {last exchange : Exchange}
    (split : ⟨.begin, .ok ()⟩ :: (inside ++ [last]) = before ++ exchange :: after)
    (failed : exchange.failed = true) :
    (∃ front back, inside = front ++ exchange :: back ∧ after = back ++ [last]) ∨
      exchange = last ∧ after = [] := by
  cases before with
  | nil =>
      cases split
      cases failed
  | cons first before =>
      rcases concat_eq_append_cons (List.cons_eq_cons.mp split).2 with ⟨back, found⟩ | found
      · exact .inl ⟨before, back, found⟩
      · exact .inr found

namespace Attempt

variable {ledger : Ledger} {task : Task} {before after : List Exchange} {exchange : Exchange}

/-- Work that succeeds has no exchange that fails, so that only entering the
name can fail. -/
theorem eq_entry_of_failed {work : List Exchange} {reply : Except Error (List Row)}
    (done : (task.work ledger).Traces work (.ok ())) (stops : (task.work ledger).Stops)
    (split : work ++ [entry ledger task reply] = before ++ exchange :: after)
    (failed : exchange.failed = true) : exchange = entry ledger task reply ∧ after = [] := by
  rcases concat_eq_append_cons split with ⟨back, inside, -⟩ | found
  · obtain ⟨-, _, same⟩ := stops _ _ done before exchange back inside failed
    cases same
  · exact found

/-- After an error an attempt only rolls back, and it fails. -/
theorem of_failed {attempt : Attempt} (faithful : attempt.Faithful ledger task)
    (stops : (task.work ledger).Stops)
    (split : attempt.exchanges ledger task = before ++ exchange :: after)
    (failed : exchange.failed = true) :
    (∃ error, attempt.answer = .error error) ∧
      (after = [] ∨
        exchange.request.isStatement = true ∧ ∃ reply, after = [⟨.rollback, reply⟩]) := by
  cases attempt with
  | refused error =>
      exact ⟨⟨_, rfl⟩, .inl (singleton_eq_append_cons split).2.2⟩
  | workFailed work error ending =>
      refine ⟨⟨_, rfl⟩, ?_⟩
      rcases exists_of_transaction_split split failed with ⟨front, back, rfl, rfl⟩ | ⟨-, last⟩
      · obtain ⟨rfl, -⟩ := stops _ _ faithful front exchange back rfl failed
        exact .inr ⟨(task.asks_work ledger).of_mem_traces faithful
          (List.mem_append_right _ List.mem_cons_self), ending, rfl⟩
      · exact .inl last
  | entryFailed work error ending =>
      refine ⟨⟨_, rfl⟩, ?_⟩
      rcases exists_of_transaction_split split failed with ⟨front, back, inside, rfl⟩ | ⟨-, last⟩
      · obtain ⟨rfl, rfl⟩ := eq_entry_of_failed faithful stops inside failed
        exact .inr ⟨rfl, ending, rfl⟩
      · exact .inl last
  | entered work rows ending =>
      rcases exists_of_transaction_split split failed with ⟨front, back, inside, rfl⟩ | ⟨rfl, last⟩
      · obtain ⟨rfl, -⟩ := eq_entry_of_failed faithful stops inside failed
        cases failed
      · cases ending with
        | ok done => cases failed
        | error error => exact ⟨⟨_, rfl⟩, .inl last⟩

end Attempt

theorem Task.stops_work {ledger : Ledger} {task : Task}
    (stops : ∀ m, task = .migration m → m.body.perform.Stops) : (task.work ledger).Stops := by
  cases task with
  | creation =>
      rintro _ answer ⟨_, _, rfl, rfl, rfl⟩ before exchange after split failed
      obtain ⟨rfl, rfl, rfl⟩ := singleton_eq_append_cons split
      cases answer with
      | ok done => cases failed
      | error error => exact ⟨rfl, error, rfl⟩
  | migration m => exact stops m rfl

namespace Block

variable {ledger : Ledger} {migrations : List Migration} {before after : List Exchange}
  {exchange : Exchange}

/-- After an error a block only rolls back, and it fails. -/
theorem of_failed {block : Block} (faithful : block.Faithful ledger migrations)
    (stops : ∀ m ∈ migrations, m.body.perform.Stops)
    (split : block.exchanges ledger = before ++ exchange :: after)
    (failed : exchange.failed = true) :
    block.Failed ∧
      (after = [] ∨
        exchange.request.isStatement = true ∧ ∃ reply, after = [⟨.rollback, reply⟩]) := by
  cases block with
  | read reply =>
      obtain ⟨rfl, rfl, rfl⟩ := singleton_eq_append_cons split
      cases reply with
      | ok rows => cases failed
      | error error => exact ⟨⟨error, rfl⟩, .inl rfl⟩
  | transaction task attempt =>
      exact Attempt.of_failed faithful.1
        (Task.stops_work fun m same => stops m (faithful.2 m same)) split failed

theorem exists_of_flatMap_split {blocks : List Block}
    (split : blocks.flatMap (Block.exchanges ledger) = before ++ exchange :: after) :
    ∃ front block back inFront inBack, blocks = front ++ block :: back ∧
      block.exchanges ledger = inFront ++ exchange :: inBack ∧
        before = front.flatMap (Block.exchanges ledger) ++ inFront ∧
          after = inBack ++ back.flatMap (Block.exchanges ledger) := by
  induction blocks generalizing before with
  | nil => cases before <;> cases split
  | cons block rest ih =>
      rw [List.flatMap_cons] at split
      rcases List.append_eq_append_iff.mp split with ⟨later, rfl, place⟩ | ⟨inBack, inside, place⟩
      · obtain ⟨front, found, back, inFront, inBack, rfl, inside, rfl, rfl⟩ := ih place
        exact ⟨block :: front, found, back, inFront, inBack, rfl, inside,
          (List.append_assoc ..).symm, rfl⟩
      · cases inBack with
        | nil =>
            have place : rest.flatMap (Block.exchanges ledger) = [] ++ exchange :: after :=
              place.symm
            obtain ⟨front, found, back, inFront, inBack, rfl, inside', none, rfl⟩ := ih place
            refine ⟨block :: front, found, back, inFront, inBack, rfl, inside', ?_, rfl⟩
            rw [List.flatMap_cons, List.append_assoc, ← none, inside, List.append_nil,
              List.append_nil]
        | cons next inBack =>
            obtain ⟨rfl, rfl⟩ := List.cons_eq_cons.mp place
            exact ⟨[], block, rest, before, inBack, rfl, inside, rfl, rfl⟩

end Block

namespace Ledger

variable {ledger : Ledger}

/-- After an error a run of migrations only rolls back, and it fails, provided
that the migrations do the like. -/
theorem Course.silent {migrations : List Migration} {blocks : List Block}
    {exchanges : List Exchange} {answer : Except Error α}
    (course : Course ledger migrations blocks exchanges answer)
    (stops : ∀ m ∈ migrations, m.body.perform.Stops) : ledger.Silent exchanges answer := by
  intro before exchange after split failed
  rw [course.covered] at split
  obtain ⟨front, block, back, inFront, inBack, listed, inside, rfl, rfl⟩ :=
    Block.exists_of_flatMap_split split
  have member : block ∈ blocks := listed ▸ List.mem_append_right _ List.mem_cons_self
  obtain ⟨lost, ends⟩ := Block.of_failed (course.faithful block member) stops inside failed
  rcases course.halts front block back listed lost with ⟨rfl, missing⟩ | ⟨rfl, fails⟩
  · -- The block is the first reading, which is one exchange.
    rcases block with (error | rows) | _
    · obtain ⟨rfl, rfl, -⟩ := singleton_eq_append_cons inside
      exact .inl ⟨rfl, error, rfl, of_decide_eq_true missing⟩
    · cases missing
    · cases missing
  · rw [List.flatMap_nil, List.append_nil]
    exact .inr ⟨ends, fails⟩

/-- Whatever a run of migrations is answered, its transactions are bracketed
and outside of them it only reads names.  What it asks falls into blocks: the
reading of the names, the creation of the ledger exactly if there is none, and
transactions that do the work of a task, enter its name and commit, or roll
back where one of both failed.  After a block that fails, and after a request
that does where the migrations stop there too, there is only the rollback that
is due, and the run fails. -/
theorem migrate_disciplined {migrations : List Migration} {exchanges : List Exchange}
    {answer : Except Error (List String)}
    (trace : (ledger.migrate migrations).Traces exchanges answer) :
    ledger.Bracketed exchanges ∧
      (∃ blocks, Course ledger migrations blocks exchanges answer) ∧
        ((∀ m ∈ migrations, m.body.perform.Stops) → ledger.Silent exchanges answer) := by
  obtain ⟨blocks, course⟩ := exists_course trace
  refine ⟨?_, ⟨blocks, course⟩, course.silent⟩
  rw [course.covered]
  exact Bracketed.of_blocks course.faithful

/-- A run that creates its ledger, finds no names and is refused its migration. -/
def refusedSample : List Exchange :=
  [⟨.query (namesText {}) [], .error (.query (.server "42P01" "no such table"))⟩,
    ⟨.begin, .ok ()⟩, ⟨.batch (creation {}), .ok ()⟩,
    ⟨.query (entryText {}) [.text "init_db"], .ok []⟩, ⟨.commit, .ok ()⟩,
    ⟨.query (namesText {}) [], .ok []⟩,
    ⟨.begin, .ok ()⟩, ⟨.batch "x", .error (.other "refused")⟩, ⟨.rollback, .ok ()⟩]

/-- The transactions of such a run are bracketed, and after the refusal there is
the rollback only. -/
theorem migrate_disciplined_sample :
    (Ledger.migrate {} [⟨"a", .sql "x"⟩]).Traces refusedSample
        (.error (.migration "a" (.other "refused"))) ∧
      Bracketed {} refusedSample ∧
        Silent {} refusedSample
          (.error (.migration "a" (.other "refused")) : Except Error (List String)) := by
  have trace : (Ledger.migrate {} [⟨"a", .sql "x"⟩]).Traces refusedSample
      (.error (.migration "a" (.other "refused"))) := by
    rw [migrate_eq, read_eq, create, enter_eq]
    refine Session.traces_ask.mpr ⟨_, _, rfl, ?_⟩
    refine Session.traces_ask.mpr ⟨.ok (), _, rfl, ?_⟩
    refine Session.traces_ask.mpr ⟨.ok (), _, rfl, ?_⟩
    refine Session.traces_ask.mpr ⟨.ok [], _, rfl, ?_⟩
    refine Session.traces_ask.mpr ⟨.ok (), _, rfl, ?_⟩
    refine Session.traces_ask.mpr ⟨.ok [], _, rfl, ?_⟩
    refine Session.traces_ask.mpr ⟨.ok (), _, rfl, ?_⟩
    refine Session.traces_ask.mpr ⟨.error (.other "refused"), _, rfl, ?_⟩
    refine Session.traces_ask.mpr ⟨.ok (), _, rfl, ?_⟩
    exact ⟨rfl, rfl⟩
  obtain ⟨bracketed, -, silent⟩ := migrate_disciplined trace
  refine ⟨trace, bracketed, silent ?_⟩
  rintro m listed
  obtain rfl := List.mem_singleton.mp listed
  exact stops_runBatches none ["x"]

end Ledger

end ParamSql
