import Mathlib.Data.List.Forall2
import Mathlib.Data.List.Pairwise
import ParamSql.Proofs.Sharing

/-!
# Migrations are applied once by all

Several runs of migrations share a database.  Each decides from names that it
has read what there is to apply, and by the time it applies a migration another
run may have done so.  What keeps a migration from being applied twice is that
its work and the entry of its name are one transaction, and that names are
unique.

The main result is about every state that such runs can come to, in whatever
order their requests are answered: no name is recorded twice, the transactions
that were committed and the names that were recorded since the start belong to
the same tasks, and a run that attempts a task too late leaves nothing of it
and fails.
-/

namespace ParamSql

theorem exists_forall₂ {α β : Type} {related : α → β → Prop} {list : List α}
    (each : ∀ a ∈ list, ∃ b, related a b) : ∃ others, List.Forall₂ related list others := by
  induction list with
  | nil => exact ⟨[], .nil⟩
  | cons a rest ih =>
      obtain ⟨⟨b, found⟩, tail⟩ := List.forall_mem_cons.mp each
      obtain ⟨others, paired⟩ := ih tail
      exact ⟨b :: others, .cons found paired⟩

/-- Whatever a session asks, there are replies by which it comes to an
answer. -/
theorem Session.exists_traces {α : Type} (session : Session α) :
    ∃ exchanges answer, session.Traces exchanges answer := by
  induction session with
  | done answer => exact ⟨[], answer, rfl, rfl⟩
  | notify notice rest ih => exact ih
  | ask request next ih =>
      obtain ⟨reply⟩ : Nonempty request.Reply := by
        cases request with
        | begin => exact ⟨.ok ()⟩
        | commit => exact ⟨.ok ()⟩
        | rollback => exact ⟨.ok ()⟩
        | batch sql => exact ⟨.ok ()⟩
        | query sql params => exact ⟨.ok []⟩
        | execute sql params => exact ⟨.ok 0⟩
      obtain ⟨exchanges, answer, trace⟩ := ih reply
      exact ⟨⟨request, reply⟩ :: exchanges, answer, reply, exchanges, rfl, trace⟩

/-! ## What a run leaves -/

theorem Ledger.commits_statements (ledger : Ledger) {inside : List Exchange}
    (statements : ∀ exchange ∈ inside, exchange.request.isStatement = true)
    (pending : List Exchange) :
    ledger.commits (some pending) inside = [] ∧
      Exchange.pendingAfterAll (some pending) inside = some (pending ++ inside) := by
  induction inside generalizing pending with
  | nil => exact ⟨rfl, congrArg some (List.append_nil pending).symm⟩
  | cons exchange rest ih =>
      obtain ⟨first, others⟩ := List.forall_mem_cons.mp statements
      obtain ⟨nothing, open_rest⟩ := ih others (pending ++ [exchange])
      constructor
      · rw [commits, ledger.committedBy_statement first, Exchange.pendingAfter_statement first]
        exact nothing
      · rw [Exchange.pendingAfterAll, List.foldl_cons, Exchange.pendingAfter_statement first]
        refine open_rest.trans ?_
        rw [List.append_assoc, List.singleton_append]

/-- A transaction is closed by its ending, and it is committed if that is a
commit that succeeds. -/
theorem Ledger.commits_transaction (ledger : Ledger) {inside : List Exchange}
    (statements : ∀ exchange ∈ inside, exchange.request.isStatement = true) (ending : Exchange)
    (ended : ending.request = .commit ∨ ending.request = .rollback) :
    ledger.commits none (⟨.begin, .ok ()⟩ :: (inside ++ [ending])) =
        ledger.committedBy (some inside) ending ∧
      Exchange.pendingAfterAll none (⟨.begin, .ok ()⟩ :: (inside ++ [ending])) = none := by
  obtain ⟨nothing, pending⟩ := ledger.commits_statements statements []
  have begun : ledger.commits none (⟨.begin, .ok ()⟩ :: (inside ++ [ending])) =
      ledger.commits (some []) (inside ++ [ending]) := rfl
  constructor
  · rw [begun, commits_append, nothing, pending, commits, commits, List.append_nil]
    rfl
  · have opened : Exchange.pendingAfterAll none (⟨.begin, .ok ()⟩ :: (inside ++ [ending])) =
        Exchange.pendingAfterAll (some []) (inside ++ [ending]) := rfl
    rw [opened, Exchange.pendingAfterAll_concat]
    rcases ending with ⟨request, reply⟩
    rcases ended with rfl | rfl
    · rfl
    · rfl

namespace Attempt

variable (ledger : Ledger) (task : Task)

/-- The transaction that an attempt leaves, if it succeeds. -/
def effects : Attempt → List (List Exchange)
  | entered work rows (.ok ()) => [work ++ [entry ledger task (.ok rows)]]
  | _ => []

variable {ledger task}

theorem exists_error_of_effects {attempt : Attempt} (nothing : attempt.effects ledger task = []) :
    ∃ error, attempt.answer = .error error := by
  cases attempt with
  | refused error => exact ⟨_, rfl⟩
  | workFailed work error ending => exact ⟨_, rfl⟩
  | entryFailed work error ending => exact ⟨_, rfl⟩
  | entered work rows ending =>
      cases ending with
      | ok done => cases nothing
      | error error => exact ⟨_, rfl⟩

/-- The exchanges of an attempt commit what it leaves, and no transaction stays
open. -/
theorem commits_exchanges {attempt : Attempt} (faithful : attempt.Faithful ledger task) :
    ledger.commits none (attempt.exchanges ledger task) = attempt.effects ledger task ∧
      Exchange.pendingAfterAll none (attempt.exchanges ledger task) = none := by
  cases attempt with
  | refused error => exact ⟨rfl, rfl⟩
  | workFailed work error ending =>
      exact ledger.commits_transaction (task.statements_of_traces faithful) _ (.inr rfl)
  | entryFailed work error ending =>
      exact ledger.commits_transaction (statements_entry faithful _) _ (.inr rfl)
  | entered work rows ending =>
      obtain ⟨left, closed⟩ := ledger.commits_transaction
        (statements_entry faithful (.ok rows)) ⟨.commit, ending⟩ (.inl rfl)
      refine ⟨left.trans ?_, closed⟩
      cases ending <;> rfl

end Attempt

namespace Block

variable (ledger : Ledger)

/-- The transactions that a block leaves; reading the names leaves none. -/
def effects : Block → List (List Exchange)
  | read _ => []
  | transaction task attempt => attempt.effects ledger task

variable {ledger}

theorem commits_exchanges {migrations : List Migration} {block : Block}
    (faithful : block.Faithful ledger migrations) :
    ledger.commits none (block.exchanges ledger) = block.effects ledger ∧
      Exchange.pendingAfterAll none (block.exchanges ledger) = none := by
  cases block with
  | transaction task attempt => exact attempt.commits_exchanges faithful.1
  | read reply =>
      have reads : ledger.reads (.query ledger.namesText []) = true := decide_eq_true rfl
      constructor
      · rw [exchanges, Ledger.commits, Ledger.committedBy_statement ledger rfl, reads,
          Bool.or_true, if_pos rfl]
        rfl
      · rfl

theorem commits_flatMap {migrations : List Migration} {blocks : List Block}
    (faithful : ∀ block ∈ blocks, block.Faithful ledger migrations) :
    ledger.commits none (blocks.flatMap (Block.exchanges ledger)) =
      blocks.flatMap (effects ledger) := by
  induction blocks with
  | nil => rfl
  | cons block rest ih =>
      obtain ⟨first, others⟩ := List.forall_mem_cons.mp faithful
      obtain ⟨left, closed⟩ := commits_exchanges first
      rw [List.flatMap_cons, Ledger.commits_append, left, closed, ih others, List.flatMap_cons]

end Block

/-! ## Tasks and names -/

/-- A migration does not enter names by itself. -/
def Migration.EntersNoName (ledger : Ledger) (migration : Migration) : Prop :=
  migration.body.perform.Asks fun request => ∀ params, request ≠ .query ledger.entryText params

/-- A text is run by another kind of request than names are entered by. -/
theorem Migration.entersNoName_sql (ledger : Ledger) (name text : String) :
    (Migration.mk name (.sql text)).EntersNoName ledger := by
  refine Session.Asks.andThen ⟨?_, fun _ => trivial⟩ fun _ => trivial
  rintro params ⟨⟩

theorem Ledger.entered?_entry (ledger : Ledger) (name : String) (rows : List Row) :
    ledger.entered? ⟨.query ledger.entryText [.text name], .ok rows⟩ = some name :=
  if_pos rfl

theorem Ledger.entered?_eq_none (ledger : Ledger) {exchange : Exchange}
    (other : ∀ params, exchange.request ≠ .query ledger.entryText params) :
    ledger.entered? exchange = none := by
  unfold Ledger.entered?
  split
  · next sql name rows =>
      refine if_neg fun same => ?_
      exact other [.text name] (by rw [same])
  · rfl

namespace Task

/-- A task is asked for by the migrations of a run; every run may create the
ledger. -/
def AskedFor (migrations : List Migration) (task : Task) : Prop :=
  ∀ m, task = .migration m → m ∈ migrations

/-- A transaction is the whole work of a task, which succeeded, and the entry
of its name. -/
def DoneBy (ledger : Ledger) (task : Task) (transaction : List Exchange) : Prop :=
  ∃ work rows, (task.work ledger).Traces work (.ok ()) ∧
    transaction = work ++ [Attempt.entry ledger task (.ok rows)]

variable {ledger : Ledger} {task : Task}

theorem entered_work {work : List Exchange} {answer : Except Error Unit}
    (trace : (task.work ledger).Traces work answer)
    (apart : ∀ m, task = .migration m → m.EntersNoName ledger) : ledger.entered work = [] := by
  have other : (task.work ledger).Asks fun request =>
      ∀ params, request ≠ .query ledger.entryText params := by
    cases task with
    | creation =>
        constructor
        · rintro params ⟨⟩
        · exact fun _ => trivial
    | migration m => exact apart m rfl
  refine List.filterMap_eq_nil_iff.mpr fun exchange member => ?_
  exact ledger.entered?_eq_none (other.of_mem_traces trace member)

/-- The transaction of a task enters the name of the task. -/
theorem DoneBy.sublist_entered {transaction : List Exchange}
    (done : task.DoneBy ledger transaction) :
    [task.name ledger].Sublist (ledger.entered transaction) := by
  obtain ⟨work, rows, trace, rfl⟩ := done
  rw [Ledger.entered_concat, Attempt.entry, Ledger.entered?_entry]
  exact List.sublist_append_right ..

/-- It enters no other name if the work enters none. -/
theorem DoneBy.entered {transaction : List Exchange} (done : task.DoneBy ledger transaction)
    (apart : ∀ m, task = .migration m → m.EntersNoName ledger) :
    ledger.entered transaction = [task.name ledger] := by
  obtain ⟨work, rows, trace, rfl⟩ := done
  rw [Ledger.entered_concat, entered_work trace apart, Attempt.entry, Ledger.entered?_entry]
  rfl

end Task

theorem Attempt.doneBy {ledger : Ledger} {task : Task} {attempt : Attempt}
    (faithful : attempt.Faithful ledger task) {transaction : List Exchange}
    (left : transaction ∈ attempt.effects ledger task) : task.DoneBy ledger transaction := by
  rcases attempt with _ | _ | _ | ⟨work, rows, error | done⟩
  · cases left
  · cases left
  · cases left
  · cases left
  · obtain rfl := List.mem_singleton.mp left
    exact ⟨work, rows, faithful, rfl⟩

theorem Block.exists_doneBy {ledger : Ledger} {migrations : List Migration} {block : Block}
    (faithful : block.Faithful ledger migrations) {transaction : List Exchange}
    (left : transaction ∈ block.effects ledger) :
    ∃ task : Task, task.DoneBy ledger transaction ∧ task.AskedFor migrations := by
  cases block with
  | read reply => cases left
  | transaction task attempt => exact ⟨task, Attempt.doneBy faithful.1 left, faithful.2⟩

/-- Transactions that are done for tasks enter the names of these tasks, in
order. -/
theorem Task.sublist_history {ι : Type} {ledger : Ledger} {runs : ι → List Migration}
    {history : List (ι × List Exchange)} {tasks : List Task}
    (paired : List.Forall₂ (fun transaction task =>
      task.DoneBy ledger transaction.2 ∧ task.AskedFor (runs transaction.1)) history tasks) :
    (tasks.map (Task.name ledger)).Sublist
      (history.flatMap fun transaction => ledger.entered transaction.2) := by
  induction paired with
  | nil => exact List.Sublist.slnil
  | cons done _ ih =>
      rw [List.flatMap_cons, List.map_cons]
      exact done.1.sublist_entered.append ih

theorem Task.entered_history {ι : Type} {ledger : Ledger} {runs : ι → List Migration}
    (apart : ∀ i, ∀ m ∈ runs i, m.EntersNoName ledger) {history : List (ι × List Exchange)}
    {tasks : List Task}
    (paired : List.Forall₂ (fun transaction task =>
      task.DoneBy ledger transaction.2 ∧ task.AskedFor (runs transaction.1)) history tasks) :
    (history.flatMap fun transaction => ledger.entered transaction.2) =
      tasks.map (Task.name ledger) := by
  induction paired with
  | nil => rfl
  | @cons transaction task _ _ done _ ih =>
      have entered := done.1.entered fun m same => apart transaction.1 m (done.2 m same)
      rw [List.flatMap_cons, ih, entered]
      rfl

/-! ## All runs together -/

namespace Shared

variable {ι : Type} [DecidableEq ι] {ledger : Ledger} {names : List String}
  {runs : ι → List Migration} {s : Shared ι (Except Error (List String))}

/-- A name that others have taken: it was there at the start, or another client
has recorded it. -/
def Taken (ledger : Ledger) (names : List String) (s : Shared ι (Except Error (List String)))
    (i : ι) (name : String) : Prop :=
  name ∈ names ∨
    ∃ j, j ≠ i ∧ ∃ transaction ∈ s.historyOf j, name ∈ ledger.entered transaction

/-- What runs of migrations come to on one database. -/
structure Contended (ledger : Ledger) (names : List String) (runs : ι → List Migration)
    (s : Shared ι (Except Error (List String))) : Prop where
  /-- No name is recorded twice. -/
  once : (s.recorded ledger names).Nodup
  /-- The transactions that were committed are those of tasks, one for one, and
  the names of these tasks were recorded since the start.  They are all the
  names that were if no migration enters names by itself. -/
  paired : ∃ tasks : List Task,
    List.Forall₂ (fun transaction task =>
      task.DoneBy ledger transaction.2 ∧ task.AskedFor (runs transaction.1)) s.history tasks ∧
    (names ++ tasks.map (Task.name ledger)).Sublist (s.recorded ledger names) ∧
    ((∀ i, ∀ m ∈ runs i, m.EntersNoName ledger) →
      s.recorded ledger names = names ++ tasks.map (Task.name ledger))
  /-- A run that has come to an answer has left what its attempts left.  An
  attempt at a name that others had taken left nothing, and a run with an
  attempt that left nothing fails. -/
  settled : ∀ i answer, (s.clients i).session = .done answer →
    ∃ blocks, Ledger.Course ledger (runs i) blocks (s.clients i).said answer ∧
      s.historyOf i = blocks.flatMap (Block.effects ledger) ∧
      ∀ task attempt, Block.transaction task attempt ∈ blocks →
        (s.Taken ledger names i (task.name ledger) → attempt.effects ledger task = []) ∧
        (attempt.effects ledger task = [] → ∃ error, answer = .error error)

theorem mem_history {i : ι} {transaction : List Exchange} (member : transaction ∈ s.historyOf i) :
    (i, transaction) ∈ s.history := by
  obtain ⟨⟨j, found⟩, listed, rfl⟩ := List.mem_map.mp member
  obtain ⟨kept, same⟩ := List.mem_filter.mp listed
  obtain rfl : j = i := of_decide_eq_true same
  exact kept

theorem mem_historyOf {transaction : ι × List Exchange} (member : transaction ∈ s.history) :
    transaction.2 ∈ s.historyOf transaction.1 :=
  List.mem_map_of_mem (List.mem_filter.mpr ⟨member, decide_eq_true rfl⟩)

namespace Consistent

variable (consistent : Consistent ledger names (fun i => ledger.migrate (runs i)) s)

include consistent

/-- What a client has committed so far is done for tasks of its own: it is part
of what it commits until it has an answer, whatever that will be. -/
theorem exists_doneBy {i : ι} {transaction : List Exchange}
    (member : transaction ∈ s.historyOf i) :
    ∃ task : Task, task.DoneBy ledger transaction ∧ task.AskedFor (runs i) := by
  obtain ⟨later, answer, rest⟩ := (s.clients i).session.exists_traces
  obtain ⟨blocks, course⟩ := Ledger.exists_course (consistent.continues i later answer rest)
  have whole : transaction ∈ ledger.commits none ((s.clients i).said ++ later) := by
    rw [Ledger.commits_append, ← consistent.history i]
    exact List.mem_append_left _ member
  rw [course.covered, Block.commits_flatMap course.faithful] at whole
  obtain ⟨block, listed, left⟩ := List.mem_flatMap.mp whole
  exact Block.exists_doneBy (course.faithful block listed) left

theorem not_mem_entered_of_taken {i : ι} {name : String} (taken : s.Taken ledger names i name)
    {transaction : List Exchange} (member : transaction ∈ s.historyOf i) :
    name ∉ ledger.entered transaction := by
  intro entered
  obtain ⟨-, different, new⟩ := List.nodup_append.mp consistent.once
  rcases taken with known | ⟨j, other, second, listed, again⟩
  · exact new name known name
      (List.mem_flatMap.mpr ⟨(i, transaction), mem_history member, entered⟩) rfl
  · have symmetric : Std.Symm (Function.onFun List.Disjoint
        fun transaction : ι × List Exchange => ledger.entered transaction.2) :=
      ⟨fun _ _ disjoint _ later sooner => disjoint sooner later⟩
    have disjoint := (List.nodup_flatMap.mp different).2.forall (mem_history member)
      (mem_history listed) fun same => other (Prod.mk.inj same).1.symm
    exact disjoint entered again

/-- A run that is done has left what its attempts left. -/
theorem settled {i : ι} {answer : Except Error (List String)}
    (finished : (s.clients i).session = .done answer) :
    ∃ blocks, Ledger.Course ledger (runs i) blocks (s.clients i).said answer ∧
      s.historyOf i = blocks.flatMap (Block.effects ledger) ∧
      ∀ task attempt, Block.transaction task attempt ∈ blocks →
        (s.Taken ledger names i (task.name ledger) → attempt.effects ledger task = []) ∧
        (attempt.effects ledger task = [] → ∃ error, answer = .error error) := by
  have trace := consistent.continues i [] answer (finished ▸ ⟨rfl, rfl⟩)
  rw [List.append_nil] at trace
  obtain ⟨blocks, course⟩ := Ledger.exists_course trace
  have left : s.historyOf i = blocks.flatMap (Block.effects ledger) := by
    rw [consistent.history i, course.covered, Block.commits_flatMap course.faithful]
  refine ⟨blocks, course, left, ?_⟩
  intro task attempt listed
  constructor
  · intro taken
    refine List.eq_nil_iff_forall_not_mem.mpr fun transaction member => ?_
    have mine : transaction ∈ s.historyOf i := by
      rw [left]
      exact List.mem_flatMap.mpr ⟨_, listed, member⟩
    have done := Attempt.doneBy (course.faithful _ listed).1 member
    apply consistent.not_mem_entered_of_taken taken mine
    exact List.singleton_sublist.mp done.sublist_entered
  · intro nothing
    obtain ⟨before, after, split⟩ := List.append_of_mem listed
    rcases course.halts before _ after split (Attempt.exists_error_of_effects nothing) with
      ⟨-, missing⟩ | ⟨-, fails⟩
    · cases missing
    · exact fails

end Consistent

end Shared

/-- Runs of migrations on one database apply no migration twice, in whatever
order they are answered and whatever they read: every name is recorded once at
most, the work that took effect is that of the names that were recorded, one
for one, and a run that comes too late for a name fails and leaves nothing of
the work it did for it. -/
theorem Ledger.migrate_contended (ledger : Ledger) {names : List String} (unique : names.Nodup)
    {ι : Type} [DecidableEq ι] {runs : ι → List Migration}
    {s : Shared ι (Except Error (List String))}
    (reached : Relation.ReflTransGen (Shared.Step ledger names)
      (Shared.start fun i => ledger.migrate (runs i)) s) :
    s.Contended ledger names runs := by
  have consistent := Shared.consistent_of_reachable unique reached
  obtain ⟨tasks, paired⟩ := exists_forall₂ fun transaction member =>
    consistent.exists_doneBy (Shared.mem_historyOf member)
  constructor
  · exact consistent.once
  · use tasks, paired
    constructor
    · exact (List.append_sublist_append_left names).mpr (Task.sublist_history paired)
    · intro apart
      rw [Shared.recorded, Task.entered_history apart paired]
  · intro i answer finished
    exact consistent.settled finished

theorem Ledger.Allows.of_plain {ledger : Ledger} {recorded : List String}
    {pending : Option (List Exchange)} {exchange : Exchange}
    (nothing : ledger.entered? exchange = none) (open_still : exchange.request ≠ .commit) :
    ledger.Allows recorded pending exchange where
  entry name entered := by rw [nothing] at entered; cases entered
  commit same := absurd (congrArg Exchange.request same) open_still

/-- Two runs can both find a migration missing and do its work before one of
them enters its name. -/
theorem Ledger.exists_race :
    ∃ s : Shared Bool (Except Error (List String)),
      Relation.ReflTransGen (Shared.Step {} ["init_db"])
        (Shared.start fun _ => Ledger.migrate {} [⟨"a", .sql "x"⟩]) s ∧
      (s.clients true).session = .done (.ok ["a"]) ∧
      (s.clients false).session = .done (.error (.migration "a" (.other "taken"))) ∧
      s.recorded {} ["init_db"] = ["init_db", "a"] ∧ s.historyOf false = [] := by
  simp only [migrate_eq, read_eq, applyNew, apply, enter_eq]
  refine ⟨_, .head (.ask true ⟨.query (namesText {}) [], .ok []⟩ rfl ?_) <|
    .head (.ask false ⟨.query (namesText {}) [], .ok []⟩ rfl ?_) <|
    .head (.ask false ⟨.begin, .ok ()⟩ rfl ?_) <|
    .head (.ask false ⟨.batch "x", .ok ()⟩ rfl ?_) <|
    .head (.ask true ⟨.begin, .ok ()⟩ rfl ?_) <|
    .head (.ask true ⟨.batch "x", .ok ()⟩ rfl ?_) <|
    .head (.ask true ⟨.query (entryText {}) [.text "a"], .ok []⟩ rfl ?_) <|
    .head (.ask true ⟨.commit, .ok ()⟩ rfl ?_) <|
    .head (.notify true rfl) <|
    .head (.ask false ⟨.query (entryText {}) [.text "a"], .error (.other "taken")⟩ rfl ?_) <|
    .head (.ask false ⟨.rollback, .ok ()⟩ rfl ?_) .refl, rfl, rfl, rfl, rfl⟩
  · exact .of_plain rfl (by simp)
  · exact .of_plain rfl (by simp)
  · exact .of_plain rfl (by simp)
  · exact .of_plain rfl (by simp)
  · exact .of_plain rfl (by simp)
  · exact .of_plain rfl (by simp)
  · -- The name is new where it is entered first.
    constructor
    · intro name entered
      rw [entered?_entry] at entered
      obtain rfl := Option.some.inj entered
      change "a" ∉ ["init_db"] ∧ "a" ∉ []
      simp
    · intro same
      exact absurd (congrArg Exchange.request same) (by simp)
  · -- It still is when it is committed.
    constructor
    · intro name entered
      cases entered
    · intro committed name entered
      change name ∈ ["a"] at entered
      obtain rfl := List.mem_singleton.mp entered
      change "a" ∉ ["init_db"]
      simp
  · exact .of_plain rfl (by simp)
  · exact .of_plain rfl (by simp)

/-- Two runs find the same migration missing and both do its work.  The one
that is refused its name has committed nothing. -/
theorem Ledger.migrate_contended_sample :
    ∃ s : Shared Bool (Except Error (List String)),
      Relation.ReflTransGen (Shared.Step {} ["init_db"])
        (Shared.start fun _ => Ledger.migrate {} [⟨"a", .sql "x"⟩]) s ∧
      (s.clients true).session = .done (.ok ["a"]) ∧
      (s.clients false).session = .done (.error (.migration "a" (.other "taken"))) ∧
      s.recorded {} ["init_db"] = ["init_db", "a"] ∧ s.historyOf false = [] ∧
      (Migration.mk "a" (.sql "x")).EntersNoName {} ∧
      s.Contended {} ["init_db"] fun _ => [⟨"a", .sql "x"⟩] := by
  obtain ⟨s, reached, won, lost, recorded, nothing⟩ := Ledger.exists_race
  have apart := Migration.entersNoName_sql {} "a" "x"
  have unique := List.nodup_singleton "init_db"
  exact ⟨s, reached, won, lost, recorded, nothing, apart,
    Ledger.migrate_contended {} unique reached⟩

end ParamSql
