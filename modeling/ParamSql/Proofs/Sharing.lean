import Mathlib.Data.List.Nodup
import Mathlib.Logic.Function.Basic
import Mathlib.Logic.Relation
import ParamSql.Proofs.Discipline

/-!
# A shared database

Several clients use one database, each on a connection of its own and in any
order: a step of the whole is one request of one client and the reply to it.
The database promises little.  Transactions take effect as a whole when they
are committed, one after the other, and the names in the ledger are unique: a
name is refused that the ledger has, and so is a transaction with a name that
was recorded in the meantime.  Apart from that any request can be answered with
anything, so what a client has read may be out of date at once.

This file says what one step preserves, and from it what holds after any
number of steps: no name is recorded twice, and what a client has been told is
the beginning of what its session can come to.
-/

namespace ParamSql

/-! ## Names and transactions -/

namespace Ledger

variable (ledger : Ledger)

/-- The name that an exchange has entered. -/
def entered? : Exchange → Option String
  | ⟨.query sql [.text name], .ok _⟩ => if sql = ledger.entryText then some name else none
  | _ => none

/-- The names that exchanges have entered, in order. -/
def entered (exchanges : List Exchange) : List String :=
  exchanges.filterMap ledger.entered?

/-- Whether a request reads the names, so that it changes nothing. -/
def reads : Request → Bool
  | .query sql _ => sql = ledger.namesText
  | _ => false

end Ledger

/-- The statements of the open transaction, if there is one, after an
exchange. -/
def Exchange.pendingAfter (pending : Option (List Exchange)) :
    Exchange → Option (List Exchange)
  | ⟨.begin, .ok ()⟩ => some []
  | ⟨.begin, .error _⟩ => pending
  | ⟨.commit, _⟩ | ⟨.rollback, _⟩ => none
  | statement => pending.map (· ++ [statement])

/-- The transactions that an exchange commits: the open one, or a statement
outside of a transaction, which is one by itself. -/
def Ledger.committedBy (ledger : Ledger) (pending : Option (List Exchange)) :
    Exchange → List (List Exchange)
  | ⟨.commit, .ok ()⟩ => pending.toList
  | ⟨.begin, _⟩ | ⟨.commit, .error _⟩ | ⟨.rollback, _⟩ => []
  | statement =>
      if pending.isSome || statement.failed || ledger.reads statement.request then []
      else [[statement]]

/-- What a database with unique names can answer: a name is entered only if it
is new, and a transaction is committed only if its names still are. -/
structure Ledger.Allows (ledger : Ledger) (recorded : List String)
    (pending : Option (List Exchange)) (exchange : Exchange) : Prop where
  entry : ∀ name, ledger.entered? exchange = some name →
    name ∉ recorded ∧ name ∉ ledger.entered (pending.getD [])
  commit : exchange = ⟨.commit, .ok ()⟩ →
    ∀ name ∈ ledger.entered (pending.getD []), name ∉ recorded

/-! ## Clients and their steps -/

/-- A client of the database: what it is still to do, what it has said and was
told, and the statements of its open transaction. -/
structure Client (α : Type) where
  session : Session α
  said : List Exchange := []
  pending : Option (List Exchange) := none

/-- A database with its clients, and the transactions that were committed, in
order, each with the client that did it. -/
structure Shared (ι α : Type) where
  clients : ι → Client α
  history : List (ι × List Exchange) := []

namespace Shared

variable {ι α : Type} [DecidableEq ι]

/-- Nothing was said yet. -/
def start (sessions : ι → Session α) : Shared ι α where
  clients i := { session := sessions i }

/-- The names in the ledger, which had some at the start. -/
def recorded (ledger : Ledger) (names : List String) (s : Shared ι α) : List String :=
  names ++ s.history.flatMap fun transaction => ledger.entered transaction.2

/-- The transactions of a client. -/
def historyOf (s : Shared ι α) (i : ι) : List (List Exchange) :=
  (s.history.filter fun transaction => transaction.1 = i).map Prod.snd

/-- A client goes on. -/
def moved (s : Shared ι α) (i : ι) (session : Session α) : Shared ι α :=
  { s with clients := Function.update s.clients i { s.clients i with session } }

/-- A client is answered and goes on. -/
def answered (ledger : Ledger) (s : Shared ι α) (i : ι) (exchange : Exchange)
    (session : Session α) : Shared ι α where
  clients := Function.update s.clients i {
    session
    said := (s.clients i).said ++ [exchange]
    pending := exchange.pendingAfter (s.clients i).pending }
  history := s.history ++ (ledger.committedBy (s.clients i).pending exchange).map (i, ·)

theorem clients_moved_self (s : Shared ι α) (i : ι) (session : Session α) :
    (s.moved i session).clients i = { s.clients i with session } :=
  Function.update_self ..

theorem clients_moved_of_ne (s : Shared ι α) {i j : ι} (other : j ≠ i) (session : Session α) :
    (s.moved i session).clients j = s.clients j :=
  Function.update_of_ne other ..

theorem clients_answered_self (ledger : Ledger) (s : Shared ι α) (i : ι) (exchange : Exchange)
    (session : Session α) :
    (s.answered ledger i exchange session).clients i = {
      session
      said := (s.clients i).said ++ [exchange]
      pending := exchange.pendingAfter (s.clients i).pending } :=
  Function.update_self ..

theorem clients_answered_of_ne (ledger : Ledger) (s : Shared ι α) {i j : ι} (other : j ≠ i)
    (exchange : Exchange) (session : Session α) :
    (s.answered ledger i exchange session).clients j = s.clients j :=
  Function.update_of_ne other ..

/-- One client does one thing. -/
inductive Step (ledger : Ledger) (names : List String) : Shared ι α → Shared ι α → Prop where
  | notify {s : Shared ι α} (i : ι) {notice : Notice} {rest : Session α}
      (turn : (s.clients i).session = .notify notice rest) : Step ledger names s (s.moved i rest)
  | ask {s : Shared ι α} (i : ι) (exchange : Exchange)
      {next : exchange.request.Reply → Session α}
      (turn : (s.clients i).session = .ask exchange.request next)
      (allowed : ledger.Allows (s.recorded ledger names) (s.clients i).pending exchange) :
      Step ledger names s (s.answered ledger i exchange (next exchange.reply))

end Shared

/-! ## Transactions of one client -/

/-- The statements of the open transaction after several exchanges. -/
def Exchange.pendingAfterAll (pending : Option (List Exchange)) (exchanges : List Exchange) :
    Option (List Exchange) :=
  exchanges.foldl pendingAfter pending

theorem Exchange.pendingAfterAll_concat (pending : Option (List Exchange))
    (exchanges : List Exchange) (exchange : Exchange) :
    pendingAfterAll pending (exchanges ++ [exchange]) =
      exchange.pendingAfter (pendingAfterAll pending exchanges) :=
  List.foldl_append

namespace Ledger

variable (ledger : Ledger)

/-- The transactions that exchanges commit. -/
def commits : Option (List Exchange) → List Exchange → List (List Exchange)
  | _, [] => []
  | pending, exchange :: rest =>
      ledger.committedBy pending exchange ++ commits (exchange.pendingAfter pending) rest

theorem commits_append (pending : Option (List Exchange)) (first second : List Exchange) :
    ledger.commits pending (first ++ second) =
      ledger.commits pending first ++
        ledger.commits (Exchange.pendingAfterAll pending first) second := by
  induction first generalizing pending with
  | nil => rfl
  | cons exchange rest ih =>
      rw [List.cons_append, commits, ih, commits, List.append_assoc]
      rfl

end Ledger

/-! ## What an exchange does -/

theorem Exchange.pendingAfter_statement {exchange : Exchange}
    (statement : exchange.request.isStatement = true) (pending : Option (List Exchange)) :
    exchange.pendingAfter pending = pending.map (· ++ [exchange]) := by
  rcases exchange with ⟨_ | _ | _ | _ | _ | _, reply⟩
  · cases statement
  · cases statement
  · cases statement
  · rfl
  · rfl
  · rfl

namespace Ledger

theorem committedBy_statement (ledger : Ledger) {exchange : Exchange}
    (statement : exchange.request.isStatement = true) (pending : Option (List Exchange)) :
    ledger.committedBy pending exchange =
      if pending.isSome || exchange.failed || ledger.reads exchange.request then []
      else [[exchange]] := by
  rcases exchange with ⟨_ | _ | _ | _ | _ | _, reply⟩
  · cases statement
  · cases statement
  · cases statement
  · rfl
  · rfl
  · rfl

theorem entered_concat (ledger : Ledger) (inside : List Exchange) (exchange : Exchange) :
    ledger.entered (inside ++ [exchange]) =
      ledger.entered inside ++ (ledger.entered? exchange).toList := by
  rw [entered, List.filterMap_append, List.filterMap_cons]
  cases ledger.entered? exchange <;> rfl

theorem entered_singleton (ledger : Ledger) (exchange : Exchange) :
    ledger.entered [exchange] = (ledger.entered? exchange).toList :=
  ledger.entered_concat [] exchange

namespace Allows

variable {ledger : Ledger} {recorded : List String} {pending : Option (List Exchange)}
  {exchange : Exchange}

/-- The names of the open transaction stay different. -/
theorem pending_once (allowed : ledger.Allows recorded pending exchange)
    (once : (ledger.entered (pending.getD [])).Nodup) :
    (ledger.entered ((exchange.pendingAfter pending).getD [])).Nodup := by
  by_cases statement : exchange.request.isStatement = true
  · rw [Exchange.pendingAfter_statement statement]
    cases pending with
    | none => exact List.nodup_nil
    | some inside =>
        rw [Option.map_some, Option.getD_some, entered_concat]
        cases entry : ledger.entered? exchange with
        | none => simpa using once
        | some name =>
            refine List.nodup_append.mpr ⟨once, List.nodup_singleton name, ?_⟩
            rintro other member _ listed rfl
            obtain rfl := List.mem_singleton.mp listed
            exact (allowed.entry _ entry).2 member
  · rcases exchange with ⟨_ | _ | _ | _ | _ | _, reply⟩
    · rcases reply with error | ⟨⟩
      · exact once
      · exact List.nodup_nil
    · exact List.nodup_nil
    · exact List.nodup_nil
    · exact absurd rfl statement
    · exact absurd rfl statement
    · exact absurd rfl statement

/-- Names that are committed are different from each other and from those that
are recorded. -/
theorem committed_once (allowed : ledger.Allows recorded pending exchange)
    (once : (ledger.entered (pending.getD [])).Nodup) :
    ((ledger.committedBy pending exchange).flatMap ledger.entered).Nodup ∧
      ∀ name ∈ (ledger.committedBy pending exchange).flatMap ledger.entered,
        name ∉ recorded := by
  have nothing : ([] : List String).Nodup ∧ ∀ name ∈ ([] : List String), name ∉ recorded :=
    ⟨List.nodup_nil, List.forall_mem_nil _⟩
  by_cases statement : exchange.request.isStatement = true
  · rw [committedBy_statement ledger statement]
    split
    · exact nothing
    · rw [List.flatMap_singleton, entered_singleton]
      cases entry : ledger.entered? exchange with
      | none => exact nothing
      | some name =>
          refine ⟨List.nodup_singleton name, ?_⟩
          exact List.forall_mem_singleton.mpr (allowed.entry name entry).1
  · rcases exchange with ⟨_ | _ | _ | _ | _ | _, reply⟩
    · exact nothing
    · rcases reply with error | ⟨⟩
      · exact nothing
      · have whole : (pending.toList).flatMap ledger.entered =
            ledger.entered (pending.getD []) := by
          cases pending with
          | none => rfl
          | some inside => exact List.flatMap_singleton ..
        change (pending.toList.flatMap ledger.entered).Nodup ∧
          ∀ name ∈ pending.toList.flatMap ledger.entered, name ∉ recorded
        rw [whole]
        exact ⟨once, allowed.commit rfl⟩
    · exact nothing
    · exact absurd rfl statement
    · exact absurd rfl statement
    · exact absurd rfl statement

end Allows

end Ledger

/-! ## What a step preserves -/

namespace Shared

variable {ι α : Type} [DecidableEq ι] {ledger : Ledger} {names : List String}
  {sessions : ι → Session α} {s s' : Shared ι α}

/-- What holds of a database in use: the names are unique, the transactions are
those that the clients were told of, and each client can come to what its
session can come to after what it has said. -/
structure Consistent (ledger : Ledger) (names : List String) (sessions : ι → Session α)
    (s : Shared ι α) : Prop where
  once : (s.recorded ledger names).Nodup
  pending_once : ∀ i, (ledger.entered ((s.clients i).pending.getD [])).Nodup
  pending : ∀ i, (s.clients i).pending = Exchange.pendingAfterAll none (s.clients i).said
  history : ∀ i, s.historyOf i = ledger.commits none (s.clients i).said
  continues : ∀ i later answer, (s.clients i).session.Traces later answer →
    (sessions i).Traces ((s.clients i).said ++ later) answer

theorem consistent_start (unique : names.Nodup) (sessions : ι → Session α) :
    Consistent ledger names sessions (start sessions) where
  once := by
    rw [recorded, start, List.flatMap_nil, List.append_nil]
    exact unique
  pending_once _ := List.nodup_nil
  pending _ := rfl
  history _ := rfl
  continues _ _ _ trace := trace

theorem recorded_answered (i : ι) (exchange : Exchange) (session : Session α) :
    (s.answered ledger i exchange session).recorded ledger names =
      s.recorded ledger names ++
        (ledger.committedBy (s.clients i).pending exchange).flatMap ledger.entered := by
  rw [recorded, answered, List.flatMap_append, List.flatMap_map, recorded, List.append_assoc]

theorem historyOf_answered (i j : ι) (exchange : Exchange) (session : Session α) :
    (s.answered ledger i exchange session).historyOf j =
      s.historyOf j ++
        if j = i then ledger.committedBy (s.clients i).pending exchange else [] := by
  rw [historyOf, answered, List.filter_append, List.map_append, ← historyOf]
  congr 1
  by_cases same : j = i
  · subst same
    rw [if_pos rfl, List.filter_eq_self.mpr (by simp), List.map_map]
    exact List.map_id _
  · rw [if_neg same, List.filter_eq_nil_iff.mpr (by simpa using fun _ _ => Ne.symm same)]
    rfl

namespace Consistent

/-- A client that goes on without a request leaves all as it is. -/
theorem moved (consistent : Consistent ledger names sessions s) {i : ι} {notice : Notice}
    {rest : Session α} (turn : (s.clients i).session = .notify notice rest) :
    Consistent ledger names sessions (s.moved i rest) := by
  have kept : ∀ j, ((s.moved i rest).clients j).said = (s.clients j).said ∧
      ((s.moved i rest).clients j).pending = (s.clients j).pending := by
    intro j
    by_cases same : j = i
    · subst same
      rw [clients_moved_self]
      exact ⟨rfl, rfl⟩
    · rw [clients_moved_of_ne s same]
      exact ⟨rfl, rfl⟩
  constructor
  · exact consistent.once
  · intro j
    rw [(kept j).2]
    exact consistent.pending_once j
  · intro j
    rw [(kept j).1, (kept j).2]
    exact consistent.pending j
  · intro j
    rw [(kept j).1]
    exact consistent.history j
  · intro j later answer trace
    rw [(kept j).1]
    apply consistent.continues j
    by_cases same : j = i
    · subst same
      rw [clients_moved_self] at trace
      rw [turn]
      exact trace
    · rwa [clients_moved_of_ne s same] at trace

/-- A client that is answered adds one exchange to what it has said. -/
theorem answered (consistent : Consistent ledger names sessions s) {i : ι}
    {exchange : Exchange} {next : exchange.request.Reply → Session α}
    (turn : (s.clients i).session = .ask exchange.request next)
    (allowed : ledger.Allows (s.recorded ledger names) (s.clients i).pending exchange) :
    Consistent ledger names sessions (s.answered ledger i exchange (next exchange.reply)) := by
  constructor
  · obtain ⟨different, new⟩ := allowed.committed_once (consistent.pending_once i)
    rw [recorded_answered]
    refine List.nodup_append.mpr ⟨consistent.once, different, ?_⟩
    rintro name known _ listed rfl
    exact new name listed known
  · intro j
    by_cases same : j = i
    · subst same
      rw [clients_answered_self]
      exact allowed.pending_once (consistent.pending_once j)
    · rw [clients_answered_of_ne ledger s same]
      exact consistent.pending_once j
  · intro j
    by_cases same : j = i
    · subst same
      rw [clients_answered_self, Exchange.pendingAfterAll_concat, ← consistent.pending j]
    · rw [clients_answered_of_ne ledger s same]
      exact consistent.pending j
  · intro j
    rw [historyOf_answered]
    by_cases same : j = i
    · subst same
      rw [clients_answered_self, if_pos rfl, Ledger.commits_append, ← consistent.pending j,
        consistent.history j, Ledger.commits, Ledger.commits, List.append_nil]
    · rw [clients_answered_of_ne ledger s same, if_neg same, List.append_nil]
      exact consistent.history j
  · intro j later answer trace
    by_cases same : j = i
    · subst same
      rw [clients_answered_self] at trace ⊢
      rw [List.append_assoc, List.singleton_append]
      apply consistent.continues j
      rw [turn]
      exact ⟨exchange.reply, later, rfl, trace⟩
    · rw [clients_answered_of_ne ledger s same] at trace ⊢
      exact consistent.continues j later answer trace

theorem step (consistent : Consistent ledger names sessions s)
    (step : Step ledger names s s') : Consistent ledger names sessions s' := by
  cases step with
  | notify i turn => exact consistent.moved turn
  | ask i exchange turn allowed => exact consistent.answered turn allowed

end Consistent

/-- Whatever the clients do and in whatever order, the database stays
consistent. -/
theorem consistent_of_reachable (unique : names.Nodup)
    (reached : Relation.ReflTransGen (Step ledger names) (start sessions) s) :
    Consistent ledger names sessions s := by
  induction reached with
  | refl => exact consistent_start unique sessions
  | tail _ step ih => exact ih.step step

end Shared

end ParamSql
