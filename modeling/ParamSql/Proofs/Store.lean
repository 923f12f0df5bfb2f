import ParamSql.Proofs.Exchange
import ParamSql.Proofs.Ledger

/-!
# Transactional stores

A store is a database as far as migrations are concerned: the names in the
ledger, unless there is no ledger yet, and data of any type.  A connection to a
store works on a copy while a transaction is open.  Committing makes the copy
the store and rolling back drops it.

The three statements of the ledger act on the names.  Every other statement
acts on the data, in the way in which a given world answers it.  The results of
this file say what the parts of a run of migrations come to on such a
connection: an attempt at a task takes effect as a whole or not at all.
-/

namespace ParamSql

/-! ## Stores -/

/-- A database with a ledger.  The ledger is a row of names, some of which may
be null, unless it has not been created. -/
structure Store (δ : Type) where
  recorded : Option (List (Option String))
  data : δ

namespace Store

variable {δ : Type}

/-- The names in the ledger, without the nulls. -/
def names (store : Store δ) : List String :=
  (store.recorded.getD []).reduceOption

/-- The refusal of a statement about a ledger that does not exist. -/
def absent : Error :=
  .query (.server "42P01" "relation does not exist")

/-- The refusal of a name that the ledger already has. -/
def duplicate : Error :=
  .query (.server "23505" "duplicate key value violates unique constraint")

/-- A row of the ledger as it is read. -/
def nameRow (name : Option String) : Row where
  columns := [("name", .builtin .text)]
  cells := [name.map fun text => text.toUTF8.data.toList]

/-- Read the ledger. -/
def read (store : Store δ) : Except Error (List Row) :=
  match store.recorded with
  | none => .error absent
  | some recorded => .ok (recorded.map nameRow)

/-- Create the ledger unless it is there. -/
def create (store : Store δ) : Store δ :=
  { store with recorded := some (store.recorded.getD []) }

/-- Enter a name, once only. -/
def enter (params : List Value) (store : Store δ) : Except Error (List Row) × Store δ :=
  match store.recorded, params with
  | none, _ => (.error absent, store)
  | some recorded, [.text name] =>
      if some name ∈ recorded then (.error duplicate, store)
      else (.ok [], { store with recorded := some (recorded ++ [some name]) })
  | some _, _ => (.error (.query (.parameterCount 1 params.length)), store)

end Store

/-! ## Connections -/

/-- A connection to a store, with the copy that an open transaction works on. -/
structure Connection (δ : Type) where
  committed : Store δ
  pending : Option (Store δ) := none

namespace Connection

variable {δ ρ : Type}

/-- The store as the connection sees it. -/
def current (connection : Connection δ) : Store δ :=
  connection.pending.getD connection.committed

/-- Act on the copy of an open transaction, else on the store itself. -/
def act (action : Store δ → ρ × Store δ) (connection : Connection δ) : ρ × Connection δ :=
  let (reply, store) := action connection.current
  (reply, match connection.pending with
    | none => { connection with committed := store }
    | some _ => { connection with pending := some store })

end Connection

namespace Ledger

variable {δ : Type} (ledger : Ledger)

/-- Whether a request runs a statement of the ledger. -/
def Owns : Request → Prop
  | .batch sql => sql = ledger.creation
  | .query sql _ => sql = ledger.namesText ∨ sql = ledger.entryText
  | _ => False

variable (world : Backend δ)

/-- Answer a request that is none of the ledger's from the data. -/
def elsewhere (request : Request) (store : Store δ) : request.Reply × Store δ :=
  let (reply, data) := world.answer request store.data
  (reply, { store with data })

/-- Run statements without parameters. -/
def batch (sql : String) (store : Store δ) : Except Error Unit × Store δ :=
  if sql = ledger.creation then (.ok (), store.create) else elsewhere world (.batch sql) store

/-- Run a statement and give its rows. -/
def query (sql : String) (params : List Value) (store : Store δ) :
    Except Error (List Row) × Store δ :=
  if sql = ledger.namesText then (store.read, store)
  else if sql = ledger.entryText then store.enter params
  else elsewhere world (.query sql params) store

/-- A server that keeps a ledger, in a world that answers all other
statements. -/
def server : Backend (Connection δ) where
  answer
    | .begin, connection => (.ok (), { connection with pending := some connection.current })
    | .commit, connection => (.ok (), { committed := connection.current })
    | .rollback, connection => (.ok (), { committed := connection.committed })
    | .batch sql, connection => connection.act (ledger.batch world sql)
    | .query sql params, connection => connection.act (ledger.query world sql params)
    | .execute sql params, connection => connection.act (elsewhere world (.execute sql params))

end Ledger

/-! ## Reading -/

theorem Store.column_nameRow (name : Option String) :
    (nameRow name).column "name" .text true = .ok (name.map .text) := by
  have index : (nameRow name).columnIndex? "name" = some 0 := rfl
  have fits : CellKind.fits .text (.builtin .text) = true := rfl
  have plain : isVersionedText (WireType.builtin .text).name = false := rfl
  have cell : ∀ text : String,
      CellKind.read? .text (.builtin .text) text.toUTF8.data.toList = some (.text text) := by
    intro text
    have whole : String.fromUTF8? text.toUTF8 = some text := dif_pos text.isValidUTF8
    simpa [CellKind.read?, plain] using whole
  rw [Row.column, Row.read, index]
  cases name with
  | none => rfl
  | some text =>
      have read := cell text
      simp only [nameRow, fits, Option.map_some, List.getElem?_cons_zero, Bool.not_true,
        Bool.false_eq_true, if_false, read]
      rfl

/-- The names are read as they were entered. -/
theorem Store.namesOf_rows (recorded : List (Option String)) :
    Ledger.namesOf (recorded.map nameRow) = .ok recorded.reduceOption := by
  induction recorded with
  | nil => rfl
  | cons name rest ih =>
      rw [List.map_cons, Ledger.namesOf, column_nameRow]
      cases name with
      | none =>
          rw [ih]
          rfl
      | some text =>
          rw [ih]
          rfl

/-- A name that the ledger does not have is added at its end. -/
theorem Store.enter_new {δ : Type} {name : String} {recorded : List (Option String)}
    (new : some name ∉ recorded) (data : δ) :
    Store.enter [.text name] ⟨some recorded, data⟩ =
      (.ok [], ⟨some (recorded ++ [some name]), data⟩) :=
  if_neg new

/-! ## Statements in a transaction -/

namespace Ledger

variable {δ α : Type} (ledger : Ledger) (world : Backend δ)

theorem batch_creation (store : Store δ) :
    ledger.batch world ledger.creation store = (.ok (), store.create) :=
  if_pos rfl

theorem batch_of_ne {sql : String} (other : sql ≠ ledger.creation) (store : Store δ) :
    ledger.batch world sql store = elsewhere world (.batch sql) store :=
  if_neg other

theorem query_namesText (params : List Value) (store : Store δ) :
    ledger.query world ledger.namesText params store = (store.read, store) :=
  if_pos rfl

theorem query_entryText (params : List Value) (store : Store δ) :
    ledger.query world ledger.entryText params store = store.enter params :=
  (if_neg ledger.entryText_ne_namesText).trans (if_pos rfl)

theorem query_of_ne {sql : String} (names : sql ≠ ledger.namesText)
    (entry : sql ≠ ledger.entryText) (params : List Value) (store : Store δ) :
    ledger.query world sql params store = elsewhere world (.query sql params) store :=
  (if_neg names).trans (if_neg entry)

/-- A statement that is none of the ledger's changes the data of the copy. -/
theorem answer_of_not_owns {request : Request} (statement : request.isStatement = true)
    (other : ¬ ledger.Owns request) (store copy : Store δ) :
    (ledger.server world).answer request ⟨store, some copy⟩ =
      ((world.answer request copy.data).1,
        ⟨store, some { copy with data := (world.answer request copy.data).2 }⟩) := by
  cases request with
  | begin => cases statement
  | commit => cases statement
  | rollback => cases statement
  | batch sql =>
      exact congrArg (fun answered => (answered.1, Connection.mk store (some answered.2)))
        (batch_of_ne ledger world other copy)
  | query sql params =>
      obtain ⟨names, entry⟩ := not_or.mp other
      exact congrArg (fun answered => (answered.1, Connection.mk store (some answered.2)))
        (query_of_ne ledger world names entry params copy)
  | execute sql params => rfl

/-- Work that runs none of the ledger's statements does to the copy what it
does to the data in its world. -/
theorem outcome_apart {session : Session α}
    (statements : session.Asks fun request => request.isStatement = true)
    (apart : session.Asks fun request => ¬ ledger.Owns request) (store copy : Store δ) :
    session.outcome (ledger.server world) ⟨store, some copy⟩ =
      ((session.outcome world copy.data).1,
        ⟨store, some { copy with data := (session.outcome world copy.data).2 }⟩) := by
  induction session generalizing copy with
  | done answer => rfl
  | notify notice rest ih => exact ih statements apart copy
  | ask request branch ih =>
      rw [Session.outcome_ask, answer_of_not_owns ledger world statements.1 apart.1,
        ih _ (statements.2 _) (apart.2 _)]
      rfl

/-- A transaction that is begun on a store commits the copy of a body that
succeeds and drops that of a body that fails. -/
theorem outcome_transaction (body : Session (Except Error α)) (store : Store δ) :
    (Session.transaction body).outcome (ledger.server world) ⟨store, none⟩ =
      match body.outcome (ledger.server world) ⟨store, some store⟩ with
      | (.ok answer, connection) => (.ok answer, ⟨connection.current, none⟩)
      | (.error error, connection) => (.error error, ⟨connection.committed, none⟩) := by
  change (body.bind Session.conclude).outcome (ledger.server world) ⟨store, some store⟩ = _
  rw [Session.outcome_bind]
  rcases body.outcome (ledger.server world) ⟨store, some store⟩ with ⟨answer | answer, connection⟩
    <;> rfl

/-- A text inside of a transaction is run on the copy. -/
theorem answer_batch_pending (sql : String) (store copy : Store δ) :
    (ledger.server world).answer (.batch sql) ⟨store, some copy⟩ =
      ((ledger.batch world sql copy).1, ⟨store, some (ledger.batch world sql copy).2⟩) :=
  rfl

/-- A query inside of a transaction is answered from the copy. -/
theorem answer_query_pending (sql : String) (params : List Value) (store copy : Store δ) :
    (ledger.server world).answer (.query sql params) ⟨store, some copy⟩ =
      ((ledger.query world sql params copy).1,
        ⟨store, some (ledger.query world sql params copy).2⟩) :=
  rfl

/-- A query outside of a transaction is answered from the store. -/
theorem answer_query_idle (sql : String) (params : List Value) (store : Store δ) :
    (ledger.server world).answer (.query sql params) ⟨store, none⟩ =
      ((ledger.query world sql params store).1,
        ⟨(ledger.query world sql params store).2, none⟩) :=
  rfl

/-- Entering a name into the copy. -/
theorem outcome_enter (name : String) (store copy : Store δ) :
    (ledger.enter name).outcome (ledger.server world) ⟨store, some copy⟩ =
      ((copy.enter [.text name]).1.map fun _ => (),
        ⟨store, some (copy.enter [.text name]).2⟩) := by
  rw [enter_eq, Session.outcome_ask, answer_query_pending, query_entryText,
    Session.outcome_done]

/-- Reading the names outside of a transaction. -/
theorem outcome_read (store : Store δ) :
    ledger.read.outcome (ledger.server world) ⟨store, none⟩ =
      (store.read.bind namesOf, ⟨store, none⟩) := by
  rw [read_eq, Session.outcome_ask, answer_query_idle, query_namesText, Session.outcome_done]

end Ledger

/-! ## Migrations -/

variable {δ : Type}

/-- What a migration makes of the data of a world, unless it fails. -/
def Migration.effect (world : Backend δ) (migration : Migration) (data : δ) : Except Error δ :=
  let (result, data) := migration.body.perform.outcome world data
  result.map fun () => data

/-- A migration runs none of the ledger's statements. -/
def Migration.LeavesAlone (ledger : Ledger) (migration : Migration) : Prop :=
  migration.body.perform.Asks fun request => ¬ ledger.Owns request

/-- A store whose ledger has been created, with its first name, if there was
none. -/
def Store.opened (ledger : Ledger) (store : Store δ) : Store δ :=
  { store with recorded := some (store.recorded.getD [some ledger.initialName]) }

namespace Ledger

variable (ledger : Ledger) (world : Backend δ)

/-- A migration whose name is new is applied and entered, or leaves the store
as it was. -/
theorem outcome_apply {migration : Migration} (alone : migration.LeavesAlone ledger)
    {recorded : List (Option String)} (new : some migration.name ∉ recorded) (data : δ) :
    (ledger.apply migration).outcome (ledger.server world) ⟨⟨some recorded, data⟩, none⟩ =
      match migration.effect world data with
      | .ok changed =>
          (.ok (), ⟨⟨some (recorded ++ [some migration.name]), changed⟩, none⟩)
      | .error error => (.error error, ⟨⟨some recorded, data⟩, none⟩) := by
  have work := outcome_apart ledger world migration.body.asks_perform alone
    ⟨some recorded, data⟩ ⟨some recorded, data⟩
  rw [apply, outcome_transaction, Session.outcome_andThen, work, Migration.effect]
  rcases migration.body.perform.outcome world data with ⟨error | done, changed⟩
  · rfl
  · simp only [outcome_enter, Store.enter_new new]
    rfl

/-- A ledger that is created has its first name. -/
theorem outcome_create (data : δ) :
    ledger.create.outcome (ledger.server world) ⟨⟨none, data⟩, none⟩ =
      (.ok (), ⟨⟨some [some ledger.initialName], data⟩, none⟩) := by
  have creation : (Session.request (.batch ledger.creation)).outcome (ledger.server world)
      ⟨⟨none, data⟩, some ⟨none, data⟩⟩ = (.ok (), ⟨⟨none, data⟩, some ⟨some [], data⟩⟩) := by
    rw [Session.request, Session.outcome_ask, answer_batch_pending, batch_creation,
      Session.outcome_done]
    rfl
  rw [create, outcome_transaction, Session.outcome_andThen, creation]
  simp only [outcome_enter, Store.enter_new List.not_mem_nil]
  rfl

/-- The names are read, from a ledger that is created if need be. -/
theorem outcome_readOrCreate (store : Store δ) :
    ledger.readOrCreate.outcome (ledger.server world) ⟨store, none⟩ =
      (.ok (store.opened ledger).names, ⟨store.opened ledger, none⟩) := by
  rcases store with ⟨recorded, data⟩
  rw [readOrCreate, Session.outcome_bind, outcome_read]
  cases recorded with
  | some recorded =>
      simp only [Store.read, Except.bind, Store.namesOf_rows]
      rfl
  | none =>
      have missing : Store.absent.isUndefinedTable = true := rfl
      simp only [Store.read, Except.bind, missing, if_true, Session.outcome_notify,
        Session.outcome_andThen, outcome_create, outcome_read, Store.namesOf_rows]
      rfl

end Ledger

end ParamSql
