import ParamSql.Table

/-!
# Migrations

A migration has a name and a body.  The ledger of a database is a table of the
names of the migrations that were applied.  Migrating reads the ledger,
creates it if it does not exist, and applies in order each migration whose
name is not in it: the body and the entry of the name in one transaction.  The
first failure ends the run.
-/

namespace ParamSql

/-! ## Migrations -/

/-- What can be done inside of a transaction that others begin and end: a
session that runs statements. -/
structure Work where
  session : Session (Except Error Unit)
  statements : session.Asks fun request => request.isStatement = true

/-- Run texts one after the other up to the first failure. -/
def runBatches (failure : Option Error) : List String → Session (Except Error Unit)
  | [] => .done (match failure with
      | none => .ok ()
      | some error => .error error)
  | text :: rest =>
      Session.andThen (.request (.batch text)) fun () => runBatches failure rest

/-- Running texts is work for the inside of a transaction. -/
theorem asks_runBatches (failure : Option Error) (texts : List String) :
    (runBatches failure texts).Asks fun request => request.isStatement = true := by
  induction texts with
  | nil => trivial
  | cons text rest ih => exact Session.Asks.andThen ⟨rfl, fun _ => trivial⟩ fun _ => ih

/-- What a migration does. -/
inductive MigrationBody where
  /-- Run a text. -/
  | sql (text : String)
  /-- Do work that the caller wrote. -/
  | program (work : Work)

/-- Run texts one after the other, then fail if an error is given. -/
def MigrationBody.steps (texts : List String) (failure : Option Error) : MigrationBody :=
  .program ⟨runBatches failure texts, asks_runBatches failure texts⟩

/-- Do what a migration does. -/
def MigrationBody.perform : MigrationBody → Session (Except Error Unit)
  | sql text => runBatches none [text]
  | program work => work.session

/-- What a migration does neither begins nor ends a transaction. -/
theorem MigrationBody.asks_perform (body : MigrationBody) :
    body.perform.Asks fun request => request.isStatement = true := by
  cases body with
  | sql text => exact asks_runBatches none [text]
  | program work => exact work.statements

/-- A named change of a database. -/
structure Migration where
  name : String
  body : MigrationBody

/-- The parts of a migration; of a program only that it is one. -/
def Migration.outline (migration : Migration) : Outline :=
  .fields "Migration" [
    ("name", .atom (Text.showText migration.name)),
    ("body", .atom (Text.showText (match migration.body with
      | .sql text => text
      | .program _ => "<step>")))]

/-! ## The ledger -/

/-- Where the names of applied migrations are kept, and the name that its
creation is entered under. -/
structure Ledger where
  table : String := "sqmap_migrations"
  schema : String := "public"
  initialName : String := "init_db"
  deriving DecidableEq, Repr

namespace Ledger

/-- The table of names. -/
def names (ledger : Ledger) : Table :=
  { name := ledger.table, schema := ledger.schema }

/-- The statement that creates the table of names. -/
def creation (ledger : Ledger) : String :=
  "CREATE TABLE IF NOT EXISTS " ++ Dialect.postgres.quote ledger.schema ++ "." ++
    Dialect.postgres.quote ledger.table ++ " (" ++
    "\"id\" INT GENERATED ALWAYS AS IDENTITY PRIMARY KEY, " ++
    "\"created\" TIMESTAMP DEFAULT NOW(), " ++
    "\"name\" TEXT UNIQUE);"

/-- The parts of a ledger. -/
def outline (ledger : Ledger) : Outline :=
  .fields "MigrationConfig" [
    ("table", .atom (Text.showText ledger.table)),
    ("schema", .atom (Text.showText ledger.schema)),
    ("initial_migration_name", .atom (Text.showText ledger.initialName))]

/-- The query for all names, oldest first. -/
def namesQuery : Query :=
  { statement := .select { columns := ["name"], order := some { column := "id" } } }

/-- The query that enters a name. -/
def entryQuery (name : String) : Query :=
  { statement := .insert { columns := ["name"], rows := [Record.ofList [("name", .text name)]] } }

/-- The names in rows; a row with a null has none. -/
def namesOf : List Row → Except Error (List String)
  | [] => .ok []
  | row :: rest =>
      match row.column "name" .text true with
      | .error error => .error error
      | .ok cell =>
          (namesOf rest).map fun names =>
            match cell with
            | some (.text name) => name :: names
            | _ => names

/-- Read the names. -/
def read (ledger : Ledger) : Session (Except Error (List String)) :=
  (ledger.names.run .zero namesQuery).andThen fun rows => .done (namesOf rows)

/-- Enter a name. -/
def enter (ledger : Ledger) (name : String) : Session (Except Error Unit) :=
  (ledger.names.run .zero (entryQuery name)).andThen fun _ => .done (.ok ())

/-- The names of the migrations that were applied; none if there is no
ledger. -/
def applied (ledger : Ledger) : Session (Except Error (List String)) :=
  ledger.read.bind fun
    | .ok names => .done (.ok names)
    | .error error => .done (if error.isUndefinedTable then .ok [] else .error error)

/-- Create the ledger with its first entry. -/
def create (ledger : Ledger) : Session (Except Error Unit) :=
  Session.transaction <|
    Session.andThen (.request (.batch ledger.creation)) fun () =>
      ledger.enter ledger.initialName

/-- Read the names; if there is no ledger, create it and read again. -/
def readOrCreate (ledger : Ledger) : Session (Except Error (List String)) :=
  ledger.read.bind fun
    | .ok names => .done (.ok names)
    | .error error =>
        if error.isUndefinedTable then
          .notify (.event (.creatingLedger ledger.schema ledger.table)) <|
            ledger.create.andThen fun () => ledger.read
        else .done (.error error)

/-! ## Applying migrations -/

/-- Apply one migration and enter its name, both or neither. -/
def apply (ledger : Ledger) (migration : Migration) : Session (Except Error Unit) :=
  Session.transaction <| migration.body.perform.andThen fun () => ledger.enter migration.name

/-- Apply in order each migration whose name is new, and give the names of
those that were applied. -/
def applyNew (ledger : Ledger) (seen : List String) :
    List Migration → Session (Except Error (List String))
  | [] => .done (.ok [])
  | migration :: rest =>
      if migration.name ∈ seen then applyNew ledger seen rest
      else
        (ledger.apply migration).bind fun
          | .error error => .done (.error (.migration migration.name error))
          | .ok () =>
              .notify (.event (.migrationApplied migration.name)) <|
                (applyNew ledger (migration.name :: seen) rest).andThen fun names =>
                  .done (.ok (migration.name :: names))

/-- Apply the migrations that were not applied before, and give their names. -/
def migrate (ledger : Ledger) (migrations : List Migration) :
    Session (Except Error (List String)) :=
  ledger.readOrCreate.andThen fun recorded => applyNew ledger recorded migrations

end Ledger

end ParamSql
