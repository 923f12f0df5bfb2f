import ParamSql.Migration
import ParamSql.Proofs.Assembly

/-!
# The statements of a ledger

A ledger is used through three statements: one creates its table, one reads
the names in it and one enters a name.  This file writes the last two out and
shows that reading and entering are single requests.

Creating the table and applying a migration are one kind of task: work that is
done and a name that is entered, in a transaction of their own.
-/

namespace ParamSql

namespace Ledger

variable (ledger : Ledger)

/-! ## Texts -/

/-- The quoted name of the table of names. -/
def quotedName : String :=
  Dialect.postgres.quote ledger.schema ++ "." ++ Dialect.postgres.quote ledger.table

/-- The statement that reads the names, oldest first. -/
def namesText : String :=
  "SELECT \"name\" FROM " ++ ledger.quotedName ++ " ORDER BY \"id\" ASC;"

/-- The statement that enters a name. -/
def entryText : String :=
  "INSERT INTO " ++ ledger.quotedName ++ " (\"name\") VALUES ($1);"

/-- Reading and entering are different statements. -/
theorem entryText_ne_namesText : ledger.entryText ≠ ledger.namesText := by
  have opened : ∀ (first : Char) (word rest : String),
      (first.toString ++ word ++ rest).toList.head? = some first := by
    intro first word rest
    simp
  have entry : ledger.entryText.toList.head? = some 'I' := by
    unfold entryText
    rw [String.append_assoc]
    exact opened 'I' "NSERT INTO " _
  have names : ledger.namesText.toList.head? = some 'S' := by
    unfold namesText
    rw [String.append_assoc]
    exact opened 'S' "ELECT \"name\" FROM " _
  intro equal
  rw [equal, names] at entry
  cases entry

/-- The query for all names is written as the statement that reads them. -/
theorem compile_namesQuery :
    ledger.names.compile .zero namesQuery =
      .ok ({ verb := .select, sql := ledger.namesText, params := [] }, []) := by
  have clauses : namesQuery.statement.clauses = .ok (.select [.identifier "name"]
      ⟨none, none, none, .and⟩
      (some [.text "ORDER BY ", .identifier "id", .text " ASC"]) none) :=
    rfl
  have text :=
    calc
      (Clauses.statement ⟨ledger.schema, ledger.table⟩ (.select [.identifier "name"]
          ⟨none, none, none, .and⟩
          (some [.text "ORDER BY ", .identifier "id", .text " ASC"]) none)).textAt .postgres 1 =
        "SELECT " ++ (Dialect.postgres.quote "name" ++ (" FROM " ++
          (Dialect.postgres.quote ledger.schema ++ ("." ++
          (Dialect.postgres.quote ledger.table ++ (" " ++ ("ORDER BY " ++
          (Dialect.postgres.quote "id" ++ (" ASC" ++ (";" ++ "")))))))))) := rfl
      _ = ("SELECT " ++ (Dialect.postgres.quote "name" ++ " FROM ")) ++ ledger.quotedName ++
          (" " ++ ("ORDER BY " ++ (Dialect.postgres.quote "id" ++ (" ASC" ++ (";" ++ ""))))) := by
        simp only [quotedName, String.append_assoc]
      _ = ledger.namesText := rfl
  rw [Table.compile, Statement.compile_eq, clauses]
  exact congrArg (fun sql => Except.ok ((⟨.select, sql, [], none⟩ : Command), [])) text

/-- The query that enters a name is written as the statement that enters it,
with the name as its parameter. -/
theorem compile_entryQuery (name : String) :
    ledger.names.compile .zero (entryQuery name) =
      .ok ({ verb := .insert, sql := ledger.entryText, params := [.text name] }, []) := by
  have clauses : (entryQuery name).statement.clauses = .ok (.insert
      [.text "(", .identifier "name", .text ")"]
      [.text "(", .parameter "name" (.text name), .text ")"] none) :=
    rfl
  have text :=
    calc
      (Clauses.statement ⟨ledger.schema, ledger.table⟩ (.insert
          [.text "(", .identifier "name", .text ")"]
          [.text "(", .parameter "name" (.text name), .text ")"] none)).textAt .postgres 1 =
        "INSERT INTO " ++ (Dialect.postgres.quote ledger.schema ++ ("." ++
          (Dialect.postgres.quote ledger.table ++ (" " ++ ("(" ++
          (Dialect.postgres.quote "name" ++ (")" ++ (" VALUES " ++ ("(" ++
          ("$1" ++ (")" ++ (";" ++ "")))))))))))) := rfl
      _ = "INSERT INTO " ++ ledger.quotedName ++ (" " ++ ("(" ++
          (Dialect.postgres.quote "name" ++ (")" ++ (" VALUES " ++ ("(" ++
          ("$1" ++ (")" ++ (";" ++ "")))))))))  := by
        simp only [quotedName, String.append_assoc]
      _ = ledger.entryText := rfl
  rw [Table.compile, Statement.compile_eq, clauses]
  exact congrArg (fun sql => Except.ok ((⟨.insert, sql, [.text name], none⟩ : Command), [])) text

/-! ## Requests -/

/-- Reading is one request; rows that cannot be read are a failure too. -/
theorem read_eq :
    ledger.read = .ask (.query ledger.namesText []) fun reply => .done (reply.bind namesOf) := by
  rw [read, Table.run, compile_namesQuery]
  refine congrArg (Session.ask _) (funext fun reply => ?_)
  cases reply <;> rfl

/-- Entering is one request; the rows it is answered with do not count. -/
theorem enter_eq (name : String) :
    ledger.enter name =
      .ask (.query ledger.entryText [.text name]) fun reply => .done (reply.map fun _ => ()) := by
  rw [enter, Table.run, compile_entryQuery]
  refine congrArg (Session.ask _) (funext fun reply => ?_)
  cases reply <;> rfl

end Ledger

/-! ## Tasks -/

/-- What is done in a transaction of its own. -/
inductive Task where
  /-- Create the table of names. -/
  | creation
  /-- Apply a migration. -/
  | migration (migration : Migration)

namespace Task

variable (ledger : Ledger)

/-- What a task does before it is entered. -/
def work : Task → Session (Except Error Unit)
  | creation => .request (.batch ledger.creation)
  | migration m => m.body.perform

/-- The name that a task is entered under. -/
def name : Task → String
  | creation => ledger.initialName
  | migration m => m.name

/-- Do the work of a task and enter its name, both or neither. -/
def attempt (task : Task) : Session (Except Error Unit) :=
  Session.transaction <| (task.work ledger).andThen fun () => ledger.enter (task.name ledger)

theorem create_eq_attempt : ledger.create = creation.attempt ledger :=
  rfl

theorem apply_eq_attempt (m : Migration) : ledger.apply m = (migration m).attempt ledger :=
  rfl

theorem asks_work (task : Task) :
    (task.work ledger).Asks fun request => request.isStatement = true := by
  cases task with
  | creation => exact ⟨rfl, fun _ => trivial⟩
  | migration m => exact m.body.asks_perform

end Task

end ParamSql
