import ParamSql.Command
import ParamSql.Query
import ParamSql.Session

/-!
# Tables

A table has a name, a schema, a dialect and diagnostics, and a query is
compiled and run on it.  The schema and the diagnostics of the query take
precedence.  The time that compiling takes is an argument, since it is
measured by the caller.
-/

namespace ParamSql

/-- What queries are compiled for. -/
structure Table where
  name : String
  schema : String := "public"
  dialect : Dialect := .postgres
  diagnostics : Diagnostics := {}

namespace Table

/-- The diagnostics of a query, else those of the table. -/
def diagnosticsFor (table : Table) (query : Query) : Diagnostics :=
  query.diagnostics.getD table.diagnostics

/-- The name of the table in the schema of a query, else in its own. -/
def nameFor (table : Table) (query : Query) : QualifiedName :=
  ⟨query.schema.getD table.schema, table.name⟩

/-- Compile a query; a statement that is refused gives no notice. -/
def compile (table : Table) (elapsed : Duration) (query : Query) :
    Except Error (Command × List Notice) :=
  match query.statement.compile table.dialect (table.nameFor query) with
  | .error violation => .error (.validation violation)
  | .ok command => .ok ((table.diagnosticsFor query).observe elapsed command)

/-- Compile a query and ask for its rows, unless diagnostics say not to run
it. -/
def run (table : Table) (elapsed : Duration) (query : Query) :
    Session (Except Error (List Row)) :=
  match table.compile elapsed query with
  | .error error => .done (.error error)
  | .ok (command, notices) =>
      (Session.notifyAll notices).bind fun () =>
        if (table.diagnosticsFor query).suppressesExecution then .done (.ok [])
        else .request (.query command.sql command.params)

end Table

end ParamSql
