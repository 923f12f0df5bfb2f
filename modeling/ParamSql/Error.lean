import ParamSql.Outline
import ParamSql.Violation
import ParamSql.Wire.Row

/-!
# Errors

An error says what went wrong and keeps what caused it.  The message is one
line; the causes are the messages of everything below it, from the outside in.
-/

namespace ParamSql

/-- What a connection fails with. -/
inductive DriverError where
  /-- The server refused, with the code of an SQL state. -/
  | server (code message : String)
  /-- The statement has another number of parameters. -/
  | parameterCount (expected given : Nat)
  /-- A parameter has no binary form of the type that the server expects. -/
  | parameter (index : Nat) (cause : EncodeError)
  /-- The connection is closed, or nothing can be sent over it or understood of
  what comes back: the reason in words, and what is below it. -/
  | connection (reason : String) (below : List String)

namespace DriverError

/-- The failure in words. -/
def message : DriverError → String
  | server .. => "db error"
  | parameterCount expected given =>
      "expected " ++ expected.repr ++ " parameters but got " ++ given.repr
  | parameter index _ => "error serializing parameter " ++ index.repr
  | connection reason _ => reason

/-- The messages below the failure. -/
def causes : DriverError → List String
  | server _ message => ["ERROR: " ++ message]
  | parameterCount .. => []
  | parameter _ cause => [cause.message]
  | connection _ below => below

/-- The code of the SQL state, which only a server gives. -/
def sqlState? : DriverError → Option String
  | server code _ => some code
  | _ => none

end DriverError

/-- What an operation fails with. -/
inductive Error where
  | validation (violation : Violation)
  | query (cause : DriverError)
  | migration (name : String) (cause : Error)
  | notFound (reason : String)
  | tooManyRows (expected got : Nat)
  | rowCount (expected got : Nat)
  | decode (column : String) (fault : ReadFault)
  /-- The body of a transaction failed, and so did undoing it. -/
  | rollbackFailed (cause : Error) (rollback : DriverError)
  | other (reason : String)

namespace Error

/-- The kind of an error. -/
def kind : Error → String
  | validation _ => "Validation"
  | query _ => "Query"
  | migration .. => "Migration"
  | notFound _ => "NotFound"
  | tooManyRows .. => "TooManyRows"
  | rowCount .. => "RowCount"
  | decode .. => "Decode"
  | rollbackFailed .. | other _ => "Other"

/-- The error in one line. -/
def message : Error → String
  | validation violation => "Validation error: " ++ violation.message
  | query cause => "Query error: " ++ cause.message
  | migration name cause => "Migration '" ++ name ++ "' failed: " ++ cause.message
  | notFound reason => "Not found: " ++ reason
  | tooManyRows expected got =>
      "Too many rows: expected " ++ expected.repr ++ ", got " ++ got.repr
  | rowCount expected got =>
      "Unexpected row count: expected " ++ expected.repr ++ ", got " ++ got.repr
  | decode column fault => "Decode error on column '" ++ column ++ "': " ++ fault.message
  | rollbackFailed cause rollback =>
      cause.message ++ " (rollback failed: " ++ rollback.message ++ ")"
  | other reason => reason

/-- The messages of everything below the error, from the outside in. -/
def causes : Error → List String
  | query cause => cause.message :: cause.causes
  | migration _ cause => cause.message :: cause.causes
  | _ => []

/-- The code of the SQL state that a server gave, seen through migrations. -/
def sqlState? : Error → Option String
  | query cause => cause.sqlState?
  | migration _ cause => cause.sqlState?
  | _ => none

/-- The SQL state of a table that does not exist. -/
def undefinedTable : String := "42P01"

/-- Whether a table does not exist. -/
def isUndefinedTable (error : Error) : Bool :=
  error.sqlState? = some undefinedTable

/-- Whether a statement was refused before it was written. -/
def isValidation : Error → Bool
  | validation _ => true
  | _ => false

/-- Whether a row that was expected is missing. -/
def isNotFound : Error → Bool
  | notFound _ => true
  | _ => false

/-- The parts of an error. -/
def outline : Error → Outline
  | validation violation => .call "Validation" [.atom (Text.showText violation.message)]
  | query cause => .call "Query" [.atom (Text.showText cause.message)]
  | migration name cause =>
      .fields "Migration" [("name", .atom (Text.showText name)), ("source", cause.outline)]
  | notFound reason => .call "NotFound" [.atom (Text.showText reason)]
  | tooManyRows expected got =>
      .fields "TooManyRows" [("expected", .atom expected.repr), ("got", .atom got.repr)]
  | rowCount expected got =>
      .fields "RowCount" [("expected", .atom expected.repr), ("got", .atom got.repr)]
  | decode column fault =>
      .fields "Decode" [("column", .atom (Text.showText column)),
        ("message", .atom (Text.showText fault.message))]
  | rollbackFailed cause rollback =>
      .call "Other" [.atom (Text.showText (message (.rollbackFailed cause rollback)))]
  | other reason => .call "Other" [.atom (Text.showText reason)]

end Error

/-! ## Counting rows -/

/-- Expect a number of rows. -/
def exactly {α : Type} (expected : Nat) (rows : List α) : Except Error (List α) :=
  if rows.length = expected then .ok rows else .error (.rowCount expected rows.length)

/-- Expect a single row. -/
def exactlyOne {α : Type} : List α → Except Error α
  | [] => .error (.notFound "Expected 1 row, got 0")
  | [row] => .ok row
  | rows => .error (.tooManyRows 1 rows.length)

/-- Read a column of a row. -/
def Row.column (row : Row) (name : String) (kind : CellKind) (nullable : Bool) :
    Except Error (Option Scalar) :=
  (row.read name kind nullable).mapError (.decode name)

end ParamSql
