import ParamSql.Session

/-!
# A backend with prepared replies

A rehearsal answers each statement with the next of a list of prepared
replies, and with an empty success when there are none left.  It keeps a log
of the statements in the order in which they reach the server.

A statement with parameters is prepared first: the server names the types it
expects, and each parameter is sent in the binary form of its type.  When a
transaction cannot be begun, the connection undoes it all the same: it sends a
rollback right before its next statement.
-/

namespace ParamSql

/-! ## Replies -/

/-- A refusal by the server. -/
structure ServerFailure where
  code : String
  message : String
  /-- Whether it comes only when the statement is executed, after it has been
  prepared. -/
  atExecution : Bool := false

/-- A cell of a reply, before it has the binary form of its column. -/
inductive ReplyCell where
  | null
  | int (value : Int)
  | bool (value : Bool)
  | text (value : String)
  | raw (bytes : List UInt8)

/-- A prepared reply. -/
structure ServerReply where
  failure : Option ServerFailure := none
  /-- The types of the parameters, if they are given. -/
  types : Option (List WireType) := none
  columns : List (String × WireType) := []
  rows : List (List ReplyCell) := []
  affected : Nat := 0

/-- The bytes of an integer of a column's type, wide if the type is not one of
the narrow ones. -/
def integerCell (type : WireType) (value : Int) : List UInt8 :=
  match type.builtin? with
  | some .int2 => signedBytes 2 value
  | some .int4 => signedBytes 4 value
  | _ => signedBytes 8 value

/-- The bytes of a cell in the form of its column. -/
def ReplyCell.bytes? (type : WireType) : ReplyCell → Option (List UInt8)
  | null => none
  | int value => some (integerCell type value)
  | bool value => some [if value then 1 else 0]
  | text value => some value.toUTF8.toList
  | raw bytes => some bytes

/-- The rows of a reply. -/
def ServerReply.resultRows (reply : ServerReply) : List Row :=
  reply.rows.map fun cells =>
    { columns := reply.columns
      cells := List.zipWith (fun column cell => ReplyCell.bytes? column.2 cell)
        reply.columns cells }

/-! ## Placeholders in a text -/

/-- The value of the digits at the front of a text. -/
def leadingNumber (chars : List Char) : Nat :=
  (chars.takeWhile Char.isDigit).foldl (fun n c => 10 * n + (c.toNat - '0'.toNat)) 0

/-- The largest number that directly follows a dollar sign, zero if there is
none. -/
def largestPlaceholder : List Char → Nat
  | [] => 0
  | c :: rest =>
      if c = '$' then max (leadingNumber rest) (largestPlaceholder rest)
      else largestPlaceholder rest

/-! ## The backend -/

/-- A statement that reached the server. -/
inductive LogEntry where
  | batch (sql : String)
  /-- A prepared statement, with the binary form of its parameters once they
  were sent. -/
  | query (sql : String) (params : Option (List (Option (List UInt8))))

/-- The state of a connection that is rehearsed. -/
structure Rehearsal where
  replies : List ServerReply
  /-- Whether a transaction that could not be begun still has to be undone. -/
  owesRollback : Bool := false
  log : Array LogEntry := #[]

namespace Rehearsal

/-- Take the next reply. -/
def next (state : Rehearsal) : ServerReply × Rehearsal :=
  match state.replies with
  | [] => ({}, state)
  | reply :: rest => (reply, { state with replies := rest })

/-- Put a statement on the log. -/
def enter (state : Rehearsal) (entry : LogEntry) : Rehearsal :=
  { state with log := state.log.push entry }

/-- Send the rollback that is owed; its reply does not count. -/
def settle (state : Rehearsal) : Rehearsal :=
  if state.owesRollback then
    { (state.enter (.batch "ROLLBACK")).next.2 with owesRollback := false }
  else state

/-- Run statements without parameters; they fail with any failure. -/
def batch (sql : String) (state : Rehearsal) : Except DriverError Unit × Rehearsal :=
  let (reply, state) := (state.settle.enter (.batch sql)).next
  match reply.failure with
  | some failure => (.error (.server failure.code failure.message), state)
  | none => (.ok (), state)

/-- Give every parameter the binary form of its type; the first that has none
is an error. -/
def encodeAll (index : Nat) : List Value → List WireType →
    Except DriverError (List (Option (List UInt8)))
  | value :: values, type :: types =>
      match value.encode type with
      | .error cause => .error (.parameter index cause)
      | .ok bytes => (encodeAll (index + 1) values types).map (bytes :: ·)
  | _, _ => .ok []

/-- The binary form of parameters for what a reply expects: the types that it
names, else as many texts as the statement has places for. -/
def bindParams (reply : ServerReply) (sql : String) (params : List Value) :
    Except DriverError (List (Option (List UInt8))) :=
  let expected := match reply.types with
    | some types => types.length
    | none => largestPlaceholder sql.toList
  if expected ≠ params.length then .error (.parameterCount expected params.length)
  else encodeAll 0 params (reply.types.getD (List.replicate expected (.builtin .text)))

/-- Prepare and execute a statement. -/
def prepared (sql : String) (params : List Value) (state : Rehearsal) :
    Except DriverError ServerReply × Rehearsal :=
  let (reply, state) := state.settle.next
  let refused := reply.failure.map fun failure =>
    (failure.atExecution, DriverError.server failure.code failure.message)
  match refused with
  | some (false, error) => (.error error, state.enter (.query sql none))
  | _ =>
      match bindParams reply sql params with
      | .error error => (.error error, state.enter (.query sql none))
      | .ok bytes =>
          let state := state.enter (.query sql (some bytes))
          match refused with
          | some (_, error) => (.error error, state)
          | none => (.ok reply, state)

/-- The rehearsal as a backend. -/
def backend : Backend Rehearsal where
  answer
    | .begin, state =>
        let (result, state) := state.batch "START TRANSACTION"
        (result, { state with owesRollback := !result.isOk })
    | .commit, state => state.batch "COMMIT"
    | .rollback, state => state.batch "ROLLBACK"
    | .batch sql, state =>
        let (result, state) := state.batch sql
        (result.mapError .query, state)
    | .query sql params, state =>
        let (result, state) := state.prepared sql params
        ((result.map ServerReply.resultRows).mapError .query, state)
    | .execute sql params, state =>
        let (result, state) := state.prepared sql params
        ((result.map ServerReply.affected).mapError .query, state)

end Rehearsal

end ParamSql
