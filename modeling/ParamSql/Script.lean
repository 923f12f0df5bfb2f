import ParamSql.Migration

/-!
# Scripts

A script is a list of steps on one connection.  A step is an action, a run of
migrations or a transaction whose body is a list of actions; the first action
that fails ends the body, and the outcomes before it are kept.
-/

namespace ParamSql

/-- How many rows an action expects. -/
inductive Expectation where
  | any
  | one
  | count (rows : Nat)

/-- A column to be read from a row. -/
structure ColumnReading where
  column : String
  kind : CellKind
  nullable : Bool

/-- A single use of a connection. -/
inductive Action where
  /-- Run a query on a table. -/
  | run (table : Table) (query : Query) (expectation : Expectation)
  /-- Run a query on a table and read columns of its rows. -/
  | read (table : Table) (query : Query) (columns : List ColumnReading)
  /-- Run a text and give its rows. -/
  | sql (text : String) (params : List Value) (expectation : Expectation)
  /-- Run a text and read columns of its rows. -/
  | readSql (text : String) (params : List Value) (columns : List ColumnReading)
  | execute (text : String) (params : List Value)
  | batch (text : String)
  /-- Read the names of the migrations that were applied. -/
  | applied (ledger : Ledger)
  | fail (error : Error)

/-- A step of a script. -/
inductive Step where
  | action (action : Action)
  | migrate (ledger : Ledger) (migrations : List Migration)
  | transaction (body : List Action)

/-- What an action or a step comes to. -/
inductive Outcome where
  | rows (count : Nat)
  | values (rows : List (List (Option Scalar)))
  | affected (count : Nat)
  | completed
  | names (names : List String)
  /-- The outcomes of the actions of a body that were completed, and how the
  transaction ended. -/
  | transaction (body : List Outcome) (ending : Except Error Unit)
  | failed (error : Error)

/-! ## Actions -/

/-- The number of rows, if it is the expected one. -/
def Expectation.check (rows : List Row) : Expectation → Except Error Nat
  | any => .ok rows.length
  | one => (exactlyOne rows).map fun _ => 1
  | count expected => (exactly expected rows).map List.length

/-- Read columns of a row, up to the first that cannot be read. -/
def Row.columnValues (columns : List ColumnReading) (row : Row) :
    Except Error (List (Option Scalar)) :=
  columns.mapM fun reading => row.column reading.column reading.kind reading.nullable

/-- Do an action. -/
def Action.perform (elapsed : Duration) : Action → Session (Except Error Outcome)
  | run table query expectation =>
      (table.run elapsed query).andThen fun rows =>
        .done ((expectation.check rows).map .rows)
  | read table query columns =>
      (table.run elapsed query).andThen fun rows =>
        .done ((rows.mapM (Row.columnValues columns)).map .values)
  | sql text params expectation =>
      Session.andThen (.request (.query text params)) fun rows =>
        .done ((expectation.check rows).map .rows)
  | readSql text params columns =>
      Session.andThen (.request (.query text params)) fun rows =>
        .done ((rows.mapM (Row.columnValues columns)).map .values)
  | execute text params =>
      Session.andThen (.request (.execute text params)) fun count =>
        .done (.ok (.affected count))
  | batch text => Session.andThen (.request (.batch text)) fun () => .done (.ok .completed)
  | applied ledger => ledger.applied.andThen fun names => .done (.ok (.names names))
  | fail error => .done (.error error)

/-- The outcome that a result is. -/
def Outcome.ofResult : Except Error Outcome → Outcome
  | .ok outcome => outcome
  | .error error => .failed error

/-! ## Steps -/

/-- Do actions up to the first that fails; also the outcomes before it. -/
def performAll (elapsed : Duration) :
    List Action → Session (List Outcome × Except Error Unit)
  | [] => .done ([], .ok ())
  | action :: rest =>
      (action.perform elapsed).bind fun
        | .error error => .done ([], .error error)
        | .ok outcome =>
            (performAll elapsed rest).bind fun (outcomes, ending) =>
              .done (outcome :: outcomes, ending)

/-- Do a step. -/
def Step.perform (elapsed : Duration) : Step → Session Outcome
  | action single =>
      (single.perform elapsed).bind fun result => .done (.ofResult result)
  | migrate ledger migrations =>
      (ledger.migrate migrations).bind fun result => .done (.ofResult (result.map .names))
  | transaction body =>
      .ask .begin fun
        | .error error => .done (.transaction [] (.error (.query error)))
        | .ok () =>
            (performAll elapsed body).bind fun (outcomes, result) =>
              (Session.conclude result).bind fun ending =>
                .done (.transaction outcomes ending)

/-- Do steps one after the other: for each its outcome, the notices that it
gave and the state of the backend after it. -/
def performSteps {σ : Type} (backend : Backend σ) (elapsed : Duration) :
    List Step → σ → List (Outcome × List Notice × σ)
  | [], _ => []
  | step :: rest, state =>
      let (outcome, after, notices) := (step.perform elapsed).run backend state
      (outcome, notices, after) :: performSteps backend elapsed rest after

end ParamSql
