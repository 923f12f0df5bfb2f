import ParamSql.Session

/-!
# A backend that records

The recorder keeps every statement it is asked to run and answers with
nothing: no rows, no affected rows.  Statements are counted from one, and
those with chosen numbers fail.
-/

namespace ParamSql

/-- A statement that a client asked for. -/
inductive Call where
  | query (sql : String) (params : List Value)
  | execute (sql : String) (params : List Value)
  | batch (sql : String)

/-- What has been asked for so far. -/
structure Recorder where
  calls : Array Call := #[]
  /-- The numbers of the statements that fail. -/
  failing : List Nat := []

namespace Recorder

/-- Keep a statement and answer it. -/
def record {α : Type} (recorder : Recorder) (call : Call) (answer : α) :
    Except Error α × Recorder :=
  let number := recorder.calls.size + 1
  (if number ∈ recorder.failing then .error (.other ("call " ++ number.repr ++ " failed"))
    else .ok answer,
    { recorder with calls := recorder.calls.push call })

/-- The recorder as a backend.  The ends of transactions are no statements and
succeed. -/
def backend : Backend Recorder where
  answer
    | .begin, recorder => (.ok (), recorder)
    | .commit, recorder => (.ok (), recorder)
    | .rollback, recorder => (.ok (), recorder)
    | .batch sql, recorder => recorder.record (.batch sql) ()
    | .query sql params, recorder => recorder.record (.query sql params) []
    | .execute sql params, recorder => recorder.record (.execute sql params) 0

end Recorder

end ParamSql
