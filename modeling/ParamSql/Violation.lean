/-!
# What is wrong with a statement

A statement that says too little is refused before anything is written.
-/

namespace ParamSql

/-- Why a statement is refused. -/
inductive Violation where
  | emptyColumns
  | emptyRows
  | emptyAssignments
  | missingPredicate
  /-- A membership of this column lists no values. -/
  | emptyMembership (column : String)
  | emptyReturning
  /-- A reason in the words of the caller. -/
  | stated (reason : String)
  deriving DecidableEq, Repr

/-- The reason in words. -/
def Violation.message : Violation → String
  | emptyColumns => "empty columns"
  | emptyRows => "empty rows"
  | emptyAssignments => "empty set"
  | missingPredicate => "missing predicate"
  | emptyMembership column => "empty in-list for column \"" ++ column ++ "\""
  | emptyReturning => "empty returning columns"
  | stated reason => reason

end ParamSql
