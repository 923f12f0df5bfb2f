import ParamSql.Predicate

/-!
# Statements

A statement says what to insert, select, update or delete, without the table
it is about and without a dialect.
-/

namespace ParamSql

/-- Which columns of the affected rows a statement gives back. -/
inductive Returning where
  | all
  | columns (names : List String)
  deriving DecidableEq, Repr

/-- The column that rows are sorted by. -/
structure SortKey where
  column : String
  direction : Direction := .ascending
  deriving DecidableEq, Repr

/-- How many rows are skipped and how many are taken; a negative number is no
bound. -/
structure Window where
  limit : Option Int64 := none
  offset : Option Int64 := none
  deriving DecidableEq, Repr

/-- New rows.  A row gives a null for every listed column that it lacks, and
its other columns do not count. -/
structure Insert where
  columns : List String
  rows : List Record := []
  returning : Option Returning := none

/-- Rows to be read; the column `*` stands for all. -/
structure Select where
  columns : List String
  restriction : Restriction := {}
  order : Option SortKey := none
  window : Option Window := none

/-- Rows to be changed. -/
structure Update where
  assignments : Record
  restriction : Restriction := {}
  returning : Option Returning := none

/-- Rows to be removed. -/
structure Delete where
  restriction : Restriction := {}
  returning : Option Returning := none

/-- A statement of one of the four kinds. -/
inductive Statement where
  | insert (insert : Insert)
  | select (select : Select)
  | update (update : Update)
  | delete (delete : Delete)

namespace Statement

/-- What the statement does. -/
def verb : Statement → Verb
  | insert _ => .insert
  | select _ => .select
  | update _ => .update
  | delete _ => .delete

/-- Which rows the statement is about; new rows are about none. -/
def restriction? : Statement → Option Restriction
  | insert _ => none
  | select s => some s.restriction
  | update s => some s.restriction
  | delete s => some s.restriction

/-- Change which rows the statement is about, if it is about any. -/
def mapRestriction (change : Restriction → Restriction) : Statement → Statement
  | insert s => .insert s
  | select s => .select { s with restriction := change s.restriction }
  | update s => .update { s with restriction := change s.restriction }
  | delete s => .delete { s with restriction := change s.restriction }

/-- Give back columns of the affected rows, if the statement affects rows. -/
def setReturning (returning : Returning) : Statement → Statement
  | insert s => .insert { s with returning := some returning }
  | select s => .select s
  | update s => .update { s with returning := some returning }
  | delete s => .delete { s with returning := some returning }

/-- Add rows, if the statement inserts. -/
def addRows (rows : List Record) : Statement → Statement
  | insert s => .insert { s with rows := s.rows ++ rows }
  | other => other

/-- Change a statement that selects. -/
def mapSelect (change : Select → Select) : Statement → Statement
  | select s => .select (change s)
  | other => other

end Statement

end ParamSql
