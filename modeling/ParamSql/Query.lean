import ParamSql.Diagnostics
import ParamSql.Statement

/-!
# Queries and their edits

A query is a statement together with a schema and diagnostics of its own,
which take precedence over those of the table it is run on.  Queries are built
by edits: each sets one part, a later edit of a part replaces an earlier one,
and rows are added to those that are there.
-/

namespace ParamSql

/-- A statement with what it overrides of its table. -/
structure Query where
  statement : Statement
  schema : Option String := none
  diagnostics : Option Diagnostics := none

/-- A change of one part of a query.  An edit of a part that the kind of
statement lacks changes nothing. -/
inductive Edit where
  | schema (name : String)
  | diagnostics (diagnostics : Diagnostics)
  | filter (filter : Filter)
  | memberships (chain : Chain Membership)
  | patterns (chain : Chain Pattern)
  | junction (junction : Junction)
  | returning (returning : Returning)
  | rows (rows : List Record)
  | order (key : SortKey)
  | window (window : Window)
  | limit (count : Int64)
  | offset (count : Int64)

namespace Edit

/-- Compare the columns of a row with those of a record for equality. -/
def matching (record : Record) : Edit := .filter (.ofRecord record)

/-- Compare columns of a row, from left to right. -/
def comparing (links : Chain Comparison) : Edit := .filter (.chain links)

/-- Give back all columns of the affected rows. -/
def returningAll : Edit := .returning .all

/-- Give back some columns of the affected rows. -/
def returningColumns (names : List String) : Edit := .returning (.columns names)

/-- Add one row. -/
def row (row : Record) : Edit := .rows [row]

/-- Sort by a column. -/
def orderBy (column : String) (direction : Direction) : Edit := .order ⟨column, direction⟩

end Edit

namespace Query

/-- Make one edit. -/
def edit (query : Query) : Edit → Query
  | .schema name => { query with schema := some name }
  | .diagnostics diagnostics => { query with diagnostics := some diagnostics }
  | .filter filter => onRestriction fun r => { r with filter := some filter }
  | .memberships chain => onRestriction fun r => { r with memberships := some chain }
  | .patterns chain => onRestriction fun r => { r with patterns := some chain }
  | .junction junction => onRestriction fun r => { r with junction }
  | .returning returning => onStatement (Statement.setReturning returning)
  | .rows rows => onStatement (Statement.addRows rows)
  | .order key => onSelect fun s => { s with order := some key }
  | .window window => onSelect fun s => { s with window := some window }
  | .limit count => onWindow fun w => { w with limit := some count }
  | .offset count => onWindow fun w => { w with offset := some count }
where
  /-- Change the statement. -/
  onStatement (change : Statement → Statement) : Query :=
    { query with statement := change query.statement }
  /-- Change which rows it is about. -/
  onRestriction (change : Restriction → Restriction) : Query :=
    onStatement (Statement.mapRestriction change)
  /-- Change what it selects. -/
  onSelect (change : Select → Select) : Query :=
    onStatement (Statement.mapSelect change)
  /-- Change the window; where there is none, start from one without bounds. -/
  onWindow (change : Window → Window) : Query :=
    onSelect fun s => { s with window := some (change (s.window.getD {})) }

/-- Make edits one after the other. -/
def edits (query : Query) (list : List Edit) : Query :=
  list.foldl edit query

end Query

end ParamSql
