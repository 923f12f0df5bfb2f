import ParamSql.Statement
import ParamSql.Violation

/-!
# Clauses

The clauses of a statement are its parts in the order in which they are
written.  A statement that says enough has clauses that are fragments;
together with the name of a table they make up one fragment, the whole
statement.  Clauses can also be written one by one: one cursor takes them in
order, so the placeholders are those of the whole statement.
-/

namespace ParamSql

/-- The groups of a restriction that are written, and what stands between
them. -/
structure Groups (α : Type) where
  filter : Option α
  memberships : Option α
  patterns : Option α
  junction : Junction

/-- The groups that are there, in order. -/
def Groups.present {α : Type} (groups : Groups α) : List α :=
  [groups.filter, groups.memberships, groups.patterns].filterMap id

/-- The parts of a statement. -/
inductive Clauses (α : Type) where
  | insert (columns values : α) (returning : Option α)
  | select (columns : α) (groups : Groups α) (order window : Option α)
  | update (assignments : α) (groups : Groups α) (returning : Option α)
  | delete (groups : Groups α) (returning : Option α)

/-- The name of a table with its schema. -/
structure QualifiedName where
  schema : String
  table : String
  deriving DecidableEq, Repr

/-! ## Clauses of a statement -/

/-- The groups of a restriction as fragments. -/
def Restriction.groups (restriction : Restriction) : Groups Fragment where
  filter := restriction.filter.bind Filter.fragment?
  memberships := restriction.memberships.bind (Chain.fragment? Membership.fragment)
  patterns := restriction.patterns.bind (Chain.fragment? Pattern.fragment)
  junction := restriction.junction

/-- The columns that are given back; an empty list of them is refused. -/
def returningClause : Option Returning → Except Violation (Option Fragment)
  | none => .ok none
  | some .all => .ok (some [.text "*"])
  | some (.columns []) => .error .emptyReturning
  | some (.columns names) => .ok (some (Fragment.identifiers names))

/-- The name of a column to be read; a star is not quoted. -/
def selectedColumn (column : String) : Fragment :=
  if column = "*" then [.text "*"] else [.identifier column]

/-- A row of values in the order of the columns. -/
def rowFragment (columns : List String) (row : Record) : Fragment :=
  .text "(" ::
    (Fragment.joined ", " (columns.map fun column =>
      [.parameter column ((row.get? column).getD .null)]) ++ [.text ")"])

/-- A column with the value it is set to. -/
def assignmentFragment (column : String) (value : Value) : Fragment :=
  [.identifier column, .text "=", .parameter column value]

/-- The column and direction of a sort. -/
def SortKey.fragment (key : SortKey) : Fragment :=
  [.text "ORDER BY ", .identifier key.column, .text (" " ++ key.direction.word)]

/-- A bound of a window, unless it is absent or negative. -/
def boundFragment? (keyword column : String) (bound : Option Int64) : Option Fragment :=
  match bound with
  | some count =>
      if 0 ≤ count then some [.text keyword, .parameter column (.int count)] else none
  | none => none

/-- The bounds of a window, if there are any. -/
def Window.fragment? (window : Window) : Option Fragment :=
  match [boundFragment? "LIMIT " "limit" window.limit,
      boundFragment? "OFFSET " "offset" window.offset].filterMap id with
  | [] => none
  | bounds => some (Fragment.joined " " bounds)

/-- The clauses of new rows. -/
def Insert.clauses (s : Insert) : Except Violation (Clauses Fragment) :=
  if s.columns.isEmpty then .error .emptyColumns
  else if s.rows.isEmpty then .error .emptyRows
  else (returningClause s.returning).map fun returning =>
    .insert (.text "(" :: (Fragment.identifiers s.columns ++ [.text ")"]))
      (Fragment.joined ", " (s.rows.map (rowFragment s.columns))) returning

/-- The clauses of rows to be read. -/
def Select.clauses (s : Select) : Except Violation (Clauses Fragment) :=
  if s.columns.isEmpty then .error .emptyColumns
  else match s.restriction.emptyMembership? with
  | some column => .error (.emptyMembership column)
  | none => .ok <|
    .select (Fragment.joined ", " (s.columns.map selectedColumn)) s.restriction.groups
      (s.order.map SortKey.fragment) (s.window.bind Window.fragment?)

/-- Refuse a restriction without a predicate, and one that lists no values. -/
def Restriction.check (restriction : Restriction) : Except Violation Unit :=
  if !restriction.isEffective then .error .missingPredicate
  else match restriction.emptyMembership? with
  | some column => .error (.emptyMembership column)
  | none => .ok ()

/-- The clauses of rows to be changed. -/
def Update.clauses (s : Update) : Except Violation (Clauses Fragment) :=
  if s.assignments.isEmpty then .error .emptyAssignments
  else do
    s.restriction.check
    let returning ← returningClause s.returning
    return .update
      (Fragment.joined ", " (s.assignments.entries.map fun entry =>
        assignmentFragment entry.1 entry.2))
      s.restriction.groups returning

/-- The clauses of rows to be removed. -/
def Delete.clauses (s : Delete) : Except Violation (Clauses Fragment) := do
  s.restriction.check
  let returning ← returningClause s.returning
  return .delete s.restriction.groups returning

/-- The clauses of a statement, unless it says too little. -/
def Statement.clauses : Statement → Except Violation (Clauses Fragment)
  | insert s => s.clauses
  | select s => s.clauses
  | update s => s.clauses
  | delete s => s.clauses

/-! ## The whole statement -/

/-- Schema and table, with a point between them. -/
def QualifiedName.fragment (name : QualifiedName) : Fragment :=
  [.identifier name.schema, .text ".", .identifier name.table]

/-- The condition on the rows, if there is one. -/
def Groups.condition (groups : Groups Fragment) : Fragment :=
  match groups.present with
  | [] => []
  | present => .text " WHERE " :: Fragment.joined (" " ++ groups.junction.word ++ " ") present

/-- A clause that may be absent, behind the text that opens it. -/
def optionalClause (opening : String) : Option Fragment → Fragment
  | none => []
  | some clause => .text opening :: clause

/-- The statement that clauses make up for a table. -/
def Clauses.statement (name : QualifiedName) : Clauses Fragment → Fragment
  | .insert columns values returning =>
      .text "INSERT INTO " :: (name.fragment ++ .text " " :: columns ++
        .text " VALUES " :: values ++ optionalClause " RETURNING " returning ++ [.text ";"])
  | .select columns groups order window =>
      .text "SELECT " :: (columns ++ .text " FROM " :: name.fragment ++ groups.condition ++
        optionalClause " " order ++ optionalClause " " window ++ [.text ";"])
  | .update assignments groups returning =>
      .text "UPDATE " :: (name.fragment ++ .text " SET " :: assignments ++ groups.condition ++
        optionalClause " RETURNING " returning ++ [.text ";"])
  | .delete groups returning =>
      .text "DELETE FROM " :: (name.fragment ++ groups.condition ++
        optionalClause " RETURNING " returning ++ [.text ";"])

/-! ## Writing the clauses one by one -/

section Traversal

variable {α β : Type} {m : Type → Type} [Monad m]

/-- Act on a clause that is there. -/
def onClause (act : α → m β) : Option α → m (Option β)
  | none => pure none
  | some clause => some <$> act clause

/-- Act on the groups in order. -/
def Groups.mapM (act : α → m β) (groups : Groups α) : m (Groups β) := do
  let filter ← onClause act groups.filter
  let memberships ← onClause act groups.memberships
  let patterns ← onClause act groups.patterns
  return { filter, memberships, patterns, junction := groups.junction }

/-- Act on the clauses in the order in which they are written. -/
def Clauses.mapM (act : α → m β) : Clauses α → m (Clauses β)
  | .insert columns values returning =>
      return .insert (← act columns) (← act values) (← onClause act returning)
  | .select columns groups order window =>
      return .select (← act columns) (← groups.mapM act) (← onClause act order)
        (← onClause act window)
  | .update assignments groups returning =>
      return .update (← act assignments) (← groups.mapM act) (← onClause act returning)
  | .delete groups returning =>
      return .delete (← groups.mapM act) (← onClause act returning)

end Traversal

/-- Clauses whose fragments are plain text. -/
def Clauses.ofTexts (clauses : Clauses String) : Clauses Fragment :=
  (clauses.mapM (m := Id) fun text => [Piece.text text]).run

/-- The statement that written clauses make up for a table. -/
def Clauses.assemble (dialect : Dialect) (name : QualifiedName) (clauses : Clauses String) :
    String :=
  ((clauses.ofTexts.statement name).render dialect).1

/-- Every clause as text, and the values of them all. -/
def Clauses.render (dialect : Dialect) (clauses : Clauses Fragment) :
    Clauses String × List Value :=
  let write : Fragment → StateM Cursor String := fun fragment cursor =>
    cursor.write "" fragment
  let (texts, cursor) := (clauses.mapM write).run (Cursor.start dialect)
  (texts, cursor.params.toList)

end ParamSql
