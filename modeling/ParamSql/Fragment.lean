import ParamSql.Dialect
import ParamSql.Value

/-!
# Fragments of statements

A fragment is a piece of a statement before a dialect is chosen: plain text,
identifiers to be quoted and parameters to be given a place.  A cursor writes
fragments in a dialect.  It numbers the parameters as it meets them and keeps
their values in that order, so the placeholders of everything that one cursor
writes are numbered without gaps and the `n`-th belongs to the `n`-th value.
-/

namespace ParamSql

/-! ## Fragments -/

/-- The smallest part of a fragment. -/
inductive Piece where
  /-- Text of the statement itself. -/
  | text (text : String)
  /-- A name that is written quoted. -/
  | identifier (name : String)
  /-- A value, meant for a column, that a placeholder stands for. -/
  | parameter (column : String) (value : Value)

/-- A part of a statement. -/
abbrev Fragment := List Piece

namespace Fragment

/-- Fragments with a text between any two of them. -/
def joined (separator : String) : List Fragment → Fragment
  | [] => []
  | [fragment] => fragment
  | fragment :: next :: rest => fragment ++ .text separator :: joined separator (next :: rest)

/-- Quoted names with commas between them. -/
def identifiers (names : List String) : Fragment :=
  joined ", " (names.map fun name => [.identifier name])

/-- The parameters of a fragment with their columns, from left to right. -/
def bindings : Fragment → List (String × Value)
  | [] => []
  | .parameter column value :: rest => (column, value) :: bindings rest
  | _ :: rest => bindings rest

@[simp]
theorem bindings_append (first second : Fragment) :
    bindings (first ++ second) = bindings first ++ bindings second := by
  induction first with
  | nil => rfl
  | cons piece rest ih => cases piece <;> simp [bindings, ih]

end Fragment

/-! ## Cursors -/

/-- The place in a statement up to which parameters have been written. -/
structure Cursor where
  dialect : Dialect
  /-- The index of the next placeholder. -/
  next : Nat
  /-- The values written so far. -/
  params : Array Value

namespace Cursor

/-- The cursor at the start of a statement. -/
def start (dialect : Dialect) : Cursor :=
  ⟨dialect, dialect.startIndex, #[]⟩

/-- Write the next placeholder behind a text and keep its value. -/
def bind (cursor : Cursor) (out column : String) (value : Value) : String × Cursor :=
  (out ++ cursor.dialect.placeholder cursor.next column,
    { cursor with next := cursor.next + 1, params := cursor.params.push value })

/-- Write a fragment behind a text. -/
def write (cursor : Cursor) (out : String) : Fragment → String × Cursor
  | [] => (out, cursor)
  | .text text :: rest => cursor.write (out ++ text) rest
  | .identifier name :: rest => cursor.write (out ++ cursor.dialect.quote name) rest
  | .parameter column value :: rest =>
      let (out, cursor) := cursor.bind out column value
      cursor.write out rest

end Cursor

/-- The text of a fragment as a statement of its own, and its values. -/
def Fragment.render (dialect : Dialect) (fragment : Fragment) : String × List Value :=
  let (sql, cursor) := (Cursor.start dialect).write "" fragment
  (sql, cursor.params.toList)

end ParamSql
