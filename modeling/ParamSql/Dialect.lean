import ParamSql.Outline
import ParamSql.Text.Escaped
import ParamSql.Text.Quoted

/-!
# Dialects of parameterized SQL

A dialect fixes how a statement writes what is not plain text: which mark
quotes an identifier, and how the place of a parameter is spelled.  A
placeholder is a sigil followed by a decimal index, or by the column that the
parameter is for.
-/

namespace ParamSql

/-- What tells one placeholder from another. -/
inductive Numbering where
  /-- An index that starts at zero. -/
  | fromZero
  /-- An index that starts at one. -/
  | fromOne
  /-- The name of the column. -/
  | byColumn
  deriving DecidableEq, Repr

/-- The word by which an outline names a numbering. -/
def Numbering.label : Numbering → String
  | .fromZero => "ZeroBased"
  | .fromOne => "OneBased"
  | .byColumn => "Named"

/-- How identifiers are quoted and placeholders spelled. -/
structure Dialect where
  /-- The text in front of the index or column of a placeholder. -/
  sigil : String
  numbering : Numbering
  /-- The mark at both ends of an identifier. -/
  quoteMark : Char
  deriving DecidableEq, Repr

namespace Dialect

/-- The dialect of PostgreSQL: `$1`, `$2` and double quotation marks. -/
def postgres : Dialect := ⟨"$", .fromOne, '"'⟩

/-- Question marks with an index: `?1`, `?2`. -/
def positional : Dialect := ⟨"?", .fromOne, '"'⟩

/-- Dollar signs with the name of the column: `$id`. -/
def named : Dialect := ⟨"$", .byColumn, '"'⟩

instance : Inhabited Dialect := ⟨postgres⟩

/-- The index of the first parameter. -/
def startIndex (dialect : Dialect) : Nat :=
  match dialect.numbering with
  | .fromZero => 0
  | .fromOne | .byColumn => 1

/-- The placeholder of the parameter with this index, meant for this column. -/
def placeholder (dialect : Dialect) (index : Nat) (column : String) : String :=
  match dialect.numbering with
  | .fromZero | .fromOne => dialect.sigil ++ index.repr
  | .byColumn => dialect.sigil ++ column

/-- An identifier between quotation marks. -/
def quote (dialect : Dialect) (name : String) : String :=
  Text.Quoted.quote dialect.quoteMark name

/-- The parts of a dialect. -/
def outline (dialect : Dialect) : Outline :=
  .fields "Format" [
    ("prefix", .atom (Text.showText dialect.sigil)),
    ("indexing", .atom dialect.numbering.label),
    ("quote", .atom (Text.showChar dialect.quoteMark))]

end Dialect

end ParamSql
