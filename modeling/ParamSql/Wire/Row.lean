import ParamSql.Wire.Encoding

/-!
# Rows of answers

A row has a cell for every column: bytes in the binary form of the type of the
column, or nothing for a null.  A cell is read as one of a few kinds; the kind
has to be that of the column even where the cell is null.
-/

namespace ParamSql

/-- A row of an answer. -/
structure Row where
  columns : List (String × WireType)
  cells : List (Option (List UInt8))

/-- What a cell is read as. -/
inductive CellKind where
  | int2
  | int4
  | int8
  | bool
  | text
  deriving DecidableEq, Repr

/-- What was read from a cell. -/
inductive Scalar where
  | int (value : Int)
  | bool (value : Bool)
  | text (value : String)
  deriving DecidableEq, Repr

/-- Why a column of a row cannot be read. -/
inductive ReadFault where
  /-- There is no column of this name. -/
  | noColumn (name : String)
  /-- The cell with this index is not what it is read as. -/
  | badCell (index : Nat)
  /-- A reason in the words of the caller. -/
  | stated (reason : String)
  deriving DecidableEq, Repr

/-- The reason in words. -/
def ReadFault.message : ReadFault → String
  | noColumn name => "invalid column \x60" ++ name ++ "\x60"
  | badCell index => "error deserializing column " ++ index.repr
  | stated reason => reason

/-! ## Cells -/

/-- The natural number that bytes spell, the most significant first. -/
def ofBigEndian (bytes : List UInt8) : Nat :=
  bytes.foldl (fun n byte => 256 * n + byte.toNat) 0

/-- The integer that bytes spell in two's complement, if there are exactly so
many. -/
def readSigned? (width : Nat) (bytes : List UInt8) : Option Int :=
  if bytes.length = width then
    some ((ofBigEndian bytes : Int).bmod (Nat.pow 256 width))
  else none

/-- Whether a type has cells of a kind. -/
def CellKind.fits (kind : CellKind) (type : WireType) : Bool :=
  match kind with
  | int2 => type.isBuiltin .int2
  | int4 => type.isBuiltin .int4
  | int8 => type.isBuiltin .int8
  | bool => type.isBuiltin .bool
  | text => type.takesText

/-- What the bytes of a cell mean for a type that fits the kind. -/
def CellKind.read? (kind : CellKind) (type : WireType) (bytes : List UInt8) : Option Scalar :=
  match kind with
  | int2 => (readSigned? 2 bytes).map .int
  | int4 => (readSigned? 4 bytes).map .int
  | int8 => (readSigned? 8 bytes).map .int
  | bool =>
      match bytes with
      | [byte] => some (.bool (byte ≠ 0))
      | _ => none
  | text =>
      let content :=
        if isVersionedText type.name then
          match bytes with
          | 1 :: rest => some rest
          | _ => none
        else some bytes
      content.bind fun bytes => (String.fromUTF8? ⟨bytes.toArray⟩).map .text

/-! ## Columns -/

/-- The index of a column: the first of exactly this name, else the first
whose name differs only in the case of letters from A to Z. -/
def Row.columnIndex? (row : Row) (name : String) : Option Nat :=
  (row.columns.findIdx? fun column => column.1 = name) <|>
    (row.columns.findIdx? fun column => column.1.map Char.toLower = name.map Char.toLower)

/-- Read the cell of a column; a null is read only where it may be one. -/
def Row.read (row : Row) (name : String) (kind : CellKind) (nullable : Bool) :
    Except ReadFault (Option Scalar) :=
  match row.columnIndex? name with
  | none => .error (.noColumn name)
  | some index =>
      match row.columns[index]?, row.cells[index]? with
      | some (_, type), some cell =>
          if !kind.fits type then .error (.badCell index)
          else match cell with
          | none => if nullable then .ok none else .error (.badCell index)
          | some bytes =>
              match kind.read? type bytes with
              | some scalar => .ok (some scalar)
              | none => .error (.badCell index)
      | _, _ => .error (.badCell index)

end ParamSql
