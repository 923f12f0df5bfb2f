import ParamSql.Calendar
import ParamSql.Json
import ParamSql.Outline
import ParamSql.Text.Hex

/-!
# Parameter values

A value is what a placeholder stands for.  It has a shown form, which names
its kind, and a JSON form, which does not.
-/

namespace ParamSql

/-- The sixteen bytes of a universally unique identifier. -/
abbrev Uuid := Vector UInt8 16

/-- The value of a parameter. -/
inductive Value where
  | null
  | bool (value : Bool)
  | int (value : Int64)
  | float (value : Binary64)
  | text (value : String)
  | bytes (value : List UInt8)
  | json (value : Json)
  | date (value : Date)
  /-- A time of day on a date, in no particular zone. -/
  | timestamp (value : Timestamp)
  /-- A time of day on a date in coordinated universal time. -/
  | instant (value : Timestamp)
  | uuid (value : Uuid)
  | textArray (value : List String)
  | intArray (value : List Int64)

namespace Value

instance : Inhabited Value := ⟨null⟩

/-- Whether the value is the null value. -/
def isNull : Value → Bool
  | null => true
  | _ => false

/-- The value of a number of 32 bits. -/
def ofSingle (value : Binary32) : Value :=
  .float value.widen

/-- The value of something that may be absent. -/
def ofOption : Option Value → Value
  | none => .null
  | some value => value

/-! ## Equality -/

/-- Equality of values of one kind; floating-point numbers are compared as
numbers. -/
def agrees : Value → Value → Bool
  | null, null => true
  | bool a, bool b => a = b
  | int a, int b => a = b
  | float a, float b => a.agrees b
  | text a, text b => a = b
  | bytes a, bytes b => a = b
  | json a, json b => a.agrees b
  | date a, date b => a = b
  | timestamp a, timestamp b => a = b
  | instant a, instant b => a = b
  | uuid a, uuid b => a = b
  | textArray a, textArray b => a = b
  | intArray a, intArray b => a = b
  | _, _ => false

/-! ## Shown form -/

/-- Shown numbers have the fewest digits, without an exponent from `0.0001` to
just below `10 ^ 16`. -/
def numerals : NumeralStyle where
  tie := .up
  positionalFrom := -4
  positionalBelow := 16
  plusSign := ""
  nan := "NaN"
  infinity := "inf"
  negativeInfinity := "-inf"

/-- A list between brackets. -/
def showList (parts : List String) : String :=
  "[" ++ ", ".intercalate parts ++ "]"

/-- The bytes of an identifier with hyphens after the 4th, 6th, 8th and 10th. -/
def uuidText (value : Uuid) : String :=
  let bytes := value.toList
  "-".intercalate [Text.hex (bytes.take 4), Text.hex ((bytes.drop 4).take 2),
    Text.hex ((bytes.drop 6).take 2), Text.hex ((bytes.drop 8).take 2),
    Text.hex (bytes.drop 10)]

/-- The kind of a value and its content. -/
def shown : Value → String
  | null => "Null"
  | bool value => "Bool(" ++ (if value then "true" else "false") ++ ")"
  | int value => "Int(" ++ value.toInt.repr ++ ")"
  | float value => "Float(" ++ numerals.write value ++ ")"
  | text value => "Text(" ++ Text.showText value ++ ")"
  | bytes value => "Bytes(" ++ showList (value.map fun b => b.toNat.repr) ++ ")"
  | json value => "Json(" ++ value.shown ++ ")"
  | date value => "Date(" ++ value.text ++ ")"
  | timestamp value => "Timestamp(" ++ value.text ++ ")"
  | instant value => "TimestampTz(" ++ value.text ++ "Z)"
  | uuid value => "Uuid(" ++ uuidText value ++ ")"
  | textArray value => "TextArray(" ++ showList (value.map Text.showText) ++ ")"
  | intArray value => "IntArray(" ++ showList (value.map fun n => n.toInt.repr) ++ ")"

/-- A list of values in the shown form. -/
def showAll (values : List Value) : String :=
  showList (values.map shown)

/-! ## JSON form -/

/-- The value as a JSON document: dates, times and identifiers are strings,
bytes are numbers. -/
def toJson : Value → Json
  | null => .null
  | bool value => .bool value
  | int value => .number (.integer value.toInt)
  | float value => .number (.float value)
  | text value => .string value
  | bytes value => .array (value.map fun b => .number (.integer b.toNat))
  | json value => value
  | date value => .string value.text
  | timestamp value => .string value.text
  | instant value => .string (value.text ++ "Z")
  | uuid value => .string (uuidText value)
  | textArray value => .array (value.map .string)
  | intArray value => .array (value.map fun n => .number (.integer n.toInt))

end Value

end ParamSql
