import ParamSql.Number.Numeral
import ParamSql.Text.Escaped

/-!
# JSON documents

A number keeps whether it was an integer.  The members of an object that was
read stand in ascending order of their keys, each key once.  Compact text has
no blanks; the shown form names the kind of every part.
-/

namespace ParamSql

/-- A number of a document. -/
inductive JsonNumber where
  | integer (value : Int)
  | float (value : Binary64)
  deriving DecidableEq, Repr

/-- A JSON document. -/
inductive Json where
  | null
  | bool (value : Bool)
  | number (value : JsonNumber)
  | string (value : String)
  | array (elements : List Json)
  | object (members : List (String × Json))
  deriving Repr

namespace Json

instance : Inhabited Json := ⟨null⟩

/-- Put a member at its place in the order of the keys; an earlier member with
the key gives way. -/
def insertMember (key : String) (value : Json) : List (String × Json) → List (String × Json)
  | [] => [(key, value)]
  | (other, old) :: rest =>
      if key = other then (key, value) :: rest
      else if key < other then (key, value) :: (other, old) :: rest
      else (other, old) :: insertMember key value rest

/-- The object that results when members come one after the other. -/
def objectOf (members : List (String × Json)) : Json :=
  .object (members.foldl (fun sorted member => insertMember member.1 member.2 sorted) [])

/-! ## Compact text -/

/-- Numbers show the fewest digits, without an exponent from `0.00001` to just
below `10 ^ 16`; what is not finite is `null`. -/
def numerals : NumeralStyle where
  tie := .toEven
  positionalFrom := -5
  positionalBelow := 16
  plusSign := "+"
  nan := "null"
  infinity := "null"
  negativeInfinity := "null"

/-- The text of a number. -/
def numberText : JsonNumber → String
  | .integer value => value.repr
  | .float value => numerals.write value

/-- A character inside a string. -/
def stringChar (c : Char) : String :=
  if c = '"' then "\\\""
  else if c = '\\' then "\\\\"
  else if c = '\x08' then "\\b"
  else if c = '\x0c' then "\\f"
  else if c = '\n' then "\\n"
  else if c = '\r' then "\\r"
  else if c = '\t' then "\\t"
  else if c.toNat < 0x20 then
    "\\u00" ++ (if c.toNat < 0x10 then "0" else "1") ++
      String.ofList (Nat.toDigits 16 (c.toNat % 16))
  else c.toString

/-- A string between quotation marks. -/
def stringText (s : String) : String :=
  "\"" ++ String.join (s.toList.map stringChar) ++ "\""

mutual

/-- The compact text of a document. -/
def text : Json → String
  | null => "null"
  | bool value => if value then "true" else "false"
  | number value => numberText value
  | string value => stringText value
  | array elements => "[" ++ ",".intercalate (elementTexts elements) ++ "]"
  | object members => "\x7b" ++ ",".intercalate (memberTexts members) ++ "\x7d"

/-- The texts of the elements of an array. -/
def elementTexts : List Json → List String
  | [] => []
  | element :: rest => element.text :: elementTexts rest

/-- The texts of the members of an object. -/
def memberTexts : List (String × Json) → List String
  | [] => []
  | (key, value) :: rest => (stringText key ++ ":" ++ value.text) :: memberTexts rest

end

/-! ## Shown form -/

mutual

/-- A document with the kind of every part. -/
def shown : Json → String
  | null => "Null"
  | bool value => "Bool(" ++ (if value then "true" else "false") ++ ")"
  | number value => "Number(" ++ numberText value ++ ")"
  | string value => "String(" ++ Text.showText value ++ ")"
  | array elements => "Array [" ++ ", ".intercalate (elementsShown elements) ++ "]"
  | object members => "Object \x7b" ++ ", ".intercalate (membersShown members) ++ "\x7d"

/-- The elements of an array. -/
def elementsShown : List Json → List String
  | [] => []
  | element :: rest => element.shown :: elementsShown rest

/-- The members of an object. -/
def membersShown : List (String × Json) → List String
  | [] => []
  | (key, value) :: rest => (Text.showText key ++ ": " ++ value.shown) :: membersShown rest

end

/-! ## Equality -/

/-- Numbers are equal if both are integers or both are not, and their values
are equal. -/
def numbersAgree : JsonNumber → JsonNumber → Bool
  | .integer a, .integer b => a = b
  | .float a, .float b => a.agrees b
  | _, _ => false

mutual

/-- Equality of documents. -/
def agrees : Json → Json → Bool
  | null, null => true
  | bool a, bool b => a = b
  | number a, number b => numbersAgree a b
  | string a, string b => a = b
  | array a, array b => elementsAgree a b
  | object a, object b => membersAgree a b
  | _, _ => false

/-- Equality of arrays, element by element. -/
def elementsAgree : List Json → List Json → Bool
  | [], [] => true
  | a :: restA, b :: restB => a.agrees b && elementsAgree restA restB
  | _, _ => false

/-- Equality of objects, member by member. -/
def membersAgree : List (String × Json) → List (String × Json) → Bool
  | [], [] => true
  | (keyA, a) :: restA, (keyB, b) :: restB =>
      keyA = keyB && a.agrees b && membersAgree restA restB
  | _, _ => false

end

end Json

end ParamSql
