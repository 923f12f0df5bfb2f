import ParamSql.Value
import ParamSql.Wire.Type

/-!
# The binary form of values

A value is sent in the binary form of the type that the database expects.
Numbers stand with the most significant byte first.  A value of a kind that
the type does not take, a number that does not fit it, or an array that is too
long for its lengths, is refused.
-/

namespace ParamSql

/-! ## Kinds and what they are refused with -/

/-- The kinds of values that have a binary form. -/
inductive Carrier where
  | bool
  | int
  | float
  | text
  | bytes
  | json
  | date
  | timestamp
  | instant
  | uuid
  | textArray
  | intArray
  deriving DecidableEq, Repr

/-- The name of a kind in messages. -/
def Carrier.label : Carrier → String
  | bool => "bool"
  | int => "i64"
  | float => "f64"
  | text => "alloc::string::String"
  | bytes => "alloc::vec::Vec<u8>"
  | json => "serde_json::value::Value"
  | date => "chrono::naive::date::NaiveDate"
  | timestamp => "chrono::naive::datetime::NaiveDateTime"
  | instant => "chrono::datetime::DateTime<chrono::offset::utc::Utc>"
  | uuid => "uuid::Uuid"
  | textArray => "alloc::vec::Vec<alloc::string::String>"
  | intArray => "&[i64]"

/-- Why a value has no binary form of a type. -/
inductive EncodeError where
  /-- The number is above the range of the type. -/
  | tooLarge
  /-- The number is below the range of the type. -/
  | tooSmall
  /-- There are more elements or more bytes than a length can tell. -/
  | overlong
  /-- The type does not take this kind of value. -/
  | refused (carrier : Carrier) (type : WireType)

/-- The reason in words. -/
def EncodeError.message : EncodeError → String
  | tooLarge => "number too large to fit in target type"
  | tooSmall => "number too small to fit in target type"
  | overlong => "value too large to transmit"
  | refused carrier type =>
      "cannot encode " ++ carrier.label ++ " as Postgres type " ++ type.display

/-! ## Numbers as bytes -/

/-- The last bytes of a natural number, the most significant first. -/
def bigEndian : Nat → Nat → List UInt8
  | 0, _ => []
  | width + 1, n => bigEndian width (n / 256) ++ [UInt8.ofNat (n % 256)]

/-- An integer in two's complement. -/
def signedBytes (width : Nat) (i : Int) : List UInt8 :=
  bigEndian width (i % Nat.pow 256 width).toNat

/-- An integer in two's complement, if it fits. -/
def narrow (width : Nat) (i : Int) : Except EncodeError (List UInt8) :=
  if Nat.pow 2 (8 * width - 1) ≤ i then .error .tooLarge
  else if i < -Nat.pow 2 (8 * width - 1) then .error .tooSmall
  else .ok (signedBytes width i)

/-! ## Text -/

/-- The extension types whose binary form starts with the version of the
form. -/
def isVersionedText (name : String) : Bool :=
  name = "ltree" || name = "lquery" || name = "ltxtquery"

/-- Whether a type takes text. -/
def WireType.takesText (type : WireType) : Bool :=
  match type.builtin? with
  | some .varchar | some .text | some .bpchar | some .name | some .unknown => true
  | _ => type.name = "citext" || isVersionedText type.name

/-- The bytes of a text for a type that takes text. -/
def textBytes (type : WireType) (text : String) : List UInt8 :=
  (if isVersionedText type.name then [1] else []) ++ text.toUTF8.toList

/-! ## Arrays -/

/-- Whether a length can be told in four bytes, of which the first bit is a
sign. -/
def isLength (n : Nat) : Bool :=
  n < Nat.pow 2 31

/-- The elements of an array, each behind its length. -/
def elementBytes : List (List UInt8) → List UInt8
  | [] => []
  | element :: rest => bigEndian 4 element.length ++ element ++ elementBytes rest

/-- An array of one dimension without nulls that starts at index one. -/
def arrayContent (element : WireType) (elements : List (List UInt8)) : List UInt8 :=
  bigEndian 4 1 ++ bigEndian 4 0 ++ bigEndian 4 element.oid.toNat ++
    bigEndian 4 elements.length ++ bigEndian 4 1 ++ elementBytes elements

/-- An array, if its length and those of its elements can be told. -/
def arrayBytes (element : WireType) (elements : List (List UInt8)) :
    Except EncodeError (List UInt8) :=
  if isLength elements.length && elements.all fun bytes => isLength bytes.length then
    .ok (arrayContent element elements)
  else .error .overlong

/-- An array of integers: the two narrow types of the catalog narrow each
element, any other array has to have wide elements. -/
def encodeInts (type : WireType) (values : List Int64) : Except EncodeError (List UInt8) :=
  match type.builtin? with
  | some .int2Array => do
      let elements ← values.mapM fun value => narrow 2 value.toInt
      arrayBytes (.builtin .int2) elements
  | some .int4Array => do
      let elements ← values.mapM fun value => narrow 4 value.toInt
      arrayBytes (.builtin .int4) elements
  | _ =>
      match type.element? with
      | some element =>
          if element.isBuiltin .int8 then
            arrayBytes element (values.map fun value => signedBytes 8 value.toInt)
          else .error (.refused .intArray type)
      | none => .error (.refused .intArray type)

/-- An array of texts, for an array type whose elements take text. -/
def encodeTexts (type : WireType) (values : List String) : Except EncodeError (List UInt8) :=
  match type.element? with
  | some element =>
      if element.takesText then arrayBytes element (values.map (textBytes element))
      else .error (.refused .textArray type)
  | none => .error (.refused .textArray type)

/-! ## Values -/

/-- An integer: narrowed, converted to a floating-point number, or wide. -/
def encodeInt (type : WireType) (value : Int) : Except EncodeError (List UInt8) :=
  match type.builtin? with
  | some .int2 => narrow 2 value
  | some .int4 => narrow 4 value
  | some .int8 => .ok (signedBytes 8 value)
  | some .float4 => .ok (bigEndian 4 (Binary32.ofInt value).bits.toNat)
  | some .float8 => .ok (bigEndian 8 (Binary64.ofInt value).bits.toNat)
  | _ => .error (.refused .int type)

/-- A floating-point number, rounded for the narrow type. -/
def encodeFloat (type : WireType) (value : Binary64) : Except EncodeError (List UInt8) :=
  match type.builtin? with
  | some .float4 => .ok (bigEndian 4 (Binary32.ofBinary64 value).bits.toNat)
  | some .float8 => .ok (bigEndian 8 value.bits.toNat)
  | _ => .error (.refused .float type)

/-- A document as text, which one type has behind the version of the form. -/
def encodeJson (type : WireType) (value : Json) : Except EncodeError (List UInt8) :=
  match type.builtin? with
  | some .json => .ok value.text.toUTF8.toList
  | some .jsonb => .ok (1 :: value.text.toUTF8.toList)
  | _ => .error (.refused .json type)

/-- Bytes for the one built-in type that takes them. -/
def encodeFor (expected : BuiltinType) (carrier : Carrier) (type : WireType)
    (bytes : List UInt8) : Except EncodeError (List UInt8) :=
  if type.isBuiltin expected then .ok bytes else .error (.refused carrier type)

/-- The binary form of a value for a type; a null has none and goes with every
type. -/
def Value.encode (value : Value) (type : WireType) :
    Except EncodeError (Option (List UInt8)) :=
  match value with
  | .null => .ok none
  | .bool value => some <$> encodeFor .bool .bool type [if value then 1 else 0]
  | .int value => some <$> encodeInt type value.toInt
  | .float value => some <$> encodeFloat type value
  | .text value =>
      if type.takesText then .ok (some (textBytes type value))
      else .error (.refused .text type)
  | .bytes value => some <$> encodeFor .bytea .bytes type value
  | .json value => some <$> encodeJson type value
  | .date value => some <$> encodeFor .date .date type (signedBytes 4 value.dayNumber)
  | .timestamp value =>
      some <$> encodeFor .timestamp .timestamp type (signedBytes 8 value.microseconds)
  | .instant value =>
      some <$> encodeFor .timestamptz .instant type (signedBytes 8 value.microseconds)
  | .uuid value => some <$> encodeFor .uuid .uuid type value.toList
  | .textArray value => some <$> encodeTexts type value
  | .intArray value => some <$> encodeInts type value

end ParamSql
