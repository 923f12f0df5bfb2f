/-!
# Bytes in hexadecimal

Every byte is two digits, the larger half first, in lower case.
-/

namespace ParamSql.Text

/-- The hexadecimal digit of a number below sixteen. -/
def hexDigit (n : Nat) : Char :=
  if n < 10 then Char.ofNat ('0'.toNat + n) else Char.ofNat ('a'.toNat + (n - 10))

/-- The two hexadecimal digits of a byte. -/
def byteHex (b : UInt8) : List Char :=
  [hexDigit (b.toNat / 16), hexDigit (b.toNat % 16)]

/-- Bytes as hexadecimal digits, in order. -/
def hex (bytes : List UInt8) : String :=
  String.ofList (bytes.flatMap byteHex)

/-- The value of a hexadecimal digit. -/
def hexValue? (c : Char) : Option Nat :=
  if '0' ≤ c ∧ c ≤ '9' then some (c.toNat - '0'.toNat)
  else if 'a' ≤ c ∧ c ≤ 'f' then some (c.toNat - 'a'.toNat + 10)
  else if 'A' ≤ c ∧ c ≤ 'F' then some (c.toNat - 'A'.toNat + 10)
  else none

/-- Read the bytes that an even number of hexadecimal digits spells. -/
def ofHexDigits? : List Char → Option (List UInt8)
  | [] => some []
  | [_] => none
  | high :: low :: rest => do
      let h ← hexValue? high
      let l ← hexValue? low
      return UInt8.ofNat (16 * h + l) :: (← ofHexDigits? rest)

/-- Read bytes written in hexadecimal. -/
def ofHex? (s : String) : Option (List UInt8) :=
  ofHexDigits? s.toList

end ParamSql.Text
