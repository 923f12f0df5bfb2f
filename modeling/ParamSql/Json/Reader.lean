import ParamSql.Json
import ParamSql.Text.Hex

/-!
# Reading JSON text

The reader takes a whole text and gives its document, or nothing if the text
is not JSON.  It recurses on a bound that the length of the text provides:
every value, element and member takes at least one character.

An integer that fits 64 bits, with or without a sign, stays an integer.  Any
other number is read from the digits that fit a word of 64 bits, scaled by a
power of ten in one rounded multiplication or division; beyond `10 ^ -308` the
division is done in steps.
-/

namespace ParamSql.Json

/-! ## Numbers -/

/-- The largest significand that is kept. -/
def significandLimit : Nat := Nat.pow 2 64 - 1

/-- Take digits into a significand while it stays within the limit; also the
digits that are left from the first that does not fit. -/
def takeDigits (significand : Nat) : List Nat → Nat × List Nat
  | [] => (significand, [])
  | digit :: rest =>
      if significand * 10 + digit ≤ significandLimit then
        takeDigits (significand * 10 + digit) rest
      else (significand, digit :: rest)

/-- The number nearest to a power of ten. -/
def powerOfTen (k : Nat) : Binary64 :=
  Binary64.ofRatio (Nat.pow 10 k) 1

/-- Divide by a power of ten, by at most `10 ^ 308` at a time. -/
def scaleDown (x : Binary64) (k : Nat) : Binary64 :=
  if k ≤ 308 then x.dividedBy (powerOfTen k)
  else if x.magnitude = 0 then x
  else scaleDown (x.dividedBy (powerOfTen 308)) (k - 308)
termination_by k

/-- A significand times a power of ten, unless it is too large. -/
def scale? (significand : Nat) (exponent : Int) : Option Binary64 :=
  let x := Binary64.ofInt significand
  if exponent < 0 then some (scaleDown x (-exponent).toNat)
  else if significand = 0 then some x
  else if 308 < exponent then none
  else
    let y := x.times (powerOfTen exponent.toNat)
    if y.isInfinite then none else some y

/-- The parts of a numeral. -/
structure Literal where
  negative : Bool
  whole : List Nat
  /-- The digits after the point, if there is one. -/
  fraction : Option (List Nat)
  /-- The exponent, if there is one. -/
  exponent : Option Int

/-- The number that a numeral stands for, unless it is too large. -/
def Literal.number? (literal : Literal) : Option JsonNumber :=
  let (significand, dropped) := takeDigits 0 literal.whole
  if literal.fraction.isNone ∧ literal.exponent.isNone ∧ dropped.isEmpty ∧
      (literal.negative → 0 < significand ∧ significand ≤ Nat.pow 2 63) then
    some (.integer (if literal.negative then -(significand : Int) else significand))
  else
    let digits := literal.fraction.getD []
    let (significand, left) := takeDigits significand digits
    let exponent := (dropped.length : Int) - (digits.length - left.length : Nat) +
      literal.exponent.getD 0
    (scale? significand exponent).map fun x =>
      .float (if literal.negative then x.neg else x)

/-- The digits at the front of a text. -/
def readDigits : List Char → List Nat × List Char
  | [] => ([], [])
  | c :: rest =>
      if c.isDigit then
        let (digits, rest) := readDigits rest
        ((c.toNat - '0'.toNat) :: digits, rest)
      else ([], c :: rest)

/-- The value of a row of digits. -/
def digitsValue (digits : List Nat) : Nat :=
  digits.foldl (fun value digit => 10 * value + digit) 0

/-- The whole part: one zero, or digits that do not start with a zero. -/
def readWhole? (chars : List Char) : Option (List Nat × List Char) :=
  match readDigits chars with
  | ([], _) => none
  | (0 :: _ :: _, _) => none
  | (digits, rest) => some (digits, rest)

/-- The point and the digits after it, if the text goes on with a point. -/
def readFraction? : List Char → Option (Option (List Nat) × List Char)
  | '.' :: rest =>
      match readDigits rest with
      | ([], _) => none
      | (digits, rest) => some (some digits, rest)
  | rest => some (none, rest)

/-- The digits of an exponent behind its sign. -/
def readExponentDigits? (negative : Bool) (chars : List Char) :
    Option (Option Int × List Char) :=
  match readDigits chars with
  | ([], _) => none
  | (digits, rest) =>
      let value : Int := digitsValue digits
      some (some (if negative then -value else value), rest)

/-- The exponent, if the text goes on with one. -/
def readExponent? : List Char → Option (Option Int × List Char)
  | c :: rest =>
      if c = 'e' ∨ c = 'E' then
        match rest with
        | '+' :: rest => readExponentDigits? false rest
        | '-' :: rest => readExponentDigits? true rest
        | rest => readExponentDigits? false rest
      else some (none, c :: rest)
  | [] => some (none, [])

/-- The number at the front of a text, behind its sign. -/
def readNumber? (negative : Bool) (chars : List Char) : Option (Json × List Char) := do
  let (whole, rest) ← readWhole? chars
  let (fraction, rest) ← readFraction? rest
  let (exponent, rest) ← readExponent? rest
  let number ← Literal.number? { negative, whole, fraction, exponent }
  return (.number number, rest)

/-! ## Strings -/

/-- The value of four hexadecimal digits. -/
def readUnit? : List Char → Option (Nat × List Char)
  | a :: b :: c :: d :: rest => do
      let digits ← [a, b, c, d].mapM Text.hexValue?
      return (digits.foldl (fun value digit => 16 * value + digit) 0, rest)
  | _ => none

/-- The character of a `\u` escape; one beyond the first plane is written as
two escapes. -/
def readEscapedUnit? (chars : List Char) : Option (Char × List Char) := do
  let (unit, rest) ← readUnit? chars
  if 0xD800 ≤ unit ∧ unit < 0xDC00 then
    match rest with
    | '\\' :: 'u' :: rest => do
        let (low, rest) ← readUnit? rest
        if 0xDC00 ≤ low ∧ low < 0xE000 then
          return (Char.ofNat (0x10000 + (unit - 0xD800) * 0x400 + (low - 0xDC00)), rest)
        else none
    | _ => none
  else if 0xDC00 ≤ unit ∧ unit < 0xE000 then none
  else return (Char.ofNat unit, rest)

/-- The character of an escape, behind the backslash. -/
def readEscape? : List Char → Option (Char × List Char)
  | '"' :: rest => some ('"', rest)
  | '\\' :: rest => some ('\\', rest)
  | '/' :: rest => some ('/', rest)
  | 'b' :: rest => some ('\x08', rest)
  | 'f' :: rest => some ('\x0c', rest)
  | 'n' :: rest => some ('\n', rest)
  | 'r' :: rest => some ('\r', rest)
  | 't' :: rest => some ('\t', rest)
  | 'u' :: rest => readEscapedUnit? rest
  | _ => none

/-- The rest of a string behind its opening mark. -/
def readString? : Nat → List Char → Option (List Char × List Char)
  | 0, _ => none
  | _ + 1, [] => none
  | _ + 1, '"' :: rest => some ([], rest)
  | bound + 1, '\\' :: rest => do
      let (c, rest) ← readEscape? rest
      let (tail, rest) ← readString? bound rest
      return (c :: tail, rest)
  | bound + 1, c :: rest =>
      if c.toNat < 0x20 then none
      else do
        let (tail, rest) ← readString? bound rest
        return (c :: tail, rest)

/-! ## Documents -/

/-- Drop the blanks at the front. -/
def skipBlanks : List Char → List Char :=
  List.dropWhile fun c => c = ' ' || c = '\n' || c = '\t' || c = '\r'

mutual

/-- The document at the front of a text that does not start with a blank. -/
def readValue? : Nat → List Char → Option (Json × List Char)
  | 0, _ => none
  | bound + 1, chars =>
      match chars with
      | 'n' :: 'u' :: 'l' :: 'l' :: rest => some (.null, rest)
      | 't' :: 'r' :: 'u' :: 'e' :: rest => some (.bool true, rest)
      | 'f' :: 'a' :: 'l' :: 's' :: 'e' :: rest => some (.bool false, rest)
      | '"' :: rest => do
          let (chars, rest) ← readString? (bound + 1) rest
          return (.string (String.ofList chars), rest)
      | '[' :: rest =>
          match skipBlanks rest with
          | ']' :: rest => some (.array [], rest)
          | rest => do
              let (elements, rest) ← readElements? bound rest
              return (.array elements, rest)
      | '\x7b' :: rest =>
          match skipBlanks rest with
          | '\x7d' :: rest => some (.object [], rest)
          | rest => do
              let (members, rest) ← readMembers? bound rest
              return (objectOf members, rest)
      | '-' :: rest => readNumber? true rest
      | _ => readNumber? false chars

/-- The elements of an array up to its closing bracket. -/
def readElements? : Nat → List Char → Option (List Json × List Char)
  | 0, _ => none
  | bound + 1, chars => do
      let (element, rest) ← readValue? bound chars
      match skipBlanks rest with
      | ',' :: rest => do
          let (elements, rest) ← readElements? bound (skipBlanks rest)
          return (element :: elements, rest)
      | ']' :: rest => return ([element], rest)
      | _ => none

/-- The members of an object up to its closing bracket. -/
def readMembers? : Nat → List Char → Option (List (String × Json) × List Char)
  | 0, _ => none
  | bound + 1, chars => do
      match chars with
      | '"' :: rest => do
          let (key, rest) ← readString? (bound + 1) rest
          match skipBlanks rest with
          | ':' :: rest => do
              let (value, rest) ← readValue? bound (skipBlanks rest)
              let member := (String.ofList key, value)
              match skipBlanks rest with
              | ',' :: rest => do
                  let (members, rest) ← readMembers? bound (skipBlanks rest)
                  return (member :: members, rest)
              | '\x7d' :: rest => return ([member], rest)
              | _ => none
          | _ => none
      | _ => none

end

/-- The document that a text is, blanks around it apart. -/
def ofText? (text : String) : Option Json :=
  let chars := text.toList
  match readValue? (2 * chars.length + 2) (skipBlanks chars) with
  | some (json, rest) => if (skipBlanks rest).isEmpty then some json else none
  | none => none

end ParamSql.Json
