import ParamSql.Number.Shortest

/-!
# Numerals of floating-point numbers

A numeral style says how the shortest decimal of a number is written: which
exponents are written with a point among the digits and which with an
exponent, how a positive exponent is marked, and what stands for what is not a
finite number.
-/

namespace ParamSql

/-- How floating-point numbers are written. -/
structure NumeralStyle where
  /-- Which of two equally near decimals is taken. -/
  tie : Tie
  /-- The least exponent of the leading digit that is written without one. -/
  positionalFrom : Int
  /-- The least exponent beyond it that is written with one. -/
  positionalBelow : Int
  /-- The sign of a positive exponent. -/
  plusSign : String
  nan : String
  infinity : String
  negativeInfinity : String

namespace NumeralStyle

/-- A row of zeros. -/
def zeros (count : Nat) : List Char :=
  List.replicate count '0'

/-- Digits with a point among them; at least one digit stands on each side. -/
def positional (digits : List Char) (leading : Int) : List Char :=
  if leading < 0 then
    '0' :: '.' :: (zeros (-leading - 1).toNat ++ digits)
  else
    let whole := leading.toNat + 1
    digits.take whole ++ zeros (whole - digits.length) ++ '.' ::
      (if digits.length ≤ whole then ['0'] else digits.drop whole)

/-- Digits with the point after the first, and an exponent; no point stands
after a single digit. -/
def scientific (style : NumeralStyle) (digits : List Char) (leading : Int) : List Char :=
  digits.take 1 ++ (if digits.length ≤ 1 then [] else '.' :: digits.drop 1) ++
    'e' :: ((if leading < 0 then "-" else style.plusSign).toList ++
      Nat.toDigits 10 leading.natAbs)

/-- The numeral of the absolute value of a finite number. -/
def absolute (style : NumeralStyle) (x : Binary64) : List Char :=
  if x.magnitude = 0 then ['0', '.', '0']
  else
    let decimal := Decimal.shortest style.tie x
    let digits := Nat.toDigits 10 decimal.digits
    let leading := decimal.leadingExponent
    if style.positionalFrom ≤ leading ∧ leading < style.positionalBelow then
      positional digits leading
    else style.scientific digits leading

/-- The numeral of a number. -/
def write (style : NumeralStyle) (x : Binary64) : String :=
  if x.isNaN then style.nan
  else if x.isInfinite then
    if x.isNegative then style.negativeInfinity else style.infinity
  else String.ofList ((if x.isNegative then ['-'] else []) ++ style.absolute x)

end NumeralStyle

end ParamSql
