/-!
# Binary floating-point numbers by their bits

A binary format has a sign bit, a biased exponent field and a fraction field.
The number of a finite magnitude is an integer multiple of a power of two, and
the magnitudes of a format, read as integers, ascend with their numbers; that
makes rounding a matter of integer division.  Conversions round to the nearest
number, a tie to the even one, and keep the bits of what is not a number.
-/

namespace ParamSql

/-! ## Formats -/

/-- The widths of the fields of a binary format. -/
structure BinaryFormat where
  fractionBits : Nat
  exponentBits : Nat
  deriving DecidableEq, Repr

namespace BinaryFormat

/-- The format of 32 bits. -/
def single : BinaryFormat := ⟨23, 8⟩

/-- The format of 64 bits. -/
def double : BinaryFormat := ⟨52, 11⟩

/-- The exponent of the least positive number, which all numbers are multiples
of. -/
def leastExponent (format : BinaryFormat) : Int :=
  2 - Nat.pow 2 (format.exponentBits - 1) - format.fractionBits

/-- The magnitude of infinity; the larger ones are not numbers. -/
def infinity (format : BinaryFormat) : Nat :=
  (Nat.pow 2 format.exponentBits - 1) * Nat.pow 2 format.fractionBits

/-- The place of the sign bit. -/
def signWeight (format : BinaryFormat) : Nat :=
  Nat.pow 2 (format.fractionBits + format.exponentBits)

/-- The significand and exponent of a finite magnitude: its number is
`significand * 2 ^ exponent`. -/
def parts (format : BinaryFormat) (magnitude : Nat) : Nat × Int :=
  let field := magnitude / Nat.pow 2 format.fractionBits
  let fraction := magnitude % Nat.pow 2 format.fractionBits
  if field = 0 then (fraction, format.leastExponent)
  else (Nat.pow 2 format.fractionBits + fraction, format.leastExponent + (field - 1 : Nat))

end BinaryFormat

/-! ## Rounding -/

/-- The quotient of two naturals rounded to the nearest, a tie to the even
neighbour. -/
def roundDiv (num den : Nat) : Nat :=
  let quotient := num / den
  let rest := 2 * (num % den)
  if rest < den then quotient
  else if den < rest then quotient + 1
  else quotient + quotient % 2

/-- The numerator and denominator of `significand * 2 ^ exponent`. -/
def scaled (significand : Nat) (exponent : Int) : Nat × Nat :=
  (significand * Nat.pow 2 exponent.toNat, Nat.pow 2 (-exponent).toNat)

/-- The exponent of the largest power of two that a positive quotient reaches. -/
def floorLog2 (num den : Nat) : Int :=
  let guess : Int := (num.log2 : Int) - den.log2
  if den * Nat.pow 2 guess.toNat ≤ num * Nat.pow 2 (-guess).toNat then guess else guess - 1

/-- The magnitude nearest to a quotient; one that is too large becomes
infinity. -/
def BinaryFormat.round (format : BinaryFormat) (num den : Nat) : Nat :=
  if num = 0 then 0
  else
    let exponent := max (floorLog2 num den - format.fractionBits) format.leastExponent
    let significand := roundDiv (num * Nat.pow 2 (-exponent).toNat) (den * Nat.pow 2 exponent.toNat)
    min ((exponent - format.leastExponent).toNat * Nat.pow 2 format.fractionBits + significand)
      format.infinity

/-! ## Numbers of 64 bits -/

/-- A floating-point number of 64 bits. -/
structure Binary64 where
  bits : UInt64
  deriving DecidableEq, Repr

namespace Binary64

open BinaryFormat (single double)

/-- The bits without the sign. -/
def magnitude (x : Binary64) : Nat :=
  x.bits.toNat % double.signWeight

/-- Whether the sign bit is set. -/
def isNegative (x : Binary64) : Bool :=
  double.signWeight ≤ x.bits.toNat

/-- Whether the bits stand for no number. -/
def isNaN (x : Binary64) : Bool :=
  double.infinity < x.magnitude

/-- Whether the bits stand for an infinity. -/
def isInfinite (x : Binary64) : Bool :=
  x.magnitude = double.infinity

/-- Whether the bits stand for a real number. -/
def isFinite (x : Binary64) : Bool :=
  x.magnitude < double.infinity

/-- The number with this sign and magnitude. -/
def ofMagnitude (negative : Bool) (magnitude : Nat) : Binary64 :=
  ⟨UInt64.ofNat (magnitude + if negative then double.signWeight else 0)⟩

/-- The number with the other sign. -/
def neg (x : Binary64) : Binary64 :=
  ofMagnitude (!x.isNegative) x.magnitude

/-- The number nearest to a quotient of naturals. -/
def ofRatio (num den : Nat) : Binary64 :=
  ofMagnitude false (double.round num den)

/-- The number nearest to an integer. -/
def ofInt (i : Int) : Binary64 :=
  ofMagnitude (i < 0) (double.round i.natAbs 1)

/-- The numerator and denominator of the absolute value of a finite number. -/
def ratio (x : Binary64) : Nat × Nat :=
  let (significand, exponent) := double.parts x.magnitude
  scaled significand exponent

/-- The rounded product of two finite numbers that are not negative. -/
def times (x y : Binary64) : Binary64 :=
  ofRatio (x.ratio.1 * y.ratio.1) (x.ratio.2 * y.ratio.2)

/-- The rounded quotient of two finite numbers that are not negative. -/
def dividedBy (x y : Binary64) : Binary64 :=
  ofRatio (x.ratio.1 * y.ratio.2) (x.ratio.2 * y.ratio.1)

/-- Equality of numbers: the two zeros are equal, and what is not a number
equals nothing. -/
def agrees (x y : Binary64) : Bool :=
  !x.isNaN && !y.isNaN && (x = y || (x.magnitude = 0 && y.magnitude = 0))

end Binary64

/-! ## Numbers of 32 bits -/

/-- A floating-point number of 32 bits. -/
structure Binary32 where
  bits : UInt32
  deriving DecidableEq, Repr

namespace Binary32

open BinaryFormat (single double)

/-- The number with this sign and magnitude. -/
def ofMagnitude (negative : Bool) (magnitude : Nat) : Binary32 :=
  ⟨UInt32.ofNat (magnitude + if negative then single.signWeight else 0)⟩

/-- The number nearest to an integer. -/
def ofInt (i : Int) : Binary32 :=
  ofMagnitude (i < 0) (single.round i.natAbs 1)

/-- The bits by which the fraction of the wide format is longer. -/
def extraBits : Nat :=
  double.fractionBits - single.fractionBits

/-- The lowest magnitude that is not a number and does not signal. -/
def quiet (format : BinaryFormat) : Nat :=
  Nat.pow 2 (format.fractionBits - 1)

/-- Set the quiet bit of a magnitude that is not a number. -/
def quieted (format : BinaryFormat) (magnitude : Nat) : Nat :=
  magnitude ||| quiet format

/-- The nearest number of 32 bits; what is not a number keeps the leading bits
of its fraction and becomes quiet. -/
def ofBinary64 (x : Binary64) : Binary32 :=
  ofMagnitude x.isNegative <|
    if x.isNaN then
      single.infinity + quieted single ((x.magnitude - double.infinity) / Nat.pow 2 extraBits)
    else if x.isInfinite then single.infinity
    else single.round x.ratio.1 x.ratio.2

/-- The same number in 64 bits; what is not a number becomes quiet. -/
def widen (x : Binary32) : Binary64 :=
  let magnitude := x.bits.toNat % single.signWeight
  Binary64.ofMagnitude (single.signWeight ≤ x.bits.toNat) <|
    if single.infinity < magnitude then
      double.infinity + quieted double ((magnitude - single.infinity) * Nat.pow 2 extraBits)
    else if magnitude = single.infinity then double.infinity
    else
      let (significand, exponent) := single.parts magnitude
      double.round (scaled significand exponent).1 (scaled significand exponent).2

end Binary32

end ParamSql
