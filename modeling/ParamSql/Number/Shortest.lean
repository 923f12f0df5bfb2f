import ParamSql.Number.Binary

/-!
# The shortest decimal that reads back

Between a floating-point number and each of its neighbours lies a half-way
point.  A decimal between the two half-way points rounds to the number; the
half-way points themselves do so exactly when the significand is even.  The
search tries one, two, … digits.  On the grid of the decimals with that many
digits it is enough to look at the two neighbours of the number: if any point
of the grid lies in the interval, one of the two does.
-/

namespace ParamSql

/-- Which neighbour wins when two are equally near. -/
inductive Tie where
  | up
  | toEven
  deriving DecidableEq, Repr

/-- A decimal `digits * 10 ^ exponent`. -/
structure Decimal where
  digits : Nat
  exponent : Int
  deriving DecidableEq, Repr

namespace Decimal

/-- Whether the power of ten with this exponent is at most a quotient. -/
def powerAtMost (k : Int) (num den : Nat) : Bool :=
  den * Nat.pow 10 k.toNat ≤ num * Nat.pow 10 (-k).toNat

/-- The exponent of the largest power of ten that a positive quotient reaches,
found near the estimate that its binary logarithm gives. -/
def floorLog10 (num den : Nat) : Int :=
  let estimate := (floorLog2 num den * 30103).fdiv 100000
  if powerAtMost (estimate + 1) num den then estimate + 1
  else if powerAtMost estimate num den then estimate
  else estimate - 1

/-- The ends of the interval of decimals that round to a number, in quarters
of its last place.  Below a power of two the neighbour is twice as near,
unless the numbers there are all equally far apart. -/
structure Interval where
  low : Nat
  middle : Nat
  high : Nat
  /-- The power of two that the three are multiples of. -/
  exponent : Int
  /-- Whether the ends belong to it. -/
  closed : Bool

/-- The interval of a finite positive magnitude. -/
def interval (format : BinaryFormat) (magnitude : Nat) : Interval :=
  let (significand, exponent) := format.parts magnitude
  let nearBelow := magnitude % Nat.pow 2 format.fractionBits = 0 ∧
    Nat.pow 2 format.fractionBits < magnitude
  { low := 4 * significand - (if nearBelow then 1 else 2)
    middle := 4 * significand
    high := 4 * significand + 2
    exponent := exponent - 2
    closed := significand % 2 = 0 }

/-- Whether a product lies in the interval whose ends are two others. -/
def Interval.holds (i : Interval) (candidate low high : Nat) : Bool :=
  if i.closed then low ≤ candidate && candidate ≤ high
  else low < candidate && candidate < high

/-- The decimal with the given exponent that lies in the interval and is
nearest to its middle. -/
def onGrid? (tie : Tie) (i : Interval) (k : Int) : Option Decimal :=
  let step := Nat.pow 10 k.toNat * Nat.pow 2 (-i.exponent).toNat
  let scale := Nat.pow 2 i.exponent.toNat * Nat.pow 10 (-k).toNat
  let below := i.middle * scale / step
  let rest := 2 * (i.middle * scale % step)
  let holds := fun c => i.holds (c * step) (i.low * scale) (i.high * scale)
  let pickAbove :=
    if holds below then
      holds (below + 1) && (step < rest || (rest = step &&
        (match tie with
          | .up => true
          | .toEven => below % 2 = 1)))
    else true
  let digits := if pickAbove then below + 1 else below
  if holds digits then some ⟨digits, k⟩ else none

/-- Try `count` more digits on ever finer grids. -/
def search (tie : Tie) (i : Interval) (k : Int) : Nat → Decimal
  | 0 => ⟨i.middle, 0⟩
  | count + 1 =>
      match onGrid? tie i k with
      | some decimal => decimal
      | none => search tie i (k - 1) count

/-- Drop the zeros at the end of the digits. -/
def normalize (decimal : Decimal) : Decimal :=
  if decimal.digits % 10 = 0 ∧ decimal.digits ≠ 0 then
    normalize ⟨decimal.digits / 10, decimal.exponent + 1⟩
  else decimal
termination_by decimal.digits
decreasing_by omega

/-- The shortest decimal that rounds to a finite positive number; seventeen
digits always suffice. -/
def shortest (tie : Tie) (x : Binary64) : Decimal :=
  normalize <| search tie (interval .double x.magnitude)
    (floorLog10 x.ratio.1 x.ratio.2) 17

/-- The exponent of the leading digit. -/
def leadingExponent (decimal : Decimal) : Int :=
  decimal.exponent + ((Nat.toDigits 10 decimal.digits).length - 1 : Nat)

end Decimal

end ParamSql
