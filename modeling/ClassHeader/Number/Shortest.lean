import ClassHeader.Number.Binary

/-!
# Shortest decimals

Every finite binary number stands for an interval of reals, those that round to it. Of the decimals
in this interval the shortest are the multiples of the greatest power of ten that has a multiple
there, and `Binary.shortest` gives the one of these nearest to the number, the greater of two that
are equally near.

The interval is written in units of a power of ten small enough that its ends, and the number
itself, are natural numbers. All arithmetic is therefore exact.
-/

namespace ClassHeader

/-- The decimal `coefficient * 10 ^ exponent`. -/
structure Decimal where
  coefficient : Nat
  exponent : Int
  deriving DecidableEq, Repr

/-- A number between the ends of an interval, all counted in units of `10 ^ unit`. -/
structure Surrounding where
  low : Nat
  middle : Nat
  high : Nat
  unit : Int
  /-- Whether the interval includes its ends. -/
  closed : Bool
  deriving Repr

namespace Surrounding

/-- Whether a multiple of the unit lies in the interval. -/
def contains (around : Surrounding) (value : Nat) : Bool :=
  if around.closed then around.low ≤ value && value ≤ around.high
  else around.low < value && value < around.high

/-- The multiple of `step` in the interval that is nearest to the middle, the greater on a tie,
divided by `step`. Only the two neighbours of the middle can be nearest. -/
def nearestMultiple? (around : Surrounding) (step : Nat) : Option Nat :=
  let below := around.middle / step
  match around.contains (below * step), around.contains ((below + 1) * step) with
  | true, true => if 2 * (around.middle % step) < step then some below else some (below + 1)
  | true, false => some below
  | false, true => some (below + 1)
  | false, false => none

/-- The decimal found on the coarsest grid of spacing at most `10 ^ places` units. The grid of
single units holds the middle itself. -/
def decimalFrom (around : Surrounding) : (places : Nat) → Decimal
  | 0 => ⟨around.middle, around.unit⟩
  | places + 1 =>
    match around.nearestMultiple? (Nat.pow 10 (places + 1)) with
    | some multiple => ⟨multiple, around.unit + (places + 1 : Nat)⟩
    | none => around.decimalFrom places

/-- The shortest decimal in the interval. A power of ten with more digits than the upper end has no
multiple in it. -/
def shortest (around : Surrounding) : Decimal :=
  around.decimalFrom (Nat.toDigits 10 around.high).length

end Surrounding

namespace Binary

variable {precision : Precision}

/-- Whether the next smaller number is only half as far away as the next greater one, which holds at
a power of two above the least normal number. -/
def narrowBelow (number : Binary precision) : Bool :=
  number.fractionField == 0 && 1 < number.exponentField

/-- The reals that round to a finite number other than zero: those up to half way to its neighbours,
half way included when the significand is even. A quarter of the last significand bit is a whole
number of units. -/
def surrounding (number : Binary precision) : Surrounding :=
  let quarter := number.scale - 2
  let factor := Nat.pow 2 quarter.toNat * Nat.pow 5 (-quarter).toNat
  { low := (4 * number.significand - if number.narrowBelow then 1 else 2) * factor
    middle := 4 * number.significand * factor
    high := (4 * number.significand + 2) * factor
    unit := min quarter 0
    closed := number.significand % 2 == 0 }

/-- The shortest decimal that rounds to the magnitude of a finite number other than zero. -/
def shortest (number : Binary precision) : Decimal :=
  number.surrounding.shortest

end Binary

end ClassHeader
