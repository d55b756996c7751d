/-!
# Binary floating-point numbers

A single- or double-precision number is kept as its bits: a sign, a biased exponent, a fraction.
Three notions of sameness live here. `=` compares bits. `canonical` identifies every NaN of one
precision and nothing else. `numericallyEqual` is the comparison of numbers, which makes the two
zeros equal and a NaN different from everything.
-/

namespace ClassHeader

/-- The two interchange formats that constants use. -/
inductive Precision where
  | single
  | double
  deriving DecidableEq, Repr

namespace Precision

/-- How many bits hold the biased exponent. -/
def exponentBits : Precision → Nat
  | .single => 8
  | .double => 11

/-- How many bits hold the fraction, the leading bit of a normal number not counted. -/
def fractionBits : Precision → Nat
  | .single => 23
  | .double => 52

/-- The size of a number: one sign bit, the exponent, the fraction. -/
def width (precision : Precision) : Nat :=
  1 + precision.exponentBits + precision.fractionBits

/-- The exponent field of infinities and NaNs, all of whose bits are set. -/
def specialExponent (precision : Precision) : Nat :=
  Nat.pow 2 precision.exponentBits - 1

/-- The power of two that the last fraction bit of a subnormal number stands for. -/
def leastExponent (precision : Precision) : Int :=
  2 - (Nat.pow 2 (precision.exponentBits - 1) : Nat) - precision.fractionBits

end Precision

/-- A binary floating-point number, given by its bits. -/
structure Binary (precision : Precision) where
  bits : BitVec precision.width
  deriving DecidableEq, Hashable, Repr

namespace Binary

variable {precision : Precision}

def negative (number : Binary precision) : Bool :=
  number.bits.msb

def exponentField (number : Binary precision) : Nat :=
  number.bits.toNat / Nat.pow 2 precision.fractionBits % Nat.pow 2 precision.exponentBits

def fractionField (number : Binary precision) : Nat :=
  number.bits.toNat % Nat.pow 2 precision.fractionBits

/-- A NaN has the special exponent and some fraction bit. -/
def isNaN (number : Binary precision) : Bool :=
  number.exponentField == precision.specialExponent && number.fractionField != 0

/-- An infinity has the special exponent and no fraction bit. -/
def isInfinite (number : Binary precision) : Bool :=
  number.exponentField == precision.specialExponent && number.fractionField == 0

/-- A zero of either sign has neither exponent nor fraction bits. -/
def isZero (number : Binary precision) : Bool :=
  number.exponentField == 0 && number.fractionField == 0

/-- The NaN that stands for all: positive, quiet, with no further fraction bit. -/
def nan : Binary precision :=
  ⟨BitVec.ofNat _
    (precision.specialExponent * Nat.pow 2 precision.fractionBits +
      Nat.pow 2 (precision.fractionBits - 1))⟩

/-- The number itself, except that every NaN becomes `nan`. -/
def canonical (number : Binary precision) : Binary precision :=
  if number.isNaN then nan else number

/-- Equality of numbers: a NaN equals nothing, and the two zeros are equal. -/
def numericallyEqual (left right : Binary precision) : Bool :=
  !left.isNaN && !right.isNaN && (left == right || (left.isZero && right.isZero))

/-- The significand of a finite number, with the leading bit of a normal one. -/
def significand (number : Binary precision) : Nat :=
  if number.exponentField = 0 then number.fractionField
  else Nat.pow 2 precision.fractionBits + number.fractionField

/-- The power of two that the last bit of the significand stands for. -/
def scale (number : Binary precision) : Int :=
  precision.leastExponent + (number.exponentField - 1 : Nat)

end Binary

end ClassHeader
