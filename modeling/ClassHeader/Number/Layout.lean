import ClassHeader.Number.Shortest

/-!
# Decimals as text

A decimal is written positionally, with at least one digit on each side of the point, or in
scientific form, with the exponent of its leading digit. A `DecimalStyle` says which exponents are
written positionally.
-/

namespace ClassHeader

/-- The exponents of the leading digit for which a decimal is written positionally. -/
structure DecimalStyle where
  leastPositional : Int
  greatestPositional : Int
  deriving Repr

namespace DecimalStyle

/-- Numbers from a ten-thousandth up to, but not including, 10 ^ 16 are written positionally. -/
def standard : DecimalStyle := ⟨-4, 15⟩

end DecimalStyle

namespace Decimal

def digits (decimal : Decimal) : List Char :=
  Nat.toDigits 10 decimal.coefficient

/-- The exponent of the leading digit. -/
def leadingExponent (decimal : Decimal) : Int :=
  decimal.exponent + (decimal.digits.length - 1 : Nat)

/-- The decimal with a point and no exponent. -/
def positional (decimal : Decimal) : List Char :=
  let digits := decimal.digits
  if 0 ≤ decimal.exponent then
    digits ++ List.replicate decimal.exponent.toNat '0' ++ ['.', '0']
  else
    let places := (-decimal.exponent).toNat
    if places < digits.length then
      digits.take (digits.length - places) ++ '.' :: digits.drop (digits.length - places)
    else
      '0' :: '.' :: List.replicate (places - digits.length) '0' ++ digits

/-- The decimal as one digit, the further digits after a point if there are any, and an exponent. -/
def scientific (decimal : Decimal) : List Char :=
  let fraction := match decimal.digits.drop 1 with
    | [] => []
    | rest => '.' :: rest
  decimal.digits.take 1 ++ fraction ++ 'e' :: decimal.leadingExponent.repr.toList

def text (style : DecimalStyle) (decimal : Decimal) : List Char :=
  if style.leastPositional ≤ decimal.leadingExponent ∧
      decimal.leadingExponent ≤ style.greatestPositional then
    decimal.positional
  else
    decimal.scientific

end Decimal

namespace Binary

variable {precision : Precision}

/-- The text of a finite number: its sign, then its shortest decimal. Zero is written `0.0`. -/
def finiteText (number : Binary precision) : String :=
  let sign := if number.negative then ['-'] else []
  let magnitude :=
    if number.isZero then ['0', '.', '0'] else number.shortest.text DecimalStyle.standard
  String.ofList (sign ++ magnitude)

end Binary

end ClassHeader
