import ClassHeader.Constant.Basic
import ClassHeader.Proofs.Number.Equality

/-!
# Constants compared as values

Constants are equal as values if they become the same once zeros have lost their sign, unless they
are a NaN. All but floating-point constants are equal as values exactly if they are the same.
-/

namespace ClassHeader.Constant

def isNaN : Constant → Bool
  | .float value => value.isNaN
  | .double value => value.isNaN
  | _ => false

/-- Whether a constant is a floating-point zero of either sign. -/
def isZero : Constant → Bool
  | .float value => value.isZero
  | .double value => value.isZero
  | _ => false

/-- The constant itself, except that a negative floating-point zero becomes the positive one. -/
def withoutZeroSign : Constant → Constant
  | .float value => .float value.withoutZeroSign
  | .double value => .double value.withoutZeroSign
  | value => value

theorem withoutZeroSign_of_not_isZero {value : Constant} (notZero : value.isZero = false) :
    value.withoutZeroSign = value := by
  cases value with
  | float => exact congrArg float (Binary.withoutZeroSign_of_not_isZero notZero)
  | double => exact congrArg double (Binary.withoutZeroSign_of_not_isZero notZero)
  | _ => rfl

theorem isNaN_withoutZeroSign (value : Constant) : value.withoutZeroSign.isNaN = value.isNaN := by
  cases value with
  | float value => exact value.isNaN_withoutZeroSign
  | double value => exact value.isNaN_withoutZeroSign
  | _ => rfl

theorem isZero_withoutZeroSign (value : Constant) :
    value.withoutZeroSign.isZero = value.isZero := by
  cases value with
  | float value => exact value.isZero_withoutZeroSign
  | double value => exact value.isZero_withoutZeroSign
  | _ => rfl

theorem equals_iff (left right : Constant) :
    left.equals right = true ↔
      left.withoutZeroSign = right.withoutZeroSign ∧ left.isNaN = false := by
  cases left <;> cases right <;>
    simp [equals, withoutZeroSign, isNaN, Binary.numericallyEqual_iff]

end ClassHeader.Constant
