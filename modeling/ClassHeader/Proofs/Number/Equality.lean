import ClassHeader.Number.Binary

/-!
# Numbers compared as numbers

A floating-point number is its sign, its exponent and its fraction. Comparing numbers differs from
comparing their bits in two ways only: a NaN is not equal to itself, and the two zeros are equal to
each other.
-/

namespace ClassHeader.Binary

variable {precision : Precision}

/-! ### Fields -/

/-- The sign is set if the bits above the fraction exceed every exponent. -/
theorem negative_iff (number : Binary precision) :
    number.negative = true ↔
      Nat.pow 2 precision.exponentBits ≤
        number.bits.toNat / Nat.pow 2 precision.fractionBits := by
  have limit : Nat.pow 2 (precision.width - 1) =
      Nat.pow 2 precision.exponentBits * Nat.pow 2 precision.fractionBits := by
    cases precision <;> rfl
  have msb : number.negative = decide (Nat.pow 2 (precision.width - 1) ≤ number.bits.toNat) :=
    BitVec.msb_eq_decide _
  rw [msb, decide_eq_true_iff, limit]
  exact (Nat.le_div_iff_mul_le (Nat.two_pow_pos _)).symm

theorem toNat_bits (number : Binary precision) :
    number.bits.toNat =
      (number.negative.toNat * Nat.pow 2 precision.exponentBits + number.exponentField) *
        Nat.pow 2 precision.fractionBits + number.fractionField := by
  have bound : number.bits.toNat / Nat.pow 2 precision.fractionBits <
      2 * Nat.pow 2 precision.exponentBits := by
    have limit : Nat.pow 2 precision.width =
        Nat.pow 2 precision.fractionBits * (2 * Nat.pow 2 precision.exponentBits) := by
      cases precision <;> rfl
    exact Nat.div_lt_of_lt_mul (limit ▸ number.bits.isLt)
  have upper : number.negative.toNat * Nat.pow 2 precision.exponentBits + number.exponentField =
      number.bits.toNat / Nat.pow 2 precision.fractionBits := by
    have sign := number.negative_iff
    rw [exponentField]
    -- What is above the fraction is an exponent, or one and the sign.
    cases negative : number.negative with
    | false =>
      rw [negative, Bool.false_eq_true, false_iff, Nat.not_le] at sign
      rw [Nat.mod_eq_of_lt sign, Bool.toNat_false, Nat.zero_mul, Nat.zero_add]
    | true =>
      have sign := sign.mp negative
      rw [Nat.mod_eq_sub_mod sign, Nat.mod_eq_of_lt (by omega), Bool.toNat_true, Nat.one_mul,
        Nat.add_sub_cancel' sign]
  rw [upper, fractionField, Nat.mul_comm, Nat.div_add_mod]

/-- Numbers with the same sign, exponent and fraction are the same. -/
theorem eq_of_fields {left right : Binary precision} (sign : left.negative = right.negative)
    (exponent : left.exponentField = right.exponentField)
    (fraction : left.fractionField = right.fractionField) : left = right := by
  have same : left.bits.toNat = right.bits.toNat := by
    rw [toNat_bits, toNat_bits, sign, exponent, fraction]
  cases left
  cases right
  exact congrArg Binary.mk (BitVec.eq_of_toNat_eq same)

/-! ### Zeros -/

/-- The zero of a sign. -/
def zero (negative : Bool) : Binary precision :=
  ⟨BitVec.ofNat _ (if negative then Nat.pow 2 (precision.width - 1) else 0)⟩

theorem isZero_zero (negative : Bool) : (zero negative : Binary precision).isZero = true := by
  cases precision <;> cases negative <;> decide

theorem negative_zero (negative : Bool) :
    (zero negative : Binary precision).negative = negative := by
  cases precision <;> cases negative <;> decide

theorem isZero_iff_fields (number : Binary precision) :
    number.isZero = true ↔ number.exponentField = 0 ∧ number.fractionField = 0 := by
  simp [isZero]

theorem isZero_iff (number : Binary precision) :
    number.isZero = true ↔ number = zero number.negative := by
  constructor
  · intro isZero
    have zeros : (zero number.negative : Binary precision).isZero = true := isZero_zero _
    rw [isZero_iff_fields] at isZero zeros
    exact eq_of_fields (negative_zero _).symm (isZero.1.trans zeros.1.symm)
      (isZero.2.trans zeros.2.symm)
  · intro same
    rw [same]
    exact isZero_zero _

theorem isNaN_of_isZero {number : Binary precision} (isZero : number.isZero = true) :
    number.isNaN = false := by
  rw [isZero_iff_fields] at isZero
  simp [isNaN, isZero.2]

/-! ### Comparison -/

theorem numericallyEqual_self (number : Binary precision) :
    number.numericallyEqual number = !number.isNaN := by
  simp [numericallyEqual]

theorem numericallyEqual_of_isZero {left right : Binary precision} (isZero : left.isZero = true)
    (isZero' : right.isZero = true) : left.numericallyEqual right = true := by
  simp [numericallyEqual, isZero, isZero', isNaN_of_isZero]

/-- Distinct numbers that are equal as numbers are the two zeros. -/
theorem numericallyEqual_iff_of_ne {left right : Binary precision} (apart : left ≠ right) :
    left.numericallyEqual right = true ↔
      ∃ negative, left = zero negative ∧ right = zero !negative := by
  constructor
  · intro equal
    have zeros : (left.isNaN = false ∧ right.isNaN = false) ∧
        left.isZero = true ∧ right.isZero = true := by
      simpa [numericallyEqual, apart] using equal
    obtain ⟨-, isZero, isZero'⟩ := zeros
    rw [isZero_iff] at isZero isZero'
    -- Two zeros that are not the same can differ in their signs only.
    have signs : right.negative = !left.negative := by
      rw [Bool.eq_not]
      intro same
      exact apart (isZero.trans (same ▸ isZero'.symm))
    exact ⟨left.negative, isZero, signs ▸ isZero'⟩
  · rintro ⟨negative, rfl, rfl⟩
    exact numericallyEqual_of_isZero (isZero_zero _) (isZero_zero _)

/-! ### Comparison without the sign of zero -/

/-- The number itself, except that the negative zero becomes the positive one. -/
def withoutZeroSign (number : Binary precision) : Binary precision :=
  if number.isZero then zero false else number

theorem withoutZeroSign_of_not_isZero {number : Binary precision}
    (notZero : number.isZero = false) : number.withoutZeroSign = number := by
  rw [withoutZeroSign, notZero, if_neg Bool.false_ne_true]

theorem isZero_withoutZeroSign (number : Binary precision) :
    number.withoutZeroSign.isZero = number.isZero := by
  cases isZero : number.isZero with
  | false => rw [withoutZeroSign_of_not_isZero isZero, isZero]
  | true => rw [withoutZeroSign, if_pos isZero, isZero_zero]

theorem isNaN_withoutZeroSign (number : Binary precision) :
    number.withoutZeroSign.isNaN = number.isNaN := by
  cases isZero : number.isZero with
  | false => rw [withoutZeroSign_of_not_isZero isZero]
  | true =>
    rw [isNaN_of_isZero isZero]
    exact isNaN_of_isZero (isZero.symm ▸ number.isZero_withoutZeroSign)

/-- Numbers are equal as numbers if their bits are the same once zeros have lost their sign, and
they are not NaN. -/
theorem numericallyEqual_iff (left right : Binary precision) :
    left.numericallyEqual right = true ↔
      left.withoutZeroSign = right.withoutZeroSign ∧ left.isNaN = false := by
  by_cases same : left = right
  · rw [same, numericallyEqual_self, Bool.not_eq_true']
    exact (and_iff_right rfl).symm
  rw [numericallyEqual_iff_of_ne same]
  constructor
  · rintro ⟨negative, rfl, rfl⟩
    refine ⟨?_, isNaN_of_isZero (isZero_zero _)⟩
    rw [withoutZeroSign, withoutZeroSign, if_pos (isZero_zero _), if_pos (isZero_zero _)]
  · rintro ⟨forms, -⟩
    have zeros : left.isZero = right.isZero := by
      rw [← left.isZero_withoutZeroSign, forms, right.isZero_withoutZeroSign]
    cases isZero : left.isZero with
    | false =>
      -- What is not zero keeps all its bits, and the two differ.
      rw [withoutZeroSign_of_not_isZero isZero,
        withoutZeroSign_of_not_isZero (zeros ▸ isZero)] at forms
      exact absurd forms same
    | true =>
      exact (numericallyEqual_iff_of_ne same).mp
        (numericallyEqual_of_isZero isZero (zeros ▸ isZero))

end ClassHeader.Binary
