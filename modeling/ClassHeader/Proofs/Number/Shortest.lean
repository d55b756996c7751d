import ClassHeader.Proofs.Number.Equality
import ClassHeader.Number.Shortest
import Mathlib.Algebra.Order.Field.Power
import Mathlib.Data.Rat.Cast.Order
import Mathlib.Tactic.NormNum
import Mathlib.Tactic.Positivity
import Mathlib.Tactic.Ring

/-!
# Shortest decimals tell numbers apart

The shortest decimal of a number lies in the interval of the reals that round to the number. Two
neighbours among the numbers share the point half way between them and nothing else, and the point
belongs to one of them only, the one with the even significand. A decimal therefore lies in the
interval of one number at most, and the number can be told from it.
-/

namespace ClassHeader

/-- The number that a decimal denotes. -/
def Decimal.value (decimal : Decimal) : ℚ :=
  decimal.coefficient * 10 ^ decimal.exponent

/-- Whether a value lies between two others, or is one of them if these are included. -/
structure Between (closed : Bool) (low high value : ℚ) : Prop where
  low_le : low ≤ value
  le_high : value ≤ high
  apart : closed = false → value ≠ low ∧ value ≠ high

namespace Surrounding

variable {around : Surrounding}

/-- Whether the interval, whose ends are counted in units, has a value in it. -/
def Includes (around : Surrounding) (value : ℚ) : Prop :=
  Between around.closed (around.low * 10 ^ around.unit) (around.high * 10 ^ around.unit) value

theorem includes_of_contains {value : Nat} (inside : around.contains value = true) :
    around.Includes (value * 10 ^ around.unit) := by
  have positive : (0 : ℚ) < 10 ^ around.unit := by positivity
  rw [contains] at inside
  cases closed : around.closed with
  | true =>
    -- The interval has its ends, and there is nothing to show of an open one.
    have ends : around.low ≤ value ∧ value ≤ around.high := by simpa [closed] using inside
    rw [Includes, closed]
    constructor
    · exact mul_le_mul_of_nonneg_right (Nat.cast_le.mpr ends.1) positive.le
    · exact mul_le_mul_of_nonneg_right (Nat.cast_le.mpr ends.2) positive.le
    · intro open'
      cases open'
  | false =>
    have ends : around.low < value ∧ value < around.high := by simpa [closed] using inside
    have above := mul_lt_mul_of_pos_right (Nat.cast_lt (α := ℚ).mpr ends.1) positive
    have below := mul_lt_mul_of_pos_right (Nat.cast_lt (α := ℚ).mpr ends.2) positive
    rw [Includes, closed]
    exact ⟨above.le, below.le, fun _ => ⟨above.ne', below.ne⟩⟩

theorem contains_of_nearestMultiple? {step multiple : Nat}
    (found : around.nearestMultiple? step = some multiple) :
    around.contains (multiple * step) = true := by
  -- Whichever of the two multiples is taken, it has been found inside.
  simp only [nearestMultiple?] at found
  split at found
  case h_1 below above =>
    split at found
    · cases found
      exact below
    · cases found
      exact above
  case h_2 below _ =>
    cases found
    exact below
  case h_3 _ above =>
    cases found
    exact above
  case h_4 => cases found

/-- On whatever grid it is found, the decimal lies in the interval, as the middle does. -/
theorem includes_decimalFrom (middle : around.contains around.middle = true) (places : Nat) :
    around.Includes (around.decimalFrom places).value := by
  -- The grid of single units, where the search ends, has the middle itself.
  induction places with
  | zero => exact includes_of_contains middle
  | succ places ih =>
    cases found : around.nearestMultiple? (Nat.pow 10 (places + 1)) with
    | none =>
      rw [decimalFrom, found]
      exact ih
    | some multiple =>
      have value : (Decimal.mk multiple (around.unit + (places + 1 : Nat))).value =
          (multiple * Nat.pow 10 (places + 1) : Nat) * 10 ^ around.unit := by
        simp only [Decimal.value]
        rw [zpow_add₀ (by norm_num), zpow_natCast, Nat.pow_eq]
        push_cast
        ring
      rw [decimalFrom, found, value]
      exact includes_of_contains (contains_of_nearestMultiple? found)

end Surrounding

namespace Binary

/-! ### Points half way between neighbours -/

/-- The significand of the numbers whose bits other than the sign are these. -/
def significandAt (precision : Precision) (magnitude : Nat) : Nat :=
  if magnitude / Nat.pow 2 precision.fractionBits = 0 then
    magnitude % Nat.pow 2 precision.fractionBits
  else Nat.pow 2 precision.fractionBits + magnitude % Nat.pow 2 precision.fractionBits

def scaleAt (precision : Precision) (magnitude : Nat) : Int :=
  precision.leastExponent + (magnitude / Nat.pow 2 precision.fractionBits - 1 : Nat)

/-- Whether the next smaller magnitude is only half as far away as the next greater one. -/
def NarrowBelowAt (precision : Precision) (magnitude : Nat) : Prop :=
  magnitude % Nat.pow 2 precision.fractionBits = 0 ∧
    1 < magnitude / Nat.pow 2 precision.fractionBits

instance (precision : Precision) (magnitude : Nat) :
    Decidable (NarrowBelowAt precision magnitude) :=
  inferInstanceAs (Decidable (_ ∧ _))

/-- The value half way between a magnitude and the next greater one. -/
def halfway (precision : Precision) (magnitude : Nat) : ℚ :=
  (4 * significandAt precision magnitude + 2 : Nat) * 2 ^ (scaleAt precision magnitude - 2)

variable {precision : Precision}

/-- The next greater magnitude has the next fraction, or the first fraction of the next exponent. -/
theorem fields_succ (precision : Precision) (magnitude : Nat) :
    let fractions := Nat.pow 2 precision.fractionBits
    (magnitude + 1) / fractions = magnitude / fractions ∧
        (magnitude + 1) % fractions = magnitude % fractions + 1 ∨
      (magnitude + 1) / fractions = magnitude / fractions + 1 ∧
        (magnitude + 1) % fractions = 0 ∧ magnitude % fractions + 1 = fractions := by
  cases precision <;> simp only [Precision.fractionBits, Nat.pow_eq, Nat.reducePow] <;> omega

/-- Where the exponent goes up, the significand starts again at its least. -/
theorem significandAt_of_narrow {magnitude : Nat}
    (narrow : NarrowBelowAt precision (magnitude + 1)) :
    4 * significandAt precision magnitude + 2 =
        (4 * significandAt precision (magnitude + 1) - 1) * 2 ∧
      scaleAt precision (magnitude + 1) = scaleAt precision magnitude + 1 := by
  obtain ⟨first, normal⟩ := narrow
  rw [significandAt, significandAt, scaleAt, scaleAt]
  rcases fields_succ precision magnitude with ⟨-, fraction⟩ | ⟨exponent, -, last⟩
  · omega
  · rw [if_neg (by omega), if_neg (by omega), exponent, first]
    omega

/-- Elsewhere it goes up by one. -/
theorem significandAt_of_not_narrow {magnitude : Nat}
    (even : ¬ NarrowBelowAt precision (magnitude + 1)) :
    4 * significandAt precision magnitude + 2 =
        4 * significandAt precision (magnitude + 1) - 2 ∧
      scaleAt precision (magnitude + 1) = scaleAt precision magnitude := by
  rw [significandAt, significandAt, scaleAt, scaleAt]
  rcases fields_succ precision magnitude with ⟨exponent, fraction⟩ | ⟨exponent, first, last⟩
  · rw [exponent, fraction]
    split <;> omega
  · -- The first normal numbers are as far apart as the subnormal ones.
    have least : magnitude / Nat.pow 2 precision.fractionBits = 0 := by
      by_contra normal
      exact even ⟨first, exponent ▸ Nat.succ_lt_succ (Nat.pos_of_ne_zero normal)⟩
    rw [exponent, first, least, if_pos rfl, if_neg (by decide)]
    omega

/-- The same point is reached from the next greater magnitude downwards. -/
theorem halfway_eq_below (magnitude : Nat) :
    halfway precision magnitude =
      (4 * significandAt precision (magnitude + 1) -
        if NarrowBelowAt precision (magnitude + 1) then 1 else 2 : Nat) *
          2 ^ (scaleAt precision (magnitude + 1) - 2) := by
  by_cases narrow : NarrowBelowAt precision (magnitude + 1)
  · obtain ⟨significand, scale⟩ := significandAt_of_narrow narrow
    rw [halfway, significand, scale, if_pos narrow, add_sub_right_comm,
      zpow_add_one₀ (by norm_num)]
    push_cast
    ring
  · obtain ⟨significand, scale⟩ := significandAt_of_not_narrow narrow
    rw [halfway, significand, scale, if_neg narrow]

theorem halfway_strictMono : StrictMono (halfway precision) := by
  apply strictMono_nat_of_lt_succ
  intro magnitude
  rw [halfway_eq_below, halfway]
  apply mul_lt_mul_of_pos_right _ (by positivity)
  exact Nat.cast_lt.mpr (by omega)

theorem halfway_pos (magnitude : Nat) : 0 < halfway precision magnitude := by
  rw [halfway]
  positivity

/-- Whether a value rounds to the magnitude after this one. Half way to a neighbour it does so if
the magnitude it rounds to is even. -/
def RoundsToSucc (precision : Precision) (magnitude : Nat) (value : ℚ) : Prop :=
  Between ((magnitude + 1) % 2 == 0) (halfway precision magnitude)
    (halfway precision (magnitude + 1)) value

/-- What two magnitudes share is the point half way between neighbours, and one of these is odd. -/
theorem not_lt_of_roundsToSucc {left right : Nat} {value : ℚ}
    (rounds : RoundsToSucc precision left value) (rounds' : RoundsToSucc precision right value) :
    ¬ left < right := by
  intro less
  have ordered : halfway precision (left + 1) ≤ halfway precision right :=
    halfway_strictMono.monotone less
  have high : value = halfway precision (left + 1) :=
    le_antisymm rounds.le_high (ordered.trans rounds'.low_le)
  have low : value = halfway precision right :=
    le_antisymm (rounds.le_high.trans ordered) rounds'.low_le
  have neighbours : left + 1 = right := halfway_strictMono.injective (high.symm.trans low)
  -- The two magnitudes that the value rounds to are neighbours, and the odd one has no ends.
  by_cases odd : (left + 1) % 2 = 1
  · exact (rounds.apart (by simp [odd])).2 high
  · exact (rounds'.apart (beq_eq_false_iff_ne.mpr (by omega))).1 low

/-- A value rounds to one magnitude at most. -/
theorem eq_of_roundsToSucc {left right : Nat} {value : ℚ}
    (rounds : RoundsToSucc precision left value) (rounds' : RoundsToSucc precision right value) :
    left = right :=
  le_antisymm (Nat.le_of_not_lt (not_lt_of_roundsToSucc rounds' rounds))
    (Nat.le_of_not_lt (not_lt_of_roundsToSucc rounds rounds'))

/-! ### The interval of a number -/

/-- The bits of a number without its sign. -/
def magnitude (number : Binary precision) : Nat :=
  number.exponentField * Nat.pow 2 precision.fractionBits + number.fractionField

variable {number : Binary precision}

theorem fractionField_lt (number : Binary precision) :
    number.fractionField < Nat.pow 2 precision.fractionBits :=
  Nat.mod_lt _ (Nat.two_pow_pos _)

theorem magnitude_div (number : Binary precision) :
    number.magnitude / Nat.pow 2 precision.fractionBits = number.exponentField := by
  have positive : 0 < Nat.pow 2 precision.fractionBits := Nat.two_pow_pos _
  rw [magnitude, Nat.mul_comm, Nat.mul_add_div positive,
    Nat.div_eq_of_lt number.fractionField_lt, Nat.add_zero]

theorem magnitude_mod (number : Binary precision) :
    number.magnitude % Nat.pow 2 precision.fractionBits = number.fractionField := by
  rw [magnitude, Nat.mul_comm, Nat.mul_add_mod, Nat.mod_eq_of_lt number.fractionField_lt]

/-- A number is its sign and its magnitude. -/
theorem eq_of_magnitude {left right : Binary precision} (sign : left.negative = right.negative)
    (same : left.magnitude = right.magnitude) : left = right := by
  apply eq_of_fields sign
  · rw [← magnitude_div, same, magnitude_div]
  · rw [← magnitude_mod, same, magnitude_mod]

theorem isZero_iff_magnitude (number : Binary precision) :
    number.isZero = true ↔ number.magnitude = 0 := by
  have positive : 0 < Nat.pow 2 precision.fractionBits := Nat.two_pow_pos _
  rw [isZero_iff_fields, magnitude, Nat.add_eq_zero_iff, Nat.mul_eq_zero, or_iff_left positive.ne']

theorem significand_eq (number : Binary precision) :
    number.significand = significandAt precision number.magnitude := by
  rw [significand, significandAt, magnitude_div, magnitude_mod]

theorem scale_eq (number : Binary precision) :
    number.scale = scaleAt precision number.magnitude := by
  rw [scale, scaleAt, magnitude_div]

theorem narrowBelow_iff (number : Binary precision) :
    number.narrowBelow = true ↔ NarrowBelowAt precision number.magnitude := by
  rw [narrowBelow, NarrowBelowAt, magnitude_div, magnitude_mod, Bool.and_eq_true, beq_iff_eq,
    decide_eq_true_iff]

/-- The significand and the magnitude end in the same bit. -/
theorem significandAt_mod_two (precision : Precision) (magnitude : Nat) :
    significandAt precision magnitude % 2 = magnitude % 2 := by
  rw [significandAt]
  split <;> cases precision <;>
    simp only [Precision.fractionBits, Nat.pow_eq, Nat.reducePow] at * <;> omega

theorem significandAt_succ_pos (magnitude : Nat) :
    0 < significandAt precision (magnitude + 1) := by
  rw [significandAt]
  split
  case isTrue subnormal =>
    have fields := Nat.div_add_mod (magnitude + 1) (Nat.pow 2 precision.fractionBits)
    rw [subnormal] at fields
    omega
  case isFalse =>
    have positive : 0 < Nat.pow 2 precision.fractionBits := Nat.two_pow_pos _
    omega

/-- So many units of the power of ten are the power of two. -/
theorem factor_mul_unit (quarter : Int) :
    ((Nat.pow 2 quarter.toNat * Nat.pow 5 (-quarter).toNat : Nat) : ℚ) * 10 ^ min quarter 0 =
      2 ^ quarter := by
  rcases Int.le_total 0 quarter with large | small
  · obtain ⟨exponent, rfl⟩ := Int.eq_ofNat_of_zero_le large
    -- The unit is one, and the factor the power of two itself.
    simp
  · obtain ⟨exponent, negated⟩ := Int.eq_ofNat_of_zero_le (Int.neg_nonneg.mpr small)
    obtain rfl : quarter = -exponent := by omega
    have count : Nat.pow 2 (-(exponent : Int)).toNat * Nat.pow 5 (- -(exponent : Int)).toNat =
        5 ^ exponent := by simp
    have ten : (10 : ℚ) ^ exponent = 5 ^ exponent * 2 ^ exponent := by
      rw [← mul_pow]
      norm_num
    have five : (5 : ℚ) ^ exponent ≠ 0 := by positivity
    rw [count, min_eq_left (by omega), zpow_neg, zpow_neg, zpow_natCast, zpow_natCast, ten, mul_inv,
      Nat.cast_pow, Nat.cast_ofNat, mul_inv_cancel_left₀ five]

/-- A number other than zero lies between the ends of its interval. -/
theorem contains_middle {magnitude : Nat} (bits : number.magnitude = magnitude + 1) :
    number.surrounding.contains number.surrounding.middle = true := by
  have positive : 0 < Nat.pow 2 (number.scale - 2).toNat * Nat.pow 5 (-(number.scale - 2)).toNat :=
    Nat.mul_pos (Nat.pow_pos (by decide)) (Nat.pow_pos (by decide))
  have significand : 0 < number.significand := by
    rw [significand_eq, bits]
    exact significandAt_succ_pos magnitude
  have below : number.surrounding.low < number.surrounding.middle :=
    Nat.mul_lt_mul_of_pos_right (by split <;> omega) positive
  have above : number.surrounding.middle < number.surrounding.high :=
    Nat.mul_lt_mul_of_pos_right (by omega) positive
  rw [Surrounding.contains]
  split
  · simp [below.le, above.le]
  · simp [below, above]

/-- The interval of a number reaches half way to the neighbours of its magnitude. -/
theorem roundsToSucc_of_includes {magnitude : Nat} {value : ℚ}
    (bits : number.magnitude = magnitude + 1) (inside : number.surrounding.Includes value) :
    RoundsToSucc precision magnitude value := by
  -- The ends of the interval are half way to the neighbours, and it has them if the last bit is 0.
  have low : (number.surrounding.low : ℚ) * 10 ^ number.surrounding.unit =
      halfway precision magnitude := by
    have significand : number.surrounding.low =
        (4 * significandAt precision (magnitude + 1) -
          if NarrowBelowAt precision (magnitude + 1) then 1 else 2) *
            (Nat.pow 2 (number.scale - 2).toNat * Nat.pow 5 (-(number.scale - 2)).toNat) := by
      rw [← bits, ← significand_eq]
      simp only [← narrowBelow_iff]
      rfl
    rw [significand, Nat.cast_mul, mul_assoc, halfway_eq_below, ← bits, ← scale_eq]
    exact congrArg _ (factor_mul_unit (number.scale - 2))
  have high : (number.surrounding.high : ℚ) * 10 ^ number.surrounding.unit =
      halfway precision (magnitude + 1) := by
    have significand : number.surrounding.high =
        (4 * number.significand + 2) *
          (Nat.pow 2 (number.scale - 2).toNat * Nat.pow 5 (-(number.scale - 2)).toNat) := rfl
    rw [significand, Nat.cast_mul, mul_assoc, halfway, ← bits, ← significand_eq, ← scale_eq]
    exact congrArg _ (factor_mul_unit (number.scale - 2))
  have closed : number.surrounding.closed = ((magnitude + 1) % 2 == 0) := by
    rw [← significandAt_mod_two precision, ← bits, ← significand_eq]
    rfl
  rw [Surrounding.Includes, low, high, closed] at inside
  exact inside

theorem roundsToSucc_shortest {magnitude : Nat} (bits : number.magnitude = magnitude + 1) :
    RoundsToSucc precision magnitude number.shortest.value :=
  roundsToSucc_of_includes bits (Surrounding.includes_decimalFrom (contains_middle bits) _)

theorem shortest_value_pos (nonzero : number.isZero = false) : 0 < number.shortest.value := by
  rw [← Bool.not_eq_true, isZero_iff_magnitude] at nonzero
  obtain ⟨magnitude, bits⟩ := Nat.exists_eq_succ_of_ne_zero nonzero
  exact (halfway_pos magnitude).trans_le (roundsToSucc_shortest bits).low_le

/-- Numbers of different magnitudes have different shortest decimals. -/
theorem magnitude_eq_of_shortest_value {left right : Binary precision}
    (nonzero : left.isZero = false) (nonzero' : right.isZero = false)
    (same : left.shortest.value = right.shortest.value) : left.magnitude = right.magnitude := by
  rw [← Bool.not_eq_true, isZero_iff_magnitude] at nonzero nonzero'
  obtain ⟨magnitude, bits⟩ := Nat.exists_eq_succ_of_ne_zero nonzero
  obtain ⟨magnitude', bits'⟩ := Nat.exists_eq_succ_of_ne_zero nonzero'
  have rounds := roundsToSucc_shortest bits
  rw [same] at rounds
  rw [bits, bits', eq_of_roundsToSucc rounds (roundsToSucc_shortest bits')]

end Binary

end ClassHeader
