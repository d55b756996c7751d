import ClassHeader.Number.Layout
import ClassHeader.Proofs.Number.Shortest
import ClassHeader.Proofs.Text.Words

/-!
# The text of a number tells the number

Positional and scientific texts are read by one reader: the digits on both sides of the point, taken
as one number, and the exponent less the digits after the point. What it reads from the text of a
decimal is the value of the decimal, so that the text of a finite number tells its magnitude. The
sign stands before it.
-/

namespace ClassHeader

theorem natOfWord_append (left right : List Char) :
    natOfWord (left ++ right) = 10 ^ right.length * natOfWord left + natOfWord right := by
  rw [natOfWord, Nat.ofDigitChars_append, Nat.ofDigitChars_eq_ofDigitChars_zero]
  rfl

theorem natOfWord_zeros (count : Nat) : natOfWord (List.replicate count '0') = 0 := by
  rw [natOfWord, Nat.ofDigitChars_replicate_zero, Nat.mul_zero]

theorem natOfWord_append_zeros (digits : List Char) (count : Nat) :
    natOfWord (digits ++ List.replicate count '0') = 10 ^ count * natOfWord digits := by
  rw [natOfWord_append, natOfWord_zeros, List.length_replicate, Nat.add_zero]

theorem natOfWord_zeros_append (count : Nat) (digits : List Char) :
    natOfWord (List.replicate count '0' ++ digits) = natOfWord digits := by
  rw [natOfWord_append, natOfWord_zeros, Nat.mul_zero, Nat.zero_add]

namespace Decimal

/-! ### Reading -/

/-- The digits after a point. -/
def readFraction : List Char → List Char × List Char
  | '.' :: rest => rest.span Char.isDigit
  | rest => ([], rest)

def readSigned : List Char → Int
  | '-' :: digits => -natOfWord digits
  | digits => natOfWord digits

/-- The exponent after its letter, or no exponent. -/
def readExponent : List Char → Int
  | 'e' :: digits => readSigned digits
  | _ => 0

/-- The value of a text of digits, which may have a point and an exponent. -/
def read (text : List Char) : ℚ :=
  let (whole, rest) := text.span Char.isDigit
  let (fraction, rest) := readFraction rest
  natOfWord (whole ++ fraction) * 10 ^ (readExponent rest - fraction.length)

theorem readSigned_repr (value : Int) : readSigned value.repr.toList = value := by
  rcases Int.le_total 0 value with positive | negative
  · obtain ⟨number, rfl⟩ := Int.eq_ofNat_of_zero_le positive
    rw [toList_repr_natCast, readSigned, natOfWord_toDigits]
    -- The digits of a natural number do not begin with a sign.
    rintro digits signed
    have member : '-' ∈ Nat.toDigits 10 number := signed ▸ List.mem_cons_self
    exact absurd (isDigit_of_mem_toDigits member) (by decide)
  · obtain ⟨number, negated⟩ := Int.eq_ofNat_of_zero_le (Int.neg_nonneg.mpr negative)
    obtain rfl : value = -number := by omega
    rcases Nat.eq_zero_or_pos number with rfl | positive
    · rfl
    · rw [toList_repr_neg positive, readSigned, natOfWord_toDigits]

variable {whole fraction rest : List Char}

theorem read_point (digits : ∀ char ∈ whole, char.isDigit = true)
    (digits' : ∀ char ∈ fraction, char.isDigit = true) (stops : Stops Char.isDigit rest) :
    read (whole ++ '.' :: fraction ++ rest) =
      natOfWord (whole ++ fraction) * 10 ^ (readExponent rest - fraction.length) := by
  have first : (whole ++ '.' :: (fraction ++ rest)).span Char.isDigit =
      (whole, '.' :: (fraction ++ rest)) := span_word digits rfl
  rw [read, List.append_assoc, List.cons_append, first]
  simp only [readFraction, span_word digits' stops]

theorem read_point_of_no_exponent (digits : ∀ char ∈ whole, char.isDigit = true)
    (digits' : ∀ char ∈ fraction, char.isDigit = true) :
    read (whole ++ '.' :: fraction) =
      natOfWord (whole ++ fraction) * 10 ^ (-(fraction.length : Int)) := by
  have stops : Stops Char.isDigit [] := trivial
  have text := read_point digits digits' stops
  rwa [List.append_nil, readExponent, zero_sub] at text
  nofun

theorem read_exponent (digits : ∀ char ∈ whole, char.isDigit = true) :
    read (whole ++ 'e' :: rest) = natOfWord whole * 10 ^ readSigned rest := by
  have first : (whole ++ 'e' :: rest).span Char.isDigit = (whole, 'e' :: rest) :=
    span_word digits rfl
  have none' : readFraction ('e' :: rest) = ([], 'e' :: rest) := rfl
  rw [read, first]
  simp only [none', readExponent, List.append_nil, List.length_nil, Nat.cast_zero, sub_zero]

variable (decimal : Decimal)

theorem isDigit_of_mem_digits {decimal : Decimal} : ∀ char ∈ decimal.digits, char.isDigit = true :=
  fun _ member => isDigit_of_mem_toDigits member

theorem natOfWord_digits : natOfWord decimal.digits = decimal.coefficient :=
  natOfWord_toDigits decimal.coefficient

theorem isDigit_of_mem_zeros (count : Nat) :
    ∀ char ∈ List.replicate count '0', char.isDigit = true := by
  intro char member
  rw [List.eq_of_mem_replicate member]
  rfl

theorem isDigit_of_mem_zero : ∀ char ∈ ['0'], char.isDigit = true :=
  isDigit_of_mem_zeros 1

theorem read_zeros_after (zeros : Nat) :
    read (decimal.digits ++ List.replicate zeros '0' ++ ['.', '0']) =
      decimal.coefficient * 10 ^ zeros := by
  have whole : ∀ char ∈ decimal.digits ++ List.replicate zeros '0', char.isDigit = true := by
    intro char member
    rcases List.mem_append.mp member with digit | zero
    · exact isDigit_of_mem_digits char digit
    · exact isDigit_of_mem_zeros zeros char zero
  -- The zero after the point counts for the number and again for its places.
  have tenfold : natOfWord (decimal.digits ++ List.replicate zeros '0' ++ ['0']) =
      10 ^ 1 * (10 ^ zeros * decimal.coefficient) := by
    rw [← decimal.natOfWord_digits, ← natOfWord_append_zeros]
    exact natOfWord_append_zeros _ 1
  rw [read_point_of_no_exponent whole isDigit_of_mem_zero, tenfold, List.length_singleton,
    Nat.cast_one, zpow_neg_one]
  push_cast
  ring

theorem read_point_inside {places : Nat} (inside : places < decimal.digits.length) :
    read (decimal.digits.take (decimal.digits.length - places) ++
        '.' :: decimal.digits.drop (decimal.digits.length - places)) =
      decimal.coefficient * 10 ^ (-(places : Int)) := by
  have length : (decimal.digits.drop (decimal.digits.length - places)).length = places := by
    rw [List.length_drop]
    omega
  rw [read_point_of_no_exponent, List.take_append_drop, length, natOfWord_digits]
  · exact fun char member => isDigit_of_mem_digits char (List.mem_of_mem_take member)
  · exact fun char member => isDigit_of_mem_digits char (List.mem_of_mem_drop member)

theorem read_zeros_before {places : Nat} (before : decimal.digits.length ≤ places) :
    read ('0' :: '.' :: List.replicate (places - decimal.digits.length) '0' ++ decimal.digits) =
      decimal.coefficient * 10 ^ (-(places : Int)) := by
  have fraction : ∀ char ∈ List.replicate (places - decimal.digits.length) '0' ++ decimal.digits,
      char.isDigit = true := by
    intro char member
    rcases List.mem_append.mp member with zero | digit
    · exact isDigit_of_mem_zeros _ char zero
    · exact isDigit_of_mem_digits char digit
  have length : (List.replicate (places - decimal.digits.length) '0' ++
      decimal.digits).length = places := by
    rw [List.length_append, List.length_replicate, Nat.sub_add_cancel before]
  -- Zeros in front do not change the number, and only add to the places after the point.
  have number : natOfWord (['0'] ++ (List.replicate (places - decimal.digits.length) '0' ++
      decimal.digits)) = decimal.coefficient :=
    (natOfWord_zeros_append 1 _).trans
      ((natOfWord_zeros_append _ _).trans decimal.natOfWord_digits)
  have text := read_point_of_no_exponent isDigit_of_mem_zero fraction
  rwa [length, number] at text

theorem read_positional : read decimal.positional = decimal.value := by
  rw [positional, value]
  split
  case isTrue whole =>
    obtain ⟨zeros, exponent⟩ := Int.eq_ofNat_of_zero_le whole
    rw [exponent, Int.toNat_natCast, zpow_natCast]
    exact decimal.read_zeros_after zeros
  case isFalse fractional =>
    obtain ⟨places, negated⟩ := Int.eq_ofNat_of_zero_le (show 0 ≤ -decimal.exponent by omega)
    rw [← Int.neg_neg decimal.exponent, negated, Int.neg_neg, Int.toNat_natCast]
    dsimp only
    split
    case isTrue inside => exact decimal.read_point_inside inside
    case isFalse before => exact decimal.read_zeros_before (Nat.le_of_not_lt before)

theorem read_scientific : read decimal.scientific = decimal.value := by
  obtain ⟨first, more, digits, isDigit⟩ := toDigits_begins decimal.coefficient
  change decimal.digits = first :: more at digits
  have whole : ∀ char ∈ [first], char.isDigit = true := by simpa using isDigit
  have length : decimal.digits.length = more.length + 1 := congrArg List.length digits
  have coefficient : natOfWord (first :: more) = decimal.coefficient :=
    digits ▸ decimal.natOfWord_digits
  -- A single digit has no point after it.
  cases more with
  | nil =>
    have text : decimal.scientific = [first] ++ 'e' :: decimal.leadingExponent.repr.toList := by
      simp [scientific, digits]
    rw [text, read_exponent whole, readSigned_repr, coefficient, leadingExponent, length, value]
    simp
  | cons second more =>
    have text : decimal.scientific = [first] ++ '.' :: (second :: more) ++
        'e' :: decimal.leadingExponent.repr.toList := by
      simp [scientific, digits]
    have fraction : ∀ char ∈ second :: more, char.isDigit = true := by
      intro char member
      exact isDigit_of_mem_digits char (digits ▸ List.mem_cons_of_mem first member)
    have stops : Stops Char.isDigit ('e' :: decimal.leadingExponent.repr.toList) := rfl
    rw [text, read_point whole fraction stops, readExponent, readSigned_repr,
      List.singleton_append, coefficient, leadingExponent, length, value]
    simp

theorem read_text (style : DecimalStyle) : read (decimal.text style) = decimal.value := by
  rw [text]
  split
  · exact decimal.read_positional
  · exact decimal.read_scientific

/-- A text of a decimal begins with a digit. -/
theorem text_begins (style : DecimalStyle) :
    ∃ first more, decimal.text style = first :: more ∧ first.isDigit = true := by
  obtain ⟨first, more, digits, isDigit⟩ := toDigits_begins decimal.coefficient
  change decimal.digits = first :: more at digits
  rw [text]
  split
  · rw [positional, digits]
    split
    · exact ⟨first, _, rfl, isDigit⟩
    · dsimp only
      split
      -- With the point among the digits, one of them at least is before it; else there is a zero.
      case isTrue inside =>
        obtain ⟨whole, count⟩ := Nat.exists_eq_succ_of_ne_zero (Nat.sub_ne_zero_of_lt inside)
        rw [count, List.take_succ_cons]
        exact ⟨first, _, rfl, isDigit⟩
      case isFalse => exact ⟨'0', _, rfl, rfl⟩
  · rw [scientific, digits]
    exact ⟨first, _, rfl, isDigit⟩

end Decimal

namespace Binary

variable {precision : Precision}

/-- The text of a finite number without its sign. -/
def magnitudeText (number : Binary precision) : List Char :=
  if number.isZero then ['0', '.', '0'] else number.shortest.text DecimalStyle.standard

theorem toList_finiteText (number : Binary precision) :
    number.finiteText.toList =
      (if number.negative then ['-'] else []) ++ number.magnitudeText :=
  String.toList_ofList

theorem magnitudeText_begins (number : Binary precision) :
    ∃ first more, number.magnitudeText = first :: more ∧ first.isDigit = true := by
  rw [magnitudeText]
  split
  · exact ⟨'0', _, rfl, rfl⟩
  · exact number.shortest.text_begins DecimalStyle.standard

theorem read_magnitudeText (number : Binary precision) :
    Decimal.read number.magnitudeText =
      if number.isZero then 0 else number.shortest.value := by
  rw [magnitudeText]
  split
  · have zero : natOfWord ['0', '0'] = 0 := natOfWord_zeros 2
    have text : Decimal.read (['0'] ++ ['.', '0']) = _ :=
      Decimal.read_point_of_no_exponent Decimal.isDigit_of_mem_zero
        Decimal.isDigit_of_mem_zero
    rwa [List.singleton_append, List.singleton_append, zero, Nat.cast_zero, zero_mul] at text
  · exact Decimal.read_text _ _

/-- The text without the sign tells the bits other than the sign. -/
theorem magnitude_eq_of_magnitudeText {left right : Binary precision}
    (same : left.magnitudeText = right.magnitudeText) : left.magnitude = right.magnitude := by
  have values := left.read_magnitudeText
  rw [same, read_magnitudeText] at values
  -- Only a zero has the value zero.
  cases isZero : left.isZero <;> cases isZero' : right.isZero
  · simp only [isZero, isZero', Bool.false_eq_true, if_false] at values
    exact magnitude_eq_of_shortest_value isZero isZero' values.symm
  · simp only [isZero, isZero', if_true, Bool.false_eq_true, if_false] at values
    exact absurd values (shortest_value_pos isZero).ne
  · simp only [isZero, isZero', if_true, Bool.false_eq_true, if_false] at values
    exact absurd values (shortest_value_pos isZero').ne'
  · rw [isZero_iff_magnitude] at isZero isZero'
    rw [isZero, isZero']

/-- What follows a sign tells it, unless it begins with a sign itself. -/
theorem sign_append_inj {left right : Bool} {rest rest' : List Char}
    (unsigned : rest.head? ≠ some '-') (unsigned' : rest'.head? ≠ some '-')
    (same : (if left then ['-'] else []) ++ rest = (if right then ['-'] else []) ++ rest') :
    left = right ∧ rest = rest' := by
  cases left <;> cases right
  · exact ⟨rfl, same⟩
  · exact absurd (congrArg List.head? same) unsigned
  · exact absurd (congrArg List.head? same).symm unsigned'
  · exact ⟨rfl, List.tail_eq_of_cons_eq same⟩

theorem magnitudeText_head?_ne_sign (number : Binary precision) :
    number.magnitudeText.head? ≠ some '-' := by
  obtain ⟨first, more, text, isDigit⟩ := number.magnitudeText_begins
  rw [text, List.head?_cons]
  rintro ⟨⟩
  exact absurd isDigit (by decide)

/-- Distinct numbers have distinct texts. -/
theorem finiteText_injective : Function.Injective (finiteText : Binary precision → String) := by
  intro left right same
  have texts := congrArg String.toList same
  rw [toList_finiteText, toList_finiteText] at texts
  obtain ⟨sign, text⟩ := sign_append_inj left.magnitudeText_head?_ne_sign
    right.magnitudeText_head?_ne_sign texts
  exact eq_of_magnitude sign (magnitude_eq_of_magnitudeText text)

end Binary

end ClassHeader
