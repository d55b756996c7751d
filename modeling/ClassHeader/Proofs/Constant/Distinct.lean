import ClassHeader.Proofs.Constant.Text
import ClassHeader.Proofs.Number.Equality
import ClassHeader.Proofs.Text.Literal
import Std.Data.String.ToInt

/-!
# Constants told apart by their texts

The text of a constant tells its type, except that the three narrow integer types look the same
(`ConstantKind.ofText`), and within a type the text tells the value, except for the bits of a NaN.
So two constants have one text just if they are the same number of narrow types, or the same value
of one type (`Constant.text_eq_iff`).
-/

namespace ClassHeader

/-! ### Numbers that are no literals -/

namespace Binary

variable {precision : Precision}

def isFinite (number : Binary precision) : Bool :=
  !number.isNaN && !number.isInfinite

/-- What the quotient that yields a NaN or an infinity begins with. -/
def numeratorText (number : Binary precision) : String :=
  if number.isNaN then "(0.0" else if number.negative then "(-1.0" else "(1.0"

/-- A constant is written as its number or as a quotient by zero. -/
theorem literalText_eq (suffix : String) (number : Binary precision) :
    number.literalText suffix =
      if number.isFinite then number.finiteText ++ suffix
      else number.numeratorText ++ (suffix ++ " / 0.0" ++ suffix ++ ")") := by
  rw [literalText, isFinite, numeratorText]
  cases number.isNaN <;> cases number.isInfinite <;> simp [String.append_assoc]

theorem isInfinite_of_not_isFinite {number : Binary precision} (special : number.isFinite = false)
    (isNumber : number.isNaN = false) : number.isInfinite = true := by
  simpa [isFinite, isNumber] using special

/-- Infinities of one sign have the same bits. -/
theorem eq_of_isInfinite {left right : Binary precision} (infinite : left.isInfinite = true)
    (infinite' : right.isInfinite = true) (sign : left.negative = right.negative) :
    left = right := by
  rw [isInfinite, Bool.and_eq_true, beq_iff_eq, beq_iff_eq] at infinite infinite'
  exact eq_of_fields sign (infinite.1.trans infinite'.1.symm) (infinite.2.trans infinite'.2.symm)

/-- The numerator tells a NaN from an infinity, and the infinities from each other. -/
theorem numeratorText_inj {left right : Binary precision}
    (same : left.numeratorText = right.numeratorText) :
    left.isNaN = right.isNaN ∧ (left.isNaN = false → left.negative = right.negative) := by
  rw [numeratorText, numeratorText] at same
  cases isNaN : left.isNaN <;> cases isNaN' : right.isNaN <;>
    cases negative : left.negative <;> cases negative' : right.negative <;>
    simp [isNaN, isNaN', negative, negative'] at same ⊢

theorem finiteText_begins (number : Binary precision) :
    ∃ first more, number.finiteText.toList = first :: more ∧
      (first.isDigit = true ∨ first = '-') := by
  obtain ⟨first, more, magnitude, isDigit⟩ := number.magnitudeText_begins
  rw [toList_finiteText, magnitude]
  cases number.negative with
  | false => exact ⟨first, more, rfl, Or.inl isDigit⟩
  | true => exact ⟨'-', first :: more, rfl, Or.inr rfl⟩

theorem numeratorText_begins (number : Binary precision) :
    ∃ more, number.numeratorText.toList = '(' :: more := by
  rw [numeratorText]
  split
  · exact ⟨['0', '.', '0'], by simp⟩
  · split
    · exact ⟨['-', '1', '.', '0'], by simp⟩
    · exact ⟨['1', '.', '0'], by simp⟩

/-- No number begins as a quotient does. -/
theorem finiteText_append_ne_numeratorText_append (left right : Binary precision)
    (rest rest' : String) : left.finiteText ++ rest ≠ right.numeratorText ++ rest' := by
  intro same
  obtain ⟨first, more, text, begins⟩ := left.finiteText_begins
  obtain ⟨more', text'⟩ := right.numeratorText_begins
  have heads := congrArg (fun text => text.toList.head?) same
  simp only [String.toList_append, text, text', List.cons_append, List.head?_cons,
    Option.some.injEq] at heads
  subst heads
  exact absurd begins (by decide)

/-- Floating-point constants have one text just if they are both NaN or have the same bits. -/
theorem literalText_eq_iff (suffix : String) (left right : Binary precision) :
    left.literalText suffix = right.literalText suffix ↔
      left.isNaN = true ∧ right.isNaN = true ∨ left.bits = right.bits := by
  constructor
  · intro same
    rw [literalText_eq, literalText_eq] at same
    -- Both are numbers or both are quotients: the first character tells which.
    cases finite : left.isFinite <;> cases finite' : right.isFinite <;>
      simp only [finite, finite', Bool.false_eq_true, if_false, if_true] at same
    · obtain ⟨nans, signs⟩ := numeratorText_inj ((String.append_left_inj _).mp same)
      cases isNaN : left.isNaN with
      | true => exact Or.inl ⟨rfl, nans ▸ isNaN⟩
      | false =>
        have infinite := isInfinite_of_not_isFinite finite isNaN
        have infinite' := isInfinite_of_not_isFinite finite' (nans ▸ isNaN)
        exact Or.inr (congrArg bits (eq_of_isInfinite infinite infinite' (signs isNaN)))
    · exact absurd same.symm (finiteText_append_ne_numeratorText_append _ _ _ _)
    · exact absurd same (finiteText_append_ne_numeratorText_append _ _ _ _)
    · exact Or.inr (congrArg bits (finiteText_injective ((String.append_left_inj _).mp same)))
  · rintro (⟨isNaN, isNaN'⟩ | same)
    · rw [literalText, literalText, if_pos isNaN, if_pos isNaN']
    · cases left
      cases right
      cases same
      rfl

end Binary

/-! ### The characters of a number -/

/-- A decimal has a point or an exponent. -/
theorem Decimal.point_or_exponent_mem_text (style : DecimalStyle) (decimal : Decimal) :
    '.' ∈ decimal.text style ∨ 'e' ∈ decimal.text style := by
  rw [text]
  split
  · left
    rw [positional]
    dsimp only
    split
    · simp
    · split <;> simp
  · right
    simp [scientific]

/-- Whether a character can stand in a number or in a quotient of numbers. -/
def inQuotient (char : Char) : Bool :=
  inNumber char || char == '(' || char == ' ' || char == '/' || char == ')'

theorem inQuotient_of_inNumber {char : Char} (isPart : inNumber char = true) :
    inQuotient char = true := by
  simp [inQuotient, isPart]

namespace Binary

variable {precision : Precision} (number : Binary precision)

theorem point_or_exponent_mem_finiteText :
    '.' ∈ number.finiteText.toList ∨ 'e' ∈ number.finiteText.toList := by
  have magnitude : '.' ∈ number.magnitudeText ∨ 'e' ∈ number.magnitudeText := by
    rw [magnitudeText]
    split
    · exact Or.inl (by simp)
    · exact Decimal.point_or_exponent_mem_text .standard number.shortest
  rw [toList_finiteText, List.mem_append, List.mem_append]
  exact magnitude.imp Or.inr Or.inr

theorem inQuotient_of_mem_numeratorText {char : Char}
    (member : char ∈ number.numeratorText.toList) : inQuotient char = true := by
  have all : number.numeratorText.toList.all inQuotient = true := by
    rw [numeratorText]
    split
    · decide
    · split <;> decide
  exact List.all_eq_true.mp all char member

variable {suffix : String}

theorem point_or_exponent_mem_literalText :
    '.' ∈ (number.literalText suffix).toList ∨ 'e' ∈ (number.literalText suffix).toList := by
  rw [literalText_eq]
  split
  · rw [String.toList_append, List.mem_append, List.mem_append]
    exact number.point_or_exponent_mem_finiteText.imp Or.inl Or.inl
  · left
    simp

theorem mem_literalText_of_mem_suffix {char : Char} (member : char ∈ suffix.toList) :
    char ∈ (number.literalText suffix).toList := by
  rw [literalText_eq]
  split <;> simp [member]

theorem inQuotient_of_mem_literalText {char : Char}
    (member : char ∈ (number.literalText suffix).toList) (notSuffix : char ∉ suffix.toList) :
    inQuotient char = true := by
  rw [literalText_eq] at member
  split at member
  · rw [String.toList_append, List.mem_append] at member
    exact inQuotient_of_inNumber (inNumber_of_mem_finiteText (member.resolve_right notSuffix))
  · -- What is not finite is written as a quotient by zero, in parentheses.
    simp only [String.toList_append, List.mem_append, notSuffix, or_false, false_or] at member
    obtain numerator | denominator | closing := member
    · exact number.inQuotient_of_mem_numeratorText numerator
    · have all : " / 0.0".toList.all inQuotient = true := by decide
      exact List.all_eq_true.mp all char denominator
    · have all : ")".toList.all inQuotient = true := by decide
      exact List.all_eq_true.mp all char closing

end Binary

/-! ### Types -/

/-- The type that the text of a constant tells. The narrow integer types are one. -/
def ConstantKind.told : ConstantKind → ConstantKind
  | .byte | .short => .int
  | kind => kind

/-- The type of a number or a quotient, by the letters and the point in it. -/
def ConstantKind.ofNumber (text : List Char) : ConstantKind :=
  if 'L' ∈ text then .long
  else if 'f' ∈ text then .float
  else if '.' ∈ text ∨ 'e' ∈ text then .double
  else .int

/-- The type of a constant as its text tells it: by a quote or a word, or as that of a number. -/
def ConstantKind.ofText : List Char → ConstantKind
  | '\'' :: _ => .char
  | '"' :: _ => .string
  | 't' :: _ | 'f' :: _ => .boolean
  | text => ofNumber text

/-- Whether a text begins as a number or a quotient does. -/
def BeginsNumber (text : List Char) : Prop :=
  ∃ first more, text = first :: more ∧ (first.isDigit = true ∨ first = '-' ∨ first = '(')

theorem BeginsNumber.append {text : List Char} (begins : BeginsNumber text) (rest : List Char) :
    BeginsNumber (text ++ rest) := by
  obtain ⟨first, more, rfl, isNumber⟩ := begins
  exact ⟨first, more ++ rest, rfl, isNumber⟩

theorem BeginsNumber.ofText_eq {text : List Char} (begins : BeginsNumber text) :
    ConstantKind.ofText text = ConstantKind.ofNumber text := by
  obtain ⟨first, more, rfl, isNumber⟩ := begins
  rw [ConstantKind.ofText]
  all_goals
    rintro rest same
    obtain ⟨rfl, -⟩ := List.cons.inj same
    exact absurd isNumber (by decide)

theorem beginsNumber_repr (value : Int) : BeginsNumber value.repr.toList := by
  rcases toList_repr_cases value with ⟨number, -, digits⟩ | ⟨number, -, -, digits⟩
  · obtain ⟨first, more, begins, isDigit⟩ := toDigits_begins number
    exact ⟨first, more, digits.trans begins, Or.inl isDigit⟩
  · exact ⟨'-', _, digits, Or.inr (Or.inl rfl)⟩

theorem isDigit_or_sign_of_mem_repr {value : Int} {char : Char}
    (member : char ∈ value.repr.toList) : char.isDigit = true ∨ char = '-' := by
  rcases toList_repr_cases value with ⟨number, -, digits⟩ | ⟨number, -, -, digits⟩
  · exact Or.inl (isDigit_of_mem_toDigits (digits ▸ member))
  · rw [digits, List.mem_cons] at member
    exact member.symm.imp_left isDigit_of_mem_toDigits

namespace ConstantKind

theorem ofText_repr (value : Int) : ofText value.repr.toList = .int := by
  have other {char : Char} (letter : ¬ (char.isDigit = true ∨ char = '-')) :
      char ∉ value.repr.toList := fun member => letter (isDigit_or_sign_of_mem_repr member)
  rw [(beginsNumber_repr value).ofText_eq, ofNumber, if_neg (other (by decide)),
    if_neg (other (by decide)), if_neg (not_or.mpr ⟨other (by decide), other (by decide)⟩)]

theorem ofText_long (value : Int) : ofText (value.repr ++ "L").toList = .long := by
  rw [String.toList_append, ((beginsNumber_repr value).append _).ofText_eq, ofNumber, if_pos]
  simp

section

variable {precision : Precision} (number : Binary precision)

theorem beginsNumber_literalText (suffix : String) :
    BeginsNumber (number.literalText suffix).toList := by
  rw [Binary.literalText_eq]
  split
  · rw [String.toList_append]
    obtain ⟨first, more, begins, isNumber⟩ := number.finiteText_begins
    exact .append ⟨first, more, begins, isNumber.imp_right Or.inl⟩ _
  · rw [String.toList_append]
    obtain ⟨more, begins⟩ := number.numeratorText_begins
    exact .append ⟨'(', more, begins, Or.inr (Or.inr rfl)⟩ _

theorem not_mem_literalText {suffix : String} {char : Char} (letter : inQuotient char = false)
    (notSuffix : char ∉ suffix.toList) : char ∉ (number.literalText suffix).toList := by
  intro member
  rw [number.inQuotient_of_mem_literalText member notSuffix] at letter
  cases letter

theorem ofText_float : ofText (number.literalText "f").toList = .float := by
  rw [(beginsNumber_literalText number "f").ofText_eq, ofNumber,
    if_neg (not_mem_literalText number (by decide) (by simp)),
    if_pos (number.mem_literalText_of_mem_suffix (by simp))]

theorem ofText_double : ofText (number.literalText "").toList = .double := by
  rw [(beginsNumber_literalText number "").ofText_eq, ofNumber,
    if_neg (not_mem_literalText number (by decide) (by simp)),
    if_neg (not_mem_literalText number (by decide) (by simp)),
    if_pos number.point_or_exponent_mem_literalText]

end

/-- The text of a constant tells its type, and no more of the narrow integer types than that it is
one of them. -/
theorem ofText_text (constant : Constant) :
    ofText constant.text.toList = constant.kind.told := by
  cases constant with
  | boolean value => cases value <;> rfl
  | byte value => exact ofText_repr value.toInt
  | short value => exact ofText_repr value.toInt
  | int value => exact ofText_repr value.toInt
  | long value => exact ofText_long value.toInt
  | char unit =>
    rw [Constant.text, String.toList_ofList]
    rfl
  | float value => exact ofText_float value
  | double value => exact ofText_double value
  | string value =>
    rw [Constant.text, String.toList_ofList]
    rfl

end ConstantKind

/-! ### Values -/

namespace Constant

/-- The value of a constant of one of the narrow integer types. -/
def narrow? : Constant → Option Int
  | .byte value => some value.toInt
  | .short value => some value.toInt
  | .int value => some value.toInt
  | _ => none

/-- Whether two constants are of one type and have one value. All NaNs of a type are one value.
Other floating-point numbers are one value if all their bits agree, so that the two zeros are two.
-/
def SameValue : Constant → Constant → Prop
  | .boolean left, .boolean right => left = right
  | .byte left, .byte right => left = right
  | .short left, .short right => left = right
  | .int left, .int right => left = right
  | .long left, .long right => left = right
  | .char left, .char right => left = right
  | .float left, .float right =>
    left.isNaN = true ∧ right.isNaN = true ∨ left.bits = right.bits
  | .double left, .double right =>
    left.isNaN = true ∧ right.isNaN = true ∨ left.bits = right.bits
  | .string left, .string right => left = right
  | _, _ => False

theorem text_of_narrow? {constant : Constant} {value : Int}
    (narrow : constant.narrow? = some value) : constant.text = value.repr := by
  cases constant with
  | byte | short | int =>
    cases narrow
    rfl
  | _ => cases narrow

theorem text_eq_of_sameValue {left right : Constant} (same : left.SameValue right) :
    left.text = right.text := by
  revert same
  fun_cases SameValue left right <;> intro same
  case case7 left right => exact (Binary.literalText_eq_iff "f" left right).mpr same
  case case8 left right => exact (Binary.literalText_eq_iff "" left right).mpr same
  case case10 => exact same.elim
  all_goals rw [same]

/-- Two constants are the same number of narrow integer types. -/
def SameNarrow (left right : Constant) : Prop :=
  ∃ value, left.narrow? = some value ∧ right.narrow? = some value

theorem same_of_text_eq {left right : Constant} (same : left.text = right.text) :
    left.SameNarrow right ∨ left.SameValue right := by
  have types : left.kind.told = right.kind.told := by
    rw [← ConstantKind.ofText_text, same, ConstantKind.ofText_text]
  -- Pairs of types that look different contradict `types`.
  cases left <;> cases right <;> try cases types
  case boolean.boolean.refl left right =>
    have distinct : "true" ≠ "false" := by decide
    cases left <;> cases right
    · exact Or.inr rfl
    · exact absurd same.symm distinct
    · exact absurd same distinct
    · exact Or.inr rfl
  case long.long.refl left right =>
    exact Or.inr (Int64.toInt_inj.mp (Int.repr_inj.mp ((String.append_left_inj _).mp same)))
  case char.char.refl left right =>
    have units := (Literal.text_inj (Or.inr rfl)).mp (String.ofList_injective same)
    exact Or.inr (List.singleton_inj.mp units)
  case float.float.refl left right =>
    exact Or.inr ((Binary.literalText_eq_iff "f" left right).mp same)
  case double.double.refl left right =>
    exact Or.inr ((Binary.literalText_eq_iff "" left right).mp same)
  case string.string.refl left right =>
    have units := (Literal.text_inj (Or.inl rfl)).mp (String.ofList_injective same)
    exact Or.inr (Utf16.encode_injective units)
  -- What is left is two constants of narrow types, which are written as their values.
  all_goals exact Or.inl ⟨_, rfl, congrArg some (Int.repr_inj.mp same).symm⟩

/-- Constants have one text just if they are the same number of narrow integer types, or if they are
of one type and have one value. -/
theorem text_eq_iff (left right : Constant) :
    left.text = right.text ↔ left.SameNarrow right ∨ left.SameValue right := by
  constructor
  · exact same_of_text_eq
  · rintro (⟨value, narrow, narrow'⟩ | same)
    · rw [text_of_narrow? narrow, text_of_narrow? narrow']
    · exact text_eq_of_sameValue same

/-- The zeros, the infinities and two numbers of different types. -/
example : (float ⟨0⟩).text ≠ (float ⟨0x80000000⟩).text ∧
    (double ⟨0x7ff0000000000000⟩).text ≠ (double ⟨0xfff0000000000000⟩).text ∧
    (long 1).text ≠ (int 1).text := by
  decide

end Constant

end ClassHeader
