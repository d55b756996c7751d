import ClassHeader.Proofs.Number.Layout
import ClassHeader.Proofs.Text.Literal

/-!
# The characters of constants

Constants are printed in visible ASCII: words and numbers for what they are, and quoted literals
because every other character in them is escaped.
-/

namespace ClassHeader

/-! ### Numbers -/

/-- Whether a character can stand in the text of a finite number. -/
def inNumber (char : Char) : Bool :=
  char.isDigit || char == '-' || char == '.' || char == 'e'

theorem inNumber_of_isDigit {char : Char} (isDigit : char.isDigit = true) :
    inNumber char = true := by
  simp [inNumber, isDigit]

theorem isVisible_of_isDigit {char : Char} (isDigit : char.isDigit = true) :
    Literal.IsVisible char := by
  rw [Char.isDigit, Bool.and_eq_true, decide_eq_true_eq, decide_eq_true_eq] at isDigit
  obtain ⟨lower, upper⟩ := isDigit
  rw [ge_iff_le, UInt32.le_iff_toNat_le] at lower
  rw [UInt32.le_iff_toNat_le] at upper
  constructor
  · exact le_trans (by decide) lower
  · exact le_trans upper (by decide)

theorem isVisible_of_inNumber {char : Char} (inNumber : inNumber char = true) :
    Literal.IsVisible char := by
  simp only [ClassHeader.inNumber, Bool.or_eq_true, beq_iff_eq] at inNumber
  obtain ((isDigit | rfl) | rfl) | rfl := inNumber
  · exact isVisible_of_isDigit isDigit
  · decide
  · decide
  · decide

theorem inNumber_of_mem_repr {value : Int} : ∀ char ∈ value.repr.toList, inNumber char = true := by
  intro char member
  rcases toList_repr_cases value with ⟨number, -, digits⟩ | ⟨number, -, -, digits⟩
  · exact inNumber_of_isDigit (isDigit_of_mem_toDigits (digits ▸ member))
  · rw [digits] at member
    rcases List.mem_cons.mp member with rfl | digit
    · rfl
    · exact inNumber_of_isDigit (isDigit_of_mem_toDigits digit)

namespace Decimal

variable {decimal : Decimal} {char : Char}

theorem inNumber_of_mem_digits (member : char ∈ decimal.digits) : inNumber char = true :=
  inNumber_of_isDigit (isDigit_of_mem_digits char member)

theorem inNumber_of_mem_zeros {count : Nat} (member : char ∈ List.replicate count '0') :
    inNumber char = true :=
  inNumber_of_isDigit (isDigit_of_mem_zeros count char member)

theorem inNumber_of_mem_positional (member : char ∈ decimal.positional) : inNumber char = true := by
  -- The point is after all digits, between them or before them.
  rw [positional] at member
  dsimp only at member
  split at member
  case isTrue whole =>
    simp only [List.mem_append, List.mem_cons, List.not_mem_nil, or_false] at member
    obtain (digit | zero) | rfl | rfl := member
    · exact inNumber_of_mem_digits digit
    · exact inNumber_of_mem_zeros zero
    · rfl
    · rfl
  case isFalse fractional =>
    split at member
    case isTrue inside =>
      rcases List.mem_append.mp member with digit | after
      · exact inNumber_of_mem_digits (List.mem_of_mem_take digit)
      · rcases List.mem_cons.mp after with rfl | digit
        · rfl
        · exact inNumber_of_mem_digits (List.mem_of_mem_drop digit)
    case isFalse before =>
      simp only [List.mem_append, List.mem_cons] at member
      obtain (rfl | rfl | zero) | digit := member
      · rfl
      · rfl
      · exact inNumber_of_mem_zeros zero
      · exact inNumber_of_mem_digits digit

theorem inNumber_of_mem_scientific (member : char ∈ decimal.scientific) : inNumber char = true := by
  rw [scientific] at member
  simp only [List.mem_append, List.mem_cons] at member
  obtain (digit | fraction) | rfl | exponent := member
  · exact inNumber_of_mem_digits (List.mem_of_mem_take digit)
  · split at fraction
    case h_1 => cases fraction
    case h_2 rest digits =>
      rcases List.mem_cons.mp fraction with rfl | digit
      · rfl
      · exact inNumber_of_mem_digits (List.mem_of_mem_drop digit)
  · rfl
  · exact inNumber_of_mem_repr char exponent

theorem inNumber_of_mem_text {style : DecimalStyle} (member : char ∈ decimal.text style) :
    inNumber char = true := by
  rw [text] at member
  split at member
  · exact inNumber_of_mem_positional member
  · exact inNumber_of_mem_scientific member

end Decimal

namespace Binary

variable {precision : Precision} {number : Binary precision} {char : Char}

theorem inNumber_of_mem_finiteText (member : char ∈ number.finiteText.toList) :
    inNumber char = true := by
  rw [toList_finiteText] at member
  rcases List.mem_append.mp member with sign | magnitude
  · split at sign
    · rw [List.mem_singleton.mp sign]
      rfl
    · cases sign
  · rw [magnitudeText] at magnitude
    split at magnitude
    · simp only [List.mem_cons, List.not_mem_nil, or_false] at magnitude
      obtain rfl | rfl | rfl := magnitude <;> rfl
    · exact Decimal.inNumber_of_mem_text magnitude

end Binary

/-! ### Constants -/

/-- Whether every character of a text is visible. -/
def IsVisibleText (text : String) : Prop :=
  ∀ char ∈ text.toList, Literal.IsVisible char

namespace IsVisibleText

theorem append {left right : String} (ofLeft : IsVisibleText left) (ofRight : IsVisibleText right) :
    IsVisibleText (left ++ right) := by
  intro char member
  rw [String.toList_append, List.mem_append] at member
  exact member.elim (ofLeft char) (ofRight char)

/-- A word is visible if a check of its characters finds so. -/
theorem of_all {word : String} (all : word.toList.all (Literal.IsVisible ·) = true) :
    IsVisibleText word := by
  intro char member
  exact of_decide_eq_true (List.all_eq_true.mp all char member)

theorem of_number {text : String} (all : ∀ char ∈ text.toList, inNumber char = true) :
    IsVisibleText text :=
  fun char member => isVisible_of_inNumber (all char member)

/-- No newline is in a visible text. -/
theorem newline_not_mem {text : String} (isVisible : IsVisibleText text) : '\n' ∉ text.toList :=
  fun member => absurd (isVisible '\n' member) (by decide)

end IsVisibleText

theorem Binary.isVisibleText_literalText {precision : Precision} (number : Binary precision)
    {suffix : String} (isVisible : IsVisibleText suffix) :
    IsVisibleText (number.literalText suffix) := by
  have opening : IsVisibleText (if number.negative then "(-1.0" else "(1.0") := by
    split <;> exact .of_all (by decide)
  have zero : IsVisibleText " / 0.0" := .of_all (by decide)
  have closing : IsVisibleText ")" := .of_all (by decide)
  rw [literalText]
  split
  · have start : IsVisibleText "(0.0" := .of_all (by decide)
    exact (((start.append isVisible).append zero).append isVisible).append closing
  · split
    · exact (((opening.append isVisible).append zero).append isVisible).append closing
    · exact .append (.of_number fun _ member => inNumber_of_mem_finiteText member) isVisible

/-- A constant is printed in visible ASCII, whatever text it holds. -/
theorem Constant.isVisibleText_text (value : Constant) : IsVisibleText value.text := by
  have of_quoted {quote : Char} (isQuote : Literal.IsQuote quote) (units : List UInt16) :
      IsVisibleText (String.ofList (Literal.text quote units)) := by
    intro char member
    rw [String.toList_ofList] at member
    exact Literal.isVisible_of_mem_text isQuote member
  cases value with
  | boolean value => cases value <;> exact .of_all (by decide)
  | byte | short | int => exact .of_number inNumber_of_mem_repr
  | long => exact .append (.of_number inNumber_of_mem_repr) (.of_all (by decide))
  | char unit => exact of_quoted (Or.inr rfl) [unit]
  | float value => exact value.isVisibleText_literalText (.of_all (by decide))
  | double value => exact value.isVisibleText_literalText (.of_all (by decide))
  | string value => exact of_quoted (Or.inl rfl) (Utf16.encode value)

end ClassHeader
