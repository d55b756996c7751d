import ClassHeader.Tree.Basic
import Mathlib.Data.List.Basic
import Mathlib.Data.List.TakeDrop

/-!
# Words

What a reader of printed text can go by. A word consists of characters of some class and ends where
text goes on with a character outside the class. Qualified names and decimal numbers are words of
one class, and each can be read from its word: a name by its dots, a number by its digits.
-/

namespace ClassHeader

/-- Whether text does not go on with a character of some class. -/
def Stops (inWord : Char → Bool) : List Char → Prop
  | [] => True
  | next :: _ => inWord next = false

/-- Whether text, if it goes on at all, goes on with one of some characters. -/
def GoesOnWith (chars : List Char) : List Char → Prop
  | [] => True
  | next :: _ => next ∈ chars

namespace GoesOnWith

variable {chars rest : List Char} (goesOn : GoesOnWith chars rest)
include goesOn

theorem mono {others : List Char} (sub : chars.all (others.contains ·) = true) :
    GoesOnWith others rest := by
  cases rest with
  | nil => trivial
  | cons next more => exact List.contains_iff_mem.mp (List.all_eq_true.mp sub next goesOn)

theorem stops {inWord : Char → Bool} (none : chars.any inWord = false) : Stops inWord rest := by
  cases rest with
  | nil => trivial
  | cons next more => exact Bool.eq_false_iff.mpr (List.any_eq_false.mp none next goesOn)

theorem ne_cons {char : Char} (other : char ∉ chars) (more : List Char) : rest ≠ char :: more := by
  rintro rfl
  exact other goesOn

theorem isPrefixOf?_eq_none {first : Char} (other : first ∉ chars) (more : List Char) :
    (first :: more).isPrefixOf? rest = none := by
  cases rest with
  | nil => rfl
  | cons next rest =>
    have differs : first ≠ next := by
      rintro rfl
      exact other goesOn
    simp [List.isPrefixOf?, differs]

end GoesOnWith

theorem span_word {inWord : Char → Bool} {word rest : List Char}
    (all : ∀ char ∈ word, inWord char = true) (stops : Stops inWord rest) :
    (word ++ rest).span inWord = (word, rest) := by
  rw [List.span_eq_takeWhile_dropWhile, List.takeWhile_append_of_pos all,
    List.dropWhile_append_of_pos all]
  cases rest with
  | nil => rw [List.takeWhile_nil, List.dropWhile_nil, List.append_nil]
  | cons next more =>
    rw [List.takeWhile_cons_of_neg (Bool.eq_false_iff.mp stops),
      List.dropWhile_cons_of_neg (Bool.eq_false_iff.mp stops), List.append_nil]

/-- Texts that begin with a word are equal if the words are and what follows them is. -/
theorem word_append_inj {inWord : Char → Bool} {word word' rest rest' : List Char}
    (all : ∀ char ∈ word, inWord char = true) (all' : ∀ char ∈ word', inWord char = true)
    (stops : Stops inWord rest) (stops' : Stops inWord rest')
    (same : word ++ rest = word' ++ rest') : word = word' ∧ rest = rest' := by
  have spans := congrArg (List.span inWord) same
  rw [span_word all stops, span_word all' stops', Prod.mk.injEq] at spans
  exact spans

theorem isPrefixOf?_append (text rest : List Char) : text.isPrefixOf? (text ++ rest) = some rest :=
  List.isPrefixOf?_eq_some_iff_append_eq.mpr rfl

theorem isPrefixOf?_singleton (char : Char) (rest : List Char) :
    [char].isPrefixOf? (char :: rest) = some rest :=
  isPrefixOf?_append [char] rest

/-! ### Names -/

/-- Whether a character can stand in an identifier. Outside ASCII every character can, which is more
than there are letters and digits. -/
def isIdentifierPart (char : Char) : Bool :=
  char.isAlphanum || char == '_' || char == '$' || 0x80 ≤ char.toNat ||
    -- Control characters other than white space are ignored in identifiers.
    char.toNat ≤ 0x08 || (0x0e ≤ char.toNat && char.toNat ≤ 0x1b) || char.toNat == 0x7f

/-- Whether a text is an identifier, which begins with any of its characters but a digit. Reserved
words are not told apart from other identifiers. -/
def isIdentifier (segment : String) : Bool :=
  match segment.toList with
  | [] => false
  | first :: more => !first.isDigit && (first :: more).all isIdentifierPart

theorem exists_of_isIdentifier {segment : String} (is : isIdentifier segment = true) :
    ∃ first more, segment.toList = first :: more ∧ first.isDigit = false ∧
      ∀ char ∈ segment.toList, isIdentifierPart char = true := by
  rw [isIdentifier] at is
  cases chars : segment.toList with
  | nil =>
    rw [chars] at is
    cases is
  | cons first more =>
    rw [chars, Bool.and_eq_true, Bool.not_eq_true', List.all_eq_true] at is
    exact ⟨first, more, rfl, is.1, is.2⟩

/-- Whether a character can stand in a qualified name or in a number. -/
def inName (char : Char) : Bool :=
  isIdentifierPart char || char == '.'

theorem inName_of_isDigit {char : Char} (isDigit : char.isDigit = true) : inName char = true := by
  simp [inName, isIdentifierPart, Char.isAlphanum, isDigit]

theorem ne_of_inName {char symbol : Char} (isPart : inName char = true)
    (isSymbol : inName symbol = false) : char ≠ symbol := by
  rintro rfl
  exact absurd isPart (Bool.eq_false_iff.mp isSymbol)

/-- A member of a text of segments is a separator or comes from a segment. -/
theorem mem_intercalate {separator char : Char} {segments : List (List Char)}
    (member : char ∈ [separator].intercalate segments) :
    char = separator ∨ ∃ segment ∈ segments, char ∈ segment := by
  induction segments with
  | nil => cases member
  | cons first rest ih =>
    cases rest with
    | nil =>
      rw [List.intercalate_singleton] at member
      exact Or.inr ⟨first, List.mem_cons_self, member⟩
    | cons second rest =>
      rw [List.intercalate_cons_cons, List.mem_append, List.mem_append,
        List.mem_singleton] at member
      rcases member with (inFirst | isSeparator) | inRest
      · exact Or.inr ⟨first, List.mem_cons_self, inFirst⟩
      · exact Or.inl isSeparator
      · exact (ih inRest).imp_right fun ⟨segment, isSegment, inSegment⟩ =>
          ⟨segment, List.mem_cons_of_mem _ isSegment, inSegment⟩

namespace QualifiedName

/-- Names of identifiers. -/
structure IsValid (name : QualifiedName) : Prop where
  nonempty : name ≠ []
  segments : ∀ segment ∈ name, isIdentifier segment = true

/-- The name that a word spells. -/
def ofWord (word : List Char) : QualifiedName :=
  (word.splitOn '.').map String.ofList

theorem toList_text (name : QualifiedName) :
    name.text.toList = ['.'].intercalate (name.map String.toList) := by
  rw [text, String.toList_intercalate]
  rfl

variable {name : QualifiedName} (isValid : name.IsValid)
include isValid

theorem IsValid.ofWord_text : ofWord name.text.toList = name := by
  have undotted : ∀ segment ∈ name.map String.toList, '.' ∉ segment := by
    intro segment member
    obtain ⟨part, isPart, rfl⟩ := List.mem_map.mp member
    obtain ⟨-, -, -, -, parts⟩ := exists_of_isIdentifier (isValid.segments part isPart)
    intro dotted
    exact absurd (parts '.' dotted) (by decide)
  have nonempty : name.map String.toList ≠ [] :=
    fun empty => isValid.nonempty (List.map_eq_nil_iff.mp empty)
  rw [ofWord, toList_text, List.splitOn_intercalate '.' undotted nonempty, List.map_map]
  exact List.map_id'' (fun _ => String.ofList_toList) name

theorem IsValid.inName_of_mem_text : ∀ char ∈ name.text.toList, inName char = true := by
  intro char member
  rw [toList_text] at member
  rcases mem_intercalate member with rfl | ⟨segment, isSegment, inSegment⟩
  · rfl
  · obtain ⟨part, isPart, rfl⟩ := List.mem_map.mp isSegment
    obtain ⟨-, -, -, -, parts⟩ := exists_of_isIdentifier (isValid.segments part isPart)
    exact Bool.or_eq_true_iff.mpr (Or.inl (parts char inSegment))

/-- The text of a name begins as its first segment does. -/
theorem IsValid.text_begins :
    ∃ first more, name.text.toList = first :: more ∧ first.isDigit = false := by
  cases name with
  | nil => exact absurd rfl isValid.nonempty
  | cons segment rest =>
    obtain ⟨first, more, chars, notDigit, -⟩ :=
      exists_of_isIdentifier (isValid.segments segment List.mem_cons_self)
    rw [toList_text, List.map_cons, chars]
    cases rest with
    | nil => exact ⟨first, more, List.intercalate_singleton, notDigit⟩
    | cons second rest =>
      rw [List.map_cons, List.intercalate_cons_cons]
      exact ⟨first, _, rfl, notDigit⟩

theorem IsValid.text_ne_nil : name.text.toList ≠ [] := by
  obtain ⟨first, more, begins, -⟩ := isValid.text_begins
  rw [begins]
  exact List.cons_ne_nil first more

end QualifiedName

/-! ### Numbers -/

/-- The number that digits spell. -/
def natOfWord (word : List Char) : Nat :=
  Nat.ofDigitChars 10 word 0

theorem natOfWord_toDigits (number : Nat) : natOfWord (Nat.toDigits 10 number) = number :=
  Nat.ofDigitChars_ten_toDigits

theorem isDigit_of_mem_toDigits {number : Nat} {char : Char}
    (member : char ∈ Nat.toDigits 10 number) : char.isDigit = true :=
  Nat.isDigit_of_mem_toDigits (by decide) (by decide) member

theorem inName_of_mem_toDigits {number : Nat} :
    ∀ char ∈ Nat.toDigits 10 number, inName char = true :=
  fun _ member => inName_of_isDigit (isDigit_of_mem_toDigits member)

theorem toDigits_begins (number : Nat) :
    ∃ first more, Nat.toDigits 10 number = first :: more ∧ first.isDigit = true := by
  cases digits : Nat.toDigits 10 number with
  | nil => exact absurd digits Nat.toDigits_ne_nil
  | cons first more =>
    exact ⟨first, more, rfl, isDigit_of_mem_toDigits (digits ▸ List.mem_cons_self)⟩

theorem toList_repr_natCast (number : Nat) :
    (number : Int).repr.toList = Nat.toDigits 10 number := by
  rw [Int.repr_eq_if, if_pos (Int.natCast_nonneg number), Int.toNat_natCast, Nat.toList_repr]

/-- Only a number below zero has a sign. -/
theorem toList_repr_neg {number : Nat} (positive : 0 < number) :
    (-(number : Int)).repr.toList = '-' :: Nat.toDigits 10 number := by
  rw [Int.repr_eq_if, if_neg (by omega), Int.neg_neg, Int.toNat_natCast, String.toList_append,
    Nat.toList_repr]
  rfl

/-- A number is printed as its digits, after a sign if it is below zero. -/
theorem toList_repr_cases (value : Int) :
    (∃ number : Nat, value = number ∧ value.repr.toList = Nat.toDigits 10 number) ∨
      ∃ number : Nat, 0 < number ∧ value = -number ∧
        value.repr.toList = '-' :: Nat.toDigits 10 number := by
  by_cases above : 0 ≤ value
  · left
    obtain ⟨number, rfl⟩ := Int.eq_ofNat_of_zero_le above
    exact ⟨number, rfl, toList_repr_natCast number⟩
  · right
    obtain ⟨number, negation⟩ := Int.eq_ofNat_of_zero_le (by omega : 0 ≤ -value)
    obtain rfl : value = -number := by omega
    have positive : 0 < number := by omega
    exact ⟨number, positive, rfl, toList_repr_neg positive⟩

end ClassHeader
