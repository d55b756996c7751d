import ClassHeader.Proofs.Text.Literal
import ClassHeader.Proofs.Text.Words
import ClassHeader.Text.Quoted

/-!
# Quoted texts are told apart

A character in quotes is read from its text whatever follows: a backslash announces an escape, which
is one letter or, after a `u`, a number in braces. A quoted text therefore tells its content.
-/

namespace ClassHeader.Quoted

/-! ### The reader -/

/-- The number that hexadecimal digits spell. -/
def readHex (digits : List Char) : Nat :=
  digits.foldl (fun number digit => 0x10 * number + (Literal.hexValue? digit).getD 0) 0

/-- The character that an escape by a letter stands for. -/
def ofLetter : Char → Char
  | '0' => '\x00'
  | 't' => '\t'
  | 'n' => '\n'
  | 'r' => '\r'
  | letter => letter

/-- The character of an escape after its backslash, and what follows the escape. -/
def readEscape? : List Char → Option (Char × List Char)
  | [] => none
  | 'u' :: rest =>
    let (digits, rest) := (rest.drop 1).span (· != '\x7d')
    some (Char.ofNat (readHex digits), rest.drop 1)
  | letter :: rest => some (ofLetter letter, rest)

/-- The first character of a quoted text, and what follows it. -/
def readChar? : List Char → Option (Char × List Char)
  | [] => none
  | first :: rest => if first = '\\' then readEscape? rest else some (first, rest)

/-! ### Reading what was written -/

theorem readHex_toDigits (number : Nat) : readHex (Nat.toDigits 0x10 number) = number := by
  induction number using Nat.strongRecOn with
  | ind number ih =>
    rw [Nat.toDigits_eq_if (by decide)]
    split
    case isTrue single => simp [readHex, Literal.hexValue?_digitChar single]
    case isFalse several =>
      have upper : readHex (Nat.toDigits 0x10 (number / 0x10)) = number / 0x10 :=
        ih _ (Nat.div_lt_self (by omega) (by decide))
      have lower : number % 0x10 < 0x10 := Nat.mod_lt _ (by decide)
      rw [readHex] at upper ⊢
      rw [List.foldl_append, upper, List.foldl_cons, List.foldl_nil,
        Literal.hexValue?_digitChar lower, Option.getD_some, Nat.div_add_mod]

theorem exists_of_mem_toDigits {base number : Nat} (several : 1 < base) {char : Char}
    (member : char ∈ Nat.toDigits base number) : ∃ digit < base, char = Nat.digitChar digit := by
  induction number using Nat.strongRecOn with
  | ind number ih =>
    rw [Nat.toDigits_eq_if several] at member
    split at member
    case isTrue single => exact ⟨number, single, List.mem_singleton.mp member⟩
    case isFalse large =>
      rcases List.mem_append.mp member with upper | lower
      · exact ih _ (Nat.div_lt_self (by omega) several) upper
      · exact ⟨_, Nat.mod_lt _ (by omega), List.mem_singleton.mp lower⟩

theorem ne_brace_of_mem_toDigits {number : Nat} :
    ∀ char ∈ Nat.toDigits 0x10 number, (char != '\x7d') = true := by
  intro char member
  obtain ⟨digit, fits, rfl⟩ := exists_of_mem_toDigits (by decide) member
  have all : ∀ digit : Fin 0x10, (Nat.digitChar digit != '\x7d') = true := by decide
  exact all ⟨digit, fits⟩

theorem readChar?_charText (char : Char) (rest : List Char) :
    readChar? (charText char ++ rest) = some (char, rest) := by
  unfold charText
  split
  case h_7 backslash =>
    split
    · -- The digits end at the brace, which is none of them.
      have span : (Nat.toDigits 0x10 char.toNat ++ '\x7d' :: rest).span (· != '\x7d') =
          (Nat.toDigits 0x10 char.toNat, '\x7d' :: rest) := span_word ne_brace_of_mem_toDigits rfl
      have text : readEscape? ('u' :: '\x7b' :: (Nat.toDigits 0x10 char.toNat ++ '\x7d' :: rest)) =
          some (char, rest) := by
        rw [readEscape?, List.drop_one, List.tail_cons, span]
        simp [readHex_toDigits]
      simpa [readChar?] using text
    · rw [List.singleton_append, readChar?, if_neg backslash]
  all_goals rfl

theorem flatMap_charText_injective : Function.Injective (List.flatMap charText) := by
  intro left right same
  induction left generalizing right with
  | nil =>
    cases right with
    | nil => rfl
    | cons first rest =>
      have read := readChar?_charText first (rest.flatMap charText)
      rw [← List.flatMap_cons, ← same] at read
      cases read
  | cons first rest ih =>
    -- What is read from the front of one text is read from the front of the other.
    have read := readChar?_charText first (rest.flatMap charText)
    rw [← List.flatMap_cons, same] at read
    cases right with
    | nil => cases read
    | cons first' rest' =>
      rw [List.flatMap_cons, readChar?_charText, Option.some.injEq, Prod.mk.injEq] at read
      rw [read.1, ih read.2.symm]

/-- Distinct contents have distinct quoted texts. -/
theorem text_injective : Function.Injective text := by
  intro left right same
  have inside := List.append_cancel_right (String.ofList_injective same)
  exact String.toList_injective (flatMap_charText_injective (List.tail_eq_of_cons_eq inside))

end ClassHeader.Quoted
