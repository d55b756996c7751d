import ClassHeader.Proofs.Text.Literal

/-!
# Where a literal ends

A reader of one phase, which goes on with characters after the literal, where the two phases of a
compiler translate all of a text first. It stops at the first quote that no backslash escapes, and
no unit is written with one (`readUnits?_unitText`). So a literal ends at its own closing quote,
whatever it stands for and whatever follows.
-/

namespace ClassHeader.Literal

/-- The unit of an escape with one letter. -/
def escapedLetter? (letter : Char) : Option UInt16 :=
  match Utf16.ofChar letter with
  | [code] => escapedUnit? code
  | _ => none

/-- Reads the units of a literal whose quote is open, up to the quote that closes it, and gives them
together with the text after it. -/
def readUnits? (quote : Char) : List Char → Option (List UInt16 × List Char)
  | '\\' :: 'u' :: first :: second :: third :: fourth :: rest => do
    let unit ← hexUnit? [first, second, third, fourth]
    let (units, rest) ← readUnits? quote rest
    return (unit :: units, rest)
  | '\\' :: letter :: rest => do
    let unit ← escapedLetter? letter
    let (units, rest) ← readUnits? quote rest
    return (unit :: units, rest)
  | char :: rest =>
    if char = quote then some ([], rest)
    else do
      let (units, rest) ← readUnits? quote rest
      return (Utf16.ofChar char ++ units, rest)
  | [] => none

variable {quote : Char} (isQuote : IsQuote quote)
include isQuote

/-- Each form of a unit is read as the unit, and no quote in it ends the literal. -/
theorem readUnits?_form {unit : UInt16} {written : List Char} {units : List UInt16}
    (form : Form quote.toNat.toUInt16 unit written units) (rest : List Char) :
    readUnits? quote (written ++ rest) =
      (readUnits? quote rest).map fun (found, after) => (unit :: found, after) := by
  cases form with
  | @escaped letter code _ notEscape isCode read =>
    have ofLetter : escapedLetter? letter = some unit := by
      rw [escapedLetter?, isCode]
      exact read
    rw [List.cons_append, List.singleton_append, readUnits?, ofLetter]
    · cases readUnits? quote rest <;> rfl
    · intro first second third fourth more isU
      exact absurd isU notEscape
  | @visible char ordinary _ notBackslash isUnit =>
    -- A unit that stands for itself is not the quote, which would end the literal.
    have notQuote : char ≠ quote := by
      rintro rfl
      rw [isQuote.ofChar] at isUnit
      exact ordinary.notQuote (List.singleton_inj.mp isUnit).symm
    rw [List.singleton_append, readUnits?, if_neg notQuote, isUnit]
    · cases readUnits? quote rest <;> rfl
    · intro first second third fourth more isBackslash
      exact absurd isBackslash notBackslash
    · intro letter more isBackslash
      exact absurd isBackslash notBackslash
  | numbered =>
    have read := hexUnit?_hexDigits unit
    simp only [hexDigits, List.map_cons, List.map_nil, List.cons_append, List.nil_append] at read ⊢
    rw [readUnits?, read]
    cases readUnits? quote rest <;> rfl

theorem readUnits?_unitText (unit : UInt16) (rest : List Char) :
    readUnits? quote (unitText quote unit ++ rest) =
      (readUnits? quote rest).map fun (found, after) => (unit :: found, after) := by
  obtain ⟨units, form⟩ := exists_form isQuote unit
  exact readUnits?_form isQuote form rest

theorem readUnits?_closed (rest : List Char) :
    readUnits? quote (quote :: rest) = some ([], rest) := by
  rw [readUnits?, if_pos rfl]
  · intro first second third fourth more isBackslash
    exact absurd isBackslash isQuote.ne_backslash
  · intro letter more isBackslash
    exact absurd isBackslash isQuote.ne_backslash

/-- The units of a literal are read up to its closing quote, whatever follows it. -/
theorem readUnits?_text (units : List UInt16) (rest : List Char) :
    readUnits? quote (units.flatMap (unitText quote) ++ quote :: rest) = some (units, rest) := by
  induction units with
  | nil => exact readUnits?_closed isQuote rest
  | cons unit units ih =>
    rw [List.flatMap_cons, List.append_assoc, readUnits?_unitText isQuote, ih, Option.map_some]

end ClassHeader.Literal
