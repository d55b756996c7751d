import ClassHeader.Constant.Text
import ClassHeader.Proofs.Text.Utf16

/-!
# Literals survive being read

A compiler reads source text in two phases. The first replaces Unicode escapes, wherever they stand,
and knows nothing of literals. The second takes a literal from its opening quote to the first quote
that no backslash escapes.

A unit is written in one of three forms (`Form`). Each form begins and ends where the number of
backslashes before it is even, so that the first phase takes the forms one by one; and what it
leaves of a form is taken as one unit by the second phase.
-/

namespace ClassHeader.Literal

/-! ### The reader -/

/-- The value of a hexadecimal digit of either case. -/
def hexValue? (char : Char) : Option Nat :=
  if '0' ≤ char ∧ char ≤ '9' then some (char.toNat - '0'.toNat)
  else if 'a' ≤ char ∧ char ≤ 'f' then some (char.toNat - 'a'.toNat + 10)
  else if 'A' ≤ char ∧ char ≤ 'F' then some (char.toNat - 'A'.toNat + 10)
  else none

/-- The unit that four hexadecimal digits give. -/
def hexUnit? (digits : List Char) : Option UInt16 :=
  match digits.map hexValue? with
  | [some first, some second, some third, some fourth] =>
    some (first * 0x1000 + second * 0x100 + third * 0x10 + fourth).toUInt16
  | _ => none

mutual

/-- The first phase: the UTF-16 units of source text, with every Unicode escape replaced by its
unit. A backslash can start an escape only if the number of backslashes right before it is even;
whether it is odd is the first argument. -/
def translate? : Bool → List Char → Option (List UInt16)
  | _, [] => some []
  | false, '\\' :: 'u' :: digits => translateEscape? digits
  | odd, '\\' :: rest => (translate? (!odd) rest).map (0x5c :: ·)
  | _, char :: rest => (translate? false rest).map (Utf16.ofChar char ++ ·)

/-- An escape after its first `u`: there can be more of them, and then four digits. -/
def translateEscape? : List Char → Option (List UInt16)
  | 'u' :: digits => translateEscape? digits
  | first :: second :: third :: fourth :: rest =>
    match hexUnit? [first, second, third, fourth] with
    | some unit => (translate? false rest).map (unit :: ·)
    | none => none
  | _ => none

end

/-- The unit that a backslash and one more unit stand for. -/
def escapedUnit? (unit : UInt16) : Option UInt16 :=
  match unit.toNat with
  | 0x62 => some 0x08
  | 0x74 => some 0x09
  | 0x6e => some 0x0a
  | 0x66 => some 0x0c
  | 0x72 => some 0x0d
  | 0x22 => some 0x22
  | 0x27 => some 0x27
  | 0x5c => some 0x5c
  | _ => none

/-- The second phase after the opening quote: the units up to the first quote that is not escaped,
and those after it. A literal does not go beyond its line. -/
def readContent? (quote : UInt16) : List UInt16 → Option (List UInt16 × List UInt16)
  | [] => none
  | unit :: rest =>
    if unit = quote then some ([], rest)
    else if unit = 0x0a ∨ unit = 0x0d then none
    else if unit = 0x5c then
      match rest with
      | [] => none
      | letter :: rest =>
        match escapedUnit? letter with
        | some unit => (readContent? quote rest).map fun (units, after) => (unit :: units, after)
        | none => none
    else (readContent? quote rest).map fun (units, after) => (unit :: units, after)

def readQuoted? (quote : UInt16) : List UInt16 → Option (List UInt16 × List UInt16)
  | [] => none
  | first :: rest => if first = quote then readContent? quote rest else none

/-- The units that a quoted literal at the front of source text stands for, and the units of the
text after it. -/
def read? (quote : Char) (source : List Char) : Option (List UInt16 × List UInt16) :=
  (translate? false source).bind (readQuoted? quote.toNat.toUInt16)

/-! ### The first phase -/

section Translation

variable (rest : List Char)

theorem translate?_escape : translate? false ('\\' :: 'u' :: rest) = translateEscape? rest := by
  rw [translate?]

theorem translate?_char {char : Char} (ordinary : char ≠ '\\') (odd : Bool) :
    translate? odd (char :: rest) = (translate? false rest).map (Utf16.ofChar char ++ ·) := by
  rw [translate?]
  · exact ordinary
  · intro digits _ same
    exact absurd same ordinary

/-- A backslash and a letter stay together, whether the letter is a backslash or not. -/
theorem translate?_pair {letter : Char} (notEscape : letter ≠ 'u') :
    translate? false ('\\' :: letter :: rest) =
      (translate? false rest).map (0x5c :: Utf16.ofChar letter ++ ·) := by
  have first : translate? false ('\\' :: letter :: rest) =
      (translate? true (letter :: rest)).map (0x5c :: ·) := by
    rw [translate?]
    · rfl
    · intro digits _ same
      exact absurd (List.cons.inj same).1 notEscape
  -- After an odd backslash, a second one is even, and what follows it starts afresh.
  by_cases backslash : letter = '\\'
  · subst backslash
    have second : translate? true ('\\' :: rest) = (translate? false rest).map (0x5c :: ·) := by
      rw [translate?]
      · rfl
      · intro digits odd
        cases odd
    rw [first, second, Option.map_map]
    rfl
  · rw [first, translate?_char rest backslash, Option.map_map]
    rfl

theorem hexValue?_digitChar {digit : Nat} (fits : digit < 0x10) :
    hexValue? (Nat.digitChar digit) = some digit := by
  have all : ∀ digit : Fin 0x10, hexValue? (Nat.digitChar digit) = some digit.val := by decide
  exact all ⟨digit, fits⟩

theorem digitChar_ne_u {digit : Nat} (fits : digit < 0x10) : Nat.digitChar digit ≠ 'u' := by
  intro same
  have value := hexValue?_digitChar fits
  rw [same] at value
  cases value

theorem hexUnit?_hexDigits (unit : UInt16) : hexUnit? (hexDigits unit) = some unit := by
  have bound : unit.toNat < 0x10000 := unit.toNat_lt
  have whole : unit.toNat / 0x1000 * 0x1000 + unit.toNat / 0x100 % 0x10 * 0x100 +
      unit.toNat / 0x10 % 0x10 * 0x10 + unit.toNat % 0x10 = unit.toNat := by omega
  have same : unit.toNat.toUInt16 = unit := UInt16.ofNat_toNat
  simp only [hexUnit?, hexDigits, List.map_cons, List.map_nil,
    hexValue?_digitChar (show unit.toNat / 0x1000 < 0x10 by omega),
    hexValue?_digitChar (Nat.mod_lt _ (show 0 < 0x10 by decide)), whole, same]

theorem translate?_hexDigits (unit : UInt16) :
    translate? false ('\\' :: 'u' :: hexDigits unit ++ rest) =
      (translate? false rest).map (unit :: ·) := by
  have bound : unit.toNat < 0x10000 := unit.toNat_lt
  have read := hexUnit?_hexDigits unit
  rw [List.cons_append, List.cons_append, translate?_escape]
  simp only [hexDigits, List.map_cons, List.map_nil, List.cons_append, List.nil_append] at read ⊢
  rw [translateEscape?, read]
  intro start
  exact digitChar_ne_u (show unit.toNat / 0x1000 < 0x10 by omega) start

end Translation

/-- Visible ASCII characters, the space among them. -/
def IsVisible (char : Char) : Prop :=
  0x20 ≤ char.toNat ∧ char.toNat ≤ 0x7e

instance (char : Char) : Decidable (IsVisible char) :=
  inferInstanceAs (Decidable (_ ∧ _))

theorem isVisible_of_mem_hexDigits {unit : UInt16} {char : Char} (member : char ∈ hexDigits unit) :
    IsVisible char := by
  have bound : unit.toNat < 0x10000 := unit.toNat_lt
  have all : ∀ digit : Fin 0x10, IsVisible (Nat.digitChar digit) := by decide
  obtain ⟨digit, digits, rfl⟩ := List.mem_map.mp member
  have fits : digit < 0x10 := by
    simp only [List.mem_cons, List.not_mem_nil, or_false] at digits
    omega
  exact all ⟨digit, fits⟩

/-- The quotes of string and character literals. -/
def IsQuote (quote : Char) : Prop :=
  quote = '"' ∨ quote = '\''

namespace IsQuote

variable {quote : Char}

theorem isVisible (isQuote : IsQuote quote) : IsVisible quote := by
  rcases isQuote with rfl | rfl <;> decide

theorem ne_u (isQuote : IsQuote quote) : quote ≠ 'u' := by
  rcases isQuote with rfl | rfl <;> decide

theorem ne_backslash (isQuote : IsQuote quote) : quote ≠ '\\' := by
  rcases isQuote with rfl | rfl <;> decide

theorem toNat_unit (isQuote : IsQuote quote) : quote.toNat.toUInt16.toNat = quote.toNat := by
  rcases isQuote with rfl | rfl <;> rfl

theorem unit_ne_backslash (isQuote : IsQuote quote) : quote.toNat.toUInt16 ≠ 0x5c := by
  rcases isQuote with rfl | rfl <;> decide

theorem ofChar (isQuote : IsQuote quote) : Utf16.ofChar quote = [quote.toNat.toUInt16] := by
  rcases isQuote with rfl | rfl <;> rfl

/-- A quote after a backslash is read as itself. -/
theorem escapedUnit?_unit (isQuote : IsQuote quote) :
    escapedUnit? quote.toNat.toUInt16 = some quote.toNat.toUInt16 := by
  rcases isQuote with rfl | rfl <;> rfl

end IsQuote

/-- A letter that escapes a unit does not start a Unicode escape, and it is read as that unit. -/
theorem letterEscape?_eq_some {unit : UInt16} {letter : Char}
    (escape : letterEscape? unit = some letter) :
    IsVisible letter ∧ letter ≠ 'u' ∧
      ∃ code, Utf16.ofChar letter = [code] ∧ escapedUnit? code = some unit := by
  have same : unit.toNat.toUInt16 = unit := UInt16.ofNat_toNat
  unfold letterEscape? at escape
  split at escape
  case h_7 => cases escape
  all_goals
    rename_i code
    obtain rfl := Option.some.inj escape
    rw [code] at same
    subst same
    exact ⟨by decide, by decide, _, rfl, by decide⟩

/-- A unit without such a letter is neither a backslash nor the end of a line. -/
theorem letterEscape?_eq_none {unit : UInt16} (plain : letterEscape? unit = none) :
    unit ≠ 0x5c ∧ unit ≠ 0x0a ∧ unit ≠ 0x0d := by
  refine ⟨?_, ?_, ?_⟩ <;> rintro rfl <;> cases plain

theorem ofChar_visible {unit : UInt16} (visible : unit ≤ 0x7e) :
    (Char.ofNat unit.toNat).toNat = unit.toNat ∧ Utf16.ofChar (Char.ofNat unit.toNat) = [unit] := by
  have bound : unit.toNat ≤ 0x7e := UInt16.le_iff_toNat_le.mp visible
  have valid : unit.toNat.isValidChar := Or.inl (by omega)
  have char : (Char.ofNat unit.toNat).toNat = unit.toNat := Utf16.toNat_ofNat valid
  have same : unit.toNat.toUInt16 = unit := UInt16.ofNat_toNat
  refine ⟨char, ?_⟩
  rw [Utf16.ofChar_of_basic (by omega), char, same]

/-! ### The forms of a unit -/

/-- A unit that stands for itself between two quotes once the first phase is over. -/
structure Ordinary (quote unit : UInt16) : Prop where
  notQuote : unit ≠ quote
  notBackslash : unit ≠ 0x5c
  notLineFeed : unit ≠ 0x0a
  notReturn : unit ≠ 0x0d

/-- The three ways to write a unit inside quotes, each with what the first phase leaves of it. -/
inductive Form (quote unit : UInt16) : List Char → List UInt16 → Prop where
  | escaped {letter : Char} {code : UInt16} (isVisible : IsVisible letter)
    (notEscape : letter ≠ 'u') (units : Utf16.ofChar letter = [code])
    (read : escapedUnit? code = some unit) : Form quote unit ['\\', letter] [0x5c, code]
  | visible {char : Char} (ordinary : Ordinary quote unit) (isVisible : IsVisible char)
    (notBackslash : char ≠ '\\') (units : Utf16.ofChar char = [unit]) :
    Form quote unit [char] [unit]
  | numbered (ordinary : Ordinary quote unit) :
    Form quote unit ('\\' :: 'u' :: hexDigits unit) [unit]

namespace Form

variable {quote unit : UInt16} {written : List Char} {units : List UInt16}

theorem translate?_append (form : Form quote unit written units) (rest : List Char) :
    translate? false (written ++ rest) = (translate? false rest).map (units ++ ·) := by
  cases form with
  | escaped isVisible notEscape code read =>
    have pair := translate?_pair rest notEscape
    rw [code] at pair
    exact pair
  | visible ordinary isVisible notBackslash code =>
    have char := translate?_char rest notBackslash false
    rw [code] at char
    exact char
  | numbered ordinary => exact translate?_hexDigits rest unit

/-- The second phase takes the unit and leaves the rest as it is. -/
theorem readContent?_append (form : Form quote unit written units) (differs : quote ≠ 0x5c)
    (rest : List UInt16) :
    readContent? quote (units ++ rest) =
      (readContent? quote rest).map fun (found, after) => (unit :: found, after) := by
  cases form with
  | escaped isVisible notEscape code read =>
    rw [List.cons_append, List.singleton_append, readContent?, if_neg differs.symm,
      if_neg (by decide), if_pos rfl]
    simp only [read]
  | visible ordinary | numbered ordinary =>
    rw [List.singleton_append, readContent?.eq_def]
    simp only [ordinary.notQuote, ordinary.notBackslash, ordinary.notLineFeed, ordinary.notReturn,
      or_self, if_false]

/-- Every form is visible ASCII. -/
theorem isVisible_of_mem (form : Form quote unit written units) {char : Char}
    (member : char ∈ written) : IsVisible char := by
  cases form with
  | escaped letter =>
    obtain rfl | rfl := by simpa only [List.mem_cons, List.not_mem_nil, or_false] using member
    · decide
    · exact letter
  | visible ordinary isVisible =>
    obtain rfl := List.mem_singleton.mp member
    exact isVisible
  | numbered ordinary =>
    simp only [List.mem_cons] at member
    obtain rfl | rfl | digit := member
    · decide
    · decide
    · exact isVisible_of_mem_hexDigits digit

end Form

/-- A visible unit is a character of its own, which is escaped if it is the quote. -/
theorem exists_form_of_visible {quote : Char} (isQuote : IsQuote quote) {unit : UInt16}
    (lower : 0x20 ≤ unit) (upper : unit ≤ 0x7e) (plain : letterEscape? unit = none) :
    ∃ units, Form quote.toNat.toUInt16 unit
      (if Char.ofNat unit.toNat = quote then ['\\', Char.ofNat unit.toNat]
        else [Char.ofNat unit.toNat]) units := by
  obtain ⟨code, units⟩ := ofChar_visible upper
  have isVisible : IsVisible (Char.ofNat unit.toNat) := by
    rw [IsVisible, code]
    exact ⟨UInt16.le_iff_toNat_le.mp lower, UInt16.le_iff_toNat_le.mp upper⟩
  split
  · next same =>
    -- The unit is that of the quote, which only its backslash keeps from ending the literal.
    have isUnit : quote.toNat.toUInt16 = unit := by
      rw [← same, code]
      exact UInt16.ofNat_toNat
    have read := isQuote.escapedUnit?_unit
    rw [same] at units isVisible ⊢
    rw [isUnit] at read ⊢
    exact ⟨_, .escaped isVisible isQuote.ne_u units read⟩
  · next other =>
    -- The unit is none of those that cannot stand for themselves.
    obtain ⟨notBackslash, notLineFeed, notReturn⟩ := letterEscape?_eq_none plain
    have notQuote : unit ≠ quote.toNat.toUInt16 := by
      rintro rfl
      rw [isQuote.toNat_unit, Char.ofNat_toNat] at other
      exact other rfl
    have charNotBackslash : Char.ofNat unit.toNat ≠ '\\' := by
      intro backslash
      rw [backslash] at code
      exact notBackslash (UInt16.toNat_inj.mp code.symm)
    exact ⟨_, .visible ⟨notQuote, notBackslash, notLineFeed, notReturn⟩ isVisible
      charNotBackslash units⟩

theorem exists_form {quote : Char} (isQuote : IsQuote quote) (unit : UInt16) :
    ∃ units, Form quote.toNat.toUInt16 unit (unitText quote unit) units := by
  rw [unitText]
  split
  · next letter escape =>
    obtain ⟨visible, notEscape, code, units, read⟩ := letterEscape?_eq_some escape
    exact ⟨_, .escaped visible notEscape units read⟩
  · next plain =>
    split
    · next visible => exact exists_form_of_visible isQuote visible.1 visible.2 plain
    · next hidden =>
      obtain ⟨notBackslash, notLineFeed, notReturn⟩ := letterEscape?_eq_none plain
      have notQuote : unit ≠ quote.toNat.toUInt16 := by
        rintro rfl
        apply hidden
        rw [UInt16.le_iff_toNat_le, UInt16.le_iff_toNat_le, isQuote.toNat_unit]
        exact isQuote.isVisible
      exact ⟨_, .numbered ⟨notQuote, notBackslash, notLineFeed, notReturn⟩⟩

/-! ### Whole literals -/

/-- The first phase leaves units from which the second takes those that were written. -/
theorem exists_translation {quote : Char} (isQuote : IsQuote quote) (units : List UInt16) :
    ∃ between : List UInt16,
      (∀ rest, translate? false (units.flatMap (unitText quote) ++ rest) =
        (translate? false rest).map (between ++ ·)) ∧
      ∀ rest, readContent? quote.toNat.toUInt16 (between ++ rest) =
        (readContent? quote.toNat.toUInt16 rest).map fun (found, after) =>
          (units ++ found, after) := by
  induction units with
  | nil =>
    exact ⟨[], fun rest => Option.map_id'.symm, fun rest => Option.map_id'.symm⟩
  | cons unit others ih =>
    obtain ⟨between, translated, read⟩ := ih
    -- The first unit is turned into some units of its own, which the second phase takes for it.
    obtain ⟨front, form⟩ := exists_form isQuote unit
    refine ⟨front ++ between, fun rest => ?_, fun rest => ?_⟩
    · rw [List.flatMap_cons, List.append_assoc, form.translate?_append, translated, Option.map_map]
      simp only [Function.comp_def, List.append_assoc]
    · rw [List.append_assoc, form.readContent?_append isQuote.unit_ne_backslash, read,
        Option.map_map]
      rfl

/-- A literal at the front of source text is read to its closing quote, which leaves the text after
it. -/
theorem read?_text_append {quote : Char} (isQuote : IsQuote quote) (units : List UInt16)
    (after : List Char) :
    read? quote (text quote units ++ after) =
      (translate? false after).map fun after => (units, after) := by
  obtain ⟨between, translated, read⟩ := exists_translation isQuote units
  have closed (rest : List UInt16) :
      readContent? quote.toNat.toUInt16 (quote.toNat.toUInt16 :: rest) = some ([], rest) := by
    rw [readContent?.eq_def]
    exact if_pos rfl
  -- The first phase goes through the literal and leaves what comes after it for later.
  have source : translate? false (text quote units ++ after) = (translate? false after).map
      fun rest => quote.toNat.toUInt16 :: (between ++ quote.toNat.toUInt16 :: rest) := by
    rw [text, List.cons_append, List.cons_append, List.append_assoc, List.singleton_append,
      translate?_char _ isQuote.ne_backslash, translated, translate?_char _ isQuote.ne_backslash,
      Option.map_map, Option.map_map, isQuote.ofChar]
    rfl
  rw [read?, source, Option.bind_map]
  cases translate? false after with
  | none => rfl
  | some rest =>
    rw [Option.bind_some, Option.map_some, Function.comp_apply, readQuoted?, if_pos rfl, read,
      closed, Option.map_some]
    dsimp only
    rw [List.append_nil]

theorem read?_text {quote : Char} (isQuote : IsQuote quote) (units : List UInt16) :
    read? quote (text quote units) = some (units, []) := by
  have read := read?_text_append isQuote units []
  rw [List.append_nil, translate?, Option.map_some] at read
  exact read

/-- A literal stands for its units only. -/
theorem text_inj {quote : Char} (isQuote : IsQuote quote) {units units' : List UInt16} :
    text quote units = text quote units' ↔ units = units' := by
  refine ⟨fun same => ?_, congrArg (text quote)⟩
  have read := read?_text isQuote units
  rw [same, read?_text isQuote, Option.some.injEq, Prod.mk.injEq] at read
  exact read.1.symm

theorem isVisible_of_mem_text {quote : Char} (isQuote : IsQuote quote) {units : List UInt16}
    {char : Char} (member : char ∈ text quote units) : IsVisible char := by
  simp only [text, List.mem_append, List.mem_cons, List.not_mem_nil, or_false,
    List.mem_flatMap] at member
  obtain (rfl | ⟨unit, -, written⟩) | rfl := member
  · exact isQuote.isVisible
  · obtain ⟨units, form⟩ := exists_form isQuote unit
    exact form.isVisible_of_mem written
  · exact isQuote.isVisible

/-- The literal of a text, and that of a character, surrogates included, is visible ASCII. Read in
two phases, Unicode escapes first and then up to the first quote that is not escaped, it ends with
the quote that closes it and gives the units that it was written for. -/
theorem read?_inverts_text :
    (∀ value : String,
      (∀ char ∈ (Constant.string value).text.toList, 0x20 ≤ char.toNat ∧ char.toNat ≤ 0x7e) ∧
        read? '"' (Constant.string value).text.toList = some (Utf16.encode value, [])) ∧
      ∀ unit : UInt16,
        (∀ char ∈ (Constant.char unit).text.toList, 0x20 ≤ char.toNat ∧ char.toNat ≤ 0x7e) ∧
          read? '\'' (Constant.char unit).text.toList = some ([unit], []) := by
  constructor
  · intro value
    have isQuote : IsQuote '"' := Or.inl rfl
    rw [Constant.text, String.toList_ofList]
    exact ⟨fun char member => isVisible_of_mem_text isQuote member, read?_text isQuote _⟩
  · intro unit
    have isQuote : IsQuote '\'' := Or.inr rfl
    rw [Constant.text, String.toList_ofList]
    exact ⟨fun char member => isVisible_of_mem_text isQuote member, read?_text isQuote _⟩

/-- A backslash before what looks like an escape, a quote, a character of two units and the end of a
line; and a surrogate on its own. -/
theorem read?_inverts_text_of_escapes :
    let value := "\\u0041\"😀\n"
    let literal := ['"', '\\', '\\', 'u', '0', '0', '4', '1', '\\', '"', '\\', 'u', 'd', '8', '3',
      'd', '\\', 'u', 'd', 'e', '0', '0', '\\', 'n', '"']
    (Constant.string value).text.toList = literal ∧
      '\\' ∈ literal ∧ 0x20 ≤ '\\'.toNat ∧ '\\'.toNat ≤ 0x7e ∧
      read? '"' literal = some (Utf16.encode value, []) ∧
      'u' ∈ (Constant.char 0xd800).text.toList ∧ 0x20 ≤ 'u'.toNat ∧ 'u'.toNat ≤ 0x7e ∧
      read? '\'' (Constant.char 0xd800).text.toList = some ([0xd800], []) := by
  intro value literal
  have written : (Constant.string value).text.toList = literal := by decide
  have backslash : '\\' ∈ (Constant.string value).text.toList := by
    rw [written]
    decide
  have letter : 'u' ∈ (Constant.char 0xd800).text.toList := by decide
  obtain ⟨strings, chars⟩ := read?_inverts_text
  obtain ⟨lower, upper⟩ := (strings value).1 '\\' backslash
  obtain ⟨lower', upper'⟩ := (chars 0xd800).1 'u' letter
  rw [← written]
  exact ⟨rfl, backslash, lower, upper, (strings value).2, letter, lower', upper', (chars 0xd800).2⟩

end ClassHeader.Literal
