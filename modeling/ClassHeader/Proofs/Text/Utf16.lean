import ClassHeader.Text.Utf16

/-!
# Texts and their UTF-16 units

A character outside the basic plane is the pair of surrogates that it is split into, and no
character of the basic plane is a surrogate. So the units of a text give the text back, and units
that give a text are the units of that text.
-/

namespace ClassHeader.Utf16

theorem toNat_toUInt16 {number : Nat} (fits : number < 0x10000) :
    number.toUInt16.toNat = number :=
  UInt16.toNat_ofNat_of_lt' fits

theorem isHigh_iff (unit : UInt16) :
    isHigh unit = true ↔ 0xd800 ≤ unit.toNat ∧ unit.toNat < 0xdc00 := by
  simp [isHigh, UInt16.le_iff_toNat_le, UInt16.lt_iff_toNat_lt]

theorem isLow_iff (unit : UInt16) :
    isLow unit = true ↔ 0xdc00 ≤ unit.toNat ∧ unit.toNat < 0xe000 := by
  simp [isLow, UInt16.le_iff_toNat_le, UInt16.lt_iff_toNat_lt]

/-- No character is a surrogate. -/
theorem toNat_cases (char : Char) :
    char.toNat < 0xd800 ∨ 0xe000 ≤ char.toNat ∧ char.toNat < 0x110000 :=
  char.valid

theorem ofChar_of_basic {char : Char} (basic : char.toNat < 0x10000) :
    ofChar char = [char.toNat.toUInt16] :=
  if_pos basic

theorem ofChar_of_supplementary {char : Char} (supplementary : ¬ char.toNat < 0x10000) :
    ofChar char =
      [(0xd800 + (char.toNat - 0x10000) / 0x400).toUInt16,
        (0xdc00 + (char.toNat - 0x10000) % 0x400).toUInt16] :=
  if_neg supplementary

theorem decodeChars?_basic {unit : UInt16} (notHigh : isHigh unit = false)
    (notLow : isLow unit = false) (rest : List UInt16) :
    decodeChars? (unit :: rest) = (decodeChars? rest).map (Char.ofNat unit.toNat :: ·) := by
  rw [decodeChars?.eq_def]
  simp [notHigh, notLow]

theorem decodeChars?_pair {high low : UInt16} (isHigh' : isHigh high = true)
    (isLow' : isLow low = true) (rest : List UInt16) :
    decodeChars? (high :: low :: rest) = (decodeChars? rest).map (pair high low :: ·) := by
  rw [decodeChars?.eq_def]
  simp [isHigh', isLow']

theorem decodeChars?_ofChar (char : Char) (rest : List UInt16) :
    decodeChars? (ofChar char ++ rest) = (decodeChars? rest).map (char :: ·) := by
  have valid := toNat_cases char
  by_cases basic : char.toNat < 0x10000
  · have unit : char.toNat.toUInt16.toNat = char.toNat := toNat_toUInt16 basic
    -- The unit is the character itself, which is no surrogate.
    have notHigh : isHigh char.toNat.toUInt16 = false := by
      rw [Bool.eq_false_iff, ne_eq, isHigh_iff, unit]
      omega
    have notLow : isLow char.toNat.toUInt16 = false := by
      rw [Bool.eq_false_iff, ne_eq, isLow_iff, unit]
      omega
    rw [ofChar_of_basic basic, List.singleton_append, decodeChars?_basic notHigh notLow, unit,
      Char.ofNat_toNat]
  · rw [ofChar_of_supplementary basic]
    have high : (0xd800 + (char.toNat - 0x10000) / 0x400).toUInt16.toNat =
        0xd800 + (char.toNat - 0x10000) / 0x400 := toNat_toUInt16 (by omega)
    have low : (0xdc00 + (char.toNat - 0x10000) % 0x400).toUInt16.toNat =
        0xdc00 + (char.toNat - 0x10000) % 0x400 := toNat_toUInt16 (by omega)
    -- Ten bits of the offset are in each half and are put together again.
    have whole : pair (0xd800 + (char.toNat - 0x10000) / 0x400).toUInt16
        (0xdc00 + (char.toNat - 0x10000) % 0x400).toUInt16 = char := by
      rw [pair, high, low]
      have sum : 0x10000 + (0xd800 + (char.toNat - 0x10000) / 0x400 - 0xd800) * 0x400 +
          (0xdc00 + (char.toNat - 0x10000) % 0x400 - 0xdc00) = char.toNat := by omega
      rw [sum, Char.ofNat_toNat]
    rw [List.cons_append, List.singleton_append, decodeChars?_pair, whole]
    · rw [isHigh_iff, high]
      omega
    · rw [isLow_iff, low]
      omega

theorem decodeChars?_flatMap_ofChar (chars : List Char) :
    decodeChars? (chars.flatMap ofChar) = some chars := by
  induction chars with
  | nil => rw [List.flatMap_nil, decodeChars?]
  | cons char rest ih => rw [List.flatMap_cons, decodeChars?_ofChar, ih, Option.map_some]

/-- The units of a text are the units of that text only. -/
theorem decode?_encode (text : String) : decode? (encode text) = some text := by
  rw [decode?, encode, decodeChars?_flatMap_ofChar, Option.map_some, String.ofList_toList]

theorem encode_injective : Function.Injective encode := by
  intro left right same
  have read := decode?_encode left
  rw [same, decode?_encode] at read
  exact (Option.some.inj read).symm

/-! ### Units that are read -/

theorem toNat_ofNat {code : Nat} (valid : code.isValidChar) : (Char.ofNat code).toNat = code := by
  rw [Char.ofNat, dif_pos valid]
  rfl

theorem ofChar_unit {unit : UInt16} (notHigh : isHigh unit = false) (notLow : isLow unit = false) :
    ofChar (Char.ofNat unit.toNat) = [unit] := by
  have bound : unit.toNat < 0x10000 := unit.toNat_lt
  rw [Bool.eq_false_iff, ne_eq, isHigh_iff] at notHigh
  rw [Bool.eq_false_iff, ne_eq, isLow_iff] at notLow
  have valid : unit.toNat.isValidChar := by
    rw [Nat.isValidChar]
    omega
  have char : (Char.ofNat unit.toNat).toNat = unit.toNat := toNat_ofNat valid
  have same : unit.toNat.toUInt16 = unit := UInt16.ofNat_toNat
  rw [ofChar_of_basic (by omega), char, same]

theorem ofChar_pair {high low : UInt16} (isHigh' : isHigh high = true)
    (isLow' : isLow low = true) : ofChar (pair high low) = [high, low] := by
  rw [isHigh_iff] at isHigh'
  rw [isLow_iff] at isLow'
  have valid :
      (0x10000 + (high.toNat - 0xd800) * 0x400 + (low.toNat - 0xdc00)).isValidChar := by
    rw [Nat.isValidChar]
    omega
  have char : (pair high low).toNat =
      0x10000 + (high.toNat - 0xd800) * 0x400 + (low.toNat - 0xdc00) := toNat_ofNat valid
  -- The halves are the digits of the number to the base 0x400.
  have highHalf : 0xd800 + ((pair high low).toNat - 0x10000) / 0x400 = high.toNat := by omega
  have lowHalf : 0xdc00 + ((pair high low).toNat - 0x10000) % 0x400 = low.toNat := by omega
  have sameHigh : high.toNat.toUInt16 = high := UInt16.ofNat_toNat
  have sameLow : low.toNat.toUInt16 = low := UInt16.ofNat_toNat
  rw [ofChar_of_supplementary (by omega), highHalf, lowHalf, sameHigh, sameLow]

/-- Units that read as characters are the units of these characters and of no others. -/
theorem flatMap_ofChar_of_decodeChars? {units : List UInt16} {chars : List Char}
    (read : decodeChars? units = some chars) : chars.flatMap ofChar = units := by
  fun_induction decodeChars? units generalizing chars with
  | case1 =>
    obtain rfl := Option.some.inj read
    rfl
  | case2 high isHigh' low rest isLow' ih =>
    obtain ⟨others, readOthers, rfl⟩ := Option.map_eq_some_iff.mp read
    rw [List.flatMap_cons, ofChar_pair isHigh' isLow', ih readOthers]
    rfl
  | case3 | case4 | case5 => cases read
  | case6 unit rest notHigh notLow ih =>
    obtain ⟨others, readOthers, rfl⟩ := Option.map_eq_some_iff.mp read
    rw [Bool.not_eq_true] at notHigh notLow
    rw [List.flatMap_cons, ofChar_unit notHigh notLow, ih readOthers]
    rfl

/-- Units are read as a text exactly if they are the units of that text. -/
theorem decode?_eq_some_iff {units : List UInt16} {text : String} :
    decode? units = some text ↔ encode text = units := by
  constructor
  · intro read
    obtain ⟨chars, readChars, rfl⟩ := Option.map_eq_some_iff.mp read
    rw [encode, String.toList_ofList, flatMap_ofChar_of_decodeChars? readChars]
  · rintro rfl
    exact decode?_encode text

end ClassHeader.Utf16
