import ClassHeader.Proofs.ClassFile.Limit
import ClassHeader.Proofs.Text.ModifiedUtf8
import Mathlib.Data.List.Basic

/-!
# How long a text is in a class file

Modified UTF-8 encodes units and standard UTF-8 encodes characters. Most characters have the same
bytes in both. The character zero takes one byte more in modified UTF-8, and a character outside the
basic plane two, because it is encoded as two units of three bytes each. The length that decides
whether a text can be written is therefore that of the standard encoding and what these characters
add to it (`encode_against_standard`).
-/

namespace ClassHeader.ModifiedUtf8

/-! ### Characters -/

/-- The bytes of the units of a character. -/
def charBytes (char : Char) : List UInt8 :=
  (Utf16.ofChar char).flatMap encodeUnit

theorem encode_eq_flatMap (text : String) : encode text = text.toList.flatMap charBytes :=
  List.flatMap_assoc

theorem encode_append (left right : String) :
    encode (left ++ right) = encode left ++ encode right := by
  simp only [encode_eq_flatMap, String.toList_append, List.flatMap_append]

/-- Whether a character is outside the basic plane. -/
def isSupplementary (char : Char) : Bool :=
  0x10000 ≤ char.toNat

theorem charBytes_of_basic {char : Char} (basic : char.toNat < 0x10000) :
    charBytes char = (unitBytes char.toNat).map UInt8.ofNat := by
  rw [charBytes, Utf16.ofChar_of_basic basic, List.flatMap_singleton, encodeUnit,
    Utf16.toNat_toUInt16 basic]

/-- The standard bytes of a character of the basic plane, cut at the same bits as the bytes of its
unit. -/
theorem utf8EncodeChar_of_basic {char : Char} (basic : char.toNat < 0x10000) :
    String.utf8EncodeChar char =
      if char.toNat ≤ 0x7f then [UInt8.ofNat char.toNat]
      else if char.toNat ≤ 0x7ff then
        [UInt8.ofNat (0xc0 + char.toNat / 0x40), UInt8.ofNat (0x80 + char.toNat % 0x40)]
      else
        [UInt8.ofNat (0xe0 + char.toNat / 0x1000), UInt8.ofNat (0x80 + char.toNat / 0x40 % 0x40),
          UInt8.ofNat (0x80 + char.toNat % 0x40)] := by
  rw [String.utf8EncodeChar]
  -- The library's bounds are on the word of the character, which is its number by definition.
  change (if char.toNat ≤ 0x7f then _ else if char.toNat ≤ 0x7ff then
    [UInt8.ofNat (char.toNat / 0x40 % 0x20 + 0xc0), UInt8.ofNat (char.toNat % 0x40 + 0x80)]
    else if char.toNat ≤ 0xffff then
    [UInt8.ofNat (char.toNat / 0x1000 % 0x10 + 0xe0),
      UInt8.ofNat (char.toNat / 0x40 % 0x40 + 0x80), UInt8.ofNat (char.toNat % 0x40 + 0x80)]
    else _) = _
  split
  · rfl
  · split
    · have upper : char.toNat / 0x40 % 0x20 = char.toNat / 0x40 := by omega
      rw [upper, Nat.add_comm _ 0xc0, Nat.add_comm _ 0x80]
    · have upper : char.toNat / 0x1000 % 0x10 = char.toNat / 0x1000 := by omega
      rw [if_pos (Nat.le_of_lt_succ basic), upper, Nat.add_comm _ 0xe0, Nat.add_comm _ 0x80,
        Nat.add_comm _ 0x80]

/-- A character of the basic plane other than zero has its standard bytes. -/
theorem charBytes_eq_utf8EncodeChar {char : Char} (nonzero : char ≠ '\x00')
    (basic : char.toNat < 0x10000) : charBytes char = String.utf8EncodeChar char := by
  have positive : 0x01 ≤ char.toNat := by
    by_contra small
    apply nonzero
    rw [← Char.ofNat_toNat char, Nat.lt_one_iff.mp (Nat.lt_of_not_le small)]
  rw [charBytes_of_basic basic, utf8EncodeChar_of_basic basic, unitBytes]
  simp only [positive, true_and]
  split
  · rfl
  · split <;> rfl

/-- A surrogate takes three bytes. -/
theorem length_encodeUnit_of_large {unit : Nat} (large : 0x800 ≤ unit) (fits : unit < 0x10000) :
    (encodeUnit unit.toUInt16).length = 3 := by
  rw [encodeUnit, Utf16.toNat_toUInt16 fits, unitBytes, if_neg (by omega), if_neg (by omega)]
  rfl

theorem length_charBytes_of_supplementary {char : Char} (supplementary : ¬ char.toNat < 0x10000) :
    (charBytes char).length = 6 := by
  have valid := Utf16.toNat_cases char
  rw [charBytes, Utf16.ofChar_of_supplementary supplementary, List.flatMap_cons,
    List.flatMap_singleton, List.length_append, length_encodeUnit_of_large (by omega) (by omega),
    length_encodeUnit_of_large (by omega) (by omega)]

/-- What a character takes more than its standard bytes. -/
theorem length_charBytes (char : Char) :
    (charBytes char).length = (String.utf8EncodeChar char).length + [char].count '\x00' +
      2 * [char].countP isSupplementary := by
  -- Zero, the rest of the basic plane, and what is outside it.
  by_cases zero : char = '\x00'
  · rw [zero]
    decide
  have none : [char].count '\x00' = 0 := List.count_eq_zero.mpr (by simpa using Ne.symm zero)
  by_cases basic : char.toNat < 0x10000
  · have none' : [char].countP isSupplementary = 0 := by simpa [isSupplementary] using basic
    rw [charBytes_eq_utf8EncodeChar zero basic, none, none', Nat.add_zero]
  · have one : [char].countP isSupplementary = 1 := by simpa [isSupplementary] using basic
    have four : char.utf8Size = 4 := by
      rw [Char.utf8Size_eq_four_iff, UInt32.lt_iff_toNat_lt]
      exact Nat.lt_of_succ_le (Nat.le_of_not_lt basic)
    rw [length_charBytes_of_supplementary basic, String.length_utf8EncodeChar, four, none, one]

/-! ### Texts -/

theorem toList_data_toUTF8 (text : String) :
    text.toUTF8.data.toList = text.toList.flatMap String.utf8EncodeChar := by
  rw [String.toUTF8_eq_toByteArray, ← String.ofList_toList (s := text), String.toByteArray_ofList,
    List.utf8Encode, List.toList_data_toByteArray, String.toList_ofList]

theorem size_toUTF8 (text : String) :
    text.toUTF8.size = (text.toList.flatMap String.utf8EncodeChar).length := by
  rw [← toList_data_toUTF8, Array.length_toList]
  rfl

theorem length_encode (text : String) :
    (encode text).length = text.toUTF8.size + text.toList.count '\x00' +
      2 * text.toList.countP isSupplementary := by
  rw [encode_eq_flatMap, size_toUTF8]
  induction text.toList with
  | nil => rfl
  | cons char rest ih =>
    -- All four numbers are sums over the characters.
    have first := length_charBytes char
    have zeros : (char :: rest).count '\x00' = [char].count '\x00' + rest.count '\x00' :=
      List.singleton_append (x := char) ▸ List.count_append
    have supplementary : (char :: rest).countP isSupplementary =
        [char].countP isSupplementary + rest.countP isSupplementary :=
      List.singleton_append (x := char) ▸ List.countP_append
    rw [List.flatMap_cons, List.flatMap_cons, List.length_append, List.length_append, ih, first,
      zeros, supplementary]
    omega

/-- The encodings of a text are the same just if it has none of the characters that they write
differently. -/
theorem encode_eq_toUTF8_iff (text : String) :
    encode text = text.toUTF8.data.toList ↔
      '\x00' ∉ text.toList ∧ ∀ char ∈ text.toList, char.toNat < 0x10000 := by
  constructor
  · intro same
    -- Such a character would make the modified encoding longer.
    have lengths := length_encode text
    rw [same, toList_data_toUTF8, ← size_toUTF8] at lengths
    have none : text.toList.count '\x00' = 0 := by omega
    have none' : text.toList.countP isSupplementary = 0 := by omega
    refine ⟨List.count_eq_zero.mp none, fun char member => ?_⟩
    simpa [isSupplementary] using List.countP_eq_zero.mp none' char member
  · rintro ⟨nonzero, basic⟩
    rw [encode_eq_flatMap, toList_data_toUTF8]
    refine List.flatMap_congr fun char member => ?_
    exact charBytes_eq_utf8EncodeChar (fun zero => nonzero (zero ▸ member)) (basic char member)

end ClassHeader.ModifiedUtf8

namespace ClassHeader

/-! ### Entries -/

namespace Entry

theorem toBytes_eq (entry : Entry) : entry.toBytes = unbroken (stream [entry]) entry.excess? := by
  rw [toBytes, write_eq, emission_eq, bytes_into_empty]

/-- A text is written as its tag, its length and its encoding, provided that the length fits into
two bytes. -/
theorem toBytes_utf8 (text : String) :
    let bytes := ModifiedUtf8.encode text
    (utf8 text).toBytes =
      if bytes.length ≤ 65535 then
        .ok (EntryKind.utf8.tag :: BigEndian.encode 2 bytes.length ++ bytes).toArray
      else .error (.utf8TooLong bytes.length) := by
  intro bytes
  rw [toBytes_eq]
  by_cases fits : bytes.length ≤ 65535
  · have short : (utf8 text).excess? = none := if_neg (Nat.not_lt_of_le fits)
    rw [if_pos fits, short]
    simp [stream, short, unbroken, encoding, bytes]
  · have long : (utf8 text).excess? = some bytes.length := if_pos (Nat.lt_of_not_le fits)
    rw [if_neg fits, long, unbroken]

end Entry

/-- The encoding of a text is made up of those of its parts. It takes as many bytes
as the standard one, one more for each character that is zero and two more for each character
outside the basic plane, and it is the standard one just if there are no such characters. A text is
written if this length is at most 65535, and otherwise the length is what the error reports. -/
theorem ModifiedUtf8.encode_against_standard (text : String) :
    let length := text.toUTF8.size + text.toList.count '\x00' +
      2 * text.toList.countP isSupplementary
    (∀ more, encode (text ++ more) = encode text ++ encode more) ∧
      (encode text).length = length ∧
      (encode text = text.toUTF8.data.toList ↔
        '\x00' ∉ text.toList ∧ ∀ char ∈ text.toList, char.toNat < 0x10000) ∧
      (Entry.utf8 text).toBytes =
        if length ≤ 65535 then
          .ok (EntryKind.utf8.tag :: BigEndian.encode 2 length ++ encode text).toArray
        else .error (.utf8TooLong length) := by
  intro length
  have total : (encode text).length = length := length_encode text
  refine ⟨encode_append text, total, encode_eq_toUTF8_iff text, ?_⟩
  rw [← total]
  exact Entry.toBytes_utf8 text

/-- Two zeros and a character of two units: eight bytes in the standard encoding and twelve here. -/
example : (ModifiedUtf8.encode "\x00é\x00😀").length = 12 := by decide

end ClassHeader
