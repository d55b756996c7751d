import ClassHeader.Proofs.Text.Utf16
import ClassHeader.Text.ModifiedUtf8

/-!
# Texts and their modified UTF-8

The first byte of a unit tells how many bytes it has, so that the bytes of units can be cut apart
from the front. The reader takes each unit in one form only, the one that it is written in.
-/

namespace ClassHeader.ModifiedUtf8

theorem toNat_byte {number : Nat} (fits : number < 0x100) : (UInt8.ofNat number).toNat = number :=
  UInt8.toNat_ofNat_of_lt' fits

theorem continuation?_byte {low : Nat} (fits : low < 0x40) :
    continuation? (UInt8.ofNat (0x80 + low)) = some low := by
  have byte : (UInt8.ofNat (0x80 + low)).toNat = 0x80 + low := toNat_byte (by omega)
  rw [continuation?, byte, if_pos, Nat.add_sub_cancel_left]
  rw [UInt8.le_iff_toNat_le, UInt8.lt_iff_toNat_lt, byte]
  change 0x80 ≤ 0x80 + low ∧ 0x80 + low < 0xc0
  omega

/-! ### The three forms of a unit -/

section

variable (rest : List UInt8)

theorem decodeUnits?_one {unit : Nat} (positive : 0x01 ≤ unit) (small : unit ≤ 0x7f) :
    decodeUnits? (UInt8.ofNat unit :: rest) = (decodeUnits? rest).map (unit.toUInt16 :: ·) := by
  have byte : (UInt8.ofNat unit).toNat = unit := toNat_byte (by omega)
  have form : 0x01 ≤ UInt8.ofNat unit ∧ UInt8.ofNat unit ≤ 0x7f := by
    rw [UInt8.le_iff_toNat_le, UInt8.le_iff_toNat_le, byte]
    exact ⟨positive, small⟩
  have unit' : (UInt8.ofNat unit).toUInt16 = unit.toUInt16 := by
    rw [← UInt16.toNat_inj, UInt8.toNat_toUInt16, byte, Utf16.toNat_toUInt16 (by omega)]
  rw [decodeUnits?.eq_def]
  simp only [if_pos form, unit']

theorem decodeUnits?_two {upper low : Nat} (upperFits : upper < 0x20) (lowFits : low < 0x40)
    (shortest : upper * 0x40 + low = 0 ∨ 0x80 ≤ upper * 0x40 + low) :
    decodeUnits? (UInt8.ofNat (0xc0 + upper) :: UInt8.ofNat (0x80 + low) :: rest) =
      (decodeUnits? rest).map ((upper * 0x40 + low).toUInt16 :: ·) := by
  have byte : (UInt8.ofNat (0xc0 + upper)).toNat = 0xc0 + upper := toNat_byte (by omega)
  have notOne : ¬ (0x01 ≤ UInt8.ofNat (0xc0 + upper) ∧ UInt8.ofNat (0xc0 + upper) ≤ 0x7f) := by
    rw [UInt8.le_iff_toNat_le, UInt8.le_iff_toNat_le, byte]
    change ¬ (1 ≤ 0xc0 + upper ∧ 0xc0 + upper ≤ 0x7f)
    omega
  have form : 0xc0 ≤ UInt8.ofNat (0xc0 + upper) ∧ UInt8.ofNat (0xc0 + upper) < 0xe0 := by
    rw [UInt8.le_iff_toNat_le, UInt8.lt_iff_toNat_lt, byte]
    change 0xc0 ≤ 0xc0 + upper ∧ 0xc0 + upper < 0xe0
    omega
  rw [decodeUnits?.eq_def]
  simp only [if_neg notOne, if_pos form, continuation?_byte lowFits, byte, Nat.add_sub_cancel_left,
    if_pos shortest]

theorem decodeUnits?_three {upper middle low : Nat} (upperFits : upper < 0x10)
    (middleFits : middle < 0x40) (lowFits : low < 0x40)
    (shortest : 0x800 ≤ upper * 0x1000 + middle * 0x40 + low) :
    decodeUnits? (UInt8.ofNat (0xe0 + upper) :: UInt8.ofNat (0x80 + middle) ::
        UInt8.ofNat (0x80 + low) :: rest) =
      (decodeUnits? rest).map ((upper * 0x1000 + middle * 0x40 + low).toUInt16 :: ·) := by
  -- The first byte is too great for the shorter forms.
  have byte : (UInt8.ofNat (0xe0 + upper)).toNat = 0xe0 + upper := toNat_byte (by omega)
  have notOne : ¬ (0x01 ≤ UInt8.ofNat (0xe0 + upper) ∧ UInt8.ofNat (0xe0 + upper) ≤ 0x7f) := by
    rw [UInt8.le_iff_toNat_le, UInt8.le_iff_toNat_le, byte]
    change ¬ (1 ≤ 0xe0 + upper ∧ 0xe0 + upper ≤ 0x7f)
    omega
  have notTwo : ¬ (0xc0 ≤ UInt8.ofNat (0xe0 + upper) ∧ UInt8.ofNat (0xe0 + upper) < 0xe0) := by
    rw [UInt8.le_iff_toNat_le, UInt8.lt_iff_toNat_lt, byte]
    change ¬ (0xc0 ≤ 0xe0 + upper ∧ 0xe0 + upper < 0xe0)
    omega
  have form : 0xe0 ≤ UInt8.ofNat (0xe0 + upper) ∧ UInt8.ofNat (0xe0 + upper) < 0xf0 := by
    rw [UInt8.le_iff_toNat_le, UInt8.lt_iff_toNat_lt, byte]
    change 0xe0 ≤ 0xe0 + upper ∧ 0xe0 + upper < 0xf0
    omega
  rw [decodeUnits?.eq_def]
  simp only [if_neg notOne, if_neg notTwo, if_pos form, continuation?_byte middleFits,
    continuation?_byte lowFits, byte, Nat.add_sub_cancel_left, if_pos shortest]

/-- The bytes of a unit at the front are read as that unit. -/
theorem decodeUnits?_encodeUnit (unit : UInt16) :
    decodeUnits? (encodeUnit unit ++ rest) = (decodeUnits? rest).map (unit :: ·) := by
  have bound : unit.toNat < 0x10000 := unit.toNat_lt
  have same : unit.toNat.toUInt16 = unit := UInt16.ofNat_toNat
  rw [encodeUnit, unitBytes]
  split
  · next one =>
    rw [List.map_singleton, List.singleton_append, decodeUnits?_one rest one.1 one.2,
      same]
  · next notOne =>
    split
    · next two =>
      -- Cut after the lowest six bits.
      have whole : unit.toNat / 0x40 * 0x40 + unit.toNat % 0x40 = unit.toNat := by omega
      rw [List.map_cons, List.map_singleton, List.cons_append, List.singleton_append,
        decodeUnits?_two rest (by omega) (by omega) (by omega), whole, same]
    · next three =>
      -- Cut after the lowest six bits and after the next six.
      have whole : unit.toNat / 0x1000 * 0x1000 + unit.toNat / 0x40 % 0x40 * 0x40 +
          unit.toNat % 0x40 = unit.toNat := by omega
      rw [List.map_cons, List.map_cons, List.map_singleton, List.cons_append, List.cons_append,
        List.singleton_append, decodeUnits?_three rest (by omega) (by omega) (by omega) (by omega),
        whole, same]

end

theorem decodeUnits?_flatMap_encodeUnit (units : List UInt16) :
    decodeUnits? (units.flatMap encodeUnit) = some units := by
  induction units with
  | nil => rw [List.flatMap_nil, decodeUnits?]
  | cons unit rest ih => rw [List.flatMap_cons, decodeUnits?_encodeUnit, ih, Option.map_some]

/-- The bytes of a text are read as that text. -/
theorem decode?_encode (text : String) : decode? (encode text) = some text := by
  rw [decode?, encode, decodeUnits?_flatMap_encodeUnit, Option.bind_some, Utf16.decode?_encode]

/-! ### Bytes that are read -/

theorem eq_byte_of_toNat {byte : UInt8} {number : Nat} (same : byte.toNat = number) :
    byte = UInt8.ofNat number := by
  rw [← same, UInt8.ofNat_toNat]

theorem eq_of_continuation? {byte : UInt8} {low : Nat} (read : continuation? byte = some low) :
    byte = UInt8.ofNat (0x80 + low) ∧ low < 0x40 := by
  rw [continuation?, Option.ite_none_right_eq_some, UInt8.le_iff_toNat_le,
    UInt8.lt_iff_toNat_lt] at read
  obtain ⟨⟨lower, upper⟩, same⟩ := read
  change 0x80 ≤ byte.toNat at lower
  change byte.toNat < 0xc0 at upper
  obtain rfl := Option.some.inj same
  exact ⟨eq_byte_of_toNat (by omega), by omega⟩

theorem encodeUnit_one {byte : UInt8} (form : 0x01 ≤ byte ∧ byte ≤ 0x7f) :
    encodeUnit byte.toUInt16 = [byte] := by
  rw [UInt8.le_iff_toNat_le, UInt8.le_iff_toNat_le] at form
  have small : 0x01 ≤ byte.toNat ∧ byte.toNat ≤ 0x7f := form
  rw [encodeUnit, unitBytes, UInt8.toNat_toUInt16, if_pos small, List.map_singleton,
    UInt8.ofNat_toNat]

theorem encodeUnit_two {first : UInt8} {low : Nat} (form : 0xc0 ≤ first ∧ first < 0xe0)
    (lowFits : low < 0x40)
    (shortest : (first.toNat - 0xc0) * 0x40 + low = 0 ∨
      0x80 ≤ (first.toNat - 0xc0) * 0x40 + low) :
    encodeUnit ((first.toNat - 0xc0) * 0x40 + low).toUInt16 =
      [first, UInt8.ofNat (0x80 + low)] := by
  rw [UInt8.le_iff_toNat_le, UInt8.lt_iff_toNat_lt] at form
  have bounds : 0xc0 ≤ first.toNat ∧ first.toNat < 0xe0 := form
  generalize number : (first.toNat - 0xc0) * 0x40 + low = unit at shortest ⊢
  have upper : first = UInt8.ofNat (0xc0 + unit / 0x40) := eq_byte_of_toNat (by omega)
  have lower : unit % 0x40 = low := by omega
  rw [encodeUnit, unitBytes, Utf16.toNat_toUInt16 (by omega), if_neg (by omega),
    if_pos (by omega), List.map_cons, List.map_singleton, ← upper, lower]

theorem encodeUnit_three {first : UInt8} {middle low : Nat} (form : 0xe0 ≤ first ∧ first < 0xf0)
    (middleFits : middle < 0x40) (lowFits : low < 0x40)
    (shortest : 0x800 ≤ (first.toNat - 0xe0) * 0x1000 + middle * 0x40 + low) :
    encodeUnit ((first.toNat - 0xe0) * 0x1000 + middle * 0x40 + low).toUInt16 =
      [first, UInt8.ofNat (0x80 + middle), UInt8.ofNat (0x80 + low)] := by
  rw [UInt8.le_iff_toNat_le, UInt8.lt_iff_toNat_lt] at form
  have bounds : 0xe0 ≤ first.toNat ∧ first.toNat < 0xf0 := form
  generalize number : (first.toNat - 0xe0) * 0x1000 + middle * 0x40 + low = unit at shortest ⊢
  have upper : first = UInt8.ofNat (0xe0 + unit / 0x1000) := eq_byte_of_toNat (by omega)
  have centre : unit / 0x40 % 0x40 = middle := by omega
  have lower : unit % 0x40 = low := by omega
  rw [encodeUnit, unitBytes, Utf16.toNat_toUInt16 (by omega), if_neg (by omega),
    if_neg (by omega), List.map_cons, List.map_cons, List.map_singleton, ← upper, centre, lower]

theorem flatMap_encodeUnit_of_decodeUnits? {bytes : List UInt8} {units : List UInt16}
    (read : decodeUnits? bytes = some units) : units.flatMap encodeUnit = bytes := by
  fun_induction decodeUnits? bytes generalizing units with
  | case1 =>
    obtain rfl := Option.some.inj read
    rfl
  | case2 first rest form ih =>
    obtain ⟨others, readOthers, rfl⟩ := Option.map_eq_some_iff.mp read
    rw [List.flatMap_cons, encodeUnit_one form, ih readOthers]
    rfl
  | case3 first notOne form second rest low readLow unit shortest =>
    rename_i ih
    obtain ⟨others, readOthers, rfl⟩ := Option.map_eq_some_iff.mp read
    obtain ⟨rfl, lowFits⟩ := eq_of_continuation? readLow
    rw [List.flatMap_cons, encodeUnit_two form lowFits shortest, ih readOthers]
    rfl
  | case7 first notOne notTwo form second third rest middle low readLow readMiddle unit shortest =>
    rename_i ih
    obtain ⟨others, readOthers, rfl⟩ := Option.map_eq_some_iff.mp read
    obtain ⟨rfl, middleFits⟩ := eq_of_continuation? readMiddle
    obtain ⟨rfl, lowFits⟩ := eq_of_continuation? readLow
    rw [List.flatMap_cons, encodeUnit_three form middleFits lowFits shortest, ih readOthers]
    rfl
  -- In all other cases the bytes are rejected.
  | case4 | case5 | case6 | case8 | case9 | case10 | case11 => cases read

/-- Bytes are read as a text exactly if they are the bytes of that text. -/
theorem decode?_eq_some_iff {bytes : List UInt8} {text : String} :
    decode? bytes = some text ↔ encode text = bytes := by
  constructor
  · intro read
    obtain ⟨units, readUnits, readText⟩ := Option.bind_eq_some_iff.mp read
    obtain rfl := Utf16.decode?_eq_some_iff.mp readText
    exact flatMap_encodeUnit_of_decodeUnits? readUnits
  · rintro rfl
    exact decode?_encode text

theorem encode_injective : Function.Injective encode := by
  intro left right same
  have read : decode? (encode left) = some right := same ▸ decode?_encode right
  exact Option.some.inj ((decode?_encode left).symm.trans read)

/-! ### The numbers of the bytes -/

/-- No number is zero. A unit leaves four bits for the first byte of three, so that no number
reaches f0 either. -/
theorem unitBytes_bounds {unit number : Nat} (fits : unit < 0x10000)
    (member : number ∈ unitBytes unit) : 0x00 < number ∧ number < 0xf0 := by
  rw [unitBytes] at member
  split at member
  · next one =>
    obtain rfl := List.mem_singleton.mp member
    omega
  · split at member <;>
      simp only [List.mem_cons, List.not_mem_nil, or_false] at member <;> omega

theorem map_toNat_encodeUnit (unit : UInt16) :
    (encodeUnit unit).map UInt8.toNat = unitBytes unit.toNat := by
  have identity : ∀ number ∈ unitBytes unit.toNat,
      (UInt8.toNat ∘ UInt8.ofNat) number = id number := by
    intro number member
    have bounds := unitBytes_bounds unit.toNat_lt member
    exact toNat_byte (by omega)
  rw [encodeUnit, List.map_map, List.map_congr_left identity, List.map_id]

theorem encode_bounds {text : String} {byte : UInt8} (member : byte ∈ encode text) :
    0x00 < byte ∧ byte < 0xf0 := by
  obtain ⟨unit, -, inUnit⟩ := List.mem_flatMap.mp member
  have inNumbers : byte.toNat ∈ unitBytes unit.toNat := by
    rw [← map_toNat_encodeUnit]
    exact List.mem_map_of_mem inUnit
  rw [UInt8.lt_iff_toNat_lt, UInt8.lt_iff_toNat_lt]
  exact unitBytes_bounds unit.toNat_lt inNumbers

/-! ### Shifts and masks -/

/-- A byte whose lowest bits are clear takes a part of a unit into them. Neither the cast of the
part nor the sum loses a bit. -/
theorem or_toUInt8 {lead : UInt8} {part : UInt16} (bits : Nat) (byte : bits ≤ 8)
    (clear : lead.toNat % Nat.pow 2 bits = 0) (small : part.toNat < Nat.pow 2 bits) :
    lead ||| part.toUInt8 = UInt8.ofNat (lead.toNat + part.toNat) := by
  have limit : Nat.pow 2 bits ≤ Nat.pow 2 8 := Nat.pow_le_pow_right (by decide) byte
  have kept : part.toUInt8.toNat = part.toNat := by
    rw [UInt16.toNat_toUInt8]
    exact Nat.mod_eq_of_lt (Nat.lt_of_lt_of_le small limit)
  have whole : Nat.pow 2 bits * (lead.toNat / Nat.pow 2 bits) = lead.toNat :=
    Nat.mul_div_cancel' (Nat.dvd_of_mod_eq_zero clear)
  -- The two have no bit in common.
  have sum : lead.toNat ||| part.toNat = lead.toNat + part.toNat := by
    rw [← whole]
    exact (Nat.two_pow_add_eq_or_of_lt small _).symm
  apply eq_byte_of_toNat
  rw [UInt8.toNat_or, kept, sum]

/-- The bytes of a unit by shifts and masks, each part cut down to a byte before it is added. -/
def packUnit (unit : UInt16) : List UInt8 :=
  if 0x01 ≤ unit ∧ unit ≤ 0x7f then [unit.toUInt8]
  else if unit ≤ 0x7ff then
    [(0xc0 : UInt8) ||| (unit >>> 6).toUInt8, (0x80 : UInt8) ||| (unit &&& 0x3f).toUInt8]
  else
    [(0xe0 : UInt8) ||| (unit >>> 12).toUInt8, (0x80 : UInt8) ||| (unit >>> 6 &&& 0x3f).toUInt8,
      (0x80 : UInt8) ||| (unit &&& 0x3f).toUInt8]

theorem packUnit_eq_encodeUnit (unit : UInt16) : packUnit unit = encodeUnit unit := by
  have bound : unit.toNat < 0x10000 := unit.toNat_lt
  -- Shifts and masks are quotients and remainders, and bits that do not meet add up.
  have shift6 : (unit >>> 6).toNat = unit.toNat / 0x40 := by
    rw [UInt16.toNat_shiftRight]
    exact Nat.shiftRight_eq_div_pow _ _
  have shift12 : (unit >>> 12).toNat = unit.toNat / 0x1000 := by
    rw [UInt16.toNat_shiftRight]
    exact Nat.shiftRight_eq_div_pow _ _
  have mask (value : UInt16) : (value &&& 0x3f).toNat = value.toNat % 0x40 := by
    rw [UInt16.toNat_and]
    exact Nat.and_two_pow_sub_one_eq_mod _ 6
  have continued (value : UInt16) :
      (0x80 : UInt8) ||| (value &&& 0x3f).toUInt8 = UInt8.ofNat (0x80 + value.toNat % 0x40) := by
    rw [or_toUInt8 6 (by decide) rfl (mask value ▸ Nat.mod_lt _ (by decide)), mask]
    rfl
  have one : (0x01 ≤ unit ∧ unit ≤ 0x7f) ↔ (0x01 ≤ unit.toNat ∧ unit.toNat ≤ 0x7f) := by
    rw [UInt16.le_iff_toNat_le, UInt16.le_iff_toNat_le]
    rfl
  have two : unit ≤ 0x7ff ↔ unit.toNat ≤ 0x7ff := UInt16.le_iff_toNat_le
  rw [packUnit, encodeUnit, unitBytes]
  simp only [one, two]
  split
  · rfl
  · split
    · next short =>
      have first : (0xc0 : UInt8) ||| (unit >>> 6).toUInt8 =
          UInt8.ofNat (0xc0 + unit.toNat / 0x40) := by
        rw [or_toUInt8 5 (by decide) rfl (by rw [shift6]; change _ < 0x20; omega), shift6]
        rfl
      rw [first, continued, List.map_cons, List.map_singleton]
    · next long =>
      have first : (0xe0 : UInt8) ||| (unit >>> 12).toUInt8 =
          UInt8.ofNat (0xe0 + unit.toNat / 0x1000) := by
        rw [or_toUInt8 4 (by decide) rfl (by rw [shift12]; change _ < 0x10; omega), shift12]
        rfl
      rw [first, continued, continued, shift6, List.map_cons, List.map_cons, List.map_singleton]

/-- Modified UTF-8 and its strict reader are inverse to each other: bytes are read as a text exactly
if they are the bytes of that text, so that no two texts share their bytes. No byte is zero or has
four leading ones, and the numbers that the bytes stand for are those computed without a limit, by
shifts and masks as well. -/
theorem decode?_inverts_encode :
    (∀ (bytes : List UInt8) (text : String), decode? bytes = some text ↔ encode text = bytes) ∧
      Function.Injective encode ∧
      (∀ text : String, ∀ byte ∈ encode text, 0x00 < byte ∧ byte < 0xf0) ∧
      ∀ unit : UInt16, packUnit unit = encodeUnit unit ∧
        (packUnit unit).map UInt8.toNat = unitBytes unit.toNat := by
  refine ⟨fun _ _ => decode?_eq_some_iff, encode_injective, fun _ _ => encode_bounds, ?_⟩
  intro unit
  have same := packUnit_eq_encodeUnit unit
  exact ⟨same, same ▸ map_toNat_encodeUnit unit⟩

/-- A text with a unit of every form, zero and a pair of surrogates among them. -/
theorem decode?_inverts_encode_of_all_forms :
    let text := "a\x00é€😀"
    let bytes : List UInt8 :=
      [0x61, 0xc0, 0x80, 0xc3, 0xa9, 0xe2, 0x82, 0xac, 0xed, 0xa0, 0xbd, 0xed, 0xb8, 0x80]
    decode? bytes = some text ∧
      0xed ∈ encode text ∧ (0x00 : UInt8) < 0xed ∧ (0xed : UInt8) < 0xf0 := by
  intro text bytes
  obtain ⟨inverse, -, bounds, -⟩ := decode?_inverts_encode
  have written : encode text = bytes := by decide
  have member : 0xed ∈ encode text := by
    rw [written]
    decide
  exact ⟨(inverse bytes text).mpr written, member, bounds text 0xed member⟩

end ClassHeader.ModifiedUtf8
