import ClassHeader.Text.Utf16

/-!
# Modified UTF-8

Class files hold text in a form of UTF-8 that works on UTF-16 units: each unit takes one, two or
three bytes, so that a character outside the basic plane takes six, and the unit zero takes two
bytes, so that no byte is zero. `decode?` accepts only what `encode` writes.
-/

namespace ClassHeader.ModifiedUtf8

/-- The bytes of a unit, as numbers: seven bits in one byte, eleven in two, sixteen in three. Zero
takes two. -/
def unitBytes (unit : Nat) : List Nat :=
  if 0x01 ≤ unit ∧ unit ≤ 0x7f then [unit]
  else if unit ≤ 0x7ff then [0xc0 + unit / 0x40, 0x80 + unit % 0x40]
  else [0xe0 + unit / 0x1000, 0x80 + unit / 0x40 % 0x40, 0x80 + unit % 0x40]

def encodeUnit (unit : UInt16) : List UInt8 :=
  (unitBytes unit.toNat).map UInt8.ofNat

def encode (text : String) : List UInt8 :=
  (Utf16.encode text).flatMap encodeUnit

/-- The six bits of a byte that continues a unit. -/
def continuation? (byte : UInt8) : Option Nat :=
  if 0x80 ≤ byte ∧ byte < 0xc0 then some (byte.toNat - 0x80) else none

/-- The units that bytes stand for. One byte holds 01 to 7f, two bytes hold zero or 80 to 7ff, three
bytes hold 800 to ffff, and nothing else is accepted. -/
def decodeUnits? : List UInt8 → Option (List UInt16)
  | [] => some []
  | first :: rest =>
    if 0x01 ≤ first ∧ first ≤ 0x7f then (decodeUnits? rest).map (first.toUInt16 :: ·)
    else if 0xc0 ≤ first ∧ first < 0xe0 then
      match rest with
      | second :: rest =>
        match continuation? second with
        | some low =>
          let unit := (first.toNat - 0xc0) * 0x40 + low
          if unit = 0 ∨ 0x80 ≤ unit then (decodeUnits? rest).map (unit.toUInt16 :: ·) else none
        | none => none
      | [] => none
    else if 0xe0 ≤ first ∧ first < 0xf0 then
      match rest with
      | second :: third :: rest =>
        match continuation? second, continuation? third with
        | some middle, some low =>
          let unit := (first.toNat - 0xe0) * 0x1000 + middle * 0x40 + low
          if 0x800 ≤ unit then (decodeUnits? rest).map (unit.toUInt16 :: ·) else none
        | _, _ => none
      | _ => none
    else none

/-- The text that bytes stand for, if they are the bytes of a text. -/
def decode? (bytes : List UInt8) : Option String :=
  (decodeUnits? bytes).bind Utf16.decode?

end ClassHeader.ModifiedUtf8
