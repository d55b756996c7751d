/-!
# UTF-16 code units

A character of the basic plane is one unit, any other character a high surrogate followed by a low
one. `encode` gives the units of a text and `decode?` reads them back, refusing a surrogate that is
not part of a pair.
-/

namespace ClassHeader.Utf16

def ofChar (char : Char) : List UInt16 :=
  let code := char.toNat
  if code < 0x10000 then [code.toUInt16]
  else
    let offset := code - 0x10000
    [(0xd800 + offset / 0x400).toUInt16, (0xdc00 + offset % 0x400).toUInt16]

def encode (text : String) : List UInt16 :=
  text.toList.flatMap ofChar

/-- Whether a unit can only be the first of a pair. -/
def isHigh (unit : UInt16) : Bool :=
  0xd800 ≤ unit && unit < 0xdc00

/-- Whether a unit can only be the second of a pair. -/
def isLow (unit : UInt16) : Bool :=
  0xdc00 ≤ unit && unit < 0xe000

/-- The character of a pair of surrogates. -/
def pair (high low : UInt16) : Char :=
  Char.ofNat (0x10000 + (high.toNat - 0xd800) * 0x400 + (low.toNat - 0xdc00))

/-- The characters that units stand for, if every surrogate is part of a pair. -/
def decodeChars? : List UInt16 → Option (List Char)
  | [] => some []
  | unit :: rest =>
    if isHigh unit then
      match rest with
      | low :: rest =>
        if isLow low then (decodeChars? rest).map (pair unit low :: ·) else none
      | [] => none
    else if isLow unit then none
    else (decodeChars? rest).map (Char.ofNat unit.toNat :: ·)

/-- The text that units stand for, if every surrogate is part of a pair. -/
def decode? (units : List UInt16) : Option String :=
  (decodeChars? units).map String.ofList

end ClassHeader.Utf16
