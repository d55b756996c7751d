import ClassHeader.Text.Utf16

/-!
# Quoted literals

The text of a character or string literal: UTF-16 units between two quotes of one kind. Units other
than visible ASCII are escaped, so that the text is ASCII whatever it stands for.
-/

namespace ClassHeader.Literal

/-- The escape that names a unit by one letter. -/
def letterEscape? (unit : UInt16) : Option Char :=
  match unit.toNat with
  | 0x08 => some 'b'
  | 0x09 => some 't'
  | 0x0a => some 'n'
  | 0x0c => some 'f'
  | 0x0d => some 'r'
  | 0x5c => some '\\'
  | _ => none

/-- The four hexadecimal digits of a unit. -/
def hexDigits (unit : UInt16) : List Char :=
  [unit.toNat / 0x1000, unit.toNat / 0x100 % 0x10, unit.toNat / 0x10 % 0x10,
    unit.toNat % 0x10].map Nat.digitChar

/-- One unit inside quotes: escaped by a letter, preceded by a backslash if it is the quote, itself
if it is visible ASCII, and escaped by number otherwise. -/
def unitText (quote : Char) (unit : UInt16) : List Char :=
  match letterEscape? unit with
  | some letter => ['\\', letter]
  | none =>
    if 0x20 ≤ unit ∧ unit ≤ 0x7e then
      let char := Char.ofNat unit.toNat
      if char = quote then ['\\', char] else [char]
    else '\\' :: 'u' :: hexDigits unit

/-- A literal that stands for these units, between two quotes. -/
def text (quote : Char) (units : List UInt16) : List Char :=
  quote :: units.flatMap (unitText quote) ++ [quote]

end ClassHeader.Literal
