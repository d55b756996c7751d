/-!
# Big-endian numbers

A number in a class file has a fixed width in bytes, the most significant byte first. Reading what
was written gives the number back, reduced to the width, and leaves the bytes that follow.
-/

namespace ClassHeader.BigEndian

/-- The lowest `width` bytes of a number. -/
def encode : (width : Nat) → (value : Nat) → List UInt8
  | 0, _ => []
  | width + 1, value => (value / Nat.pow 0x100 width).toUInt8 :: encode width value

/-- The number that bytes stand for, where `upper` is the number that the bytes before them do. -/
def decodeFrom (upper : Nat) : List UInt8 → Nat
  | [] => upper
  | byte :: rest => decodeFrom (upper * 0x100 + byte.toNat) rest

/-- Reads a number of some width from the front of bytes, if there are enough of them. -/
def read? (width : Nat) (bytes : List UInt8) : Option (Nat × List UInt8) :=
  if width ≤ bytes.length then some (decodeFrom 0 (bytes.take width), bytes.drop width) else none

@[simp] theorem length_encode (width value : Nat) : (encode width value).length = width := by
  induction width with
  | zero => rfl
  | succ width ih => simp [encode, ih]

theorem decodeFrom_encode (upper width value : Nat) :
    decodeFrom upper (encode width value) =
      upper * Nat.pow 0x100 width + value % Nat.pow 0x100 width := by
  induction width generalizing upper with
  | zero => simp [encode, decodeFrom, Nat.mod_one]
  | succ width ih =>
    have byte : (value / Nat.pow 0x100 width).toUInt8.toNat =
        value / Nat.pow 0x100 width % 0x100 := by simp
    have parts := Nat.mod_mul (x := value) (a := Nat.pow 0x100 width) (b := 0x100)
    rw [encode, decodeFrom, ih, byte, show Nat.pow 0x100 (width + 1) = Nat.pow 0x100 width * 0x100
      from rfl, parts]
    grind

theorem read?_encode (width value : Nat) (rest : List UInt8) :
    read? width (encode width value ++ rest) = some (value % Nat.pow 0x100 width, rest) := by
  simp [read?, decodeFrom_encode]

end ClassHeader.BigEndian
