import ClassHeader.Constant.Kind
import ClassHeader.Number.Binary

/-!
# Constants

The value of a constant expression. A character is one UTF-16 unit, so a lone surrogate is a
character too.
-/

namespace ClassHeader

inductive Constant where
  | boolean (value : Bool)
  | byte (value : Int8)
  | short (value : Int16)
  | int (value : Int32)
  | long (value : Int64)
  | char (unit : UInt16)
  | float (value : Binary .single)
  | double (value : Binary .double)
  | string (value : String)
  deriving DecidableEq, Repr

namespace Constant

def kind : Constant → ConstantKind
  | .boolean _ => .boolean
  | .byte _ => .byte
  | .short _ => .short
  | .int _ => .int
  | .long _ => .long
  | .char _ => .char
  | .float _ => .float
  | .double _ => .double
  | .string _ => .string

/-- Equality of type and value, where floating-point values are compared as numbers. -/
def equals : Constant → Constant → Bool
  | .boolean left, .boolean right => left == right
  | .byte left, .byte right => left == right
  | .short left, .short right => left == right
  | .int left, .int right => left == right
  | .long left, .long right => left == right
  | .char left, .char right => left == right
  | .float left, .float right => left.numericallyEqual right
  | .double left, .double right => left.numericallyEqual right
  | .string left, .string right => left == right
  | _, _ => false

end Constant

end ClassHeader
