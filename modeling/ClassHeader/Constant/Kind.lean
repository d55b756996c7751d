/-!
# Types of constants

A constant is of a primitive type or a string. The order of the types is the order in which they are
listed here.
-/

namespace ClassHeader

inductive ConstantKind where
  | boolean
  | byte
  | short
  | int
  | long
  | char
  | float
  | double
  | string
  deriving DecidableEq, Ord, Repr

namespace ConstantKind

/-- Every type but the string type is primitive. -/
def isPrimitive : ConstantKind → Bool
  | .string => false
  | _ => true

/-- The type as it is written in source text. -/
def keyword : ConstantKind → String
  | .boolean => "boolean"
  | .byte => "byte"
  | .short => "short"
  | .int => "int"
  | .long => "long"
  | .char => "char"
  | .float => "float"
  | .double => "double"
  | .string => "String"

end ConstantKind

end ClassHeader
