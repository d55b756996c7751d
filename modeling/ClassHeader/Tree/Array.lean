import ClassHeader.Tree.Basic

/-!
# Arrays of arrays

An array of an array is one array with the dimensions of both, and an array of no dimensions is its
element. `TypeUse.arrayOf` builds arrays that way. The constructor takes any element and any number
of dimensions.
-/

namespace ClassHeader

/-- The sum of two numbers of dimensions, or the greatest number of dimensions if the sum is
greater. -/
def saturatingAdd (left right : UInt32) : UInt32 :=
  if left.toNat + right.toNat < 0x100000000 then left + right else 0xffffffff

/-- An array of some element type. The dimensions of an element that is itself an array are added to
those asked for. -/
def TypeUse.arrayOf (element : TypeUse) (dimensions : UInt32) : TypeUse :=
  if dimensions = 0 then element
  else
    match element with
    | .array inner innerDimensions => .array inner (saturatingAdd innerDimensions dimensions)
    | other => .array other dimensions

end ClassHeader
