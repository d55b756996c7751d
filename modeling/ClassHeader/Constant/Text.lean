import ClassHeader.Constant.Basic
import ClassHeader.Number.Layout
import ClassHeader.Text.Literal

/-!
# Constants as source text

The literal that a constant is written as. Infinities and NaN have no literal and are written as the
quotient that yields them. A number of one of the three narrow integer types looks the same in each
of them; in all other cases the text tells the type.
-/

namespace ClassHeader

namespace Binary

variable {precision : Precision}

/-- The text of a floating-point constant whose numbers end in `suffix`. -/
def literalText (suffix : String) (number : Binary precision) : String :=
  if number.isNaN then "(0.0" ++ suffix ++ " / 0.0" ++ suffix ++ ")"
  else if number.isInfinite then
    (if number.negative then "(-1.0" else "(1.0") ++ suffix ++ " / 0.0" ++ suffix ++ ")"
  else number.finiteText ++ suffix

end Binary

namespace Constant

def text : Constant → String
  | .boolean value => if value then "true" else "false"
  | .byte value => value.toInt.repr
  | .short value => value.toInt.repr
  | .int value => value.toInt.repr
  | .long value => value.toInt.repr ++ "L"
  | .char unit => String.ofList (Literal.text '\'' [unit])
  | .float value => value.literalText "f"
  | .double value => value.literalText ""
  | .string value => String.ofList (Literal.text '"' (Utf16.encode value))

end Constant

end ClassHeader
