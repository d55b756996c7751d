/-!
# Operators

The operators of constant expressions, with the symbol that each is written as and how tightly it
binds.
-/

namespace ClassHeader

inductive Operator where
  | postIncrement
  | postDecrement
  | preIncrement
  | preDecrement
  | plus
  | negate
  | complement
  | not
  | multiply
  | divide
  | remainder
  | add
  | subtract
  | shiftLeft
  | shiftRight
  | unsignedShiftRight
  | less
  | greater
  | lessOrEqual
  | greaterOrEqual
  | equal
  | notEqual
  | bitAnd
  | bitXor
  | bitOr
  | and
  | or
  | conditional
  | assign
  deriving DecidableEq, Repr

namespace Operator

/-- The text of the operator itself. An operator of one operand can share it with one of two. -/
def symbol : Operator → String
  | .postIncrement | .preIncrement => "++"
  | .postDecrement | .preDecrement => "--"
  | .plus | .add => "+"
  | .negate | .subtract => "-"
  | .complement => "~"
  | .not => "!"
  | .multiply => "*"
  | .divide => "/"
  | .remainder => "%"
  | .shiftLeft => "<<"
  | .shiftRight => ">>"
  | .unsignedShiftRight => ">>>"
  | .less => "<"
  | .greater => ">"
  | .lessOrEqual => "<="
  | .greaterOrEqual => ">="
  | .equal => "=="
  | .notEqual => "!="
  | .bitAnd => "&"
  | .bitXor => "^"
  | .bitOr => "|"
  | .and => "&&"
  | .or => "||"
  | .conditional => "?"
  | .assign => "="

/-- How tightly the operator binds its operands; a greater number binds more tightly. -/
def precedence : Operator → Nat
  | .postIncrement | .postDecrement => 14
  | .preIncrement | .preDecrement | .plus | .negate | .complement | .not => 13
  | .multiply | .divide | .remainder => 12
  | .add | .subtract => 11
  | .shiftLeft | .shiftRight | .unsignedShiftRight => 10
  | .less | .greater | .lessOrEqual | .greaterOrEqual => 9
  | .equal | .notEqual => 8
  | .bitAnd => 7
  | .bitXor => 6
  | .bitOr => 5
  | .and => 4
  | .or => 3
  | .conditional => 2
  | .assign => 1

/-- Whether the operator is written after its operand. -/
def followsOperand : Operator → Bool
  | .postIncrement | .postDecrement => true
  | _ => false

end Operator

end ClassHeader
