import ClassHeader.Number.Layout
import ClassHeader.Pool.Entry
import ClassHeader.Text.Quoted

/-!
# The journal of a pool

What happens to a pool is recorded as it happens: every entry that is added, with its index, and
every writing of the pool to a class file. Each record has a level and a message.
-/

namespace ClassHeader

/-- How much a record matters. -/
inductive Level where
  | trace
  | debug
  deriving DecidableEq, Repr

inductive Event where
  | added (index : UInt16) (entry : Entry)
  /-- A pool with this next index and this many entries was about to be written. -/
  | writing (count : UInt16) (entries : Nat)
  deriving DecidableEq, Repr

namespace Binary

variable {precision : Precision}

def messageText (number : Binary precision) : String :=
  if number.isNaN then "NaN"
  else if number.isInfinite then (if number.negative then "-inf" else "inf")
  else number.finiteText

end Binary

namespace Content

/-- A content in a message, with what kind of content it is. -/
def messageText : Content → String
  | .utf8 text => "Utf8(" ++ Quoted.text text ++ ")"
  | .index text => "Index(" ++ text.toNat.repr ++ ")"
  | .integer value => "Integer(" ++ value.toInt.repr ++ ")"
  | .float value => "Float(" ++ value.messageText ++ ")"
  | .long value => "Long(" ++ value.toInt.repr ++ ")"
  | .double value => "Double(" ++ value.messageText ++ ")"

end Content

namespace Event

/-- Added entries are of interest when tracing only. -/
def level : Event → Level
  | .added _ _ => .trace
  | .writing _ _ => .debug

def message : Event → String
  | .added index entry =>
    "constant pool: #" ++ index.toNat.repr ++ " = " ++ entry.kind.name ++ " " ++
      entry.content.messageText
  | .writing count entries =>
    "writing constant pool: count=" ++ count.toNat.repr ++ " entries=" ++ entries.repr

end Event

end ClassHeader
