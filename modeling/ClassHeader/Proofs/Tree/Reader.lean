import ClassHeader.Proofs.Tree.Arithmetic

/-!
# A reader of arithmetic expressions

The reader takes an expression from the start of a text and leaves the rest. In an open parenthesis
it tries a cast, then each operator that precedes its operand, and then an operation that begins
with its first operand.
-/

namespace ClassHeader

/-! ### Symbols and keywords -/

namespace Operator

/-- The operators that precede an operand. One of them can begin with the symbol of another, which
comes after it here. -/
def prefixes : List Operator :=
  [.preIncrement, .preDecrement, .plus, .negate, .complement, .not]

theorem mem_prefixes_of_isUnary {operator : Operator} (isUnary : operator.isUnary = true)
    (precedes : operator.followsOperand = false) : operator ∈ prefixes := by
  revert isUnary precedes
  cases operator <;> decide

theorem precedes_of_mem_prefixes {operator : Operator} (isPrefix : operator ∈ prefixes) :
    operator.followsOperand = false := by
  revert isPrefix
  cases operator <;> decide

/-- The operators that stand between operands. -/
def infixes : List Operator :=
  [.multiply, .divide, .remainder, .add, .subtract, .shiftLeft, .shiftRight, .unsignedShiftRight,
    .less, .greater, .lessOrEqual, .greaterOrEqual, .equal, .notEqual, .bitAnd, .bitXor, .bitOr,
    .and, .or, .conditional]

theorem mem_infixes_of_isBinary {operator : Operator} (isBinary : operator.isBinary = true) :
    operator ∈ infixes := by
  revert isBinary
  cases operator <;> decide

def ofSymbol? (symbol : List Char) : Option Operator :=
  infixes.find? fun operator => operator.symbol.toList == symbol

/-- No two operators between operands share a symbol. -/
theorem ofSymbol?_symbol {operator : Operator} (isInfix : operator ∈ infixes) :
    ofSymbol? operator.symbol.toList = some operator := by
  revert isInfix
  cases operator <;> decide

end Operator

/-- The primitive type that has a keyword. -/
def ConstantKind.ofKeyword? (word : List Char) : Option ConstantKind :=
  [boolean, byte, short, int, long, char, float, double].find? fun kind =>
    kind.keyword.toList == word

theorem ConstantKind.ofKeyword?_keyword {kind : ConstantKind}
    (isPrimitive : kind.isPrimitive = true) : ofKeyword? kind.keyword.toList = some kind := by
  revert isPrimitive
  cases kind <;> decide

namespace Expression

/-! ### The reader -/

/-- Reads an expression at the start of a text, and gives it together with the rest. -/
abbrev Reader := List Char → Option (Expression × List Char)

/-- The literal of a number, if it is one of an int. -/
def ofInt? (number : Int) : Option Expression :=
  let value := Int32.ofInt number
  if value.toInt = number then some (.literal .int (.int value)) else none

/-- The number or name that a word spells. -/
def ofWord? : List Char → Option Expression
  | [] => none
  | first :: more =>
    if first.isDigit then ofInt? (natOfWord (first :: more))
    else some (.reference (QualifiedName.ofWord (first :: more)))

def readAtom? : Reader
  | '-' :: input =>
    let (word, rest) := input.span inName
    (ofInt? (-natOfWord word)).map (·, rest)
  | input =>
    let (word, rest) := input.span inName
    (ofWord? word).map (·, rest)

section

variable (read : Reader)

/-- Reads a cast whose parenthesis is open. -/
def readCast? : Reader := fun input => do
  let (word, rest) := input.span inName
  let kind ← ConstantKind.ofKeyword? word
  let rest ← [')', ' '].isPrefixOf? rest
  let (operand, rest) ← read rest
  return (.cast (.primitive kind) operand, rest)

/-- Reads an operator and then its operand in an open parenthesis. -/
def readPrefix? (operator : Operator) : Reader := fun input => do
  let rest ← operator.symbol.toList.isPrefixOf? input
  let (operand, rest) ← read rest
  let rest ← [')'].isPrefixOf? rest
  return (.unary operator operand, rest)

/-- Reads the operands that follow an operator and its first operand, in an open parenthesis. -/
def readOperands? (operator : Operator) (first : Expression) : Reader := fun input => do
  let (second, rest) ← read input
  if operator = .conditional then
    let rest ← [' ', ':', ' '].isPrefixOf? rest
    let (third, rest) ← read rest
    let rest ← [')'].isPrefixOf? rest
    return (.conditional first second third, rest)
  else
    let rest ← [')'].isPrefixOf? rest
    return (.binary operator first second, rest)

/-- Reads what follows the first operand in an open parenthesis. -/
def readTail? (first : Expression) : Reader
  | '+' :: '+' :: ')' :: rest => some (.unary .postIncrement first, rest)
  | '-' :: '-' :: ')' :: rest => some (.unary .postDecrement first, rest)
  | ' ' :: input => do
    let (symbol, rest) := input.span (· != ' ')
    let operator ← Operator.ofSymbol? symbol
    let rest ← [' '].isPrefixOf? rest
    readOperands? read operator first rest
  | _ => none

/-- Reads an operation that begins with its first operand, in an open parenthesis. -/
def readOperation? : Reader := fun input => do
  let (first, rest) ← read input
  readTail? read first rest

/-- Reads the rest of an expression whose parenthesis is open. -/
def readGroup? : Reader := fun input =>
  readCast? read input <|>
    Operator.prefixes.findSome? (fun operator => readPrefix? read operator input) <|>
      readOperation? read input

end

/-- Reads an expression whose parts are nested less deeply than some bound. -/
def readWithin? : Nat → Reader
  | 0, _ => none
  | bound + 1, '(' :: input => readGroup? (readWithin? bound) input
  | _ + 1, input => readAtom? input

/-- The expression that a text spells. -/
def read? (text : String) : Option Expression :=
  match readWithin? (text.length + 1) text.toList with
  | some (expr, []) => some expr
  | _ => none

/-- Whether some text is read as an expression, whatever follows it. -/
def Reads (read : Reader) (text : List Char) (expr : Expression) : Prop :=
  ∀ rest, Stops inName rest → read (text ++ rest) = some (expr, rest)

end Expression

end ClassHeader
