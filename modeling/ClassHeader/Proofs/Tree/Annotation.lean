import ClassHeader.Proofs.Text.Closing
import ClassHeader.Proofs.Text.Items
import ClassHeader.Proofs.Tree.Reader

/-!
# Annotations as text

The arguments of an annotation are literals, names of constants, lists, annotations and assignments
of such arguments. They are printed with commas between them, so that what ends an argument is one
of three characters (`Ends`). The first character tells most arguments apart; names, numbers, truth
values and assignments all begin with a word, and are told apart by the whole word and by what
follows it.
-/

namespace ClassHeader

/-- Arguments of annotations with nothing left to be computed. Assignments can stand wherever other
arguments do, which is more than an annotation can have. -/
inductive Expression.IsArgument : Expression → Prop
  | boolean (value : Bool) : IsArgument (.literal .boolean (.boolean value))
  | int (value : Int32) : IsArgument (.literal .int (.int value))
  | long (value : Int64) : IsArgument (.literal .long (.long value))
  | char (unit : UInt16) : IsArgument (.literal .char (.char unit))
  | string (value : String) : IsArgument (.literal .string (.string value))
  | reference {name : QualifiedName} (isValid : name.IsValid) (notTrue : name ≠ ["true"])
    (notFalse : name ≠ ["false"]) : IsArgument (.reference name)
  | arrayInit {elements : List Expression} (all : ∀ element ∈ elements, IsArgument element) :
    IsArgument (.arrayInit elements)
  | anno {name : QualifiedName} {arguments : List Expression} (isValid : name.IsValid)
    (all : ∀ argument ∈ arguments, IsArgument argument) : IsArgument (.anno ⟨name, arguments⟩)
  | assign {name : String} {value : Expression} (isName : isIdentifier name = true)
    (ofValue : IsArgument value) : IsArgument (.assign name value)

/-- Annotations whose name is one of identifiers and whose arguments are as above. -/
structure Anno.IsRegular (anno : Anno) : Prop where
  isValid : anno.name.IsValid
  arguments : ∀ argument ∈ anno.arguments, argument.IsArgument

theorem Anno.IsRegular.isArgument {anno : Anno} (isRegular : anno.IsRegular) :
    (Expression.anno anno).IsArgument := by
  obtain ⟨name, arguments⟩ := anno
  exact .anno isRegular.isValid isRegular.arguments

/-! ### Characters -/

namespace Expression

theorem flatMap_listPieces (items : List Expression) :
    ((listPieces ", " items).flatMap fun piece => piece.text.toList) =
      Items.tailText chars items := by
  induction items with
  | nil => simp [listPieces, Items.tailText]
  | cons item rest ih =>
    rw [listPieces, Items.tailText, List.flatMap_cons, List.flatMap_append, ih]
    simp [chars, Piece.text]

theorem chars_arrayInit (elements : List Expression) :
    (arrayInit elements).chars = '\x7b' :: (Items.listText chars elements ++ ['\x7d']) := by
  cases elements with
  | nil => rfl
  | cons first rest =>
    simp [chars, pieces, Items.listText, Piece.text, ← flatMap_listPieces]

/-- An annotation has no parentheses unless it has arguments. -/
theorem chars_marker (name : QualifiedName) :
    (anno ⟨name, []⟩).chars = '@' :: name.text.toList := by
  simp [chars, pieces, Anno.pieces, Piece.text]

theorem chars_anno {arguments : List Expression} (nonempty : arguments ≠ [])
    (name : QualifiedName) :
    (anno ⟨name, arguments⟩).chars =
      '@' :: (name.text.toList ++ '(' :: (Items.listText chars arguments ++ [')'])) := by
  cases arguments with
  | nil => exact absurd rfl nonempty
  | cons first rest =>
    simp [chars, pieces, Anno.pieces, Items.listText, Piece.text, ← flatMap_listPieces]

theorem chars_assign (name : String) (value : Expression) :
    (assign name value).chars = name.toList ++ ' ' :: '=' :: ' ' :: value.chars := by
  simp [chars, pieces, Piece.text]

end Expression

theorem Anno.toList_text (anno : Anno) :
    (Tree.anno anno).text.toList = (Expression.anno anno).chars := by
  rw [← Expression.toList_text, Tree.text_eq, Tree.text_eq, Tree.textAt, Tree.textAt, Tree.pieces,
    Tree.pieces, Expression.pieces]

/-! ### The reader -/

namespace Argument

open Expression (Reader)

/-- The literal that a word of digits spells, with a sign before it. It is one of a long if the word
ends in a letter that says so. -/
def ofNumber (sign : Int) (word : List Char) : Expression :=
  if word.getLast? = some 'L' then
    .literal .long (.long (Int64.ofInt (sign * natOfWord word.dropLast)))
  else .literal .int (.int (Int32.ofInt (sign * natOfWord word)))

/-- The truth value, number or name that a word spells. -/
def ofWord? : List Char → Option Expression
  | [] => none
  | first :: more =>
    let word := first :: more
    if word = "true".toList then some (.literal .boolean (.boolean true))
    else if word = "false".toList then some (.literal .boolean (.boolean false))
    else if first.isDigit then some (ofNumber 1 word)
    else some (.reference (QualifiedName.ofWord word))

def readChar? : Reader := fun input => do
  let (units, rest) ← Literal.readUnits? '\'' input
  match units with
  | [unit] => return (.literal .char (.char unit), rest)
  | _ => none

def readString? : Reader := fun input => do
  let (units, rest) ← Literal.readUnits? '"' input
  let value ← Utf16.decode? units
  return (.literal .string (.string value), rest)

def readNumber? (sign : Int) : Reader := fun input =>
  let (word, rest) := input.span inName
  some (ofNumber sign word, rest)

section

variable (read : Reader)

def readArray? : Reader := fun input => do
  let (elements, rest) ← Items.read? read '\x7d' input
  return (.arrayInit elements, rest)

/-- Reads the name of an annotation, and its arguments if it has any. -/
def readAnno? : Reader := fun input =>
  let (word, rest) := input.span inName
  match rest with
  | '(' :: rest => do
    let (arguments, rest) ← Items.read? read ')' rest
    return (.anno ⟨QualifiedName.ofWord word, arguments⟩, rest)
  | rest => some (.anno ⟨QualifiedName.ofWord word, []⟩, rest)

/-- Reads a word, and a value if the word is what the value is assigned to. -/
def readWord? : Reader := fun input =>
  let (word, rest) := input.span inName
  match [' ', '=', ' '].isPrefixOf? rest with
  | some rest => do
    let (value, rest) ← read rest
    return (.assign (String.ofList word) value, rest)
  | none => (ofWord? word).map (·, rest)

/-- Reads an argument whose parts are read by another reader. -/
def readLayer? : Reader
  | '\'' :: input => readChar? input
  | '"' :: input => readString? input
  | '\x7b' :: input => readArray? read input
  | '@' :: input => readAnno? read input
  | '-' :: input => readNumber? (-1) input
  | input => readWord? read input

end

/-- Reads an argument whose parts are nested less deeply than some bound. -/
def readWithin? : Nat → Reader
  | 0 => fun _ => none
  | bound + 1 => readLayer? (readWithin? bound)

/-- The argument that a text spells. -/
def read? (text : String) : Option Expression :=
  match readWithin? (text.length + 1) text.toList with
  | some (expr, []) => some expr
  | _ => none

/-- Whether some text can follow an argument: there is none, or a list goes on or is closed. -/
abbrev Ends : List Char → Prop :=
  GoesOnWith [',', ')', '\x7d']

/-- Whether some text is read as an argument, whatever follows it. -/
def Reads (read : Reader) (text : List Char) (expr : Expression) : Prop :=
  ∀ rest, Ends rest → read (text ++ rest) = some (expr, rest)

end Argument

end ClassHeader
