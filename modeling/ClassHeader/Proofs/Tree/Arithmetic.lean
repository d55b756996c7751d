import ClassHeader.Proofs.Text.Words
import ClassHeader.Proofs.Tree.Nodes
import ClassHeader.Proofs.Tree.Pieces

/-!
# Arithmetic expressions as text

Operations are printed in parentheses; casts, literals and names are not, and a literal below zero
brings a sign of its own. The text of an expression begins in one of three ways (`Opening`), and
the sign is the one that can be taken for a part of an operator before it: the negation of `-5` and
the decrement of `5` have one text.
-/

namespace ClassHeader

/-! ### Operators -/

namespace Operator

/-- Whether the operator has one operand. -/
def isUnary : Operator → Bool
  | .postIncrement | .postDecrement | .preIncrement | .preDecrement | .plus | .negate
  | .complement | .not => true
  | _ => false

/-- Whether the operator has two operands, which can be any expressions. -/
def isBinary : Operator → Bool
  | .conditional | .assign => false
  | operator => !operator.isUnary

end Operator

namespace Expression

/-- Expressions of int literals and names with any operators but that of assignment, and with casts
to primitive types. -/
inductive IsArithmetic : Expression → Prop
  | literal (value : Int32) : IsArithmetic (.literal .int (.int value))
  | reference {name : QualifiedName} (isValid : name.IsValid) : IsArithmetic (.reference name)
  | cast {kind : ConstantKind} {operand : Expression} (isPrimitive : kind.isPrimitive = true)
    (arithmetic : IsArithmetic operand) : IsArithmetic (.cast (.primitive kind) operand)
  | unary {operator : Operator} {operand : Expression} (isUnary : operator.isUnary = true)
    (arithmetic : IsArithmetic operand) : IsArithmetic (.unary operator operand)
  | binary {operator : Operator} {left right : Expression} (isBinary : operator.isBinary = true)
    (ofLeft : IsArithmetic left) (ofRight : IsArithmetic right) :
    IsArithmetic (.binary operator left right)
  | conditional {condition whenTrue whenFalse : Expression}
    (ofCondition : IsArithmetic condition) (ofTrue : IsArithmetic whenTrue)
    (ofFalse : IsArithmetic whenFalse) :
    IsArithmetic (.conditional condition whenTrue whenFalse)

/-! ### Characters -/

/-- The characters that an expression is printed as. -/
def chars (expr : Expression) : List Char :=
  expr.pieces.flatMap fun piece => piece.text.toList

theorem toList_text (expr : Expression) : (Tree.expression expr).text.toList = expr.chars := by
  rw [Tree.text_eq, Tree.textAt, Tree.pieces, Piece.spell, String.toList_join, List.flatMap_map,
    chars]

theorem chars_literal (kind : ConstantKind) (value : Constant) :
    (literal kind value).chars = value.text.toList := by
  rw [chars, pieces, List.flatMap_singleton, Piece.text]

theorem chars_reference (name : QualifiedName) : (reference name).chars = name.text.toList := by
  rw [chars, pieces, List.flatMap_singleton, Piece.text]

theorem chars_cast (kind : ConstantKind) (operand : Expression) :
    (cast (.primitive kind) operand).chars =
      '(' :: (kind.keyword.toList ++ ')' :: ' ' :: operand.chars) := by
  simp [chars, pieces, TypeUse.pieces, Piece.text]

theorem chars_leading {operator : Operator} (precedes : operator.followsOperand = false)
    (operand : Expression) :
    (unary operator operand).chars =
      '(' :: (operator.symbol.toList ++ (operand.chars ++ [')'])) := by
  simp [chars, pieces, Piece.text, precedes]

theorem chars_trailing {operator : Operator} (follows : operator.followsOperand = true)
    (operand : Expression) :
    (unary operator operand).chars =
      '(' :: (operand.chars ++ (operator.symbol.toList ++ [')'])) := by
  simp [chars, pieces, Piece.text, follows]

theorem chars_binary (operator : Operator) (left right : Expression) :
    (binary operator left right).chars =
      '(' :: (left.chars ++
        ' ' :: (operator.symbol.toList ++ ' ' :: (right.chars ++ [')']))) := by
  simp [chars, pieces, Piece.text]

theorem chars_conditional (condition whenTrue whenFalse : Expression) :
    (conditional condition whenTrue whenFalse).chars =
      '(' :: (condition.chars ++
        ' ' :: '?' :: ' ' :: (whenTrue.chars ++
          ' ' :: ':' :: ' ' :: (whenFalse.chars ++ [')']))) := by
  simp [chars, pieces, Piece.text]

/-! ### Literals -/

/-- A literal is printed as the digits of its number, after a sign if it is below zero. -/
theorem chars_int (value : Int32) :
    (∃ number : Nat, value.toInt = number ∧
        (literal .int (.int value)).chars = Nat.toDigits 10 number) ∨
      ∃ number : Nat, 0 < number ∧ value.toInt = -number ∧
        (literal .int (.int value)).chars = '-' :: Nat.toDigits 10 number := by
  rw [chars_literal, Constant.text]
  exact toList_repr_cases value.toInt

theorem chars_of_neg {value : Int32} (below : value.toInt < 0) :
    ∃ number, (literal .int (.int value)).chars = '-' :: Nat.toDigits 10 number := by
  rcases chars_int value with ⟨number, isNumber, -⟩ | ⟨number, -, -, digits⟩
  · omega
  · exact ⟨number, digits⟩

/-! ### The first character -/

/-- How the text of an expression begins: the text is a word, it is a number with a sign, or it is
an operation or a cast. -/
inductive Opening : Expression → Prop
  | word {expr : Expression} (nonempty : expr.chars ≠ [])
    (all : ∀ char ∈ expr.chars, inName char = true) : Opening expr
  | sign (value : Int32) (below : value.toInt < 0) : Opening (.literal .int (.int value))
  | group {expr : Expression} (inner : List Char) (chars : expr.chars = '(' :: inner) :
    Opening expr

theorem IsArithmetic.opening {expr : Expression} (arithmetic : expr.IsArithmetic) :
    Opening expr := by
  -- All but literals and names are groups; a literal has a sign if it is below zero.
  cases arithmetic with
  | literal value =>
    rcases chars_int value with ⟨number, -, digits⟩ | ⟨number, positive, isNegation, -⟩
    · exact .word (digits ▸ Nat.toDigits_ne_nil) (digits ▸ inName_of_mem_toDigits)
    · exact .sign value (by omega)
  | @reference name isValid =>
    have chars := chars_reference name
    exact .word (chars ▸ isValid.text_ne_nil) (chars ▸ isValid.inName_of_mem_text)
  | cast => exact .group _ (chars_cast _ _)
  | @unary operator operand =>
    cases follows : operator.followsOperand with
    | false => exact .group _ (chars_leading follows operand)
    | true => exact .group _ (chars_trailing follows operand)
  | binary => exact .group _ (chars_binary _ _ _)
  | conditional => exact .group _ (chars_conditional _ _ _)

/-- Whether some text begins with no symbol of an operator. -/
def Unsigned : List Char → Prop
  | [] => False
  | first :: _ => first = '(' ∨ inName first = true

namespace Unsigned

theorem of_word {word : List Char} (nonempty : word ≠ [])
    (all : ∀ char ∈ word, inName char = true) : Unsigned word := by
  cases word with
  | nil => exact absurd rfl nonempty
  | cons first more => exact Or.inr (all first List.mem_cons_self)

theorem of_toDigits (number : Nat) : Unsigned (Nat.toDigits 10 number) :=
  .of_word Nat.toDigits_ne_nil inName_of_mem_toDigits

variable {text : List Char} (unsigned : Unsigned text)
include unsigned

theorem append {rest : List Char} : Unsigned (text ++ rest) := by
  cases text with
  | nil => cases unsigned
  | cons => exact unsigned

theorem isPrefixOf?_eq_none {symbol : Char} (isSymbol : inName symbol = false)
    (notOpen : symbol ≠ '(') (more : List Char) : (symbol :: more).isPrefixOf? text = none := by
  cases text with
  | nil => rfl
  | cons first text =>
    have other : symbol ≠ first := by
      rcases unsigned with rfl | isPart
      · exact notOpen
      · exact (ne_of_inName isPart isSymbol).symm
    simp [List.isPrefixOf?, other]

end Unsigned

/-! ### Negations of literals -/

/-- The negation of a literal as a reader takes it: the sign of the operator and the sign of the
literal together are the symbol of a decrement. The least int is left alone, since its number
without the sign is that of no int. -/
def negateInt (value : Int32) : Expression :=
  if Int32.minValue < value ∧ value < 0 then .unary .preDecrement (.literal .int (.int (-value)))
  else .unary .negate (.literal .int (.int value))

/-- An expression with decrements in place of the negations of negative literals. -/
def joinSigns : Expression → Expression
  | .cast type operand => .cast type operand.joinSigns
  | .unary .negate (.literal .int (.int value)) => negateInt value
  | .unary operator operand => .unary operator operand.joinSigns
  | .binary operator left right => .binary operator left.joinSigns right.joinSigns
  | .conditional condition whenTrue whenFalse =>
    .conditional condition.joinSigns whenTrue.joinSigns whenFalse.joinSigns
  | other => other

/-- Only the negation of a literal is affected itself, and not just in its parts. -/
theorem joinSigns_unary (operator : Operator) (operand : Expression) :
    (∃ value, operator = .negate ∧ operand = .literal .int (.int value)) ∨
      ((∀ value, operator = .negate → operand ≠ .literal .int (.int value)) ∧
        (unary operator operand).joinSigns = .unary operator operand.joinSigns) := by
  by_cases negation : ∃ value, operator = .negate ∧ operand = .literal .int (.int value)
  · exact Or.inl negation
  · have other (value : Int32) (isNegate : operator = .negate) :
        operand ≠ .literal .int (.int value) :=
      fun isLiteral => negation ⟨value, isNegate, isLiteral⟩
    refine Or.inr ⟨other, ?_⟩
    rw [joinSigns]
    exact other

theorem joins_iff (value : Int32) :
    Int32.minValue < value ∧ value < 0 ↔ -0x80000000 < value.toInt ∧ value.toInt < 0 := by
  rw [Int32.lt_iff_toInt_lt, Int32.lt_iff_toInt_lt, Int32.toInt_minValue, Int32.toInt_zero]
  rfl

/-- Without its sign, the text of a negative literal is that of the opposite literal. -/
theorem chars_opposite {value : Int32} (least : -0x80000000 < value.toInt)
    (below : value.toInt < 0) :
    (literal .int (.int value)).chars = '-' :: (literal .int (.int (-value))).chars ∧
      Unsigned (literal .int (.int (-value))).chars := by
  have opposite : (-value).toInt = -value.toInt := by
    rw [Int32.toInt_neg, Int.bmod_eq_of_le (by omega) (by omega)]
  rcases chars_int value with ⟨number, isNumber, -⟩ | ⟨number, -, isNegation, digits⟩
  · omega
  -- The opposite is above zero, and so has digits only, those of the same number.
  rcases chars_int (-value) with ⟨other, isOther, otherDigits⟩ | ⟨other, positive, isOther, -⟩
  · have same : other = number := by omega
    rw [digits, otherDigits, same]
    exact ⟨rfl, .of_toDigits number⟩
  · omega

theorem chars_negateInt (value : Int32) :
    (negateInt value).chars = (unary .negate (.literal .int (.int value))).chars := by
  by_cases joins : Int32.minValue < value ∧ value < 0
  · obtain ⟨least, below⟩ := (joins_iff value).mp joins
    rw [negateInt, if_pos joins, chars_leading rfl, chars_leading rfl,
      (chars_opposite least below).1]
    rfl
  · rw [negateInt, if_neg joins]

/-- Joining signs does not show in the text. -/
theorem chars_joinSigns {expr : Expression} (arithmetic : expr.IsArithmetic) :
    expr.joinSigns.chars = expr.chars := by
  induction arithmetic with
  | literal | reference => rfl
  | cast _ _ ih => rw [joinSigns, chars_cast, chars_cast, ih]
  | @unary operator operand _ _ ih =>
    rcases joinSigns_unary operator operand with ⟨value, rfl, rfl⟩ | ⟨-, joined⟩
    · exact chars_negateInt value
    · rw [joined]
      cases follows : operator.followsOperand with
      | false => rw [chars_leading follows, chars_leading follows, ih]
      | true => rw [chars_trailing follows, chars_trailing follows, ih]
  | binary _ _ _ leftIH rightIH => rw [joinSigns, chars_binary, chars_binary, leftIH, rightIH]
  | conditional _ _ _ conditionIH trueIH falseIH =>
    rw [joinSigns, chars_conditional, chars_conditional, conditionIH, trueIH, falseIH]

/-- Whether the negation of a negative literal is a node of an expression. The least int does not
count, since its sign is not joined. -/
def JoinsSigns (expr : Expression) : Prop :=
  ∃ value, (Int32.minValue < value ∧ value < 0) ∧
    .expression (.unary .negate (.literal .int (.int value))) ∈ (Tree.expression expr).nodes

theorem not_joinsSigns_of_child {child expr : Expression} (apart : ¬ expr.JoinsSigns)
    (isChild : .expression child ∈ expr.children) : ¬ child.JoinsSigns := by
  rintro ⟨value, joins, member⟩
  refine apart ⟨value, joins, ?_⟩
  rw [Tree.nodes_eq]
  exact List.mem_cons_of_mem _ (List.mem_flatMap.mpr ⟨_, isChild, member⟩)

/-- Where no negative literal is negated, there is no sign to join. -/
theorem joinSigns_eq_self {expr : Expression} (apart : ¬ expr.JoinsSigns) :
    expr.joinSigns = expr := by
  fun_induction joinSigns expr with
  | case1 type operand ih => rw [ih (not_joinsSigns_of_child apart (by simp [children]))]
  | case2 value =>
    -- The expression is a negation of a literal itself, and so not of one that joins.
    rw [negateInt, if_neg]
    intro joins
    refine apart ⟨value, joins, ?_⟩
    rw [Tree.nodes_eq]
    exact List.mem_cons_self
  | case3 operator operand _ ih => rw [ih (not_joinsSigns_of_child apart (by simp [children]))]
  | case4 operator left right leftIH rightIH =>
    rw [leftIH (not_joinsSigns_of_child apart (by simp [children])),
      rightIH (not_joinsSigns_of_child apart (by simp [children]))]
  | case5 condition whenTrue whenFalse conditionIH trueIH falseIH =>
    rw [conditionIH (not_joinsSigns_of_child apart (by simp [children])),
      trueIH (not_joinsSigns_of_child apart (by simp [children])),
      falseIH (not_joinsSigns_of_child apart (by simp [children]))]
  | case6 => rfl

end Expression

end ClassHeader
