import ClassHeader.Tree.Basic

/-!
# Kinds of nodes

There are 23 kinds of nodes and 22 shapes. An annotation that stands as an expression is a kind of
its own, but it has the shape of an annotation: it adds nothing to the annotation that it holds.
-/

namespace ClassHeader

inductive NodeKind where
  | wildcard
  | array
  | primitive
  | void
  | classType
  | literal
  | cast
  | unary
  | binary
  | reference
  | classLiteral
  | assign
  | conditional
  | arrayInit
  | annoExpression
  | compilationUnit
  | importDecl
  | variableDecl
  | methodDecl
  | anno
  | typeDecl
  | typeParameter
  | packageDecl
  deriving DecidableEq, Repr

/-- The shape of a node: which fields it has. -/
inductive Shape where
  | wildcard
  | array
  | primitive
  | void
  | classType
  | literal
  | cast
  | unary
  | binary
  | reference
  | classLiteral
  | assign
  | conditional
  | arrayInit
  | compilationUnit
  | importDecl
  | variableDecl
  | methodDecl
  | anno
  | typeDecl
  | typeParameter
  | packageDecl
  deriving DecidableEq, Repr

def NodeKind.shape : NodeKind → Shape
  | .wildcard => .wildcard
  | .array => .array
  | .primitive => .primitive
  | .void => .void
  | .classType => .classType
  | .literal => .literal
  | .cast => .cast
  | .unary => .unary
  | .binary => .binary
  | .reference => .reference
  | .classLiteral => .classLiteral
  | .assign => .assign
  | .conditional => .conditional
  | .arrayInit => .arrayInit
  | .annoExpression => .anno
  | .compilationUnit => .compilationUnit
  | .importDecl => .importDecl
  | .variableDecl => .variableDecl
  | .methodDecl => .methodDecl
  | .anno => .anno
  | .typeDecl => .typeDecl
  | .typeParameter => .typeParameter
  | .packageDecl => .packageDecl

def TypeUse.kind : TypeUse → NodeKind
  | .wildcard _ _ => .wildcard
  | .array _ _ => .array
  | .primitive _ => .primitive
  | .void => .void
  | .declared _ => .classType

def Expression.kind : Expression → NodeKind
  | .literal _ _ => .literal
  | .cast _ _ => .cast
  | .unary _ _ => .unary
  | .binary _ _ _ => .binary
  | .reference _ => .reference
  | .classLiteral _ => .classLiteral
  | .assign _ _ => .assign
  | .conditional _ _ _ => .conditional
  | .arrayInit _ => .arrayInit
  | .anno _ => .annoExpression

def Tree.kind : Tree → NodeKind
  | .type typeUse => typeUse.kind
  | .expression expr => expr.kind
  | .compilationUnit _ => .compilationUnit
  | .importDecl _ => .importDecl
  | .variableDecl _ => .variableDecl
  | .methodDecl _ => .methodDecl
  | .anno _ => .anno
  | .typeDecl _ => .typeDecl
  | .typeParameter _ => .typeParameter
  | .packageDecl _ => .packageDecl

end ClassHeader
