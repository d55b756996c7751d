import ClassHeader.Tree.Kind

/-!
# Outlines

The outline of a tree names everything in it: each node has its kind, its shape, its depth and its
fields, and each field its label. All kinds of nodes have outlines of one type, so an outline can be
written down, or searched, without knowing the kinds.

The depth of the root is chosen by the caller, and that of any other node is one more than its
parent's. An annotation that stands as an expression is one node with the fields of the annotation.
-/

namespace ClassHeader

inductive FieldLabel where
  | upper
  | lower
  | element
  | dimensions
  | type
  | qualifier
  | name
  | typeArguments
  | value
  | operand
  | operator
  | left
  | right
  | condition
  | whenTrue
  | whenFalse
  | elements
  | package
  | imports
  | types
  | file
  | isStatic
  | modifiers
  | annos
  | init
  | typeParameters
  | result
  | parameters
  | exceptions
  | defaultValue
  | arguments
  | superclass
  | interfaces
  | members
  | declKind
  | bounds
  deriving DecidableEq, Repr

/-- The outline of a node, or the value of one of its fields. -/
inductive Outline where
  | absent
  | flag (value : Bool)
  | number (value : Nat)
  | text (value : String)
  | name (segments : QualifiedName)
  | constantKind (kind : ConstantKind)
  | constant (value : Constant)
  | operator (operator : Operator)
  | modifiers (modifiers : List Modifier)
  | declKind (kind : DeclKind)
  | items (items : List Outline)
  | node (kind : NodeKind) (shape : Shape) (depth : Nat) (fields : List (FieldLabel × Outline))

namespace Outline

/-- The outline of a node of some kind, whose shape is that of the kind. -/
def ofKind (kind : NodeKind) (depth : Nat) (fields : List (FieldLabel × Outline)) : Outline :=
  .node kind kind.shape depth fields

/-- The outline of something that may be missing. -/
def ofOption {α : Type} (outline : α → Outline) : Option α → Outline
  | none => absent
  | some value => outline value

end Outline

/-! ### Types -/

mutual

def TypeUse.outline (depth : Nat) : TypeUse → Outline
  | .wildcard upper lower =>
    .ofKind .wildcard depth
      [(.upper, TypeUse.optionOutline (depth + 1) upper),
        (.lower, TypeUse.optionOutline (depth + 1) lower)]
  | .array element dimensions =>
    .ofKind .array depth
      [(.element, element.outline (depth + 1)), (.dimensions, .number dimensions.toNat)]
  | .primitive kind => .ofKind .primitive depth [(.type, .constantKind kind)]
  | .void => .ofKind .void depth []
  | .declared type => type.outline depth

def ClassType.outline (depth : Nat) : ClassType → Outline
  | ⟨qualifier, name, arguments⟩ =>
    .ofKind .classType depth
      [(.qualifier, ClassType.optionOutline (depth + 1) qualifier), (.name, .text name),
        (.typeArguments, .items (TypeUse.listOutline (depth + 1) arguments))]

def TypeUse.optionOutline (depth : Nat) : Option TypeUse → Outline
  | none => .absent
  | some type => type.outline depth

def ClassType.optionOutline (depth : Nat) : Option ClassType → Outline
  | none => .absent
  | some type => type.outline depth

def TypeUse.listOutline (depth : Nat) : List TypeUse → List Outline
  | [] => []
  | type :: rest => type.outline depth :: TypeUse.listOutline depth rest

end

/-! ### Expressions -/

mutual

def Expression.outline (depth : Nat) : Expression → Outline
  | .literal kind value =>
    .ofKind .literal depth [(.type, .constantKind kind), (.value, .constant value)]
  | .cast type operand =>
    .ofKind .cast depth
      [(.type, type.outline (depth + 1)), (.operand, operand.outline (depth + 1))]
  | .unary operator operand =>
    .ofKind .unary depth
      [(.operator, .operator operator), (.operand, operand.outline (depth + 1))]
  | .binary operator left right =>
    .ofKind .binary depth
      [(.operator, .operator operator), (.left, left.outline (depth + 1)),
        (.right, right.outline (depth + 1))]
  | .reference name => .ofKind .reference depth [(.name, .name name)]
  | .classLiteral type => .ofKind .classLiteral depth [(.type, type.outline (depth + 1))]
  | .assign name value =>
    .ofKind .assign depth [(.name, .text name), (.operand, value.outline (depth + 1))]
  | .conditional condition whenTrue whenFalse =>
    .ofKind .conditional depth
      [(.condition, condition.outline (depth + 1)), (.whenTrue, whenTrue.outline (depth + 1)),
        (.whenFalse, whenFalse.outline (depth + 1))]
  | .arrayInit elements =>
    .ofKind .arrayInit depth [(.elements, .items (Expression.listOutline (depth + 1) elements))]
  | .anno ⟨name, arguments⟩ =>
    .ofKind .annoExpression depth
      [(.name, .name name), (.arguments, .items (Expression.listOutline (depth + 1) arguments))]

def Expression.listOutline (depth : Nat) : List Expression → List Outline
  | [] => []
  | item :: rest => item.outline depth :: Expression.listOutline depth rest

end

def Anno.outline (depth : Nat) (anno : Anno) : Outline :=
  .ofKind .anno depth
    [(.name, .name anno.name),
      (.arguments, .items (Expression.listOutline (depth + 1) anno.arguments))]

/-! ### Declarations -/

def PackageDecl.outline (depth : Nat) (decl : PackageDecl) : Outline :=
  .ofKind .packageDecl depth [(.name, .name decl.name)]

def ImportDecl.outline (depth : Nat) (decl : ImportDecl) : Outline :=
  .ofKind .importDecl depth [(.name, .name decl.name), (.isStatic, .flag decl.isStatic)]

def TypeParameter.outline (depth : Nat) (parameter : TypeParameter) : Outline :=
  .ofKind .typeParameter depth
    [(.name, .text parameter.name),
      (.bounds, .items (parameter.bounds.map (TypeUse.outline (depth + 1))))]

def VariableDecl.outline (depth : Nat) (decl : VariableDecl) : Outline :=
  .ofKind .variableDecl depth
    [(.modifiers, .modifiers decl.modifiers.toList),
      (.annos, .items (decl.annos.map (Anno.outline (depth + 1)))),
      (.type, decl.type.outline (depth + 1)), (.name, .text decl.name),
      (.init, .ofOption (Expression.outline (depth + 1)) decl.init)]

def MethodDecl.outline (depth : Nat) (decl : MethodDecl) : Outline :=
  .ofKind .methodDecl depth
    [(.modifiers, .modifiers decl.modifiers.toList),
      (.annos, .items (decl.annos.map (Anno.outline (depth + 1)))),
      (.typeParameters, .items (decl.typeParameters.map (TypeParameter.outline (depth + 1)))),
      (.result, .ofOption (TypeUse.outline (depth + 1)) decl.result), (.name, .text decl.name),
      (.parameters, .items (decl.parameters.map (VariableDecl.outline (depth + 1)))),
      (.exceptions, .items (decl.exceptions.map (ClassType.outline (depth + 1)))),
      (.defaultValue, .ofOption (Expression.outline (depth + 1)) decl.defaultValue)]

mutual

def TypeDecl.outline (depth : Nat) : TypeDecl → Outline
  | ⟨modifiers, annos, name, typeParameters, superclass, interfaces, members, kind⟩ =>
    .ofKind .typeDecl depth
      [(.modifiers, .modifiers modifiers.toList),
        (.annos, .items (annos.map (Anno.outline (depth + 1)))), (.name, .text name),
        (.typeParameters, .items (typeParameters.map (TypeParameter.outline (depth + 1)))),
        (.superclass, .ofOption (ClassType.outline (depth + 1)) superclass),
        (.interfaces, .items (interfaces.map (ClassType.outline (depth + 1)))),
        (.members, .items (Tree.listOutline (depth + 1) members)), (.declKind, .declKind kind)]

def CompilationUnit.outline (depth : Nat) : CompilationUnit → Outline
  | ⟨package, imports, types, file⟩ =>
    .ofKind .compilationUnit depth
      [(.package, .ofOption (PackageDecl.outline (depth + 1)) package),
        (.imports, .items (imports.map (ImportDecl.outline (depth + 1)))),
        (.types, .items (TypeDecl.listOutline (depth + 1) types)), (.file, .text file)]

def TypeDecl.listOutline (depth : Nat) : List TypeDecl → List Outline
  | [] => []
  | decl :: rest => decl.outline depth :: TypeDecl.listOutline depth rest

def Tree.listOutline (depth : Nat) : List Tree → List Outline
  | [] => []
  | tree :: rest => tree.outline depth :: Tree.listOutline depth rest

/-- The outline of a tree whose root has the given depth. -/
def Tree.outline (depth : Nat) : Tree → Outline
  | .type typeUse => typeUse.outline depth
  | .expression expr => expr.outline depth
  | .compilationUnit unit => unit.outline depth
  | .importDecl decl => decl.outline depth
  | .variableDecl decl => decl.outline depth
  | .methodDecl decl => decl.outline depth
  | .anno anno => anno.outline depth
  | .typeDecl decl => decl.outline depth
  | .typeParameter parameter => parameter.outline depth
  | .packageDecl decl => decl.outline depth

end

end ClassHeader
