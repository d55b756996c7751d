import ClassHeader.Tree.Basic

/-!
# Equality of trees

Two trees are equal if they have the same shape and agree in all their fields, where floating-point
constants are compared as numbers. A tree that contains a NaN is therefore not equal to itself, and
the sign of a zero does not count.
-/

namespace ClassHeader

/-- Whether two lists have the same length and corresponding items pass a test. -/
def listEquals {α : Type} (equals : α → α → Bool) : List α → List α → Bool
  | [], [] => true
  | left :: lefts, right :: rights => equals left right && listEquals equals lefts rights
  | _, _ => false

/-- Whether two optional items are both missing, or both there and pass a test. -/
def optionEquals {α : Type} (equals : α → α → Bool) : Option α → Option α → Bool
  | none, none => true
  | some left, some right => equals left right
  | _, _ => false

/-! ### Types -/

mutual

def TypeUse.equals : TypeUse → TypeUse → Bool
  | .wildcard upper lower, .wildcard upper' lower' =>
    TypeUse.optionEquals upper upper' && TypeUse.optionEquals lower lower'
  | .array element dimensions, .array element' dimensions' =>
    element.equals element' && dimensions == dimensions'
  | .primitive kind, .primitive kind' => kind == kind'
  | .void, .void => true
  | .declared type, .declared type' => type.equals type'
  | _, _ => false
termination_by structural left => left

def ClassType.equals : ClassType → ClassType → Bool
  | ⟨qualifier, name, arguments⟩, ⟨qualifier', name', arguments'⟩ =>
    ClassType.optionEquals qualifier qualifier' && name == name' &&
      TypeUse.listEquals arguments arguments'
termination_by structural left => left

def TypeUse.optionEquals : Option TypeUse → Option TypeUse → Bool
  | none, none => true
  | some left, some right => left.equals right
  | _, _ => false
termination_by structural left => left

def ClassType.optionEquals : Option ClassType → Option ClassType → Bool
  | none, none => true
  | some left, some right => left.equals right
  | _, _ => false
termination_by structural left => left

def TypeUse.listEquals : List TypeUse → List TypeUse → Bool
  | [], [] => true
  | left :: lefts, right :: rights => left.equals right && TypeUse.listEquals lefts rights
  | _, _ => false
termination_by structural left => left

end

/-! ### Expressions -/

mutual

def Expression.equals : Expression → Expression → Bool
  | .literal kind value, .literal kind' value' => kind == kind' && value.equals value'
  | .cast type operand, .cast type' operand' => type.equals type' && operand.equals operand'
  | .unary operator operand, .unary operator' operand' =>
    operator == operator' && operand.equals operand'
  | .binary operator left right, .binary operator' left' right' =>
    operator == operator' && left.equals left' && right.equals right'
  | .reference name, .reference name' => name == name'
  | .classLiteral type, .classLiteral type' => type.equals type'
  | .assign name value, .assign name' value' => name == name' && value.equals value'
  | .conditional condition whenTrue whenFalse, .conditional condition' whenTrue' whenFalse' =>
    condition.equals condition' && whenTrue.equals whenTrue' && whenFalse.equals whenFalse'
  | .arrayInit elements, .arrayInit elements' => Expression.listEquals elements elements'
  | .anno anno, .anno anno' => anno.equals anno'
  | _, _ => false
termination_by structural left => left

def Anno.equals : Anno → Anno → Bool
  | ⟨name, arguments⟩, ⟨name', arguments'⟩ =>
    name == name' && Expression.listEquals arguments arguments'
termination_by structural left => left

def Expression.listEquals : List Expression → List Expression → Bool
  | [], [] => true
  | left :: lefts, right :: rights => left.equals right && Expression.listEquals lefts rights
  | _, _ => false
termination_by structural left => left

end

/-! ### Declarations -/

def TypeParameter.equals (left right : TypeParameter) : Bool :=
  left.name == right.name && listEquals TypeUse.equals left.bounds right.bounds

def VariableDecl.equals (left right : VariableDecl) : Bool :=
  left.modifiers == right.modifiers && listEquals Anno.equals left.annos right.annos &&
    left.type.equals right.type && left.name == right.name &&
    optionEquals Expression.equals left.init right.init

def MethodDecl.equals (left right : MethodDecl) : Bool :=
  left.modifiers == right.modifiers && listEquals Anno.equals left.annos right.annos &&
    listEquals TypeParameter.equals left.typeParameters right.typeParameters &&
    optionEquals TypeUse.equals left.result right.result && left.name == right.name &&
    listEquals VariableDecl.equals left.parameters right.parameters &&
    listEquals ClassType.equals left.exceptions right.exceptions &&
    optionEquals Expression.equals left.defaultValue right.defaultValue

mutual

def TypeDecl.equals : TypeDecl → TypeDecl → Bool
  | ⟨modifiers, annos, name, typeParameters, superclass, interfaces, members, kind⟩,
    ⟨modifiers', annos', name', typeParameters', superclass', interfaces', members', kind'⟩ =>
    modifiers == modifiers' && listEquals Anno.equals annos annos' && name == name' &&
      listEquals TypeParameter.equals typeParameters typeParameters' &&
      optionEquals ClassType.equals superclass superclass' &&
      listEquals ClassType.equals interfaces interfaces' &&
      Tree.listEquals members members' && kind == kind'
termination_by structural left => left

def CompilationUnit.equals : CompilationUnit → CompilationUnit → Bool
  | ⟨package, imports, types, file⟩, ⟨package', imports', types', file'⟩ =>
    package == package' && imports == imports' && TypeDecl.listEquals types types' && file == file'
termination_by structural left => left

def TypeDecl.listEquals : List TypeDecl → List TypeDecl → Bool
  | [], [] => true
  | left :: lefts, right :: rights => left.equals right && TypeDecl.listEquals lefts rights
  | _, _ => false
termination_by structural left => left

def Tree.listEquals : List Tree → List Tree → Bool
  | [], [] => true
  | left :: lefts, right :: rights => left.equals right && Tree.listEquals lefts rights
  | _, _ => false
termination_by structural left => left

def Tree.equals : Tree → Tree → Bool
  | .type left, .type right => left.equals right
  | .expression left, .expression right => left.equals right
  | .compilationUnit left, .compilationUnit right => left.equals right
  | .importDecl left, .importDecl right => left == right
  | .variableDecl left, .variableDecl right => left.equals right
  | .methodDecl left, .methodDecl right => left.equals right
  | .anno left, .anno right => left.equals right
  | .typeDecl left, .typeDecl right => left.equals right
  | .typeParameter left, .typeParameter right => left.equals right
  | .packageDecl left, .packageDecl right => left == right
  | _, _ => false
termination_by structural left => left

end

end ClassHeader
