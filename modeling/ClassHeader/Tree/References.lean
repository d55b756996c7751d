import ClassHeader.Tree.Basic

/-!
# References to constants

The names of constants that a tree refers to, in the order in which they stand in it and with
repetitions. They occur in expressions only: types, imports and type parameters have none.
-/

namespace ClassHeader

mutual

def Expression.references : Expression → List QualifiedName
  | .literal _ _ => []
  | .cast _ operand => operand.references
  | .unary _ operand => operand.references
  | .binary _ left right => left.references ++ right.references
  | .reference name => [name]
  | .classLiteral _ => []
  | .assign _ value => value.references
  | .conditional condition whenTrue whenFalse =>
    condition.references ++ whenTrue.references ++ whenFalse.references
  | .arrayInit elements => Expression.listReferences elements
  | .anno anno => anno.references

/-- The references in the arguments of an annotation. -/
def Anno.references : Anno → List QualifiedName
  | ⟨_, arguments⟩ => Expression.listReferences arguments

def Expression.listReferences : List Expression → List QualifiedName
  | [] => []
  | item :: rest => item.references ++ Expression.listReferences rest

end

def Expression.optionReferences : Option Expression → List QualifiedName
  | none => []
  | some expression => expression.references

/-- The references in the annotations of a variable, then in its initial value. -/
def VariableDecl.references (decl : VariableDecl) : List QualifiedName :=
  decl.annos.flatMap Anno.references ++ Expression.optionReferences decl.init

/-- The references in the annotations of a method, then in its parameters, then in the default value
of an annotation element. -/
def MethodDecl.references (decl : MethodDecl) : List QualifiedName :=
  decl.annos.flatMap Anno.references ++ decl.parameters.flatMap VariableDecl.references ++
    Expression.optionReferences decl.defaultValue

mutual

/-- The references in the annotations of a type declaration, then in its members. -/
def TypeDecl.references : TypeDecl → List QualifiedName
  | ⟨_, annos, _, _, _, _, members, _⟩ =>
    annos.flatMap Anno.references ++ Tree.listReferences members

def CompilationUnit.references : CompilationUnit → List QualifiedName
  | ⟨_, _, types, _⟩ => TypeDecl.listReferences types

def TypeDecl.listReferences : List TypeDecl → List QualifiedName
  | [] => []
  | decl :: rest => decl.references ++ TypeDecl.listReferences rest

def Tree.listReferences : List Tree → List QualifiedName
  | [] => []
  | tree :: rest => tree.references ++ Tree.listReferences rest

/-- The references in a tree, from left to right. -/
def Tree.references : Tree → List QualifiedName
  | .type _ => []
  | .expression expr => expr.references
  | .compilationUnit unit => unit.references
  | .importDecl _ => []
  | .variableDecl decl => decl.references
  | .methodDecl decl => decl.references
  | .anno anno => anno.references
  | .typeDecl decl => decl.references
  | .typeParameter _ => []
  | .packageDecl _ => []

end

end ClassHeader
