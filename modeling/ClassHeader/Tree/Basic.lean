import ClassHeader.Constant.Basic
import ClassHeader.Tree.Modifier
import ClassHeader.Tree.Operator

/-!
# Header trees

The declarations of a compilation unit without method bodies: what a compiler needs to know of other
units. Expressions occur only where constants and annotations do.

Types, expressions and declarations are three layers, each defined by one mutual block. A `Tree` is
a node of any layer.
-/

namespace ClassHeader

/-- A name, as the identifiers between its dots. -/
abbrev QualifiedName := List String

def QualifiedName.text (name : QualifiedName) : String :=
  String.intercalate "." name

/-! ### Types -/

mutual

/-- A use of a type. -/
inductive TypeUse where
  /-- A wildcard with the bounds that it has. -/
  | wildcard (upper lower : Option TypeUse)
  | array (element : TypeUse) (dimensions : UInt32)
  | primitive (kind : ConstantKind)
  | void
  | declared (type : ClassType)

/-- A use of a declared type, qualified by the type that declares it if it is a member. -/
structure ClassType where
  qualifier : Option ClassType
  name : String
  arguments : List TypeUse

end

/-! ### Expressions -/

mutual

/-- An expression that stands for a constant or for an argument of an annotation. -/
inductive Expression where
  /-- A literal of some type. The type need not be that of the value. -/
  | literal (kind : ConstantKind) (value : Constant)
  | cast (type : TypeUse) (operand : Expression)
  | unary (operator : Operator) (operand : Expression)
  | binary (operator : Operator) (left right : Expression)
  | reference (name : QualifiedName)
  | classLiteral (type : TypeUse)
  | assign (name : String) (value : Expression)
  | conditional (condition whenTrue whenFalse : Expression)
  | arrayInit (elements : List Expression)
  | anno (anno : Anno)

structure Anno where
  name : QualifiedName
  arguments : List Expression

end

/-! ### Declarations -/

inductive DeclKind where
  | classDecl
  | interfaceDecl
  | enumDecl
  | annotationDecl
  deriving DecidableEq, Repr

/-- The words that open a type declaration. -/
def DeclKind.keyword : DeclKind → String
  | .classDecl => "class"
  | .interfaceDecl => "interface"
  | .enumDecl => "enum"
  | .annotationDecl => "@interface"

structure PackageDecl where
  name : QualifiedName
  deriving DecidableEq

/-- An import of a type, or of a static member. -/
structure ImportDecl where
  name : QualifiedName
  isStatic : Bool
  deriving DecidableEq

structure TypeParameter where
  name : String
  bounds : List TypeUse

/-- A field or a parameter of a method. -/
structure VariableDecl where
  modifiers : Modifiers
  annos : List Anno
  type : TypeUse
  name : String
  init : Option Expression

/-- A method, or a constructor if it has no result type. -/
structure MethodDecl where
  modifiers : Modifiers
  annos : List Anno
  typeParameters : List TypeParameter
  result : Option TypeUse
  name : String
  parameters : List VariableDecl
  exceptions : List ClassType
  defaultValue : Option Expression

mutual

/-- The declaration of a type. Its members can be trees of any kind. -/
structure TypeDecl where
  modifiers : Modifiers
  annos : List Anno
  name : String
  typeParameters : List TypeParameter
  superclass : Option ClassType
  interfaces : List ClassType
  members : List Tree
  kind : DeclKind

structure CompilationUnit where
  package : Option PackageDecl
  imports : List ImportDecl
  types : List TypeDecl
  file : String

inductive Tree where
  | type (type : TypeUse)
  | expression (expression : Expression)
  | compilationUnit (unit : CompilationUnit)
  | importDecl (decl : ImportDecl)
  | variableDecl (decl : VariableDecl)
  | methodDecl (decl : MethodDecl)
  | anno (anno : Anno)
  | typeDecl (decl : TypeDecl)
  | typeParameter (parameter : TypeParameter)
  | packageDecl (decl : PackageDecl)

end

end ClassHeader
