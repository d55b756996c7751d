import ClassHeader.Tree.Basic

/-!
# Visitors

A pass over trees is a visitor: it has one operation for each shape of nodes. A node accepts a
visitor by calling the operation of its shape, with an input that is handed on as it is. The
operation gets the fields of the node. A field that is a node comes with what it does when it
accepts the same visitor, so that it is the operation that says which nodes below are visited, in
which order and with which inputs.

An annotation that stands as an expression has no operation of its own. It accepts a visitor as its
annotation does.
-/

namespace ClassHeader

/-- A node below the one that is visited, and its visit with some input. -/
structure Child (Input Output Node : Type) where
  node : Node
  accept : Input → Output

/-- The operations of a pass. A visitor that changes its state or can fail has actions as its
outputs. -/
structure Visitor (Input Output : Type) where
  wildcard (upper lower : Option (Child Input Output TypeUse)) : Input → Output
  array (element : Child Input Output TypeUse) (dimensions : UInt32) : Input → Output
  primitive (kind : ConstantKind) : Input → Output
  void : Input → Output
  classType (qualifier : Option (Child Input Output ClassType)) (name : String)
    (arguments : List (Child Input Output TypeUse)) : Input → Output
  literal (kind : ConstantKind) (value : Constant) : Input → Output
  cast (type : Child Input Output TypeUse) (operand : Child Input Output Expression) :
    Input → Output
  unary (operator : Operator) (operand : Child Input Output Expression) : Input → Output
  binary (operator : Operator) (left right : Child Input Output Expression) : Input → Output
  reference (name : QualifiedName) : Input → Output
  classLiteral (type : Child Input Output TypeUse) : Input → Output
  assign (name : String) (value : Child Input Output Expression) : Input → Output
  conditional (condition whenTrue whenFalse : Child Input Output Expression) : Input → Output
  arrayInit (elements : List (Child Input Output Expression)) : Input → Output
  compilationUnit (package : Option (Child Input Output PackageDecl))
    (imports : List (Child Input Output ImportDecl)) (types : List (Child Input Output TypeDecl))
    (file : String) : Input → Output
  importDecl (name : QualifiedName) (isStatic : Bool) : Input → Output
  variableDecl (modifiers : Modifiers) (annos : List (Child Input Output Anno))
    (type : Child Input Output TypeUse) (name : String)
    (init : Option (Child Input Output Expression)) : Input → Output
  methodDecl (modifiers : Modifiers) (annos : List (Child Input Output Anno))
    (typeParameters : List (Child Input Output TypeParameter))
    (result : Option (Child Input Output TypeUse)) (name : String)
    (parameters : List (Child Input Output VariableDecl))
    (exceptions : List (Child Input Output ClassType))
    (defaultValue : Option (Child Input Output Expression)) : Input → Output
  anno (name : QualifiedName) (arguments : List (Child Input Output Expression)) : Input → Output
  typeDecl (modifiers : Modifiers) (annos : List (Child Input Output Anno)) (name : String)
    (typeParameters : List (Child Input Output TypeParameter))
    (superclass : Option (Child Input Output ClassType))
    (interfaces : List (Child Input Output ClassType)) (members : List (Child Input Output Tree))
    (kind : DeclKind) : Input → Output
  typeParameter (name : String) (bounds : List (Child Input Output TypeUse)) : Input → Output
  packageDecl (name : QualifiedName) : Input → Output

section

variable {Input Output : Type} (visitor : Visitor Input Output)

/-! ### Types -/

mutual

def TypeUse.accept : TypeUse → Input → Output
  | .wildcard upper lower =>
    visitor.wildcard (TypeUse.optionChild upper) (TypeUse.optionChild lower)
  | .array element dimensions => visitor.array ⟨element, element.accept⟩ dimensions
  | .primitive kind => visitor.primitive kind
  | .void => visitor.void
  | .declared type => type.accept

def ClassType.accept : ClassType → Input → Output
  | ⟨qualifier, name, arguments⟩ =>
    visitor.classType (ClassType.optionChild qualifier) name (TypeUse.listChildren arguments)

def TypeUse.optionChild : Option TypeUse → Option (Child Input Output TypeUse)
  | none => none
  | some type => some ⟨type, type.accept⟩

def ClassType.optionChild : Option ClassType → Option (Child Input Output ClassType)
  | none => none
  | some type => some ⟨type, type.accept⟩

def TypeUse.listChildren : List TypeUse → List (Child Input Output TypeUse)
  | [] => []
  | type :: rest => ⟨type, type.accept⟩ :: TypeUse.listChildren rest

end

/-! ### Expressions -/

mutual

def Expression.accept : Expression → Input → Output
  | .literal kind value => visitor.literal kind value
  | .cast type operand =>
    visitor.cast ⟨type, type.accept visitor⟩ ⟨operand, operand.accept⟩
  | .unary operator operand => visitor.unary operator ⟨operand, operand.accept⟩
  | .binary operator left right =>
    visitor.binary operator ⟨left, left.accept⟩ ⟨right, right.accept⟩
  | .reference name => visitor.reference name
  | .classLiteral type => visitor.classLiteral ⟨type, type.accept visitor⟩
  | .assign name value => visitor.assign name ⟨value, value.accept⟩
  | .conditional condition whenTrue whenFalse =>
    visitor.conditional ⟨condition, condition.accept⟩ ⟨whenTrue, whenTrue.accept⟩
      ⟨whenFalse, whenFalse.accept⟩
  | .arrayInit elements => visitor.arrayInit (Expression.listChildren elements)
  | .anno anno => anno.accept

def Anno.accept : Anno → Input → Output
  | ⟨name, arguments⟩ => visitor.anno name (Expression.listChildren arguments)

def Expression.listChildren : List Expression → List (Child Input Output Expression)
  | [] => []
  | item :: rest => ⟨item, item.accept⟩ :: Expression.listChildren rest

end

/-! ### Declarations -/

def PackageDecl.accept (decl : PackageDecl) : Input → Output :=
  visitor.packageDecl decl.name

def ImportDecl.accept (decl : ImportDecl) : Input → Output :=
  visitor.importDecl decl.name decl.isStatic

def TypeParameter.accept (parameter : TypeParameter) : Input → Output :=
  visitor.typeParameter parameter.name
    (parameter.bounds.map fun type => ⟨type, type.accept visitor⟩)

def VariableDecl.accept (decl : VariableDecl) : Input → Output :=
  visitor.variableDecl decl.modifiers (decl.annos.map fun item => ⟨item, item.accept visitor⟩)
    ⟨decl.type, decl.type.accept visitor⟩ decl.name
    (decl.init.map fun value => ⟨value, value.accept visitor⟩)

def MethodDecl.accept (decl : MethodDecl) : Input → Output :=
  visitor.methodDecl decl.modifiers (decl.annos.map fun item => ⟨item, item.accept visitor⟩)
    (decl.typeParameters.map fun parameter => ⟨parameter, parameter.accept visitor⟩)
    (decl.result.map fun type => ⟨type, type.accept visitor⟩) decl.name
    (decl.parameters.map fun parameter => ⟨parameter, parameter.accept visitor⟩)
    (decl.exceptions.map fun type => ⟨type, type.accept visitor⟩)
    (decl.defaultValue.map fun value => ⟨value, value.accept visitor⟩)

mutual

def TypeDecl.accept : TypeDecl → Input → Output
  | ⟨modifiers, annos, name, typeParameters, superclass, interfaces, members, kind⟩ =>
    visitor.typeDecl modifiers (annos.map fun item => ⟨item, item.accept visitor⟩) name
      (typeParameters.map fun parameter => ⟨parameter, parameter.accept visitor⟩)
      (superclass.map fun type => ⟨type, type.accept visitor⟩)
      (interfaces.map fun type => ⟨type, type.accept visitor⟩) (Tree.listChildren members) kind

def CompilationUnit.accept : CompilationUnit → Input → Output
  | ⟨package, imports, types, file⟩ =>
    visitor.compilationUnit (package.map fun decl => ⟨decl, decl.accept visitor⟩)
      (imports.map fun decl => ⟨decl, decl.accept visitor⟩) (TypeDecl.listChildren types) file

def TypeDecl.listChildren : List TypeDecl → List (Child Input Output TypeDecl)
  | [] => []
  | decl :: rest => ⟨decl, decl.accept⟩ :: TypeDecl.listChildren rest

def Tree.listChildren : List Tree → List (Child Input Output Tree)
  | [] => []
  | tree :: rest => ⟨tree, tree.accept⟩ :: Tree.listChildren rest

/-- Calls the operation of the shape of a node. -/
def Tree.accept : Tree → Input → Output
  | .type typeUse => typeUse.accept visitor
  | .expression expr => expr.accept visitor
  | .compilationUnit unit => unit.accept
  | .importDecl decl => decl.accept visitor
  | .variableDecl decl => decl.accept visitor
  | .methodDecl decl => decl.accept visitor
  | .anno anno => anno.accept visitor
  | .typeDecl decl => decl.accept
  | .typeParameter parameter => parameter.accept visitor
  | .packageDecl decl => decl.accept visitor

end

end

end ClassHeader
