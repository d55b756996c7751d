import ClassHeader.Proofs.Tree.Nodes
import ClassHeader.Tree.Visitor

/-!
# Children as operations get them

What an operation of a visitor gets for a child is the node and what that node, as a tree, does when
it accepts the visitor. The lemmas say so for all shapes whose fields are lists or optional.
-/

namespace ClassHeader

variable {Input Output : Type} (visitor : Visitor Input Output)

/-- A node as an operation gets it. -/
def Node.child {α : Type} [Node α] (item : α) : Child Input Output α :=
  ⟨item, (Node.toTree item).accept visitor⟩

theorem TypeUse.optionChild_eq (type : Option TypeUse) :
    TypeUse.optionChild visitor type = type.map (Node.child visitor) := by
  cases type <;> rfl

theorem ClassType.optionChild_eq (type : Option ClassType) :
    ClassType.optionChild visitor type = type.map (Node.child visitor) := by
  cases type <;> rfl

theorem TypeUse.listChildren_eq (types : List TypeUse) :
    TypeUse.listChildren visitor types = types.map (Node.child visitor) := by
  induction types with
  | nil => rfl
  | cons type rest ih => exact congrArg (List.cons _) ih

theorem Expression.listChildren_eq (items : List Expression) :
    Expression.listChildren visitor items = items.map (Node.child visitor) := by
  induction items with
  | nil => rfl
  | cons item rest ih => exact congrArg (List.cons _) ih

theorem TypeDecl.listChildren_eq (decls : List TypeDecl) :
    TypeDecl.listChildren visitor decls = decls.map (Node.child visitor) := by
  induction decls with
  | nil => rfl
  | cons decl rest ih => exact congrArg (List.cons _) ih

theorem Tree.listChildren_eq (trees : List Tree) :
    Tree.listChildren visitor trees = trees.map (Node.child visitor) := by
  induction trees with
  | nil => rfl
  | cons tree rest ih => exact congrArg (List.cons _) ih

namespace Tree

theorem accept_wildcard (upper lower : Option TypeUse) :
    (type (.wildcard upper lower)).accept visitor =
      visitor.wildcard (upper.map (Node.child visitor)) (lower.map (Node.child visitor)) := by
  rw [accept, TypeUse.accept, TypeUse.optionChild_eq, TypeUse.optionChild_eq]

theorem accept_declared (qualifier : Option ClassType) (name : String)
    (arguments : List TypeUse) :
    (type (.declared ⟨qualifier, name, arguments⟩)).accept visitor =
      visitor.classType (qualifier.map (Node.child visitor)) name
        (arguments.map (Node.child visitor)) := by
  rw [accept, TypeUse.accept, ClassType.accept, ClassType.optionChild_eq, TypeUse.listChildren_eq]

theorem accept_arrayInit (elements : List Expression) :
    (expression (.arrayInit elements)).accept visitor =
      visitor.arrayInit (elements.map (Node.child visitor)) := by
  rw [accept, Expression.accept, Expression.listChildren_eq]

theorem accept_anno (name : QualifiedName) (arguments : List Expression) :
    (anno ⟨name, arguments⟩).accept visitor =
      visitor.anno name (arguments.map (Node.child visitor)) := by
  rw [accept, Anno.accept, Expression.listChildren_eq]

theorem accept_compilationUnit (package : Option PackageDecl) (imports : List ImportDecl)
    (types : List TypeDecl) (file : String) :
    (compilationUnit ⟨package, imports, types, file⟩).accept visitor =
      visitor.compilationUnit (package.map (Node.child visitor))
        (imports.map (Node.child visitor)) (types.map (Node.child visitor)) file := by
  rw [accept, CompilationUnit.accept, TypeDecl.listChildren_eq]
  rfl

theorem accept_variableDecl (decl : VariableDecl) :
    (variableDecl decl).accept visitor =
      visitor.variableDecl decl.modifiers (decl.annos.map (Node.child visitor))
        (Node.child visitor decl.type) decl.name (decl.init.map (Node.child visitor)) := rfl

theorem accept_methodDecl (decl : MethodDecl) :
    (methodDecl decl).accept visitor =
      visitor.methodDecl decl.modifiers (decl.annos.map (Node.child visitor))
        (decl.typeParameters.map (Node.child visitor)) (decl.result.map (Node.child visitor))
        decl.name (decl.parameters.map (Node.child visitor))
        (decl.exceptions.map (Node.child visitor)) (decl.defaultValue.map (Node.child visitor)) :=
  rfl

theorem accept_typeParameter (parameter : TypeParameter) :
    (typeParameter parameter).accept visitor =
      visitor.typeParameter parameter.name (parameter.bounds.map (Node.child visitor)) := rfl

theorem accept_typeDecl (modifiers : Modifiers) (annos : List Anno) (name : String)
    (typeParameters : List TypeParameter) (superclass : Option ClassType)
    (interfaces : List ClassType) (members : List Tree) (kind : DeclKind) :
    (typeDecl ⟨modifiers, annos, name, typeParameters, superclass, interfaces, members,
        kind⟩).accept visitor =
      visitor.typeDecl modifiers (annos.map (Node.child visitor)) name
        (typeParameters.map (Node.child visitor)) (superclass.map (Node.child visitor))
        (interfaces.map (Node.child visitor)) (members.map (Node.child visitor)) kind := by
  rw [accept, TypeDecl.accept, Tree.listChildren_eq]
  rfl

end Tree

end ClassHeader
