import ClassHeader.Proofs.Tree.Nodes
import ClassHeader.Proofs.Tree.Pieces
import ClassHeader.Tree.References

/-!
# References in a tree and in its text

Two passes over a tree meet the names of constants that it refers to. The collecting pass goes down
only where a reference can be, and the printer goes everywhere. Both have, at each node, the node's
own reference if it is one, and then what they have at its children from left to right. So both have
the references among the nodes of the tree, in that order and each as often as it occurs, and there
is none in what the collecting pass leaves out (`Tree.references_complete`).
-/

namespace ClassHeader

/-! ### References in pieces -/

namespace Piece

/-- The name in a piece that is a reference. -/
def reference? : Piece → Option QualifiedName
  | .plain _ => none
  | .reference name => some name

def references (pieces : List Piece) : List QualifiedName :=
  pieces.filterMap reference?

@[simp] theorem references_nil : references [] = [] := rfl

@[simp] theorem references_cons_plain (text : String) (rest : List Piece) :
    references (.plain text :: rest) = references rest := rfl

@[simp] theorem references_cons_reference (name : QualifiedName) (rest : List Piece) :
    references (.reference name :: rest) = name :: references rest := rfl

@[simp] theorem references_cons_margin (indentation : Nat) (rest : List Piece) :
    references (.margin indentation :: rest) = references rest := rfl

@[simp] theorem references_append (first second : List Piece) :
    references (first ++ second) = references first ++ references second :=
  List.filterMap_append

section

variable {α : Type} (pieces : α → List Piece)

@[simp] theorem references_each (before : String) (items : List α) :
    references (each before pieces items) = items.flatMap fun item => references (pieces item) := by
  induction items with
  | nil => rfl
  | cons item rest ih =>
    rw [each, List.flatMap_cons, List.flatMap_cons, references_append, ← each, ih,
      references_cons_plain]

@[simp] theorem references_joined (separator : String) (items : List α) :
    references (joined separator pieces items) =
      items.flatMap fun item => references (pieces item) := by
  cases items with
  | nil => rfl
  | cons item rest => rw [joined, references_append, references_each, List.flatMap_cons]

@[simp] theorem references_spaced (items : List α) :
    references (spaced pieces items) = items.flatMap fun item => references (pieces item) := by
  induction items with
  | nil => rfl
  | cons item rest ih =>
    rw [spaced, List.flatMap_cons, List.flatMap_cons, references_append, ← spaced, ih,
      references_append, references_cons_plain, references_nil, List.append_nil]

@[simp] theorem references_optional (before : String) (item : Option α) :
    references (optional before pieces item) =
      item.toList.flatMap fun item => references (pieces item) := by
  cases item with
  | none => rfl
  | some item => simp [optional]

end

end Piece

/-- The names of the references printed so far. -/
def Printer.references (printer : Printer) : List QualifiedName :=
  Piece.references printer.output.toList

/-- The name in a node that is a reference. -/
def Tree.reference? : Tree → Option QualifiedName
  | .expression (.reference name) => some name
  | _ => none

/-! ### The collecting pass -/

theorem Expression.listReferences_eq (items : List Expression) :
    Expression.listReferences items = items.flatMap Expression.references := by
  induction items with
  | nil => rfl
  | cons item rest ih => rw [Expression.listReferences, ih, List.flatMap_cons]

theorem Expression.optionReferences_eq (item : Option Expression) :
    Expression.optionReferences item = item.toList.flatMap Expression.references := by
  cases item with
  | none => rfl
  | some item => exact (List.flatMap_singleton _ _).symm

theorem TypeDecl.listReferences_eq (decls : List TypeDecl) :
    TypeDecl.listReferences decls = decls.flatMap TypeDecl.references := by
  induction decls with
  | nil => rfl
  | cons decl rest ih => rw [TypeDecl.listReferences, ih, List.flatMap_cons]

theorem Tree.listReferences_eq (trees : List Tree) :
    Tree.listReferences trees = trees.flatMap Tree.references := by
  induction trees with
  | nil => rfl
  | cons tree rest ih => rw [Tree.listReferences, ih, List.flatMap_cons]

theorem flatMap_nothing {α β : Type} (items : List α) :
    (items.flatMap fun _ => ([] : List β)) = [] :=
  List.flatMap_eq_nil_iff.mpr fun _ _ => rfl

namespace Tree

/-- No reference can stand in a type. -/
theorem flatMap_references_children (typeUse : TypeUse) :
    typeUse.children.flatMap references = [] := by
  cases typeUse with
  | wildcard | array | primitive | void =>
    simp [TypeUse.children, List.flatMap_map, references, flatMap_nothing]
  | declared declared =>
    obtain ⟨qualifier, name, arguments⟩ := declared
    simp [TypeUse.children, List.flatMap_map, references, flatMap_nothing]

/-- The collecting pass has a node's own reference and goes on to all children: it leaves out only
children without references. -/
theorem references_eq (tree : Tree) :
    tree.references = tree.reference?.toList ++ tree.children.flatMap references := by
  cases tree with
  | type typeUse => exact (flatMap_references_children typeUse).symm
  | expression expr =>
    cases expr <;>
      simp [references, reference?, children, Expression.children, Expression.references,
        List.flatMap_map, Expression.listReferences_eq]
  | compilationUnit unit =>
    obtain ⟨package, imports, types, file⟩ := unit
    simp [references, reference?, children, CompilationUnit.references, List.flatMap_map,
      TypeDecl.listReferences_eq, flatMap_nothing]
  | importDecl | packageDecl => rfl
  | variableDecl decl =>
    simp [references, reference?, children, VariableDecl.references, List.flatMap_map,
      Expression.optionReferences_eq]
  | methodDecl decl =>
    simp [references, reference?, children, MethodDecl.references, List.flatMap_map,
      Expression.optionReferences_eq, flatMap_nothing]
  | anno item =>
    obtain ⟨name, arguments⟩ := item
    simp [references, reference?, children, Anno.references, List.flatMap_map,
      Expression.listReferences_eq]
  | typeDecl decl =>
    obtain ⟨modifiers, annos, name, typeParameters, superclass, interfaces, members, kind⟩ := decl
    simp [references, reference?, children, TypeDecl.references, List.flatMap_map,
      Tree.listReferences_eq, flatMap_nothing]
  | typeParameter parameter =>
    simp [references, reference?, children, List.flatMap_map, flatMap_nothing]

end Tree

/-! ### The printer -/

namespace Piece

@[simp] theorem references_bound (word : String) (bound : Option TypeUse) :
    references (TypeUse.boundPieces word bound) =
      bound.toList.flatMap fun type => references type.pieces := by
  cases bound with
  | none => rfl
  | some type => simp [TypeUse.boundPieces]

@[simp] theorem references_qualifier (qualifier : Option ClassType) :
    references (ClassType.qualifierPieces qualifier) =
      qualifier.toList.flatMap fun type => references type.pieces := by
  cases qualifier with
  | none => rfl
  | some type => simp [ClassType.qualifierPieces]

@[simp] theorem references_typeUses (before : String) (types : List TypeUse) :
    references (TypeUse.listPieces before types) =
      types.flatMap fun type => references type.pieces := by
  induction types with
  | nil => rfl
  | cons type rest ih => simp [TypeUse.listPieces, ih]

@[simp] theorem references_expressions (before : String) (items : List Expression) :
    references (Expression.listPieces before items) =
      items.flatMap fun item => references item.pieces := by
  induction items with
  | nil => rfl
  | cons item rest ih => simp [Expression.listPieces, ih]

@[simp] theorem references_qualifiers (annos : List Anno) (modifiers : Modifiers) :
    references (qualifierPieces annos modifiers) =
      annos.flatMap fun item => references item.pieces := by
  simp [qualifierPieces, flatMap_nothing]

@[simp] theorem references_typeParameters (parameters : List TypeParameter)
    (after : String) :
    references (TypeParameter.listPieces parameters after) =
      parameters.flatMap fun parameter => references parameter.pieces := by
  cases parameters with
  | nil => rfl
  | cons parameter rest => simp [TypeParameter.listPieces]

@[simp] theorem references_classTypes (before : String) (types : List ClassType) :
    references (ClassType.listPieces before types) =
      types.flatMap fun type => references type.pieces := by
  cases types with
  | nil => rfl
  | cons type rest => simp [ClassType.listPieces]

@[simp] theorem references_typeDecls (indentation : Nat) (decls : List TypeDecl) :
    references (TypeDecl.listPieces indentation decls) =
      decls.flatMap fun decl => references (decl.pieces indentation) := by
  induction decls with
  | nil => rfl
  | cons decl rest ih => simp [TypeDecl.listPieces, ih]

@[simp] theorem references_members (indentation : Nat) (members : List Tree) :
    references (Tree.memberPieces indentation members) =
      members.flatMap fun member => references (member.pieces indentation) := by
  induction members with
  | nil => rfl
  | cons member rest ih =>
    -- Kinds of members differ in the plain text around them only.
    cases member <;> simp [Tree.memberPieces, Tree.pieces, ih]

end Piece

namespace Tree

/-- The indentation at the children of a node. -/
def childIndentation : Tree → Nat → Nat
  | .typeDecl _, indentation => indentation + 2
  | _, indentation => indentation

/-- The printer has a node's own reference and goes on to all children. Where it prints nothing for
an empty list, that is what it prints for all of its items. -/
theorem references_pieces_eq (tree : Tree) (indentation : Nat) :
    Piece.references (tree.pieces indentation) =
      tree.reference?.toList ++ tree.children.flatMap fun child =>
        Piece.references (child.pieces (tree.childIndentation indentation)) := by
  cases tree with
  | type typeUse =>
    cases typeUse with
    | wildcard | array | primitive | void =>
      simp [pieces, reference?, children, TypeUse.children, TypeUse.pieces, List.flatMap_map]
    | declared declared =>
      obtain ⟨qualifier, name, arguments⟩ := declared
      -- Angle brackets are there only if there are arguments, and have no references.
      cases arguments <;>
        simp [pieces, reference?, children, TypeUse.children, TypeUse.pieces, ClassType.pieces,
          List.flatMap_map]
  | expression expr =>
    cases expr with
    | unary operator operand =>
      simp only [pieces, Expression.pieces]
      split <;> simp [pieces, reference?, children, Expression.children]
    | arrayInit elements =>
      cases elements <;>
        simp [pieces, reference?, children, Expression.children, Expression.pieces,
          List.flatMap_map]
    | literal | cast | binary | reference | classLiteral | assign | conditional | anno =>
      simp [pieces, reference?, children, Expression.children, Expression.pieces]
  | compilationUnit unit =>
    obtain ⟨package, imports, types, file⟩ := unit
    cases package <;> cases imports <;>
      simp [pieces, reference?, children, childIndentation, CompilationUnit.pieces,
        List.flatMap_map]
  | importDecl | packageDecl => rfl
  | variableDecl decl =>
    simp [pieces, reference?, children, VariableDecl.pieces, List.flatMap_map]
  | methodDecl decl =>
    simp [pieces, reference?, children, MethodDecl.pieces, TypeUse.pieces, List.flatMap_map]
  | anno item =>
    obtain ⟨name, arguments⟩ := item
    cases arguments <;>
      simp [pieces, reference?, children, Anno.pieces, List.flatMap_map]
  | typeDecl decl =>
    obtain ⟨modifiers, annos, name, typeParameters, superclass, interfaces, members, kind⟩ := decl
    simp [pieces, reference?, children, childIndentation, TypeDecl.pieces, TypeUse.pieces,
      List.flatMap_map]
  | typeParameter parameter =>
    obtain ⟨name, bounds⟩ := parameter
    cases bounds <;> simp [pieces, reference?, children, TypeParameter.pieces, List.flatMap_map]

/-! ### Both passes -/

theorem references_eq_filterMap (tree : Tree) :
    tree.references = tree.nodes.filterMap reference? := by
  rw [List.filterMap_eq_flatMap_toList]
  exact eq_flatMap_nodes (fun _ : Unit => references) (fun _ _ => ())
    (fun tree _ => references_eq tree) tree ()

theorem references_pieces (tree : Tree) (indentation : Nat) :
    Piece.references (tree.pieces indentation) = tree.references := by
  rw [references_eq_filterMap, List.filterMap_eq_flatMap_toList]
  exact eq_flatMap_nodes (fun indentation tree => Piece.references (tree.pieces indentation))
    childIndentation references_pieces_eq tree indentation

/-- The collecting pass and the printer meet the same references: those among the nodes of the tree,
from left to right and with repetitions. In the text of the tree, the parts that name them stand in
that order. -/
theorem references_complete (tree : Tree) (printer : Printer) :
    (printer.tree tree).references = printer.references ++ tree.references ∧
      tree.references = tree.nodes.filterMap reference? ∧
      ∃ pieces, tree.text = Piece.spell pieces ∧ Piece.references pieces = tree.references := by
  refine ⟨?_, references_eq_filterMap tree, tree.pieces 0, text_eq tree, references_pieces tree 0⟩
  rw [Printer.tree_eq, Printer.references, Printer.append, Array.toList_append,
    Piece.references_append, references_pieces]
  rfl

end Tree

end ClassHeader
