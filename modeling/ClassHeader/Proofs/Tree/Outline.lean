import ClassHeader.Proofs.Tree.Visitor
import ClassHeader.Tree.Outline

/-!
# Outlining as a visitor

The outline of a tree is what a visitor makes of it that writes down, at each node, which operation
was called and what it got (`Tree.outline_eq_accept`). So the shapes in an outline name the
operations of the nodes, and the outline of a node holds all that a visitor gets to see of it except
its kind, which an operation learns from the node above.
-/

namespace ClassHeader

open Node

namespace Outline

/-- The outline of a child, one level further down, with the kind of the child. -/
def ofChild {α : Type} [Node α] (depth : Nat) (child : Child Nat (NodeKind → Outline) α) :
    Outline :=
  child.accept (depth + 1) (toTree child.node).kind

/-- The visitor that writes down its operations and what they get. The kind of a node is left to the
caller, since nodes of two kinds share an operation. -/
def outliner : Visitor Nat (NodeKind → Outline) where
  wildcard upper lower depth kind :=
    .node kind .wildcard depth
      [(.upper, .ofOption (ofChild depth) upper), (.lower, .ofOption (ofChild depth) lower)]
  array element dimensions depth kind :=
    .node kind .array depth
      [(.element, ofChild depth element), (.dimensions, .number dimensions.toNat)]
  primitive type depth kind := .node kind .primitive depth [(.type, .constantKind type)]
  void depth kind := .node kind .void depth []
  classType qualifier name arguments depth kind :=
    .node kind .classType depth
      [(.qualifier, .ofOption (ofChild depth) qualifier), (.name, .text name),
        (.typeArguments, .items (arguments.map (ofChild depth)))]
  literal type value depth kind :=
    .node kind .literal depth [(.type, .constantKind type), (.value, .constant value)]
  cast type operand depth kind :=
    .node kind .cast depth [(.type, ofChild depth type), (.operand, ofChild depth operand)]
  unary operator operand depth kind :=
    .node kind .unary depth [(.operator, .operator operator), (.operand, ofChild depth operand)]
  binary operator left right depth kind :=
    .node kind .binary depth
      [(.operator, .operator operator), (.left, ofChild depth left), (.right, ofChild depth right)]
  reference name depth kind := .node kind .reference depth [(.name, .name name)]
  classLiteral type depth kind := .node kind .classLiteral depth [(.type, ofChild depth type)]
  assign name value depth kind :=
    .node kind .assign depth [(.name, .text name), (.operand, ofChild depth value)]
  conditional condition whenTrue whenFalse depth kind :=
    .node kind .conditional depth
      [(.condition, ofChild depth condition), (.whenTrue, ofChild depth whenTrue),
        (.whenFalse, ofChild depth whenFalse)]
  arrayInit elements depth kind :=
    .node kind .arrayInit depth [(.elements, .items (elements.map (ofChild depth)))]
  compilationUnit package imports types file depth kind :=
    .node kind .compilationUnit depth
      [(.package, .ofOption (ofChild depth) package),
        (.imports, .items (imports.map (ofChild depth))),
        (.types, .items (types.map (ofChild depth))), (.file, .text file)]
  importDecl name isStatic depth kind :=
    .node kind .importDecl depth [(.name, .name name), (.isStatic, .flag isStatic)]
  variableDecl modifiers annos type name init depth kind :=
    .node kind .variableDecl depth
      [(.modifiers, .modifiers modifiers.toList), (.annos, .items (annos.map (ofChild depth))),
        (.type, ofChild depth type), (.name, .text name), (.init, .ofOption (ofChild depth) init)]
  methodDecl modifiers annos typeParameters result name parameters exceptions defaultValue depth
      kind :=
    .node kind .methodDecl depth
      [(.modifiers, .modifiers modifiers.toList), (.annos, .items (annos.map (ofChild depth))),
        (.typeParameters, .items (typeParameters.map (ofChild depth))),
        (.result, .ofOption (ofChild depth) result), (.name, .text name),
        (.parameters, .items (parameters.map (ofChild depth))),
        (.exceptions, .items (exceptions.map (ofChild depth))),
        (.defaultValue, .ofOption (ofChild depth) defaultValue)]
  anno name arguments depth kind :=
    .node kind .anno depth
      [(.name, .name name), (.arguments, .items (arguments.map (ofChild depth)))]
  typeDecl modifiers annos name typeParameters superclass interfaces members declKind depth kind :=
    .node kind .typeDecl depth
      [(.modifiers, .modifiers modifiers.toList), (.annos, .items (annos.map (ofChild depth))),
        (.name, .text name), (.typeParameters, .items (typeParameters.map (ofChild depth))),
        (.superclass, .ofOption (ofChild depth) superclass),
        (.interfaces, .items (interfaces.map (ofChild depth))),
        (.members, .items (members.map (ofChild depth))), (.declKind, .declKind declKind)]
  typeParameter name bounds depth kind :=
    .node kind .typeParameter depth
      [(.name, .text name), (.bounds, .items (bounds.map (ofChild depth)))]
  packageDecl name depth kind := .node kind .packageDecl depth [(.name, .name name)]

end Outline

/-! ### Lists of outlines -/

theorem TypeUse.optionOutline_eq (depth : Nat) (type : Option TypeUse) :
    TypeUse.optionOutline depth type = .ofOption (TypeUse.outline depth) type := by
  cases type <;> rfl

theorem ClassType.optionOutline_eq (depth : Nat) (type : Option ClassType) :
    ClassType.optionOutline depth type = .ofOption (ClassType.outline depth) type := by
  cases type <;> rfl

theorem TypeUse.listOutline_eq (depth : Nat) (types : List TypeUse) :
    TypeUse.listOutline depth types = types.map (TypeUse.outline depth) := by
  induction types with
  | nil => rfl
  | cons type rest ih => exact congrArg (List.cons _) ih

theorem Expression.listOutline_eq (depth : Nat) (items : List Expression) :
    Expression.listOutline depth items = items.map (Expression.outline depth) := by
  induction items with
  | nil => rfl
  | cons item rest ih => exact congrArg (List.cons _) ih

theorem TypeDecl.listOutline_eq (depth : Nat) (decls : List TypeDecl) :
    TypeDecl.listOutline depth decls = decls.map (TypeDecl.outline depth) := by
  induction decls with
  | nil => rfl
  | cons decl rest ih => exact congrArg (List.cons _) ih

theorem Tree.listOutline_eq (depth : Nat) (trees : List Tree) :
    Tree.listOutline depth trees = trees.map (Tree.outline depth) := by
  induction trees with
  | nil => rfl
  | cons tree rest ih => exact congrArg (List.cons _) ih

namespace Outline

/-- Whether the visitor makes the outline of a tree. -/
def Outlines (tree : Tree) : Prop :=
  ∀ depth, tree.accept outliner depth tree.kind = tree.outline depth

section

variable {α : Type} [Node α]

theorem ofChild_child {item : α} (outlines : Outlines (toTree item)) (depth : Nat) :
    ofChild depth (child outliner item) = (toTree item).outline (depth + 1) :=
  outlines (depth + 1)

theorem map_ofChild_child {items : List α} (outlines : ∀ tree ∈ items.map toTree, Outlines tree)
    (depth : Nat) :
    (items.map (child outliner)).map (ofChild depth) =
      items.map fun item => (toTree item).outline (depth + 1) := by
  rw [List.map_map]
  exact List.map_congr_left fun item member =>
    ofChild_child (outlines _ (List.mem_map_of_mem member)) depth

theorem ofOption_ofChild_child {item : Option α}
    (outlines : ∀ tree ∈ item.toList.map toTree, Outlines tree) (depth : Nat) :
    ofOption (ofChild depth) (item.map (child outliner)) =
      ofOption (fun item => (toTree item).outline (depth + 1)) item := by
  cases item with
  | none => rfl
  | some item => exact ofChild_child (outlines _ (List.mem_singleton_self _)) depth

end

theorem fields_congr {label : FieldLabel} {value value' : Outline}
    {fields fields' : List (FieldLabel × Outline)} (head : value = value')
    (tail : fields = fields') : (label, value) :: fields = (label, value') :: fields' := by
  rw [head, tail]

theorem outlines_type_of_children (typeUse : TypeUse)
    (below : ∀ child ∈ typeUse.children, Outlines child) : Outlines (.type typeUse) := by
  intro depth
  cases typeUse with
  | primitive | void => rfl
  | array element dimensions =>
    -- Kinds, shapes and depths agree by definition. What is left are the fields.
    obtain ⟨element, -⟩ := List.forall_mem_cons.mp below
    exact congrArg (Outline.node _ _ _) <| fields_congr (element _) rfl
  | wildcard upper lower =>
    obtain ⟨above, below⟩ := List.forall_mem_append.mp below
    rw [Tree.accept_wildcard]
    refine congrArg (Outline.node _ _ _) ?_
    rw [ofOption_ofChild_child above, ofOption_ofChild_child below, TypeUse.optionOutline_eq,
      TypeUse.optionOutline_eq]
    rfl
  | declared declared =>
    obtain ⟨qualifier, name, arguments⟩ := declared
    obtain ⟨outer, inner⟩ := List.forall_mem_append.mp below
    rw [Tree.accept_declared]
    refine congrArg (Outline.node _ _ _) ?_
    rw [ofOption_ofChild_child outer, map_ofChild_child inner, ClassType.optionOutline_eq,
      TypeUse.listOutline_eq]
    rfl

theorem outlines_expression_of_children (expr : Expression)
    (below : ∀ child ∈ expr.children, Outlines child) : Outlines (.expression expr) := by
  intro depth
  cases expr with
  | anno item =>
    -- The fields are those of the annotation; only the kinds of the two nodes differ.
    obtain ⟨name, arguments⟩ := item
    have inner := below _ (List.mem_singleton_self _) depth
    exact congrArg (Outline.node _ _ _) (Outline.node.inj inner).2.2.2
  | literal | reference => rfl
  | arrayInit elements =>
    rw [Tree.accept_arrayInit]
    refine congrArg (Outline.node _ _ _) ?_
    rw [map_ofChild_child below, Expression.listOutline_eq]
    rfl
  | unary operator operand =>
    obtain ⟨operand, -⟩ := List.forall_mem_cons.mp below
    exact congrArg (Outline.node _ _ _) <| fields_congr rfl <| fields_congr (operand _) rfl
  | assign name value =>
    obtain ⟨value, -⟩ := List.forall_mem_cons.mp below
    exact congrArg (Outline.node _ _ _) <| fields_congr rfl <| fields_congr (value _) rfl
  | classLiteral type =>
    obtain ⟨type, -⟩ := List.forall_mem_cons.mp below
    exact congrArg (Outline.node _ _ _) <| fields_congr (type _) rfl
  | cast type operand =>
    simp only [Expression.children, List.forall_mem_cons] at below
    obtain ⟨type, operand, -⟩ := below
    exact congrArg (Outline.node _ _ _) <| fields_congr (type _) <| fields_congr (operand _) rfl
  | binary operator left right =>
    simp only [Expression.children, List.forall_mem_cons] at below
    obtain ⟨left, right, -⟩ := below
    exact congrArg (Outline.node _ _ _) <|
      fields_congr rfl <| fields_congr (left _) <| fields_congr (right _) rfl
  | conditional condition whenTrue whenFalse =>
    simp only [Expression.children, List.forall_mem_cons] at below
    obtain ⟨condition, whenTrue, whenFalse, -⟩ := below
    exact congrArg (Outline.node _ _ _) <|
      fields_congr (condition _) <| fields_congr (whenTrue _) <| fields_congr (whenFalse _) rfl

theorem outlines_of_children (tree : Tree) (below : ∀ child ∈ tree.children, Outlines child) :
    Outlines tree := by
  intro depth
  cases tree with
  | type typeUse => exact outlines_type_of_children typeUse below depth
  | expression expr => exact outlines_expression_of_children expr below depth
  | compilationUnit unit =>
    obtain ⟨package, imports, types, file⟩ := unit
    simp only [Tree.children, List.forall_mem_append] at below
    obtain ⟨⟨package, imports⟩, types⟩ := below
    rw [Tree.accept_compilationUnit]
    refine congrArg (Outline.node _ _ _) ?_
    rw [ofOption_ofChild_child package, map_ofChild_child imports, map_ofChild_child types,
      TypeDecl.listOutline_eq]
    rfl
  | importDecl | packageDecl => rfl
  | variableDecl decl =>
    simp only [Tree.children, List.forall_mem_append, List.forall_mem_cons] at below
    obtain ⟨annos, type, init⟩ := below
    rw [Tree.accept_variableDecl]
    refine congrArg (Outline.node _ _ _) ?_
    rw [map_ofChild_child annos, ofChild_child type, ofOption_ofChild_child init]
    rfl
  | methodDecl decl =>
    simp only [Tree.children, List.forall_mem_append] at below
    obtain ⟨⟨⟨⟨⟨annos, typeParameters⟩, result⟩, parameters⟩, exceptions⟩, defaultValue⟩ := below
    rw [Tree.accept_methodDecl]
    refine congrArg (Outline.node _ _ _) ?_
    rw [map_ofChild_child annos, map_ofChild_child typeParameters, ofOption_ofChild_child result,
      map_ofChild_child parameters, map_ofChild_child exceptions,
      ofOption_ofChild_child defaultValue]
    rfl
  | anno item =>
    obtain ⟨name, arguments⟩ := item
    rw [Tree.accept_anno]
    refine congrArg (Outline.node _ _ _) ?_
    rw [map_ofChild_child below, Expression.listOutline_eq]
    rfl
  | typeDecl decl =>
    obtain ⟨modifiers, annos, name, typeParameters, superclass, interfaces, members, kind⟩ := decl
    simp only [Tree.children, List.forall_mem_append] at below
    obtain ⟨⟨⟨⟨annos, typeParameters⟩, superclass⟩, interfaces⟩, inner⟩ := below
    -- Members are trees already, so they are not listed as the trees of something else.
    have trees : members.map toTree = members := List.map_id members
    rw [← trees] at inner
    rw [Tree.accept_typeDecl]
    refine congrArg (Outline.node _ _ _) ?_
    rw [map_ofChild_child annos, map_ofChild_child typeParameters,
      ofOption_ofChild_child superclass, map_ofChild_child interfaces, map_ofChild_child inner,
      Tree.listOutline_eq]
    rfl
  | typeParameter parameter =>
    rw [Tree.accept_typeParameter]
    refine congrArg (Outline.node _ _ _) ?_
    rw [map_ofChild_child below]
    rfl

theorem outlines (tree : Tree) : Outlines tree := by
  induction tree using Tree.induction with
  | step tree below => exact outlines_of_children tree below

end Outline

/-- The outline of a tree is what the tree does when it accepts the visitor that writes down its
operations. -/
theorem Tree.outline_eq_accept (tree : Tree) (depth : Nat) :
    tree.outline depth = tree.accept Outline.outliner depth tree.kind :=
  (Outline.outlines tree depth).symm

end ClassHeader
