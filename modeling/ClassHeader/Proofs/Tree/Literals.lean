import ClassHeader.Proofs.Tree.References

/-!
# Changing the literals of a tree

`Tree.mapLiterals` changes the value of every literal of a tree and nothing else. It works on the
nodes of the tree one by one (`Tree.nodes_mapLiterals`), so whatever it leaves alone at each node is
the same in the whole tree afterwards: that holds of the references to constants, and of the tree
itself if no literal changes. Types, imports, packages and type parameters have no literals.
-/

namespace ClassHeader

variable (change : Constant → Constant)

/-! ### Expressions -/

mutual

def Expression.mapLiterals : Expression → Expression
  | .literal kind value => .literal kind (change value)
  | .cast type operand => .cast type operand.mapLiterals
  | .unary operator operand => .unary operator operand.mapLiterals
  | .binary operator left right => .binary operator left.mapLiterals right.mapLiterals
  | .reference name => .reference name
  | .classLiteral type => .classLiteral type
  | .assign name value => .assign name value.mapLiterals
  | .conditional condition whenTrue whenFalse =>
    .conditional condition.mapLiterals whenTrue.mapLiterals whenFalse.mapLiterals
  | .arrayInit elements => .arrayInit (Expression.listMapLiterals elements)
  | .anno anno => .anno anno.mapLiterals

def Anno.mapLiterals : Anno → Anno
  | ⟨name, arguments⟩ => ⟨name, Expression.listMapLiterals arguments⟩

def Expression.listMapLiterals : List Expression → List Expression
  | [] => []
  | item :: rest => item.mapLiterals :: Expression.listMapLiterals rest

end

/-! ### Declarations -/

def VariableDecl.mapLiterals (decl : VariableDecl) : VariableDecl :=
  { decl with
    annos := decl.annos.map (Anno.mapLiterals change)
    init := decl.init.map (Expression.mapLiterals change) }

def MethodDecl.mapLiterals (decl : MethodDecl) : MethodDecl :=
  { decl with
    annos := decl.annos.map (Anno.mapLiterals change)
    parameters := decl.parameters.map (VariableDecl.mapLiterals change)
    defaultValue := decl.defaultValue.map (Expression.mapLiterals change) }

mutual

def TypeDecl.mapLiterals : TypeDecl → TypeDecl
  | ⟨modifiers, annos, name, typeParameters, superclass, interfaces, members, kind⟩ =>
    ⟨modifiers, annos.map (Anno.mapLiterals change), name, typeParameters, superclass, interfaces,
      Tree.listMapLiterals members, kind⟩

def CompilationUnit.mapLiterals : CompilationUnit → CompilationUnit
  | ⟨package, imports, types, file⟩ =>
    ⟨package, imports, TypeDecl.listMapLiterals types, file⟩

def TypeDecl.listMapLiterals : List TypeDecl → List TypeDecl
  | [] => []
  | decl :: rest => decl.mapLiterals :: TypeDecl.listMapLiterals rest

def Tree.listMapLiterals : List Tree → List Tree
  | [] => []
  | tree :: rest => tree.mapLiterals :: Tree.listMapLiterals rest

/-- The tree with the value of every literal changed. -/
def Tree.mapLiterals : Tree → Tree
  | .expression expr => .expression (expr.mapLiterals change)
  | .compilationUnit unit => .compilationUnit unit.mapLiterals
  | .variableDecl decl => .variableDecl (decl.mapLiterals change)
  | .methodDecl decl => .methodDecl (decl.mapLiterals change)
  | .anno anno => .anno (anno.mapLiterals change)
  | .typeDecl decl => .typeDecl decl.mapLiterals
  | tree => tree

end

theorem Expression.listMapLiterals_eq (items : List Expression) :
    Expression.listMapLiterals change items = items.map (Expression.mapLiterals change) := by
  induction items with
  | nil => rfl
  | cons item rest ih => rw [Expression.listMapLiterals, ih, List.map_cons]

theorem TypeDecl.listMapLiterals_eq (decls : List TypeDecl) :
    TypeDecl.listMapLiterals change decls = decls.map (TypeDecl.mapLiterals change) := by
  induction decls with
  | nil => rfl
  | cons decl rest ih => rw [TypeDecl.listMapLiterals, ih, List.map_cons]

theorem Tree.listMapLiterals_eq (trees : List Tree) :
    Tree.listMapLiterals change trees = trees.map (Tree.mapLiterals change) := by
  induction trees with
  | nil => rfl
  | cons tree rest ih => rw [Tree.listMapLiterals, ih, List.map_cons]

namespace Tree

/-! ### Nodes -/

/-- The value of a node that is a literal. -/
def literal? : Tree → Option Constant
  | .expression (.literal _ value) => some value
  | _ => none

theorem children_mapLiterals (tree : Tree) :
    (tree.mapLiterals change).children = tree.children.map (mapLiterals change) := by
  cases tree with
  | type typeUse =>
    cases typeUse with
    | wildcard | array | primitive | void =>
      simp [mapLiterals, children, TypeUse.children, Function.comp_def]
    | declared declared =>
      obtain ⟨qualifier, name, arguments⟩ := declared
      simp [mapLiterals, children, TypeUse.children, Function.comp_def]
  | expression expr =>
    cases expr <;>
      simp [mapLiterals, Expression.mapLiterals, children, Expression.children,
        Expression.listMapLiterals_eq]
  | compilationUnit unit =>
    obtain ⟨package, imports, types, file⟩ := unit
    simp [mapLiterals, CompilationUnit.mapLiterals, children, TypeDecl.listMapLiterals_eq,
      Function.comp_def]
  | importDecl | packageDecl => rfl
  | variableDecl decl =>
    simp [mapLiterals, VariableDecl.mapLiterals, children, Option.toList_map, Function.comp_def]
  | methodDecl decl =>
    simp [mapLiterals, MethodDecl.mapLiterals, children, Option.toList_map, Function.comp_def]
  | anno item =>
    obtain ⟨name, arguments⟩ := item
    simp [mapLiterals, Anno.mapLiterals, children, Expression.listMapLiterals_eq]
  | typeDecl decl =>
    obtain ⟨modifiers, annos, name, typeParameters, superclass, interfaces, members, kind⟩ := decl
    simp [mapLiterals, TypeDecl.mapLiterals, children, Tree.listMapLiterals_eq, Function.comp_def]
  | typeParameter parameter => simp [mapLiterals, children]

theorem nodes_mapLiterals (tree : Tree) :
    (tree.mapLiterals change).nodes = tree.nodes.map (mapLiterals change) := by
  induction tree using induction with
  | step tree ih =>
    rw [nodes_eq, nodes_eq, children_mapLiterals, List.flatMap_map, List.map_cons, List.map_flatMap]
    exact congrArg _ (List.flatMap_congr ih)

theorem literal?_mapLiterals (tree : Tree) :
    (tree.mapLiterals change).literal? = tree.literal?.map change := by
  cases tree with
  | expression expr => cases expr <;> rfl
  | _ => rfl

theorem reference?_mapLiterals (tree : Tree) :
    (tree.mapLiterals change).reference? = tree.reference? := by
  cases tree with
  | expression expr => cases expr <;> rfl
  | _ => rfl

/-- References are no literals. -/
theorem references_mapLiterals (tree : Tree) :
    (tree.mapLiterals change).references = tree.references := by
  rw [references_eq_filterMap, references_eq_filterMap, nodes_mapLiterals, List.filterMap_map]
  exact List.filterMap_congr fun node _ => reference?_mapLiterals change node

/-! ### Literals -/

/-- The values of the literals of a tree, from left to right. -/
def literals (tree : Tree) : List Constant :=
  tree.nodes.filterMap literal?

theorem literals_mapLiterals (tree : Tree) :
    (tree.mapLiterals change).literals = tree.literals.map change := by
  rw [literals, literals, nodes_mapLiterals, List.filterMap_map, List.map_filterMap]
  exact List.filterMap_congr fun node _ => literal?_mapLiterals change node

theorem forall_mem_literals {tree : Tree} {holds : Constant → Prop} :
    (∀ value ∈ tree.literals, holds value) ↔
      (∀ value ∈ tree.literal?, holds value) ∧
        ∀ child ∈ tree.children, ∀ value ∈ child.literals, holds value := by
  simp only [literals, List.mem_filterMap, nodes_eq tree, List.mem_cons, List.mem_flatMap]
  constructor
  · intro all
    exact ⟨fun value own => all value ⟨tree, Or.inl rfl, own⟩,
      fun child member value ⟨node, inside, own⟩ =>
        all value ⟨node, Or.inr ⟨child, member, inside⟩, own⟩⟩
  · rintro ⟨own, below⟩ value ⟨node, rfl | ⟨child, member, inside⟩, found⟩
    · exact own value found
    · exact below child member value ⟨node, inside, found⟩

/-- A tree that no change of literals changes has none. -/
theorem literals_eq_nil {tree : Tree} (inert : ∀ change, tree.mapLiterals change = tree) :
    tree.literals = [] := by
  -- If all literals become one constant, they are that constant, whichever it is.
  have all : ∀ constant, ∀ value ∈ tree.literals, value = constant := by
    intro constant value member
    rw [← inert fun _ => constant, literals_mapLiterals, List.mem_map] at member
    obtain ⟨_, -, same⟩ := member
    exact same.symm
  refine List.eq_nil_iff_forall_not_mem.mpr fun value member => ?_
  have same : Constant.boolean true = .boolean false :=
    (all _ value member).symm.trans (all _ value member)
  cases same

end Tree

/-! ### Trees whose literals stay -/

namespace Node

variable {α : Type} [Node α] {change : Constant → Constant} {inner : α → α}
  (acts : ∀ item, (toTree item).mapLiterals change = toTree (inner item))
include acts

theorem inner_eq_self {item : α} (fixed : (toTree item).mapLiterals change = toTree item) :
    inner item = item :=
  toTree_injective ((acts item).symm.trans fixed)

theorem map_inner_eq_self {items : List α}
    (fixed : ∀ child ∈ items.map toTree, child.mapLiterals change = child) :
    items.map inner = items := by
  have each : ∀ item ∈ items, inner item = item := fun item member =>
    inner_eq_self acts (fixed _ (List.mem_map_of_mem member))
  rw [List.map_congr_left each, List.map_id']

theorem option_map_inner_eq_self {item : Option α}
    (fixed : ∀ child ∈ item.toList.map toTree, child.mapLiterals change = child) :
    item.map inner = item := by
  cases item with
  | none => rfl
  | some item => exact congrArg some (inner_eq_self acts (fixed _ (List.mem_singleton_self _)))

end Node

namespace Tree

/-- A node whose own literal and whose children stay as they are stays as it is. -/
theorem mapLiterals_eq_of_children {change : Constant → Constant} {tree : Tree}
    (own : ∀ value ∈ tree.literal?, change value = value)
    (fixed : ∀ child ∈ tree.children, child.mapLiterals change = child) :
    tree.mapLiterals change = tree := by
  cases tree with
  | type | importDecl | typeParameter | packageDecl => rfl
  | expression expr =>
    cases expr with
    | literal kind value => exact congrArg (expression <| .literal kind ·) (own value rfl)
    | reference | classLiteral => rfl
    | arrayInit elements =>
      -- The fields of a node are not its children themselves, but what these are made of.
      have kept : elements.map (Expression.mapLiterals change) = elements :=
        Node.map_inner_eq_self (fun _ => rfl) fixed
      rw [mapLiterals, Expression.mapLiterals, Expression.listMapLiterals_eq, kept]
    | cast | unary | binary | assign | conditional | anno =>
      simp_all [mapLiterals, Expression.mapLiterals, children, Expression.children]
  | compilationUnit unit =>
    obtain ⟨package, imports, types, file⟩ := unit
    simp only [children, List.forall_mem_append] at fixed
    have kept : types.map (TypeDecl.mapLiterals change) = types :=
      Node.map_inner_eq_self (fun _ => rfl) fixed.2
    rw [mapLiterals, CompilationUnit.mapLiterals, TypeDecl.listMapLiterals_eq, kept]
  | variableDecl decl =>
    simp only [children, List.forall_mem_append, List.forall_mem_cons] at fixed
    obtain ⟨annos, -, init⟩ := fixed
    have annos : decl.annos.map (Anno.mapLiterals change) = decl.annos :=
      Node.map_inner_eq_self (fun _ => rfl) annos
    have init : decl.init.map (Expression.mapLiterals change) = decl.init :=
      Node.option_map_inner_eq_self (fun _ => rfl) init
    rw [mapLiterals, VariableDecl.mapLiterals, annos, init]
  | methodDecl decl =>
    simp only [children, List.forall_mem_append] at fixed
    obtain ⟨⟨⟨⟨⟨annos, -⟩, -⟩, parameters⟩, -⟩, defaultValue⟩ := fixed
    have annos : decl.annos.map (Anno.mapLiterals change) = decl.annos :=
      Node.map_inner_eq_self (fun _ => rfl) annos
    have parameters : decl.parameters.map (VariableDecl.mapLiterals change) = decl.parameters :=
      Node.map_inner_eq_self (fun _ => rfl) parameters
    have defaultValue : decl.defaultValue.map (Expression.mapLiterals change) = decl.defaultValue :=
      Node.option_map_inner_eq_self (fun _ => rfl) defaultValue
    rw [mapLiterals, MethodDecl.mapLiterals, annos, parameters, defaultValue]
  | anno item =>
    obtain ⟨name, arguments⟩ := item
    have kept : arguments.map (Expression.mapLiterals change) = arguments :=
      Node.map_inner_eq_self (fun _ => rfl) fixed
    rw [mapLiterals, Anno.mapLiterals, Expression.listMapLiterals_eq, kept]
  | typeDecl decl =>
    obtain ⟨modifiers, annos, name, typeParameters, superclass, interfaces, members, kind⟩ := decl
    simp only [children, List.forall_mem_append] at fixed
    obtain ⟨⟨⟨⟨heading, -⟩, -⟩, -⟩, body⟩ := fixed
    have heading : annos.map (Anno.mapLiterals change) = annos :=
      Node.map_inner_eq_self (fun _ => rfl) heading
    have body : members.map (Tree.mapLiterals change) = members :=
      (List.map_congr_left body).trans members.map_id'
    rw [mapLiterals, TypeDecl.mapLiterals, Tree.listMapLiterals_eq, heading, body]

/-- A tree stays as it is if its literals do. -/
theorem mapLiterals_eq_self {change : Constant → Constant} {tree : Tree}
    (fixed : ∀ value ∈ tree.literals, change value = value) : tree.mapLiterals change = tree := by
  induction tree using induction with
  | step tree ih =>
    rw [forall_mem_literals] at fixed
    obtain ⟨own, below⟩ := fixed
    exact mapLiterals_eq_of_children own fun child member => ih child member (below child member)

end Tree

end ClassHeader
