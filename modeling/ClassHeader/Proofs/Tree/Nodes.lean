import ClassHeader.Tree.Basic
import Mathlib.Data.List.Basic

/-!
# The nodes of a tree

Each node has children, from left to right: the types, expressions, annotations and declarations
that are its fields. The nodes of a tree are the tree itself and the nodes of its children. An
annotation that stands as an expression is a node whose only child is the annotation.

What holds of a node whenever it holds of its children holds of every tree (`Tree.induction`). So a
pass that adds something at each node and goes on to its children collects what it adds over all
nodes (`Tree.eq_flatMap_nodes`), and one look at each shape is enough to see that.
-/

namespace ClassHeader

/-! ### Children -/

def TypeUse.children : TypeUse → List Tree
  | .wildcard upper lower => upper.toList.map .type ++ lower.toList.map .type
  | .array element _ => [.type element]
  | .primitive _ => []
  | .void => []
  | .declared ⟨qualifier, _, arguments⟩ =>
    qualifier.toList.map (.type <| .declared ·) ++ arguments.map .type

def Expression.children : Expression → List Tree
  | .literal _ _ => []
  | .cast type operand => [.type type, .expression operand]
  | .unary _ operand => [.expression operand]
  | .binary _ left right => [.expression left, .expression right]
  | .reference _ => []
  | .classLiteral type => [.type type]
  | .assign _ value => [.expression value]
  | .conditional condition whenTrue whenFalse =>
    [.expression condition, .expression whenTrue, .expression whenFalse]
  | .arrayInit elements => elements.map .expression
  | .anno item => [.anno item]

namespace Tree

/-- The fields of a node that are nodes, from left to right. -/
def children : Tree → List Tree
  | .type typeUse => typeUse.children
  | .expression expr => expr.children
  | .compilationUnit ⟨package, imports, types, _⟩ =>
    package.toList.map .packageDecl ++ imports.map .importDecl ++ types.map .typeDecl
  | .importDecl _ => []
  | .variableDecl ⟨_, annos, variableType, _, init⟩ =>
    annos.map .anno ++ .type variableType :: init.toList.map .expression
  | .methodDecl ⟨_, annos, typeParameters, result, _, parameters, exceptions, defaultValue⟩ =>
    annos.map .anno ++ typeParameters.map .typeParameter ++ result.toList.map .type ++
      parameters.map .variableDecl ++ exceptions.map (.type <| .declared ·) ++
      defaultValue.toList.map .expression
  | .anno ⟨_, arguments⟩ => arguments.map .expression
  | .typeDecl ⟨_, annos, _, typeParameters, superclass, interfaces, members, _⟩ =>
    annos.map .anno ++ typeParameters.map .typeParameter ++
      superclass.toList.map (.type <| .declared ·) ++ interfaces.map (.type <| .declared ·) ++
      members
  | .typeParameter ⟨_, bounds⟩ => bounds.map .type
  | .packageDecl _ => []

variable {tree child : Tree}

section

variable {α : Type} [SizeOf α] {wrap : α → Tree} {extra : Nat}
  (wraps : ∀ item, sizeOf (wrap item) = extra + sizeOf item)
include wraps

theorem sizeOf_lt_of_mem_map {items : List α} (member : child ∈ items.map wrap) :
    sizeOf child < extra + sizeOf items := by
  obtain ⟨item, listed, rfl⟩ := List.mem_map.mp member
  rw [wraps]
  exact Nat.add_lt_add_left (List.sizeOf_lt_of_mem listed) extra

theorem sizeOf_lt_of_mem_toList {item : Option α} (member : child ∈ item.toList.map wrap) :
    sizeOf child < extra + sizeOf item := by
  cases item with
  | none => cases member
  | some item =>
    obtain rfl := List.mem_singleton.mp member
    rw [wraps, Option.some.sizeOf_spec]
    omega

end

theorem sizeOf_declared (declared : ClassType) :
    sizeOf (Tree.type (.declared declared)) = 2 + sizeOf declared := by
  rw [type.sizeOf_spec, TypeUse.declared.sizeOf_spec]
  omega

theorem sizeOf_lt_of_mem_typeUse_children {typeUse : TypeUse} (member : child ∈ typeUse.children) :
    sizeOf child < 1 + sizeOf typeUse := by
  cases typeUse with
  | wildcard upper lower =>
    rw [TypeUse.wildcard.sizeOf_spec]
    rcases List.mem_append.mp member with member | member
    · have := sizeOf_lt_of_mem_toList type.sizeOf_spec member
      omega
    · have := sizeOf_lt_of_mem_toList type.sizeOf_spec member
      omega
  | array element dimensions =>
    obtain rfl := List.mem_singleton.mp member
    rw [TypeUse.array.sizeOf_spec, type.sizeOf_spec]
    omega
  | primitive | void => cases member
  | declared declared =>
    obtain ⟨qualifier, name, arguments⟩ := declared
    rw [TypeUse.declared.sizeOf_spec, ClassType.mk.sizeOf_spec]
    rcases List.mem_append.mp member with member | member
    · have := sizeOf_lt_of_mem_toList sizeOf_declared member
      omega
    · have := sizeOf_lt_of_mem_map type.sizeOf_spec member
      omega

theorem sizeOf_lt_of_mem_expression_children {expr : Expression} (member : child ∈ expr.children) :
    sizeOf child < 1 + sizeOf expr := by
  cases expr with
  | literal | reference => cases member
  | arrayInit elements =>
    rw [Expression.arrayInit.sizeOf_spec]
    have := sizeOf_lt_of_mem_map expression.sizeOf_spec member
    omega
  | cast | unary | binary | classLiteral | assign | conditional | anno =>
    simp only [Expression.children, List.mem_cons, List.not_mem_nil, or_false] at member
    rcases member with rfl | rfl | rfl <;> simp +arith

theorem sizeOf_lt_of_mem_children (member : child ∈ tree.children) :
    sizeOf child < sizeOf tree := by
  -- A child is a field under at most two constructors, and its parent has two above that field.
  cases tree with
  | type typeUse => exact type.sizeOf_spec typeUse ▸ sizeOf_lt_of_mem_typeUse_children member
  | expression expr =>
    exact expression.sizeOf_spec expr ▸ sizeOf_lt_of_mem_expression_children member
  | compilationUnit unit =>
    obtain ⟨package, imports, types, file⟩ := unit
    rw [compilationUnit.sizeOf_spec, CompilationUnit.mk.sizeOf_spec]
    simp only [children, List.mem_append] at member
    rcases member with (member | member) | member
    · have := sizeOf_lt_of_mem_toList packageDecl.sizeOf_spec member
      omega
    · have := sizeOf_lt_of_mem_map importDecl.sizeOf_spec member
      omega
    · have := sizeOf_lt_of_mem_map typeDecl.sizeOf_spec member
      omega
  | importDecl | packageDecl => cases member
  | variableDecl decl =>
    obtain ⟨modifiers, annos, variableType, name, init⟩ := decl
    rw [variableDecl.sizeOf_spec, VariableDecl.mk.sizeOf_spec]
    simp only [children, List.mem_append, List.mem_cons] at member
    rcases member with member | rfl | member
    · have := sizeOf_lt_of_mem_map anno.sizeOf_spec member
      omega
    · rw [type.sizeOf_spec]
      omega
    · have := sizeOf_lt_of_mem_toList expression.sizeOf_spec member
      omega
  | methodDecl decl =>
    obtain ⟨modifiers, annos, typeParameters, result, name, parameters, exceptions, value⟩ := decl
    rw [methodDecl.sizeOf_spec, MethodDecl.mk.sizeOf_spec]
    simp only [children, List.mem_append] at member
    rcases member with ((((member | member) | member) | member) | member) | member
    · have := sizeOf_lt_of_mem_map anno.sizeOf_spec member
      omega
    · have := sizeOf_lt_of_mem_map typeParameter.sizeOf_spec member
      omega
    · have := sizeOf_lt_of_mem_toList type.sizeOf_spec member
      omega
    · have := sizeOf_lt_of_mem_map variableDecl.sizeOf_spec member
      omega
    · have := sizeOf_lt_of_mem_map sizeOf_declared member
      omega
    · have := sizeOf_lt_of_mem_toList expression.sizeOf_spec member
      omega
  | anno item =>
    obtain ⟨name, arguments⟩ := item
    rw [anno.sizeOf_spec, Anno.mk.sizeOf_spec]
    have := sizeOf_lt_of_mem_map expression.sizeOf_spec member
    omega
  | typeDecl decl =>
    obtain ⟨modifiers, annos, name, typeParameters, superclass, interfaces, members, kind⟩ := decl
    rw [typeDecl.sizeOf_spec, TypeDecl.mk.sizeOf_spec]
    simp only [children, List.mem_append] at member
    rcases member with (((member | member) | member) | member) | member
    · have := sizeOf_lt_of_mem_map anno.sizeOf_spec member
      omega
    · have := sizeOf_lt_of_mem_map typeParameter.sizeOf_spec member
      omega
    · have := sizeOf_lt_of_mem_toList sizeOf_declared member
      omega
    · have := sizeOf_lt_of_mem_map sizeOf_declared member
      omega
    · have := List.sizeOf_lt_of_mem member
      omega
  | typeParameter parameter =>
    obtain ⟨name, bounds⟩ := parameter
    rw [typeParameter.sizeOf_spec, TypeParameter.mk.sizeOf_spec]
    have := sizeOf_lt_of_mem_map type.sizeOf_spec member
    omega

/-! ### Nodes -/

/-- The nodes of a tree from left to right, each before its children. -/
def nodes (tree : Tree) : List Tree :=
  tree :: tree.children.attach.flatMap fun ⟨child, _⟩ => child.nodes
termination_by sizeOf tree
decreasing_by exact sizeOf_lt_of_mem_children ‹_›

theorem nodes_eq (tree : Tree) : tree.nodes = tree :: tree.children.flatMap nodes := by
  rw [nodes]
  simp

/-- What holds of a node whenever it holds of its children holds of every tree. -/
theorem induction {motive : Tree → Prop}
    (step : ∀ tree, (∀ child ∈ tree.children, motive child) → motive tree) (tree : Tree) :
    motive tree :=
  step tree fun child _ => induction step child
termination_by sizeOf tree
decreasing_by exact sizeOf_lt_of_mem_children ‹_›

/-- A pass over a tree that has something of its own at each node and goes on to the children, with
a state that can change on the way down, has all its nodes' own in the end. -/
theorem eq_flatMap_nodes {σ α : Type} {own : Tree → List α} (pass : σ → Tree → List α)
    (inner : Tree → σ → σ)
    (descends : ∀ tree state,
      pass state tree = own tree ++ tree.children.flatMap (pass (inner tree state)))
    (tree : Tree) (state : σ) : pass state tree = tree.nodes.flatMap own := by
  -- The state is general because a child is visited with another one than its parent.
  induction tree using induction generalizing state with
  | step tree ih =>
    rw [descends, nodes_eq, List.flatMap_cons, List.flatMap_assoc]
    congr 1
    exact List.flatMap_congr fun child member => ih child member (inner tree state)

end Tree

/-! ### Types of nodes -/

/-- A type of fields that are nodes. Its items are trees, and the tree of an item tells the item. -/
class Node (α : Type) where
  toTree : α → Tree
  ofTree? : Tree → Option α
  ofTree?_toTree : ∀ item, ofTree? (toTree item) = some item

namespace Node

instance : Node TypeUse where
  toTree := .type
  ofTree?
    | .type typeUse => some typeUse
    | _ => none
  ofTree?_toTree _ := rfl

instance : Node ClassType where
  toTree declared := .type (.declared declared)
  ofTree?
    | .type (.declared declared) => some declared
    | _ => none
  ofTree?_toTree _ := rfl

instance : Node Expression where
  toTree := .expression
  ofTree?
    | .expression expr => some expr
    | _ => none
  ofTree?_toTree _ := rfl

instance : Node Anno where
  toTree := .anno
  ofTree?
    | .anno item => some item
    | _ => none
  ofTree?_toTree _ := rfl

instance : Node ImportDecl where
  toTree := .importDecl
  ofTree?
    | .importDecl decl => some decl
    | _ => none
  ofTree?_toTree _ := rfl

instance : Node VariableDecl where
  toTree := .variableDecl
  ofTree?
    | .variableDecl decl => some decl
    | _ => none
  ofTree?_toTree _ := rfl

instance : Node TypeDecl where
  toTree := .typeDecl
  ofTree?
    | .typeDecl decl => some decl
    | _ => none
  ofTree?_toTree _ := rfl

instance : Node TypeParameter where
  toTree := .typeParameter
  ofTree?
    | .typeParameter parameter => some parameter
    | _ => none
  ofTree?_toTree _ := rfl

instance : Node PackageDecl where
  toTree := .packageDecl
  ofTree?
    | .packageDecl decl => some decl
    | _ => none
  ofTree?_toTree _ := rfl

/-- A member of a type declaration is a tree already. -/
instance : Node Tree where
  toTree := id
  ofTree? := some
  ofTree?_toTree _ := rfl

theorem toTree_injective {α : Type} [Node α] : Function.Injective (toTree : α → Tree) :=
  fun left right same => Option.some.inj <| by
    rw [← ofTree?_toTree left, same, ofTree?_toTree]

end Node

end ClassHeader
