import ClassHeader.Proofs.Tree.Visitor
import ClassHeader.Tree.Kind

/-!
# The copying visitor

A visitor that builds each node again from the fields that its operations get loses nothing. A visit
yields a `Tree`, whose kind need not be that of the child it came from, so the copy of a child is
made a node of the child's kind again (`rewrap?`). That matters for annotations that stand as
expressions: they have no operation of their own, and come back as annotations.

The visitor hands on the depth of its children and logs the operations that are reached, so what it
does to a tree is said by the copy and by the log together (`Yields`). What a visit of a node yields
follows, shape by shape, from what the visits of its children yield, and `Tree.copy_complete` is the
induction over that.
-/

namespace ClassHeader

open Node

/-! ### Depths of nodes -/

namespace Tree

/-- Whether a node is an annotation that stands as an expression. -/
def isWrapper : Tree → Bool
  | .expression (.anno _) => true
  | _ => false

/-- The depth of the children of a node at some depth. -/
def depthBelow (tree : Tree) (depth : Nat) : Nat :=
  if tree.isWrapper then depth else depth + 1

/-- The nodes of a tree whose root is at some depth, each with its own depth, from left to right. -/
def nodesFrom (depth : Nat) (tree : Tree) : List (Tree × Nat) :=
  (tree, depth) :: tree.children.attach.flatMap fun ⟨child, _⟩ =>
    child.nodesFrom (tree.depthBelow depth)
termination_by sizeOf tree
decreasing_by exact sizeOf_lt_of_mem_children ‹_›

theorem nodesFrom_eq (depth : Nat) (tree : Tree) :
    tree.nodesFrom depth =
      (tree, depth) :: tree.children.flatMap (nodesFrom (tree.depthBelow depth)) := by
  rw [nodesFrom]
  simp

end Tree

/-! ### The visitor -/

/-- Copying: an action that can fail, with a log of the operations reached and their inputs. -/
abbrev Copying := StateT (List (Shape × Nat)) Option

namespace Copying

/-- Notes that an operation has been reached with some depth. -/
def reach (shape : Shape) (depth : Nat) : Copying Unit :=
  modify (· ++ [(shape, depth)])

/-- The result of a visit as a node of some kind: an annotation is made an expression again if that
is the kind. There is none if the result is of another kind. -/
def rewrap? (kind : NodeKind) (result : Tree) : Option Tree :=
  if result.kind = kind then some result
  else
    match kind, result with
    | .annoExpression, .anno item => some (.expression (.anno item))
    | _, _ => none

/-- Visits a node with a depth, and makes of the result a node of the same kind. -/
def copy {α : Type} [Node α] (depth : Nat) (child : Child Nat (Copying Tree) α) : Copying α := do
  let result ← child.accept depth
  liftM (rewrap? (toTree child.node).kind result >>= ofTree?)

/-- The visitor that builds every node again, and visits its children one level further down. -/
def copier : Visitor Nat (Copying Tree) where
  wildcard upper lower depth := do
    reach .wildcard depth
    return .type (.wildcard (← upper.mapM (copy (depth + 1))) (← lower.mapM (copy (depth + 1))))
  array element dimensions depth := do
    reach .array depth
    return .type (.array (← copy (depth + 1) element) dimensions)
  primitive kind depth := do
    reach .primitive depth
    return .type (.primitive kind)
  void depth := do
    reach .void depth
    return .type .void
  classType qualifier name arguments depth := do
    reach .classType depth
    return .type (.declared
      ⟨← qualifier.mapM (copy (depth + 1)), name, ← arguments.mapM (copy (depth + 1))⟩)
  literal kind value depth := do
    reach .literal depth
    return .expression (.literal kind value)
  cast type operand depth := do
    reach .cast depth
    return .expression (.cast (← copy (depth + 1) type) (← copy (depth + 1) operand))
  unary operator operand depth := do
    reach .unary depth
    return .expression (.unary operator (← copy (depth + 1) operand))
  binary operator left right depth := do
    reach .binary depth
    return .expression (.binary operator (← copy (depth + 1) left) (← copy (depth + 1) right))
  reference name depth := do
    reach .reference depth
    return .expression (.reference name)
  classLiteral type depth := do
    reach .classLiteral depth
    return .expression (.classLiteral (← copy (depth + 1) type))
  assign name value depth := do
    reach .assign depth
    return .expression (.assign name (← copy (depth + 1) value))
  conditional condition whenTrue whenFalse depth := do
    reach .conditional depth
    return .expression (.conditional (← copy (depth + 1) condition)
      (← copy (depth + 1) whenTrue) (← copy (depth + 1) whenFalse))
  arrayInit elements depth := do
    reach .arrayInit depth
    return .expression (.arrayInit (← elements.mapM (copy (depth + 1))))
  compilationUnit package imports types file depth := do
    reach .compilationUnit depth
    return .compilationUnit ⟨← package.mapM (copy (depth + 1)), ← imports.mapM (copy (depth + 1)),
      ← types.mapM (copy (depth + 1)), file⟩
  importDecl name isStatic depth := do
    reach .importDecl depth
    return .importDecl ⟨name, isStatic⟩
  variableDecl modifiers annos type name init depth := do
    reach .variableDecl depth
    return .variableDecl ⟨modifiers, ← annos.mapM (copy (depth + 1)), ← copy (depth + 1) type, name,
      ← init.mapM (copy (depth + 1))⟩
  methodDecl modifiers annos typeParameters result name parameters exceptions defaultValue
      depth := do
    reach .methodDecl depth
    return .methodDecl ⟨modifiers, ← annos.mapM (copy (depth + 1)),
      ← typeParameters.mapM (copy (depth + 1)), ← result.mapM (copy (depth + 1)), name,
      ← parameters.mapM (copy (depth + 1)), ← exceptions.mapM (copy (depth + 1)),
      ← defaultValue.mapM (copy (depth + 1))⟩
  anno name arguments depth := do
    reach .anno depth
    return .anno ⟨name, ← arguments.mapM (copy (depth + 1))⟩
  typeDecl modifiers annos name typeParameters superclass interfaces members kind depth := do
    reach .typeDecl depth
    return .typeDecl ⟨modifiers, ← annos.mapM (copy (depth + 1)), name,
      ← typeParameters.mapM (copy (depth + 1)), ← superclass.mapM (copy (depth + 1)),
      ← interfaces.mapM (copy (depth + 1)), ← members.mapM (copy (depth + 1)), kind⟩
  typeParameter name bounds depth := do
    reach .typeParameter depth
    return .typeParameter ⟨name, ← bounds.mapM (copy (depth + 1))⟩
  packageDecl name depth := do
    reach .packageDecl depth
    return .packageDecl ⟨name⟩

/-! ### What a visit yields -/

variable {α β : Type}

/-- Whether a visit has a result, and reaches operations one after the other. -/
def Yields (visit : Copying α) (result : α) (calls : List (Shape × Nat)) : Prop :=
  ∀ log, visit.run log = some (result, log ++ calls)

theorem yields_pure (result : α) : Yields (pure result) result [] := by
  intro log
  rw [StateT.run_pure, List.append_nil]
  rfl

theorem yields_reach (shape : Shape) (depth : Nat) :
    Yields (reach shape depth) () [(shape, depth)] :=
  fun _ => rfl

theorem yields_liftM {value : Option α} {result : α} (there : value = some result) :
    Yields (liftM value) result [] := by
  intro log
  rw [there, List.append_nil]
  rfl

theorem Yields.bind {visit : Copying α} {next : α → Copying β} {first : α} {second : β}
    {calls more : List (Shape × Nat)} (start : Yields visit first calls)
    (rest : Yields (next first) second more) : Yields (visit >>= next) second (calls ++ more) := by
  intro log
  rw [StateT.run_bind, start log]
  exact (rest (log ++ calls)).trans (by rw [List.append_assoc])

theorem Yields.bind_pure {visit : Copying α} {build : α → β} {result : α}
    {calls : List (Shape × Nat)} (yields : Yields visit result calls) :
    Yields (do return build (← visit)) (build result) calls := by
  rw [← List.append_nil calls]
  exact yields.bind (yields_pure (build result))

/-- What follows an operation that has been reached. -/
theorem Yields.reached {shape : Shape} {depth : Nat} {rest : Copying α} {result : α}
    {calls : List (Shape × Nat)} (yields : Yields rest result calls) :
    Yields (do reach shape depth; rest) result ((shape, depth) :: calls) :=
  (yields_reach shape depth).bind yields

end Copying

/-! ### Operations of a tree -/

namespace Tree

/-- The node that stands for a node in visits: for an annotation that stands as an expression, the
annotation. -/
def unwrapped : Tree → Tree
  | .expression (.anno item) => .anno item
  | tree => tree

/-- The operation that a visit of a node reaches, with its depth. A wrapper has none of its own. -/
def call? (node : Tree) (depth : Nat) : Option (Shape × Nat) :=
  if node.isWrapper then none else some (node.kind.shape, depth)

/-- The operations that a visit of all nodes reaches. -/
def calls (depth : Nat) (tree : Tree) : List (Shape × Nat) :=
  (tree.nodesFrom depth).filterMap fun entry => entry.1.call? entry.2

theorem calls_eq (depth : Nat) (tree : Tree) :
    tree.calls depth =
      (tree.call? depth).toList ++ tree.children.flatMap (calls (tree.depthBelow depth)) := by
  rw [calls, nodesFrom_eq, List.filterMap_cons, List.filterMap_flatMap]
  dsimp only
  cases tree.call? depth <;> rfl

theorem calls_of_not_wrapper {tree : Tree} (plain : tree.isWrapper = false) (depth : Nat) :
    tree.calls depth = (tree.kind.shape, depth) :: tree.children.flatMap (calls (depth + 1)) := by
  rw [calls_eq, depthBelow, call?, plain]
  rfl

end Tree

/-! ### Copies of children and of nodes -/

namespace Copying

theorem rewrap?_unwrapped (tree : Tree) : rewrap? tree.kind tree.unwrapped = some tree := by
  cases tree with
  | expression expr =>
    cases expr with
    | anno => rfl
    | _ => exact if_pos rfl
  | _ => exact if_pos rfl

/-- Whether visiting a tree with any depth copies it and reaches the operations of its nodes. -/
def Copies (tree : Tree) : Prop :=
  ∀ depth, Yields (tree.accept copier depth) tree.unwrapped (tree.calls depth)

section

variable {α : Type} [Node α]

theorem yields_copy {item : α} (copies : Copies (toTree item)) (depth : Nat) :
    Yields (copy depth (child copier item)) item ((toTree item).calls depth) := by
  -- A visit yields the node unwrapped, and the kind of the child tells whether to wrap it again.
  have found : (rewrap? (toTree item).kind (toTree item).unwrapped >>= ofTree?) = some item := by
    rw [rewrap?_unwrapped]
    exact ofTree?_toTree item
  rw [← List.append_nil ((toTree item).calls depth)]
  exact (copies depth).bind (yields_liftM found)

theorem yields_mapM_copy {items : List α} (copies : ∀ tree ∈ items.map toTree, Copies tree)
    (depth : Nat) :
    Yields ((items.map (child copier)).mapM (copy depth)) items
      ((items.map toTree).flatMap (Tree.calls depth)) := by
  induction items with
  | nil => exact yields_pure []
  | cons item rest ih =>
    obtain ⟨first, others⟩ := List.forall_mem_cons.mp copies
    rw [List.map_cons, List.mapM_cons, List.map_cons, List.flatMap_cons]
    exact (yields_copy first depth).bind (ih others).bind_pure

theorem yields_option_mapM_copy {item : Option α}
    (copies : ∀ tree ∈ item.toList.map toTree, Copies tree) (depth : Nat) :
    Yields ((item.map (child copier)).mapM (copy depth)) item
      ((item.toList.map toTree).flatMap (Tree.calls depth)) := by
  cases item with
  | none => exact yields_pure none
  | some item =>
    have first := yields_copy (copies _ (List.mem_singleton_self _)) depth
    rw [Option.map_some, Option.mapM_some, Option.toList_some, List.map_singleton,
      List.flatMap_singleton]
    exact first.bind_pure

end

theorem copies_type_of_children (typeUse : TypeUse)
    (below : ∀ child ∈ typeUse.children, Copies child) : Copies (.type typeUse) := by
  intro depth
  rw [Tree.calls_of_not_wrapper rfl]
  cases typeUse with
  | primitive | void => exact .reached (yields_pure _)
  | array element dimensions =>
    obtain ⟨element, -⟩ := List.forall_mem_cons.mp below
    simp only [Tree.children, TypeUse.children, List.flatMap_singleton]
    exact .reached <| .bind_pure (yields_copy element _)
  | wildcard upper lower =>
    obtain ⟨above, below⟩ := List.forall_mem_append.mp below
    simp only [Tree.children, TypeUse.children, List.flatMap_append, Tree.accept_wildcard]
    exact .reached <| .bind (yields_option_mapM_copy above _) <|
      .bind_pure (yields_option_mapM_copy below _)
  | declared declared =>
    obtain ⟨qualifier, name, arguments⟩ := declared
    obtain ⟨outer, inner⟩ := List.forall_mem_append.mp below
    simp only [Tree.children, TypeUse.children, List.flatMap_append, Tree.accept_declared]
    exact .reached <| .bind (yields_option_mapM_copy outer _) <|
      .bind_pure (yields_mapM_copy inner _)

theorem copies_expression_of_children (expr : Expression)
    (below : ∀ child ∈ expr.children, Copies child) : Copies (.expression expr) := by
  intro depth
  cases expr with
  | anno item =>
    -- The wrapper is visited as its annotation is, and with the same depth.
    rw [Tree.calls_eq]
    simp only [Tree.children, Expression.children, List.flatMap_singleton]
    exact below _ (List.mem_singleton_self _) depth
  | literal | reference =>
    rw [Tree.calls_of_not_wrapper rfl]
    exact .reached (yields_pure _)
  | arrayInit elements =>
    rw [Tree.calls_of_not_wrapper rfl, Tree.accept_arrayInit]
    exact .reached <| .bind_pure (yields_mapM_copy below _)
  | unary operator operand =>
    rw [Tree.calls_of_not_wrapper rfl]
    obtain ⟨operand, -⟩ := List.forall_mem_cons.mp below
    simp only [Tree.children, Expression.children, List.flatMap_singleton]
    exact .reached <| .bind_pure (yields_copy operand _)
  | assign name value =>
    rw [Tree.calls_of_not_wrapper rfl]
    obtain ⟨value, -⟩ := List.forall_mem_cons.mp below
    simp only [Tree.children, Expression.children, List.flatMap_singleton]
    exact .reached <| .bind_pure (yields_copy value _)
  | classLiteral type =>
    rw [Tree.calls_of_not_wrapper rfl]
    obtain ⟨type, -⟩ := List.forall_mem_cons.mp below
    simp only [Tree.children, Expression.children, List.flatMap_singleton]
    exact .reached <| .bind_pure (yields_copy type _)
  | cast type operand =>
    rw [Tree.calls_of_not_wrapper rfl]
    simp only [Expression.children, List.forall_mem_cons] at below
    obtain ⟨type, operand, -⟩ := below
    simp only [Tree.children, Expression.children, List.flatMap_cons, List.flatMap_nil,
      List.append_nil]
    exact .reached <| .bind (yields_copy type _) <| .bind_pure (yields_copy operand _)
  | binary operator left right =>
    rw [Tree.calls_of_not_wrapper rfl]
    simp only [Expression.children, List.forall_mem_cons] at below
    obtain ⟨left, right, -⟩ := below
    simp only [Tree.children, Expression.children, List.flatMap_cons, List.flatMap_nil,
      List.append_nil]
    exact .reached <| .bind (yields_copy left _) <| .bind_pure (yields_copy right _)
  | conditional condition whenTrue whenFalse =>
    rw [Tree.calls_of_not_wrapper rfl]
    simp only [Expression.children, List.forall_mem_cons] at below
    obtain ⟨condition, whenTrue, whenFalse, -⟩ := below
    simp only [Tree.children, Expression.children, List.flatMap_cons, List.flatMap_nil,
      List.append_nil]
    exact .reached <| .bind (yields_copy condition _) <| .bind (yields_copy whenTrue _) <|
      .bind_pure (yields_copy whenFalse _)

/-- A node is copied if its children are. -/
theorem copies_of_children (tree : Tree) (below : ∀ child ∈ tree.children, Copies child) :
    Copies tree := by
  intro depth
  cases tree with
  | type typeUse => exact copies_type_of_children typeUse below depth
  | expression expr => exact copies_expression_of_children expr below depth
  | compilationUnit unit =>
    obtain ⟨package, imports, types, file⟩ := unit
    simp only [Tree.children, List.forall_mem_append] at below
    obtain ⟨⟨package, imports⟩, types⟩ := below
    rw [Tree.calls_of_not_wrapper rfl]
    simp only [Tree.children, List.flatMap_append, List.append_assoc, Tree.accept_compilationUnit]
    exact .reached <| .bind (yields_option_mapM_copy package _) <|
      .bind (yields_mapM_copy imports _) <| .bind_pure (yields_mapM_copy types _)
  | importDecl | packageDecl =>
    rw [Tree.calls_of_not_wrapper rfl]
    exact .reached (yields_pure _)
  | variableDecl decl =>
    simp only [Tree.children, List.forall_mem_append, List.forall_mem_cons] at below
    obtain ⟨annos, type, init⟩ := below
    rw [Tree.calls_of_not_wrapper rfl]
    simp only [Tree.children, List.flatMap_append, List.flatMap_cons]
    exact .reached <| .bind (yields_mapM_copy annos _) <| .bind (yields_copy type _) <|
      .bind_pure (yields_option_mapM_copy init _)
  | methodDecl decl =>
    simp only [Tree.children, List.forall_mem_append] at below
    obtain ⟨⟨⟨⟨⟨annos, typeParameters⟩, result⟩, parameters⟩, exceptions⟩, defaultValue⟩ := below
    rw [Tree.calls_of_not_wrapper rfl]
    simp only [Tree.children, List.flatMap_append, List.append_assoc]
    exact .reached <| .bind (yields_mapM_copy annos _) <|
      .bind (yields_mapM_copy typeParameters _) <| .bind (yields_option_mapM_copy result _) <|
      .bind (yields_mapM_copy parameters _) <| .bind (yields_mapM_copy exceptions _) <|
      .bind_pure (yields_option_mapM_copy defaultValue _)
  | anno item =>
    obtain ⟨name, arguments⟩ := item
    rw [Tree.calls_of_not_wrapper rfl, Tree.accept_anno]
    exact .reached <| .bind_pure (yields_mapM_copy below _)
  | typeDecl decl =>
    obtain ⟨modifiers, annos, name, typeParameters, superclass, interfaces, members, kind⟩ := decl
    simp only [Tree.children, List.forall_mem_append] at below
    obtain ⟨⟨⟨⟨annos, typeParameters⟩, superclass⟩, interfaces⟩, inner⟩ := below
    -- Members are trees already, so they are not listed as the trees of something else.
    have trees : members.map toTree = members := List.map_id members
    rw [← trees] at inner
    have body := yields_mapM_copy inner (depth + 1)
    rw [trees] at body
    rw [Tree.calls_of_not_wrapper rfl]
    simp only [Tree.children, List.flatMap_append, List.append_assoc, Tree.accept_typeDecl]
    exact .reached <| .bind (yields_mapM_copy annos _) <|
      .bind (yields_mapM_copy typeParameters _) <| .bind (yields_option_mapM_copy superclass _) <|
      .bind (yields_mapM_copy interfaces _) <| .bind_pure body
  | typeParameter parameter =>
    rw [Tree.calls_of_not_wrapper rfl]
    exact .reached <| .bind_pure (yields_mapM_copy below _)

theorem copies (tree : Tree) : Copies tree := by
  induction tree using Tree.induction with
  | step tree below => exact copies_of_children tree below

end Copying

namespace Tree

/-! ### Operations and nodes -/

theorem depthBelow_add (tree : Tree) (depth level : Nat) :
    tree.depthBelow (depth + level) = depth + tree.depthBelow level := by
  rw [depthBelow, depthBelow]
  split
  · rfl
  · rw [Nat.add_assoc]

/-- Depths count from that of the root. -/
theorem nodesFrom_add (tree : Tree) (depth level : Nat) :
    tree.nodesFrom (depth + level) =
      (tree.nodesFrom level).map fun entry => (entry.1, depth + entry.2) := by
  -- The level is general because children are at another one than their parent.
  induction tree using induction generalizing level with
  | step tree ih =>
    rw [nodesFrom_eq, nodesFrom_eq level, List.map_cons, List.map_flatMap, depthBelow_add]
    exact congrArg _ (List.flatMap_congr fun child member => ih child member _)

theorem map_fst_nodesFrom (tree : Tree) (depth : Nat) :
    (tree.nodesFrom depth).map Prod.fst = tree.nodes := by
  induction tree using induction generalizing depth with
  | step tree ih =>
    rw [nodesFrom_eq, nodes_eq, List.map_cons, List.map_flatMap]
    exact congrArg _ (List.flatMap_congr fun child member => ih child member _)

theorem calls_eq_filterMap (tree : Tree) (depth : Nat) :
    tree.calls depth =
      (tree.nodesFrom 0).filterMap fun entry => entry.1.call? (depth + entry.2) := by
  rw [calls, ← Nat.add_zero depth, nodesFrom_add, List.filterMap_map]
  rfl

/-- There is one operation for each node that is no wrapper. -/
theorem length_calls (tree : Tree) (depth : Nat) :
    (tree.calls depth).length + tree.nodes.countP isWrapper = tree.nodes.length := by
  -- Each node has an operation of its own or is a wrapper.
  have calls : (tree.calls depth).length = tree.nodes.countP fun node => !node.isWrapper := by
    rw [Tree.calls, List.length_filterMap_eq_countP, ← map_fst_nodesFrom tree depth,
      List.countP_map]
    refine List.countP_congr fun entry _ => ?_
    rw [call?, Function.comp_apply]
    cases entry.1.isWrapper <;> simp
  rw [calls, Nat.add_comm]
  simpa using (List.length_eq_countP_add_countP isWrapper).symm

/-- Copying any tree, with any depth for its root, gives back the tree. It calls one operation for
each node that is no annotation expression, that of the node's shape, in the order of the nodes; its
input is the depth of the node, counted from that of the root. -/
theorem copy_complete (tree : Tree) (depth : Nat) :
    ∃ calls,
      (Copying.copy depth (Node.child Copying.copier tree)).run [] = some (tree, calls) ∧
      calls = ((tree.nodesFrom 0).filterMap fun entry => entry.1.call? (depth + entry.2)) ∧
      (tree.nodesFrom 0).map Prod.fst = tree.nodes ∧
      calls.length + tree.nodes.countP isWrapper = tree.nodes.length := by
  refine ⟨tree.calls depth, ?_, tree.calls_eq_filterMap depth, tree.map_fst_nodesFrom 0,
    tree.length_calls depth⟩
  exact Copying.yields_copy (Copying.copies tree) depth []

end Tree

end ClassHeader
