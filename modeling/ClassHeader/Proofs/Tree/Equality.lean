import ClassHeader.Proofs.Constant.Equality
import ClassHeader.Proofs.Tree.Literals
import ClassHeader.Tree.Equality

/-!
# Equality of trees

Comparing two trees compares their literals as values and everything else as it is. So two trees are
equal if they become the same once every zero among their literals has lost its sign, unless one of
their literals is a NaN (`Tree.equals_iff`). All laws of the comparison follow from that
(`Tree.equals_laws`): it goes both ways, it can be chained, and a tree is equal to itself unless it
has a NaN. The induction follows the comparison, shape by shape; types have no literals and are
compared as they are.
-/

namespace ClassHeader

/-! ### Lists of fields

Items are compared by a form of theirs, and items that are not proper are equal to nothing. Where
there are no literals, an item is its own form and all items are proper.
-/

section

variable {α β : Type} {equals : α → α → Bool} {form : α → β} {proper : α → Prop}
  (compared : ∀ left right, equals left right = true ↔ form left = form right ∧ proper left)
include compared

theorem optionEquals_iff (left right : Option α) :
    optionEquals equals left right = true ↔
      left.map form = right.map form ∧ ∀ item ∈ left, proper item := by
  cases left <;> cases right <;> simp [optionEquals, compared]

theorem listEquals_iff (lefts rights : List α) :
    listEquals equals lefts rights = true ↔
      lefts.map form = rights.map form ∧ ∀ item ∈ lefts, proper item := by
  induction lefts generalizing rights with
  | nil => cases rights <;> simp [listEquals]
  | cons left lefts ih =>
    cases rights with
    | nil => simp [listEquals]
    | cons right rights =>
      simp only [listEquals, Bool.and_eq_true, compared, ih, List.map_cons, List.cons.injEq,
        List.forall_mem_cons]
      exact and_and_and_comm

end

section

variable {α : Type} {equals : α → α → Bool}
  (compared : ∀ left right, equals left right = true ↔ left = right)
include compared

/-- Here each item is its own form. -/
theorem iff_id_eq_id (left right : α) :
    equals left right = true ↔ id left = id right ∧ True :=
  (compared left right).trans (and_iff_left trivial).symm

theorem optionEquals_iff_eq (left right : Option α) :
    optionEquals equals left right = true ↔ left = right := by
  simpa using optionEquals_iff (iff_id_eq_id compared) left right

theorem listEquals_iff_eq (lefts rights : List α) :
    listEquals equals lefts rights = true ↔ lefts = rights := by
  simpa using listEquals_iff (iff_id_eq_id compared) lefts rights

end

/-! ### Types -/

mutual

theorem TypeUse.equals_iff_eq : (left right : TypeUse) →
    (left.equals right = true ↔ left = right)
  | .wildcard upper lower, right => by
    cases right <;>
      simp [TypeUse.equals, TypeUse.optionEquals_iff_eq upper, TypeUse.optionEquals_iff_eq lower]
  | .array element dimensions, right => by
    cases right <;> simp [TypeUse.equals, TypeUse.equals_iff_eq element]
  | .primitive kind, right => by
    cases right <;> simp [TypeUse.equals]
  | .void, right => by
    cases right <;> simp [TypeUse.equals]
  | .declared type, right => by
    cases right <;> simp [TypeUse.equals, ClassType.equals_iff_eq type]

theorem ClassType.equals_iff_eq : (left right : ClassType) →
    (left.equals right = true ↔ left = right)
  | ⟨qualifier, name, arguments⟩, ⟨qualifier', name', arguments'⟩ => by
    simp [ClassType.equals, ClassType.optionEquals_iff_eq qualifier,
      TypeUse.listEquals_iff_eq arguments, and_assoc]

theorem TypeUse.optionEquals_iff_eq : (left right : Option TypeUse) →
    (TypeUse.optionEquals left right = true ↔ left = right)
  | none, right => by
    cases right <;> simp [TypeUse.optionEquals]
  | some left, right => by
    cases right <;> simp [TypeUse.optionEquals, TypeUse.equals_iff_eq left]

theorem ClassType.optionEquals_iff_eq : (left right : Option ClassType) →
    (ClassType.optionEquals left right = true ↔ left = right)
  | none, right => by
    cases right <;> simp [ClassType.optionEquals]
  | some left, right => by
    cases right <;> simp [ClassType.optionEquals, ClassType.equals_iff_eq left]

theorem TypeUse.listEquals_iff_eq : (lefts rights : List TypeUse) →
    (TypeUse.listEquals lefts rights = true ↔ lefts = rights)
  | [], rights => by
    cases rights <;> simp [TypeUse.listEquals]
  | left :: lefts, rights => by
    cases rights <;>
      simp [TypeUse.listEquals, TypeUse.equals_iff_eq left, TypeUse.listEquals_iff_eq lefts]

end

theorem TypeParameter.equals_iff_eq (left right : TypeParameter) :
    left.equals right = true ↔ left = right := by
  cases left
  cases right
  simp [TypeParameter.equals, listEquals_iff_eq TypeUse.equals_iff_eq]

/-! ### Trees without NaN -/

/-- Whether no literal of a tree is a NaN. -/
def Tree.LacksNaN (tree : Tree) : Prop :=
  ∀ value ∈ tree.literals, value.isNaN = false

theorem Tree.lacksNaN_iff (tree : Tree) :
    tree.LacksNaN ↔
      (∀ value ∈ tree.literal?, value.isNaN = false) ∧ ∀ child ∈ tree.children, child.LacksNaN :=
  forall_mem_literals

theorem Tree.lacksNaN_of_inert {tree : Tree} (inert : ∀ change, tree.mapLiterals change = tree) :
    tree.LacksNaN := by
  rw [LacksNaN, literals_eq_nil inert]
  exact List.forall_mem_nil _

theorem Tree.lacksNaN_type (typeUse : TypeUse) : (type typeUse).LacksNaN :=
  lacksNaN_of_inert fun _ => rfl

theorem Tree.lacksNaN_importDecl (decl : ImportDecl) : (importDecl decl).LacksNaN :=
  lacksNaN_of_inert fun _ => rfl

theorem Tree.lacksNaN_typeParameter (parameter : TypeParameter) :
    (typeParameter parameter).LacksNaN :=
  lacksNaN_of_inert fun _ => rfl

theorem Tree.lacksNaN_packageDecl (decl : PackageDecl) : (packageDecl decl).LacksNaN :=
  lacksNaN_of_inert fun _ => rfl

namespace Tree

theorem lacksNaN_expression (expr : Expression) :
    (expression expr).LacksNaN ↔
      (∀ value ∈ (expression expr).literal?, value.isNaN = false) ∧
        ∀ child ∈ expr.children, child.LacksNaN :=
  lacksNaN_iff _

theorem lacksNaN_anno (item : Anno) :
    (anno item).LacksNaN ↔ ∀ argument ∈ item.arguments, (expression argument).LacksNaN := by
  rw [lacksNaN_iff]
  cases item
  simp [literal?, children]

theorem lacksNaN_variableDecl (decl : VariableDecl) :
    (variableDecl decl).LacksNaN ↔
      (∀ item ∈ decl.annos, (anno item).LacksNaN) ∧
        ∀ item ∈ decl.init, (expression item).LacksNaN := by
  rw [lacksNaN_iff]
  simp [literal?, children, or_imp, forall_and, lacksNaN_type]

theorem lacksNaN_methodDecl (decl : MethodDecl) :
    (methodDecl decl).LacksNaN ↔
      (∀ item ∈ decl.annos, (anno item).LacksNaN) ∧
        (∀ item ∈ decl.parameters, (variableDecl item).LacksNaN) ∧
        ∀ item ∈ decl.defaultValue, (expression item).LacksNaN := by
  rw [lacksNaN_iff]
  simp [literal?, children, or_imp, forall_and, lacksNaN_type, lacksNaN_typeParameter]

theorem lacksNaN_typeDecl (decl : TypeDecl) :
    (typeDecl decl).LacksNaN ↔
      (∀ item ∈ decl.annos, (anno item).LacksNaN) ∧ ∀ item ∈ decl.members, item.LacksNaN := by
  rw [lacksNaN_iff]
  cases decl
  simp [literal?, children, or_imp, forall_and, lacksNaN_type, lacksNaN_typeParameter]

theorem lacksNaN_compilationUnit (unit : CompilationUnit) :
    (compilationUnit unit).LacksNaN ↔ ∀ item ∈ unit.types, (typeDecl item).LacksNaN := by
  rw [lacksNaN_iff]
  cases unit
  simp [literal?, children, or_imp, forall_and, lacksNaN_packageDecl, lacksNaN_importDecl]

end Tree

/-! ### Expressions -/

mutual

theorem Expression.equals_iff : (left right : Expression) →
    (left.equals right = true ↔
      left.mapLiterals Constant.withoutZeroSign = right.mapLiterals Constant.withoutZeroSign ∧
        (Tree.expression left).LacksNaN)
  | .literal kind value, right => by
    rw [Tree.lacksNaN_expression]
    cases right <;>
      simp [Expression.equals, Expression.mapLiterals, Expression.children, Tree.literal?,
        Constant.equals_iff, and_assoc]
  | .cast type operand, right => by
    rw [Tree.lacksNaN_expression]
    cases right <;>
      simp [Expression.equals, Expression.mapLiterals, Expression.children, Tree.literal?,
        TypeUse.equals_iff_eq, Tree.lacksNaN_type, Expression.equals_iff operand, and_assoc]
  | .unary operator operand, right => by
    rw [Tree.lacksNaN_expression]
    cases right <;>
      simp [Expression.equals, Expression.mapLiterals, Expression.children, Tree.literal?,
        Expression.equals_iff operand, and_assoc]
  | .binary operator left right, other => by
    rw [Tree.lacksNaN_expression]
    cases other <;>
      simp [Expression.equals, Expression.mapLiterals, Expression.children, Tree.literal?,
        Expression.equals_iff left, Expression.equals_iff right]
    tauto
  | .reference name, right => by
    rw [Tree.lacksNaN_expression]
    cases right <;>
      simp [Expression.equals, Expression.mapLiterals, Expression.children, Tree.literal?]
  | .classLiteral type, right => by
    rw [Tree.lacksNaN_expression]
    cases right <;>
      simp [Expression.equals, Expression.mapLiterals, Expression.children, Tree.literal?,
        TypeUse.equals_iff_eq, Tree.lacksNaN_type]
  | .assign name value, right => by
    rw [Tree.lacksNaN_expression]
    cases right <;>
      simp [Expression.equals, Expression.mapLiterals, Expression.children, Tree.literal?,
        Expression.equals_iff value, and_assoc]
  | .conditional condition whenTrue whenFalse, right => by
    rw [Tree.lacksNaN_expression]
    cases right <;>
      simp [Expression.equals, Expression.mapLiterals, Expression.children, Tree.literal?,
        Expression.equals_iff condition, Expression.equals_iff whenTrue,
        Expression.equals_iff whenFalse]
    tauto
  | .arrayInit elements, right => by
    rw [Tree.lacksNaN_expression]
    cases right <;>
      simp [Expression.equals, Expression.mapLiterals, Expression.children, Tree.literal?,
        Expression.listEquals_iff elements]
  | .anno item, right => by
    rw [Tree.lacksNaN_expression]
    cases right <;>
      simp [Expression.equals, Expression.mapLiterals, Expression.children, Tree.literal?,
        Anno.equals_iff item]

theorem Anno.equals_iff : (left right : Anno) →
    (left.equals right = true ↔
      left.mapLiterals Constant.withoutZeroSign = right.mapLiterals Constant.withoutZeroSign ∧
        (Tree.anno left).LacksNaN)
  | ⟨name, arguments⟩, ⟨name', arguments'⟩ => by
    simp [Anno.equals, Anno.mapLiterals, Tree.lacksNaN_anno, Expression.listEquals_iff arguments,
      and_assoc]

theorem Expression.listEquals_iff : (lefts rights : List Expression) →
    (Expression.listEquals lefts rights = true ↔
      Expression.listMapLiterals Constant.withoutZeroSign lefts =
          Expression.listMapLiterals Constant.withoutZeroSign rights ∧
        ∀ item ∈ lefts, (Tree.expression item).LacksNaN)
  | [], rights => by
    cases rights <;> simp [Expression.listEquals, Expression.listMapLiterals]
  | left :: lefts, rights => by
    cases rights with
    | nil => simp [Expression.listEquals, Expression.listMapLiterals]
    | cons right rights =>
      simp only [Expression.listEquals, Expression.listMapLiterals, Bool.and_eq_true,
        Expression.equals_iff left, Expression.listEquals_iff lefts, List.cons.injEq,
        List.forall_mem_cons]
      exact and_and_and_comm

end

/-! ### Declarations -/

theorem VariableDecl.equals_iff (left right : VariableDecl) :
    left.equals right = true ↔
      left.mapLiterals Constant.withoutZeroSign = right.mapLiterals Constant.withoutZeroSign ∧
        (Tree.variableDecl left).LacksNaN := by
  cases left
  cases right
  simp only [VariableDecl.equals, VariableDecl.mapLiterals, VariableDecl.mk.injEq,
    Bool.and_eq_true, beq_iff_eq, listEquals_iff Anno.equals_iff, TypeUse.equals_iff_eq,
    optionEquals_iff Expression.equals_iff, Tree.lacksNaN_variableDecl]
  -- One side goes field by field; the other has all forms first and then all that lacks NaN.
  tauto

theorem MethodDecl.equals_iff (left right : MethodDecl) :
    left.equals right = true ↔
      left.mapLiterals Constant.withoutZeroSign = right.mapLiterals Constant.withoutZeroSign ∧
        (Tree.methodDecl left).LacksNaN := by
  cases left
  cases right
  simp only [MethodDecl.equals, MethodDecl.mapLiterals, MethodDecl.mk.injEq, Bool.and_eq_true,
    beq_iff_eq, listEquals_iff Anno.equals_iff, listEquals_iff_eq TypeParameter.equals_iff_eq,
    optionEquals_iff_eq TypeUse.equals_iff_eq, listEquals_iff VariableDecl.equals_iff,
    listEquals_iff_eq ClassType.equals_iff_eq, optionEquals_iff Expression.equals_iff,
    Tree.lacksNaN_methodDecl]
  tauto

mutual

theorem TypeDecl.equals_iff : (left right : TypeDecl) →
    (left.equals right = true ↔
      left.mapLiterals Constant.withoutZeroSign = right.mapLiterals Constant.withoutZeroSign ∧
        (Tree.typeDecl left).LacksNaN)
  | ⟨modifiers, annos, name, typeParameters, superclass, interfaces, members, kind⟩,
    ⟨modifiers', annos', name', typeParameters', superclass', interfaces', members', kind'⟩ => by
    simp only [TypeDecl.equals, TypeDecl.mapLiterals, TypeDecl.mk.injEq, Bool.and_eq_true,
      beq_iff_eq, listEquals_iff Anno.equals_iff, listEquals_iff_eq TypeParameter.equals_iff_eq,
      optionEquals_iff_eq ClassType.equals_iff_eq, listEquals_iff_eq ClassType.equals_iff_eq,
      Tree.listEquals_iff members, Tree.lacksNaN_typeDecl]
    tauto

theorem CompilationUnit.equals_iff : (left right : CompilationUnit) →
    (left.equals right = true ↔
      left.mapLiterals Constant.withoutZeroSign = right.mapLiterals Constant.withoutZeroSign ∧
        (Tree.compilationUnit left).LacksNaN)
  | ⟨package, imports, types, file⟩, ⟨package', imports', types', file'⟩ => by
    simp only [CompilationUnit.equals, CompilationUnit.mapLiterals, CompilationUnit.mk.injEq,
      Bool.and_eq_true, beq_iff_eq, TypeDecl.listEquals_iff types, Tree.lacksNaN_compilationUnit]
    tauto

theorem TypeDecl.listEquals_iff : (lefts rights : List TypeDecl) →
    (TypeDecl.listEquals lefts rights = true ↔
      TypeDecl.listMapLiterals Constant.withoutZeroSign lefts =
          TypeDecl.listMapLiterals Constant.withoutZeroSign rights ∧
        ∀ item ∈ lefts, (Tree.typeDecl item).LacksNaN)
  | [], rights => by
    cases rights <;> simp [TypeDecl.listEquals, TypeDecl.listMapLiterals]
  | left :: lefts, rights => by
    cases rights with
    | nil => simp [TypeDecl.listEquals, TypeDecl.listMapLiterals]
    | cons right rights =>
      simp only [TypeDecl.listEquals, TypeDecl.listMapLiterals, Bool.and_eq_true,
        TypeDecl.equals_iff left, TypeDecl.listEquals_iff lefts, List.cons.injEq,
        List.forall_mem_cons]
      exact and_and_and_comm

theorem Tree.listEquals_iff : (lefts rights : List Tree) →
    (Tree.listEquals lefts rights = true ↔
      Tree.listMapLiterals Constant.withoutZeroSign lefts =
          Tree.listMapLiterals Constant.withoutZeroSign rights ∧ ∀ item ∈ lefts, item.LacksNaN)
  | [], rights => by
    cases rights <;> simp [Tree.listEquals, Tree.listMapLiterals]
  | left :: lefts, rights => by
    cases rights with
    | nil => simp [Tree.listEquals, Tree.listMapLiterals]
    | cons right rights =>
      simp only [Tree.listEquals, Tree.listMapLiterals, Bool.and_eq_true, Tree.equals_iff left,
        Tree.listEquals_iff lefts, List.cons.injEq, List.forall_mem_cons]
      exact and_and_and_comm

theorem Tree.equals_iff : (left right : Tree) →
    (left.equals right = true ↔
      left.mapLiterals Constant.withoutZeroSign = right.mapLiterals Constant.withoutZeroSign ∧
        left.LacksNaN)
  | .type typeUse, right => by
    cases right <;> simp [Tree.equals, Tree.mapLiterals, TypeUse.equals_iff_eq, Tree.lacksNaN_type]
  | .expression expr, right => by
    cases right <;> simp [Tree.equals, Tree.mapLiterals, Expression.equals_iff]
  | .compilationUnit unit, right => by
    cases right <;> simp [Tree.equals, Tree.mapLiterals, CompilationUnit.equals_iff unit]
  | .importDecl decl, right => by
    cases right <;> simp [Tree.equals, Tree.mapLiterals, Tree.lacksNaN_importDecl]
  | .variableDecl decl, right => by
    cases right <;> simp [Tree.equals, Tree.mapLiterals, VariableDecl.equals_iff]
  | .methodDecl decl, right => by
    cases right <;> simp [Tree.equals, Tree.mapLiterals, MethodDecl.equals_iff]
  | .anno item, right => by
    cases right <;> simp [Tree.equals, Tree.mapLiterals, Anno.equals_iff]
  | .typeDecl decl, right => by
    cases right <;> simp [Tree.equals, Tree.mapLiterals, TypeDecl.equals_iff decl]
  | .typeParameter parameter, right => by
    cases right <;>
      simp [Tree.equals, Tree.mapLiterals, TypeParameter.equals_iff_eq,
        Tree.lacksNaN_typeParameter]
  | .packageDecl decl, right => by
    cases right <;> simp [Tree.equals, Tree.mapLiterals, Tree.lacksNaN_packageDecl]

end

namespace Tree

/-! ### Laws -/

/-- The tree with every literal that is a negative zero made the positive one. -/
def withoutZeroSigns (tree : Tree) : Tree :=
  tree.mapLiterals Constant.withoutZeroSign

/-- What does not depend on the sign of a zero holds of the literals of both trees or of neither, if
the trees are the same up to the signs of zeros. -/
theorem forall_mem_literals_congr {test : Constant → Bool} {left right : Tree}
    (inert : ∀ value : Constant, test value.withoutZeroSign = test value)
    (same : left.withoutZeroSigns = right.withoutZeroSigns) :
    (∀ value ∈ left.literals, test value = false) ↔
      ∀ value ∈ right.literals, test value = false := by
  have unsigned : ∀ tree : Tree, (∀ value ∈ tree.withoutZeroSigns.literals, test value = false) ↔
      ∀ value ∈ tree.literals, test value = false := by
    intro tree
    simp only [withoutZeroSigns, literals_mapLiterals, List.forall_mem_map, inert]
  rw [← unsigned left, same, unsigned right]

theorem equals_comm (left right : Tree) : left.equals right = right.equals left := by
  rw [Bool.eq_iff_iff, equals_iff, equals_iff, eq_comm]
  refine and_congr_right fun same => ?_
  exact forall_mem_literals_congr Constant.isNaN_withoutZeroSign same.symm

theorem equals_trans {first second third : Tree} (start : first.equals second = true)
    (next : second.equals third = true) : first.equals third = true := by
  rw [equals_iff] at start next ⊢
  exact ⟨start.1.trans next.1, start.2⟩

theorem equals_self_iff (tree : Tree) : tree.equals tree = true ↔ tree.LacksNaN := by
  rw [equals_iff]
  exact and_iff_right rfl

/-- Equal trees without zeros are the same. -/
theorem eq_of_equals {left right : Tree} (equal : left.equals right = true)
    (zeroless : ∀ value ∈ left.literals, value.isZero = false) : left = right := by
  have same : left.withoutZeroSigns = right.withoutZeroSigns := ((equals_iff left right).mp equal).1
  have zeroless' : ∀ value ∈ right.literals, value.isZero = false :=
    (forall_mem_literals_congr Constant.isZero_withoutZeroSign same).mp zeroless
  calc
    left = left.withoutZeroSigns := (mapLiterals_eq_self fun value member =>
      Constant.withoutZeroSign_of_not_isZero (zeroless value member)).symm
    _ = right.withoutZeroSigns := same
    _ = right := mapLiterals_eq_self fun value member =>
      Constant.withoutZeroSign_of_not_isZero (zeroless' value member)

/-- Comparing trees goes both ways and can be chained, and a tree is equal to itself exactly if no
literal of it is a NaN. Equal trees are the same up to the signs of the zeros among their literals:
they have the same references to constants, and the same text if none of the literals is a zero. -/
theorem equals_laws :
    (∀ left right : Tree, left.equals right = right.equals left) ∧
      (∀ first second third : Tree, first.equals second = true → second.equals third = true →
        first.equals third = true) ∧
      (∀ tree : Tree, tree.equals tree = true ↔ ∀ value ∈ tree.literals, value.isNaN = false) ∧
      ∀ left right : Tree, left.equals right = true →
        left.withoutZeroSigns = right.withoutZeroSigns ∧ left.references = right.references ∧
          ((∀ value ∈ left.literals, value.isZero = false) → left.text = right.text) := by
  refine ⟨equals_comm, fun _ _ _ => equals_trans, equals_self_iff, ?_⟩
  intro left right equal
  have same : left.withoutZeroSigns = right.withoutZeroSigns := ((equals_iff left right).mp equal).1
  refine ⟨same, ?_, fun zeroless => congrArg text (eq_of_equals equal zeroless)⟩
  calc
    left.references = left.withoutZeroSigns.references := (references_mapLiterals _ left).symm
    _ = right.withoutZeroSigns.references := congrArg references same
    _ = right.references := references_mapLiterals _ right

/-- Two fields whose initial values differ in the sign of a zero, and one without any zero. -/
theorem equals_laws_of_zeros :
    let field (start : Binary .double) : Tree :=
      .variableDecl ⟨.ofList [.final], [], .primitive .double, "x",
        some (.binary .add (.literal .double (.double start)) (.reference ["A", "B"]))⟩
    let positive := field ⟨0⟩
    let negative := field ⟨0x8000000000000000⟩
    let one := field ⟨0x3ff0000000000000⟩
    negative.equals positive = true ∧ positive.equals negative = true ∧
      negative.equals negative = true ∧
      negative.withoutZeroSigns = positive.withoutZeroSigns ∧
      negative.references = positive.references ∧ negative.references = [["A", "B"]] ∧
      one.equals one = true ∧ (∀ value ∈ one.literals, value.isZero = false) ∧
      one.text = one.text := by
  intro field positive negative one
  obtain ⟨-, chained, -, same⟩ := equals_laws
  have there : negative.equals positive = true := by decide
  have back : positive.equals negative = true := by decide
  have self : one.equals one = true := by decide
  have literals : one.literals = [.double ⟨0x3ff0000000000000⟩] := by
    simp [one, field, literals, nodes_eq, children, Expression.children, TypeUse.children]
    rfl
  have zeroless : ∀ value ∈ one.literals, value.isZero = false := by
    rw [literals, List.forall_mem_singleton]
    decide
  obtain ⟨forms, references, -⟩ := same negative positive there
  obtain ⟨-, -, text⟩ := same one one self
  exact ⟨there, back, chained _ _ _ there back, forms, references, rfl, self, zeroless,
    text zeroless⟩

end Tree

end ClassHeader
