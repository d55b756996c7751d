import ClassHeader.Proofs.Constant.Text
import ClassHeader.Proofs.Text.Lines
import ClassHeader.Proofs.Tree.Pieces

/-!
# Names in trees

The names that stand in a node, its own and those of everything in it. Where they have no newline,
a type, an expression or a variable is printed without one: keywords and symbols have none, and a
constant is printed in visible ASCII, whatever text it holds.
-/

namespace ClassHeader

/-! ### The names -/

mutual

def TypeUse.names : TypeUse → List String
  | .wildcard upper lower => TypeUse.optionNames upper ++ TypeUse.optionNames lower
  | .array element _ => element.names
  | .primitive _ => []
  | .void => []
  | .declared type => type.names

def ClassType.names : ClassType → List String
  | ⟨qualifier, name, arguments⟩ =>
    ClassType.optionNames qualifier ++ name :: TypeUse.listNames arguments

def TypeUse.optionNames : Option TypeUse → List String
  | none => []
  | some type => type.names

def ClassType.optionNames : Option ClassType → List String
  | none => []
  | some type => type.names

def TypeUse.listNames : List TypeUse → List String
  | [] => []
  | type :: rest => type.names ++ TypeUse.listNames rest

end

mutual

def Expression.names : Expression → List String
  | .literal _ _ => []
  | .cast type operand => type.names ++ operand.names
  | .unary _ operand => operand.names
  | .binary _ left right => left.names ++ right.names
  | .reference name => name
  | .classLiteral type => type.names
  | .assign name value => name :: value.names
  | .conditional condition whenTrue whenFalse =>
    condition.names ++ whenTrue.names ++ whenFalse.names
  | .arrayInit elements => Expression.listNames elements
  | .anno anno => anno.names

def Anno.names : Anno → List String
  | ⟨name, arguments⟩ => name ++ Expression.listNames arguments

def Expression.listNames : List Expression → List String
  | [] => []
  | item :: rest => item.names ++ Expression.listNames rest

end

def TypeParameter.names (parameter : TypeParameter) : List String :=
  parameter.name :: parameter.bounds.flatMap TypeUse.names

def VariableDecl.names (decl : VariableDecl) : List String :=
  decl.annos.flatMap Anno.names ++ decl.type.names ++
    decl.name :: decl.init.toList.flatMap Expression.names

def MethodDecl.names (decl : MethodDecl) : List String :=
  decl.annos.flatMap Anno.names ++ decl.typeParameters.flatMap TypeParameter.names ++
    decl.result.toList.flatMap TypeUse.names ++ decl.name ::
      (decl.parameters.flatMap VariableDecl.names ++ decl.exceptions.flatMap ClassType.names ++
        decl.defaultValue.toList.flatMap Expression.names)

mutual

def TypeDecl.names : TypeDecl → List String
  | ⟨_, annos, name, typeParameters, superclass, interfaces, members, _⟩ =>
    annos.flatMap Anno.names ++ name :: (typeParameters.flatMap TypeParameter.names ++
      superclass.toList.flatMap ClassType.names ++ interfaces.flatMap ClassType.names ++
        Tree.listNames members)

def TypeDecl.listNames : List TypeDecl → List String
  | [] => []
  | decl :: rest => decl.names ++ TypeDecl.listNames rest

def CompilationUnit.names : CompilationUnit → List String
  | ⟨package, imports, types, _⟩ =>
    package.toList.flatMap PackageDecl.name ++ imports.flatMap ImportDecl.name ++
      TypeDecl.listNames types

def Tree.names : Tree → List String
  | .type typeUse => typeUse.names
  | .expression expr => expr.names
  | .compilationUnit unit => unit.names
  | .importDecl decl => decl.name
  | .variableDecl decl => decl.names
  | .methodDecl decl => decl.names
  | .anno anno => anno.names
  | .typeDecl decl => decl.names
  | .typeParameter parameter => parameter.names
  | .packageDecl decl => decl.name

def Tree.listNames : List Tree → List String
  | [] => []
  | member :: rest => member.names ++ Tree.listNames rest

end

theorem Tree.listNames_eq (members : List Tree) :
    Tree.listNames members = members.flatMap Tree.names := by
  induction members with
  | nil => rw [Tree.listNames, List.flatMap_nil]
  | cons member rest ih => rw [Tree.listNames, List.flatMap_cons, ih]

/-! ### Pieces without a newline -/

/-- Whether no newline is in the text of any of the pieces. -/
def Piece.Unbroken (pieces : List Piece) : Prop :=
  Lines.Unbroken (pieces.map Piece.text)

namespace Piece.Unbroken

@[simp] theorem nil : Unbroken [] := nofun

@[simp] theorem cons_iff {first : Piece} {rest : List Piece} :
    Unbroken (first :: rest) ↔ '\n' ∉ first.text.toList ∧ Unbroken rest :=
  Lines.Unbroken.cons_iff

@[simp] theorem append_iff {left right : List Piece} :
    Unbroken (left ++ right) ↔ Unbroken left ∧ Unbroken right := by
  rw [Unbroken, List.map_append, Lines.Unbroken.append_iff, Unbroken, Unbroken]

/-! Lists of items whose pieces are unbroken as far as their names are. -/

section

variable {α : Type} {pieces : α → List Piece} {names : α → List String}
  (ofItem : ∀ item, Lines.Unbroken (names item) → Unbroken (pieces item))
include ofItem

theorem each {before : String} (ofBefore : '\n' ∉ before.toList) {items : List α}
    (unbroken : Lines.Unbroken (items.flatMap names)) :
    Unbroken (Piece.each before pieces items) := by
  induction items with
  | nil => exact nil
  | cons item rest ih =>
    rw [List.flatMap_cons, Lines.Unbroken.append_iff] at unbroken
    rw [Piece.each, List.flatMap_cons, List.cons_append, cons_iff, append_iff]
    exact ⟨ofBefore, ofItem item unbroken.1, ih unbroken.2⟩

theorem joined {separator : String} (ofSeparator : '\n' ∉ separator.toList) {items : List α}
    (unbroken : Lines.Unbroken (items.flatMap names)) :
    Unbroken (Piece.joined separator pieces items) := by
  cases items with
  | nil => exact nil
  | cons item rest =>
    rw [List.flatMap_cons, Lines.Unbroken.append_iff] at unbroken
    rw [Piece.joined, append_iff]
    exact ⟨ofItem item unbroken.1, each ofItem ofSeparator unbroken.2⟩

theorem spaced {items : List α} (unbroken : Lines.Unbroken (items.flatMap names)) :
    Unbroken (Piece.spaced pieces items) := by
  induction items with
  | nil => exact nil
  | cons item rest ih =>
    rw [List.flatMap_cons, Lines.Unbroken.append_iff] at unbroken
    rw [Piece.spaced, List.flatMap_cons, append_iff, append_iff]
    exact ⟨⟨ofItem item unbroken.1, by simp [Piece.text]⟩, ih unbroken.2⟩

theorem optional {before : String} (ofBefore : '\n' ∉ before.toList) {item : Option α}
    (unbroken : Lines.Unbroken (item.toList.flatMap names)) :
    Unbroken (Piece.optional before pieces item) := by
  cases item with
  | none => exact nil
  | some item =>
    rw [Option.toList_some, List.flatMap_singleton] at unbroken
    exact cons_iff.mpr ⟨ofBefore, ofItem item unbroken⟩

end

end Piece.Unbroken

/-! Texts of parts. -/

theorem QualifiedName.newline_not_mem_text {name : QualifiedName} (unbroken : Lines.Unbroken name) :
    '\n' ∉ name.text.toList := by
  intro newline
  rw [QualifiedName.toList_text] at newline
  rcases mem_intercalate newline with dot | ⟨segment, isSegment, inSegment⟩
  · exact absurd dot (by decide)
  · obtain ⟨part, isPart, rfl⟩ := List.mem_map.mp isSegment
    exact unbroken part isPart inSegment

@[simp] theorem ConstantKind.newline_not_mem_keyword (kind : ConstantKind) :
    '\n' ∉ kind.keyword.toList := by
  cases kind <;> decide

@[simp] theorem Operator.newline_not_mem_symbol (operator : Operator) :
    '\n' ∉ operator.symbol.toList := by
  cases operator <;> decide

@[simp] theorem Modifier.newline_not_mem_keyword (modifier : Modifier) :
    '\n' ∉ modifier.keyword.toList := by
  cases modifier <;> decide

@[simp] theorem Constant.newline_not_mem_text (value : Constant) : '\n' ∉ value.text.toList :=
  value.isVisibleText_text.newline_not_mem

@[simp] theorem Printer.newline_not_mem_brackets (dimensions : Nat) :
    '\n' ∉ (Printer.brackets dimensions).toList := by
  rw [Printer.brackets, String.toList_ofList]
  intro newline
  obtain ⟨pair, isPair, inPair⟩ := List.mem_flatten.mp newline
  rw [List.eq_of_mem_replicate isPair] at inPair
  exact absurd inPair (by decide)

/-! ### Types -/

mutual

theorem TypeUse.unbroken_pieces : (type : TypeUse) → Lines.Unbroken type.names →
    Piece.Unbroken type.pieces
  | .wildcard upper lower, unbroken => by
    rw [TypeUse.names, Lines.Unbroken.append_iff] at unbroken
    simp [TypeUse.pieces, Piece.text, TypeUse.unbroken_boundPieces, unbroken]
  | .array element dimensions, unbroken => by
    rw [TypeUse.names] at unbroken
    simp [TypeUse.pieces, Piece.text, TypeUse.unbroken_pieces element unbroken]
  | .primitive kind, _ => by
    simp [TypeUse.pieces, Piece.text]
  | .void, _ => by
    simp [TypeUse.pieces, Piece.text]
  | .declared type, unbroken => by
    rw [TypeUse.names] at unbroken
    rw [TypeUse.pieces]
    exact ClassType.unbroken_pieces type unbroken

theorem TypeUse.unbroken_boundPieces : (bound : Option TypeUse) → {word : String} →
    '\n' ∉ word.toList → Lines.Unbroken (TypeUse.optionNames bound) →
    Piece.Unbroken (TypeUse.boundPieces word bound)
  | none, _, _, _ => Piece.Unbroken.nil
  | some type, _, ofWord, unbroken => by
    rw [TypeUse.optionNames] at unbroken
    rw [TypeUse.boundPieces, Piece.Unbroken.cons_iff]
    exact ⟨ofWord, TypeUse.unbroken_pieces type unbroken⟩

theorem ClassType.unbroken_pieces : (type : ClassType) → Lines.Unbroken type.names →
    Piece.Unbroken type.pieces
  | ⟨qualifier, name, []⟩, unbroken => by
    rw [ClassType.names, Lines.Unbroken.append_iff, Lines.Unbroken.cons_iff] at unbroken
    simp [ClassType.pieces, Piece.text, ClassType.unbroken_qualifierPieces, unbroken]
  | ⟨qualifier, name, first :: rest⟩, unbroken => by
    rw [ClassType.names, TypeUse.listNames, Lines.Unbroken.append_iff, Lines.Unbroken.cons_iff,
      Lines.Unbroken.append_iff] at unbroken
    simp [ClassType.pieces, Piece.text, ClassType.unbroken_qualifierPieces,
      TypeUse.unbroken_pieces, TypeUse.unbroken_listPieces, unbroken]

theorem ClassType.unbroken_qualifierPieces : (qualifier : Option ClassType) →
    Lines.Unbroken (ClassType.optionNames qualifier) →
    Piece.Unbroken (ClassType.qualifierPieces qualifier)
  | none, _ => Piece.Unbroken.nil
  | some type, unbroken => by
    rw [ClassType.optionNames] at unbroken
    simp [ClassType.qualifierPieces, Piece.text, ClassType.unbroken_pieces type unbroken]

theorem TypeUse.unbroken_listPieces : (types : List TypeUse) →
    Lines.Unbroken (TypeUse.listNames types) → Piece.Unbroken (TypeUse.listPieces ", " types)
  | [], _ => Piece.Unbroken.nil
  | type :: rest, unbroken => by
    rw [TypeUse.listNames, Lines.Unbroken.append_iff] at unbroken
    simp [TypeUse.listPieces, Piece.text, TypeUse.unbroken_pieces type,
      TypeUse.unbroken_listPieces rest, unbroken]

end

/-! ### Expressions -/

mutual

theorem Expression.unbroken_pieces : (expr : Expression) → Lines.Unbroken expr.names →
    Piece.Unbroken expr.pieces
  | .literal kind value, _ => by
    simp [Expression.pieces, Piece.text]
  | .cast type operand, unbroken => by
    rw [Expression.names, Lines.Unbroken.append_iff] at unbroken
    simp [Expression.pieces, Piece.text, type.unbroken_pieces, Expression.unbroken_pieces operand,
      unbroken]
  | .unary operator operand, unbroken => by
    rw [Expression.names] at unbroken
    rw [Expression.pieces]
    split <;> simp [Piece.text, Expression.unbroken_pieces operand unbroken]
  | .binary operator left right, unbroken => by
    rw [Expression.names, Lines.Unbroken.append_iff] at unbroken
    simp [Expression.pieces, Piece.text, Expression.unbroken_pieces left,
      Expression.unbroken_pieces right, unbroken]
  | .reference name, unbroken => by
    rw [Expression.names] at unbroken
    simp [Expression.pieces, Piece.text, QualifiedName.newline_not_mem_text unbroken]
  | .classLiteral type, unbroken => by
    rw [Expression.names] at unbroken
    simp [Expression.pieces, Piece.text, type.unbroken_pieces unbroken]
  | .assign name value, unbroken => by
    rw [Expression.names, Lines.Unbroken.cons_iff] at unbroken
    simp [Expression.pieces, Piece.text, Expression.unbroken_pieces value, unbroken]
  | .conditional condition whenTrue whenFalse, unbroken => by
    rw [Expression.names, Lines.Unbroken.append_iff, Lines.Unbroken.append_iff] at unbroken
    simp [Expression.pieces, Piece.text, Expression.unbroken_pieces condition,
      Expression.unbroken_pieces whenTrue, Expression.unbroken_pieces whenFalse, unbroken]
  | .arrayInit [], _ => by
    simp [Expression.pieces, Piece.text]
  | .arrayInit (first :: rest), unbroken => by
    rw [Expression.names, Expression.listNames, Lines.Unbroken.append_iff] at unbroken
    simp [Expression.pieces, Piece.text, Expression.unbroken_pieces first,
      Expression.unbroken_listPieces rest, unbroken]
  | .anno anno, unbroken => by
    rw [Expression.names] at unbroken
    rw [Expression.pieces]
    exact Anno.unbroken_pieces anno unbroken

theorem Anno.unbroken_pieces : (anno : Anno) → Lines.Unbroken anno.names →
    Piece.Unbroken anno.pieces
  | ⟨name, []⟩, unbroken => by
    rw [Anno.names, Lines.Unbroken.append_iff] at unbroken
    simp [Anno.pieces, Piece.text, QualifiedName.newline_not_mem_text, unbroken]
  | ⟨name, first :: rest⟩, unbroken => by
    rw [Anno.names, Expression.listNames, Lines.Unbroken.append_iff,
      Lines.Unbroken.append_iff] at unbroken
    simp [Anno.pieces, Piece.text, QualifiedName.newline_not_mem_text,
      Expression.unbroken_pieces first, Expression.unbroken_listPieces rest, unbroken]

theorem Expression.unbroken_listPieces : (items : List Expression) →
    Lines.Unbroken (Expression.listNames items) →
    Piece.Unbroken (Expression.listPieces ", " items)
  | [], _ => Piece.Unbroken.nil
  | item :: rest, unbroken => by
    rw [Expression.listNames, Lines.Unbroken.append_iff] at unbroken
    simp [Expression.listPieces, Piece.text, Expression.unbroken_pieces item,
      Expression.unbroken_listPieces rest, unbroken]

end

/-! ### Declarations -/

theorem unbroken_qualifierPieces {annos : List Anno} (modifiers : Modifiers)
    (unbroken : Lines.Unbroken (annos.flatMap Anno.names)) :
    Piece.Unbroken (qualifierPieces annos modifiers) := by
  have ofModifier (modifier : Modifier) (_ : Lines.Unbroken []) :
      Piece.Unbroken [.plain modifier.keyword] := by
    simp [Piece.text]
  have noNames : Lines.Unbroken (modifiers.toList.flatMap fun _ => []) := by
    rw [List.flatMap_eq_nil_iff.mpr fun _ _ => rfl]
    exact .nil
  rw [qualifierPieces, Piece.Unbroken.append_iff]
  exact ⟨.spaced Anno.unbroken_pieces unbroken, .spaced ofModifier noNames⟩

theorem TypeParameter.unbroken_pieces (parameter : TypeParameter)
    (unbroken : Lines.Unbroken parameter.names) : Piece.Unbroken parameter.pieces := by
  obtain ⟨name, bounds⟩ := parameter
  obtain ⟨ofName, ofBounds⟩ := Lines.Unbroken.cons_iff.mp unbroken
  cases bounds with
  | nil => simpa [TypeParameter.pieces, Piece.text] using ofName
  | cons bound rest =>
    have joined : Piece.Unbroken (Piece.joined " & " TypeUse.pieces (bound :: rest)) :=
      .joined TypeUse.unbroken_pieces (by simp) ofBounds
    simpa [TypeParameter.pieces, Piece.text, joined] using ofName

theorem TypeParameter.unbroken_listPieces {parameters : List TypeParameter} {after : String}
    (ofAfter : '\n' ∉ after.toList)
    (unbroken : Lines.Unbroken (parameters.flatMap TypeParameter.names)) :
    Piece.Unbroken (TypeParameter.listPieces parameters after) := by
  cases parameters with
  | nil => exact .nil
  | cons parameter rest =>
    have joined : Piece.Unbroken (Piece.joined ", " TypeParameter.pieces (parameter :: rest)) :=
      .joined TypeParameter.unbroken_pieces (by simp) unbroken
    simpa [TypeParameter.listPieces, Piece.text, joined] using ofAfter

theorem ClassType.unbroken_listPieces {before : String} (ofBefore : '\n' ∉ before.toList)
    {types : List ClassType} (unbroken : Lines.Unbroken (types.flatMap ClassType.names)) :
    Piece.Unbroken (ClassType.listPieces before types) := by
  cases types with
  | nil => exact .nil
  | cons type rest =>
    have joined : Piece.Unbroken (Piece.joined ", " ClassType.pieces (type :: rest)) :=
      .joined ClassType.unbroken_pieces (by simp) unbroken
    simpa [ClassType.listPieces, Piece.text, joined] using ofBefore

theorem VariableDecl.unbroken_pieces (decl : VariableDecl) (unbroken : Lines.Unbroken decl.names) :
    Piece.Unbroken decl.pieces := by
  rw [VariableDecl.names, Lines.Unbroken.append_iff, Lines.Unbroken.append_iff,
    Lines.Unbroken.cons_iff] at unbroken
  obtain ⟨⟨ofAnnos, ofType⟩, ofName, ofInit⟩ := unbroken
  have init : Piece.Unbroken (Piece.optional " = " Expression.pieces decl.init) :=
    .optional Expression.unbroken_pieces (by simp) ofInit
  simp [VariableDecl.pieces, Piece.text, unbroken_qualifierPieces decl.modifiers ofAnnos,
    decl.type.unbroken_pieces ofType, ofName, init]

end ClassHeader
