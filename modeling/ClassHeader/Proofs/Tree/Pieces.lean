import ClassHeader.Tree.Printer

/-!
# Printing as appending

What a printer prints for a node is a list of pieces that depends on the node and, for declarations
with lines of their own, on the indentation. The printer's state has no other part in it: printing
appends these pieces to the output and leaves the indentation as it is.
-/

namespace ClassHeader

/-! ### Pieces of lists -/

namespace Piece

variable {α : Type}

/-- All items, each after some text. -/
def each (before : String) (pieces : α → List Piece) (items : List α) : List Piece :=
  items.flatMap fun item => .plain before :: pieces item

/-- All items with a separator between them. -/
def joined (separator : String) (pieces : α → List Piece) : List α → List Piece
  | [] => []
  | item :: rest => pieces item ++ each separator pieces rest

/-- All items, each followed by a space. -/
def spaced (pieces : α → List Piece) (items : List α) : List Piece :=
  items.flatMap fun item => pieces item ++ [.plain " "]

/-- An item, if there is one, after some text. -/
def optional (before : String) (pieces : α → List Piece) : Option α → List Piece
  | none => []
  | some item => .plain before :: pieces item

end Piece

/-! ### Types -/

mutual

def TypeUse.pieces : TypeUse → List Piece
  | .wildcard upper lower =>
    .plain "?" :: (TypeUse.boundPieces " extends " upper ++ TypeUse.boundPieces " super " lower)
  | .array element dimensions => element.pieces ++ [.plain (Printer.brackets dimensions.toNat)]
  | .primitive kind => [.plain kind.keyword]
  | .void => [.plain "void"]
  | .declared type => type.pieces

def TypeUse.boundPieces (word : String) : Option TypeUse → List Piece
  | none => []
  | some type => .plain word :: type.pieces

def ClassType.pieces : ClassType → List Piece
  | ⟨qualifier, name, []⟩ => ClassType.qualifierPieces qualifier ++ [.plain name]
  | ⟨qualifier, name, first :: rest⟩ =>
    ClassType.qualifierPieces qualifier ++
      .plain name :: .plain "<" :: (first.pieces ++ (TypeUse.listPieces ", " rest ++ [.plain ">"]))

def ClassType.qualifierPieces : Option ClassType → List Piece
  | none => []
  | some type => type.pieces ++ [.plain "."]

def TypeUse.listPieces (before : String) : List TypeUse → List Piece
  | [] => []
  | type :: rest => .plain before :: (type.pieces ++ TypeUse.listPieces before rest)

end

/-! ### Expressions -/

mutual

def Expression.pieces : Expression → List Piece
  | .literal _ value => [.plain value.text]
  | .cast type operand => .plain "(" :: (type.pieces ++ .plain ") " :: operand.pieces)
  | .unary operator operand =>
    if operator.followsOperand then
      .plain "(" :: (operand.pieces ++ [.plain operator.symbol, .plain ")"])
    else .plain "(" :: .plain operator.symbol :: (operand.pieces ++ [.plain ")"])
  | .binary operator left right =>
    .plain "(" :: (left.pieces ++
      .plain " " :: .plain operator.symbol :: .plain " " :: (right.pieces ++ [.plain ")"]))
  | .reference name => [.reference name]
  | .classLiteral type => type.pieces ++ [.plain ".class"]
  | .assign name value => .plain name :: .plain " = " :: value.pieces
  | .conditional condition whenTrue whenFalse =>
    .plain "(" :: (condition.pieces ++ .plain " ? " :: (whenTrue.pieces ++
      .plain " : " :: (whenFalse.pieces ++ [.plain ")"])))
  | .arrayInit [] => [.plain "\x7b", .plain "\x7d"]
  | .arrayInit (first :: rest) =>
    .plain "\x7b" :: (first.pieces ++ (Expression.listPieces ", " rest ++ [.plain "\x7d"]))
  | .anno anno => anno.pieces

def Anno.pieces : Anno → List Piece
  | ⟨name, []⟩ => [.plain "@", .plain name.text]
  | ⟨name, first :: rest⟩ =>
    .plain "@" :: .plain name.text :: .plain "(" ::
      (first.pieces ++ (Expression.listPieces ", " rest ++ [.plain ")"]))

def Expression.listPieces (before : String) : List Expression → List Piece
  | [] => []
  | item :: rest => .plain before :: (item.pieces ++ Expression.listPieces before rest)

end

/-! ### Declarations -/

/-- The indentation at the start of a line. -/
def Piece.margin (indentation : Nat) : Piece :=
  .plain (String.ofList (List.replicate indentation ' '))

/-- Annotations, then modifiers, each followed by a space. -/
def qualifierPieces (annos : List Anno) (modifiers : Modifiers) : List Piece :=
  Piece.spaced Anno.pieces annos ++
    Piece.spaced (fun modifier => [.plain modifier.keyword]) modifiers.toList

def PackageDecl.pieces (decl : PackageDecl) : List Piece :=
  [.plain "package ", .plain decl.name.text, .plain ";\n"]

def ImportDecl.pieces (decl : ImportDecl) : List Piece :=
  [.plain (if decl.isStatic then "import static " else "import "), .plain decl.name.text,
    .plain ";\n"]

def TypeParameter.pieces (parameter : TypeParameter) : List Piece :=
  match parameter.bounds with
  | [] => [.plain parameter.name]
  | bounds =>
    .plain parameter.name :: .plain " extends " :: Piece.joined " & " TypeUse.pieces bounds

def TypeParameter.listPieces (parameters : List TypeParameter) (after : String) : List Piece :=
  match parameters with
  | [] => []
  | parameters =>
    .plain "<" :: (Piece.joined ", " TypeParameter.pieces parameters ++ [.plain ">", .plain after])

def ClassType.listPieces (before : String) (types : List ClassType) : List Piece :=
  match types with
  | [] => []
  | types => .plain before :: Piece.joined ", " ClassType.pieces types

def VariableDecl.pieces (decl : VariableDecl) : List Piece :=
  qualifierPieces decl.annos decl.modifiers ++ decl.type.pieces ++ [.plain " ", .plain decl.name] ++
    Piece.optional " = " Expression.pieces decl.init

def MethodDecl.pieces (indentation : Nat) (decl : MethodDecl) : List Piece :=
  Piece.margin indentation :: qualifierPieces decl.annos decl.modifiers ++
    TypeParameter.listPieces decl.typeParameters " " ++
    Piece.spaced TypeUse.pieces decl.result.toList ++ [.plain decl.name, .plain "("] ++
    Piece.joined ", " VariableDecl.pieces decl.parameters ++ [.plain ")"] ++
    ClassType.listPieces " throws " decl.exceptions ++
    Piece.optional " default " Expression.pieces decl.defaultValue ++ [.plain ";\n"]

mutual

/-- A type declaration: its header, its members two columns further in, and a closing brace. -/
def TypeDecl.pieces (indentation : Nat) : TypeDecl → List Piece
  | ⟨modifiers, annos, name, typeParameters, superclass, interfaces, members, kind⟩ =>
    Piece.margin indentation :: qualifierPieces annos modifiers ++
      [.plain kind.keyword, .plain " ", .plain name] ++
      TypeParameter.listPieces typeParameters "" ++
      Piece.optional " extends " ClassType.pieces superclass ++
      ClassType.listPieces (Printer.interfacesWord kind) interfaces ++ [.plain " \x7b\n"] ++
      Tree.memberPieces (indentation + 2) members ++ [Piece.margin indentation, .plain "\x7d\n"]

/-- Members of a type declaration. Methods and type declarations have lines of their own. -/
def Tree.memberPieces (indentation : Nat) : List Tree → List Piece
  | [] => []
  | .methodDecl decl :: rest => decl.pieces indentation ++ Tree.memberPieces indentation rest
  | .typeDecl decl :: rest => decl.pieces indentation ++ Tree.memberPieces indentation rest
  | .variableDecl decl :: rest =>
    Piece.margin indentation :: decl.pieces ++ .plain ";\n" :: Tree.memberPieces indentation rest
  | member :: rest =>
    Piece.margin indentation :: member.pieces indentation ++
      .plain "\n" :: Tree.memberPieces indentation rest

def TypeDecl.listPieces (indentation : Nat) : List TypeDecl → List Piece
  | [] => []
  | decl :: rest => decl.pieces indentation ++ TypeDecl.listPieces indentation rest

def CompilationUnit.pieces (indentation : Nat) : CompilationUnit → List Piece
  | ⟨package, imports, types, _⟩ =>
    (match package with
      | none => []
      | some decl => decl.pieces ++ [.plain "\n"]) ++
    (match imports with
      | [] => []
      | imports => Piece.each "" ImportDecl.pieces imports ++ [.plain "\n"]) ++
    TypeDecl.listPieces indentation types

/-- What a printer with this indentation prints for a node. -/
def Tree.pieces (indentation : Nat) : Tree → List Piece
  | .type typeUse => typeUse.pieces
  | .expression expr => expr.pieces
  | .compilationUnit unit => unit.pieces indentation
  | .importDecl decl => decl.pieces
  | .variableDecl decl => decl.pieces
  | .methodDecl decl => decl.pieces indentation
  | .anno anno => anno.pieces
  | .typeDecl decl => decl.pieces indentation
  | .typeParameter parameter => parameter.pieces
  | .packageDecl decl => decl.pieces

end

namespace Printer

/-! ### The printer appends -/

/-- The printer after it has printed some pieces. -/
def append (pieces : List Piece) (printer : Printer) : Printer :=
  ⟨printer.indentation, printer.output ++ pieces.toArray⟩

variable (printer : Printer)

@[simp] theorem append_nil : printer.append [] = printer := by
  simp [append]

@[simp] theorem append_append (first second : List Piece) :
    (printer.append first).append second = printer.append (first ++ second) := by
  simp [append]

@[simp] theorem indentation_append (pieces : List Piece) :
    (printer.append pieces).indentation = printer.indentation := rfl

@[simp] theorem write_eq (text : String) : printer.write text = printer.append [.plain text] := by
  simp [write, append]

@[simp] theorem reference_eq (name : QualifiedName) :
    printer.reference name = printer.append [.reference name] := by
  simp [reference, append]

mutual

theorem typeUse_eq : (type : TypeUse) → (printer : Printer) →
    printer.typeUse type = printer.append type.pieces
  | .wildcard upper lower, printer => by
    simp only [typeUse, TypeUse.pieces, write_eq, bound_eq, append_append, List.cons_append,
      List.nil_append]
  | .array element dimensions, printer => by
    simp only [typeUse, TypeUse.pieces, write_eq, typeUse_eq element, append_append]
  | .primitive kind, printer => by
    rw [typeUse, TypeUse.pieces, write_eq]
  | .void, printer => by
    rw [typeUse, TypeUse.pieces, write_eq]
  | .declared type, printer => by
    rw [typeUse, TypeUse.pieces, classType_eq type]

theorem bound_eq : (bound : Option TypeUse) → (word : String) → (printer : Printer) →
    printer.bound word bound = printer.append (TypeUse.boundPieces word bound)
  | none, word, printer => by
    rw [bound, TypeUse.boundPieces, append_nil]
  | some type, word, printer => by
    simp only [bound, TypeUse.boundPieces, write_eq, typeUse_eq type, append_append,
      List.cons_append, List.nil_append]

theorem classType_eq : (type : ClassType) → (printer : Printer) →
    printer.classType type = printer.append type.pieces
  | ⟨qualifier, name, []⟩, printer => by
    simp only [classType, ClassType.pieces, write_eq, qualifier_eq qualifier, append_append]
  | ⟨qualifier, name, first :: rest⟩, printer => by
    simp only [classType, ClassType.pieces, write_eq, qualifier_eq qualifier, typeUse_eq first,
      typeUses_eq rest, append_append, List.cons_append, List.nil_append, List.append_assoc]

theorem qualifier_eq : (qualifier : Option ClassType) → (printer : Printer) →
    printer.qualifier qualifier = printer.append (ClassType.qualifierPieces qualifier)
  | none, printer => by
    rw [qualifier, ClassType.qualifierPieces, append_nil]
  | some type, printer => by
    simp only [qualifier, ClassType.qualifierPieces, write_eq, classType_eq type, append_append]

theorem typeUses_eq : (types : List TypeUse) → (before : String) → (printer : Printer) →
    printer.typeUses before types = printer.append (TypeUse.listPieces before types)
  | [], before, printer => by
    rw [typeUses, TypeUse.listPieces, append_nil]
  | type :: rest, before, printer => by
    simp only [typeUses, TypeUse.listPieces, write_eq, typeUse_eq type, typeUses_eq rest,
      append_append, List.cons_append, List.nil_append]

end

mutual

theorem expression_eq : (expr : Expression) → (printer : Printer) →
    printer.expression expr = printer.append expr.pieces
  | .literal kind value, printer => by
    rw [expression, Expression.pieces, write_eq]
  | .cast type operand, printer => by
    simp only [expression, Expression.pieces, write_eq, typeUse_eq, expression_eq operand,
      append_append, List.cons_append, List.nil_append, List.append_assoc]
  | .unary operator operand, printer => by
    rw [expression, Expression.pieces]
    split <;>
      simp only [write_eq, expression_eq operand, append_append, List.cons_append,
        List.nil_append, List.append_assoc]
  | .binary operator left right, printer => by
    simp only [expression, Expression.pieces, write_eq, expression_eq left, expression_eq right,
      append_append, List.cons_append, List.nil_append, List.append_assoc]
  | .reference name, printer => by
    rw [expression, Expression.pieces, reference_eq]
  | .classLiteral type, printer => by
    simp only [expression, Expression.pieces, write_eq, typeUse_eq, append_append]
  | .assign name value, printer => by
    simp only [expression, Expression.pieces, write_eq, expression_eq value, append_append,
      List.cons_append, List.nil_append]
  | .conditional condition whenTrue whenFalse, printer => by
    simp only [expression, Expression.pieces, write_eq, expression_eq condition,
      expression_eq whenTrue, expression_eq whenFalse, append_append, List.cons_append,
      List.nil_append, List.append_assoc]
  | .arrayInit [], printer => by
    simp only [expression, Expression.pieces, write_eq, append_append, List.cons_append,
      List.nil_append]
  | .arrayInit (first :: rest), printer => by
    simp only [expression, Expression.pieces, write_eq, expression_eq first, expressions_eq rest,
      append_append, List.cons_append, List.nil_append, List.append_assoc]
  | .anno item, printer => by
    rw [expression, Expression.pieces, anno_eq item]

theorem anno_eq : (item : Anno) → (printer : Printer) →
    printer.anno item = printer.append item.pieces
  | ⟨name, []⟩, printer => by
    simp only [anno, Anno.pieces, write_eq, append_append, List.cons_append, List.nil_append]
  | ⟨name, first :: rest⟩, printer => by
    simp only [anno, Anno.pieces, write_eq, expression_eq first, expressions_eq rest, append_append,
      List.cons_append, List.nil_append, List.append_assoc]

theorem expressions_eq : (items : List Expression) → (before : String) → (printer : Printer) →
    printer.expressions before items = printer.append (Expression.listPieces before items)
  | [], before, printer => by
    rw [expressions, Expression.listPieces, append_nil]
  | item :: rest, before, printer => by
    simp only [expressions, Expression.listPieces, write_eq, expression_eq item,
      expressions_eq rest, append_append, List.cons_append, List.nil_append]

end

/-! ### Lists of items -/

section

variable {α : Type} {print : α → Printer → Printer} {pieces : α → List Piece}
  (appends : ∀ item printer, print item printer = printer.append (pieces item))
include appends

theorem each_eq (before : String) (items : List α) (printer : Printer) :
    printer.each before print items = printer.append (Piece.each before pieces items) := by
  induction items generalizing printer with
  | nil => rw [each, Piece.each, List.flatMap_nil, append_nil]
  | cons item rest ih =>
    rw [each, ih, appends, write_eq, append_append, append_append]
    rfl

theorem joined_eq (separator : String) (items : List α) (printer : Printer) :
    printer.joined separator print items =
      printer.append (Piece.joined separator pieces items) := by
  cases items with
  | nil => rw [joined, Piece.joined, append_nil]
  | cons item rest => rw [joined, each_eq appends, appends, append_append, Piece.joined]

theorem spaced_eq (items : List α) (printer : Printer) :
    printer.spaced print items = printer.append (Piece.spaced pieces items) := by
  induction items generalizing printer with
  | nil => rw [spaced, Piece.spaced, List.flatMap_nil, append_nil]
  | cons item rest ih =>
    rw [spaced, ih, appends, write_eq, append_append, append_append]
    simp only [Piece.spaced, List.flatMap_cons, List.append_assoc]

theorem optional_eq (before : String) (item : Option α) (printer : Printer) :
    printer.optional before print item = printer.append (Piece.optional before pieces item) := by
  cases item with
  | none => rw [optional, Piece.optional, append_nil]
  | some item =>
    rw [optional, appends, write_eq, append_append]
    rfl

end

/-! ### Declarations -/

theorem margin_eq : printer.margin = printer.append [Piece.margin printer.indentation] := by
  rw [margin, write_eq, Piece.margin]

theorem qualifiers_eq (annos : List Anno) (modifiers : Modifiers) (printer : Printer) :
    printer.qualifiers annos modifiers = printer.append (qualifierPieces annos modifiers) := by
  have keyword (modifier : Modifier) (printer : Printer) :
      printer.write modifier.keyword = printer.append [.plain modifier.keyword] := write_eq _ _
  rw [qualifiers, spaced_eq anno_eq, spaced_eq keyword, append_append, qualifierPieces]

theorem packageDecl_eq (decl : PackageDecl) (printer : Printer) :
    printer.packageDecl decl = printer.append decl.pieces := by
  simp only [packageDecl, PackageDecl.pieces, write_eq, append_append, List.cons_append,
    List.nil_append]

theorem importDecl_eq (decl : ImportDecl) (printer : Printer) :
    printer.importDecl decl = printer.append decl.pieces := by
  simp only [importDecl, ImportDecl.pieces, write_eq, append_append, List.cons_append,
    List.nil_append]

theorem typeParameter_eq (parameter : TypeParameter) (printer : Printer) :
    printer.typeParameter parameter = printer.append parameter.pieces := by
  obtain ⟨name, bounds⟩ := parameter
  cases bounds with
  | nil => exact write_eq printer name
  | cons bound rest =>
    simp only [typeParameter, TypeParameter.pieces, joined_eq typeUse_eq, write_eq, append_append,
      List.cons_append, List.nil_append]

theorem typeParameters_eq (parameters : List TypeParameter) (after : String) (printer : Printer) :
    printer.typeParameters parameters after =
      printer.append (TypeParameter.listPieces parameters after) := by
  cases parameters with
  | nil => exact (append_nil printer).symm
  | cons parameter rest =>
    simp only [typeParameters, TypeParameter.listPieces, joined_eq typeParameter_eq, write_eq,
      append_append, List.cons_append, List.nil_append, List.append_assoc]

theorem classTypes_eq (before : String) (types : List ClassType) (printer : Printer) :
    printer.classTypes before types = printer.append (ClassType.listPieces before types) := by
  cases types with
  | nil => exact (append_nil printer).symm
  | cons type rest =>
    simp only [classTypes, ClassType.listPieces, joined_eq classType_eq, write_eq, append_append,
      List.cons_append, List.nil_append]

theorem variableDecl_eq (decl : VariableDecl) (printer : Printer) :
    printer.variableDecl decl = printer.append decl.pieces := by
  rw [variableDecl, optional_eq expression_eq, qualifiers_eq, typeUse_eq, VariableDecl.pieces]
  simp only [write_eq, append_append, List.cons_append, List.nil_append, List.append_assoc]

theorem methodDecl_eq (decl : MethodDecl) (printer : Printer) :
    printer.methodDecl decl = printer.append (decl.pieces printer.indentation) := by
  rw [methodDecl, optional_eq expression_eq, classTypes_eq, joined_eq variableDecl_eq,
    spaced_eq typeUse_eq, typeParameters_eq, qualifiers_eq, margin_eq, MethodDecl.pieces]
  simp only [write_eq, append_append, List.cons_append, List.nil_append, List.append_assoc]

/-- Going back after members restores the indentation: it was at least two columns while they were
printed. -/
theorem dedent_append_indent (pieces : List Piece) :
    (printer.indent.append pieces).dedent = printer.append pieces :=
  if_pos (Nat.le_add_left 2 printer.indentation)

theorem indentation_indent : printer.indent.indentation = printer.indentation + 2 := rfl

mutual

theorem typeDecl_eq : (decl : TypeDecl) → (printer : Printer) →
    printer.typeDecl decl = printer.append (decl.pieces printer.indentation)
  | ⟨modifiers, annos, name, typeParameters, superclass, interfaces, members, kind⟩, printer => by
    rw [typeDecl, members_eq members, dedent_append_indent, margin_eq, classTypes_eq,
      optional_eq classType_eq, typeParameters_eq, qualifiers_eq, margin_eq, TypeDecl.pieces]
    simp only [write_eq, append_append, indentation_append, indentation_indent, List.cons_append,
      List.nil_append, List.append_assoc]

theorem members_eq : (members : List Tree) → (printer : Printer) →
    printer.members members = printer.append (Tree.memberPieces printer.indentation members)
  | [], printer => by
    rw [members, Tree.memberPieces, append_nil]
  | .methodDecl decl :: rest, printer => by
    simp only [members, Tree.memberPieces, methodDecl_eq, members_eq rest, append_append,
      indentation_append]
  | .typeDecl decl :: rest, printer => by
    simp only [members, Tree.memberPieces, typeDecl_eq decl, members_eq rest, append_append,
      indentation_append]
  | .variableDecl decl :: rest, printer => by
    simp only [members, Tree.memberPieces, margin_eq, variableDecl_eq, write_eq, members_eq rest,
      append_append, indentation_append, List.cons_append, List.nil_append, List.append_assoc]
  | .type _ :: rest, printer | .expression _ :: rest, printer
  | .compilationUnit _ :: rest, printer | .importDecl _ :: rest, printer
  | .anno _ :: rest, printer | .typeParameter _ :: rest, printer
  | .packageDecl _ :: rest, printer => by
    simp only [members, Tree.memberPieces, margin_eq, tree_eq, write_eq, members_eq rest,
      append_append, indentation_append, List.cons_append, List.nil_append, List.append_assoc]

theorem typeDecls_eq : (types : List TypeDecl) → (printer : Printer) →
    printer.typeDecls types = printer.append (TypeDecl.listPieces printer.indentation types)
  | [], printer => by
    rw [typeDecls, TypeDecl.listPieces, append_nil]
  | decl :: rest, printer => by
    simp only [typeDecls, TypeDecl.listPieces, typeDecl_eq decl, typeDecls_eq rest, append_append,
      indentation_append]

theorem compilationUnit_eq : (unit : CompilationUnit) → (printer : Printer) →
    printer.compilationUnit unit = printer.append (unit.pieces printer.indentation)
  | ⟨package, imports, types, file⟩, printer => by
    cases package <;> cases imports <;>
      simp only [compilationUnit, CompilationUnit.pieces, packageDecl_eq, each_eq importDecl_eq,
        write_eq, typeDecls_eq types, append_append, indentation_append, List.nil_append,
        List.append_assoc]

theorem tree_eq : (node : Tree) → (printer : Printer) →
    printer.tree node = printer.append (node.pieces printer.indentation)
  | .type typeUse, printer => by
    rw [tree, Tree.pieces, typeUse_eq]
  | .expression expr, printer => by
    rw [tree, Tree.pieces, expression_eq]
  | .compilationUnit unit, printer => by
    rw [tree, Tree.pieces, compilationUnit_eq unit]
  | .importDecl decl, printer => by
    rw [tree, Tree.pieces, importDecl_eq]
  | .variableDecl decl, printer => by
    rw [tree, Tree.pieces, variableDecl_eq]
  | .methodDecl decl, printer => by
    rw [tree, Tree.pieces, methodDecl_eq]
  | .anno item, printer => by
    rw [tree, Tree.pieces, anno_eq]
  | .typeDecl decl, printer => by
    rw [tree, Tree.pieces, typeDecl_eq decl]
  | .typeParameter parameter, printer => by
    rw [tree, Tree.pieces, typeParameter_eq]
  | .packageDecl decl, printer => by
    rw [tree, Tree.pieces, packageDecl_eq]

end

end Printer

/-! ### Texts -/

/-- The text that pieces make up. -/
def Piece.spell (pieces : List Piece) : String :=
  String.join (pieces.map Piece.text)

/-- The text of a node where the indentation is that of a printer on its way. -/
def Tree.textAt (indentation : Nat) (node : Tree) : String :=
  Piece.spell (node.pieces indentation)

/-- Whether a node is printed without lines of its own: a type, an expression, an annotation, a
type parameter, a variable, an import or a package. -/
def Tree.isInline : Tree → Bool
  | .compilationUnit _ | .methodDecl _ | .typeDecl _ => false
  | _ => true

theorem Tree.pieces_of_isInline {node : Tree} (isInline : node.isInline = true)
    (indentation other : Nat) : node.pieces indentation = node.pieces other := by
  cases node with
  | compilationUnit | methodDecl | typeDecl => cases isInline
  | type | expression | importDecl | variableDecl | anno | typeParameter | packageDecl =>
    rw [Tree.pieces, Tree.pieces]

namespace Printer

theorem text_append (printer : Printer) (pieces : List Piece) :
    (printer.append pieces).text = printer.text ++ Piece.spell pieces := by
  simp [text, append, Piece.spell, String.join_append]

/-- Printing a node alone ignores earlier output and leaves none. -/
theorem print_eq (node : Tree) (printer : Printer) :
    printer.print node = (node.textAt printer.indentation, ⟨printer.indentation, #[]⟩) := by
  have nothing : (⟨printer.indentation, #[]⟩ : Printer).text = "" := rfl
  simp only [print, tree_eq, text_append, nothing, String.empty_append, indentation_append]
  rfl

theorem printAll_eq (nodes : List Tree) (printer : Printer) :
    printer.printAll nodes = nodes.map (Tree.textAt printer.indentation) := by
  induction nodes generalizing printer with
  | nil => rfl
  | cons node rest ih =>
    rw [printAll, print_eq, List.map_cons]
    dsimp only
    rw [ih]

end Printer

theorem Tree.text_eq (node : Tree) : node.text = node.textAt 0 := by
  rw [Tree.text, Printer.print_eq]
  rfl

namespace Printer

/-- Visiting a node leaves the indentation as it is and appends to the output a text that depends on
the node and the indentation, and on the node alone unless it is a method, the declaration of a type
or a compilation unit. So a printer prints any nodes one after the other as a new printer prints
each of them. -/
theorem tree_frame :
    (∀ (node : Tree) (printer : Printer),
      (printer.tree node).indentation = printer.indentation ∧
        (printer.tree node).text = printer.text ++ node.textAt printer.indentation) ∧
      (∀ (node : Tree) (indentation : Nat),
        node.isInline = true → node.textAt indentation = node.text) ∧
      ∀ (nodes : List Tree) (output : Array Piece),
        (⟨0, output⟩ : Printer).printAll nodes = nodes.map Tree.text := by
  refine ⟨?_, ?_, ?_⟩
  · intro node printer
    rw [tree_eq]
    exact ⟨rfl, text_append printer _⟩
  · intro node indentation isInline
    rw [Tree.text_eq, Tree.textAt, Tree.textAt, Tree.pieces_of_isInline isInline indentation 0]
  · intro nodes output
    rw [printAll_eq]
    exact List.map_congr_left fun node _ => (Tree.text_eq node).symm

/-- A type declaration in the middle of another, and its field. -/
theorem tree_frame_of_member :
    let field : Tree := .variableDecl ⟨.ofList [.final], [], .primitive .int, "x", none⟩
    let node : Tree := .typeDecl ⟨.ofList [], [], "A", [], none, [], [field], .classDecl⟩
    let printer : Printer := ⟨2, #[.plain "class B \x7b\n"]⟩
    (printer.tree node).indentation = 2 ∧
      (printer.tree node).text = "class B \x7b\n  class A \x7b\n    final int x;\n  \x7d\n" ∧
      field.isInline = true ∧ field.textAt 4 = field.text ∧
      (⟨0, #[.plain "lost"]⟩ : Printer).printAll [node, field, node] =
        [node.text, "final int x", node.text] := by
  intro field node printer
  obtain ⟨frame, inline, sequence⟩ := tree_frame
  have isInline : field.isInline = true := rfl
  obtain ⟨kept, appended⟩ := frame node printer
  refine ⟨kept, appended.trans ?_, isInline, inline field 4 isInline, (sequence _ _).trans ?_⟩
  · decide
  · decide

end Printer

end ClassHeader
