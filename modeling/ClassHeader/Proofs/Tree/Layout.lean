import ClassHeader.Proofs.Tree.Names

/-!
# The lines of declarations

A method is printed on one line, a type on a line for its header, the lines of its members and a
line for its closing brace. Indentation is put before each line and changes nothing else, so that a
member stands in the text of its type as it stands alone, two columns further in for each type
around it (`declaration_layout`).

Everything is stated of the lines that a member takes up in its type (`Tree.lines`). A field has no
line of its own where it stands alone; in its type it has one, which a semicolon ends.
-/

namespace ClassHeader

/-! ### Spelling -/

namespace Piece

theorem spell_append (left right : List Piece) :
    spell (left ++ right) = spell left ++ spell right := by
  rw [spell, List.map_append, String.join_append, spell, spell]

theorem spell_cons (first : Piece) (rest : List Piece) :
    spell (first :: rest) = first.text ++ spell rest := by
  rw [spell, List.map_cons, String.join_cons, spell]

theorem spell_singleton (piece : Piece) : spell [piece] = piece.text := by
  rw [spell_cons]
  exact String.append_empty

theorem Unbroken.newline_not_mem_spell {pieces : List Piece} (unbroken : Unbroken pieces) :
    '\n' ∉ (spell pieces).toList := by
  rw [spell, String.toList_join, List.mem_flatMap]
  rintro ⟨text, isText, newline⟩
  exact unbroken text isText newline

/-- A margin, some pieces and an ending make up a line. -/
theorem spell_line (indentation : Nat) (pieces : List Piece) (ending : String) :
    spell (margin indentation :: pieces ++ [.plain (ending ++ "\n")]) =
      Lines.text [Lines.indented indentation (spell pieces ++ ending)] := by
  rw [List.cons_append, spell_cons, spell_append, spell_singleton, Lines.text_cons, Lines.text_nil,
    String.append_empty, Lines.indented]
  simp only [String.append_assoc]
  rfl

end Piece

/-! ### Members -/

/-- Fields, methods, and types whose members are such members in turn. -/
inductive Tree.IsMember : Tree → Prop
  | field (decl : VariableDecl) : IsMember (.variableDecl decl)
  | method (decl : MethodDecl) : IsMember (.methodDecl decl)
  | type {decl : TypeDecl} (members : ∀ member ∈ decl.members, IsMember member) :
    IsMember (.typeDecl decl)

namespace Tree

/-- What a printer with this indentation prints for a node as a member of a type. -/
def piecesAsMember (indentation : Nat) : Tree → List Piece
  | .methodDecl decl => decl.pieces indentation
  | .typeDecl decl => decl.pieces indentation
  | .variableDecl decl => Piece.margin indentation :: decl.pieces ++ [.plain ";\n"]
  | member => Piece.margin indentation :: member.pieces indentation ++ [.plain "\n"]

theorem memberPieces_eq (indentation : Nat) (members : List Tree) :
    memberPieces indentation members = members.flatMap (piecesAsMember indentation) := by
  induction members with
  | nil => rw [memberPieces, List.flatMap_nil]
  | cons member rest ih =>
    cases member <;> simp [memberPieces, piecesAsMember, ih]

/-- The text of a node, closed by a semicolon if it is a field. -/
def closedText : Tree → String
  | .variableDecl decl => (Tree.variableDecl decl).text ++ ";\n"
  | node => node.text

/-- The lines that a member takes up in its type, without the indentation that they have there. -/
def lines (node : Tree) : List String :=
  Lines.ofText node.closedText

theorem IsMember.closedText_eq {node : Tree} (isMember : node.IsMember) :
    node.closedText = Piece.spell (node.piecesAsMember 0) := by
  cases isMember with
  | field decl =>
    rw [closedText, text_eq, textAt, pieces, piecesAsMember, List.cons_append, Piece.spell_cons,
      Piece.spell_append, Piece.spell_singleton]
    exact String.empty_append.symm
  | method | type => exact text_eq _

/-- Whether some lines are what a member is printed as, at any indentation. -/
structure SpellsLines (node : Tree) (lines : List String) : Prop where
  unbroken : Lines.Unbroken lines
  spell : ∀ indentation, Piece.spell (node.piecesAsMember indentation) =
    Lines.text (lines.map (Lines.indented indentation))

theorem SpellsLines.lines_eq {node : Tree} {lines : List String} (spells : node.SpellsLines lines)
    (isMember : node.IsMember) : node.lines = lines := by
  have unmoved : lines.map (Lines.indented 0) = lines :=
    List.map_id'' Lines.indented_zero lines
  rw [Tree.lines, isMember.closedText_eq, spells.spell, unmoved, Lines.ofText_text spells.unbroken]

end Tree

/-! ### One line -/

/-- The line of a method without its indentation and its semicolon. -/
def MethodDecl.linePieces (decl : MethodDecl) : List Piece :=
  qualifierPieces decl.annos decl.modifiers ++ TypeParameter.listPieces decl.typeParameters " " ++
    Piece.spaced TypeUse.pieces decl.result.toList ++ [.plain decl.name, .plain "("] ++
    Piece.joined ", " VariableDecl.pieces decl.parameters ++ [.plain ")"] ++
    ClassType.listPieces " throws " decl.exceptions ++
    Piece.optional " default " Expression.pieces decl.defaultValue

theorem MethodDecl.pieces_eq (decl : MethodDecl) (indentation : Nat) :
    decl.pieces indentation =
      Piece.margin indentation :: decl.linePieces ++ [.plain (";" ++ "\n")] :=
  rfl

theorem MethodDecl.unbroken_linePieces (decl : MethodDecl)
    (unbroken : Lines.Unbroken decl.names) : Piece.Unbroken decl.linePieces := by
  simp only [MethodDecl.names, Lines.Unbroken.append_iff, Lines.Unbroken.cons_iff] at unbroken
  obtain ⟨⟨⟨ofAnnos, ofTypeParameters⟩, ofResult⟩, ofName, ⟨ofParameters, ofExceptions⟩,
    ofDefault⟩ := unbroken
  have result : Piece.Unbroken (Piece.spaced TypeUse.pieces decl.result.toList) :=
    .spaced TypeUse.unbroken_pieces ofResult
  have parameters : Piece.Unbroken (Piece.joined ", " VariableDecl.pieces decl.parameters) :=
    .joined VariableDecl.unbroken_pieces (by simp) ofParameters
  have defaultValue :
      Piece.Unbroken (Piece.optional " default " Expression.pieces decl.defaultValue) :=
    .optional Expression.unbroken_pieces (by simp) ofDefault
  simp [MethodDecl.linePieces, Piece.text, unbroken_qualifierPieces decl.modifiers ofAnnos,
    TypeParameter.unbroken_listPieces, ofTypeParameters, result, ofName, parameters,
    ClassType.unbroken_listPieces, ofExceptions, defaultValue]

/-- The header of a type without its indentation and its brace. -/
def TypeDecl.headerPieces (decl : TypeDecl) : List Piece :=
  qualifierPieces decl.annos decl.modifiers ++ [.plain decl.kind.keyword, .plain " ",
    .plain decl.name] ++ TypeParameter.listPieces decl.typeParameters "" ++
    Piece.optional " extends " ClassType.pieces decl.superclass ++
    ClassType.listPieces (Printer.interfacesWord decl.kind) decl.interfaces

theorem TypeDecl.pieces_eq (decl : TypeDecl) (indentation : Nat) :
    decl.pieces indentation =
      Piece.margin indentation :: decl.headerPieces ++ [.plain (" \x7b" ++ "\n")] ++
        (Tree.memberPieces (indentation + 2) decl.members ++
          (Piece.margin indentation :: [] ++ [.plain ("\x7d" ++ "\n")])) := by
  rw [← List.append_assoc]
  cases decl
  rw [TypeDecl.pieces]
  rfl

theorem TypeDecl.unbroken_headerPieces (decl : TypeDecl) (unbroken : Lines.Unbroken decl.names) :
    Piece.Unbroken decl.headerPieces := by
  obtain ⟨modifiers, annos, name, typeParameters, superclass, interfaces, members, kind⟩ := decl
  simp only [TypeDecl.names, Lines.Unbroken.append_iff, Lines.Unbroken.cons_iff] at unbroken
  obtain ⟨ofAnnos, ofName, ⟨⟨ofTypeParameters, ofSuperclass⟩, ofInterfaces⟩, -⟩ := unbroken
  have keyword : '\n' ∉ kind.keyword.toList := by
    cases kind <;> decide
  have word : '\n' ∉ (Printer.interfacesWord kind).toList := by
    cases kind <;> decide
  have extended : Piece.Unbroken (Piece.optional " extends " ClassType.pieces superclass) :=
    .optional ClassType.unbroken_pieces (by simp) ofSuperclass
  simp [TypeDecl.headerPieces, Piece.text, unbroken_qualifierPieces modifiers ofAnnos, keyword,
    ofName, TypeParameter.unbroken_listPieces, ofTypeParameters, extended,
    ClassType.unbroken_listPieces word ofInterfaces]

theorem TypeDecl.unbroken_of_mem (decl : TypeDecl) (unbroken : Lines.Unbroken decl.names) :
    ∀ member ∈ decl.members, Lines.Unbroken member.names := by
  obtain ⟨modifiers, annos, name, typeParameters, superclass, interfaces, members, kind⟩ := decl
  simp only [TypeDecl.names, Lines.Unbroken.append_iff, Lines.Unbroken.cons_iff] at unbroken
  obtain ⟨-, -, -, ofMembers⟩ := unbroken
  rw [Tree.listNames_eq] at ofMembers
  exact fun member isMember name inNames =>
    ofMembers name (List.mem_flatMap.mpr ⟨member, isMember, inNames⟩)

/-! ### Lines of members -/

namespace Tree

theorem spellsLines_of_line {node : Tree} {pieces : List Piece} {ending : String}
    (unbroken : Piece.Unbroken pieces) (ofEnding : '\n' ∉ ending.toList)
    (line : ∀ indentation, node.piecesAsMember indentation =
      Piece.margin indentation :: pieces ++ [.plain (ending ++ "\n")]) :
    node.SpellsLines [Piece.spell pieces ++ ending] := by
  constructor
  · have ofPieces := unbroken.newline_not_mem_spell
    simp [ofPieces, ofEnding]
  · intro indentation
    rw [line, Piece.spell_line, List.map_singleton]

theorem spellsLines_field (decl : VariableDecl) (unbroken : Lines.Unbroken decl.names) :
    (variableDecl decl).SpellsLines [Piece.spell decl.pieces ++ ";"] := by
  apply spellsLines_of_line (decl.unbroken_pieces unbroken) (by decide)
  intro indentation
  rfl

theorem spellsLines_method (decl : MethodDecl) (unbroken : Lines.Unbroken decl.names) :
    (methodDecl decl).SpellsLines [Piece.spell decl.linePieces ++ ";"] := by
  apply spellsLines_of_line (decl.unbroken_linePieces unbroken) (by decide)
  intro indentation
  exact decl.pieces_eq indentation

/-- The lines of the members of a type, in their order and as far in as they stand there. -/
def memberLines (members : List Tree) : List String :=
  members.flatMap fun member => member.lines.map (Lines.indented 2)

theorem spell_memberPieces {members : List Tree}
    (ofMembers : ∀ member ∈ members, member.SpellsLines member.lines) (indentation : Nat) :
    Piece.spell (memberPieces (indentation + 2) members) =
      Lines.text ((memberLines members).map (Lines.indented indentation)) := by
  rw [memberPieces_eq]
  induction members with
  | nil => rfl
  | cons member rest ih =>
    -- The lines of a member move by its place in the type and with the type.
    have moved : (member.lines.map (Lines.indented 2)).map (Lines.indented indentation) =
        member.lines.map (Lines.indented (indentation + 2)) := by
      rw [List.map_map]
      exact List.map_congr_left fun line _ => Lines.indented_indented indentation 2 line
    rw [List.flatMap_cons, Piece.spell_append, (ofMembers member List.mem_cons_self).spell,
      ih fun other isOther => ofMembers other (List.mem_cons_of_mem _ isOther), memberLines,
      memberLines, List.flatMap_cons, List.map_append, Lines.text_append, moved]

theorem unbroken_memberLines {members : List Tree}
    (ofMembers : ∀ member ∈ members, member.SpellsLines member.lines) :
    Lines.Unbroken (memberLines members) := by
  intro line isLine
  obtain ⟨member, isMember, inMember⟩ := List.mem_flatMap.mp isLine
  obtain ⟨inner, isInner, rfl⟩ := List.mem_map.mp inMember
  have ofInner := (ofMembers member isMember).unbroken inner isInner
  simp [Lines.indented, Lines.spaces, ofInner]

/-- A type is printed as a header, its members and a closing brace. -/
theorem spellsLines_type (decl : TypeDecl) (unbroken : Lines.Unbroken decl.names)
    (ofMembers : ∀ member ∈ decl.members, member.SpellsLines member.lines) :
    (typeDecl decl).SpellsLines
      ((Piece.spell decl.headerPieces ++ " \x7b") :: memberLines decl.members ++ ["\x7d"]) := by
  constructor
  · have ofHeader := (decl.unbroken_headerPieces unbroken).newline_not_mem_spell
    simp [ofHeader, unbroken_memberLines ofMembers]
  · intro indentation
    have header := Piece.spell_line indentation decl.headerPieces " \x7b"
    have closing : Piece.spell (Piece.margin indentation :: [] ++ [.plain ("\x7d" ++ "\n")]) =
        Lines.text [Lines.indented indentation "\x7d"] := Piece.spell_line indentation [] "\x7d"
    rw [piecesAsMember, decl.pieces_eq, Piece.spell_append, header, Piece.spell_append,
      spell_memberPieces ofMembers, closing, ← Lines.text_append, ← Lines.text_append,
      List.map_append, List.map_cons]
    rfl

theorem IsMember.spellsLines {node : Tree} (isMember : node.IsMember)
    (unbroken : Lines.Unbroken node.names) : node.SpellsLines node.lines := by
  induction isMember with
  | field decl =>
    rw [names] at unbroken
    have spells := spellsLines_field decl unbroken
    rwa [spells.lines_eq (.field decl)]
  | method decl =>
    rw [names] at unbroken
    have spells := spellsLines_method decl unbroken
    rwa [spells.lines_eq (.method decl)]
  | @type decl members ih =>
    rw [names] at unbroken
    have ofMembers (member : Tree) (isMember : member ∈ decl.members) :
        member.SpellsLines member.lines :=
      ih member isMember (decl.unbroken_of_mem unbroken member isMember)
    have spells := spellsLines_type decl unbroken ofMembers
    rwa [spells.lines_eq (.type members)]

theorem IsMember.lines_type {decl : TypeDecl} (isMember : (typeDecl decl).IsMember)
    (unbroken : Lines.Unbroken decl.names) :
    (typeDecl decl).lines =
      (Piece.spell decl.headerPieces ++ " \x7b") :: memberLines decl.members ++ ["\x7d"] := by
  cases isMember with
  | type members =>
    have ofMembers (member : Tree) (isMember : member ∈ decl.members) :
        member.SpellsLines member.lines :=
      (members member isMember).spellsLines (decl.unbroken_of_mem unbroken member isMember)
    exact (spellsLines_type decl unbroken ofMembers).lines_eq (.type members)

end Tree

/-! ### Counts and positions -/

mutual

/-- How many lines a type takes up: one for its header, those of its members and one for its closing
brace. -/
def TypeDecl.lineCount : TypeDecl → Nat
  | ⟨_, _, _, _, _, _, members, _⟩ => 2 + Tree.lineCounts members

/-- How many lines a member takes up. A field or a method takes up one. -/
def Tree.lineCount : Tree → Nat
  | .typeDecl decl => decl.lineCount
  | _ => 1

def Tree.lineCounts : List Tree → Nat
  | [] => 0
  | member :: rest => member.lineCount + Tree.lineCounts rest

end

theorem TypeDecl.lineCount_eq (decl : TypeDecl) :
    decl.lineCount = 2 + Tree.lineCounts decl.members := by
  cases decl
  rw [TypeDecl.lineCount]

namespace Tree

/-- The member at a path, which gives a position among the members of the type itself, then one
among the members of the member there, and so on. -/
def member? : Tree → List Nat → Option Tree
  | node, [] => some node
  | .typeDecl decl, position :: path => decl.members[position]?.bind (·.member? path)
  | _, _ :: _ => none

/-- How many lines come before the member at a path: at each type on the way the header and the
members before the one on the path. -/
def linesBefore : Tree → List Nat → Nat
  | _, [] => 0
  | .typeDecl decl, position :: path =>
    1 + lineCounts (decl.members.take position) +
      decl.members[position]?.elim 0 (·.linesBefore path)
  | _, _ :: _ => 0

theorem length_memberLines {members : List Tree}
    (ofMembers : ∀ member ∈ members, member.lines.length = member.lineCount) :
    (memberLines members).length = lineCounts members := by
  induction members with
  | nil => rw [lineCounts]; rfl
  | cons member rest ih =>
    rw [lineCounts, memberLines, List.flatMap_cons, List.length_append, List.length_map,
      ofMembers member List.mem_cons_self, ← memberLines,
      ih fun other isOther => ofMembers other (List.mem_cons_of_mem _ isOther)]

theorem IsMember.length_lines {node : Tree} (isMember : node.IsMember)
    (unbroken : Lines.Unbroken node.names) : node.lines.length = node.lineCount := by
  induction isMember with
  | field decl =>
    rw [names] at unbroken
    rw [(spellsLines_field decl unbroken).lines_eq (.field decl), lineCount]
    · rfl
    · nofun
  | method decl =>
    rw [names] at unbroken
    rw [(spellsLines_method decl unbroken).lines_eq (.method decl), lineCount]
    · rfl
    · nofun
  | @type decl members ih =>
    rw [names] at unbroken
    have ofMembers := length_memberLines fun member isMember =>
      ih member isMember (decl.unbroken_of_mem unbroken member isMember)
    -- The members have the lines between the header and the closing brace.
    rw [(IsMember.type members).lines_type unbroken, lineCount, decl.lineCount_eq,
      List.length_append, List.length_cons, ofMembers, List.length_singleton]
    omega

/-- The lines of a member come after those of the members before it. -/
theorem memberLines_of_getElem? {members : List Tree} {position : Nat} {member : Tree}
    (atPosition : members[position]? = some member) :
    memberLines members = memberLines (members.take position) ++
      member.lines.map (Lines.indented 2) ++ memberLines (members.drop (position + 1)) := by
  obtain ⟨inRange, rfl⟩ := List.getElem?_eq_some_iff.mp atPosition
  have split : members.take position ++ members[position] :: members.drop (position + 1) =
      members := by
    rw [List.cons_getElem_drop_succ, List.take_append_drop]
  conv => lhs; rw [← split]
  rw [memberLines, List.flatMap_append, List.flatMap_cons, List.append_assoc]
  rfl

/-- Lines that stand some columns in are two columns further in inside a type. -/
theorem map_indented_two (lines : List String) (depth : Nat) :
    (lines.map (Lines.indented (2 * depth))).map (Lines.indented 2) =
      lines.map (Lines.indented (2 * (depth + 1))) := by
  have columns : 2 + 2 * depth = 2 * (depth + 1) := by omega
  rw [List.map_map]
  apply List.map_congr_left
  intro line _
  rw [Function.comp_apply, Lines.indented_indented, columns]

/-- A member stands in the text of the node with its own lines, indented by two columns for each
type around it. -/
theorem IsMember.lines_of_member? {node member : Tree} {path : List Nat}
    (isMember : node.IsMember) (unbroken : Lines.Unbroken node.names)
    (found : node.member? path = some member) :
    ∃ before after,
      node.lines = before ++ member.lines.map (Lines.indented (2 * path.length)) ++ after ∧
        before.length = node.linesBefore path := by
  -- By induction on the path. What is around the member in its own type is indented with it.
  induction path generalizing node with
  | nil =>
    rw [member?] at found
    obtain rfl := Option.some.inj found
    have unmoved : node.lines.map (Lines.indented 0) = node.lines :=
      List.map_id'' Lines.indented_zero node.lines
    refine ⟨[], [], ?_, ?_⟩
    · rw [List.length_nil, Nat.mul_zero, unmoved, List.nil_append, List.append_nil]
    · rw [linesBefore, List.length_nil]
  | cons position path ih =>
    cases isMember with
    | field | method => cases found
    | @type decl members =>
      rw [member?] at found
      rw [names] at unbroken
      obtain ⟨child, atPosition, found⟩ := Option.bind_eq_some_iff.mp found
      have isChild := List.mem_of_getElem? atPosition
      obtain ⟨before, after, lines, count⟩ :=
        ih (members child isChild) (decl.unbroken_of_mem unbroken child isChild) found
      have ofEarlier : (memberLines (decl.members.take position)).length =
          lineCounts (decl.members.take position) := by
        apply length_memberLines
        intro earlier isEarlier
        have isMember := List.mem_of_mem_take isEarlier
        exact (members earlier isMember).length_lines
          (decl.unbroken_of_mem unbroken earlier isMember)
      refine ⟨(Piece.spell decl.headerPieces ++ " \x7b") ::
        memberLines (decl.members.take position) ++ before.map (Lines.indented 2),
        after.map (Lines.indented 2) ++ memberLines (decl.members.drop (position + 1)) ++ ["\x7d"],
        ?_, ?_⟩
      · rw [(IsMember.type members).lines_type unbroken, memberLines_of_getElem? atPosition, lines,
          List.map_append, List.map_append, map_indented_two, List.length_cons]
        simp only [List.append_assoc, List.cons_append]
      · rw [linesBefore, atPosition, Option.elim_some, ← count, ← ofEarlier, List.length_append,
          List.length_cons, List.length_map]
        omega

theorem IsMember.of_member? {node member : Tree} {path : List Nat} (isMember : node.IsMember)
    (unbroken : Lines.Unbroken node.names) (found : node.member? path = some member) :
    member.IsMember ∧ Lines.Unbroken member.names := by
  induction path generalizing node with
  | nil =>
    rw [member?] at found
    obtain rfl := Option.some.inj found
    exact ⟨isMember, unbroken⟩
  | cons position path ih =>
    cases isMember with
    | field | method => cases found
    | @type decl members =>
      rw [member?] at found
      rw [names] at unbroken
      obtain ⟨child, atPosition, found⟩ := Option.bind_eq_some_iff.mp found
      have isChild := List.mem_of_getElem? atPosition
      exact ih (members child isChild) (decl.unbroken_of_mem unbroken child isChild) found

theorem lineCount_pos (node : Tree) : 0 < node.lineCount := by
  cases node with
  | typeDecl decl =>
    rw [lineCount, decl.lineCount_eq]
    omega
  | _ => exact Nat.one_pos

/-- A type without members has the header that it has with them. -/
theorem lines_without_members {decl : TypeDecl} (unbroken : Lines.Unbroken decl.names) :
    (typeDecl { decl with members := [] }).lines =
      [Piece.spell decl.headerPieces ++ " \x7b", "\x7d"] := by
  have isMember : (typeDecl { decl with members := [] }).IsMember := .type nofun
  have ofRest : Lines.Unbroken ({ decl with members := [] } : TypeDecl).names := by
    cases decl
    simp only [TypeDecl.names, listNames, List.append_nil, Lines.Unbroken.append_iff,
      Lines.Unbroken.cons_iff] at unbroken ⊢
    exact ⟨unbroken.1, unbroken.2.1, unbroken.2.2.1⟩
  exact isMember.lines_type ofRest

/-! ### The layout of declarations -/

/-- A method or a type with fields, methods and such types in it, whose names have no newline, is
printed in lines. Indentation goes before each of them. A method has one line, a type two more than
its members. A member stands in it with its own lines, a field with a semicolon at its end, indented
by two columns for each type around it; and in each type, the members stand in their order between
the header and the closing brace, which are the lines that the type has without members. -/
theorem declaration_layout {node : Tree} (isMember : node.IsMember)
    (hasLines : node.isInline = false) (unbroken : Lines.Unbroken node.names) :
    (∀ printer : Printer,
      (printer.print node).1 =
          Lines.text ((Lines.ofText node.text).map (Lines.indented printer.indentation)) ∧
        ∃ before, (printer.print node).1 = before ++ "\n") ∧
      (Lines.ofText node.text).length = node.lineCount ∧
      (∀ path member, node.member? path = some member → ∃ before after,
        Lines.ofText node.text =
            before ++ member.lines.map (Lines.indented (2 * path.length)) ++ after ∧
          before.length = node.linesBefore path) ∧
      ∀ path decl, node.member? path = some (.typeDecl decl) → ∃ header,
        (Tree.typeDecl { decl with members := [] }).lines = [header, "\x7d"] ∧
          (Tree.typeDecl decl).lines = header :: memberLines decl.members ++ ["\x7d"] := by
  have ownLines : Lines.ofText node.text = node.lines := by
    cases isMember with
    | field => cases hasLines
    | method | type => rfl
  rw [ownLines]
  refine ⟨?_, isMember.length_lines unbroken, ?_, ?_⟩
  · intro printer
    have spells := (isMember.spellsLines unbroken).spell printer.indentation
    have text : (printer.print node).1 = Piece.spell (node.piecesAsMember printer.indentation) := by
      rw [Printer.print_eq, textAt]
      cases isMember with
      | field => cases hasLines
      | method | type => rw [pieces, piecesAsMember]
    -- There is a newline at the end only because there is a line at all.
    have nonempty : node.lines.map (Lines.indented printer.indentation) ≠ [] := by
      have positive := node.lineCount_pos
      rw [← isMember.length_lines unbroken] at positive
      rw [ne_eq, List.map_eq_nil_iff]
      exact List.ne_nil_of_length_pos positive
    rw [text, spells]
    exact ⟨rfl, Lines.exists_text nonempty⟩
  · intro path member found
    exact isMember.lines_of_member? unbroken found
  · intro path decl found
    obtain ⟨isType, ofType⟩ := isMember.of_member? unbroken found
    rw [names] at ofType
    exact ⟨_, lines_without_members ofType, isType.lines_type ofType⟩

/-- A method two types deep, after a field whose constant holds the end of a line and a brace. -/
theorem declaration_layout_of_nested :
    let field : Tree := .variableDecl ⟨.ofList [.final], [], .declared ⟨none, "String", []⟩, "S",
      some (.literal .string (.string "\n\x7d"))⟩
    let method : Tree :=
      .methodDecl ⟨.ofList [], [⟨["Run"], []⟩], [], some .void, "run", [], [], none⟩
    let inner : TypeDecl := ⟨.ofList [], [], "B", [], none, [], [field, method], .interfaceDecl⟩
    let outer : Tree := .typeDecl
      ⟨.ofList [.publicAccess], [], "A", [], none, [], [field, .typeDecl inner], .classDecl⟩
    let printer : Printer := ⟨6, #[]⟩
    outer.IsMember ∧ outer.isInline = false ∧ Lines.Unbroken outer.names ∧
      ((printer.print outer).1 = Lines.text ((Lines.ofText outer.text).map (Lines.indented 6)) ∧
        ∃ before, (printer.print outer).1 = before ++ "\n") ∧
      (Lines.ofText outer.text).length = 7 ∧
      outer.member? [1, 1] = some method ∧
      (∃ before after, Lines.ofText outer.text =
          before ++ method.lines.map (Lines.indented 4) ++ after ∧ before.length = 4) ∧
      outer.member? [1] = some (.typeDecl inner) ∧
      ∃ header, (Tree.typeDecl { inner with members := [] }).lines = [header, "\x7d"] ∧
        (Tree.typeDecl inner).lines = header :: memberLines [field, method] ++ ["\x7d"] := by
  intro field method inner outer printer
  have ofInner : (Tree.typeDecl inner).IsMember :=
    .type (List.forall_mem_cons.mpr ⟨.field _, List.forall_mem_singleton.mpr (.method _)⟩)
  have isMember : outer.IsMember :=
    .type (List.forall_mem_cons.mpr ⟨.field _, List.forall_mem_singleton.mpr ofInner⟩)
  have unbroken : Lines.Unbroken outer.names := by
    have ofNames : Lines.Unbroken ["A", "String", "S", "B", "String", "S", "Run", "run"] := by simp
    exact ofNames
  obtain ⟨printed, count, members, types⟩ := declaration_layout isMember rfl unbroken
  exact ⟨isMember, rfl, unbroken, printed printer, count, rfl, members [1, 1] method rfl, rfl,
    types [1] inner rfl⟩

end Tree

end ClassHeader
