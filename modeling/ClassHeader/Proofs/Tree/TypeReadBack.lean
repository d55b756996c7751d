import ClassHeader.Proofs.Tree.Folded
import ClassHeader.Proofs.Tree.Reader

/-!
# Types read back

A type begins with a word or a wildcard. What can follow, brackets and the names of member types, is
read as one suffix after the other, each of which makes another type of the type that has been read
before it. So reading the text of a type and what follows it is going on from the folded type with
what follows (`Reads`): the dimensions of arrays are added up whether they belong to one array or to
several, and the text determines no less than the folded type (`TypeUse.text_eq_iff_fold_eq`).
-/

namespace ClassHeader

/-! ### The types in question -/

/-- Identifiers that can be the name of a class. No other reserved words need to be told apart from
identifiers. -/
structure IsClassName (name : String) : Prop where
  isIdentifier : isIdentifier name = true
  notVoid : name ≠ "void"
  notPrimitive : ∀ kind : ConstantKind, kind.isPrimitive = true → name ≠ kind.keyword

/-- Where a type stands: on its own, or between the angle brackets of a declared type. -/
inductive TypePosition where
  | alone
  | argument

/-- Types as they can be written. Only an argument can be a wildcard. -/
inductive TypeUse.IsRegular : TypePosition → TypeUse → Prop
  | wildcard {upper lower : Option TypeUse} (ofUpper : ∀ type ∈ upper, IsRegular .alone type)
    (ofLower : ∀ type ∈ lower, IsRegular .alone type) :
    IsRegular .argument (.wildcard upper lower)
  | array {position : TypePosition} {element : TypeUse} (dimensions : UInt32)
    (ofElement : IsRegular .alone element) : IsRegular position (.array element dimensions)
  | primitive {position : TypePosition} {kind : ConstantKind}
    (isPrimitive : kind.isPrimitive = true) : IsRegular position (.primitive kind)
  | void {position : TypePosition} : IsRegular position .void
  | declared {position : TypePosition} {qualifier : Option ClassType} {name : String}
    {arguments : List TypeUse} (ofQualifier : ∀ type ∈ qualifier, IsRegular .alone (.declared type))
    (isName : IsClassName name) (ofArguments : ∀ type ∈ arguments, IsRegular .argument type) :
    IsRegular position (.declared ⟨qualifier, name, arguments⟩)

namespace FoldedType

/-! ### The reader -/

/-- Reads a type at the start of a text, and gives it together with the rest. -/
abbrev Reader := List Char → Option (FoldedType × List Char)

section

variable (read : Reader)

/-- Reads a bound of a wildcard, if the word for it is next. -/
def readBound? (word : List Char) (input : List Char) : Option (Option FoldedType × List Char) :=
  match word.isPrefixOf? input with
  | some rest => (read rest).map fun (type, rest) => (some type, rest)
  | none => some (none, input)

/-- Reads the arguments of a declared type, if there are any. -/
def readArguments? : List Char → Option (List FoldedType × List Char)
  | '<' :: input => Items.read? read '>' input
  | input => some ([], input)

/-- Reads a wildcard, a keyword, or a declared type as far as it has no qualifier. -/
def readElement? : List Char → Option (FoldedElement × List Char)
  | '?' :: input => do
    let (upper, rest) ← readBound? read " extends ".toList input
    let (lower, rest) ← readBound? read " super ".toList rest
    return (.wildcard upper lower, rest)
  | input =>
    let (word, rest) := input.span isIdentifierPart
    if word = "void".toList then some (.void, rest)
    else
      match ConstantKind.ofKeyword? word with
      | some kind => some (.primitive kind, rest)
      | none => do
        let (arguments, rest) ← readArguments? read rest
        return (.declared ⟨none, String.ofList word, arguments⟩, rest)

/-- Goes on after a type that has been read, with brackets and with names of members. The number is
a bound on how many there are. -/
def readSuffixes? : Nat → FoldedType → Reader
  | count + 1, type, '[' :: ']' :: input => readSuffixes? count (type.extend 1) input
  | count + 1, ⟨.declared type, 0⟩, '.' :: input => do
    let (word, rest) := input.span isIdentifierPart
    let (arguments, rest) ← readArguments? read rest
    readSuffixes? count ⟨.declared ⟨some type, String.ofList word, arguments⟩, 0⟩ rest
  | _, type, rest => some (type, rest)

/-- Reads a type whose parts are read by another reader. -/
def readLayer? : Reader := fun input => do
  let (element, rest) ← readElement? read input
  readSuffixes? read rest.length ⟨element, 0⟩ rest

end

/-- Reads a type whose parts are nested less deeply than some bound. -/
def readWithin? : Nat → Reader
  | 0 => fun _ => none
  | bound + 1 => readLayer? (readWithin? bound)

/-- The type that a text spells. -/
def read? (text : String) : Option FoldedType :=
  match readWithin? (text.length + 1) text.toList with
  | some (type, []) => some type
  | _ => none

/-! ### What follows a type -/

/-- Whether some text can follow a type. On its own, the type can be a part of an array or of a
member. -/
def Follows : TypePosition → List Char → Prop
  | .alone => GoesOnWith [',', '>', ' ', '.', '[']
  | .argument => GoesOnWith [',', '>']

/-- Whether some text can follow a type that goes no further. -/
abbrev Ends : List Char → Prop :=
  GoesOnWith [',', '>', ' ']

/-- Whether reading some text and what can follow it is going on from a type. -/
def Reads (position : TypePosition) (read : Reader) (text : List Char) (type : FoldedType) : Prop :=
  ∀ rest, Follows position rest → ∃ count, rest.length ≤ count ∧
    readLayer? read (text ++ rest) = readSuffixes? read count type rest

theorem Follows.alone {position : TypePosition} {rest : List Char}
    (follows : Follows position rest) : Follows .alone rest := by
  cases position with
  | alone => exact follows
  | argument => exact GoesOnWith.mono follows (by decide)

theorem Follows.ends {rest : List Char} (follows : Follows .argument rest) : Ends rest :=
  GoesOnWith.mono follows (by decide)

theorem Ends.follows {rest : List Char} (ends : Ends rest) : Follows .alone rest :=
  GoesOnWith.mono ends (by decide)

/-- A word is over where something follows a type. -/
theorem Follows.stops {rest : List Char} (follows : Follows .alone rest) :
    Stops isIdentifierPart rest :=
  GoesOnWith.stops follows (by decide)

/-- Where a type goes no further, nothing is read after it. -/
theorem Ends.readSuffixes? {rest : List Char} (ends : Ends rest) (read : Reader) (count : Nat)
    (type : FoldedType) : readSuffixes? read count type rest = some (type, rest) := by
  rw [FoldedType.readSuffixes?]
  · intro _ _ _
    exact ends.ne_cons (by decide) _
  · intro _ _ _ _ _
    exact ends.ne_cons (by decide) _

theorem Reads.readLayer? {position : TypePosition} {read : Reader} {text : List Char}
    {type : FoldedType} (reads : Reads position read text type) (rest : List Char)
    (follows : Follows position rest) (ends : Ends rest) :
    readLayer? read (text ++ rest) = some (type, rest) := by
  obtain ⟨count, -, goesOn⟩ := reads rest follows
  rw [goesOn, ends.readSuffixes?]

/-- What an argument is read up to is a comma or the bracket that closes the list. -/
theorem Reads.of_argument {read : Reader} {text : List Char} {type : FoldedType}
    (reads : Reads .argument read text type) :
    Items.Reads (FoldedType.readLayer? read) '>' text type := by
  intro next rest isNext
  have follows : Follows .argument (next :: rest) := by
    rcases isNext with rfl | rfl
    · exact List.mem_cons_self
    · exact List.mem_cons_of_mem _ List.mem_cons_self
  exact reads.readLayer? _ follows follows.ends

/-! ### Arrays -/

theorem readSuffixes?_brackets (read : Reader) (more count : Nat) (type : FoldedType)
    (rest : List Char) :
    readSuffixes? read (more + count) type (bracketChars more ++ rest) =
      readSuffixes? read count (type.extend more) rest := by
  induction more generalizing type with
  | zero =>
    rw [Nat.zero_add, type.extend_zero]
    rfl
  | succ more ih =>
    -- One pair of brackets is one dimension and one unit of fuel.
    have step : readSuffixes? read (more + 1 + count) type (bracketChars (more + 1) ++ rest) =
        readSuffixes? read (more + count) (type.extend 1) (bracketChars more ++ rest) := by
      rw [Nat.add_right_comm]
      rfl
    rw [step, ih, extend_extend, Nat.add_comm 1]

theorem Follows.brackets {position : TypePosition} {rest : List Char}
    (follows : Follows position rest) (dimensions : Nat) :
    Follows .alone (bracketChars dimensions ++ rest) := by
  cases dimensions with
  | zero => exact follows.alone
  | succ dimensions =>
    have isBracket : '[' ∈ [',', '>', ' ', '.', '['] := by decide
    exact isBracket

theorem reads_array {position : TypePosition} {read : Reader} {text : List Char} {type : FoldedType}
    (reads : Reads .alone read text type) (dimensions : Nat) :
    Reads position read (text ++ bracketChars dimensions) (type.extend dimensions) := by
  intro rest follows
  -- The element is what reading goes on from, with its own brackets already counted.
  obtain ⟨count, enough, goesOn⟩ :=
    reads (bracketChars dimensions ++ rest) (follows.brackets dimensions)
  rw [List.length_append, length_bracketChars] at enough
  obtain ⟨count, rfl⟩ := Nat.exists_eq_add_of_le (by omega : dimensions ≤ count)
  refine ⟨count, by omega, ?_⟩
  rw [List.append_assoc, goesOn, readSuffixes?_brackets]

/-! ### Words -/

theorem ofKeyword?_eq_none {name : String} (isName : IsClassName name) :
    ConstantKind.ofKeyword? name.toList = none := by
  rw [ConstantKind.ofKeyword?, List.find?_eq_none]
  intro kind isKind same
  have isPrimitive : ∀ kind ∈ [ConstantKind.boolean, .byte, .short, .int, .long, .char, .float,
      .double], kind.isPrimitive = true := by decide
  have isKeyword : kind.keyword = name := String.toList_inj.mp (beq_iff_eq.mp same)
  exact isName.notPrimitive kind (isPrimitive kind isKind) isKeyword.symm

section

variable {read : Reader} {word rest : List Char}
  (all : ∀ char ∈ word, isIdentifierPart char = true)
include all

/-- A word does not begin as a wildcard does. -/
theorem readElement?_word (nonempty : word ≠ []) (stops : Stops isIdentifierPart rest) :
    readElement? read (word ++ rest) =
      if word = "void".toList then some (.void, rest)
      else
        match ConstantKind.ofKeyword? word with
        | some kind => some (.primitive kind, rest)
        | none => (readArguments? read rest).map fun (arguments, rest) =>
          (.declared ⟨none, String.ofList word, arguments⟩, rest) := by
  have spans := span_word all stops
  cases word with
  | nil => exact absurd rfl nonempty
  | cons first more =>
    have isPart := all first List.mem_cons_self
    -- The first character is a part of an identifier, which a question mark is not.
    rw [List.cons_append, readElement?, ← List.cons_append, spans]
    · dsimp only
      cases readArguments? read rest <;> rfl
    · intro input same
      obtain ⟨rfl, -⟩ := List.cons.inj same
      cases isPart

end

theorem reads_element {position : TypePosition} {read : Reader} {text : List Char}
    {element : FoldedElement}
    (reads : ∀ rest, Follows .alone rest →
      readElement? read (text ++ rest) = some (element, rest)) :
    Reads position read text ⟨element, 0⟩ := by
  intro rest follows
  refine ⟨rest.length, Nat.le_refl _, ?_⟩
  rw [FoldedType.readLayer?, reads rest follows.alone]
  rfl

theorem reads_void {position : TypePosition} {read : Reader} :
    Reads position read TypeUse.void.chars ⟨.void, 0⟩ := by
  apply reads_element
  intro rest follows
  have letters : ∀ char ∈ "void".toList, isIdentifierPart char = true :=
    List.all_eq_true.mp (by decide)
  rw [TypeUse.chars_void, readElement?_word letters (by decide) follows.stops, if_pos rfl]

theorem reads_primitive {position : TypePosition} {read : Reader} {kind : ConstantKind}
    (isPrimitive : kind.isPrimitive = true) :
    Reads position read (TypeUse.primitive kind).chars ⟨.primitive kind, 0⟩ := by
  have letters : ∀ char ∈ kind.keyword.toList, isIdentifierPart char = true := by
    apply List.all_eq_true.mp
    cases kind <;> decide
  have nonempty : kind.keyword.toList ≠ [] ∧ kind.keyword.toList ≠ "void".toList := by
    cases kind <;> decide
  apply reads_element
  intro rest follows
  rw [TypeUse.chars_primitive, readElement?_word letters nonempty.1 follows.stops,
    if_neg nonempty.2, ConstantKind.ofKeyword?_keyword isPrimitive]

/-! ### Wildcards -/

section

variable {read : Reader} {bound : Option TypeUse}
  (reads : ∀ type ∈ bound, ∀ rest, Ends rest → read (type.chars ++ rest) = some (type.fold, rest))
  {rest : List Char} (ends : Ends rest)
include reads ends

theorem readBound?_boundChars {word : String} (notNext : word.toList.isPrefixOf? rest = none) :
    readBound? read word.toList (TypeUse.boundChars word bound ++ rest) =
      some (TypeUse.foldBound bound, rest) := by
  cases bound with
  | none =>
    rw [TypeUse.boundChars, List.nil_append, TypeUse.foldBound, readBound?, notNext]
  | some type =>
    rw [TypeUse.boundChars, List.append_assoc, TypeUse.foldBound, readBound?, isPrefixOf?_append]
    simp only [reads type rfl rest ends, Option.map_some]

end

theorem reads_wildcard {read : Reader} {upper lower : Option TypeUse}
    (ofUpper : ∀ type ∈ upper, ∀ rest, Ends rest →
      read (type.chars ++ rest) = some (type.fold, rest))
    (ofLower : ∀ type ∈ lower, ∀ rest, Ends rest →
      read (type.chars ++ rest) = some (type.fold, rest)) :
    Reads .argument read (TypeUse.wildcard upper lower).chars
      (TypeUse.wildcard upper lower).fold := by
  intro rest follows
  have noWord (word : List Char) : (' ' :: word).isPrefixOf? rest = none :=
    GoesOnWith.isPrefixOf?_eq_none follows (by decide) word
  -- A lower bound follows an upper bound, but its word is not taken for that of the upper one.
  have between : Ends (TypeUse.boundChars " super " lower ++ rest) ∧
      " extends ".toList.isPrefixOf? (TypeUse.boundChars " super " lower ++ rest) = none := by
    cases lower with
    | none => exact ⟨follows.ends, noWord _⟩
    | some type =>
      have isSpace : ' ' ∈ [',', '>', ' '] := by decide
      exact ⟨isSpace, rfl⟩
  have noLower : " super ".toList.isPrefixOf? rest = none := noWord _
  refine ⟨rest.length, Nat.le_refl _, ?_⟩
  rw [TypeUse.chars_wildcard, List.cons_append, List.append_assoc, FoldedType.readLayer?,
    readElement?, readBound?_boundChars ofUpper between.1 between.2]
  simp only [Option.bind_eq_bind, Option.bind_some,
    readBound?_boundChars ofLower follows.ends noLower]
  rw [TypeUse.fold]
  rfl

/-! ### Declared types -/

section

variable {read : Reader} {name : String} (isName : IsClassName name) {arguments : List TypeUse}
  (reads : ∀ type ∈ arguments, Items.Reads read '>' type.chars type.fold) {rest : List Char}
  (follows : Follows .alone rest)

include reads follows in
theorem readArguments?_argumentChars :
    readArguments? read (TypeUse.argumentChars arguments ++ rest) =
      some (TypeUse.foldList arguments, rest) := by
  cases arguments with
  | nil =>
    rw [TypeUse.argumentChars, List.nil_append, readArguments?]
    · rw [TypeUse.foldList]
    · exact GoesOnWith.ne_cons follows (by decide)
  | cons first others =>
    rw [TypeUse.argumentChars, List.cons_append, List.append_assoc, List.singleton_append,
      readArguments?, Items.read?_listText (by decide) (List.cons_ne_nil first others) reads,
      TypeUse.foldList_eq]
    · nofun

include follows in
/-- A name is over before the arguments after it. -/
theorem stops_argumentChars : Stops isIdentifierPart (TypeUse.argumentChars arguments ++ rest) := by
  cases arguments with
  | nil => exact follows.stops
  | cons first others => rfl

include isName

theorem all_isIdentifierPart : ∀ char ∈ name.toList, isIdentifierPart char = true := by
  obtain ⟨first, more, -, -, parts⟩ := exists_of_isIdentifier isName.isIdentifier
  exact parts

include reads follows

theorem readElement?_declared :
    readElement? read (name.toList ++ (TypeUse.argumentChars arguments ++ rest)) =
      some (.declared ⟨none, name, TypeUse.foldList arguments⟩, rest) := by
  obtain ⟨first, more, begins, -, -⟩ := exists_of_isIdentifier isName.isIdentifier
  have nonempty : name.toList ≠ [] := begins ▸ List.cons_ne_nil first more
  have notVoid : name.toList ≠ "void".toList :=
    fun same => isName.notVoid (String.toList_inj.mp same)
  rw [readElement?_word (all_isIdentifierPart isName) nonempty (stops_argumentChars follows),
    if_neg notVoid, ofKeyword?_eq_none isName]
  simp only [readArguments?_argumentChars reads follows, Option.map_some, String.ofList_toList]

theorem readSuffixes?_member (type : FoldedClass) (count : Nat) :
    readSuffixes? read (count + 1) ⟨.declared type, 0⟩
        ('.' :: (name.toList ++ (TypeUse.argumentChars arguments ++ rest))) =
      readSuffixes? read count ⟨.declared ⟨some type, name, TypeUse.foldList arguments⟩, 0⟩
        rest := by
  rw [readSuffixes?, span_word (all_isIdentifierPart isName) (stops_argumentChars follows)]
  simp only [readArguments?_argumentChars reads follows, Option.bind_eq_bind, Option.bind_some,
    String.ofList_toList]

end

theorem reads_declared {position : TypePosition} {read : Reader} {name : String}
    (isName : IsClassName name) {arguments : List TypeUse}
    (reads : ∀ type ∈ arguments, Items.Reads read '>' type.chars type.fold) :
    Reads position read (TypeUse.declared ⟨none, name, arguments⟩).chars
      (TypeUse.declared ⟨none, name, arguments⟩).fold := by
  rw [TypeUse.fold, ClassType.fold, ClassType.foldQualifier]
  apply reads_element
  intro rest follows
  rw [TypeUse.chars_declared, TypeUse.qualifierChars, List.nil_append, List.append_assoc]
  exact readElement?_declared isName reads follows

theorem reads_member {position : TypePosition} {read : Reader} {qualifier : ClassType}
    (readsQualifier : Reads .alone read (TypeUse.declared qualifier).chars
      (TypeUse.declared qualifier).fold) {name : String} (isName : IsClassName name)
    {arguments : List TypeUse}
    (reads : ∀ type ∈ arguments, Items.Reads read '>' type.chars type.fold) :
    Reads position read (TypeUse.declared ⟨some qualifier, name, arguments⟩).chars
      (TypeUse.declared ⟨some qualifier, name, arguments⟩).fold := by
  intro rest follows
  have isDot : '.' ∈ [',', '>', ' ', '.', '['] := by decide
  -- The qualifier is read to its end, and the dot and the name are the next suffix.
  obtain ⟨count, enough, goesOn⟩ :=
    readsQualifier ('.' :: (name.toList ++ (TypeUse.argumentChars arguments ++ rest))) isDot
  simp only [List.length_cons, List.length_append] at enough
  obtain ⟨count, rfl⟩ := Nat.exists_eq_add_of_le' (by omega : 1 ≤ count)
  refine ⟨count, by omega, ?_⟩
  rw [TypeUse.fold] at goesOn
  rw [TypeUse.chars_declared, TypeUse.qualifierChars, TypeUse.fold, ClassType.fold,
    ClassType.foldQualifier, List.append_assoc, List.append_assoc, List.append_assoc,
    List.singleton_append, goesOn, readSuffixes?_member isName reads follows.alone]

/-! ### Types -/

/-- Read on its own, a bound of a wildcard goes no further than its text. -/
theorem readWithin?_bound {bounds : Option TypeUse} (word : String) (bound : Nat)
    (reads : ∀ type ∈ bounds, ∀ bound, type.chars.length ≤ bound →
      Reads .alone (readWithin? bound) type.chars type.fold)
    (shorter : (TypeUse.boundChars word bounds).length < bound) :
    ∀ type ∈ bounds, ∀ rest, Ends rest →
      readWithin? bound (type.chars ++ rest) = some (type.fold, rest) := by
  rintro type ⟨⟩ rest ends
  rw [TypeUse.boundChars, List.length_append] at shorter
  obtain ⟨bound, rfl⟩ := Nat.exists_eq_add_of_le' (by omega : 1 ≤ bound)
  exact (reads type rfl bound (by omega)).readLayer? rest ends.follows ends

/-- Reading the text of a type is going on after the folded type, whatever can follow the text. -/
theorem reads_chars {position : TypePosition} {type : TypeUse}
    (isRegular : type.IsRegular position) : ∀ bound, type.chars.length ≤ bound →
      Reads position (readWithin? bound) type.chars type.fold := by
  -- By induction on the shape of the type. A type in angle brackets or in a bound has fewer
  -- characters than the whole, and is read with a smaller bound on the nesting. The element of an
  -- array and the qualifier of a member begin the whole, and are read with the same bound.
  induction isRegular with
  | @wildcard upper lower _ _ upperIH lowerIH =>
    intro bound enough
    rw [TypeUse.chars_wildcard, List.length_cons, List.length_append] at enough
    have ofUpper := readWithin?_bound " extends " bound upperIH (by omega)
    have ofLower := readWithin?_bound " super " bound lowerIH (by omega)
    exact reads_wildcard ofUpper ofLower
  | array dimensions _ ih =>
    intro bound enough
    rw [TypeUse.chars_array, List.length_append] at enough
    rw [TypeUse.chars_array, TypeUse.fold]
    exact reads_array (ih bound (by omega)) dimensions.toNat
  | primitive isPrimitive =>
    intro bound _
    rw [TypeUse.fold]
    exact reads_primitive isPrimitive
  | void =>
    intro bound _
    rw [TypeUse.fold]
    exact reads_void
  | @declared _ qualifier name arguments _ isName _ qualifierIH argumentsIH =>
    intro bound enough
    rw [TypeUse.chars_declared, List.length_append, List.length_append] at enough
    have ofArguments : ∀ type ∈ arguments,
        Items.Reads (readWithin? bound) '>' type.chars type.fold := by
      intro type member
      have shorter := Items.length_le_listText TypeUse.chars arguments type member
      cases arguments with
      | nil => cases member
      | cons first others =>
        simp only [TypeUse.argumentChars, List.length_cons, List.length_append] at enough
        obtain ⟨bound, rfl⟩ := Nat.exists_eq_add_of_le' (by omega : 1 ≤ bound)
        exact (argumentsIH type member bound (by omega)).of_argument
    cases qualifier with
    | none => exact reads_declared isName ofArguments
    | some type =>
      rw [TypeUse.qualifierChars, List.length_append] at enough
      exact reads_member (qualifierIH type rfl bound (by omega)) isName ofArguments

/-- What is read from the text of a type is the folded type. -/
theorem read?_text {type : TypeUse} (isRegular : type.IsRegular .alone) :
    read? (Tree.type type).text = some type.fold := by
  have length : (Tree.type type).text.length = type.chars.length := by
    rw [← String.length_toList, TypeUse.toList_text]
  have reads := (reads_chars isRegular _ (Nat.le_refl _)).readLayer? [] trivial trivial
  rw [List.append_nil] at reads
  rw [read?, length, TypeUse.toList_text, readWithin?, reads]

end FoldedType

/-- Types are printed to the same text just if they are the same once their arrays are folded. -/
theorem TypeUse.text_eq_iff_fold_eq {left right : TypeUse} (ofLeft : left.IsRegular .alone)
    (ofRight : right.IsRegular .alone) :
    (Tree.type left).text = (Tree.type right).text ↔ left.fold = right.fold := by
  constructor
  · intro same
    have read := FoldedType.read?_text ofLeft
    rw [same, FoldedType.read?_text ofRight] at read
    exact (Option.some.inj read).symm
  · intro same
    rw [← String.toList_inj, toList_text, toList_text, ← chars_fold, same, chars_fold]

/-- An array of arrays and one array that share a text, and a type that has as many brackets in
other places. -/
theorem TypeUse.text_eq_iff_fold_eq_of_brackets :
    let entry : UInt32 → TypeUse := fun dimensions => .declared ⟨some ⟨none, "Map",
      [.wildcard (some (.array (.primitive .int) dimensions)) none, .void]⟩, "Entry", []⟩
    let nested : TypeUse := .array (.array (.array (entry 1) 0) 2) 1
    let flat : TypeUse := .array (entry 1) 3
    let other : TypeUse := .array (entry 2) 2
    nested.IsRegular .alone ∧ flat.IsRegular .alone ∧ other.IsRegular .alone ∧
      (Tree.type flat).text = "Map<? extends int[], void>.Entry[][][]" ∧
      (Tree.type nested).text = (Tree.type flat).text ∧
      (Tree.type nested).text ≠ (Tree.type other).text := by
  intro entry nested flat other
  have isMap : IsClassName "Map" := ⟨by decide, by decide, fun kind _ => by cases kind <;> decide⟩
  have isEntry : IsClassName "Entry" :=
    ⟨by decide, by decide, fun kind _ => by cases kind <;> decide⟩
  have ofEntry (dimensions : UInt32) : (entry dimensions).IsRegular .alone := by
    refine .declared ?_ isEntry (by simp)
    rintro type ⟨⟩
    refine .declared (by simp) isMap ?_
    rw [List.forall_mem_cons, List.forall_mem_singleton]
    refine ⟨.wildcard ?_ (by simp), .void⟩
    rintro type ⟨⟩
    exact .array dimensions (.primitive rfl)
  have ofNested : nested.IsRegular .alone := .array 1 (.array 2 (.array 0 (ofEntry 1)))
  have ofFlat : flat.IsRegular .alone := .array 3 (ofEntry 1)
  have ofOther : other.IsRegular .alone := .array 2 (ofEntry 2)
  refine ⟨ofNested, ofFlat, ofOther, by decide, ?_, ?_⟩
  · apply (TypeUse.text_eq_iff_fold_eq ofNested ofFlat).mpr
    rw [fold_array_array, fold_array_zero, fold]
    rfl
  · intro same
    have folded := (TypeUse.text_eq_iff_fold_eq ofNested ofOther).mp same
    have dimensions := congrArg FoldedType.dimensions folded
    simp [nested, other, entry, fold, FoldedType.extend] at dimensions

end ClassHeader
