import ClassHeader.Proofs.Text.Items
import ClassHeader.Proofs.Tree.Pieces

/-!
# Types with their arrays folded

Nothing in the text of an array tells whether its dimensions were added one by one, and an array
without dimensions is printed as its element. `TypeUse.fold` forgets these differences: a folded
type is an element that is no array, with any number of dimensions. What is printed depends on the
folded type alone (`TypeUse.chars_fold`).
-/

namespace ClassHeader

/-! ### Folded types -/

mutual

/-- A type that is no array. -/
inductive FoldedElement where
  | wildcard (upper lower : Option FoldedType)
  | primitive (kind : ConstantKind)
  | void
  | declared (type : FoldedClass)

/-- A type with all dimensions that it has as an array. There are none if it is no array. -/
structure FoldedType where
  element : FoldedElement
  dimensions : Nat

structure FoldedClass where
  qualifier : Option FoldedClass
  name : String
  arguments : List FoldedType

end

/-- An array of a type: the type with more dimensions. -/
def FoldedType.extend (type : FoldedType) (more : Nat) : FoldedType :=
  ⟨type.element, type.dimensions + more⟩

theorem FoldedType.extend_zero (type : FoldedType) : type.extend 0 = type := by
  cases type
  rfl

theorem FoldedType.extend_extend (type : FoldedType) (first second : Nat) :
    (type.extend first).extend second = type.extend (first + second) := by
  rw [extend, extend, extend, Nat.add_assoc]

mutual

/-- A type with each array of an array merged into one, with the sum of their dimensions, and each
array of no dimensions replaced by its element. -/
def TypeUse.fold : TypeUse → FoldedType
  | .wildcard upper lower => ⟨.wildcard (TypeUse.foldBound upper) (TypeUse.foldBound lower), 0⟩
  | .array element dimensions => element.fold.extend dimensions.toNat
  | .primitive kind => ⟨.primitive kind, 0⟩
  | .void => ⟨.void, 0⟩
  | .declared type => ⟨.declared type.fold, 0⟩

def TypeUse.foldBound : Option TypeUse → Option FoldedType
  | none => none
  | some type => some type.fold

def ClassType.fold : ClassType → FoldedClass
  | ⟨qualifier, name, arguments⟩ =>
    ⟨ClassType.foldQualifier qualifier, name, TypeUse.foldList arguments⟩

def ClassType.foldQualifier : Option ClassType → Option FoldedClass
  | none => none
  | some type => some type.fold

def TypeUse.foldList : List TypeUse → List FoldedType
  | [] => []
  | type :: rest => type.fold :: TypeUse.foldList rest

end

theorem TypeUse.fold_array_zero (element : TypeUse) : (array element 0).fold = element.fold := by
  rw [fold]
  exact element.fold.extend_zero

theorem TypeUse.fold_array_array (element : TypeUse) (inner outer : UInt32) :
    (array (array element inner) outer).fold =
      element.fold.extend (inner.toNat + outer.toNat) := by
  rw [fold, fold, FoldedType.extend_extend]

theorem TypeUse.foldList_eq (types : List TypeUse) : foldList types = types.map fold := by
  induction types with
  | nil => rw [foldList, List.map_nil]
  | cons type rest ih => rw [foldList, ih, List.map_cons]

/-! ### Characters of types -/

namespace TypeUse

/-- The characters that a type is printed as. -/
def chars (type : TypeUse) : List Char :=
  type.pieces.flatMap fun piece => piece.text.toList

theorem toList_text (type : TypeUse) : (Tree.type type).text.toList = type.chars := by
  rw [Tree.text_eq, Tree.textAt, Tree.pieces, Piece.spell, String.toList_join, List.flatMap_map,
    chars]

/-- A bound of a wildcard, if there is one, after the word for it. -/
def boundChars (word : String) : Option TypeUse → List Char
  | none => []
  | some type => word.toList ++ type.chars

/-- The arguments of a declared type, in angle brackets if there are any. -/
def argumentChars : List TypeUse → List Char
  | [] => []
  | arguments => '<' :: (Items.listText chars arguments ++ ['>'])

end TypeUse

/-- One pair of brackets for each dimension. -/
def bracketChars (dimensions : Nat) : List Char :=
  (List.replicate dimensions ['[', ']']).flatten

theorem bracketChars_add (first second : Nat) :
    bracketChars (first + second) = bracketChars first ++ bracketChars second := by
  rw [bracketChars, List.replicate_add, List.flatten_append, bracketChars, bracketChars]

theorem length_bracketChars (dimensions : Nat) :
    (bracketChars dimensions).length = 2 * dimensions := by
  induction dimensions with
  | zero => rfl
  | succ dimensions ih =>
    rw [bracketChars_add, List.length_append, ih]
    rfl

namespace TypeUse

theorem chars_wildcard (upper lower : Option TypeUse) :
    (wildcard upper lower).chars =
      '?' :: (boundChars " extends " upper ++ boundChars " super " lower) := by
  have bound (word : String) (bound : Option TypeUse) :
      ((boundPieces word bound).flatMap fun piece => piece.text.toList) =
        boundChars word bound := by
    cases bound with
    | none => simp [boundPieces, boundChars]
    | some type => simp [boundPieces, boundChars, Piece.text, chars]
  rw [chars, pieces, List.flatMap_cons, List.flatMap_append, bound, bound]
  rfl

theorem chars_array (element : TypeUse) (dimensions : UInt32) :
    (array element dimensions).chars = element.chars ++ bracketChars dimensions.toNat := by
  simp [chars, pieces, Piece.text, Printer.brackets, bracketChars]

theorem chars_primitive (kind : ConstantKind) : (primitive kind).chars = kind.keyword.toList := by
  simp [chars, pieces, Piece.text]

theorem chars_void : void.chars = "void".toList := by
  simp [chars, pieces, Piece.text]

theorem flatMap_listPieces (types : List TypeUse) :
    ((listPieces ", " types).flatMap fun piece => piece.text.toList) =
      Items.tailText chars types := by
  induction types with
  | nil => simp [listPieces, Items.tailText]
  | cons type rest ih =>
    rw [listPieces, Items.tailText, List.flatMap_cons, List.flatMap_append, ih]
    simp [chars, Piece.text]

/-- The characters of the qualifier of a declared type, with the dot after it. -/
def qualifierChars : Option ClassType → List Char
  | none => []
  | some type => (declared type).chars ++ ['.']

theorem chars_declared (qualifier : Option ClassType) (name : String) (arguments : List TypeUse) :
    (declared ⟨qualifier, name, arguments⟩).chars =
      qualifierChars qualifier ++ (name.toList ++ argumentChars arguments) := by
  have before : ((ClassType.qualifierPieces qualifier).flatMap fun piece => piece.text.toList) =
      qualifierChars qualifier := by
    cases qualifier with
    | none => simp [ClassType.qualifierPieces, qualifierChars]
    | some type =>
      simp [ClassType.qualifierPieces, qualifierChars, chars, pieces, Piece.text]
  cases arguments with
  | nil =>
    rw [chars, pieces, ClassType.pieces, List.flatMap_append, before]
    simp [argumentChars, Piece.text]
  | cons first rest =>
    rw [chars, pieces, ClassType.pieces, List.flatMap_append, before]
    simp [argumentChars, Items.listText, chars, Piece.text, ← flatMap_listPieces]

end TypeUse

/-! ### Characters of folded types -/

mutual

def FoldedElement.chars : FoldedElement → List Char
  | .wildcard upper lower =>
    '?' :: (FoldedType.boundChars " extends " upper ++ FoldedType.boundChars " super " lower)
  | .primitive kind => kind.keyword.toList
  | .void => "void".toList
  | .declared type => type.chars

def FoldedType.chars : FoldedType → List Char
  | ⟨element, dimensions⟩ => element.chars ++ bracketChars dimensions

def FoldedType.boundChars (word : String) : Option FoldedType → List Char
  | none => []
  | some type => word.toList ++ type.chars

def FoldedClass.chars : FoldedClass → List Char
  | ⟨qualifier, name, []⟩ => FoldedClass.qualifierChars qualifier ++ name.toList
  | ⟨qualifier, name, first :: rest⟩ =>
    FoldedClass.qualifierChars qualifier ++ (name.toList ++
      '<' :: (first.chars ++ (FoldedType.tailChars rest ++ ['>'])))

def FoldedClass.qualifierChars : Option FoldedClass → List Char
  | none => []
  | some type => type.chars ++ ['.']

def FoldedType.tailChars : List FoldedType → List Char
  | [] => []
  | type :: rest => ',' :: ' ' :: (type.chars ++ FoldedType.tailChars rest)

end

theorem FoldedType.chars_extend (type : FoldedType) (more : Nat) :
    (type.extend more).chars = type.chars ++ bracketChars more := by
  obtain ⟨element, dimensions⟩ := type
  rw [extend, chars, chars, bracketChars_add, List.append_assoc]

/-! ### Folding does not show -/

namespace TypeUse

mutual

/-- A type and the folded type are printed alike. -/
theorem chars_fold : (type : TypeUse) → type.fold.chars = type.chars
  | .wildcard upper lower => by
    rw [fold, FoldedType.chars, FoldedElement.chars, boundChars_fold upper, boundChars_fold lower,
      chars_wildcard]
    simp [bracketChars]
  | .array element dimensions => by
    rw [fold, FoldedType.chars_extend, chars_fold element, chars_array]
  | .primitive kind => by
    simp [fold, FoldedType.chars, FoldedElement.chars, chars_primitive, bracketChars]
  | .void => by
    simp [fold, FoldedType.chars, FoldedElement.chars, chars_void, bracketChars]
  | .declared type => by
    rw [fold, FoldedType.chars, FoldedElement.chars, classChars_fold type]
    simp [bracketChars]

theorem boundChars_fold : (bound : Option TypeUse) → (word : String) →
    FoldedType.boundChars word (foldBound bound) = boundChars word bound
  | none, word => by
    rw [foldBound, FoldedType.boundChars, boundChars]
  | some type, word => by
    rw [foldBound, FoldedType.boundChars, boundChars, chars_fold type]

theorem classChars_fold : (type : ClassType) → type.fold.chars = (declared type).chars
  | ⟨qualifier, name, []⟩ => by
    rw [ClassType.fold, foldList, FoldedClass.chars, qualifierChars_fold qualifier, chars_declared]
    simp [argumentChars]
  | ⟨qualifier, name, first :: rest⟩ => by
    rw [ClassType.fold, foldList, FoldedClass.chars, qualifierChars_fold qualifier,
      chars_fold first, tailChars_fold rest, chars_declared]
    simp [argumentChars, Items.listText]

theorem qualifierChars_fold : (qualifier : Option ClassType) →
    FoldedClass.qualifierChars (ClassType.foldQualifier qualifier) = qualifierChars qualifier
  | none => by
    rw [ClassType.foldQualifier, FoldedClass.qualifierChars, qualifierChars]
  | some type => by
    rw [ClassType.foldQualifier, FoldedClass.qualifierChars, qualifierChars, classChars_fold type]

theorem tailChars_fold : (types : List TypeUse) →
    FoldedType.tailChars (foldList types) = Items.tailText chars types
  | [] => by
    rw [foldList, FoldedType.tailChars, Items.tailText]
  | type :: rest => by
    rw [foldList, FoldedType.tailChars, Items.tailText, chars_fold type, tailChars_fold rest]

end

end TypeUse

end ClassHeader
