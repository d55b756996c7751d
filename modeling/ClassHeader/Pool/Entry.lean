import ClassHeader.Number.Binary

/-!
# Entries of a constant pool

An entry has a kind and a content: a text, a number, or a reference by index to the text of a class
name or of a string. The kind says which of these the content is. Long and double entries take two
indices, all others one.
-/

namespace ClassHeader

inductive EntryKind where
  | classInfo
  | string
  | integer
  | double
  | float
  | long
  | utf8
  deriving DecidableEq, Repr

namespace EntryKind

/-- The byte that starts an entry of the kind in a class file. -/
def tag : EntryKind → UInt8
  | .utf8 => 1
  | .integer => 3
  | .float => 4
  | .long => 5
  | .double => 6
  | .classInfo => 7
  | .string => 8

/-- How many indices an entry of the kind takes. -/
def width : EntryKind → Nat
  | .long | .double => 2
  | .classInfo | .string | .integer | .utf8 | .float => 1

theorem width_pos (kind : EntryKind) : 0 < kind.width := by
  cases kind <;> decide

/-- The name of the kind in messages. -/
def name : EntryKind → String
  | .classInfo => "ClassInfo"
  | .string => "String"
  | .integer => "Integer"
  | .double => "Double"
  | .float => "Float"
  | .long => "Long"
  | .utf8 => "Utf8"

end EntryKind

/-- What an entry holds, apart from what it is for. -/
inductive Content where
  | utf8 (text : String)
  /-- The index of a text. -/
  | index (text : UInt16)
  | integer (value : Int32)
  | float (value : Binary .single)
  | long (value : Int64)
  | double (value : Binary .double)
  deriving DecidableEq, Repr

/-- Equality, where floating-point numbers are compared as numbers. -/
def Content.equals : Content → Content → Bool
  | .utf8 left, .utf8 right => left == right
  | .index left, .index right => left == right
  | .integer left, .integer right => left == right
  | .float left, .float right => left.numericallyEqual right
  | .long left, .long right => left == right
  | .double left, .double right => left.numericallyEqual right
  | _, _ => false

/-- Whether entries of a kind hold such contents. It is reducible because the proofs inside entries
are `rfl`. -/
@[reducible] def EntryKind.admits : EntryKind → Content → Bool
  | .utf8, .utf8 _ | .classInfo, .index _ | .string, .index _ | .integer, .integer _
  | .float, .float _ | .long, .long _ | .double, .double _ => true
  | _, _ => false

/-- An entry of a constant pool. -/
structure Entry where
  kind : EntryKind
  content : Content
  admitted : kind.admits content = true
  deriving DecidableEq, Repr

namespace Entry

/-! ### The entries of each kind

A pool builds its entries in these seven ways, and each of them has to show that the kind admits the
content. There are no others, so that entries can be told apart by cases as if these were their
constructors.
-/

@[match_pattern] abbrev utf8 (text : String) : Entry := ⟨.utf8, .utf8 text, rfl⟩

/-- A class by the index of its name. -/
@[match_pattern] abbrev classInfo (text : UInt16) : Entry := ⟨.classInfo, .index text, rfl⟩

/-- A string by the index of its text. -/
@[match_pattern] abbrev string (text : UInt16) : Entry := ⟨.string, .index text, rfl⟩

@[match_pattern] abbrev integer (value : Int32) : Entry := ⟨.integer, .integer value, rfl⟩

@[match_pattern] abbrev float (value : Binary .single) : Entry := ⟨.float, .float value, rfl⟩

@[match_pattern] abbrev long (value : Int64) : Entry := ⟨.long, .long value, rfl⟩

@[match_pattern] abbrev double (value : Binary .double) : Entry := ⟨.double, .double value, rfl⟩

@[elab_as_elim, cases_eliminator]
theorem byKind {motive : Entry → Prop} (utf8 : ∀ text, motive (.utf8 text))
    (classInfo : ∀ text, motive (.classInfo text)) (string : ∀ text, motive (.string text))
    (integer : ∀ value, motive (.integer value)) (float : ∀ value, motive (.float value))
    (long : ∀ value, motive (.long value)) (double : ∀ value, motive (.double value)) :
    ∀ entry, motive entry
  | .utf8 text => utf8 text
  | .classInfo text => classInfo text
  | .string text => string text
  | .integer value => integer value
  | .float value => float value
  | .long value => long value
  | .double value => double value

/-! ### Widths and equality -/

def width (entry : Entry) : Nat :=
  entry.kind.width

/-- Equality of kind and content. -/
def equals (left right : Entry) : Bool :=
  left.kind == right.kind && left.content.equals right.content

end Entry

end ClassHeader
