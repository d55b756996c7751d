/-!
# Modifiers

The modifiers of declarations, their access flags in a class file, and sets of them. A set lists its
members in the order in which they are written.
-/

namespace ClassHeader

/-- A modifier of a declaration, in the order in which modifiers are written. -/
inductive Modifier where
  | publicAccess
  | protectedAccess
  | privateAccess
  | abstract
  | default
  | static
  | final
  | transient
  | volatile
  | synchronized
  | native
  | strictfp
  deriving DecidableEq, Ord, Repr

namespace Modifier

/-- The modifier as it is written in source text. -/
def keyword : Modifier → String
  | .publicAccess => "public"
  | .protectedAccess => "protected"
  | .privateAccess => "private"
  | .abstract => "abstract"
  | .default => "default"
  | .static => "static"
  | .final => "final"
  | .transient => "transient"
  | .volatile => "volatile"
  | .synchronized => "synchronized"
  | .native => "native"
  | .strictfp => "strictfp"

/-- The bit that stands for the modifier among the access flags of a class file. A default method
has none. -/
def accessFlag : Modifier → UInt16
  | .publicAccess => 0x0001
  | .privateAccess => 0x0002
  | .protectedAccess => 0x0004
  | .static => 0x0008
  | .final => 0x0010
  | .synchronized => 0x0020
  | .volatile => 0x0040
  | .transient => 0x0080
  | .native => 0x0100
  | .abstract => 0x0400
  | .strictfp => 0x0800
  | .default => 0

def all : List Modifier :=
  [.publicAccess, .protectedAccess, .privateAccess, .abstract, .default, .static, .final,
    .transient, .volatile, .synchronized, .native, .strictfp]

theorem mem_all (modifier : Modifier) : modifier ∈ all := by
  cases modifier <;> decide

theorem all_ascending : all.Pairwise (fun first second => compare first second = .lt) := by
  decide

end Modifier

/-- A set of modifiers: a list in ascending order, and so without repetition. -/
structure Modifiers where
  toList : List Modifier
  ascending : toList.Pairwise (fun first second => compare first second = .lt)
  deriving DecidableEq

namespace Modifiers

def ofList (modifiers : List Modifier) : Modifiers :=
  ⟨Modifier.all.filter (· ∈ modifiers), Modifier.all_ascending.filter _⟩

theorem mem_ofList {modifier : Modifier} {modifiers : List Modifier} :
    modifier ∈ (ofList modifiers).toList ↔ modifier ∈ modifiers := by
  simp [ofList, Modifier.mem_all]

/-- The access flags of a declaration with these modifiers. -/
def accessFlags (modifiers : Modifiers) : UInt16 :=
  modifiers.toList.foldl (fun flags modifier => flags ||| modifier.accessFlag) 0

end Modifiers

end ClassHeader
