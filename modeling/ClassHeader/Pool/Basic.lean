import ClassHeader.Pool.Journal
import Std.Data.HashMap

/-!
# Constant pools

A pool collects the constants of one class file. Each distinct constant is stored once, under the
index that it was given first. Indices start at 1 and are at most 65534, since the number after the
last one must fit in 16 bits; a request for which there is no room is refused and changes nothing.

Floating-point numbers are distinct if their bits differ, except that every NaN of one precision is
the same constant.
-/

namespace ClassHeader

/-- A request for the index of a constant. -/
inductive Request where
  | utf8 (text : String)
  | classInfo (name : String)
  | string (text : String)
  | integer (value : Int32)
  | long (value : Int64)
  | float (value : Binary .single)
  | double (value : Binary .double)
  deriving DecidableEq, Repr

/-- There is no room for an entry of some kind, where the next index would be `index`. -/
structure Overflow where
  kind : EntryKind
  index : UInt16
  deriving DecidableEq, Repr

def Overflow.message (overflow : Overflow) : String :=
  "constant pool overflow: cannot add " ++ overflow.kind.name ++ " entry at index " ++
    overflow.index.toNat.repr

/-- The constants of a class file. Seven maps lead from the constants of each kind to their indices;
class and string constants are found by the index of their text. -/
structure Pool where
  next : UInt16
  utf8s : Std.HashMap String UInt16
  classInfos : Std.HashMap UInt16 UInt16
  strings : Std.HashMap UInt16 UInt16
  integers : Std.HashMap Int32 UInt16
  longs : Std.HashMap Int64 UInt16
  /-- The keys are canonical. -/
  floats : Std.HashMap (Binary .single) UInt16
  /-- The keys are canonical. -/
  doubles : Std.HashMap (Binary .double) UInt16
  /-- The entries in the order in which they were added. -/
  entries : Array Entry

/-- What a request leaves behind: the pool, an index or a refusal, and what was recorded. -/
structure Outcome where
  pool : Pool
  answer : Except Overflow UInt16
  journal : List Event

namespace Outcome

/-- Goes on with the index that was answered, if there is one. -/
def andThen (outcome : Outcome) (more : UInt16 → Pool → Outcome) : Outcome :=
  match outcome with
  | ⟨pool, .ok index, journal⟩ =>
    let later := more index pool
    { later with journal := journal ++ later.journal }
  | refused => refused

end Outcome

namespace Pool

def empty : Pool :=
  ⟨1, {}, {}, {}, {}, {}, {}, {}, #[]⟩

def size (pool : Pool) : Nat :=
  pool.entries.size

/-! ### Adding constants -/

/-- The next index after an entry of some kind and `others` more indices, if it fits in 16 bits. -/
def nextAfter (pool : Pool) (kind : EntryKind) (others : Nat) : Except Overflow UInt16 :=
  let next := pool.next.toNat + kind.width + others
  if next < 0x10000 then .ok next.toUInt16 else .error ⟨kind, pool.next⟩

/-- The answer for a constant that is there already. -/
def found (pool : Pool) (index : UInt16) : Outcome :=
  ⟨pool, .ok index, []⟩

/-- Adds an entry if there is room, and lets `remember` note its index. -/
def append (pool : Pool) (entry : Entry) (remember : UInt16 → Pool → Pool) : Outcome :=
  match pool.nextAfter entry.kind 0 with
  | .error overflow => ⟨pool, .error overflow, []⟩
  | .ok next =>
    let index := pool.next
    ⟨remember index { pool with entries := pool.entries.push entry, next := next }, .ok index,
      [.added index entry]⟩

def addUtf8 (pool : Pool) (text : String) : Outcome :=
  match pool.utf8s[text]? with
  | some index => pool.found index
  | none =>
    pool.append (.utf8 text) fun index pool =>
      { pool with utf8s := pool.utf8s.insert text index }

/-- Adds an entry of some kind that refers to a text, and the text first if it is not there. Room
for both is checked before either is added. -/
def appendReferring (pool : Pool) (kind : EntryKind) (text : String)
    (referring : UInt16 → Pool → Outcome) : Outcome :=
  match pool.utf8s[text]? with
  | some backing => referring backing pool
  | none =>
    match pool.nextAfter kind EntryKind.utf8.width with
    | .error overflow => ⟨pool, .error overflow, []⟩
    | .ok _ => (pool.addUtf8 text).andThen referring

def addClassInfoOf (backing : UInt16) (pool : Pool) : Outcome :=
  match pool.classInfos[backing]? with
  | some index => pool.found index
  | none =>
    pool.append (.classInfo backing) fun index pool =>
      { pool with classInfos := pool.classInfos.insert backing index }

def addStringOf (backing : UInt16) (pool : Pool) : Outcome :=
  match pool.strings[backing]? with
  | some index => pool.found index
  | none =>
    pool.append (.string backing) fun index pool =>
      { pool with strings := pool.strings.insert backing index }

def addInteger (pool : Pool) (value : Int32) : Outcome :=
  match pool.integers[value]? with
  | some index => pool.found index
  | none =>
    pool.append (.integer value) fun index pool =>
      { pool with integers := pool.integers.insert value index }

def addLong (pool : Pool) (value : Int64) : Outcome :=
  match pool.longs[value]? with
  | some index => pool.found index
  | none =>
    pool.append (.long value) fun index pool =>
      { pool with longs := pool.longs.insert value index }

/-- Finds or adds a single-precision number. The entry keeps the bits that it was given. -/
def addFloat (pool : Pool) (value : Binary .single) : Outcome :=
  match pool.floats[value.canonical]? with
  | some index => pool.found index
  | none =>
    pool.append (.float value) fun index pool =>
      { pool with floats := pool.floats.insert value.canonical index }

/-- Finds or adds a double-precision number. The entry keeps the bits that it was given. -/
def addDouble (pool : Pool) (value : Binary .double) : Outcome :=
  match pool.doubles[value.canonical]? with
  | some index => pool.found index
  | none =>
    pool.append (.double value) fun index pool =>
      { pool with doubles := pool.doubles.insert value.canonical index }

def add (pool : Pool) : Request → Outcome
  | .utf8 text => pool.addUtf8 text
  | .classInfo name => pool.appendReferring .classInfo name addClassInfoOf
  | .string text => pool.appendReferring .string text addStringOf
  | .integer value => pool.addInteger value
  | .long value => pool.addLong value
  | .float value => pool.addFloat value
  | .double value => pool.addDouble value

/-! ### Reading -/

/-- The entries with their indices, in ascending order. An index counts the indices that the entries
before it take. -/
def indexed (pool : Pool) : List (UInt16 × Entry) :=
  (pool.entries.foldl
    (fun (next, found) entry => (next + entry.width.toUInt16, found.push (next, entry)))
    ((1 : UInt16), (#[] : Array (UInt16 × Entry)))).2.toList

/-- The entry at an index. Zero has none, nor has the second index of an entry that takes two. -/
def get? (pool : Pool) (index : UInt16) : Option Entry :=
  ((pool.indexed.takeWhile (·.1 ≤ index)).find? (·.1 == index)).map (·.2)

end Pool

end ClassHeader
