import ClassHeader.Pool.Basic

/-!
# Ledgers

A ledger is a pool that keeps the list of its entries and nothing else. It numbers entries without a
bound, one more than the indices that the entries before them take, and finds a constant by reading
the list from the front. It is what pools with their maps and their 16-bit counter are measured by.
-/

namespace ClassHeader

/-- Whether two numbers are one constant: both are NaN, or all their bits agree. -/
def Binary.alike {precision : Precision} (left right : Binary precision) : Bool :=
  left.isNaN && right.isNaN || left.bits == right.bits

namespace Request

def kind : Request → EntryKind
  | .utf8 _ => .utf8
  | .classInfo _ => .classInfo
  | .string _ => .string
  | .integer _ => .integer
  | .long _ => .long
  | .float _ => .float
  | .double _ => .double

/-- The text that the entry refers to, if it refers to one. -/
def text? : Request → Option String
  | .classInfo name => some name
  | .string text => some text
  | _ => none

/-- The entry that is asked for, if the text that it refers to is at index `text`. -/
def entry (text : UInt16) : Request → Entry
  | .utf8 content => .utf8 content
  | .classInfo _ => .classInfo text
  | .string _ => .string text
  | .integer value => .integer value
  | .long value => .long value
  | .float value => .float value
  | .double value => .double value

@[simp] theorem kind_entry (request : Request) (text : UInt16) :
    (request.entry text).kind = request.kind := by
  cases request <;> rfl

@[simp] theorem width_entry (request : Request) (text : UInt16) :
    (request.entry text).width = request.kind.width := by
  rw [Entry.width, kind_entry]

end Request

namespace Entry

def text? : Entry → Option String
  | .utf8 text => some text
  | _ => none

def reference? : Entry → Option UInt16
  | .classInfo text => some text
  | .string text => some text
  | _ => none

/-- Whether an entry is what a request asks for. A reference counts as the text it leads to. -/
def answers (textAt? : UInt16 → Option String) : Entry → Request → Bool
  | .utf8 stored, .utf8 text => stored == text
  | .classInfo index, .classInfo name => textAt? index == some name
  | .string index, .string text => textAt? index == some text
  | .integer stored, .integer value => stored == value
  | .long stored, .long value => stored == value
  | .float stored, .float value => stored.alike value
  | .double stored, .double value => stored.alike value
  | _, _ => false

/-- How many indices a list of entries takes. -/
def totalWidth : List Entry → Nat
  | [] => 0
  | entry :: rest => entry.width + totalWidth rest

/-- Entries with their indices, where the first of them has index `start`. -/
def number (start : Nat) : List Entry → List (Nat × Entry)
  | [] => []
  | entry :: rest => (start, entry) :: number (start + entry.width) rest

end Entry

/-- There is no room for an entry of some kind, where the next index would be `index`. -/
structure Refusal where
  kind : EntryKind
  index : Nat
  deriving DecidableEq, Repr

/-- A pool that is only its entries, in the order in which they were added. -/
structure Ledger where
  entries : List Entry
  deriving DecidableEq, Repr

namespace Ledger

def empty : Ledger := ⟨[]⟩

def next (ledger : Ledger) : Nat :=
  1 + Entry.totalWidth ledger.entries

def indexed (ledger : Ledger) : List (Nat × Entry) :=
  Entry.number 1 ledger.entries

def get? (ledger : Ledger) (index : Nat) : Option Entry :=
  (ledger.indexed.find? (·.1 == index)).map (·.2)

def textAt? (ledger : Ledger) (index : UInt16) : Option String :=
  (ledger.get? index.toNat).bind Entry.text?

/-- The index of the first entry that a request asks for. -/
def find? (ledger : Ledger) (request : Request) : Option Nat :=
  (ledger.indexed.find? fun (_, entry) => entry.answers ledger.textAt? request).map (·.1)

def append (ledger : Ledger) (entry : Entry) : Ledger :=
  ⟨ledger.entries ++ [entry]⟩

/-- The ledger with the text that a request refers to, which is appended unless it is there. -/
def withText (ledger : Ledger) (request : Request) : Ledger :=
  match request.text? with
  | none => ledger
  | some text =>
    match ledger.find? (.utf8 text) with
    | some _ => ledger
    | none => ledger.append (.utf8 text)

/-- The index of the text that a request refers to; zero, which is no index, if there is none. -/
def backing (ledger : Ledger) (request : Request) : UInt16 :=
  ((request.text?.bind fun text => ledger.find? (.utf8 text)).getD 0).toUInt16

/-- Finds the constant that is asked for, or appends its text where that is missing and then its
entry, unless the number after the last index would exceed 65535. -/
def add (ledger : Ledger) (request : Request) : Ledger × Except Refusal Nat :=
  match ledger.find? request with
  | some index => (ledger, .ok index)
  | none =>
    let backed := ledger.withText request
    let full := backed.append (request.entry (backed.backing request))
    if full.next ≤ 65535 then (full, .ok backed.next)
    else (ledger, .error ⟨request.kind, ledger.next⟩)

/-- The ledger after some requests, refused ones included. -/
def addAll (ledger : Ledger) (requests : List Request) : Ledger :=
  requests.foldl (fun ledger request => (ledger.add request).1) ledger

end Ledger

/-- All that can be read from a pool. -/
structure View where
  constants : List Entry
  next : Nat
  size : Nat
  indexed : List (Nat × Entry)
  get? : UInt16 → Option Entry

def Ledger.view (ledger : Ledger) : View :=
  ⟨ledger.entries, ledger.next, ledger.entries.length, ledger.indexed, fun i => ledger.get? i.toNat⟩

/-- The answers of a ledger to requests, one after the other, with what can be read after each. -/
def Ledger.transcript : Ledger → List Request → List (Except Refusal Nat × View)
  | _, [] => []
  | ledger, request :: rest =>
    let (after, reply) := ledger.add request
    (reply, after.view) :: after.transcript rest

/-- The answer to a request, as a ledger gives it. -/
def Outcome.reply (outcome : Outcome) : Except Refusal Nat :=
  match outcome.answer with
  | .ok index => .ok index.toNat
  | .error overflow => .error ⟨overflow.kind, overflow.index.toNat⟩

def Pool.view (pool : Pool) : View :=
  ⟨pool.entries.toList, pool.next.toNat, pool.size,
    pool.indexed.map fun (index, entry) => (index.toNat, entry), pool.get?⟩

/-- The answers of a pool to requests, one after the other, with what can be read after each. -/
def Pool.transcript : Pool → List Request → List (Except Refusal Nat × View)
  | _, [] => []
  | pool, request :: rest =>
    let outcome := pool.add request
    (outcome.reply, outcome.pool.view) :: outcome.pool.transcript rest

end ClassHeader
