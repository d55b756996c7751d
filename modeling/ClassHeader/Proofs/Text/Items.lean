import Mathlib.Data.List.Basic

/-!
# Lists in text

The items of a list are printed with commas between them and a closing character after the last. A
list is read with a reader of its items, which can be of any kind as long as what it reads an item
up to is the comma or the closing character (`Reads`).
-/

namespace ClassHeader.Items

variable {α β : Type}

/-! ### The text of a list -/

/-- The text of items that follow another item. -/
def tailText (text : α → List Char) : List α → List Char
  | [] => []
  | item :: rest => ',' :: ' ' :: (text item ++ tailText text rest)

/-- The text of items with commas between them. -/
def listText (text : α → List Char) : List α → List Char
  | [] => []
  | first :: rest => text first ++ tailText text rest

theorem length_tailText (text : α → List Char) (items : List α) :
    items.length ≤ (tailText text items).length ∧
      ∀ item ∈ items, (text item).length ≤ (tailText text items).length := by
  induction items with
  | nil => simp
  | cons item rest ih =>
    simp only [tailText, List.length_cons, List.length_append, List.forall_mem_cons]
    refine ⟨by omega, by omega, fun other member => ?_⟩
    have bound := ih.2 other member
    omega

/-- No item is longer than the list. -/
theorem length_le_listText (text : α → List Char) (items : List α) :
    ∀ item ∈ items, (text item).length ≤ (listText text items).length := by
  cases items with
  | nil => simp
  | cons first rest =>
    simp only [listText, List.length_append, List.forall_mem_cons]
    refine ⟨by omega, fun item member => ?_⟩
    have bound := (length_tailText text rest).2 item member
    omega

/-! ### The reader -/

section

variable (read : List Char → Option (β × List Char)) (close : Char)

/-- Reads the items after the first one, up to what closes the list. The number is a bound on how
many items there are. -/
def readTail? : Nat → List Char → Option (List β × List Char)
  | bound + 1, ',' :: ' ' :: input => do
    let (item, rest) ← read input
    let (items, rest) ← readTail? bound rest
    return (item :: items, rest)
  | _, next :: rest => if next = close then some ([], rest) else none
  | _, [] => none

/-- Reads a list that is open. Where no item can be read, the list has none. -/
def read? (input : List Char) : Option (List β × List Char) :=
  match read input with
  | some (first, rest) => do
    let (items, rest) ← readTail? read close rest.length rest
    return (first :: items, rest)
  | none => readTail? read close 0 input

/-- Whether an item is read from its text when the list goes on or is closed after it. -/
def Reads (text : List Char) (item : β) : Prop :=
  ∀ next rest, next = ',' ∨ next = close →
    read (text ++ next :: rest) = some (item, next :: rest)

end

section

variable {read : List Char → Option (β × List Char)} {close : Char} {text : α → List Char}
  {value : α → β} {items : List α}

/-- What follows an item in a list begins with a comma or closes the list. -/
theorem Reads.read_tail {item : β} {itemText : List Char} (reads : Reads read close itemText item)
    (rest : List Char) :
    read (itemText ++ (tailText text items ++ close :: rest)) =
      some (item, tailText text items ++ close :: rest) := by
  cases items with
  | nil => exact reads close rest (Or.inr rfl)
  | cons other others => exact reads ',' _ (Or.inl rfl)

variable (notComma : close ≠ ',')
include notComma

theorem readTail?_close (bound : Nat) (rest : List Char) :
    readTail? read close bound (close :: rest) = some ([], rest) := by
  rw [readTail?, if_pos rfl]
  intro bound input _ isComma
  exact absurd isComma notComma

theorem read?_close {rest : List Char} (noItem : read (close :: rest) = none) :
    read? read close (close :: rest) = some ([], rest) := by
  rw [read?, noItem]
  exact readTail?_close notComma 0 rest

theorem readTail?_tailText
    (reads : ∀ item ∈ items, Reads read close (text item) (value item)) {bound : Nat}
    (enough : items.length ≤ bound) (rest : List Char) :
    readTail? read close bound (tailText text items ++ close :: rest) =
      some (items.map value, rest) := by
  induction items generalizing bound with
  | nil => exact readTail?_close notComma bound rest
  | cons item items ih =>
    obtain ⟨bound, rfl⟩ := Nat.exists_eq_add_of_le' (Nat.one_le_of_lt enough)
    rw [List.forall_mem_cons] at reads
    -- The item is read up to what follows it, which is the tail of a shorter list.
    have others := ih reads.2 (Nat.le_of_succ_le_succ enough)
    rw [tailText, List.cons_append, List.cons_append, List.append_assoc, readTail?,
      reads.1.read_tail]
    simp only [Option.bind_eq_bind, Option.bind_some, others]
    rfl

/-- A list with an item is read up to what closes it. -/
theorem read?_listText (nonempty : items ≠ [])
    (reads : ∀ item ∈ items, Reads read close (text item) (value item)) (rest : List Char) :
    read? read close (listText text items ++ close :: rest) = some (items.map value, rest) := by
  cases items with
  | nil => exact absurd rfl nonempty
  | cons first items =>
    rw [List.forall_mem_cons] at reads
    -- Each of the other items has its own comma, so that the length of the text is fuel enough.
    have enough : items.length ≤ (tailText text items ++ close :: rest).length := by
      have bound := (length_tailText text items).1
      rw [List.length_append]
      omega
    have others := readTail?_tailText notComma reads.2 enough rest
    rw [listText, List.append_assoc, read?, reads.1.read_tail]
    simp only [others]
    rfl

end

end ClassHeader.Items
