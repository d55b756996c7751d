import ClassHeader.Proofs.Pool.Ledger

/-!
# How a ledger numbers its entries

Indices ascend from 1 and stay below the next one, so that an index has at most one entry, and an
entry that is appended takes the next index without moving the entries before it.
-/

namespace ClassHeader

namespace Entry

theorem width_pos (entry : Entry) : 0 < entry.width :=
  entry.kind.width_pos

theorem bind_text?_eq_some_iff (found : Option Entry) (text : String) :
    found.bind text? = some text ↔ found = some (.utf8 text) := by
  rw [Option.bind_eq_some_iff]
  constructor
  · rintro ⟨entry, rfl, isText⟩
    cases entry <;> cases isText
    rfl
  · rintro rfl
    exact ⟨.utf8 text, rfl, rfl⟩

@[simp] theorem totalWidth_nil : totalWidth [] = 0 := rfl

@[simp] theorem totalWidth_cons (entry : Entry) (rest : List Entry) :
    totalWidth (entry :: rest) = entry.width + totalWidth rest := rfl

@[simp] theorem totalWidth_append (front back : List Entry) :
    totalWidth (front ++ back) = totalWidth front + totalWidth back := by
  induction front with
  | nil => simp
  | cons entry rest ih => simp [ih, Nat.add_assoc]

theorem number_append (start : Nat) (front back : List Entry) :
    number start (front ++ back) =
      number start front ++ number (start + totalWidth front) back := by
  induction front generalizing start with
  | nil => rfl
  | cons entry rest ih => simp [number, ih, Nat.add_assoc]

@[simp] theorem map_snd_number (start : Nat) (entries : List Entry) :
    (number start entries).map (·.2) = entries := by
  induction entries generalizing start with
  | nil => rfl
  | cons entry rest ih => simp [number, ih]

theorem number_bounds (start : Nat) (entries : List Entry) (numbered : Nat × Entry)
    (member : numbered ∈ number start entries) :
    start ≤ numbered.1 ∧ numbered.1 + numbered.2.width ≤ start + totalWidth entries := by
  induction entries generalizing start with
  | nil => cases member
  | cons entry rest ih =>
    rw [number, List.mem_cons] at member
    rw [totalWidth_cons]
    -- The first entry is at `start`, and the others are numbered from the index after it.
    rcases member with rfl | member
    · exact ⟨Nat.le_refl _, by dsimp only; omega⟩
    · have bounds := ih _ member
      omega

theorem number_ascending (start : Nat) (entries : List Entry) :
    (number start entries).Pairwise (·.1 < ·.1) := by
  induction entries generalizing start with
  | nil => exact .nil
  | cons entry rest ih =>
    refine .cons (fun later member => ?_) (ih _)
    have bounds := number_bounds _ _ later member
    have positive := entry.width_pos
    dsimp only
    omega

/-- The indices that an entry takes come before every other index above its own. -/
theorem number_apart (start : Nat) (entries : List Entry) {first second : Nat × Entry}
    (member : first ∈ number start entries) (member' : second ∈ number start entries)
    (below : first.1 < second.1) : first.1 + first.2.width ≤ second.1 := by
  induction entries generalizing start with
  | nil => cases member
  | cons entry rest ih =>
    rw [number, List.mem_cons] at member member'
    rcases member with rfl | later
    · rcases member' with rfl | later'
      · exact absurd below (Nat.lt_irrefl _)
      · exact (number_bounds _ _ second later').1
    · rcases member' with rfl | later'
      · -- The first entry of all cannot be above another one.
        have above := (number_bounds _ _ first later).1
        dsimp only at below
        omega
      · exact ih _ later later'

end Entry

/-- In an ascending list the pair at an index can be found by its index. -/
theorem find?_fst_eq_some_iff {α : Type} {pairs : List (Nat × α)}
    (ascending : pairs.Pairwise (·.1 < ·.1)) (index : Nat) (value : α) :
    (pairs.find? (·.1 == index)).map (·.2) = some value ↔ (index, value) ∈ pairs := by
  induction ascending with
  | nil => simp
  | @cons first rest below _ ih =>
    rw [List.find?_cons, List.mem_cons]
    -- If the first pair is at the index, then all later ones are at greater indices.
    by_cases here : first.1 = index
    · have absent : (index, value) ∉ rest := fun member => by
        have later := below _ member
        dsimp only at later
        omega
      simp [here, absent, Prod.ext_iff, eq_comm]
    · have other : (index, value) ≠ first := fun equal => here (equal ▸ rfl)
      rw [beq_false_of_ne here, ih]
      exact (or_iff_right other).symm

namespace Ledger

variable (ledger : Ledger)

@[simp] theorem entries_append (entry : Entry) :
    (ledger.append entry).entries = ledger.entries ++ [entry] := rfl

@[simp] theorem next_empty : empty.next = 1 := rfl

@[simp] theorem next_append (entry : Entry) :
    (ledger.append entry).next = ledger.next + entry.width := by
  simp [next, Nat.add_assoc]

@[simp] theorem indexed_append (entry : Entry) :
    (ledger.append entry).indexed = ledger.indexed ++ [(ledger.next, entry)] := by
  simp [indexed, next, Entry.number_append, Entry.number]

theorem map_snd_indexed : ledger.indexed.map (·.2) = ledger.entries :=
  Entry.map_snd_number 1 ledger.entries

theorem mem_entries_iff (entry : Entry) :
    entry ∈ ledger.entries ↔ ∃ index, (index, entry) ∈ ledger.indexed := by
  rw [← map_snd_indexed]
  simp

theorem indexed_ascending : ledger.indexed.Pairwise (·.1 < ·.1) :=
  Entry.number_ascending 1 ledger.entries

theorem indexed_bounds {index : Nat} {entry : Entry} (member : (index, entry) ∈ ledger.indexed) :
    0 < index ∧ index + entry.width ≤ ledger.next :=
  Entry.number_bounds 1 ledger.entries (index, entry) member

theorem index_lt_next {index : Nat} {entry : Entry} (member : (index, entry) ∈ ledger.indexed) :
    index < ledger.next := by
  have bounds := ledger.indexed_bounds member
  have positive := entry.width_pos
  omega

theorem indexed_apart {index index' : Nat} {entry entry' : Entry}
    (member : (index, entry) ∈ ledger.indexed) (member' : (index', entry') ∈ ledger.indexed)
    (below : index < index') : index + entry.width ≤ index' :=
  Entry.number_apart 1 ledger.entries member member' below

theorem get?_eq_some_iff (index : Nat) (entry : Entry) :
    ledger.get? index = some entry ↔ (index, entry) ∈ ledger.indexed :=
  find?_fst_eq_some_iff ledger.indexed_ascending index entry

/-- More entries after those of a ledger leave every index that is in use there as it is. -/
theorem get?_of_prefix {ledger later : Ledger} (longer : ledger.entries <+: later.entries)
    {index : Nat} (old : index < ledger.next) : later.get? index = ledger.get? index := by
  obtain ⟨added, whole⟩ := longer
  apply Option.ext
  intro found
  rw [get?_eq_some_iff, get?_eq_some_iff, indexed, ← whole, Entry.number_append, List.mem_append]
  apply or_iff_left
  intro member
  -- The entries that were added start at the next index.
  have bounds := Entry.number_bounds _ _ _ member
  exact Nat.not_le_of_lt old bounds.1

theorem textAt?_eq_some_iff (index : UInt16) (text : String) :
    ledger.textAt? index = some text ↔ (index.toNat, .utf8 text) ∈ ledger.indexed := by
  rw [textAt?, Entry.bind_text?_eq_some_iff, get?_eq_some_iff]

theorem textAt?_of_prefix {ledger later : Ledger} (longer : ledger.entries <+: later.entries)
    {index : UInt16} (old : index.toNat < ledger.next) :
    later.textAt? index = ledger.textAt? index := by
  rw [textAt?, get?_of_prefix longer old, textAt?]

end Ledger

end ClassHeader
