import ClassHeader.Proofs.Pool.Canonical
import ClassHeader.Proofs.Pool.Numbering

/-!
# How a ledger finds a constant

In a sound ledger no two entries have one canonical form, and every reference leads to a text before
the entry that holds it. Reading the list from the front is then as good as looking a canonical form
up, and a class or string constant is found by the index of its text.
-/

namespace ClassHeader.Ledger

/-- The index of the first entry with a canonical form. -/
def position? (ledger : Ledger) (key : Entry) : Option Nat :=
  (ledger.indexed.find? (·.2.canonical = key)).map (·.1)

/-- Whether an entry is there that a request asks for. -/
def Contains (ledger : Ledger) (request : Request) : Prop :=
  ∃ entry ∈ ledger.entries, entry.answers ledger.textAt? request = true

/-- How many indices a constant takes if it is not there, with its text if that is not there. -/
def need (ledger : Ledger) (request : Request) : Nat :=
  request.kind.width +
    match request.text? with
    | some text => if Entry.utf8 text ∈ ledger.entries then 0 else 1
    | none => 0

/-- What holds of the entries of every pool. -/
structure Sound (ledger : Ledger) : Prop where
  /-- Every constant is there once. -/
  distinct : (ledger.entries.map Entry.canonical).Nodup
  /-- A reference leads to a text at a lower index. -/
  backed : ∀ index entry, (index, entry) ∈ ledger.indexed → ∀ text, entry.reference? = some text →
    text.toNat < index ∧ ∃ content, (text.toNat, .utf8 content) ∈ ledger.indexed
  /-- The number after the last index fits in 16 bits. -/
  bounded : ledger.next ≤ 65535

/-! ### Room -/

section

variable (ledger : Ledger) {request : Request} {text : String}

theorem need_of_plain (plain : request.text? = none) :
    ledger.need request = request.kind.width := by
  simp [need, plain]

theorem need_of_mem (refers : request.text? = some text) (there : .utf8 text ∈ ledger.entries) :
    ledger.need request = request.kind.width := by
  simp [need, refers, there]

theorem need_of_not_mem (refers : request.text? = some text)
    (missing : .utf8 text ∉ ledger.entries) :
    ledger.need request = request.kind.width + 1 := by
  simp [need, refers, missing]

end

/-! ### Canonical forms -/

section

variable (ledger : Ledger) (key : Entry)

theorem position?_eq_none_iff :
    ledger.position? key = none ↔ ∀ entry ∈ ledger.entries, entry.canonical ≠ key := by
  simpa [position?, mem_entries_iff] using forall_comm

theorem position?_append (entry : Entry) :
    (ledger.append entry).position? key =
      (ledger.position? key).or (if entry.canonical = key then some ledger.next else none) := by
  rw [position?, indexed_append, List.find?_append, Option.map_or, List.find?_singleton, position?]
  by_cases same : entry.canonical = key <;> simp [same]

theorem mem_of_position? {index : Nat} (found : ledger.position? key = some index) :
    ∃ entry, (index, entry) ∈ ledger.indexed ∧ entry.canonical = key := by
  obtain ⟨⟨place, entry⟩, first, rfl⟩ := Option.map_eq_some_iff.mp found
  exact ⟨entry, List.mem_of_find?_eq_some first, by simpa using List.find?_some first⟩

theorem mem_utf8_of_position? {index : Nat} {text : String}
    (found : ledger.position? (.utf8 text) = some index) :
    (index, .utf8 text) ∈ ledger.indexed := by
  obtain ⟨entry, member, same⟩ := ledger.mem_of_position? _ found
  cases entry <;> cases same
  exact member

theorem position?_utf8_eq_none_iff (text : String) :
    ledger.position? (.utf8 text) = none ↔ Entry.utf8 text ∉ ledger.entries := by
  rw [position?_eq_none_iff]
  constructor
  · intro other member
    exact other _ member rfl
  · intro absent entry member same
    cases entry <;> cases same
    exact absent member

end

namespace Sound

variable {ledger : Ledger}

theorem position?_of_mem (sound : ledger.Sound) {index : Nat} {entry : Entry}
    (member : (index, entry) ∈ ledger.indexed) :
    ledger.position? entry.canonical = some index := by
  have distinct := sound.distinct
  rw [← ledger.map_snd_indexed, List.map_map] at distinct
  rw [position?]
  -- Entries before the one at `index` have other canonical forms, since no form is there twice.
  generalize ledger.indexed = pairs at member distinct
  induction pairs with
  | nil => cases member
  | cons first rest ih =>
    rw [List.map_cons, List.nodup_cons] at distinct
    rcases List.mem_cons.mp member with rfl | later
    · simp
    · have other : first.2.canonical ≠ entry.canonical := fun same =>
        distinct.1 (List.mem_map.mpr ⟨_, later, same.symm⟩)
      rw [List.find?_cons_of_neg (by simpa using other)]
      exact ih later distinct.2

theorem textAt?_inj (sound : ledger.Sound) {left right : UInt16} {text : String}
    (there : ledger.textAt? left = some text) (there' : ledger.textAt? right = some text) :
    left = right := by
  have first := sound.position?_of_mem ((ledger.textAt?_eq_some_iff left text).mp there)
  have second := sound.position?_of_mem ((ledger.textAt?_eq_some_iff right text).mp there')
  exact UInt16.toNat_inj.mp (Option.some.inj (first.symm.trans second))

/-- Appending keeps a ledger sound if the constant is new, fits and refers to a text in the ledger.
-/
theorem append (sound : ledger.Sound) {entry : Entry}
    (new : ledger.position? entry.canonical = none) (room : ledger.next + entry.width ≤ 65535)
    (known : ∀ text, entry.reference? = some text →
      ∃ content, (text.toNat, .utf8 content) ∈ ledger.indexed) :
    (ledger.append entry).Sound where
  distinct := by
    rw [entries_append, List.map_append, List.nodup_append]
    refine ⟨sound.distinct, by simp, ?_⟩
    rintro form member _ (_ | _) same
    · obtain ⟨old, present, rfl⟩ := List.mem_map.mp member
      -- The form is not there yet, since the look-up missed it.
      exact (ledger.position?_eq_none_iff _).mp new old present same
    · contradiction
  backed := by
    intro index later member text refers
    rw [indexed_append, List.mem_append, List.mem_singleton] at member
    -- What the old entries refer to stays where it is, and the new one is above all of them.
    rcases member with old | equal
    · obtain ⟨below, content, present⟩ := sound.backed index later old text refers
      exact ⟨below, content, by simp [present]⟩
    · cases equal
      obtain ⟨content, present⟩ := known text refers
      exact ⟨ledger.index_lt_next present, content, by simp [present]⟩
  bounded := by
    rw [next_append]
    exact room

end Sound

/-! ### Requests -/

section

variable (ledger : Ledger)

theorem find?_eq_none_iff (request : Request) :
    ledger.find? request = none ↔ ¬ ledger.Contains request := by
  simpa [find?, Contains, mem_entries_iff] using forall_comm

theorem mem_of_find? {request : Request} {index : Nat}
    (found : ledger.find? request = some index) :
    ∃ entry, (index, entry) ∈ ledger.indexed ∧ entry.answers ledger.textAt? request = true := by
  obtain ⟨⟨place, entry⟩, first, rfl⟩ := Option.map_eq_some_iff.mp found
  exact ⟨entry, List.mem_of_find?_eq_some first, by simpa using List.find?_some first⟩

theorem find?_of_plain {request : Request} (plain : request.text? = none) (text : UInt16) :
    ledger.find? request = ledger.position? (request.entry text).canonical := by
  rw [find?, position?]
  congr 2
  funext ⟨index, entry⟩
  rw [Bool.eq_iff_iff, Entry.answers_iff_canonical_eq _ _ plain text, decide_eq_true_iff]

theorem find?_utf8 (text : String) : ledger.find? (.utf8 text) = ledger.position? (.utf8 text) :=
  ledger.find?_of_plain rfl 0

theorem mem_utf8_of_contains {request : Request} {text : String}
    (refers : request.text? = some text) (there : ledger.Contains request) :
    .utf8 text ∈ ledger.entries := by
  obtain ⟨entry, _, answers⟩ := there
  obtain ⟨index, _, leads⟩ := (Entry.answers_iff_reference _ refers).mp answers
  exact (ledger.mem_entries_iff _).mpr ⟨_, (ledger.textAt?_eq_some_iff index text).mp leads⟩

theorem find?_of_unknown_text {request : Request} {text : String}
    (refers : request.text? = some text) (unknown : ledger.position? (.utf8 text) = none) :
    ledger.find? request = none := by
  rw [find?_eq_none_iff]
  intro there
  exact (ledger.position?_utf8_eq_none_iff text).mp unknown
    (ledger.mem_utf8_of_contains refers there)

end

/-- A class or string constant is found by the index of its text. -/
theorem Sound.find?_of_known_text {ledger : Ledger} (sound : ledger.Sound) {request : Request}
    {text : String} {index : UInt16} (refers : request.text? = some text)
    (known : ledger.position? (.utf8 text) = some index.toNat) :
    ledger.find? request = ledger.position? (request.entry index) := by
  have there := (ledger.textAt?_eq_some_iff index text).mpr (ledger.mem_utf8_of_position? known)
  -- One index only leads to the text, so an entry answers exactly if it refers to that index.
  rw [find?, position?]
  congr 2
  funext ⟨place, entry⟩
  rw [Bool.eq_iff_iff, Entry.answers_iff_reference _ refers, decide_eq_true_iff]
  constructor
  · rintro ⟨other, same, leads⟩
    rw [same, sound.textAt?_inj leads there]
  · intro same
    exact ⟨index, same, there⟩

end ClassHeader.Ledger
