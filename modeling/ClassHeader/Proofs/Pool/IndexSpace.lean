import ClassHeader.Proofs.Pool.Refinement
import Mathlib.Logic.ExistsUnique

/-!
# How a pool uses its indices

Each entry owns a stretch of indices that starts at its own index and is as long as the entry is
wide. The stretches lie one after the other, from 1 up to the next index: every index in between is
in one of them, and in one only. What is not the first index of a stretch is the second one of a
long integer or of a double-precision number, and is not given out.
-/

namespace ClassHeader

namespace Entry

/-- An entry that takes more than one index is a long or a double entry, and takes two. -/
theorem width_eq_one_or (entry : Entry) :
    entry.width = 1 ∨ (entry.kind = .long ∨ entry.kind = .double) ∧ entry.width = 2 := by
  cases entry <;> simp [width, EntryKind.width]

theorem width_of_wide {entry : Entry} (wide : entry.kind = .long ∨ entry.kind = .double) :
    entry.width = 2 := by
  rcases wide with kind | kind <;> rw [width, kind] <;> rfl

/-- The stretches of numbered entries leave no index out. -/
theorem exists_stretch (start : Nat) (entries : List Entry) {index : Nat} (lower : start ≤ index)
    (upper : index < start + totalWidth entries) :
    ∃ numbered ∈ number start entries,
      numbered.1 ≤ index ∧ index < numbered.1 + numbered.2.width := by
  induction entries generalizing start with
  | nil => exact absurd upper (Nat.not_lt_of_le lower)
  | cons entry rest ih =>
    rw [totalWidth_cons, ← Nat.add_assoc] at upper
    -- The index is in the stretch of the first entry, or the others start at or below it.
    by_cases first : index < start + entry.width
    · exact ⟨(start, entry), List.mem_cons_self, lower, first⟩
    · obtain ⟨numbered, member, within⟩ := ih _ (Nat.le_of_not_lt first) upper
      exact ⟨numbered, List.mem_cons_of_mem _ member, within⟩

end Entry

namespace Ledger

variable (ledger : Ledger)

theorem entry_unique {index : Nat} {entry entry' : Entry} (member : (index, entry) ∈ ledger.indexed)
    (member' : (index, entry') ∈ ledger.indexed) : entry = entry' := by
  rw [← get?_eq_some_iff] at member member'
  exact Option.some.inj (member.symm.trans member')

theorem exists_stretch {index : Nat} (positive : 0 < index) (below : index < ledger.next) :
    ∃ first entry, (first, entry) ∈ ledger.indexed ∧
      first ≤ index ∧ index < first + entry.width := by
  obtain ⟨⟨first, entry⟩, member, within⟩ := Entry.exists_stretch 1 ledger.entries positive below
  exact ⟨first, entry, member, within⟩

/-- No index is in the stretches of two entries. -/
theorem stretch_unique (index : Nat) {first first' : Nat} {entry entry' : Entry}
    (member : (first, entry) ∈ ledger.indexed) (member' : (first', entry') ∈ ledger.indexed)
    (within : first ≤ index ∧ index < first + entry.width)
    (within' : first' ≤ index ∧ index < first' + entry'.width) :
    first = first' ∧ entry = entry' := by
  rcases Nat.lt_trichotomy first first' with below | rfl | above
  · have apart := ledger.indexed_apart member member' below
    omega
  · exact ⟨rfl, ledger.entry_unique member member'⟩
  · have apart := ledger.indexed_apart member' member above
    omega

end Ledger

namespace Pool

/-- Whether an index is the second one of a long or double entry, given with its own index. -/
def SecondOf (pool : Pool) (index : UInt16) (owner : UInt16 × Entry) : Prop :=
  owner ∈ pool.indexed ∧ (owner.2.kind = .long ∨ owner.2.kind = .double) ∧
    owner.1.toNat + 1 = index.toNat

namespace Coherent

variable {pool : Pool} {index : UInt16}

theorem mem_indexed_iff_get? (coherent : pool.Coherent) (index : UInt16) (entry : Entry) :
    (index, entry) ∈ pool.indexed ↔ pool.get? index = some entry := by
  rw [coherent.mem_indexed_iff, coherent.get?_eq_some_iff]

/-- An index of the ledger is one of the pool, which has it in 16 bits. -/
theorem exists_mem_indexed (coherent : pool.Coherent) {first : Nat} {entry : Entry}
    (member : (first, entry) ∈ pool.ledger.indexed) :
    ∃ index : UInt16, index.toNat = first ∧ (index, entry) ∈ pool.indexed := by
  rw [← coherent.map_indexed, List.mem_map] at member
  obtain ⟨⟨index, _⟩, member, same⟩ := member
  rw [Prod.mk.injEq] at same
  obtain ⟨rfl, rfl⟩ := same
  exact ⟨index, rfl, member⟩

theorem entry_unique (coherent : pool.Coherent) {entry entry' : Entry}
    (member : (index, entry) ∈ pool.indexed) (member' : (index, entry') ∈ pool.indexed) :
    entry = entry' := by
  rw [coherent.mem_indexed_iff] at member member'
  exact pool.ledger.entry_unique member member'

/-- An index below the next one is that of an entry or the second one of a wide entry. -/
theorem assigned_or_second (coherent : pool.Coherent) (positive : 0 < index)
    (below : index < pool.next) :
    (∃ entry, (index, entry) ∈ pool.indexed) ∨ ∃ owner, pool.SecondOf index owner := by
  rw [UInt16.lt_iff_toNat_lt] at positive below
  rw [coherent.next_eq] at below
  obtain ⟨first, entry, member, within⟩ := pool.ledger.exists_stretch positive below
  obtain ⟨start, rfl, assigned⟩ := coherent.exists_mem_indexed member
  -- The stretch of the entry starts at the index or right before it.
  by_cases own : start = index
  · exact .inl ⟨entry, own ▸ assigned⟩
  · have other : start.toNat ≠ index.toNat := fun same => own (UInt16.toNat_inj.mp same)
    rcases entry.width_eq_one_or with narrow | ⟨wide, width⟩
    · omega
    · exact .inr ⟨(start, entry), assigned, wide, by dsimp only; omega⟩

/-- The second index of a wide entry is never given out. -/
theorem not_assigned_of_second (coherent : pool.Coherent) {owner : UInt16 × Entry}
    (second : pool.SecondOf index owner) (entry : Entry) : (index, entry) ∉ pool.indexed := by
  obtain ⟨member, wide, follows⟩ := second
  intro assigned
  rw [coherent.mem_indexed_iff] at member assigned
  have apart := pool.ledger.indexed_apart member assigned (by omega)
  rw [Entry.width_of_wide wide] at apart
  omega

theorem owner_unique (coherent : pool.Coherent) {owner owner' : UInt16 × Entry}
    (second : pool.SecondOf index owner) (second' : pool.SecondOf index owner') :
    owner = owner' := by
  obtain ⟨member, wide, follows⟩ := second
  obtain ⟨member', wide', follows'⟩ := second'
  rw [coherent.mem_indexed_iff] at member member'
  have width := Entry.width_of_wide wide
  have width' := Entry.width_of_wide wide'
  obtain ⟨first, entry⟩ := pool.ledger.stretch_unique index.toNat member member'
    (by omega) (by omega)
  exact Prod.ext (UInt16.toNat_inj.mp first) entry

/-- Nothing is at an index that was not given out. -/
theorem get?_eq_none_of (coherent : pool.Coherent)
    (unused : index = 0 ∨ (∃ owner, pool.SecondOf index owner) ∨ pool.next ≤ index) :
    pool.get? index = none := by
  rw [Option.eq_none_iff_forall_ne_some]
  intro entry there
  have member := (coherent.mem_indexed_iff_get? index entry).mpr there
  rcases unused with rfl | ⟨owner, second⟩ | beyond
  · rw [coherent.mem_indexed_iff] at member
    exact Nat.lt_irrefl 0 (pool.ledger.indexed_bounds member).1
  · exact coherent.not_assigned_of_second second entry member
  · rw [coherent.mem_indexed_iff] at member
    rw [UInt16.le_iff_toNat_le, coherent.next_eq] at beyond
    exact Nat.not_lt_of_le beyond (pool.ledger.index_lt_next member)

end Coherent

/-- In every pool that requests can build, refused ones included, the indices of the entries ascend.
Every index from 1 up to the next one is that of one entry or the second one of one long or double
entry, and never both. Reading an index, which ends at the first greater one, gives what a search of
all entries gives: the entry that has the index, and nothing at zero, at a second index, or from the
next index on. -/
theorem index_space (history : List Request) :
    let pool := empty.addAll history
    pool.indexed.Pairwise (·.1 < ·.1) ∧
    (∀ index, 0 < index → index < pool.next →
      (∃! entry, (index, entry) ∈ pool.indexed) ∧ (¬ ∃ owner, pool.SecondOf index owner) ∨
      (¬ ∃ entry, (index, entry) ∈ pool.indexed) ∧ ∃! owner, pool.SecondOf index owner) ∧
    ∀ index,
      pool.get? index = (pool.indexed.find? (·.1 == index)).map (·.2) ∧
      (∀ entry, pool.get? index = some entry ↔ (index, entry) ∈ pool.indexed) ∧
      (index = 0 ∨ (∃ owner, pool.SecondOf index owner) ∨ pool.next ≤ index →
        pool.get? index = none) := by
  intro pool
  have coherent : pool.Coherent := coherent_reachable history
  refine ⟨coherent.indexed_ascending, ?_, fun index => ⟨coherent.get?_eq_find? index,
    fun entry => (coherent.mem_indexed_iff_get? index entry).symm, coherent.get?_eq_none_of⟩⟩
  intro index positive below
  -- An index is the first or the second one of a stretch, and each of these rules out the other.
  rcases coherent.assigned_or_second positive below with ⟨entry, member⟩ | ⟨owner, second⟩
  · left
    refine ⟨⟨entry, member, fun _ member' => coherent.entry_unique member' member⟩, ?_⟩
    rintro ⟨owner, second⟩
    exact coherent.not_assigned_of_second second entry member
  · right
    refine ⟨?_, ⟨owner, second, fun _ second' => coherent.owner_unique second' second⟩⟩
    rintro ⟨entry, member⟩
    exact coherent.not_assigned_of_second second entry member

/-- Between two texts, the second index of a long integer belongs to it and has nothing. -/
theorem index_space_of_long :
    let history : List Request := [.utf8 "A", .long 7, .utf8 "B"]
    let pool := empty.addAll history
    pool.indexed = [(1, .utf8 "A"), (2, .long 7), (4, .utf8 "B")] ∧ pool.next = 5 ∧
      (∃! entry, (2, entry) ∈ pool.indexed) ∧ pool.get? 2 = some (.long 7) ∧
      pool.SecondOf 3 (2, .long 7) ∧ (¬ ∃ entry, (3, entry) ∈ pool.indexed) ∧
      pool.get? 3 = none ∧ pool.get? 5 = none := by
  intro history pool
  have coherent : pool.Coherent := coherent_reachable history
  have ledger : pool.ledger = ⟨[.utf8 "A", .long 7, .utf8 "B"]⟩ :=
    (coherent_empty.ledger_addAll history).trans (by decide)
  have indexed : pool.indexed = [(1, .utf8 "A"), (2, .long 7), (4, .utf8 "B")] := by
    rw [coherent.indexed_eq, ledger]
    decide
  have next : pool.next = 5 := by
    apply UInt16.toNat_inj.mp
    rw [coherent.next_eq, ledger]
    rfl
  have member : (2, .long 7) ∈ pool.indexed := by
    rw [indexed]
    decide
  have second : pool.SecondOf 3 (2, .long 7) := ⟨member, .inl rfl, rfl⟩
  obtain ⟨_, stretches, reads⟩ := index_space history
  refine ⟨indexed, next, ?_, ((reads 2).2.1 _).mpr member, second, ?_,
    (reads 3).2.2 (.inr (.inl ⟨_, second⟩)), (reads 5).2.2 (.inr (.inr (UInt16.le_of_eq next)))⟩
  · -- The index has an entry, so that it is not the second one of another entry.
    rcases stretches 2 (by decide) (by rw [next]; decide) with ⟨unique, _⟩ | ⟨unassigned, _⟩
    · exact unique
    · exact absurd ⟨_, member⟩ unassigned
  · rcases stretches 3 (by decide) (by rw [next]; decide) with ⟨_, first⟩ | ⟨unassigned, _⟩
    · exact absurd ⟨_, second⟩ first
    · exact unassigned

end Pool

end ClassHeader
