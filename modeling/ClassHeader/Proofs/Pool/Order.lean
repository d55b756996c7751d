import ClassHeader.Proofs.Pool.Constants
import Mathlib.Data.Set.Function

/-!
# The order of requests

Whether all of some requests are granted, and which constants the pool then holds, depends on the
set of constants that they ask for and on nothing else. Two lists of requests that ask for the same
constants, in any order and however often, build pools that differ by the numbering of their entries
and by the bits of NaN.
-/

namespace ClassHeader

open Finset

/-- The constants that requests ask for, in canonical form, with the texts that they refer to. -/
def demanded (requests : List Request) : Finset Request :=
  requests.toFinset.biUnion Request.demands

@[simp] theorem demanded_nil : demanded [] = ∅ := rfl

theorem demanded_cons (request : Request) (rest : List Request) :
    demanded (request :: rest) = request.demands ∪ demanded rest := by
  rw [demanded, List.toFinset_cons, biUnion_insert, demanded]

theorem Request.canonical_mem_demands (request : Request) :
    request.canonical ∈ request.demands := by
  rw [demands]
  split <;> simp

/-- The entry with its reference, if it has one, moved along with what it refers to. -/
def Entry.renumber (renumbering : UInt16 → UInt16) : Entry → Entry
  | .classInfo text => .classInfo (renumbering text)
  | .string text => .string (renumbering text)
  | entry => entry

theorem Entry.canonical_renumber (renumbering : UInt16 → UInt16) (entry : Entry) :
    (entry.renumber renumbering).canonical = entry.canonical.renumber renumbering := by
  cases entry <;> rfl

theorem Entry.renumber_entry (renumbering : UInt16 → UInt16) (request : Request) (index : UInt16) :
    (request.entry index).renumber renumbering = request.entry (renumbering index) := by
  cases request <;> rfl

namespace Pool

/-- The answers to requests that are made one after the other. -/
def answers : Pool → List Request → List (Except Overflow UInt16)
  | _, [] => []
  | pool, request :: rest => (pool.add request).answer :: (pool.add request).pool.answers rest

/-- None of the requests is refused. -/
def Grants (pool : Pool) (requests : List Request) : Prop :=
  ∀ answer ∈ pool.answers requests, ∃ index, answer = .ok index

/-- The constants that the entries stand for. -/
def constants (pool : Pool) : List (Option Request) :=
  pool.entries.toList.map (Entry.resolve? pool.textAt?)

/-- The index in another pool of the entry that stands for the same constant. -/
def renumbering (pool other : Pool) (index : UInt16) : UInt16 :=
  match (pool.get? index).bind (Entry.resolve? pool.textAt?) with
  | some constant => ((other.ledger.find? constant).getD 0).toUInt16
  | none => 0

variable {pool other : Pool}

@[simp] theorem answers_cons (pool : Pool) (request : Request) (rest : List Request) :
    pool.answers (request :: rest) =
      (pool.add request).answer :: (pool.add request).pool.answers rest := rfl

theorem grants_cons (request : Request) (rest : List Request) :
    pool.Grants (request :: rest) ↔
      (∃ index, (pool.add request).answer = .ok index) ∧ (pool.add request).pool.Grants rest := by
  simp [Grants, answers]

namespace Coherent

/-! ### Room -/

theorem next_eq_indexCount (coherent : pool.Coherent) :
    pool.next.toNat = 1 + indexCount pool.ledger.constants.toFinset := by
  rw [coherent.next_eq, coherent.sound.next_eq]

theorem granted_iff (coherent : pool.Coherent) (request : Request) :
    (∃ index, (pool.add request).answer = .ok index) ↔
      1 + indexCount (pool.ledger.constants.toFinset ∪ request.demands) ≤ 65535 := by
  by_cases there : pool.ledger.Contains request
  · obtain ⟨index, _, added, _⟩ :=
      coherent.add_of_contains ((coherent.contains_iff request).mpr there)
    have bounded := coherent.sound.bounded
    rw [coherent.sound.next_eq] at bounded
    -- What is there has brought in all that is asked for, and the set fits since the pool does.
    rw [union_eq_left.mpr (pool.ledger.demands_subset_of_contains there), added]
    exact ⟨fun _ => bounded, fun _ => ⟨index, rfl⟩⟩
  · have count := pool.ledger.indexCount_union_demands there
    have next := coherent.next_eq_indexCount
    rw [count, ← Nat.add_assoc, ← next, ← need_eq]
    constructor
    · rintro ⟨index, granted⟩
      by_contra full
      rw [coherent.add_of_full ((coherent.contains_iff request).not.mpr there)
        (Nat.lt_of_not_le full)] at granted
      cases granted
    · exact coherent.add_of_room

/-- Whether requests are granted is decided by the set of all constants that are there then. -/
theorem grants_iff (coherent : pool.Coherent) (requests : List Request) :
    pool.Grants requests ↔
      1 + indexCount (pool.ledger.constants.toFinset ∪ demanded requests) ≤ 65535 := by
  induction requests generalizing pool with
  | nil =>
    have bounded := coherent.sound.bounded
    rw [coherent.sound.next_eq] at bounded
    simpa [Grants, answers] using bounded
  | cons request rest ih =>
    rw [grants_cons, demanded_cons, ← union_assoc]
    by_cases granted : ∃ index, (pool.add request).answer = .ok index
    · rw [and_iff_right granted, ih (coherent.add request)]
      obtain ⟨index, granted⟩ := granted
      rw [(coherent.step request).constants coherent granted]
    · refine iff_of_false (fun both => granted both.1) fun room => granted ?_
      -- What does not fit now does not fit with more requests after it.
      have fewer : pool.ledger.constants.toFinset ∪ request.demands ⊆
          pool.ledger.constants.toFinset ∪ request.demands ∪ demanded rest := subset_union_left
      have count := indexCount_mono fewer
      exact (coherent.granted_iff request).mpr (by omega)

theorem constants_addAll (coherent : pool.Coherent) {requests : List Request}
    (granted : pool.Grants requests) :
    (pool.addAll requests).ledger.constants.toFinset =
      pool.ledger.constants.toFinset ∪ demanded requests := by
  induction requests generalizing pool with
  | nil => simp
  | cons request rest ih =>
    obtain ⟨⟨index, first⟩, later⟩ := (grants_cons request rest).mp granted
    rw [addAll_cons, ih (coherent.add request) later,
      (coherent.step request).constants coherent first, demanded_cons, union_assoc]

theorem constants_eq (coherent : pool.Coherent) :
    pool.constants = pool.ledger.constants.map some := by
  rw [constants, coherent.textAt?_eq]
  exact coherent.sound.map_resolve?

/-! ### Numbering -/

theorem mem_constants_of_get? (coherent : pool.Coherent) {index : UInt16} {entry : Entry}
    (there : pool.get? index = some entry) :
    ∃ constant ∈ pool.ledger.constants.toFinset,
      entry.resolve? pool.textAt? = some constant := by
  rw [coherent.get?_eq_some_iff] at there
  rw [coherent.textAt?_eq]
  obtain ⟨constant, stands⟩ := coherent.sound.exists_resolve? there
  exact ⟨constant,
    List.mem_toFinset.mpr ((pool.ledger.mem_constants_iff constant).mpr ⟨_, _, there, stands⟩),
    stands⟩

theorem find?_of_mem_constants (coherent : pool.Coherent) {constant : Request}
    (member : constant ∈ pool.ledger.constants.toFinset) :
    ∃ (index : UInt16) (entry : Entry), pool.ledger.find? constant = some index.toNat ∧
      pool.get? index = some entry ∧ entry.resolve? pool.textAt? = some constant := by
  rw [List.mem_toFinset] at member
  obtain ⟨_, _, _, stands⟩ := (pool.ledger.mem_constants_iff constant).mp member
  have canonical := Entry.canonical_of_resolve? stands
  have there : pool.ledger.Contains constant := by
    rw [Ledger.contains_iff_mem_constants, canonical]
    exact member
  cases found : pool.ledger.find? constant with
  | none => exact absurd there ((pool.ledger.find?_eq_none_iff constant).mp found)
  | some place =>
    obtain ⟨entry, there, answers⟩ := pool.ledger.mem_of_find? found
    have below := pool.ledger.index_lt_next there
    have bounded := coherent.sound.bounded
    -- Indices of entries are below the counter, and so fit in 16 bits.
    have fits : place.toUInt16.toNat = place := Nat.mod_eq_of_lt (by omega)
    rw [Entry.answers_iff, canonical, ← coherent.textAt?_eq] at answers
    refine ⟨place.toUInt16, entry, by rw [fits], ?_, answers⟩
    rw [coherent.get?_eq_some_iff, fits]
    exact there

/-- The entry at the new index stands for the constant that the one at the old index stands for. -/
theorem get?_renumbering (coherent : pool.Coherent) (coherent' : other.Coherent)
    (same : pool.ledger.constants.toFinset = other.ledger.constants.toFinset)
    {index : UInt16} {entry : Entry} (there : pool.get? index = some entry) :
    ∃ constant entry', entry.resolve? pool.textAt? = some constant ∧
      other.get? (pool.renumbering other index) = some entry' ∧
      entry'.resolve? other.textAt? = some constant := by
  obtain ⟨constant, member, stands⟩ := coherent.mem_constants_of_get? there
  obtain ⟨index', entry', found, there', stands'⟩ := coherent'.find?_of_mem_constants (same ▸ member)
  have place : pool.renumbering other index = index' := by
    simp [renumbering, there, stands, found]
  exact ⟨constant, entry', stands, place ▸ there', stands'⟩

theorem bijOn_renumbering (coherent : pool.Coherent) (coherent' : other.Coherent)
    (same : pool.ledger.constants.toFinset = other.ledger.constants.toFinset) :
    Set.BijOn (pool.renumbering other)
      {index | (pool.get? index).isSome} {index | (other.get? index).isSome} := by
  refine ⟨?_, ?_, ?_⟩
  · intro index used
    obtain ⟨entry, there⟩ := Option.isSome_iff_exists.mp used
    obtain ⟨_, entry', _, there', _⟩ := coherent.get?_renumbering coherent' same there
    exact Option.isSome_iff_exists.mpr ⟨entry', there'⟩
  · intro left used right used' equal
    obtain ⟨entry, there⟩ := Option.isSome_iff_exists.mp used
    obtain ⟨entry', there'⟩ := Option.isSome_iff_exists.mp used'
    obtain ⟨_, target, stands, moved, stands₁⟩ := coherent.get?_renumbering coherent' same there
    obtain ⟨_, target', stands', moved', stands₂⟩ :=
      coherent.get?_renumbering coherent' same there'
    -- Both indices move to one entry, which stands for one constant.
    rw [equal, moved'] at moved
    cases moved
    cases stands₁.symm.trans stands₂
    exact coherent.index_unique there there' stands stands'
  · intro index' used
    obtain ⟨entry', there'⟩ := Option.isSome_iff_exists.mp used
    -- Every entry there is reached from the entry that stands for its constant here.
    obtain ⟨constant, member, stands'⟩ := coherent'.mem_constants_of_get? there'
    obtain ⟨index, entry, _, there, stands⟩ := coherent.find?_of_mem_constants (same ▸ member)
    refine ⟨index, Option.isSome_iff_exists.mpr ⟨entry, there⟩, ?_⟩
    obtain ⟨_, target, again, moved, stands₁⟩ := coherent.get?_renumbering coherent' same there
    cases stands.symm.trans again
    exact coherent'.index_unique moved there' stands₁ stands'

theorem textAt?_renumbering (coherent : pool.Coherent) (coherent' : other.Coherent)
    (same : pool.ledger.constants.toFinset = other.ledger.constants.toFinset)
    {index : UInt16} {text : String} (there : pool.textAt? index = some text) :
    other.textAt? (pool.renumbering other index) = some text := by
  rw [textAt?_eq_some_iff] at there
  obtain ⟨_, entry', stands, moved, stands'⟩ := coherent.get?_renumbering coherent' same there
  cases stands
  rw [textAt?, moved]
  cases entry' <;> simp [Entry.resolve?] at stands'
  exact congrArg some stands'

/-- Up to the bits of NaN an entry moves to a new index with no change but that of its reference. -/
theorem canonical_renumbering (coherent : pool.Coherent) (coherent' : other.Coherent)
    (same : pool.ledger.constants.toFinset = other.ledger.constants.toFinset)
    {index : UInt16} {entry : Entry} (there : pool.get? index = some entry) :
    ∃ entry', other.get? (pool.renumbering other index) = some entry' ∧
      entry'.canonical = (entry.renumber (pool.renumbering other)).canonical := by
  obtain ⟨constant, entry', stands, moved, stands'⟩ := coherent.get?_renumbering coherent' same there
  refine ⟨entry', moved, ?_⟩
  have canonical := Entry.canonical_of_resolve? stands
  rw [← canonical, ← Entry.answers_iff] at stands stands'
  -- A number stays as it is. A reference moves to the one index that leads to the same text.
  rw [Entry.canonical_renumber]
  cases refers : constant.text? with
  | none =>
    rw [Entry.answers_iff_canonical_eq _ _ refers 0] at stands stands'
    rw [stands, stands', ← Entry.canonical_renumber, Entry.renumber_entry]
    rw [Request.entry_of_plain refers 0]
  | some text =>
    obtain ⟨backing, form, leads⟩ := (Entry.answers_iff_reference _ refers).mp stands
    obtain ⟨backing', form', leads'⟩ := (Entry.answers_iff_reference _ refers).mp stands'
    have renumbered := coherent.textAt?_renumbering coherent' same leads
    rw [coherent'.textAt?_eq] at leads' renumbered
    rw [form, form', Entry.renumber_entry, coherent'.sound.textAt?_inj leads' renumbered]

/-- A request that both pools have the constant of is answered by the index and the new index. -/
theorem answer_renumbering (coherent : pool.Coherent) (coherent' : other.Coherent)
    (same : pool.ledger.constants.toFinset = other.ledger.constants.toFinset) {request : Request}
    (member : request.canonical ∈ pool.ledger.constants.toFinset) :
    ∃ index, (pool.add request).answer = .ok index ∧
      (other.add request).answer = .ok (pool.renumbering other index) := by
  have there : pool.Contains request := by
    rw [coherent.contains_iff, Ledger.contains_iff_mem_constants]
    exact List.mem_toFinset.mp member
  have there' : other.Contains request := by
    rw [coherent'.contains_iff, Ledger.contains_iff_mem_constants]
    exact List.mem_toFinset.mp (same ▸ member)
  obtain ⟨index, entry, added, known, answers⟩ := coherent.add_of_contains there
  obtain ⟨index', entry', added', known', answers'⟩ := coherent'.add_of_contains there'
  obtain ⟨_, target, stands, moved, stands'⟩ := coherent.get?_renumbering coherent' same known
  rw [Entry.answers_iff] at answers answers'
  cases stands.symm.trans answers
  -- What is found and what the index moves to stand for one constant, which has one index there.
  have place := coherent'.index_unique known' moved answers' stands'
  exact ⟨index, congrArg Outcome.answer added, by rw [added', place]; rfl⟩

end Coherent

/-! ### From the empty pool -/

theorem empty_grants_iff (requests : List Request) :
    empty.Grants requests ↔ 1 + indexCount (demanded requests) ≤ 65535 := by
  have iff := coherent_empty.grants_iff requests
  rwa [ledger_empty, show Ledger.empty.constants.toFinset = ∅ from rfl, empty_union] at iff

theorem constants_of_granted {requests : List Request} (granted : empty.Grants requests) :
    (empty.addAll requests).ledger.constants.toFinset = demanded requests := by
  rw [coherent_empty.constants_addAll granted]
  exact empty_union _

theorem size_eq_card (coherent : pool.Coherent) :
    pool.size = pool.ledger.constants.toFinset.card := by
  rw [List.toFinset_card_of_nodup coherent.sound.nodup_constants,
    coherent.sound.length_constants]
  rfl

/-- All requests of a list are granted exactly if the constants that they ask for fit. The pool then
has one entry for each of these constants and no other, and its counter and size are those of the
set. Two lists that ask for the same constants are granted alike, and build pools that are equal up
to a renumbering of their entries and the bits of NaN. -/
theorem order_irrelevant (left right : List Request) :
    let pool := empty.addAll left
    let other := empty.addAll right
    (empty.Grants left ↔ 1 + indexCount (demanded left) ≤ 65535) ∧
    (empty.Grants left →
      pool.next.toNat = 1 + indexCount (demanded left) ∧
      pool.size = (demanded left).card ∧
      ∃ resolved : List Request, pool.constants = resolved.map some ∧ resolved.Nodup ∧
        resolved.toFinset = demanded left) ∧
    (demanded left = demanded right →
      (empty.Grants left ↔ empty.Grants right) ∧
      (empty.Grants left →
        pool.next = other.next ∧ pool.size = other.size ∧
        pool.constants.toFinset = other.constants.toFinset ∧
        ∃ renumbering : UInt16 → UInt16,
          Set.BijOn renumbering
            {index | (pool.get? index).isSome} {index | (other.get? index).isSome} ∧
          (∀ index entry, pool.get? index = some entry →
            ∃ entry', other.get? (renumbering index) = some entry' ∧
              entry'.canonical = (entry.renumber renumbering).canonical) ∧
          ∀ request ∈ left, ∃ index, (pool.add request).answer = .ok index ∧
            (other.add request).answer = .ok (renumbering index))) := by
  intro pool other
  have coherent : pool.Coherent := coherent_reachable left
  have coherent' : other.Coherent := coherent_reachable right
  refine ⟨empty_grants_iff left, fun granted => ?_, fun demands => ?_⟩
  · have constants := constants_of_granted granted
    refine ⟨?_, ?_, pool.ledger.constants, coherent.constants_eq, coherent.sound.nodup_constants,
      constants⟩
    · rw [coherent.next_eq_indexCount, constants]
    · rw [size_eq_card coherent, constants]
  · have alike : empty.Grants left ↔ empty.Grants right := by
      rw [empty_grants_iff, empty_grants_iff, demands]
    refine ⟨alike, fun granted => ?_⟩
    -- Both lists are granted now, and the two pools hold one set of constants.
    have same : pool.ledger.constants.toFinset = other.ledger.constants.toFinset := by
      rw [constants_of_granted granted, constants_of_granted (alike.mp granted), demands]
    refine ⟨?_, ?_, ?_, pool.renumbering other, coherent.bijOn_renumbering coherent' same,
      fun _ _ there => coherent.canonical_renumbering coherent' same there,
      fun request member => coherent.answer_renumbering coherent' same ?_⟩
    · apply UInt16.toNat_inj.mp
      rw [coherent.next_eq_indexCount, coherent'.next_eq_indexCount, same]
    · rw [size_eq_card coherent, size_eq_card coherent', same]
    · ext constant
      have members := Finset.ext_iff.mp same
      simp only [List.mem_toFinset] at members
      simp only [coherent.constants_eq, coherent'.constants_eq, List.mem_toFinset, List.mem_map,
        members]
    · rw [constants_of_granted granted, demanded, mem_biUnion]
      exact ⟨request, List.mem_toFinset.mpr member, request.canonical_mem_demands⟩

end Pool

end ClassHeader
