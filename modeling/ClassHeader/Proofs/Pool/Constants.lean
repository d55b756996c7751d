import ClassHeader.Proofs.Pool.Overflow
import Mathlib.Algebra.BigOperators.Group.Finset.Basic
import Mathlib.Algebra.Order.BigOperators.Group.Finset

/-!
# The constants of a pool

Every entry of a pool stands for a constant, and no two for the same one. So a pool is, up to the
order of its entries, a set of constants: its counter and its size are those of the set, and a
request adds to the set what it asks for.
-/

namespace ClassHeader

open Finset

/-- The constants that a request asks for, in canonical form: its own, and the text that it refers
to. -/
def Request.demands (request : Request) : Finset Request :=
  match request.text? with
  | some text => {.utf8 text, request.canonical}
  | none => {request.canonical}

/-- How many indices a set of constants takes. -/
def indexCount (constants : Finset Request) : Nat :=
  ∑ constant ∈ constants, constant.kind.width

theorem indexCount_mono {few many : Finset Request} (subset : few ⊆ many) :
    indexCount few ≤ indexCount many :=
  sum_le_sum_of_subset subset

theorem indexCount_insert {constants : Finset Request} {constant : Request}
    (new : constant ∉ constants) :
    indexCount (insert constant constants) = constant.kind.width + indexCount constants :=
  sum_insert new

/-- Distinct constants take as many indices as entries of their kinds. -/
theorem indexCount_toFinset {constants : List Request} (distinct : constants.Nodup)
    {entries : List Entry} (kinds : constants.map Request.kind = entries.map Entry.kind) :
    indexCount constants.toFinset = Entry.totalWidth entries := by
  induction constants generalizing entries with
  | nil =>
    cases entries with
    | nil => rfl
    | cons entry others => cases kinds
  | cons constant rest ih =>
    cases entries with
    | nil => cases kinds
    | cons entry others =>
      rw [List.map_cons, List.map_cons, List.cons.injEq] at kinds
      rw [List.nodup_cons, ← List.mem_toFinset] at distinct
      rw [List.toFinset_cons, indexCount_insert distinct.1, ih distinct.2 kinds.2, kinds.1,
        Entry.totalWidth_cons, Entry.width]

namespace Entry

variable {textAt? : UInt16 → Option String}

theorem kind_of_resolve? {entry : Entry} {constant : Request}
    (stands : entry.resolve? textAt? = some constant) : constant.kind = entry.kind := by
  cases entry with
  | classInfo index =>
    obtain ⟨text, _, rfl⟩ := Option.map_eq_some_iff.mp stands
    rfl
  | string index =>
    obtain ⟨text, _, rfl⟩ := Option.map_eq_some_iff.mp stands
    rfl
  | _ =>
    cases stands
    rfl

theorem canonical_of_resolve? {entry : Entry} {constant : Request}
    (stands : entry.resolve? textAt? = some constant) : constant.canonical = constant := by
  cases entry with
  | classInfo index =>
    obtain ⟨text, _, rfl⟩ := Option.map_eq_some_iff.mp stands
    rfl
  | string index =>
    obtain ⟨text, _, rfl⟩ := Option.map_eq_some_iff.mp stands
    rfl
  | _ =>
    cases stands
    simp [Request.canonical]

theorem resolve?_congr {other : UInt16 → Option String} (entry : Entry)
    (agree : ∀ index, entry.reference? = some index → textAt? index = other index) :
    entry.resolve? textAt? = entry.resolve? other := by
  cases entry with
  | classInfo index => rw [resolve?, resolve?, agree index rfl]
  | string index => rw [resolve?, resolve?, agree index rfl]
  | _ => rfl

end Entry

namespace Ledger

/-- The constants that entries stand for. -/
def constants (ledger : Ledger) : List Request :=
  ledger.entries.filterMap (Entry.resolve? ledger.textAt?)

theorem mem_constants_iff (ledger : Ledger) (constant : Request) :
    constant ∈ ledger.constants ↔
      ∃ index entry, (index, entry) ∈ ledger.indexed ∧
        entry.resolve? ledger.textAt? = some constant := by
  simp only [constants, List.mem_filterMap, mem_entries_iff]
  exact ⟨fun ⟨entry, ⟨index, member⟩, stands⟩ => ⟨index, entry, member, stands⟩,
    fun ⟨index, entry, member, stands⟩ => ⟨entry, ⟨index, member⟩, stands⟩⟩

theorem contains_iff_mem_constants (ledger : Ledger) (request : Request) :
    ledger.Contains request ↔ request.canonical ∈ ledger.constants := by
  simp only [Contains, constants, List.mem_filterMap, Entry.answers_iff]

namespace Sound

variable {ledger : Ledger}

theorem exists_resolve? (sound : ledger.Sound) {index : Nat} {entry : Entry}
    (member : (index, entry) ∈ ledger.indexed) :
    ∃ constant, entry.resolve? ledger.textAt? = some constant := by
  have leads (text : UInt16) (refers : entry.reference? = some text) :
      ∃ content, ledger.textAt? text = some content := by
    obtain ⟨_, content, present⟩ := sound.backed index entry member text refers
    exact ⟨content, (ledger.textAt?_eq_some_iff text content).mpr present⟩
  cases entry with
  | classInfo text =>
    obtain ⟨content, there⟩ := leads text rfl
    exact ⟨.classInfo content, by simp [Entry.resolve?, there]⟩
  | string text =>
    obtain ⟨content, there⟩ := leads text rfl
    exact ⟨.string content, by simp [Entry.resolve?, there]⟩
  | _ => exact ⟨_, rfl⟩

theorem map_resolve? (sound : ledger.Sound) :
    ledger.entries.map (Entry.resolve? ledger.textAt?) = ledger.constants.map some := by
  rw [constants]
  have all : ∀ entry ∈ ledger.entries, (entry.resolve? ledger.textAt?).isSome := by
    intro entry member
    obtain ⟨index, member⟩ := (ledger.mem_entries_iff entry).mp member
    obtain ⟨constant, stands⟩ := sound.exists_resolve? member
    rw [stands]
    rfl
  -- From here on it only matters that no entry is dropped.
  generalize ledger.entries = entries at all
  induction entries with
  | nil => rfl
  | cons entry rest ih =>
    obtain ⟨constant, stands⟩ := Option.isSome_iff_exists.mp (all entry List.mem_cons_self)
    rw [List.map_cons, List.filterMap_cons_some stands, List.map_cons, stands,
      ih fun later member => all later (List.mem_cons_of_mem _ member)]

/-- Entries that stand for one constant have one canonical form. -/
theorem canonical_eq_of_resolve? (sound : ledger.Sound) {left right : Entry} {constant : Request}
    (stands : left.resolve? ledger.textAt? = some constant)
    (stands' : right.resolve? ledger.textAt? = some constant) :
    left.canonical = right.canonical := by
  have canonical := Entry.canonical_of_resolve? stands
  rw [← canonical, ← Entry.answers_iff] at stands stands'
  cases refers : constant.text? with
  | none =>
    rw [Entry.answers_iff_canonical_eq _ _ refers 0] at stands stands'
    rw [stands, stands']
  | some text =>
    rw [Entry.answers_iff_reference _ refers] at stands stands'
    obtain ⟨index, form, there⟩ := stands
    obtain ⟨index', form', there'⟩ := stands'
    rw [form, form', sound.textAt?_inj there there']

/-- A constant has one index. -/
theorem index_unique (sound : ledger.Sound) {index index' : Nat} {entry entry' : Entry}
    {constant : Request} (member : (index, entry) ∈ ledger.indexed)
    (member' : (index', entry') ∈ ledger.indexed)
    (stands : entry.resolve? ledger.textAt? = some constant)
    (stands' : entry'.resolve? ledger.textAt? = some constant) : index = index' := by
  have first := sound.position?_of_mem member
  rw [sound.canonical_eq_of_resolve? stands stands', sound.position?_of_mem member'] at first
  exact (Option.some.inj first).symm

theorem nodup_constants (sound : ledger.Sound) : ledger.constants.Nodup := by
  have distinct := List.pairwise_map.mp sound.distinct
  -- One constant twice would be one canonical form twice.
  rw [constants, List.Nodup, List.pairwise_filterMap]
  refine distinct.imp fun different constant stands constant' stands' same => ?_
  exact different (sound.canonical_eq_of_resolve? stands (same ▸ stands'))

theorem length_constants (sound : ledger.Sound) :
    ledger.constants.length = ledger.entries.length := by
  have lengths := congrArg List.length sound.map_resolve?
  simpa using lengths.symm

/-- The counter of a ledger is determined by its set of constants. -/
theorem next_eq (sound : ledger.Sound) : ledger.next = 1 + indexCount ledger.constants.toFinset := by
  have kinds : ledger.constants.map Request.kind = ledger.entries.map Entry.kind := by
    rw [constants, List.map_filterMap, ← List.filterMap_eq_map]
    refine List.filterMap_congr fun entry member => ?_
    obtain ⟨index, member⟩ := (ledger.mem_entries_iff entry).mp member
    obtain ⟨constant, stands⟩ := sound.exists_resolve? member
    rw [stands, Option.map_some, Entry.kind_of_resolve? stands]
    rfl
  rw [next, indexCount_toFinset sound.nodup_constants kinds]

/-! ### What an entry adds -/

/-- An entry more changes nothing that the entries before it stand for. -/
theorem resolve?_append (sound : ledger.Sound) (entry : Entry) {old : Entry}
    (member : old ∈ ledger.entries) :
    old.resolve? (ledger.append entry).textAt? = old.resolve? ledger.textAt? := by
  obtain ⟨index, member⟩ := (ledger.mem_entries_iff old).mp member
  apply Entry.resolve?_congr
  intro text refers
  -- What an entry refers to is below it, and there nothing changes.
  have below := (sound.backed index old member text refers).1
  have bound := ledger.index_lt_next member
  exact textAt?_of_prefix (List.prefix_append _ _) (by omega)

theorem constants_append (sound : ledger.Sound) {entry : Entry} {constant : Request}
    (stands : entry.resolve? (ledger.append entry).textAt? = some constant) :
    (ledger.append entry).constants = ledger.constants ++ [constant] := by
  rw [constants, entries_append, List.filterMap_append, constants,
    List.filterMap_congr fun old member => sound.resolve?_append entry member]
  simp [stands]

end Sound

/-! ### What a request asks for -/

section

variable (ledger : Ledger)

theorem utf8_mem_constants_iff (text : String) :
    .utf8 text ∈ ledger.constants ↔ .utf8 text ∈ ledger.entries := by
  have canonical : (Request.utf8 text).canonical = .utf8 text := rfl
  rw [← canonical, ← contains_iff_mem_constants, Contains]
  constructor
  · rintro ⟨entry, member, answers⟩
    rw [Entry.answers_iff_canonical_eq _ _ rfl 0] at answers
    cases entry <;> cases answers
    exact member
  · intro member
    exact ⟨_, member, by simp [Entry.answers]⟩

/-- If a constant is there, all that is asked for with it is there. -/
theorem demands_subset_of_contains {request : Request} (there : ledger.Contains request) :
    request.demands ⊆ ledger.constants.toFinset := by
  have own := List.mem_toFinset.mpr ((ledger.contains_iff_mem_constants request).mp there)
  cases refers : request.text? with
  | none => simpa [Request.demands, refers] using own
  | some text =>
    have member := (ledger.utf8_mem_constants_iff text).mpr
      (ledger.mem_utf8_of_contains refers there)
    rw [Request.demands, refers]
    exact insert_subset (List.mem_toFinset.mpr member) (singleton_subset_iff.mpr own)

/-- The need of a constant that is not there is what it adds to the set of constants. -/
theorem indexCount_union_demands {request : Request} (missing : ¬ ledger.Contains request) :
    indexCount (ledger.constants.toFinset ∪ request.demands) =
      indexCount ledger.constants.toFinset + ledger.need request := by
  rw [contains_iff_mem_constants, ← List.mem_toFinset] at missing
  cases refers : request.text? with
  | none =>
    rw [Request.demands, refers, ledger.need_of_plain refers, union_comm, singleton_union,
      indexCount_insert missing, Request.kind_canonical, Nat.add_comm]
  | some text =>
    rw [Request.demands, refers, union_comm, insert_union, singleton_union]
    -- The text counts only if nothing has brought it in before.
    by_cases there : .utf8 text ∈ ledger.entries
    · have member := List.mem_toFinset.mpr ((ledger.utf8_mem_constants_iff text).mpr there)
      rw [insert_eq_of_mem (mem_insert_of_mem member), indexCount_insert missing,
        ledger.need_of_mem refers there, Request.kind_canonical, Nat.add_comm]
    · have new : .utf8 text ∉ ledger.constants.toFinset := by
        rw [List.mem_toFinset, utf8_mem_constants_iff]
        exact there
      have other : .utf8 text ∉ insert request.canonical ledger.constants.toFinset := by
        rw [mem_insert, not_or]
        refine ⟨?_, new⟩
        cases request <;> cases refers <;> exact nofun
      rw [indexCount_insert other, indexCount_insert missing, ledger.need_of_not_mem refers there,
        Request.kind_canonical]
      change 1 + _ = _
      omega

end

end Ledger

namespace Pool

variable {pool : Pool}

/-- A constant of a pool has an entry, and one only. -/
theorem Coherent.index_unique (coherent : pool.Coherent) {index index' : UInt16}
    {entry entry' : Entry} {constant : Request} (there : pool.get? index = some entry)
    (there' : pool.get? index' = some entry')
    (stands : entry.resolve? pool.textAt? = some constant)
    (stands' : entry'.resolve? pool.textAt? = some constant) : index = index' := by
  rw [coherent.get?_eq_some_iff] at there there'
  rw [coherent.textAt?_eq] at stands stands'
  exact UInt16.toNat_inj.mp (coherent.sound.index_unique there there' stands stands')

/-- A request that is granted adds to the set of constants what it asks for. -/
theorem Step.constants (coherent : pool.Coherent) {request : Request} {outcome : Outcome}
    {index : UInt16} (step : pool.Step request outcome) (granted : outcome.answer = .ok index) :
    outcome.pool.ledger.constants.toFinset =
      pool.ledger.constants.toFinset ∪ request.demands := by
  cases step with
  | found index there =>
    obtain ⟨entry, member, answers⟩ := pool.ledger.mem_of_find? there
    have contains : pool.ledger.Contains request :=
      ⟨entry, (pool.ledger.mem_entries_iff entry).mpr ⟨_, member⟩, answers⟩
    exact (union_eq_left.mpr (pool.ledger.demands_subset_of_contains contains)).symm
  | refused => cases granted
  | entryAdded text missing room need known _ =>
    -- The text is among the constants already, and the set grows by the entry alone.
    have stands : (request.entry text).resolve?
        (pool.ledger.append (request.entry text)).textAt? = some request.canonical := by
      refine Entry.resolve?_entry request text fun content refers => ?_
      have member := pool.ledger.mem_utf8_of_position? (known content refers)
      rw [Ledger.textAt?_eq_some_iff, Ledger.indexed_append]
      exact List.mem_append_left _ member
    rw [ledger_insert, coherent.sound.constants_append stands, List.toFinset_append]
    cases refers : request.text? with
    | none => simp [Request.demands, refers]
    | some content =>
      have member := pool.ledger.mem_utf8_of_position? (known content refers)
      have there := (pool.ledger.utf8_mem_constants_iff content).mpr
        ((pool.ledger.mem_entries_iff _).mpr ⟨_, member⟩)
      rw [Request.demands, refers, union_insert,
        insert_eq_of_mem (mem_union_left _ (List.mem_toFinset.mpr there))]
      rfl
  | textAdded content missing room need refers unknown backed _ =>
    -- The set grows twice, and the entry finds its text where that was put.
    have sound : (pool.ledger.append (.utf8 content)).Sound := ledger_insert pool _ ▸ backed.sound
    have stands : (request.entry pool.next).resolve?
        ((pool.ledger.append (.utf8 content)).append (request.entry pool.next)).textAt? =
          some request.canonical := by
      refine Entry.resolve?_entry request pool.next fun text refers' => ?_
      cases refers.symm.trans refers'
      rw [Ledger.textAt?_eq_some_iff, Ledger.indexed_append, Ledger.indexed_append,
        coherent.next_eq]
      simp
    rw [ledger_insert, ledger_insert, sound.constants_append stands,
      coherent.sound.constants_append rfl, Request.demands, refers]
    simp

end Pool

end ClassHeader
