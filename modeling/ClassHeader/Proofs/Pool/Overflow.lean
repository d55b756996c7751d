import ClassHeader.Proofs.Pool.Refinement
import Mathlib.Data.List.Induction
import Mathlib.Data.List.Nodup

/-!
# When a request is refused

A request is refused exactly if its constant is not there and the indices that are missing do not
fit: those of its entry, and one for the text that a class or string constant refers to. Since room
for both is required before either is added, a refused request leaves nothing behind.

Pools do become full: any 65534 distinct integers fill one.
-/

namespace ClassHeader

namespace Pool

def textAt? (pool : Pool) (index : UInt16) : Option String :=
  (pool.get? index).bind Entry.text?

/-- Whether an entry is there that a request asks for. -/
def Contains (pool : Pool) (request : Request) : Prop :=
  ∃ entry ∈ pool.entries, entry.answers pool.textAt? request = true

/-- How many indices a constant takes if it is not there: those of its entry, and one for the text
that it refers to if that is not there either. -/
def need (pool : Pool) (request : Request) : Nat :=
  request.kind.width +
    match request.text? with
    | some text => if Entry.utf8 text ∈ pool.entries then 0 else 1
    | none => 0

variable {pool : Pool}

theorem textAt?_eq_some_iff (index : UInt16) (text : String) :
    pool.textAt? index = some text ↔ pool.get? index = some (.utf8 text) :=
  Entry.bind_text?_eq_some_iff _ _

theorem need_eq (request : Request) : pool.need request = pool.ledger.need request := by
  rw [need, Ledger.need]
  cases request.text? with
  | none => rfl
  | some text => simp [ledger]

namespace Coherent

theorem textAt?_eq (coherent : pool.Coherent) : pool.textAt? = pool.ledger.textAt? := by
  funext index
  rw [textAt?, Ledger.textAt?, coherent.get?_eq]

theorem contains_iff (coherent : pool.Coherent) (request : Request) :
    pool.Contains request ↔ pool.ledger.Contains request := by
  simp only [Contains, Ledger.Contains, coherent.textAt?_eq, ledger, Array.mem_toList_iff]

/-- A constant that is there is found, and nothing changes. -/
theorem add_of_contains (coherent : pool.Coherent) {request : Request}
    (there : pool.Contains request) :
    ∃ index entry, pool.add request = pool.found index ∧ pool.get? index = some entry ∧
      entry.answers pool.textAt? request = true := by
  rw [coherent.contains_iff] at there
  have found : pool.ledger.find? request ≠ none := fun missing =>
    (pool.ledger.find?_eq_none_iff request).mp missing there
  -- Of all that a request can do, only one does not need the constant to be missing.
  have step := coherent.step request
  generalize pool.add request = outcome at step
  cases step with
  | found index known =>
    obtain ⟨entry, member, answers⟩ := pool.ledger.mem_of_find? known
    refine ⟨index, entry, rfl, ?_, ?_⟩
    · rw [coherent.get?_eq]
      exact (pool.ledger.get?_eq_some_iff _ _).mpr member
    · rw [coherent.textAt?_eq]
      exact answers
  | refused missing => exact absurd missing found
  | entryAdded _ missing => exact absurd missing found
  | textAdded _ missing => exact absurd missing found

theorem add_of_full (coherent : pool.Coherent) {request : Request}
    (missing : ¬ pool.Contains request) (full : 65535 < pool.next.toNat + pool.need request) :
    pool.add request = ⟨pool, .error ⟨request.kind, pool.next⟩, []⟩ := by
  rw [coherent.contains_iff, ← Ledger.find?_eq_none_iff] at missing
  rw [coherent.next_eq, need_eq] at full
  -- Everything but a refusal needs the constant or the room.
  have step := coherent.step request
  generalize pool.add request = outcome at step
  cases step with
  | found _ there => exact absurd there (by rw [missing]; exact nofun)
  | refused => rfl
  | entryAdded _ _ room => exact absurd room (Nat.not_le_of_lt full)
  | textAdded _ _ room => exact absurd room (Nat.not_le_of_lt full)

theorem add_of_room (coherent : pool.Coherent) {request : Request}
    (room : pool.next.toNat + pool.need request ≤ 65535) :
    ∃ index, (pool.add request).answer = .ok index := by
  rw [coherent.next_eq, need_eq] at room
  have step := coherent.step request
  generalize pool.add request = outcome at step
  cases step with
  | found index => exact ⟨index, rfl⟩
  | refused _ full => exact absurd room (Nat.not_le_of_lt full)
  | entryAdded => exact ⟨_, rfl⟩
  | textAdded => exact ⟨_, rfl⟩

/-- A refusal tells the kind that was asked for and the next index. -/
theorem answer_eq_error_iff (coherent : pool.Coherent) (request : Request) (overflow : Overflow) :
    (pool.add request).answer = .error overflow ↔
      (¬ pool.Contains request ∧ 65535 < pool.next.toNat + pool.need request) ∧
        overflow = ⟨request.kind, pool.next⟩ := by
  -- Three cases: the constant is there, or it fits, or neither.
  by_cases there : pool.Contains request
  · obtain ⟨index, _, added, _⟩ := coherent.add_of_contains there
    simp [added, found, there]
  · by_cases room : pool.next.toNat + pool.need request ≤ 65535
    · obtain ⟨index, granted⟩ := coherent.add_of_room room
      simp [granted, Nat.not_lt_of_le room]
    · have full := Nat.lt_of_not_le room
      rw [coherent.add_of_full there full]
      simp [there, full, eq_comm]

end Coherent

/-! ### Filling a pool -/

/-- A constant that refers to no text is added if it is not there and there is room for it. -/
theorem Coherent.ledger_add_of_plain (coherent : pool.Coherent) {request : Request}
    (plain : request.text? = none) (missing : ¬ pool.ledger.Contains request)
    (room : pool.ledger.next + request.kind.width ≤ 65535) :
    (pool.add request).pool.ledger = pool.ledger.append (request.entry 0) := by
  rw [← Ledger.find?_eq_none_iff] at missing
  rw [← pool.ledger.need_of_plain plain] at room
  have added := coherent.ledger_add request
  rw [pool.ledger.add_of_room missing room, pool.ledger.withText_of_plain plain,
    Request.entry_of_plain plain _ 0] at added
  exact (congrArg Prod.fst added).symm

/-- The numbers below a count that fits in 31 bits are distinct integers. -/
theorem nodup_integers {count : Nat} (fits : count ≤ 0x80000000) :
    ((List.range count).map Int32.ofNat).Nodup := by
  refine List.Nodup.map_on ?_ List.nodup_range
  intro left below right below' same
  rw [List.mem_range] at below below'
  have numbers := congrArg Int32.toInt same
  rw [Int32.toInt_ofNat_of_lt (by omega), Int32.toInt_ofNat_of_lt (by omega)] at numbers
  exact Int.ofNat.inj numbers

theorem totalWidth_integers (values : List Int32) :
    Entry.totalWidth (values.map .integer) = values.length := by
  induction values with
  | nil => rfl
  | cons value rest ih =>
    rw [List.map_cons, Entry.totalWidth_cons, ih, List.length_cons, Nat.add_comm]
    rfl

/-- Distinct integers are added one after the other as long as they fit. -/
theorem ledger_addAll_integers {values : List Int32} (distinct : values.Nodup)
    (fits : values.length ≤ 65534) :
    (empty.addAll (values.map .integer)).ledger = ⟨values.map .integer⟩ := by
  -- The last integer comes to a pool that holds those before it and nothing else.
  induction values using List.reverseRecOn with
  | nil => rfl
  | append_singleton before last ih =>
    rw [List.nodup_append] at distinct
    rw [List.length_append, List.length_singleton] at fits
    have coherent := coherent_reachable (before.map .integer)
    have ledger := ih distinct.1 (Nat.le_of_succ_le fits)
    have missing : ¬ (Ledger.mk (before.map .integer)).Contains (.integer last) := by
      rintro ⟨entry, member, answers⟩
      obtain ⟨value, earlier, rfl⟩ := List.mem_map.mp member
      exact distinct.2.2 value earlier last List.mem_cons_self (beq_iff_eq.mp answers)
    have room : (Ledger.mk (before.map .integer)).next + 1 ≤ 65535 := by
      rw [Ledger.next, totalWidth_integers]
      omega
    rw [← ledger] at missing room
    rw [List.map_append, addAll_append, List.map_singleton, addAll_cons, addAll_nil,
      coherent.ledger_add_of_plain rfl missing room, ledger, List.map_append]
    rfl

/-- As many integers as there are indices leave no room for a class and its name. -/
theorem full_of_integers {values : List Int32} (distinct : values.Nodup)
    (length : values.length = 65534) (name : String) :
    let pool := empty.addAll (values.map .integer)
    pool.next = 65535 ∧ ¬ pool.Contains (.classInfo name) ∧ pool.need (.classInfo name) = 2 ∧
      ∀ value ∈ values, pool.Contains (.integer value) := by
  intro pool
  have coherent : pool.Coherent := coherent_reachable _
  have ledger : pool.ledger = ⟨values.map .integer⟩ :=
    ledger_addAll_integers distinct (Nat.le_of_eq length)
  refine ⟨?_, ?_, ?_, ?_⟩
  · apply UInt16.toNat_inj.mp
    rw [coherent.next_eq, ledger, Ledger.next, totalWidth_integers, length]
    rfl
  · rw [coherent.contains_iff, ledger]
    -- No integer is what is asked for with the name of a class.
    rintro ⟨entry, member, answers⟩
    obtain ⟨value, _, rfl⟩ := List.mem_map.mp member
    cases answers
  · rw [need_eq, ledger]
    exact Ledger.need_of_not_mem _ rfl (by simp)
  · intro value member
    rw [coherent.contains_iff, ledger]
    exact ⟨.integer value, List.mem_map_of_mem member, beq_self_eq_true value⟩

/-! ### Refusals -/

/-- In every pool that can be built, a request is refused exactly if its constant is not there and
what is missing does not fit. The refusal names the kind that was asked for and the next index. It
leaves the pool and the journal as they are, so that all later requests are answered as if it had
never been made. A constant that is there is found even if the pool is full. -/
theorem refused_iff_full (history : List Request) (request : Request) :
    let pool := empty.addAll history
    let outcome := pool.add request
    (∀ overflow, outcome.answer = .error overflow ↔
      (¬ pool.Contains request ∧ 65535 < pool.next.toNat + pool.need request) ∧
        overflow = ⟨request.kind, pool.next⟩) ∧
    (∀ overflow, outcome.answer = .error overflow →
      overflow.message = "constant pool overflow: cannot add " ++ request.kind.name ++
        " entry at index " ++ pool.next.toNat.repr ∧
      outcome.pool = pool ∧ outcome.journal = [] ∧
      ∀ later, outcome.pool.transcript later = pool.transcript later) ∧
    (pool.Contains request → ∃ index entry,
      outcome = pool.found index ∧ pool.get? index = some entry ∧
        entry.answers pool.textAt? request = true) := by
  intro pool outcome
  have coherent : pool.Coherent := coherent_reachable history
  refine ⟨coherent.answer_eq_error_iff request, ?_, coherent.add_of_contains⟩
  intro overflow refused
  obtain ⟨⟨missing, full⟩, rfl⟩ := (coherent.answer_eq_error_iff request overflow).mp refused
  have same : outcome = ⟨pool, .error ⟨request.kind, pool.next⟩, []⟩ :=
    coherent.add_of_full missing full
  rw [same]
  exact ⟨rfl, rfl, rfl, fun _ => rfl⟩

/-- A full pool refuses a class and its name, and finds what it has as before. -/
theorem refused_iff_full_of_integers :
    ∃ values : List Int32, values = (List.range 65534).map Int32.ofNat ∧
      let pool := empty.addAll (values.map .integer)
      let outcome := pool.add (.classInfo "A")
      pool.next = 65535 ∧ pool.need (.classInfo "A") = 2 ∧
        outcome.answer = .error ⟨.classInfo, 65535⟩ ∧ outcome.pool = pool ∧ outcome.journal = [] ∧
        Overflow.message ⟨.classInfo, 65535⟩ =
          "constant pool overflow: cannot add ClassInfo entry at index 65535" ∧
        ∃ index, pool.add (.integer 7) = pool.found index ∧
          pool.get? index = some (.integer 7) := by
  -- The list goes by a name from here on, so that no step looks into its 65534 integers.
  obtain ⟨values, isRange⟩ : ∃ values, values = (List.range 65534).map Int32.ofNat := ⟨_, rfl⟩
  have length : values.length = 65534 := by simp [isRange]
  have member : 7 ∈ values := by
    rw [isRange, List.mem_map]
    exact ⟨7, List.mem_range.mpr (by decide), rfl⟩
  have distinct : values.Nodup := by
    rw [isRange]
    exact nodup_integers (by decide)
  refine ⟨values, isRange, ?_⟩
  intro pool outcome
  obtain ⟨next, missing, need, there⟩ := full_of_integers distinct length "A"
  obtain ⟨refusals, unchanged, _⟩ := refused_iff_full (values.map .integer) (.classInfo "A")
  have refused : outcome.answer = .error ⟨.classInfo, 65535⟩ := by
    refine (refusals _).mpr ⟨⟨missing, ?_⟩, by rw [next]; rfl⟩
    rw [next, need]
    decide
  obtain ⟨message, same, journal, _⟩ := unchanged _ refused
  obtain ⟨_, _, present⟩ := refused_iff_full (values.map .integer) (.integer 7)
  obtain ⟨index, entry, found, known, answers⟩ := present (there 7 member)
  refine ⟨next, need, refused, same, journal, ?_, index, found, ?_⟩
  · rw [message, next]
    rfl
  · rw [known]
    cases entry with
    | integer value => rw [beq_iff_eq.mp answers]
    | _ => cases answers

end Pool

end ClassHeader
