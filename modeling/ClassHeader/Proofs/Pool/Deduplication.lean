import ClassHeader.Proofs.Pool.Constants
import ClassHeader.Proofs.Pool.Permanence

/-!
# One index for each constant

Two requests that are granted get one index exactly if they are of one kind and have one key. The
first of them leaves its constant at its index, and whatever comes between them, the second one
finds it there.
-/

namespace ClassHeader

/-- Whether two requests are of one kind and have one key. All NaNs of one precision are one key;
other numbers are one key if all their bits agree, so that the two zeros are two. -/
def Request.SameKey : Request → Request → Prop
  | .utf8 left, .utf8 right => left = right
  | .classInfo left, .classInfo right => left = right
  | .string left, .string right => left = right
  | .integer left, .integer right => left = right
  | .long left, .long right => left = right
  | .float left, .float right =>
    left.isNaN = true ∧ right.isNaN = true ∨ left.bits = right.bits
  | .double left, .double right =>
    left.isNaN = true ∧ right.isNaN = true ∨ left.bits = right.bits
  | _, _ => False

theorem Request.sameKey_iff (left right : Request) :
    left.SameKey right ↔ left.canonical = right.canonical := by
  cases left <;> cases right <;>
    simp [SameKey, canonical, Binary.canonical_eq_iff, Binary.alike]

namespace Pool

variable {pool : Pool} {index index' : UInt16} {request request' : Request}

/-- The index of a constant is that of every request that has the same key. -/
theorem Holds.of_sameKey (holds : pool.Holds index request) (same : request.SameKey request') :
    pool.Holds index request' := by
  rw [Request.sameKey_iff] at same
  obtain ⟨entry, there, answers⟩ := (holds_iff index request).mp holds
  rw [Entry.answers_iff, same, ← Entry.answers_iff] at answers
  exact (holds_iff index request').mpr ⟨entry, there, answers⟩

/-- An index is that of one constant only. -/
theorem Holds.sameKey (holds : pool.Holds index request) (holds' : pool.Holds index request') :
    request.SameKey request' := by
  obtain ⟨entry, there, answers⟩ := (holds_iff index request).mp holds
  obtain ⟨entry', there', answers'⟩ := (holds_iff index request').mp holds'
  cases there.symm.trans there'
  -- One entry stands for one constant.
  rw [Entry.answers_iff] at answers answers'
  rw [Request.sameKey_iff]
  exact Option.some.inj (answers.symm.trans answers')

namespace Coherent

/-- A constant has one index only. -/
theorem index_eq_of_holds (coherent : pool.Coherent) (holds : pool.Holds index request)
    (holds' : pool.Holds index' request) : index = index' := by
  obtain ⟨entry, there, answers⟩ := (holds_iff index request).mp holds
  obtain ⟨entry', there', answers'⟩ := (holds_iff index' request).mp holds'
  rw [Entry.answers_iff] at answers answers'
  exact coherent.index_unique there there' answers answers'

theorem contains_of_holds (coherent : pool.Coherent) (holds : pool.Holds index request) :
    pool.Contains request := by
  obtain ⟨entry, there, answers⟩ := (holds_iff index request).mp holds
  rw [coherent.get?_eq_some_iff] at there
  have member : entry ∈ pool.ledger.entries := (pool.ledger.mem_entries_iff entry).mpr ⟨_, there⟩
  exact ⟨entry, Array.mem_toList_iff.mp member, answers⟩

/-- A request for a constant that has an index is answered by that index, and nothing changes. -/
theorem add_of_holds (coherent : pool.Coherent) (holds : pool.Holds index request) :
    pool.add request = pool.found index := by
  obtain ⟨index', entry, added, there, answers⟩ :=
    coherent.add_of_contains (coherent.contains_of_holds holds)
  -- What was found is the constant asked for, which has no second index.
  have found := (holds_iff index' request).mpr ⟨entry, there, answers⟩
  rw [added, coherent.index_eq_of_holds holds found]

end Coherent

/-- Of any two requests in the life of a pool that are both granted, with any requests between them,
refused ones included, the indices are equal exactly if the requests are of one kind and have one
key. If they are, then the second one leaves the pool and the journal as they are. -/
theorem index_eq_iff_sameKey (history between : List Request) (first second : Request)
    (index : UInt16) (granted : ((empty.addAll history).add first).answer = .ok index) :
    let pool := ((empty.addAll history).add first).pool.addAll between
    (∀ index', (pool.add second).answer = .ok index' →
      (index = index' ↔ first.SameKey second)) ∧
    (first.SameKey second → pool.add second = ⟨pool, .ok index, []⟩) := by
  intro pool
  have coherent : (empty.addAll history).Coherent := coherent_reachable history
  have after : ((empty.addAll history).add first).pool.Coherent := coherent.add first
  have last : pool.Coherent := after.addAll between
  -- The first constant is still at its index when the second is asked for.
  have holds : pool.Holds index first :=
    ((coherent.step first).holds coherent granted).mono fun _ _ there =>
      after.get?_addAll between there
  refine ⟨?_, fun same => last.add_of_holds (holds.of_sameKey same)⟩
  intro index' granted'
  constructor
  · rintro rfl
    -- The second request may add entries, and the first constant stays at its index meanwhile.
    have holds' := (last.step second).holds last granted'
    exact (holds.mono fun _ _ there => last.get?_addAll [second] there).sameKey holds'
  · intro same
    rw [last.add_of_holds (holds.of_sameKey same)] at granted'
    exact Except.ok.inj granted'

/-- A NaN is found again by another NaN of its precision, and not by one of the other precision. -/
theorem index_eq_iff_sameKey_of_nans :
    let history : List Request := [.string "A", .long 1]
    let first : Request := .float ⟨0x7fc00001⟩
    let between : List Request := [.classInfo "A", .utf8 "A"]
    let second : Request := .float ⟨0xffffffff⟩
    let other : Request := .double ⟨0x7ff8000000000000⟩
    let pool := ((empty.addAll history).add first).pool.addAll between
    ((empty.addAll history).add first).answer = .ok 5 ∧
      (pool.add other).answer = .ok 7 ∧ ¬ first.SameKey other ∧
      first.SameKey second ∧ pool.add second = ⟨pool, .ok 5, []⟩ := by
  intro history first between second other pool
  have coherent : (empty.addAll history).Coherent := coherent_reachable history
  have granted : ((empty.addAll history).add first).answer = .ok 5 := by
    rw [coherent.answer_eq_ok_iff, coherent_empty.ledger_addAll]
    decide
  have run : pool = empty.addAll (history ++ first :: between) := by
    rw [addAll_append, addAll_cons]
  have granted' : (pool.add other).answer = .ok 7 := by
    rw [run, (coherent_reachable _).answer_eq_ok_iff, coherent_empty.ledger_addAll]
    decide
  obtain ⟨different, _⟩ := index_eq_iff_sameKey history between first other 5 granted
  obtain ⟨_, same⟩ := index_eq_iff_sameKey history between first second 5 granted
  have nans : first.SameKey second := by
    left
    decide
  exact ⟨granted, granted', (different 7 granted').not.mp (by decide), nans, same nans⟩

end Pool

end ClassHeader
