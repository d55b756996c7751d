import ClassHeader.Proofs.Pool.Overflow

/-!
# Indices stay what they are

An index that was given out for a constant stays the index of that constant, whatever is asked for
afterwards. A pool only ever grows, by entries that are inserted at its end, and an entry at the end
moves no entry before it.
-/

namespace ClassHeader.Pool

variable {pool : Pool}

/-! ### Growth -/

/-- The pool with more entries, for which there is room. -/
def insertAll (pool : Pool) (entries : List Entry) : Pool :=
  entries.foldl insert pool

@[simp] theorem insertAll_nil (pool : Pool) : pool.insertAll [] = pool := rfl

@[simp] theorem insertAll_cons (pool : Pool) (entry : Entry) (rest : List Entry) :
    pool.insertAll (entry :: rest) = (pool.insert entry).insertAll rest := rfl

theorem insertAll_append (pool : Pool) (front back : List Entry) :
    pool.insertAll (front ++ back) = (pool.insertAll front).insertAll back :=
  List.foldl_append

theorem entries_insertAll (pool : Pool) (entries : List Entry) :
    (pool.insertAll entries).ledger.entries = pool.ledger.entries ++ entries := by
  induction entries generalizing pool with
  | nil => simp
  | cons entry rest ih => simp [ih]

/-- All that a request changes in a pool is that entries are inserted. -/
theorem Step.exists_insertAll {request : Request} {outcome : Outcome}
    (step : pool.Step request outcome) : ∃ added, outcome.pool = pool.insertAll added := by
  cases step with
  | found => exact ⟨[], rfl⟩
  | refused => exact ⟨[], rfl⟩
  | entryAdded text => exact ⟨[request.entry text], rfl⟩
  | textAdded content => exact ⟨[.utf8 content, request.entry pool.next], rfl⟩

namespace Coherent

theorem exists_insertAll (coherent : pool.Coherent) (requests : List Request) :
    ∃ added, pool.addAll requests = pool.insertAll added := by
  induction requests generalizing pool with
  | nil => exact ⟨[], rfl⟩
  | cons request rest ih =>
    obtain ⟨first, inserted⟩ := (coherent.step request).exists_insertAll
    obtain ⟨others, whole⟩ := ih (coherent.add request)
    refine ⟨first ++ others, ?_⟩
    rw [addAll_cons, whole, inserted, insertAll_append]

theorem entries_prefix_addAll (coherent : pool.Coherent) (requests : List Request) :
    pool.ledger.entries <+: (pool.addAll requests).ledger.entries := by
  obtain ⟨added, whole⟩ := coherent.exists_insertAll requests
  rw [whole, entries_insertAll]
  exact List.prefix_append _ _

/-- What is at an index is there in every pool that has more entries after the same ones. -/
theorem get?_of_prefix {later : Pool} (coherent : pool.Coherent) (coherent' : later.Coherent)
    (longer : pool.ledger.entries <+: later.ledger.entries) {index : UInt16} {entry : Entry}
    (there : pool.get? index = some entry) : later.get? index = some entry := by
  rw [coherent.get?_eq] at there
  have used := pool.ledger.index_lt_next ((pool.ledger.get?_eq_some_iff _ _).mp there)
  rw [coherent'.get?_eq, Ledger.get?_of_prefix longer used, there]

theorem get?_addAll (coherent : pool.Coherent) (requests : List Request) {index : UInt16}
    {entry : Entry} (there : pool.get? index = some entry) :
    (pool.addAll requests).get? index = some entry :=
  coherent.get?_of_prefix (coherent.addAll requests) (coherent.entries_prefix_addAll requests) there

theorem get?_insert_of_some (coherent : pool.Coherent) {added : Entry}
    (after : (pool.insert added).Coherent) {index : UInt16} {entry : Entry}
    (there : pool.get? index = some entry) : (pool.insert added).get? index = some entry := by
  refine coherent.get?_of_prefix after ?_ there
  rw [ledger_insert]
  exact List.prefix_append _ _

/-- An entry that is inserted is at the index that was the next one. -/
theorem get?_insert_next (coherent : pool.Coherent) {entry : Entry}
    (after : (pool.insert entry).Coherent) : (pool.insert entry).get? pool.next = some entry := by
  rw [after.get?_eq_some_iff, ledger_insert, Ledger.indexed_append, coherent.next_eq]
  simp

end Coherent

/-! ### What an index stands for -/

/-- Whether an index is that of the constant that is asked for. A NaN may be another one than was
asked for. -/
def Holds (pool : Pool) (index : UInt16) : Request → Prop
  | .utf8 text => pool.get? index = some (.utf8 text)
  | .classInfo name =>
    ∃ text, pool.get? index = some (.classInfo text) ∧ pool.get? text = some (.utf8 name)
  | .string content =>
    ∃ text, pool.get? index = some (.string text) ∧ pool.get? text = some (.utf8 content)
  | .integer value => pool.get? index = some (.integer value)
  | .long value => pool.get? index = some (.long value)
  | .float value =>
    ∃ stored, pool.get? index = some (.float stored) ∧
      (stored.isNaN = true ∧ value.isNaN = true ∨ stored.bits = value.bits)
  | .double value =>
    ∃ stored, pool.get? index = some (.double stored) ∧
      (stored.isNaN = true ∧ value.isNaN = true ∨ stored.bits = value.bits)

/-- An index is that of a constant exactly if the entry there is what is asked for. -/
theorem holds_iff (index : UInt16) (request : Request) :
    pool.Holds index request ↔
      ∃ entry, pool.get? index = some entry ∧ entry.answers pool.textAt? request = true := by
  constructor
  · intro holds
    cases request with
    | utf8 text => exact ⟨_, holds, by simp [Entry.answers]⟩
    | integer value => exact ⟨_, holds, by simp [Entry.answers]⟩
    | long value => exact ⟨_, holds, by simp [Entry.answers]⟩
    | classInfo name =>
      obtain ⟨text, there, leads⟩ := holds
      rw [← textAt?_eq_some_iff] at leads
      exact ⟨_, there, by simp [Entry.answers, leads]⟩
    | string content =>
      obtain ⟨text, there, leads⟩ := holds
      rw [← textAt?_eq_some_iff] at leads
      exact ⟨_, there, by simp [Entry.answers, leads]⟩
    | float value =>
      obtain ⟨stored, there, alike⟩ := holds
      exact ⟨_, there, by simpa [Entry.answers, Binary.alike] using alike⟩
    | double value =>
      obtain ⟨stored, there, alike⟩ := holds
      exact ⟨_, there, by simpa [Entry.answers, Binary.alike] using alike⟩
  · rintro ⟨entry, there, answers⟩
    -- An entry of another kind is never what is asked for.
    cases entry <;> cases request <;>
      simp_all [Entry.answers, Holds, Binary.alike, textAt?_eq_some_iff]

/-- An index stays that of a constant as long as no entry is taken away or changed. -/
theorem Holds.mono {later : Pool} {index : UInt16} {request : Request}
    (holds : pool.Holds index request)
    (kept : ∀ index entry, pool.get? index = some entry → later.get? index = some entry) :
    later.Holds index request := by
  cases request with
  | utf8 text => exact kept _ _ holds
  | integer value => exact kept _ _ holds
  | long value => exact kept _ _ holds
  | classInfo name =>
    obtain ⟨text, there, leads⟩ := holds
    exact ⟨text, kept _ _ there, kept _ _ leads⟩
  | string content =>
    obtain ⟨text, there, leads⟩ := holds
    exact ⟨text, kept _ _ there, kept _ _ leads⟩
  | float value =>
    obtain ⟨stored, there, alike⟩ := holds
    exact ⟨stored, kept _ _ there, alike⟩
  | double value =>
    obtain ⟨stored, there, alike⟩ := holds
    exact ⟨stored, kept _ _ there, alike⟩

/-- A request that is granted is answered by the index of its constant. -/
theorem Step.holds (coherent : pool.Coherent) {request : Request} {outcome : Outcome}
    {index : UInt16} (step : pool.Step request outcome) (granted : outcome.answer = .ok index) :
    outcome.pool.Holds index request := by
  rw [holds_iff]
  cases step with
  | found index there =>
    cases granted
    obtain ⟨entry, member, answers⟩ := pool.ledger.mem_of_find? there
    rw [← coherent.get?_eq_some_iff] at member
    rw [← coherent.textAt?_eq] at answers
    exact ⟨entry, member, answers⟩
  | refused => cases granted
  | entryAdded text missing room need known after =>
    cases granted
    refine ⟨_, coherent.get?_insert_next after, Entry.answers_entry _ request text ?_⟩
    -- The text was there before.
    intro content refers
    rw [textAt?_eq_some_iff]
    apply coherent.get?_insert_of_some after
    rw [coherent.get?_eq_some_iff]
    exact pool.ledger.mem_utf8_of_position? (known content refers)
  | textAdded content missing room need refers unknown after after' =>
    cases granted
    refine ⟨_, after.get?_insert_next after', Entry.answers_entry _ request pool.next ?_⟩
    -- The text was inserted right before, at the index that was the next one then.
    intro text refers'
    cases refers.symm.trans refers'
    rw [textAt?_eq_some_iff]
    exact after.get?_insert_of_some after' (coherent.get?_insert_next after)

/-- Once an index has been answered to a request, it is that of the constant asked for, after any
further requests, refused ones included. No entry is ever taken away or changed: the entries at one
time are the first ones at every later time, and each keeps its index. -/
theorem index_permanent (history later : List Request) (request : Request) :
    let earlier := empty.addAll history
    let outcome := earlier.add request
    let pool := outcome.pool.addAll later
    (∀ index, outcome.answer = .ok index → pool.Holds index request) ∧
    (∀ index entry, outcome.pool.get? index = some entry → pool.get? index = some entry) ∧
    earlier.entries.toList <+: outcome.pool.entries.toList ∧
    outcome.pool.entries.toList <+: pool.entries.toList := by
  intro earlier outcome pool
  have coherent : earlier.Coherent := coherent_reachable history
  have after : outcome.pool.Coherent := coherent.add request
  have kept : ∀ index entry, outcome.pool.get? index = some entry → pool.get? index = some entry :=
    fun _ _ there => after.get?_addAll later there
  refine ⟨?_, kept, coherent.entries_prefix_addAll [request], after.entries_prefix_addAll later⟩
  -- The index holds the constant once it is given out, and what it needs for that is kept.
  intro index granted
  exact ((coherent.step request).holds coherent granted).mono kept

end ClassHeader.Pool
