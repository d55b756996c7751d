import ClassHeader.Proofs.Pool.Message
import ClassHeader.Proofs.Pool.Permanence

/-!
# The journal tells what is in a pool

A pool records an entry when it adds one and at no other time, so that the records of its life are
its entries with their indices, in their order. Whoever has the journal has the pool: a reader who
starts with nothing and takes the records one by one finds each of them to fit what the records
before it have made, and ends up with all that can be read from the pool. If the journal is kept as
text, the messages still tell the entries of the pool and their indices, up to the bits of NaNs.
-/

namespace ClassHeader

namespace Event

/-- The record of an entry with its index. -/
def ofEntry : UInt16 × Entry → Event
  | (index, entry) => .added index entry

/-- Records have the same messages exactly if their entries have the same indices and, one by one,
the same canonical forms. -/
theorem map_message_eq_iff (left right : List (UInt16 × Entry)) :
    (left.map ofEntry).map message = (right.map ofEntry).map message ↔
      (left.map fun (index, entry) => (index, entry.canonical)) =
        right.map fun (index, entry) => (index, entry.canonical) := by
  induction left generalizing right with
  | nil => simp
  | cons first rest ih =>
    cases right with
    | nil => simp
    | cons first' rest' =>
      simp only [List.map_cons, List.cons.injEq, ih, ofEntry, message_added_eq_iff, Prod.mk.injEq]

end Event

namespace Ledger

/-- Follows a journal from a ledger on. A record is believed only if its index, or its counts, are
those of the ledger that the records before it have made. -/
def replay? (ledger : Ledger) : List Event → Option Ledger
  | [] => some ledger
  | .added index entry :: rest =>
    if index.toNat = ledger.next then (ledger.append entry).replay? rest else none
  | .writing count entries :: rest =>
    if count.toNat = ledger.next ∧ entries = ledger.entries.length then ledger.replay? rest
    else none

/-- Entries that are numbered from the next index on are believed, and appended. -/
theorem replay?_ofEntry (ledger : Ledger) (added : List (UInt16 × Entry))
    (numbered : added.map (fun (index, entry) => (index.toNat, entry)) =
      Entry.number ledger.next (added.map (·.2))) :
    ledger.replay? (added.map .ofEntry) = some ⟨ledger.entries ++ added.map (·.2)⟩ := by
  -- The next index is that of the ledger as it grows, one record after the other.
  induction added generalizing ledger with
  | nil => simp [replay?]
  | cons first rest ih =>
    obtain ⟨index, entry⟩ := first
    simp only [List.map_cons, Entry.number, List.cons.injEq, Prod.mk.injEq, and_true] at numbered
    rw [List.map_cons, Event.ofEntry, replay?, if_pos numbered.1, ih]
    · simp
    · rw [next_append]
      exact numbered.2

end Ledger

namespace Pool

variable {pool : Pool}

/-- What is recorded during requests that are made one after the other. -/
def journal : Pool → List Request → List Event
  | _, [] => []
  | pool, request :: rest => (pool.add request).journal ++ (pool.add request).pool.journal rest

/-- The text that a request refers to, if it refers to one that is not in the pool. -/
def newText? (pool : Pool) (request : Request) : Option String :=
  request.text?.filter fun text => Entry.utf8 text ∉ pool.entries

/-- The pair of an entry that is inserted comes after those of the entries before it. -/
theorem Coherent.indexed_insert (coherent : pool.Coherent) {entry : Entry}
    (after : (pool.insert entry).Coherent) :
    (pool.insert entry).indexed = pool.indexed ++ [(pool.next, entry)] := by
  have injective (first second : UInt16 × Entry)
      (same : (first.1.toNat, first.2) = (second.1.toNat, second.2)) : first = second := by
    rw [Prod.mk.injEq, UInt16.toNat_inj] at same
    exact Prod.ext same.1 same.2
  -- Both sides are the ledger's numbers, in 16 bits.
  apply (List.map_inj_right injective).mp
  rw [List.map_append]
  change (pool.insert entry).indexed.map (fun (index, entry) => (index.toNat, entry)) =
    pool.indexed.map (fun (index, entry) => (index.toNat, entry)) ++ [(pool.next.toNat, entry)]
  rw [after.map_indexed, coherent.map_indexed, ledger_insert, Ledger.indexed_append,
    coherent.next_eq]

/-- A request records the entries that it adds. -/
theorem Step.exists_added (coherent : pool.Coherent) {request : Request} {outcome : Outcome}
    (step : pool.Step request outcome) :
    ∃ added, outcome.pool.indexed = pool.indexed ++ added ∧
      outcome.journal = added.map .ofEntry := by
  cases step with
  | found => exact ⟨[], (List.append_nil _).symm, rfl⟩
  | refused => exact ⟨[], (List.append_nil _).symm, rfl⟩
  | entryAdded text _ _ _ _ after =>
    exact ⟨[(pool.next, request.entry text)], coherent.indexed_insert after, rfl⟩
  | textAdded content _ _ _ _ _ backed after =>
    refine ⟨[(pool.next, .utf8 content), (_, request.entry pool.next)], ?_, rfl⟩
    rw [backed.indexed_insert after, coherent.indexed_insert backed, List.append_assoc]
    rfl

/-- Nothing is recorded of a constant that is there, or that there is no room for. -/
theorem Step.journal_eq_nil {request : Request} {outcome : Outcome}
    (step : pool.Step request outcome)
    (idle : pool.ledger.Contains request ∨ ∃ overflow, outcome.answer = .error overflow) :
    outcome.journal = [] := by
  -- A step that adds something finds nothing and is granted.
  cases step with
  | found => rfl
  | refused => rfl
  | entryAdded _ missing | textAdded _ missing =>
    rw [Ledger.find?_eq_none_iff] at missing
    rcases idle with there | ⟨_, refused⟩
    · exact absurd there missing
    · cases refused

theorem newText?_of_mem {request : Request}
    (there : ∀ text, request.text? = some text → .utf8 text ∈ pool.entries) :
    pool.newText? request = none := by
  simpa [newText?, Option.filter_eq_none_iff] using there

theorem newText?_of_not_mem {request : Request} {text : String}
    (refers : request.text? = some text) (missing : .utf8 text ∉ pool.entries) :
    pool.newText? request = some text := by
  simp [newText?, refers, missing]

/-- Of a constant that is added there is one record, after that of its text if the text is new. -/
theorem Step.journal_of_granted {request : Request} {outcome : Outcome} {index : UInt16}
    (step : pool.Step request outcome) (missing : ¬ pool.ledger.Contains request)
    (granted : outcome.answer = .ok index) :
    ∃ text, outcome.journal =
      ((pool.newText? request).toList.map fun content => .added pool.next (.utf8 content)) ++
        [.added index (request.entry text)] := by
  cases step with
  | found _ there =>
    rw [← Ledger.find?_eq_none_iff, there] at missing
    cases missing
  | refused => cases granted
  | entryAdded text _ _ _ known =>
    -- The text was there, and is not recorded again.
    cases granted
    have there : ∀ content, request.text? = some content → .utf8 content ∈ pool.entries := by
      intro content refers
      have member := pool.ledger.mem_utf8_of_position? (known content refers)
      exact Array.mem_toList_iff.mp ((pool.ledger.mem_entries_iff _).mpr ⟨_, member⟩)
    rw [newText?_of_mem there]
    exact ⟨text, rfl⟩
  | textAdded content _ _ _ refers unknown =>
    cases granted
    rw [Ledger.position?_utf8_eq_none_iff] at unknown
    rw [newText?_of_not_mem refers fun member => unknown (Array.mem_toList_iff.mpr member)]
    exact ⟨pool.next, rfl⟩

namespace Coherent

/-- What requests record is what they add. -/
theorem exists_added (coherent : pool.Coherent) (requests : List Request) :
    ∃ added, (pool.addAll requests).indexed = pool.indexed ++ added ∧
      pool.journal requests = added.map .ofEntry := by
  induction requests generalizing pool with
  | nil => exact ⟨[], (List.append_nil _).symm, rfl⟩
  | cons request rest ih =>
    obtain ⟨first, grown, recorded⟩ := (coherent.step request).exists_added coherent
    obtain ⟨others, grown', recorded'⟩ := ih (coherent.add request)
    refine ⟨first ++ others, ?_, ?_⟩
    · rw [addAll_cons, grown', grown, List.append_assoc]
    · rw [journal, recorded, recorded', List.map_append]

/-- A reader who starts with nothing believes the records of all entries and then has the ledger. -/
theorem replay?_indexed (coherent : pool.Coherent) :
    Ledger.empty.replay? (pool.indexed.map .ofEntry) = some pool.ledger := by
  have entries : pool.indexed.map (·.2) = pool.ledger.entries := by
    rw [← Ledger.map_snd_indexed, ← coherent.map_indexed, List.map_map]
    rfl
  rw [Ledger.empty.replay?_ofEntry pool.indexed, entries]
  · rfl
  · rw [coherent.map_indexed, entries]
    rfl

end Coherent

/-- After any requests to a pool that was empty at first, refused ones included, the journal is the
entries of the pool with their indices, one trace record for each, in their order. Its messages are
those of another history exactly if the pools have the same entries at the same indices, up to the
bits of NaNs. A reader of the journal alone ends up with all that can be read from the pool. A
request records precisely the entries that it adds: nothing if its constant is there or if it is
refused, else its own entry, after that of the text that it refers to if the text is new. -/
theorem journal_faithful (history : List Request) (request : Request) :
    let pool := empty.addAll history
    let outcome := pool.add request
    empty.journal history = pool.indexed.map .ofEntry ∧
    (∀ other : List Request,
      (empty.journal history).map Event.message = (empty.journal other).map Event.message ↔
        (pool.indexed.map fun (index, entry) => (index, entry.canonical)) =
          (empty.addAll other).indexed.map fun (index, entry) => (index, entry.canonical)) ∧
    (∀ event ∈ empty.journal history, event.level = .trace) ∧
    (∃ ledger, Ledger.empty.replay? (empty.journal history) = some ledger ∧
      ledger.view = pool.view) ∧
    (∃ added, outcome.pool.indexed = pool.indexed ++ added ∧
      outcome.journal = added.map .ofEntry) ∧
    (pool.Contains request ∨ (∃ overflow, outcome.answer = .error overflow) →
      outcome.journal = []) ∧
    ∀ index, ¬ pool.Contains request → outcome.answer = .ok index → ∃ text, outcome.journal =
      ((pool.newText? request).toList.map fun content => .added pool.next (.utf8 content)) ++
        [.added index (request.entry text)] := by
  intro pool outcome
  have coherent : pool.Coherent := coherent_reachable history
  have step : pool.Step request outcome := coherent.step request
  -- A pool that was empty at first has what was added, and nothing else.
  have journal (history : List Request) :
      empty.journal history = (empty.addAll history).indexed.map .ofEntry := by
    obtain ⟨added, grown, recorded⟩ := coherent_empty.exists_added history
    rw [recorded, show (empty.addAll history).indexed = added from grown]
  rw [coherent.contains_iff, journal]
  refine ⟨rfl, fun other => ?_, ?_, ⟨pool.ledger, coherent.replay?_indexed, coherent.view_eq.symm⟩,
    step.exists_added coherent, step.journal_eq_nil,
    fun index missing granted => step.journal_of_granted missing granted⟩
  · rw [journal, Event.map_message_eq_iff]
  · intro event member
    obtain ⟨_, _, rfl⟩ := List.mem_map.mp member
    rfl

end Pool

end ClassHeader
