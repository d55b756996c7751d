import ClassHeader.Proofs.Pool.Maps
import ClassHeader.Proofs.Pool.Search

/-!
# What holds of every pool

A pool is coherent if its entries are sound, its counter is the next index of its ledger, and its
maps hold for every canonical form the index of the entry that has it. `Step` says once all that a
request can do to a coherent pool; that it keeps the pool coherent follows from it, and so does
every statement about requests.
-/

namespace ClassHeader.Pool

/-- The counter and the maps of a pool say what its entries say, and the entries are sound. -/
structure Coherent (pool : Pool) : Prop where
  sound : pool.ledger.Sound
  next_eq : pool.next.toNat = pool.ledger.next
  lookup_eq : ∀ key, (pool.lookup? key).map UInt16.toNat = pool.ledger.position? key

/-- What a request can leave behind. -/
inductive Step (pool : Pool) (request : Request) : Outcome → Prop where
  /-- The constant was there. -/
  | found (index : UInt16) (there : pool.ledger.find? request = some index.toNat) :
    Step pool request (pool.found index)
  /-- The constant was not there, and there was no room for all that was missing. -/
  | refused (missing : pool.ledger.find? request = none)
    (full : 65535 < pool.ledger.next + pool.ledger.need request) :
    Step pool request ⟨pool, .error ⟨request.kind, pool.next⟩, []⟩
  /-- Only the entry was missing; the text that it refers to, if there is one, is at `text`. -/
  | entryAdded (text : UInt16) (missing : pool.ledger.find? request = none)
    (room : pool.ledger.next + pool.ledger.need request ≤ 65535)
    (need : pool.ledger.need request = request.kind.width)
    (known : ∀ content, request.text? = some content →
      pool.ledger.position? (.utf8 content) = some text.toNat)
    (coherent : (pool.insert (request.entry text)).Coherent) :
    Step pool request
      ⟨pool.insert (request.entry text), .ok pool.next, [.added pool.next (request.entry text)]⟩
  /-- The entry and the text that it refers to were missing. -/
  | textAdded (content : String) (missing : pool.ledger.find? request = none)
    (room : pool.ledger.next + pool.ledger.need request ≤ 65535)
    (need : pool.ledger.need request = request.kind.width + 1)
    (refers : request.text? = some content)
    (unknown : pool.ledger.position? (.utf8 content) = none)
    (coherent : (pool.insert (.utf8 content)).Coherent)
    (coherent' : ((pool.insert (.utf8 content)).insert (request.entry pool.next)).Coherent) :
    Step pool request
      ⟨(pool.insert (.utf8 content)).insert (request.entry pool.next),
        .ok (pool.insert (.utf8 content)).next,
        [.added pool.next (.utf8 content),
          .added (pool.insert (.utf8 content)).next (request.entry pool.next)]⟩

/-- The pool after some requests, refused ones included. -/
def addAll (pool : Pool) (requests : List Request) : Pool :=
  requests.foldl (fun pool request => (pool.add request).pool) pool

@[simp] theorem addAll_nil (pool : Pool) : pool.addAll [] = pool := rfl

@[simp] theorem addAll_cons (pool : Pool) (request : Request) (rest : List Request) :
    pool.addAll (request :: rest) = (pool.add request).pool.addAll rest := rfl

theorem addAll_append (pool : Pool) (front back : List Request) :
    pool.addAll (front ++ back) = (pool.addAll front).addAll back :=
  List.foldl_append

namespace Coherent

variable {pool : Pool}

theorem lookup?_eq_some_iff (coherent : pool.Coherent) (key : Entry) (index : UInt16) :
    pool.lookup? key = some index ↔ pool.ledger.position? key = some index.toNat := by
  rw [← coherent.lookup_eq]
  cases pool.lookup? key with
  | none => simp
  | some index' => simp [UInt16.toNat_inj]

theorem lookup?_eq_none_iff (coherent : pool.Coherent) (key : Entry) :
    pool.lookup? key = none ↔ pool.ledger.position? key = none := by
  rw [← coherent.lookup_eq, Option.map_eq_none_iff]

/-- One entry more, which is new, fits and refers to a text that is there, keeps a pool coherent. -/
theorem insert (coherent : pool.Coherent) {entry : Entry}
    (unknown : pool.lookup? entry.canonical = none)
    (room : pool.next.toNat + entry.width ≤ 65535)
    (known : ∀ text, entry.reference? = some text →
      ∃ content, (text.toNat, .utf8 content) ∈ pool.ledger.indexed) :
    (pool.insert entry).Coherent where
  sound := by
    rw [ledger_insert]
    rw [coherent.next_eq] at room
    exact coherent.sound.append ((coherent.lookup?_eq_none_iff _).mp unknown) room known
  next_eq := by
    rw [ledger_insert, Ledger.next_append, toNat_next_insert pool entry room, coherent.next_eq]
  lookup_eq := by
    intro key
    rw [ledger_insert, lookup?_insert, Ledger.position?_append]
    -- The form of the entry was nowhere and is at the next index now; other forms stay.
    by_cases same : entry.canonical = key
    · rw [coherent.lookup?_eq_none_iff] at unknown
      rw [if_pos same, if_pos same, ← same, unknown, Option.map_some, coherent.next_eq]
      rfl
    · rw [if_neg same, if_neg same, Option.or_none]
      exact coherent.lookup_eq key

/-- A map holds no index of a text that is still to come. -/
theorem lookup?_next (coherent : pool.Coherent) {entry : Entry}
    (refers : entry.reference? = some pool.next) : pool.lookup? entry = none := by
  cases found : pool.lookup? entry with
  | none => rfl
  | some index =>
    obtain ⟨stored, member, same⟩ :=
      pool.ledger.mem_of_position? _ ((coherent.lookup?_eq_some_iff _ _).mp found)
    have reference : stored.reference? = some pool.next := by
      cases stored <;> cases same <;> exact refers
    -- The text would be below the entry that was found, but it is still to come.
    have below := (coherent.sound.backed _ _ member _ reference).1
    have bound := pool.ledger.index_lt_next member
    rw [coherent.next_eq] at below
    omega

end Coherent

/-! ### Requests -/

namespace Coherent

variable {pool : Pool}

/-- A request that comes down to one entry, whose text is there if it refers to one. -/
private theorem step_addEntry (coherent : pool.Coherent) {request : Request} (text : UInt16)
    (search : pool.ledger.find? request = pool.ledger.position? (request.entry text).canonical)
    (need : pool.ledger.need request = request.kind.width)
    (known : ∀ content, request.text? = some content →
      pool.ledger.position? (.utf8 content) = some text.toNat) :
    pool.Step request (pool.addEntry (request.entry text)) := by
  -- The map is asked instead of the entries, which coherence makes the same.
  cases found : pool.lookup? (request.entry text).canonical with
  | some index =>
    rw [addEntry_of_some pool found]
    exact .found index (search.trans ((coherent.lookup?_eq_some_iff _ _).mp found))
  | none =>
    have missing := search.trans ((coherent.lookup?_eq_none_iff _).mp found)
    by_cases room : pool.ledger.next + pool.ledger.need request ≤ 65535
    · have fits : pool.next.toNat + (request.entry text).width ≤ 65535 := by
        rw [coherent.next_eq, Request.width_entry, ← need]
        exact room
      rw [addEntry_of_room pool found fits]
      refine .entryAdded text missing room need known (coherent.insert found fits ?_)
      intro index refers
      rw [Request.reference?_entry, Option.map_eq_some_iff] at refers
      obtain ⟨content, refers, rfl⟩ := refers
      exact ⟨content, pool.ledger.mem_utf8_of_position? (known content refers)⟩
    · have full : 65535 < pool.next.toNat + (request.entry text).width := by
        rw [coherent.next_eq, Request.width_entry, ← need]
        exact Nat.lt_of_not_le room
      rw [addEntry_of_full pool found full, Request.kind_entry]
      exact .refused missing (Nat.lt_of_not_le room)

/-- A request whose text is not there yet. -/
private theorem step_of_unknown_text (coherent : pool.Coherent) {request : Request} {text : String}
    (refers : request.text? = some text) (unknown : pool.lookup? (.utf8 text) = none) :
    pool.Step request (pool.add request) := by
  have absent := (coherent.lookup?_eq_none_iff _).mp unknown
  -- No entry can refer to a text that is not there, so the constant is missing as well.
  have missing := pool.ledger.find?_of_unknown_text refers absent
  have need := pool.ledger.need_of_not_mem refers
    ((pool.ledger.position?_utf8_eq_none_iff text).mp absent)
  by_cases room : pool.ledger.next + pool.ledger.need request ≤ 65535
  · have fits : pool.next.toNat + request.kind.width + 1 ≤ 65535 := by
      rw [coherent.next_eq]
      omega
    have textFits : pool.next.toNat + (Entry.utf8 text).width ≤ 65535 :=
      Nat.le_trans (Nat.add_le_add_right (Nat.le_add_right _ _) 1) fits
    have backed : (pool.insert (.utf8 text)).Coherent :=
      coherent.insert unknown textFits (fun _ refers => by cases refers)
    -- Right after its text, a class or string entry is new, so that it is added and not found.
    have new : (pool.insert (.utf8 text)).lookup? (request.entry pool.next).canonical = none := by
      rw [Request.canonical_entry_of_text refers, lookup?_insert, if_neg]
      · exact coherent.lookup?_next (by rw [Request.reference?_entry, refers]; rfl)
      · intro same
        cases request <;> cases refers <;> cases same
    have entryFits :
        (pool.insert (.utf8 text)).next.toNat + (request.entry pool.next).width ≤ 65535 := by
      rw [toNat_next_insert pool _ textFits, Request.width_entry]
      change pool.next.toNat + 1 + _ ≤ _
      omega
    rw [add_of_unknown_text_of_room pool refers unknown fits]
    dsimp only [Outcome.andThen]
    rw [addEntry_of_room _ new entryFits]
    refine .textAdded text missing room need refers absent backed
      (backed.insert new entryFits ?_)
    intro index reference
    rw [Request.reference?_entry, Option.map_eq_some_iff] at reference
    obtain ⟨_, _, rfl⟩ := reference
    exact ⟨text, by rw [ledger_insert, Ledger.indexed_append, coherent.next_eq]; simp⟩
  · have full : 65535 < pool.next.toNat + request.kind.width + 1 := by
      rw [coherent.next_eq]
      omega
    rw [add_of_unknown_text_of_full pool refers unknown full]
    exact .refused missing (Nat.lt_of_not_le room)

/-- All that a request can do to a coherent pool. -/
theorem step (coherent : pool.Coherent) (request : Request) :
    pool.Step request (pool.add request) := by
  cases refers : request.text? with
  | none =>
    rw [add_of_plain pool refers 0]
    exact coherent.step_addEntry 0 (pool.ledger.find?_of_plain refers 0)
      (pool.ledger.need_of_plain refers) (by simp [refers])
  | some text =>
    -- The text decides whether one entry is at stake or two.
    cases known : pool.lookup? (.utf8 text) with
    | none => exact coherent.step_of_unknown_text refers known
    | some index =>
      have position := (coherent.lookup?_eq_some_iff _ _).mp known
      have there : .utf8 text ∈ pool.ledger.entries :=
        (pool.ledger.mem_entries_iff _).mpr ⟨_, pool.ledger.mem_utf8_of_position? position⟩
      rw [add_of_known_text pool refers known]
      apply coherent.step_addEntry index
      · rw [Request.canonical_entry_of_text refers]
        exact coherent.sound.find?_of_known_text refers position
      · exact pool.ledger.need_of_mem refers there
      · intro content same
        cases refers.symm.trans same
        exact position

/-- A request keeps a pool coherent, whether it is granted or refused. -/
theorem add (coherent : pool.Coherent) (request : Request) : (pool.add request).pool.Coherent := by
  have step := coherent.step request
  generalize pool.add request = outcome at step
  -- Each step brings with it that the pool it leaves behind is coherent.
  cases step with
  | found _ _ => exact coherent
  | refused _ _ => exact coherent
  | entryAdded _ _ _ _ _ after => exact after
  | textAdded _ _ _ _ _ _ _ after => exact after

theorem addAll (coherent : pool.Coherent) (requests : List Request) :
    (pool.addAll requests).Coherent := by
  induction requests generalizing pool with
  | nil => exact coherent
  | cons request rest ih => exact ih (coherent.add request)

end Coherent

theorem coherent_empty : empty.Coherent where
  sound := ⟨by simp [Ledger.empty], by simp [Ledger.empty, Ledger.indexed, Entry.number], by simp⟩
  next_eq := rfl
  lookup_eq := by simp [Ledger.position?, Ledger.indexed, Ledger.empty, Entry.number]

/-- Every pool that requests can build from the empty one is coherent. -/
theorem coherent_reachable (history : List Request) : (empty.addAll history).Coherent :=
  coherent_empty.addAll history

end ClassHeader.Pool
