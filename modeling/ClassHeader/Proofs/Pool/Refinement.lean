import ClassHeader.Proofs.Pool.Coherence

/-!
# Pools answer as ledgers do

What a pool shows is what its ledger shows, and a request does to the pool and answers what it does
to the ledger and answers there. So the seven maps, the references by index and the 16-bit counter
cannot be told from a list that is searched from the front, however long a pool is in use.
-/

namespace ClassHeader

/-- In an ascending list nothing beyond the first greater index is at that index. -/
theorem find?_takeWhile_le {α : Type} {pairs : List (UInt16 × α)}
    (ascending : pairs.Pairwise (·.1 < ·.1)) (index : UInt16) :
    (pairs.takeWhile (·.1 ≤ index)).find? (·.1 == index) = pairs.find? (·.1 == index) := by
  induction ascending with
  | nil => rfl
  | @cons first rest below _ ih =>
    -- The walk ends at the first greater index, and the indices after that are greater still.
    by_cases atMost : first.1 ≤ index
    · rw [List.takeWhile_cons_of_pos (by simpa using atMost), List.find?_cons, List.find?_cons, ih]
    · rw [List.takeWhile_cons_of_neg (by simpa using atMost), List.find?_nil, eq_comm,
        List.find?_eq_none]
      intro later member same
      rw [beq_iff_eq] at same
      rcases List.mem_cons.mp member with rfl | member
      · exact atMost (UInt16.le_of_eq same)
      · exact atMost (UInt16.le_of_lt (same ▸ below later member))

namespace Pool

variable {pool : Pool}

/-- Indices in 16 bits do not wrap as long as all of them fit. -/
private theorem map_foldl_indexed (entries : List Entry) (next : UInt16)
    (found : Array (UInt16 × Entry)) (room : next.toNat + Entry.totalWidth entries ≤ 65535) :
    (entries.foldl
        (fun (next, found) entry => (next + entry.width.toUInt16, found.push (next, entry)))
        (next, found)).2.toList.map (fun (index, entry) => (index.toNat, entry)) =
      found.toList.map (fun (index, entry) => (index.toNat, entry)) ++
        Entry.number next.toNat entries := by
  induction entries generalizing next found with
  | nil => simp [Entry.number]
  | cons entry rest ih =>
    -- Both accumulators vary: the index must fit for every entry that is left.
    rw [Entry.totalWidth_cons] at room
    have advanced : (next + entry.width.toUInt16).toNat = next.toNat + entry.width := by
      rw [UInt16.toNat_add]
      change (next.toNat + entry.width % 65536) % 65536 = _
      omega
    rw [List.foldl_cons, ih _ _ (by rw [advanced]; omega), advanced]
    simp [Entry.number]

namespace Coherent

/-- The indices that are counted in 16 bits are those of the ledger. -/
theorem map_indexed (coherent : pool.Coherent) :
    pool.indexed.map (fun (index, entry) => (index.toNat, entry)) = pool.ledger.indexed := by
  rw [indexed, ← Array.foldl_toList]
  exact map_foldl_indexed pool.ledger.entries 1 #[] coherent.sound.bounded

/-- An index of the ledger is an index of the pool once it is taken as 16 bits. -/
theorem indexed_eq (coherent : pool.Coherent) :
    pool.indexed = pool.ledger.indexed.map fun (index, entry) => (index.toUInt16, entry) := by
  rw [← coherent.map_indexed, List.map_map]
  refine (List.map_id'' ?_ _).symm
  rintro ⟨index, entry⟩
  exact congrArg (·, entry) UInt16.ofNat_toNat

theorem mem_indexed_iff (coherent : pool.Coherent) (index : UInt16) (entry : Entry) :
    (index, entry) ∈ pool.indexed ↔ (index.toNat, entry) ∈ pool.ledger.indexed := by
  rw [← coherent.map_indexed, List.mem_map]
  constructor
  · intro member
    exact ⟨(index, entry), member, rfl⟩
  · rintro ⟨⟨index', entry'⟩, member, same⟩
    rw [Prod.mk.injEq, UInt16.toNat_inj] at same
    obtain ⟨rfl, rfl⟩ := same
    exact member

theorem indexed_ascending (coherent : pool.Coherent) : pool.indexed.Pairwise (·.1 < ·.1) := by
  have ascending := pool.ledger.indexed_ascending
  rw [← coherent.map_indexed, List.pairwise_map] at ascending
  exact ascending

/-- Reading stops at the first greater index, and misses nothing by that. -/
theorem get?_eq_find? (coherent : pool.Coherent) (index : UInt16) :
    pool.get? index = (pool.indexed.find? (·.1 == index)).map (·.2) := by
  rw [get?, find?_takeWhile_le coherent.indexed_ascending]

theorem get?_eq (coherent : pool.Coherent) (index : UInt16) :
    pool.get? index = pool.ledger.get? index.toNat := by
  rw [coherent.get?_eq_find?, Ledger.get?, ← coherent.map_indexed, List.find?_map, Option.map_map]
  congr 2
  funext numbered
  exact Bool.eq_iff_iff.mpr (by simp [UInt16.toNat_inj])

theorem get?_eq_some_iff (coherent : pool.Coherent) (index : UInt16) (entry : Entry) :
    pool.get? index = some entry ↔ (index.toNat, entry) ∈ pool.ledger.indexed := by
  rw [coherent.get?_eq, Ledger.get?_eq_some_iff]

/-- A pool shows what its ledger shows. -/
theorem view_eq (coherent : pool.Coherent) : pool.view = pool.ledger.view := by
  rw [view, Ledger.view, coherent.map_indexed, coherent.next_eq, funext coherent.get?_eq]
  rfl

end Coherent

end Pool

/-! ### Requests -/

namespace Ledger

variable (ledger : Ledger) {request : Request}

theorem withText_of_known {text : String} {index : Nat} (refers : request.text? = some text)
    (known : ledger.position? (.utf8 text) = some index) : ledger.withText request = ledger := by
  simp [withText, refers, find?_utf8, known]

theorem withText_of_unknown {text : String} (refers : request.text? = some text)
    (unknown : ledger.position? (.utf8 text) = none) :
    ledger.withText request = ledger.append (.utf8 text) := by
  simp [withText, refers, find?_utf8, unknown]

theorem withText_of_plain (plain : request.text? = none) : ledger.withText request = ledger := by
  simp [withText, plain]

theorem backing_of_known {text : String} {index : UInt16} (refers : request.text? = some text)
    (known : ledger.position? (.utf8 text) = some index.toNat) :
    ledger.backing request = index := by
  simp [backing, refers, find?_utf8, known]

/-- The text takes the part of the need that the entry does not. -/
theorem next_withText :
    (ledger.withText request).next + request.kind.width = ledger.next + ledger.need request := by
  cases refers : request.text? with
  | none => rw [ledger.withText_of_plain refers, ledger.need_of_plain refers]
  | some text =>
    cases known : ledger.position? (.utf8 text) with
    | some index =>
      have there := (ledger.mem_entries_iff _).mpr ⟨_, ledger.mem_utf8_of_position? known⟩
      rw [ledger.withText_of_known refers known, ledger.need_of_mem refers there]
    | none =>
      have missing := (ledger.position?_utf8_eq_none_iff text).mp known
      rw [ledger.withText_of_unknown refers known, ledger.need_of_not_mem refers missing,
        next_append]
      change ledger.next + 1 + _ = _
      omega

theorem add_of_some {index : Nat} (there : ledger.find? request = some index) :
    ledger.add request = (ledger, .ok index) := by
  rw [add, there]

theorem add_of_full (missing : ledger.find? request = none)
    (full : 65535 < ledger.next + ledger.need request) :
    ledger.add request = (ledger, .error ⟨request.kind, ledger.next⟩) := by
  rw [add, missing]
  refine if_neg ?_
  rw [next_append, Request.width_entry, next_withText]
  exact Nat.not_le_of_lt full

theorem add_of_room (missing : ledger.find? request = none)
    (room : ledger.next + ledger.need request ≤ 65535) :
    ledger.add request =
      ((ledger.withText request).append (request.entry ((ledger.withText request).backing request)),
        .ok (ledger.withText request).next) := by
  rw [add, missing]
  refine if_pos ?_
  rw [next_append, Request.width_entry, next_withText]
  exact room

end Ledger

namespace Pool

variable {pool : Pool}

/-- What a request does to a pool and answers, it does to the ledger and answers there. -/
theorem Step.ledger_add (coherent : pool.Coherent) {request : Request} {outcome : Outcome}
    (step : pool.Step request outcome) :
    pool.ledger.add request = (outcome.pool.ledger, outcome.reply) := by
  cases step with
  | found index there => exact pool.ledger.add_of_some there
  | refused missing full =>
    rw [pool.ledger.add_of_full missing full, ← coherent.next_eq]
    rfl
  | entryAdded text missing room need known _ =>
    -- The ledger appends no text either, and refers to the one that the map knows.
    rw [pool.ledger.add_of_room missing room, ledger_insert]
    cases refers : request.text? with
    | none =>
      rw [pool.ledger.withText_of_plain refers, ← coherent.next_eq,
        Request.entry_of_plain refers _ text]
      rfl
    | some content =>
      rw [pool.ledger.withText_of_known refers (known content refers), ← coherent.next_eq,
        pool.ledger.backing_of_known refers (known content refers)]
      rfl
  | textAdded content missing room need refers unknown backed _ =>
    -- The ledger finds the text that it has just appended, at the index that the pool gave it.
    have index : (pool.ledger.append (.utf8 content)).position? (.utf8 content) =
        some pool.next.toNat := by
      simp [Ledger.position?_append, Entry.canonical, unknown, coherent.next_eq]
    rw [pool.ledger.add_of_room missing room, pool.ledger.withText_of_unknown refers unknown,
      Ledger.backing_of_known _ refers index, ← ledger_insert, ← backed.next_eq, ← ledger_insert]
    rfl

theorem Coherent.ledger_add (coherent : pool.Coherent) (request : Request) :
    pool.ledger.add request = ((pool.add request).pool.ledger, (pool.add request).reply) :=
  (coherent.step request).ledger_add coherent

theorem Coherent.answer_eq_ok_iff (coherent : pool.Coherent) (request : Request) (index : UInt16) :
    (pool.add request).answer = .ok index ↔ (pool.ledger.add request).2 = .ok index.toNat := by
  rw [coherent.ledger_add request, Outcome.reply]
  cases (pool.add request).answer with
  | ok index' => simp [UInt16.toNat_inj]
  | error overflow => simp

theorem Coherent.ledger_addAll (coherent : pool.Coherent) (requests : List Request) :
    (pool.addAll requests).ledger = pool.ledger.addAll requests := by
  induction requests generalizing pool with
  | nil => rfl
  | cons request rest ih =>
    have first : (pool.ledger.add request).1 = (pool.add request).pool.ledger := by
      rw [coherent.ledger_add request]
    rw [addAll_cons, ih (coherent.add request), ← first]
    rfl

/-- A coherent pool and its ledger answer all requests alike and show the same after each. -/
theorem Coherent.transcript_eq (coherent : pool.Coherent) (requests : List Request) :
    pool.transcript requests = pool.ledger.transcript requests := by
  induction requests generalizing pool with
  | nil => rfl
  | cons request rest ih =>
    have after := coherent.add request
    rw [transcript, Ledger.transcript, coherent.ledger_add request]
    dsimp only
    -- The view is that of the new ledger, and the rest of the run starts from there.
    rw [after.view_eq, ih after]

/-- However often and in whatever order constants are asked for, refused requests included, a pool
and a ledger that were empty at first show the same at first, answer alike, and show the same after
every request. -/
theorem transcript_eq_ledger_transcript (requests : List Request) :
    empty.view = Ledger.empty.view ∧
      empty.transcript requests = Ledger.empty.transcript requests :=
  ⟨coherent_empty.view_eq, coherent_empty.transcript_eq requests⟩

end Pool

end ClassHeader
