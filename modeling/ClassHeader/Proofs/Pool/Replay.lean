import ClassHeader.Proofs.Pool.Order
import ClassHeader.Proofs.Pool.Permanence

/-!
# Entries asked for again

The entries of a pool can be asked for again, one by one, each reference by the text that it leads
to. `Coherent.exists_replay` says what comes of that in a pool that has the first of them already:
every one of the others is added, at the index that it had, and nothing else is. It needs only that
the entries are sound, and not that a pool has ever held them.
-/

namespace ClassHeader

namespace Entry

variable {textAt? : UInt16 → Option String}

/-- The request that adds an entry, if the index that the entry refers to holds a text. -/
def request? (textAt? : UInt16 → Option String) : Entry → Option Request
  | .utf8 text => some (.utf8 text)
  | .classInfo index => (textAt? index).map .classInfo
  | .string index => (textAt? index).map .string
  | .integer value => some (.integer value)
  | .long value => some (.long value)
  | .float value => some (.float value)
  | .double value => some (.double value)

/-- An entry stands for the constant that is asked for with it. -/
theorem resolve?_eq_map_request? (entry : Entry) :
    entry.resolve? textAt? = (entry.request? textAt?).map Request.canonical := by
  cases entry with
  | classInfo index =>
    rw [resolve?, request?, Option.map_map]
    rfl
  | string index =>
    rw [resolve?, request?, Option.map_map]
    rfl
  | _ => rfl

/-- What is asked for with an entry is that entry. -/
theorem eq_entry_of_request? {entry : Entry} {request : Request}
    (asked : entry.request? textAt? = some request) :
    ∃ index, entry = request.entry index ∧
      ∀ text, request.text? = some text → textAt? index = some text := by
  cases entry with
  | classInfo index =>
    obtain ⟨text, leads, rfl⟩ := Option.map_eq_some_iff.mp asked
    refine ⟨index, rfl, ?_⟩
    rintro _ ⟨⟩
    exact leads
  | string index =>
    obtain ⟨text, leads, rfl⟩ := Option.map_eq_some_iff.mp asked
    refine ⟨index, rfl, ?_⟩
    rintro _ ⟨⟩
    exact leads
  | _ =>
    cases asked
    exact ⟨0, rfl, nofun⟩

end Entry

theorem Ledger.Sound.exists_request {ledger : Ledger} (sound : ledger.Sound) {index : Nat}
    {entry : Entry} (member : (index, entry) ∈ ledger.indexed) :
    ∃ request, entry.request? ledger.textAt? = some request := by
  obtain ⟨constant, stands⟩ := sound.exists_resolve? member
  rw [Entry.resolve?_eq_map_request?, Option.map_eq_some_iff] at stands
  obtain ⟨request, asked, _⟩ := stands
  exact ⟨request, asked⟩

namespace Pool

variable {pool : Pool}

/-- If a pool has the entries of a sound ledger up to some entry, then that entry is added when it
is asked for. -/
theorem Coherent.add_next (coherent : pool.Coherent) {whole : Ledger} {entry : Entry}
    {rest : List Entry} (split : pool.ledger.entries ++ entry :: rest = whole.entries)
    (sound : whole.Sound) :
    ∃ request, entry.request? whole.textAt? = some request ∧
      pool.add request = ⟨pool.insert entry, .ok pool.next, [.added pool.next entry]⟩ := by
  have member : (pool.ledger.next, entry) ∈ whole.indexed := by
    rw [Ledger.indexed, ← split, Entry.number_append]
    exact List.mem_append_right _ List.mem_cons_self
  obtain ⟨request, asked⟩ := sound.exists_request member
  obtain ⟨text, rfl, known⟩ := Entry.eq_entry_of_request? asked
  have new : pool.lookup? (request.entry text).canonical = none := by
    rw [coherent.lookup?_eq_none_iff, Ledger.position?_eq_none_iff]
    intro old present same
    -- A sound ledger has no canonical form twice.
    have distinct := sound.distinct
    rw [← split, List.map_append, List.nodup_append] at distinct
    exact distinct.2.2 _ (List.mem_map_of_mem present) _ List.mem_cons_self same
  have room : pool.next.toNat + (request.entry text).width ≤ 65535 := by
    rw [coherent.next_eq]
    exact Nat.le_trans (whole.indexed_bounds member).2 sound.bounded
  refine ⟨request, asked, ?_⟩
  rw [← pool.addEntry_of_room new room]
  cases refers : request.text? with
  | none => exact pool.add_of_plain refers text
  | some content =>
    -- What the entry refers to comes before it, and so is in the pool.
    have reference : (request.entry text).reference? = some text := by
      rw [Request.reference?_entry, refers, Option.map_some]
    have below := (sound.backed _ _ member text reference).1
    have there := known content refers
    rw [Ledger.textAt?_of_prefix ⟨_, split⟩ below, Ledger.textAt?_eq_some_iff] at there
    apply pool.add_of_known_text refers
    rw [coherent.lookup?_eq_some_iff]
    exact coherent.sound.position?_of_mem there

/-- If a pool has the first entries of a sound ledger, then the others can be asked for in their
order. Each of them is added at its index in the ledger, and nothing else is. -/
theorem Coherent.exists_replay (coherent : pool.Coherent) {whole : Ledger} {rest : List Entry}
    (split : pool.ledger.entries ++ rest = whole.entries) (sound : whole.Sound) :
    ∃ requests, rest.map (Entry.request? whole.textAt?) = requests.map some ∧
      pool.answers requests =
        (Entry.number pool.ledger.next rest).map (fun (index, _) => .ok index.toUInt16) ∧
      pool.addAll requests = pool.insertAll rest := by
  -- One entry is moved from the others to the pool at a time, and the whole stays the same.
  induction rest generalizing pool with
  | nil => exact ⟨[], rfl, rfl, rfl⟩
  | cons entry rest ih =>
    obtain ⟨request, asked, added⟩ := coherent.add_next split sound
    have after : (pool.insert entry).Coherent := by
      have after := coherent.add request
      rw [added] at after
      exact after
    have split' : (pool.insert entry).ledger.entries ++ rest = whole.entries := by
      rw [ledger_insert, Ledger.entries_append, List.append_assoc, ← split]
      rfl
    obtain ⟨requests, others, answers, inserted⟩ := ih after split'
    refine ⟨request :: requests, ?_, ?_, ?_⟩
    · rw [List.map_cons, List.map_cons, asked, others]
    · have index : pool.ledger.next.toUInt16 = pool.next := by
        rw [← coherent.next_eq]
        exact UInt16.ofNat_toNat
      rw [answers_cons, added, answers, ledger_insert, Ledger.next_append, Entry.number,
        List.map_cons]
      dsimp only
      rw [index]
    · rw [addAll_cons, added, inserted, insertAll_cons]

/-- A pool is its entries: inserting them into an empty pool makes the same maps and counter. -/
theorem eq_insertAll (history : List Request) :
    empty.addAll history = empty.insertAll (empty.addAll history).ledger.entries := by
  obtain ⟨added, whole⟩ := coherent_empty.exists_insertAll history
  have entries : (empty.addAll history).ledger.entries = added := by
    rw [whole, entries_insertAll]
    rfl
  rw [entries, whole]

end Pool

end ClassHeader
