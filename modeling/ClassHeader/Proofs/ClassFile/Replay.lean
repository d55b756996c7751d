import ClassHeader.Proofs.ClassFile.RoundTrip
import ClassHeader.Proofs.Pool.Replay

/-!
# Pools rebuilt from their entries and from their bytes

A pool holds nothing that its entries do not tell: asking for them again in their order makes the
same pool, with the same maps and the same counter. What is read from its bytes makes a pool that
differs in the bits of NaNs only, and these are not written, so that it has the same bytes again.
-/

namespace ClassHeader

/-- The text at an index, among entries with their indices. -/
def textIn? (numbered : List (Nat × Entry)) (index : UInt16) : Option String :=
  ((numbered.find? (·.1 == index.toNat)).map (·.2)).bind Entry.text?

theorem Ledger.textIn?_indexed (ledger : Ledger) : textIn? ledger.indexed = ledger.textAt? := rfl

namespace Entry

@[simp] theorem width_canonical (entry : Entry) : entry.canonical.width = entry.width := by
  rw [width, kind_canonical, width]

@[simp] theorem reference?_canonical (entry : Entry) :
    entry.canonical.reference? = entry.reference? := by
  cases entry <;> rfl

/-- What is read where an entry was written is its canonical form. -/
theorem readBack_eq_canonical (entry : Entry) : entry.readBack = entry.canonical := by
  cases entry <;> rfl

/-- An entry and its canonical form are written alike. -/
theorem emission_canonical (entry : Entry) : entry.canonical.emission = entry.emission := by
  cases entry <;> simp [canonical, emission, Content.payload]

theorem emissions_map_canonical (entries : List Entry) :
    emissions (entries.map canonical) = emissions entries := by
  induction entries with
  | nil => rfl
  | cons entry rest ih => rw [List.map_cons, emissions, emission_canonical, ih, emissions]

theorem totalWidth_map_canonical (entries : List Entry) :
    totalWidth (entries.map canonical) = totalWidth entries := by
  induction entries with
  | nil => rfl
  | cons entry rest ih => simp [ih]

theorem number_map_canonical (start : Nat) (entries : List Entry) :
    number start (entries.map canonical) =
      (number start entries).map fun (index, entry) => (index, entry.canonical) := by
  induction entries generalizing start with
  | nil => rfl
  | cons entry rest ih => simp [number, ih]

end Entry

namespace Ledger

/-- The ledger of the canonical forms. -/
def canonical (ledger : Ledger) : Ledger :=
  ⟨ledger.entries.map Entry.canonical⟩

theorem next_canonical (ledger : Ledger) : ledger.canonical.next = ledger.next := by
  rw [next, canonical, Entry.totalWidth_map_canonical, next]

theorem indexed_canonical (ledger : Ledger) :
    ledger.canonical.indexed = ledger.indexed.map fun (index, entry) => (index, entry.canonical) :=
  Entry.number_map_canonical 1 ledger.entries

/-- Soundness is a matter of canonical forms. -/
theorem Sound.canonical {ledger : Ledger} (sound : ledger.Sound) : ledger.canonical.Sound where
  distinct := by
    have distinct := sound.distinct
    simpa [Ledger.canonical, Function.comp_def] using distinct
  backed := by
    intro index entry member text refers
    rw [indexed_canonical, List.mem_map] at member
    obtain ⟨⟨place, original⟩, member, same⟩ := member
    rw [Prod.mk.injEq] at same
    obtain ⟨rfl, rfl⟩ := same
    -- A form refers to what its entry refers to, and a text is its own form.
    rw [Entry.reference?_canonical] at refers
    obtain ⟨below, content, present⟩ := sound.backed place original member text refers
    refine ⟨below, content, ?_⟩
    rw [indexed_canonical]
    exact List.mem_map.mpr ⟨_, present, rfl⟩
  bounded := by
    rw [next_canonical]
    exact sound.bounded

end Ledger

namespace Pool

variable {pool other : Pool}

namespace Coherent

/-- What is read from the bytes of a pool is the ledger of the canonical forms. -/
theorem readPool?_eq (coherent : pool.Coherent) {bytes : Array UInt8}
    (written : pool.toBytes = .ok bytes) :
    readPool? bytes.toList = some pool.ledger.canonical.indexed := by
  obtain ⟨content, count, read⟩ := coherent.read_bytes ((pool.toBytes_eq_ok_iff bytes).mp written)
  simp only [Entry.readBack_eq_canonical, ← Ledger.indexed_canonical] at read
  exact readPool?_of_entries count read

/-- A pool with the canonical forms of the entries of another pool is written as that one is. -/
theorem emission_of_canonical (coherent : pool.Coherent) (coherent' : other.Coherent)
    (same : other.ledger = pool.ledger.canonical) : other.emission = pool.emission := by
  rw [coherent'.emission_eq, same, Ledger.next_canonical, Ledger.canonical,
    Entry.emissions_map_canonical, ← coherent.emission_eq]

end Coherent

/-- The entries of a sound ledger can be asked for in an empty pool, which gives them their indices
in the ledger and has no others then. -/
theorem exists_replay_of_sound {ledger : Ledger} (sound : ledger.Sound) :
    ∃ requests, ledger.entries.map (Entry.request? ledger.textAt?) = requests.map some ∧
      empty.answers requests = ledger.indexed.map (fun (index, _) => .ok index.toUInt16) ∧
      empty.addAll requests = empty.insertAll ledger.entries :=
  coherent_empty.exists_replay rfl sound

/-- The entries of any pool that requests have built, refused ones included, can be asked for in
their order in an empty pool, class and string constants by the texts at the indices that they refer
to. No request is refused, each is answered by the index that its entry had, and the pool that comes
out is the one that went in: its entries, its counter and all its maps. If the pool can be written,
then what is read from its bytes can be asked for in the same way, again without a refusal and with
the indices as they are read, and the pool that comes out has the same bytes. -/
theorem replay_rebuilds (history : List Request) :
    let pool := empty.addAll history
    (∃ requests,
      pool.entries.toList.map (Entry.request? pool.textAt?) = requests.map some ∧
      empty.answers requests = pool.indexed.map (fun (index, _) => .ok index) ∧
      empty.addAll requests = pool) ∧
    ∀ bytes, pool.toBytes = .ok bytes →
      ∃ read requests, readPool? bytes.toList = some read ∧
        read.map (fun (_, entry) => entry.request? (textIn? read)) = requests.map some ∧
        (empty.answers requests).map (·.map UInt16.toNat) = read.map (fun (index, _) => .ok index) ∧
        (empty.addAll requests).toBytes = .ok bytes := by
  intro pool
  have coherent : pool.Coherent := coherent_reachable history
  constructor
  · obtain ⟨requests, asked, answers, rebuilt⟩ := exists_replay_of_sound coherent.sound
    refine ⟨requests, ?_, ?_, ?_⟩
    · rw [coherent.textAt?_eq]
      exact asked
    · rw [answers, coherent.indexed_eq, List.map_map]
      rfl
    · rw [rebuilt]
      exact (eq_insertAll history).symm
  · intro bytes written
    obtain ⟨requests, asked, answers, rebuilt⟩ := exists_replay_of_sound coherent.sound.canonical
    have coherent' : (empty.addAll requests).Coherent := coherent_reachable requests
    have same : (empty.addAll requests).ledger = pool.ledger.canonical := by
      rw [rebuilt]
      exact congrArg Ledger.mk (entries_insertAll _ _)
    refine ⟨_, requests, coherent.readPool?_eq written, ?_, ?_, ?_⟩
    · rw [Ledger.textIn?_indexed, ← asked, ← Ledger.map_snd_indexed, List.map_map]
      rfl
    · rw [answers, List.map_map]
      apply List.map_congr_left
      rintro ⟨index, entry⟩ member
      -- An index in a sound ledger fits in 16 bits.
      have below := Ledger.index_lt_next _ member
      have bounded := coherent.sound.canonical.bounded
      exact congrArg Except.ok (Nat.mod_eq_of_lt (by omega))
    · rw [toBytes_eq_ok_iff] at written ⊢
      rw [coherent.emission_of_canonical coherent' same, written]

/-- A class is asked for by its name, which is in the pool before it, and a NaN comes back from the
bytes without its payload. -/
theorem replay_rebuilds_of_class_and_nan :
    let history : List Request := [.long (-2), .classInfo "A", .float ⟨0x7fc00001⟩]
    let pool := empty.addAll history
    let requests : List Request := [.long (-2), .utf8 "A", .classInfo "A", .float ⟨0x7fc00001⟩]
    let bytes : Array UInt8 := #[0, 6, 5, 0xff, 0xff, 0xff, 0xff, 0xff, 0xff, 0xff, 0xfe,
      1, 0, 1, 0x41, 7, 0, 3, 4, 0x7f, 0xc0, 0, 0]
    pool.entries.toList = [.long (-2), .utf8 "A", .classInfo 3, .float ⟨0x7fc00001⟩] ∧
      empty.answers requests = [.ok 1, .ok 3, .ok 4, .ok 5] ∧ empty.addAll requests = pool ∧
      pool.toBytes = .ok bytes ∧
      (empty.addAll [.long (-2), .utf8 "A", .classInfo "A", .float ⟨0x7fc00000⟩]).toBytes =
        .ok bytes := by
  intro history pool requests bytes
  have coherent : pool.Coherent := coherent_reachable history
  have ledger : pool.ledger = ⟨[.long (-2), .utf8 "A", .classInfo 3, .float ⟨0x7fc00001⟩]⟩ :=
    (coherent_empty.ledger_addAll history).trans (by decide)
  have entries : pool.entries.toList = _ := congrArg Ledger.entries ledger
  have indexed : pool.indexed =
      [(1, .long (-2)), (3, .utf8 "A"), (4, .classInfo 3), (5, .float ⟨0x7fc00001⟩)] := by
    rw [coherent.indexed_eq, ledger]
    decide
  have written : pool.toBytes = .ok bytes := by
    rw [toBytes_eq_ok_iff, coherent.emission_eq, ledger]
    decide
  obtain ⟨⟨asked, own, answers, rebuilt⟩, fromBytes⟩ := replay_rebuilds history
  obtain ⟨read, again, isRead, ofRead, _, sameBytes⟩ := fromBytes bytes written
  -- The requests are not chosen here: entries tell them, those that are read as well.
  have determined := List.map_injective_iff.mpr (Option.some_injective Request)
  obtain rfl : requests = asked := by
    apply determined
    rw [← own, entries, coherent.textAt?_eq, ledger]
    decide
  rw [indexed] at answers
  rw [coherent.readPool?_eq written, ledger, Option.some.injEq] at isRead
  obtain rfl : [.long (-2), .utf8 "A", .classInfo "A", .float ⟨0x7fc00000⟩] = again := by
    apply determined
    rw [← ofRead, ← isRead]
    decide
  exact ⟨entries, answers, rebuilt, written, sameBytes⟩

end Pool

end ClassHeader
