import ClassHeader.Proofs.Pool.Refinement

/-!
# Every pool is well formed

Whatever is asked of a pool, and however often it refuses, its entries hold what their kinds say,
class and string entries refer to texts that come before them, and the 16-bit counter is the
unbounded count of the indices in use. A reader of class files rejects a pool with one reference
that leads anywhere else.

That an entry holds what its kind says is shown wherever one is built. `EntryKind.admits_iff` says
what that comes to for each kind, and that nothing else is ruled out by it.
-/

namespace ClassHeader

/-- What entries of each kind may hold. -/
inductive EntryKind.Admits : EntryKind → Content → Prop where
  | utf8 (text : String) : Admits .utf8 (.utf8 text)
  | classInfo (text : UInt16) : Admits .classInfo (.index text)
  | string (text : UInt16) : Admits .string (.index text)
  | integer (value : Int32) : Admits .integer (.integer value)
  | float (value : Binary .single) : Admits .float (.float value)
  | long (value : Int64) : Admits .long (.long value)
  | double (value : Binary .double) : Admits .double (.double value)

/-- What an entry has to show when it is built says what its kind may hold, no less and no more. -/
theorem EntryKind.admits_iff (kind : EntryKind) (content : Content) :
    kind.admits content = true ↔ kind.Admits content := by
  constructor
  · intro admitted
    -- A kind and a content that it admits are an entry, and entries can be told apart by cases.
    have holds (entry : Entry) : entry.kind.Admits entry.content := by
      cases entry <;> constructor
    exact holds ⟨kind, content, admitted⟩
  · intro admits
    cases admits <;> rfl

/-- Only class and string entries hold an index, and it is that of their text. -/
theorem Entry.content_of_reference? {entry : Entry} {text : UInt16}
    (refers : entry.reference? = some text) : entry.content = .index text := by
  cases entry <;> cases refers <;> rfl

namespace Pool

/-- What every pool guarantees to those who use its indices. -/
structure WellFormed (pool : Pool) : Prop where
  /-- An entry holds what its kind says. -/
  kinds : ∀ entry ∈ pool.entries, entry.kind.Admits entry.content
  /-- A class or string entry refers to a text by an index below its own. That index is not zero and
  is not the second one of an entry that takes two. -/
  backed : ∀ index entry, (index, entry) ∈ pool.indexed →
    entry.kind = .classInfo ∨ entry.kind = .string →
    ∃ text content, entry.content = .index text ∧ 0 < text ∧ text < index ∧
      (text, .utf8 content) ∈ pool.indexed ∧ pool.get? text = some (.utf8 content) ∧
      ∀ start wide, (start, wide) ∈ pool.indexed → start < text →
        start.toNat + wide.width ≤ text.toNat
  /-- The counter is one more than the number of indices in use. -/
  counter : pool.next.toNat = 1 + Entry.totalWidth pool.entries.toList
  bounded : pool.next.toNat ≤ 65535
  /-- The indices are those of unbounded counting. -/
  numbered : pool.indexed.map (fun (index, entry) => (index.toNat, entry)) =
    Entry.number 1 pool.entries.toList
  /-- Counting on from the index of an entry, the last one included, stays within 16 bits. -/
  advances : ∀ index entry, (index, entry) ∈ pool.indexed →
    (index + entry.width.toUInt16).toNat = index.toNat + entry.width
  /-- The widths of an entry and of its text add up within 16 bits. -/
  widths : ∀ (kind : EntryKind) (others : Nat), others ≤ EntryKind.utf8.width →
    (kind.width.toUInt16 + others.toUInt16).toNat = kind.width + others
  /-- The check for room goes by the unbounded sum, and gives that sum if there is room. -/
  room : ∀ (kind : EntryKind) (others : Nat),
    (pool.nextAfter kind others).map UInt16.toNat =
      if pool.next.toNat + kind.width + others ≤ 65535 then
        .ok (pool.next.toNat + kind.width + others)
      else .error ⟨kind, pool.next⟩

variable {pool : Pool}

theorem toNat_nextAfter (pool : Pool) (kind : EntryKind) (others : Nat) :
    (pool.nextAfter kind others).map UInt16.toNat =
      if pool.next.toNat + kind.width + others ≤ 65535 then
        .ok (pool.next.toNat + kind.width + others)
      else .error ⟨kind, pool.next⟩ := by
  by_cases room : pool.next.toNat + kind.width + others ≤ 65535
  · rw [pool.nextAfter_of_room kind others room, if_pos room]
    exact congrArg Except.ok (Nat.mod_eq_of_lt (Nat.lt_succ_of_le room))
  · rw [pool.nextAfter_of_full kind others (Nat.lt_of_not_le room), if_neg room]
    rfl

namespace Coherent

/-- A reference in a pool leads to a text, and to nothing else that an index can be. -/
theorem backed (coherent : pool.Coherent) {index text : UInt16} {entry : Entry}
    (member : (index, entry) ∈ pool.indexed) (refers : entry.reference? = some text) :
    ∃ content, 0 < text ∧ text < index ∧ (text, .utf8 content) ∈ pool.indexed ∧
      pool.get? text = some (.utf8 content) ∧
      ∀ start wide, (start, wide) ∈ pool.indexed → start < text →
        start.toNat + wide.width ≤ text.toNat := by
  rw [coherent.mem_indexed_iff] at member
  obtain ⟨below, content, present⟩ := coherent.sound.backed index.toNat entry member text refers
  refine ⟨content, ?_, ?_, ?_, ?_, ?_⟩
  · exact UInt16.lt_iff_toNat_lt.mpr (pool.ledger.indexed_bounds present).1
  · exact UInt16.lt_iff_toNat_lt.mpr below
  · exact (coherent.mem_indexed_iff _ _).mpr present
  · exact (coherent.get?_eq_some_iff _ _).mpr present
  · intro start wide member' above
    rw [coherent.mem_indexed_iff] at member'
    exact pool.ledger.indexed_apart member' present (UInt16.lt_iff_toNat_lt.mp above)

/-- Since the counter fits in 16 bits, so does every index that is counted on the way to it. -/
theorem toNat_advance (coherent : pool.Coherent) {index : UInt16} {entry : Entry}
    (member : (index, entry) ∈ pool.indexed) :
    (index + entry.width.toUInt16).toNat = index.toNat + entry.width := by
  rw [coherent.mem_indexed_iff] at member
  have reach := (pool.ledger.indexed_bounds member).2
  have bounded := coherent.sound.bounded
  rw [UInt16.toNat_add]
  change (index.toNat + entry.width % 65536) % 65536 = _
  omega

theorem wellFormed (coherent : pool.Coherent) : pool.WellFormed where
  kinds := by
    intro entry _
    exact (EntryKind.admits_iff _ _).mp entry.admitted
  backed := by
    intro index entry member kind
    -- Entries of these two kinds are those that refer to a text.
    have refers : ∃ text, entry.reference? = some text := by
      cases entry <;> simp [Entry.reference?] at kind ⊢
    obtain ⟨text, refers⟩ := refers
    obtain ⟨content, backed⟩ := coherent.backed member refers
    exact ⟨text, content, Entry.content_of_reference? refers, backed⟩
  counter := coherent.next_eq
  bounded := by
    rw [coherent.next_eq]
    exact coherent.sound.bounded
  numbered := coherent.map_indexed
  advances := by
    intro index entry member
    exact coherent.toNat_advance member
  widths := by
    intro kind others few
    obtain rfl | rfl := Nat.le_one_iff_eq_zero_or_eq_one.mp few
    · cases kind <;> rfl
    · cases kind <;> rfl
  room := pool.toNat_nextAfter

end Coherent

/-- Every pool that requests can build, refused ones included, is well formed. -/
theorem wellFormed_reachable (history : List Request) : (empty.addAll history).WellFormed :=
  (coherent_reachable history).wellFormed

/-- A class and a string refer to one text, which is above both indices of a long integer. -/
theorem wellFormed_reachable_of_references :
    let history : List Request := [.long 7, .classInfo "A", .string "A"]
    let pool := empty.addAll history
    pool.indexed = [(1, .long 7), (3, .utf8 "A"), (4, .classInfo 3), (5, .string 3)] ∧
      pool.next.toNat = 6 ∧ EntryKind.string.Admits (.index 3) ∧
      ∃ content, (3, .utf8 content) ∈ pool.indexed ∧ pool.get? 3 = some (.utf8 content) ∧
        (1 : UInt16).toNat + (Entry.long 7).width ≤ (3 : UInt16).toNat := by
  intro history pool
  have coherent : pool.Coherent := coherent_reachable history
  have ledger : pool.ledger = ⟨[.long 7, .utf8 "A", .classInfo 3, .string 3]⟩ :=
    (coherent_empty.ledger_addAll history).trans (by decide)
  have entries : pool.entries.toList = _ := congrArg Ledger.entries ledger
  have indexed : pool.indexed =
      [(1, .long 7), (3, .utf8 "A"), (4, .classInfo 3), (5, .string 3)] := by
    rw [coherent.indexed_eq, ledger]
    decide
  have wellFormed : pool.WellFormed := wellFormed_reachable history
  have counter := wellFormed.counter
  rw [entries] at counter
  have kind : EntryKind.string.Admits (.index 3) := by
    refine wellFormed.kinds (.string 3) ?_
    rw [← Array.mem_toList_iff, entries]
    decide
  have long : (1, .long 7) ∈ pool.indexed := by
    rw [indexed]
    decide
  have reference : (5, .string 3) ∈ pool.indexed := by
    rw [indexed]
    decide
  obtain ⟨text, content, holds, _, _, member, there, apart⟩ :=
    wellFormed.backed 5 (.string 3) reference (.inr rfl)
  -- The index that the entry holds is the only one that it can refer to.
  cases holds
  exact ⟨indexed, counter, kind, content, member, there, apart 1 (.long 7) long (by decide)⟩

end Pool

end ClassHeader
