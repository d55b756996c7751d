import ClassHeader.Proofs.ClassFile.Replay
import ClassHeader.Proofs.Number.Equality
import ClassHeader.Tree.Equality

/-!
# No constant is in a pool twice

Three notions of sameness meet in a pool: a constant is looked up by its canonical form, an entry is
written as bytes, and two entries are compared as values. The bytes of an entry tell its canonical
form, so that entries at two indices have different bytes. Comparing them as values goes wrong for
floating-point numbers only: it takes the two zeros for one and tells a NaN apart from itself.
-/

namespace ClassHeader

namespace Entry

/-! ### Bytes -/

/-- What is read after the tag of the bytes of an entry is the canonical form of the entry. -/
theorem exists_content_of_toBytes {entry : Entry} {bytes : Array UInt8}
    (written : entry.toBytes = .ok bytes) :
    ∃ content, bytes.toList = entry.kind.tag :: content ∧
      readContent? entry.kind.tag content = some (entry.canonical, []) := by
  rw [toBytes_eq_ok_iff, emission, Emission.append_eq_ofBytes_iff] at written
  obtain ⟨tag, content, tagged, filled, whole⟩ := written
  obtain rfl := Emission.ofBytes_inj.mp tagged
  refine ⟨content, whole.symm, ?_⟩
  have read := readContent?_payload filled []
  rw [List.append_nil, readBack_eq_canonical] at read
  exact read

/-- The bytes of an entry tell its canonical form. -/
theorem canonical_eq_of_toBytes {left right : Entry} {bytes : Array UInt8}
    (written : left.toBytes = .ok bytes) (written' : right.toBytes = .ok bytes) :
    left.canonical = right.canonical := by
  obtain ⟨content, whole, read⟩ := exists_content_of_toBytes written
  obtain ⟨content', whole', read'⟩ := exists_content_of_toBytes written'
  rw [whole, List.cons.injEq] at whole'
  obtain ⟨tag, rfl⟩ := whole'
  rw [tag, read', Option.some.injEq, Prod.mk.injEq] at read
  exact read.1.symm

/-! ### Values -/

def isNaN : Entry → Bool
  | .float value => value.isNaN
  | .double value => value.isNaN
  | _ => false

/-- Whether two entries are the two zeros of one kind. -/
inductive OppositeZeros : Entry → Entry → Prop where
  | float (negative : Bool) : OppositeZeros (.float (.zero negative)) (.float (.zero !negative))
  | double (negative : Bool) : OppositeZeros (.double (.zero negative)) (.double (.zero !negative))

theorem equals_self (entry : Entry) : entry.equals entry = !entry.isNaN := by
  cases entry <;> simp [equals, Content.equals, isNaN, Binary.numericallyEqual_self]

/-- Distinct entries that compare equal are the two zeros of one kind. -/
theorem equals_iff_of_ne {left right : Entry} (apart : left ≠ right) :
    left.equals right = true ↔ left.OppositeZeros right := by
  constructor
  · intro equal
    cases left <;> cases right
    case float.float left right =>
      have apart : left ≠ right := fun same => apart (congrArg Entry.float same)
      obtain ⟨negative, rfl, rfl⟩ := (Binary.numericallyEqual_iff_of_ne apart).mp equal
      exact .float negative
    case double.double left right =>
      have apart : left ≠ right := fun same => apart (congrArg Entry.double same)
      obtain ⟨negative, rfl, rfl⟩ := (Binary.numericallyEqual_iff_of_ne apart).mp equal
      exact .double negative
    -- Other entries are compared by what they hold, which is not the same here.
    all_goals simp_all [equals, Content.equals]
  · rintro (⟨negative⟩ | ⟨negative⟩)
    · exact Binary.numericallyEqual_of_isZero (Binary.isZero_zero _) (Binary.isZero_zero _)
    · exact Binary.numericallyEqual_of_isZero (Binary.isZero_zero _) (Binary.isZero_zero _)

end Entry

namespace Pool

/-- A canonical form has one index. -/
theorem Coherent.index_eq_of_canonical_eq {pool : Pool} (coherent : pool.Coherent)
    {index index' : UInt16} {entry entry' : Entry} (there : pool.get? index = some entry)
    (there' : pool.get? index' = some entry') (same : entry.canonical = entry'.canonical) :
    index = index' := by
  rw [coherent.get?_eq_some_iff] at there there'
  have first := coherent.sound.position?_of_mem there
  rw [same, coherent.sound.position?_of_mem there'] at first
  exact (UInt16.toNat_inj.mp (Option.some.inj first)).symm

/-- In every pool that requests can build, refused ones included, the entries at two indices have
different bytes, if they can be written, and compare equal exactly if they are the two zeros of one
kind. The entry at an index compares equal to itself unless it is a NaN. -/
theorem constants_distinct (history : List Request) :
    let pool := empty.addAll history
    (∀ index index' entry entry', pool.get? index = some entry → pool.get? index' = some entry' →
      index ≠ index' →
      (∀ bytes bytes', entry.toBytes = .ok bytes → entry'.toBytes = .ok bytes' → bytes ≠ bytes') ∧
      (optionEquals Entry.equals (pool.get? index) (pool.get? index') = true ↔
        entry.OppositeZeros entry')) ∧
    ∀ index entry, pool.get? index = some entry →
      (optionEquals Entry.equals (pool.get? index) (pool.get? index) = false ↔
        entry.isNaN = true) := by
  intro pool
  have coherent : pool.Coherent := coherent_reachable history
  constructor
  · intro index index' entry entry' there there' apart
    -- Bytes and values differ because the canonical forms do.
    have forms : entry.canonical ≠ entry'.canonical := fun same =>
      apart (coherent.index_eq_of_canonical_eq there there' same)
    constructor
    · rintro bytes _ written written' rfl
      exact forms (Entry.canonical_eq_of_toBytes written written')
    · rw [there, there']
      exact Entry.equals_iff_of_ne fun same => forms (congrArg Entry.canonical same)
  · intro index entry there
    rw [there]
    change entry.equals entry = false ↔ _
    rw [entry.equals_self, Bool.not_eq_false']

/-- The two zeros are equal and have different bytes. -/
theorem constants_distinct_of_zeros_and_nan :
    let history : List Request := [.float ⟨0⟩, .long 7, .float ⟨0x80000000⟩, .float ⟨0xffffffff⟩]
    let pool := empty.addAll history
    pool.get? 1 = some (.float ⟨0⟩) ∧ pool.get? 4 = some (.float ⟨0x80000000⟩) ∧
      pool.get? 5 = some (.float ⟨0xffffffff⟩) ∧
      (Entry.float ⟨0⟩).toBytes = .ok #[4, 0, 0, 0, 0] ∧
      (Entry.float ⟨0x80000000⟩).toBytes = .ok #[4, 0x80, 0, 0, 0] ∧
      (#[4, 0, 0, 0, 0] : Array UInt8) ≠ #[4, 0x80, 0, 0, 0] ∧
      optionEquals Entry.equals (pool.get? 1) (pool.get? 4) = true ∧
      optionEquals Entry.equals (pool.get? 5) (pool.get? 5) = false := by
  intro history pool
  have coherent : pool.Coherent := coherent_reachable history
  have ledger : pool.ledger =
      ⟨[.float ⟨0⟩, .long 7, .float ⟨0x80000000⟩, .float ⟨0xffffffff⟩]⟩ :=
    (coherent_empty.ledger_addAll history).trans (by decide)
  have first : pool.get? 1 = some (.float ⟨0⟩) := by
    rw [coherent.get?_eq, ledger]
    decide
  have second : pool.get? 4 = some (.float ⟨0x80000000⟩) := by
    rw [coherent.get?_eq, ledger]
    decide
  have third : pool.get? 5 = some (.float ⟨0xffffffff⟩) := by
    rw [coherent.get?_eq, ledger]
    decide
  have written : (Entry.float ⟨0⟩).toBytes = .ok #[4, 0, 0, 0, 0] := by
    rw [Entry.toBytes_eq_ok_iff]
    decide
  have written' : (Entry.float ⟨0x80000000⟩).toBytes = .ok #[4, 0x80, 0, 0, 0] := by
    rw [Entry.toBytes_eq_ok_iff]
    decide
  obtain ⟨pairs, selves⟩ := constants_distinct history
  obtain ⟨bytes, values⟩ := pairs 1 4 _ _ first second (by decide)
  exact ⟨first, second, third, written, written', bytes _ _ written written',
    values.mpr (.float false), (selves 5 _ third).mpr (by decide)⟩

end Pool

end ClassHeader
