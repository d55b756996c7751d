import ClassHeader.ClassFile.Reader
import ClassHeader.Proofs.ClassFile.Emission
import ClassHeader.Proofs.Pool.Refinement
import ClassHeader.Proofs.Text.ModifiedUtf8

/-!
# Pools survive being written and read

The reader knows the format and not the writer. It comes by the indices of the entries on its own,
from the tags that it meets, and finds them to be those that the pool gave out; the number at the
front is where its own counting ends.
-/

namespace ClassHeader

namespace Entry

/-- The entry that is read where an entry was written. The bits of a NaN are lost. -/
def readBack : Entry → Entry
  | .float value => .float (if value.isNaN then ⟨0x7fc00000⟩ else value)
  | .double value => .double (if value.isNaN then ⟨0x7ff8000000000000⟩ else value)
  | entry => entry

theorem read?_encode_of_lt {width value : Nat} (fits : value < Nat.pow 0x100 width)
    (rest : List UInt8) :
    BigEndian.read? width (BigEndian.encode width value ++ rest) = some (value, rest) := by
  rw [BigEndian.read?_encode, Nat.mod_eq_of_lt fits]

/-- What is written in a fixed width is read as the entry that is made of its number. -/
theorem readContent?_number {tag : UInt8} {width number : Nat} {entry : Entry} (make : Nat → Entry)
    (reads : ∀ bytes, readContent? tag bytes =
      (BigEndian.read? width bytes).map fun (number, rest) => (make number, rest))
    (fits : number < Nat.pow 0x100 width) (made : make number = entry) (rest : List UInt8) :
    readContent? tag (BigEndian.encode width number ++ rest) = some (entry, rest) := by
  rw [reads, read?_encode_of_lt fits, Option.map_some, ← made]

/-- What follows a tag is read as the entry that it was written for. -/
theorem readContent?_payload {entry : Entry} {bytes : List UInt8}
    (written : entry.content.payload = .ofBytes bytes) (rest : List UInt8) :
    readContent? entry.kind.tag (bytes ++ rest) = some (entry.readBack, rest) := by
  cases entry with
  | utf8 text =>
    rw [Content.payload] at written
    split at written
    · next short =>
      obtain rfl := Emission.ofBytes_inj.mp written
      have enough : (ModifiedUtf8.encode text).length ≤
          (ModifiedUtf8.encode text ++ rest).length := by
        simp
      rw [EntryKind.tag, readContent?, List.append_assoc, read?_encode_of_lt short,
        Option.bind_some]
      dsimp only
      rw [if_pos enough, List.take_left, List.drop_left, ModifiedUtf8.decode?_encode]
      rfl
    · cases written
  -- All others have a fixed width, and what they hold is made again from its number.
  | classInfo text =>
    obtain rfl := Emission.ofBytes_inj.mp written
    exact readContent?_number (.classInfo ·.toUInt16) (fun _ => rfl) text.toNat_lt
      (congrArg classInfo UInt16.ofNat_toNat) rest
  | string text =>
    obtain rfl := Emission.ofBytes_inj.mp written
    exact readContent?_number (.string ·.toUInt16) (fun _ => rfl) text.toNat_lt
      (congrArg string UInt16.ofNat_toNat) rest
  | integer value =>
    obtain rfl := Emission.ofBytes_inj.mp written
    have same : Int32.ofNat value.toBitVec.toNat = value :=
      Int32.toBitVec_inj.mp (BitVec.ofNat_toNat _ _)
    exact readContent?_number (.integer <| Int32.ofNat ·) (fun _ => rfl) value.toBitVec.isLt
      (congrArg integer same) rest
  | long value =>
    obtain rfl := Emission.ofBytes_inj.mp written
    have same : Int64.ofNat value.toBitVec.toNat = value :=
      Int64.toBitVec_inj.mp (BitVec.ofNat_toNat _ _)
    exact readContent?_number (.long <| Int64.ofNat ·) (fun _ => rfl) value.toBitVec.isLt
      (congrArg long same) rest
  | float value =>
    obtain rfl := Emission.ofBytes_inj.mp written
    have same : BitVec.ofNat _ value.canonical.bits.toNat = value.canonical.bits :=
      BitVec.ofNat_toNat _ _
    exact readContent?_number (.float ⟨BitVec.ofNat _ ·⟩) (fun _ => rfl) value.canonical.bits.isLt
      (congrArg (float ⟨·⟩) same) rest
  | double value =>
    obtain rfl := Emission.ofBytes_inj.mp written
    have same : BitVec.ofNat _ value.canonical.bits.toNat = value.canonical.bits :=
      BitVec.ofNat_toNat _ _
    exact readContent?_number (.double ⟨BitVec.ofNat _ ·⟩) (fun _ => rfl) value.canonical.bits.isLt
      (congrArg (double ⟨·⟩) same) rest

/-- The reader moves on by as many indices as the entry takes. -/
theorem step_eq_width (entry : Entry) :
    (if entry.kind.tag = 5 ∨ entry.kind.tag = 6 then 2 else 1) = entry.width := by
  cases entry <;> rfl

end Entry

open Entry

/-- Entries are read back with the indices that they have when the first has index `index`. -/
theorem readEntries?_emissions {entries : List Entry} {bytes : List UInt8}
    (written : emissions entries = .ofBytes bytes) (index : Nat) (rest : List UInt8) :
    readEntries? (index + totalWidth entries) index (bytes ++ rest) =
      some ⟨(number index entries).map fun (index, entry) => (index, entry.readBack),
        index + totalWidth entries, rest⟩ := by
  -- The count stays and the index runs towards it, by the width of each entry.
  induction entries generalizing bytes index with
  | nil =>
    obtain rfl := Emission.ofBytes_inj.mp written
    rw [readEntries?.eq_def]
    exact if_neg (Nat.lt_irrefl index)
  | cons entry later ih =>
    rw [emissions, Emission.append_eq_ofBytes_iff] at written
    obtain ⟨front, back, first, others, rfl⟩ := written
    rw [emission, Emission.append_eq_ofBytes_iff] at first
    -- The bytes are the tag, its payload, and the other entries.
    obtain ⟨tag, content, tagged, filled, rfl⟩ := first
    obtain rfl := Emission.ofBytes_inj.mp tagged
    have more : index < index + totalWidth (entry :: later) := by
      have positive := entry.kind.width_pos
      rw [totalWidth_cons, width]
      omega
    have advanced : index + totalWidth (entry :: later) =
        index + entry.width + totalWidth later := by
      rw [totalWidth_cons, Nat.add_assoc]
    rw [readEntries?.eq_def, if_pos more, List.singleton_append, List.cons_append, List.cons_append]
    dsimp only
    rw [List.append_assoc, readContent?_payload filled, Option.bind_some]
    dsimp only
    rw [step_eq_width, advanced, ih others]
    rfl

/-- The bytes of a pool are read if the entries end where the count says and the bytes do. -/
theorem readPool?_of_entries {bytes content : List UInt8} {count : Nat}
    {constants : List (Nat × Entry)} (front : BigEndian.read? 2 bytes = some (count, content))
    (read : readEntries? count 1 content = some ⟨constants, count, []⟩) :
    readPool? bytes = some constants := by
  rw [readPool?, front, Option.bind_some]
  dsimp only
  rw [read, Option.bind_some]
  exact if_pos ⟨rfl, rfl⟩

namespace Pool

variable {pool : Pool}

theorem Coherent.emission_eq (coherent : pool.Coherent) :
    pool.emission = (Emission.ofBytes (BigEndian.encode 2 pool.ledger.next)).append
      (emissions pool.ledger.entries) := by
  rw [emission, coherent.next_eq]
  rfl

theorem Coherent.map_readBack (coherent : pool.Coherent) :
    pool.indexed.map (fun (index, entry) => (index.toNat, entry.readBack)) =
      pool.ledger.indexed.map fun (index, entry) => (index, entry.readBack) := by
  rw [← coherent.map_indexed, List.map_map]
  rfl

/-- The bytes of a pool are the count, and what the entries with indices from 1 on to that count are
read from. -/
theorem Coherent.read_bytes (coherent : pool.Coherent) {bytes : List UInt8}
    (written : pool.emission = .ofBytes bytes) :
    ∃ content, BigEndian.read? 2 bytes = some (pool.ledger.next, content) ∧
      readEntries? pool.ledger.next 1 content =
        some ⟨pool.ledger.indexed.map fun (index, entry) => (index, entry.readBack),
          pool.ledger.next, []⟩ := by
  rw [coherent.emission_eq, Emission.append_eq_ofBytes_iff] at written
  obtain ⟨front, content, count, filled, rfl⟩ := written
  obtain rfl := Emission.ofBytes_inj.mp count
  -- The count is written in two bytes, which hold every counter that a pool can reach.
  have fits : pool.ledger.next < 0x10000 := Nat.lt_succ_of_le coherent.sound.bounded
  refine ⟨content, read?_encode_of_lt fits content, ?_⟩
  have read := readEntries?_emissions filled 1 []
  rw [List.append_nil] at read
  exact read

/-- If a pool that requests have built, refused ones included, can be written, then its bytes are
read without fail and none of them is left over. The reader ends up at the count and finds the
entries of the pool at the indices that the pool gave them, with no change but that of every NaN to
the one of the class file format. -/
theorem read_toBytes (history : List Request) (bytes : Array UInt8)
    (written : (empty.addAll history).toBytes = .ok bytes) :
    let pool := empty.addAll history
    let constants := pool.indexed.map fun (index, entry) => (index.toNat, entry.readBack)
    ∃ content,
      BigEndian.read? 2 bytes.toList = some (pool.next.toNat, content) ∧
      readEntries? pool.next.toNat 1 content = some ⟨constants, pool.next.toNat, []⟩ ∧
      readPool? bytes.toList = some constants := by
  intro pool constants
  have coherent : pool.Coherent := coherent_reachable history
  have same : constants = pool.ledger.indexed.map fun (index, entry) => (index, entry.readBack) :=
    coherent.map_readBack
  obtain ⟨content, count, read⟩ := coherent.read_bytes ((pool.toBytes_eq_ok_iff bytes).mp written)
  rw [← coherent.next_eq] at count read
  rw [← same] at read
  refine ⟨content, count, read, ?_⟩
  -- The reader has ended up at the count, with nothing left over.
  rw [readPool?, count, Option.bind_some]
  dsimp only
  rw [read, Option.bind_some]
  exact if_pos ⟨rfl, rfl⟩

/-- A long integer, a class and a NaN with a payload: the indices are not the positions, the text of
the class comes before it, and the payload is lost. -/
theorem read_toBytes_of_wide_and_nan :
    let history : List Request := [.long (-2), .classInfo "A", .float ⟨0x7fc00001⟩]
    let bytes : Array UInt8 := #[0, 6, 5, 0xff, 0xff, 0xff, 0xff, 0xff, 0xff, 0xff, 0xfe,
      1, 0, 1, 0x41, 7, 0, 3, 4, 0x7f, 0xc0, 0, 0]
    (empty.addAll history).toBytes = .ok bytes ∧
      readPool? bytes.toList = some [(1, .long (-2)), (3, .utf8 "A"), (4, .classInfo 3),
        (5, .float ⟨0x7fc00000⟩)] := by
  intro history bytes
  have coherent := coherent_reachable history
  -- A pool can be asked for its bytes by way of its ledger, which needs no maps.
  have ledger : (empty.addAll history).ledger =
      ⟨[.long (-2), .utf8 "A", .classInfo 3, .float ⟨0x7fc00001⟩]⟩ :=
    (coherent_empty.ledger_addAll history).trans (by decide)
  have written : (empty.addAll history).toBytes = .ok bytes := by
    rw [toBytes_eq_ok_iff, coherent.emission_eq, ledger]
    decide
  refine ⟨written, ?_⟩
  obtain ⟨content, count, entries, read⟩ := read_toBytes history bytes written
  rw [read, coherent.map_readBack, ledger]
  decide

end Pool

end ClassHeader
