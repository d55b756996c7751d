import ClassHeader.ClassFile.Writer

/-!
# What is written, apart from where

An emission is the bytes that an entry or a pool is written as and the error that they end in, if
they do. It knows nothing of the separate writes that it is made with or of a sink. Writing to a
sink is putting the emission there in one piece, so that how the bytes are cut into writes cannot
matter.
-/

namespace ClassHeader

/-! ### Consecutive writes -/

namespace Written

@[simp] theorem andThen_none (sink : Sink) (more : Sink → Written) :
    (Written.mk sink none).andThen more = more sink := rfl

@[simp] theorem andThen_some (sink : Sink) (error : WriteError) (more : Sink → Written) :
    (Written.mk sink (some error)).andThen more = ⟨sink, some error⟩ := rfl

theorem andThen_assoc (written : Written) (first second : Sink → Written) :
    (written.andThen first).andThen second =
      written.andThen fun sink => (first sink).andThen second := by
  obtain ⟨sink, _ | error⟩ := written <;> rfl

end Written

namespace Sink

variable (sink : Sink)

theorem room_le (count : Nat) : sink.room count ≤ count := by
  rw [room]
  split
  · exact Nat.le_refl count
  · exact Nat.min_le_left _ _

/-- A write of nothing fits into every sink, even a full one. -/
@[simp] theorem write_nil : sink.write [] = ⟨sink, none⟩ := by
  have fits : sink.room 0 = 0 := Nat.le_zero.mp (sink.room_le 0)
  simp [write, fits]

/-- Of a write that does not fit, nothing that comes after it is stored. -/
theorem room_add_of_lt {first : Nat} (second : Nat) (full : sink.room first < first) :
    sink.room (first + second) = sink.room first := by
  unfold room at full ⊢
  split at full <;> omega

theorem room_add_of_eq {first : List UInt8} (second : Nat)
    (fits : sink.room first.length = first.length) :
    sink.room (first.length + second) =
      first.length + { sink with content := sink.content ++ first : Sink }.room second := by
  have size : (sink.content ++ first).size = sink.content.size + first.length := by
    rw [← Array.length_toList, Array.toList_appendList, List.length_append, Array.length_toList]
  unfold room at fits ⊢
  dsimp only
  rw [size]
  split at fits <;> omega

/-- It makes no difference whether bytes are written at once or in two parts. -/
theorem write_append (first second : List UInt8) :
    sink.write (first ++ second) = (sink.write first).andThen (·.write second) := by
  rw [write, List.length_append]
  by_cases fits : sink.room first.length = first.length
  · have content (more : List UInt8) :
        sink.content ++ (first ++ more) = sink.content ++ first ++ more :=
      Array.ext' (by simp)
    rw [sink.room_add_of_eq second.length fits, write, if_pos fits, Written.andThen_none, write]
    -- The whole fits exactly if the second part fits after the first.
    simp only [Nat.add_left_cancel_iff, List.take_length_add_append, content]
  · have full : sink.room first.length < first.length :=
      Nat.lt_of_le_of_ne (sink.room_le _) fits
    -- The first part has used up the room, and the second is not written.
    rw [sink.room_add_of_lt second.length full, write, if_neg fits, Written.andThen_some,
      if_neg (by omega), List.take_append_of_le_length (Nat.le_of_lt full)]

end Sink

/-! ### Emissions -/

/-- The bytes that something is written as, and the error that they end in. -/
structure Emission where
  bytes : List UInt8
  failure : Option WriteError
  deriving DecidableEq, Repr

namespace Emission

def ofBytes (bytes : List UInt8) : Emission := ⟨bytes, none⟩

theorem ofBytes_inj {left right : List UInt8} : ofBytes left = ofBytes right ↔ left = right := by
  simp [ofBytes]

/-- One emission after another, which is not reached if the first ends in an error. -/
def append (first second : Emission) : Emission :=
  match first.failure with
  | none => ⟨first.bytes ++ second.bytes, second.failure⟩
  | some _ => first

/-- Writes an emission in one piece. -/
def into (emission : Emission) (sink : Sink) : Written :=
  (sink.write emission.bytes).andThen fun sink => ⟨sink, emission.failure⟩

@[simp] theorem into_ofBytes (bytes : List UInt8) : (ofBytes bytes).into = Sink.write bytes := by
  funext sink
  change (sink.write bytes).andThen (⟨·, none⟩) = sink.write bytes
  obtain ⟨sink, _ | error⟩ := sink.write bytes <;> rfl

theorem into_append (first second : Emission) (sink : Sink) :
    (first.append second).into sink = (first.into sink).andThen second.into := by
  obtain ⟨bytes, _ | error⟩ := first
  · rw [append, into, Sink.write_append, Written.andThen_assoc, into, Written.andThen_assoc]
    rfl
  · rw [append, into, Written.andThen_assoc]
    rfl

/-- A sink without a limit takes all of an emission. -/
theorem into_empty (emission : Emission) : emission.into (Sink.empty none) =
    ⟨⟨none, emission.bytes.toArray⟩, emission.failure⟩ := by
  have unlimited (bytes : List UInt8) :
      (Sink.empty none).write bytes = ⟨⟨none, bytes.toArray⟩, none⟩ := by
    simp [Sink.write, Sink.empty, Sink.room]
  rw [into, unlimited, Written.andThen_none]

theorem bytes_into_empty_eq_ok_iff (emission : Emission) (bytes : Array UInt8) :
    (emission.into (Sink.empty none)).bytes = .ok bytes ↔ emission = .ofBytes bytes.toList := by
  rw [into_empty, Written.bytes]
  obtain ⟨content, _ | error⟩ := emission
  · simp only [ofBytes, Except.ok.injEq, Emission.mk.injEq, and_true]
    constructor
    · rintro rfl
      rfl
    · rintro rfl
      exact Array.toArray_toList
  · simp [ofBytes]

/-- A sequence of two emissions ends well if both do. -/
theorem append_eq_ofBytes_iff (first second : Emission) (bytes : List UInt8) :
    first.append second = ofBytes bytes ↔
      ∃ front back, first = ofBytes front ∧ second = ofBytes back ∧ front ++ back = bytes := by
  obtain ⟨front, _ | error⟩ := first
  · obtain ⟨back, failure⟩ := second
    simp only [append, ofBytes, Emission.mk.injEq, and_true]
    constructor
    · rintro ⟨whole, rfl⟩
      exact ⟨front, back, rfl, ⟨rfl, rfl⟩, whole⟩
    · rintro ⟨_, _, rfl, ⟨rfl, rfl⟩, whole⟩
      exact ⟨whole, rfl⟩
  · simp [append, ofBytes]

end Emission

/-! ### Entries and pools -/

namespace Content

/-- What a content is written as. Of a text that is too long nothing is written. -/
def payload : Content → Emission
  | .utf8 text =>
    let bytes := ModifiedUtf8.encode text
    if bytes.length < 0x10000 then .ofBytes (BigEndian.encode 2 bytes.length ++ bytes)
    else ⟨[], some (.utf8TooLong bytes.length)⟩
  | .index text => .ofBytes (BigEndian.encode 2 text.toNat)
  | .integer value => .ofBytes (BigEndian.encode 4 value.toBitVec.toNat)
  | .float value => .ofBytes (BigEndian.encode 4 value.canonical.bits.toNat)
  | .long value => .ofBytes (BigEndian.encode 8 value.toBitVec.toNat)
  | .double value => .ofBytes (BigEndian.encode 8 value.canonical.bits.toNat)

theorem write_eq (content : Content) : content.write = content.payload.into := by
  cases content with
  | utf8 text =>
    funext sink
    rw [write, payload]
    split
    · rw [Emission.into_ofBytes, Sink.write_append]
    · rw [Emission.into, Sink.write_nil]
      rfl
  | _ => exact (Emission.into_ofBytes _).symm

end Content

namespace Entry

def emission (entry : Entry) : Emission :=
  (Emission.ofBytes [entry.kind.tag]).append entry.content.payload

def emissions : List Entry → Emission
  | [] => .ofBytes []
  | entry :: rest => entry.emission.append (emissions rest)

theorem write_eq (entry : Entry) : entry.write = entry.emission.into := by
  funext sink
  rw [write, emission, Emission.into_append, Content.write_eq, Emission.into_ofBytes]

theorem toBytes_eq_ok_iff (entry : Entry) (bytes : Array UInt8) :
    entry.toBytes = .ok bytes ↔ entry.emission = .ofBytes bytes.toList := by
  rw [toBytes, write_eq, Emission.bytes_into_empty_eq_ok_iff]

theorem foldl_write (entries : List Entry) (written : Written) :
    entries.foldl (fun written entry => written.andThen entry.write) written =
      written.andThen (emissions entries).into := by
  -- Whatever was written before, a failure included, the rest is written after it.
  induction entries generalizing written with
  | nil =>
    obtain ⟨sink, _ | error⟩ := written
    · exact (sink.write_nil).symm.trans (by rw [emissions, Emission.into_ofBytes]; rfl)
    · rfl
  | cons entry rest ih =>
    rw [List.foldl_cons, ih, Written.andThen_assoc, write_eq, emissions]
    congr 1
    funext sink
    rw [Emission.into_append]

end Entry

namespace Pool

variable (pool : Pool)

def emission : Emission :=
  (Emission.ofBytes (BigEndian.encode 2 pool.next.toNat)).append
    (Entry.emissions pool.entries.toList)

/-- A pool is written as its emission. -/
theorem write_eq : pool.write = pool.emission.into := by
  funext sink
  rw [write, ← Array.foldl_toList, Entry.foldl_write, emission, Emission.into_append,
    Emission.into_ofBytes]

/-- The bytes of a pool are its emission, provided that it ends well. -/
theorem toBytes_eq_ok_iff (bytes : Array UInt8) :
    pool.toBytes = .ok bytes ↔ pool.emission = .ofBytes bytes.toList := by
  rw [toBytes, write_eq, Emission.bytes_into_empty_eq_ok_iff]

end Pool

end ClassHeader
