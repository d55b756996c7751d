import ClassHeader.Proofs.ClassFile.Emission

/-!
# Writing to a sink that takes so many bytes and no more

What there is to write is a stream of bytes that knows no sink: the count and the encodings of the
entries, broken off after the tag of the first text that is too long. A sink with a limit takes the
first bytes of the stream, as many as it can. It depends on its limit and on the stream alone which
of the two errors there is, if any, and not on where one write ends and the next one begins.
-/

namespace ClassHeader

namespace Emission

/-- A sink with a limit takes the first bytes of an emission. It is full if there are more, and what
the emission ends in is reached only otherwise. -/
theorem into_limited (emission : Emission) (limit : Nat) :
    emission.into (Sink.empty (some limit)) =
      ⟨⟨some limit, (emission.bytes.take limit).toArray⟩,
        if limit < emission.bytes.length then some .sinkFull else emission.failure⟩ := by
  have room : (Sink.empty (some limit)).room emission.bytes.length =
      min emission.bytes.length limit := rfl
  by_cases full : limit < emission.bytes.length
  · rw [into, Sink.write, room, if_neg (by omega), if_pos full, Written.andThen_some,
      Nat.min_eq_right (Nat.le_of_lt full)]
    simp [Sink.empty]
  · have fits := Nat.le_of_not_lt full
    rw [into, Sink.write, room, if_pos (Nat.min_eq_left fits), if_neg full, Written.andThen_none,
      List.take_of_length_le fits]
    simp [Sink.empty]

end Emission

/-! ### Streams -/

namespace Entry

/-- The length of the encoding of a text, if it is too long to be written. -/
def excess? : Entry → Option Nat
  | .utf8 text =>
    let length := (ModifiedUtf8.encode text).length
    if 65535 < length then some length else none
  | _ => none

/-- An entry in the class file format: its tag, then its content. A text is its length and its
encoding, and every NaN is the same one. -/
def encoding (entry : Entry) : List UInt8 :=
  entry.kind.tag :: match entry.content with
    | .utf8 text =>
      let bytes := ModifiedUtf8.encode text
      BigEndian.encode 2 bytes.length ++ bytes
    | .index text => BigEndian.encode 2 text.toNat
    | .integer value => BigEndian.encode 4 value.toBitVec.toNat
    | .float value => BigEndian.encode 4 value.canonical.bits.toNat
    | .long value => BigEndian.encode 8 value.toBitVec.toNat
    | .double value => BigEndian.encode 8 value.canonical.bits.toNat

/-- The encodings of entries, broken off after the tag of the first that is too long. -/
def stream (entries : List Entry) : List UInt8 :=
  (entries.takeWhile (·.excess?.isNone)).flatMap encoding ++
    ((entries.dropWhile (·.excess?.isNone)).take 1).map (·.kind.tag)

theorem emission_of_short {entry : Entry} (short : entry.excess? = none) :
    entry.emission = .ofBytes entry.encoding := by
  cases entry with
  | utf8 text =>
    have fits : (ModifiedUtf8.encode text).length < 0x10000 := by
      simp only [excess?, ite_eq_right_iff, reduceCtorEq, imp_false] at short
      omega
    rw [emission, Content.payload, if_pos fits]
    rfl
  | _ => rfl

theorem emission_of_excess {entry : Entry} {length : Nat} (long : entry.excess? = some length) :
    entry.emission = ⟨[entry.kind.tag], some (.utf8TooLong length)⟩ := by
  cases entry with
  | utf8 text =>
    simp only [excess?, Option.ite_none_right_eq_some, Option.some.injEq] at long
    obtain ⟨long, rfl⟩ := long
    rw [emission, Content.payload, if_neg (by omega)]
    rfl
  | _ => cases long

/-- Entries are emitted as their stream, which ends in an error if it is broken off. -/
theorem emissions_eq (entries : List Entry) :
    emissions entries = ⟨stream entries, (entries.findSome? excess?).map .utf8TooLong⟩ := by
  induction entries with
  | nil => rfl
  | cons entry rest ih =>
    cases excess : entry.excess? with
    | none =>
      rw [emissions, emission_of_short excess, ih]
      simp [Emission.append, Emission.ofBytes, stream, excess]
    | some length =>
      -- What comes after the first text that is too long is not reached.
      rw [emissions, emission_of_excess excess]
      simp [Emission.append, stream, excess]

theorem emission_eq (entry : Entry) :
    entry.emission = ⟨stream [entry], entry.excess?.map .utf8TooLong⟩ := by
  cases excess : entry.excess? with
  | none =>
    rw [emission_of_short excess]
    simp [Emission.ofBytes, stream, excess]
  | some length =>
    rw [emission_of_excess excess]
    simp [stream, excess]

end Entry

namespace Pool

/-- The count and the entries of a pool, broken off after the tag of the first text that is too
long. -/
def stream (pool : Pool) : List UInt8 :=
  BigEndian.encode 2 pool.next.toNat ++ Entry.stream pool.entries.toList

/-- The length of the encoding of the first text that is too long to be written. -/
def excess? (pool : Pool) : Option Nat :=
  pool.entries.toList.findSome? Entry.excess?

theorem emission_eq (pool : Pool) :
    pool.emission = ⟨pool.stream, pool.excess?.map .utf8TooLong⟩ := by
  rw [emission, Entry.emissions_eq]
  rfl

end Pool

/-! ### What is left behind -/

/-- What writing leaves behind in a sink that takes `limit` bytes, where `stream` is all that there
is to write, and `excess?` the length of the text that it is broken off at. -/
structure Written.Limited (written : Written) (limit : Nat) (stream : List UInt8)
    (excess? : Option Nat) : Prop where
  content : written.sink.content.toList = stream.take (min limit stream.length)
  full : written.failure = some .sinkFull ↔ limit < stream.length
  broken : ∀ length, written.failure = some (.utf8TooLong length) ↔
    stream.length ≤ limit ∧ excess? = some length
  whole : written.failure = none ↔ stream.length ≤ limit ∧ excess? = none

/-- All bytes of a stream, if it is not broken off. -/
def unbroken (stream : List UInt8) : Option Nat → Except WriteError (Array UInt8)
  | none => .ok stream.toArray
  | some length => .error (.utf8TooLong length)

section

variable (stream : List UInt8) (excess? : Option Nat)

theorem limited_into (limit : Nat) :
    (Emission.into ⟨stream, excess?.map .utf8TooLong⟩ (Sink.empty (some limit))).Limited limit
      stream excess? := by
  rw [Emission.into_limited]
  by_cases full : limit < stream.length
  · rw [if_pos full]
    refine ⟨?content, ?_, ?_, ?_⟩
    case content => rw [Nat.min_eq_left (Nat.le_of_lt full)]
    all_goals simp [full, Nat.not_le_of_lt full]
  · have fits := Nat.le_of_not_lt full
    rw [if_neg full, List.take_of_length_le fits]
    refine ⟨?content, ?_, ?_, ?_⟩
    case content => rw [Nat.min_eq_right fits, List.take_length]
    all_goals cases excess? <;> simp [full, fits]

theorem bytes_into_empty :
    (Emission.into ⟨stream, excess?.map .utf8TooLong⟩ (Sink.empty none)).bytes =
      unbroken stream excess? := by
  rw [Emission.into_empty]
  cases excess? <;> rfl

end

/-- Whatever the limit of a sink, it ends up holding the first bytes of the stream of a pool, as
many as it takes. The sink is full exactly if there are more of them. Otherwise the stream is broken
off exactly if a text is too long, and the error tells the length of the first such text; and if
there is none, all is well, and the stream is the bytes of the pool. The same holds of an entry that
is written on its own. -/
theorem write_limited (pool : Pool) (limit : Nat) :
    (pool.write (Sink.empty (some limit))).Limited limit pool.stream pool.excess? ∧
    pool.toBytes = unbroken pool.stream pool.excess? ∧
    ∀ entry : Entry,
      (entry.write (Sink.empty (some limit))).Limited limit (Entry.stream [entry]) entry.excess? ∧
      entry.toBytes = unbroken (Entry.stream [entry]) entry.excess? := by
  refine ⟨?_, ?_, fun entry => ⟨?_, ?_⟩⟩
  · rw [pool.write_eq, pool.emission_eq]
    exact limited_into pool.stream pool.excess? limit
  · rw [Pool.toBytes, pool.write_eq, pool.emission_eq, bytes_into_empty]
  · rw [entry.write_eq, entry.emission_eq]
    exact limited_into (Entry.stream [entry]) entry.excess? limit
  · rw [Entry.toBytes, entry.write_eq, entry.emission_eq, bytes_into_empty]

end ClassHeader
