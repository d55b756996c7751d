import ClassHeader.ClassFile.BigEndian
import ClassHeader.ClassFile.Sink
import ClassHeader.Pool.Basic
import ClassHeader.Text.ModifiedUtf8

/-!
# Writing a pool to a class file

A pool is written as its next index, which is one more than the number of indices in use, followed
by its entries. An entry is a tag and a content; all numbers are big-endian. Each of these parts is
a write of its own, and what a sink holds after a failure depends on that.
-/

namespace ClassHeader

/-- Writes a content. A text is preceded by the length of its encoding, and NaNs are all written
alike. -/
def Content.write (content : Content) (sink : Sink) : Written :=
  match content with
  | .utf8 text =>
    let bytes := ModifiedUtf8.encode text
    if bytes.length < 0x10000 then
      (sink.write (BigEndian.encode 2 bytes.length)).andThen (·.write bytes)
    else sink.fail (.utf8TooLong bytes.length)
  | .index text => sink.write (BigEndian.encode 2 text.toNat)
  | .integer value => sink.write (BigEndian.encode 4 value.toBitVec.toNat)
  | .float value => sink.write (BigEndian.encode 4 value.canonical.bits.toNat)
  | .long value => sink.write (BigEndian.encode 8 value.toBitVec.toNat)
  | .double value => sink.write (BigEndian.encode 8 value.canonical.bits.toNat)

namespace Entry

def write (entry : Entry) (sink : Sink) : Written :=
  (sink.write [entry.kind.tag]).andThen entry.content.write

/-- The bytes of an entry in a class file. -/
def toBytes (entry : Entry) : Except WriteError (Array UInt8) :=
  (entry.write (Sink.empty none)).bytes

end Entry

namespace Pool

/-- Writes a pool: its next index, then its entries up to the first that fails. -/
def write (pool : Pool) (sink : Sink) : Written :=
  pool.entries.foldl (fun written entry => written.andThen entry.write)
    (sink.write (BigEndian.encode 2 pool.next.toNat))

/-- What is recorded when a pool is written. -/
def writing (pool : Pool) : Event :=
  .writing pool.next pool.size

/-- The bytes of a pool in a class file. -/
def toBytes (pool : Pool) : Except WriteError (Array UInt8) :=
  (pool.write (Sink.empty none)).bytes

end Pool

end ClassHeader
