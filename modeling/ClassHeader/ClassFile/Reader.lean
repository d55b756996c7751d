import ClassHeader.ClassFile.BigEndian
import ClassHeader.Pool.Entry
import ClassHeader.Text.ModifiedUtf8

/-!
# Reading a pool from a class file

The bytes of a pool are a count and entries whose indices start at 1 and end where the count says.
An entry is read by its tag, and the tags 5 and 6 take two indices. Reading fails on an unknown tag,
on too few bytes and on a text that is not encoded as texts are. It goes by the numbers in the class
file format alone and by nothing that a pool is written with.
-/

namespace ClassHeader

namespace Entry

/-- Reads what follows a tag from the front of bytes. -/
def readContent? (tag : UInt8) (bytes : List UInt8) : Option (Entry × List UInt8) :=
  match tag with
  | 1 =>
    (BigEndian.read? 2 bytes).bind fun (length, bytes) =>
      if length ≤ bytes.length then
        (ModifiedUtf8.decode? (bytes.take length)).map fun text => (.utf8 text, bytes.drop length)
      else none
  | 3 => (BigEndian.read? 4 bytes).map fun (value, rest) => (.integer (Int32.ofNat value), rest)
  | 4 => (BigEndian.read? 4 bytes).map fun (bits, rest) => (.float ⟨BitVec.ofNat _ bits⟩, rest)
  | 5 => (BigEndian.read? 8 bytes).map fun (value, rest) => (.long (Int64.ofNat value), rest)
  | 6 => (BigEndian.read? 8 bytes).map fun (bits, rest) => (.double ⟨BitVec.ofNat _ bits⟩, rest)
  | 7 => (BigEndian.read? 2 bytes).map fun (text, rest) => (.classInfo text.toUInt16, rest)
  | 8 => (BigEndian.read? 2 bytes).map fun (text, rest) => (.string text.toUInt16, rest)
  | _ => none

end Entry

/-- What reading entries gives: the entries with their indices, the index after the last of them,
and the bytes that follow. -/
structure EntriesRead where
  entries : List (Nat × Entry)
  next : Nat
  rest : List UInt8
  deriving DecidableEq, Repr

/-- Reads entries from an index on, until the index reaches the count. -/
def readEntries? (count index : Nat) (bytes : List UInt8) : Option EntriesRead :=
  if index < count then
    match bytes with
    | [] => none
    | tag :: bytes =>
      (Entry.readContent? tag bytes).bind fun (entry, bytes) =>
        (readEntries? count (index + if tag = 5 ∨ tag = 6 then 2 else 1) bytes).map fun later =>
          { later with entries := (index, entry) :: later.entries }
  else some ⟨[], index, bytes⟩
termination_by count - index
decreasing_by split <;> omega

/-- The entries of a pool with their indices, if the bytes are those of a pool and nothing more. -/
def readPool? (bytes : List UInt8) : Option (List (Nat × Entry)) :=
  (BigEndian.read? 2 bytes).bind fun (count, bytes) =>
    (readEntries? count 1 bytes).bind fun read =>
      if read.next = count ∧ read.rest = [] then some read.entries else none

end ClassHeader
