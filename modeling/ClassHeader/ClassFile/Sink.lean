/-!
# Sinks for bytes

A sink takes bytes up to a limit, or any number of them. Bytes that do not fit are lost: a write
that does not fit stores the bytes that do and fails.
-/

namespace ClassHeader

inductive WriteError where
  /-- A text is too long for a class file; its encoding has this many bytes. -/
  | utf8TooLong (length : Nat)
  /-- The sink took fewer bytes than it was given. -/
  | sinkFull
  deriving DecidableEq, Repr

def WriteError.message : WriteError → String
  | .utf8TooLong length =>
    "Utf8 constant too long: " ++ length.repr ++ " bytes encoded, limit is 65535"
  | .sinkFull => "IO error: failed to write whole buffer"

/-- The bytes taken so far, and how many there can be. -/
structure Sink where
  limit : Option Nat
  content : Array UInt8
  deriving Repr

/-- What a write leaves behind. -/
structure Written where
  sink : Sink
  failure : Option WriteError
  deriving Repr

namespace Written

/-- Goes on writing unless a write has failed. -/
def andThen (written : Written) (more : Sink → Written) : Written :=
  match written with
  | ⟨sink, none⟩ => more sink
  | failed => failed

/-- The bytes that were written, unless a write has failed. -/
def bytes (written : Written) : Except WriteError (Array UInt8) :=
  match written.failure with
  | none => .ok written.sink.content
  | some error => .error error

end Written

namespace Sink

def empty (limit : Option Nat) : Sink := ⟨limit, #[]⟩

/-- How many of `count` more bytes fit. -/
def room (sink : Sink) (count : Nat) : Nat :=
  match sink.limit with
  | none => count
  | some limit => min count (limit - sink.content.size)

/-- Writes bytes, as many as fit. -/
def write (bytes : List UInt8) (sink : Sink) : Written :=
  let room := sink.room bytes.length
  if room = bytes.length then ⟨{ sink with content := sink.content ++ bytes }, none⟩
  else ⟨{ sink with content := sink.content ++ bytes.take room }, some .sinkFull⟩

def fail (error : WriteError) (sink : Sink) : Written :=
  ⟨sink, some error⟩

end Sink

end ClassHeader
