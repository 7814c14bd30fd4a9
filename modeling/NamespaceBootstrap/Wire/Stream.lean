import NamespaceBootstrap.Os.Io

/-!
A byte stream as the bootstrap sees its configuration channel: bytes still to read, bytes
written so far, how many more bytes writes are taken, whether the other end is gone, and what
releasing the stream does.

A read of `n` bytes either takes them, or, when fewer are left, takes all that are left and
fails. A write puts as much as the stream takes and fails if that is not all. A stream whose
descriptor was closed fails every read and write that would touch it.
-/

namespace NamespaceBootstrap.Wire

open Os

/-- What releasing a stream does: count the release and fail with `release refused` if it
refuses, nothing at all (the descriptor stays open), or close the descriptor the first time. -/
inductive Release where
  | counted (refuses : Bool)
  | keep
  | close
  deriving DecidableEq, Repr

/-- A byte stream and what was done on it: the bytes not read yet and how many were read, the
bytes written, how many more bytes writes take if that is bounded, whether the other end is gone
(so writes break the pipe), what releasing does, whether the descriptor was closed, and how many
times the stream was released. -/
structure Stream where
  unread : List UInt8
  consumed : Nat := 0
  written : List UInt8 := []
  room : Option Nat := none
  peerGone : Bool := false
  release : Release := .counted false
  closed : Bool := false
  releases : Nat := 0
  deriving DecidableEq, Repr

namespace Stream

def ofInput (input : List UInt8) : Stream := { unread := input }

def read (s : Stream) (n : Nat) : Except IoFailure (List UInt8) × Stream :=
  if n = 0 then (.ok [], s)
  else if s.closed then (.error (.os .badf), s)
  else if n ≤ s.unread.length then
    (.ok (s.unread.take n), { s with unread := s.unread.drop n, consumed := s.consumed + n })
  else
    (.error .shortRead, { s with unread := [], consumed := s.consumed + s.unread.length })

/-- Writes all the bytes, then flushes. -/
def write (s : Stream) (bytes : List UInt8) : Except IoFailure Unit × Stream :=
  if s.closed then (.error (.os .badf), s)
  else if bytes.isEmpty then (.ok (), s)
  else if s.peerGone then (.error (.os .pipe), s)
  else
    match s.room with
    | none => (.ok (), { s with written := s.written ++ bytes })
    | some r =>
      if bytes.length ≤ r then
        (.ok (), { s with written := s.written ++ bytes, room := some (r - bytes.length) })
      else
        (.error .shortWrite, { s with written := s.written ++ bytes.take r, room := some 0 })

/-- Releases the stream before the process image goes on. -/
def releaseOnce (s : Stream) : Except IoFailure Unit × Stream :=
  match s.release with
  | .counted refuses =>
    let s := { s with releases := s.releases + 1 }
    if refuses then (.error (.refused "release refused"), s) else (.ok (), s)
  | .keep => (.ok (), s)
  | .close => (.ok (), { s with closed := true })

end Stream

end NamespaceBootstrap.Wire
