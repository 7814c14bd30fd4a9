import NamespaceBootstrap.Wire.Frame
import NamespaceBootstrap.Wire.Stream

/-!
The configuration channel: the protocol's reads and writes over a `Stream`, each failing as a
channel failure of a named step.

The bootstrap reads the namespace list (a blob) and the clone flag word and writes the child's
process id; the host writes the request and reads the child's id back, which must be positive.
A blob whose length is negative or above 1 MiB is refused once its four length bytes are read.
-/

namespace NamespaceBootstrap.Wire

/-- A channel operation's result and the stream after it. -/
abbrev Step (α : Type) := Except BootstrapError α × Stream

namespace Stream

def readExact (s : Stream) (n : Nat) (step : String) : Step (List UInt8) :=
  match s.read n with
  | (.ok bs, s) => (.ok bs, s)
  | (.error e, s) => (.error (.channel step e), s)

def writeExact (s : Stream) (bytes : List UInt8) (step : String) : Step Unit :=
  match s.write bytes with
  | (.ok (), s) => (.ok (), s)
  | (.error e, s) => (.error (.channel step e), s)

/-- Reads a word of four bytes, most significant first. -/
def readWord (s : Stream) (step : String) : Step UInt32 :=
  match s.readExact 4 step with
  | (.ok [b0, b1, b2, b3], s) => (.ok (ofBe32 b0 b1 b2 b3), s)
  | (.ok _, s) => (.error (.channel step .shortRead), s)
  | (.error e, s) => (.error e, s)

def readInt (s : Stream) (step : String) : Step Int :=
  match s.readWord step with
  | (.ok w, s) => (.ok w.toInt32.toInt, s)
  | (.error e, s) => (.error e, s)

def writeInt (s : Stream) (v : Int) (step : String) : Step Unit :=
  s.writeExact (beInt v) step

/-- Reads a blob: its length, then that many bytes. -/
def readBlob (s : Stream) (step : String) : Step (List UInt8) :=
  match s.readInt step with
  | (.error e, s) => (.error e, s)
  | (.ok n, s) =>
    if n < 0 then (.error (.channel step (.malformed s!"negative blob length {n}")), s)
    else if n > maxBlob then
      (.error (.channel step (.malformed s!"blob length {n} exceeds {maxBlob}")), s)
    else s.readExact n.toNat step

def writeBlob (s : Stream) (bytes : List UInt8) (step : String) : Step Unit :=
  match encodeBlob bytes step with
  | .error e => (.error e, s)
  | .ok frame => s.writeExact frame step

def readPathList (s : Stream) : Step PathList :=
  match s.readBlob "reading namespace list" with
  | (.error e, s) => (.error e, s)
  | (.ok blob, s) => (PathList.decode blob, s)

def readFlags (s : Stream) : Step Flags :=
  match s.readWord "reading clone flags" with
  | (.ok w, s) => (.ok ⟨w⟩, s)
  | (.error e, s) => (.error e, s)

def writeChildPid (s : Stream) (p : ProcessId) : Step Unit :=
  s.writeExact (be32 p.raw.toUInt32) "writing child pid"

def writeRequest (s : Stream) (l : PathList) (f : Flags) : Step Unit :=
  match encodeRequest l f with
  | .error e => (.error e, s)
  | .ok frame => s.writeExact frame "writing bootstrap request"

/-- Reads the child's process id, which must be positive. -/
def readChildPid (s : Stream) : Step ProcessId :=
  match s.readInt "reading child pid" with
  | (.error e, s) => (.error e, s)
  | (.ok v, s) =>
    if v ≤ 0 then
      (.error (.channel "reading child pid" (.malformed s!"invalid child pid {v}")), s)
    else (.ok ⟨Int32.ofInt v⟩, s)

/-- Releases the stream, as the step `releasing config pipe`. -/
def releaseStep (s : Stream) : Step Unit :=
  match s.releaseOnce with
  | (.ok (), s) => (.ok (), s)
  | (.error e, s) => (.error (.channel "releasing config pipe" e), s)

end Stream

end NamespaceBootstrap.Wire
