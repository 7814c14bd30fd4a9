import NamespaceBootstrap.Namespace.List
import NamespaceBootstrap.Namespace.Flags

/-!
The frames of the bootstrap protocol. A number is four bytes, most significant first. A blob
is its length as a number, then its bytes; a blob may hold at most 1 MiB. A request is the
namespace list as a blob, then the clone flag word; a payload is a blob.
-/

namespace NamespaceBootstrap.Wire

def maxBlob : Nat := 1048576

/-- A 32-bit word as four bytes, most significant first. -/
def be32 (w : UInt32) : List UInt8 :=
  [(w >>> 24).toUInt8, (w >>> 16).toUInt8, (w >>> 8).toUInt8, w.toUInt8]

def ofBe32 (b0 b1 b2 b3 : UInt8) : UInt32 :=
  UInt32.ofNat (((b0.toNat * 256 + b1.toNat) * 256 + b2.toNat) * 256 + b3.toNat)

def beInt (i : Int) : List UInt8 := be32 (Int32.ofInt i).toUInt32

/-- A blob frame, or a failure of the named step if the blob is too large. -/
def encodeBlob (bytes : List UInt8) (step : String) : Except BootstrapError (List UInt8) :=
  let n := bytes.length
  if n > maxBlob then .error (.channel step (.malformed s!"blob of {n} bytes is too large"))
  else .ok (be32 (UInt32.ofNat n) ++ bytes)

/-- The request frame: the namespace list as a blob, then the flag word. -/
def encodeRequest (l : PathList) (f : Flags) : Except BootstrapError (List UInt8) :=
  (encodeBlob l.encode "encoding namespace list").map (· ++ be32 f.bits)

def encodePayload (bytes : List UInt8) : Except BootstrapError (List UInt8) :=
  encodeBlob bytes "encoding payload"

end NamespaceBootstrap.Wire
