import NamespaceBootstrap.Namespace.Kind
import NamespaceBootstrap.Text.Hex

/-!
Clone flag words: a 32-bit word in which each namespace kind owns one bit. Bits of no kind are
kept as they are, so a word passes through unchanged. A word is shown as the names of its kinds
in bit order joined by `|`, then the hexadecimal pattern of the other bits if there are any;
the empty word is `none`.
-/

namespace NamespaceBootstrap

structure Flags where
  bits : UInt32
  deriving DecidableEq, Repr

namespace Flags

/-- The bits that belong to a kind. -/
def knownBits : UInt32 := 0x7E020000

def empty : Flags := ⟨0⟩

def ofKind (k : Kind) : Flags := ⟨k.flagBit⟩

def union (a b : Flags) : Flags := ⟨a.bits ||| b.bits⟩

/-- The word `a` after `a |= b`: its bits with those of `b` added in place. -/
def orAssign (a b : Flags) : Flags := ⟨a.bits ||| b.bits⟩

def inter (a b : Flags) : Flags := ⟨a.bits &&& b.bits⟩

def contains (a b : Flags) : Bool := (a.bits &&& b.bits) == b.bits

def isEmpty (f : Flags) : Bool := f.bits == 0

def has (f : Flags) (k : Kind) : Bool := f.bits &&& k.flagBit != 0

/-- The kinds whose bits are set, in bit order. -/
def kinds (f : Flags) : List Kind := Kind.all.filter fun k => f.contains (ofKind k)

/-- The bits that belong to no kind. -/
def unknownBits (f : Flags) : UInt32 := f.bits &&& ~~~knownBits

def ofKinds (ks : List Kind) : Flags := ks.foldl (fun f k => f.union (ofKind k)) empty

/-- The word as text: `none`, or kind names and unknown bits joined by `|`. -/
def render (f : Flags) : String :=
  if f.bits = 0 then "none"
  else
    let names := f.kinds.map Kind.procName
    let rest := if f.unknownBits = 0 then [] else [Text.wordHex f.unknownBits]
    String.intercalate "|" (names ++ rest)

def toInt (f : Flags) : Int := f.bits.toInt32.toInt

def ofInt (i : Int) : Flags := ⟨(Int32.ofInt i).toUInt32⟩

end Flags

end NamespaceBootstrap
