/-!
Hexadecimal text: lowercase digits of a natural number, the two-digit form of a byte, and the
`0x`-prefixed form of a 32-bit word read as a bit pattern.
-/

namespace NamespaceBootstrap.Text

def hexDigit (n : Nat) : Char :=
  if n < 10 then Char.ofNat (0x30 + n) else Char.ofNat (0x57 + n)

/-- The lowercase hexadecimal digits of `n`, most significant first, without leading zeros
(`0` has the single digit `0`). -/
def hexDigits (n : Nat) : List Char :=
  if _h : n < 16 then [hexDigit n] else hexDigits (n / 16) ++ [hexDigit (n % 16)]
termination_by n
decreasing_by omega

def byteHex (b : UInt8) : List Char :=
  [hexDigit (b.toNat / 16), hexDigit (b.toNat % 16)]

def bytesHex (bs : List UInt8) : String :=
  String.ofList (bs.flatMap byteHex)

/-- A word as `0x` and its lowercase hexadecimal digits; a word with the top bit set is written
as its bit pattern, so the word of `-2147483648` is `0x80000000`. -/
def wordHex (w : UInt32) : String :=
  String.ofList ('0' :: 'x' :: hexDigits w.toNat)

end NamespaceBootstrap.Text
