/-!
UTF-8 as bytes: encoding text, checking bytes, and reading bytes that may not be UTF-8.

Bytes are cut into pieces: a character, a bad sequence (the longest start of a character that
the bytes still allowed, one to three bytes), or an unfinished character at the end of the
input. A check reports the first piece that is not a character as a `Utf8Fault`: how many
bytes before it were good, and the length of the bad sequence or that the input ended.
Reading with replacement turns each piece that is not a character into one U+FFFD.
-/

namespace NamespaceBootstrap.Text

def utf8 (s : String) : List UInt8 :=
  s.toList.flatMap String.utf8EncodeChar

/-- Where bytes stop being UTF-8: the number of good bytes before the fault, and the length of
the bad sequence, or `none` when the input ended inside a character. -/
structure Utf8Fault where
  validUpTo : Nat
  badLength : Option Nat
  deriving DecidableEq, Repr

def Utf8Fault.message (f : Utf8Fault) : String :=
  match f.badLength with
  | some n => s!"invalid utf-8 sequence of {n} bytes from index {f.validUpTo}"
  | none => s!"incomplete utf-8 byte sequence from index {f.validUpTo}"

/-- One piece of a byte sequence: a character with the number of bytes it takes, a bad sequence
of some length, or an unfinished character at the end of the input. -/
inductive Piece where
  | char (c : Char) (width : Nat)
  | bad (length : Nat)
  | cut
  deriving DecidableEq, Repr

/-- A continuation byte, `0x80` to `0xBF`. -/
def isTail (b : UInt8) : Bool := 0x80 ≤ b && b ≤ 0xBF

/-- The range the second byte of a character must lie in, by its first byte. -/
def secondRange (b : UInt8) : UInt8 × UInt8 :=
  if b = 0xE0 then (0xA0, 0xBF)
  else if b = 0xED then (0x80, 0x9F)
  else if b = 0xF0 then (0x90, 0xBF)
  else if b = 0xF4 then (0x80, 0x8F)
  else (0x80, 0xBF)

/-- The byte length of the character that a first byte opens, or 0 if none does. -/
def charWidth (b : UInt8) : Nat :=
  if b < 0x80 then 1
  else if b < 0xC2 then 0
  else if b < 0xE0 then 2
  else if b < 0xF0 then 3
  else if b < 0xF5 then 4
  else 0

def char2 (b0 b1 : UInt8) : Char :=
  Char.ofNat ((b0.toNat % 0x20) * 0x40 + b1.toNat % 0x40)

def char3 (b0 b1 b2 : UInt8) : Char :=
  Char.ofNat (((b0.toNat % 0x10) * 0x40 + b1.toNat % 0x40) * 0x40 + b2.toNat % 0x40)

def char4 (b0 b1 b2 b3 : UInt8) : Char :=
  Char.ofNat ((((b0.toNat % 0x08) * 0x40 + b1.toNat % 0x40) * 0x40 + b2.toNat % 0x40) * 0x40 +
    b3.toNat % 0x40)

/-- Cuts bytes into pieces; `acc` holds the pieces so far, last first. -/
def piecesFrom (acc : List Piece) (bs : List UInt8) : List Piece :=
  match bs with
  | [] => acc.reverse
  | b0 :: rest =>
    let w := charWidth b0
    if w = 1 then piecesFrom (.char (Char.ofNat b0.toNat) 1 :: acc) rest
    else if w = 0 then piecesFrom (.bad 1 :: acc) rest
    else
      match rest with
      | [] => (.cut :: acc).reverse
      | b1 :: rest1 =>
        if !((secondRange b0).1 ≤ b1 && b1 ≤ (secondRange b0).2) then
          piecesFrom (.bad 1 :: acc) (b1 :: rest1)
        else if w = 2 then piecesFrom (.char (char2 b0 b1) 2 :: acc) rest1
        else
          match rest1 with
          | [] => (.cut :: acc).reverse
          | b2 :: rest2 =>
            if !isTail b2 then piecesFrom (.bad 2 :: acc) (b2 :: rest2)
            else if w = 3 then piecesFrom (.char (char3 b0 b1 b2) 3 :: acc) rest2
            else
              match rest2 with
              | [] => (.cut :: acc).reverse
              | b3 :: rest3 =>
                if !isTail b3 then piecesFrom (.bad 3 :: acc) (b3 :: rest3)
                else piecesFrom (.char (char4 b0 b1 b2 b3) 4 :: acc) rest3
termination_by bs.length

def pieces (bs : List UInt8) : List Piece :=
  piecesFrom [] bs

/-- The first piece that is not a character, as a fault; `pos` counts the bytes before. -/
def faultFrom (pos : Nat) : List Piece → Option Utf8Fault
  | [] => none
  | .char _ w :: ps => faultFrom (pos + w) ps
  | .bad n :: _ => some ⟨pos, some n⟩
  | .cut :: _ => some ⟨pos, none⟩

/-- The characters of the pieces, each piece that is not a character read as U+FFFD. -/
def Piece.shown : Piece → Char
  | .char c _ => c
  | _ => '�'

/-- The text of bytes that are UTF-8, or where they stop being it. -/
def decode (bs : List UInt8) : Except Utf8Fault String :=
  let ps := pieces bs
  match faultFrom 0 ps with
  | some f => .error f
  | none => .ok (String.ofList (ps.map Piece.shown))

/-- The text of bytes, each bad sequence and an unfinished last character shown as U+FFFD. -/
def decodeLossy (bs : List UInt8) : String :=
  String.ofList ((pieces bs).map Piece.shown)

end NamespaceBootstrap.Text
