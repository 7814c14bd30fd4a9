import NamespaceBootstrap.Json.Cursor
import NamespaceBootstrap.Text.Utf8
import NamespaceBootstrap.Text.Shortest

/-!
The lexical layer of the JSON reader: strings, numbers, the words `null`, `true` and `false`,
and skipping a whole value without keeping it.

A string is read up to its closing quote, escapes resolved; a `\u` escape of a high surrogate
must be followed by one of a low surrogate, and the bytes of the string must be UTF-8. A number
is read as an unsigned or a negative 64-bit integer when it has neither fraction nor exponent
and fits, and as a binary64 number otherwise; digits past the 64-bit range only scale the
number. Skipping a value checks its grammar with an explicit stack, so nesting has no limit.
-/

namespace NamespaceBootstrap.Json

def simpleEscape (e : UInt8) : Option UInt8 :=
  if e = 0x22 then some 0x22 else if e = 0x5C then some 0x5C else if e = 0x2F then some 0x2F
  else if e = 0x62 then some 0x08 else if e = 0x66 then some 0x0C else if e = 0x6E then some 0x0A
  else if e = 0x72 then some 0x0D else if e = 0x74 then some 0x09 else none

def hexValue (b : UInt8) : Option Nat :=
  if 0x30 ≤ b ∧ b ≤ 0x39 then some (b.toNat - 0x30)
  else if 0x61 ≤ b ∧ b ≤ 0x66 then some (b.toNat - 0x57)
  else if 0x41 ≤ b ∧ b ≤ 0x46 then some (b.toNat - 0x37)
  else none

def hex4 (a b c d : UInt8) : Option Nat := do
  return (((← hexValue a) * 16 + (← hexValue b)) * 16 + (← hexValue c)) * 16 + (← hexValue d)

/-- The UTF-8 bytes of a code point, last byte first. -/
def pushCode (n : Nat) (acc : List UInt8) : List UInt8 :=
  (String.utf8EncodeChar (Char.ofNat n)).reverse ++ acc

/-- Scans a string body up to its closing quote: the bytes (last first), and how many input
bytes came before the quote; or a failure and how many bytes were read when it arose. -/
def scanString (acc : List UInt8) (k : Nat) : List UInt8 → Except (Code × Nat) (List UInt8 × Nat)
  | [] => .error (.eofString, k)
  | b :: r =>
    if b = 0x22 then .ok (acc, k)
    else if b = 0x5C then
      match r with
      | [] => .error (.eofString, k + 1)
      | e :: r2 =>
        match simpleEscape e with
        | some v => scanString (v :: acc) (k + 2) r2
        | none =>
          if e ≠ 0x75 then .error (.invalidEscape, k + 2)
          else
            match r2 with
            | a :: b1 :: c :: d :: r3 =>
              match hex4 a b1 c d with
              | none => .error (.invalidEscape, k + 6)
              | some n =>
                if 0xDC00 ≤ n ∧ n ≤ 0xDFFF then .error (.loneSurrogate, k + 6)
                else if n < 0xD800 ∨ 0xDBFF < n then scanString (pushCode n acc) (k + 6) r3
                else
                  match r3 with
                  | [] => .error (.eofString, k + 6)
                  | x :: r4 =>
                    if x ≠ 0x5C then .error (.hexEscapeEnd, k + 7)
                    else
                      match r4 with
                      | [] => .error (.eofString, k + 7)
                      | y :: r5 =>
                        if y ≠ 0x75 then .error (.hexEscapeEnd, k + 8)
                        else
                          match r5 with
                          | a2 :: b2 :: c2 :: d2 :: r6 =>
                            match hex4 a2 b2 c2 d2 with
                            | none => .error (.invalidEscape, k + 12)
                            | some n2 =>
                              if n2 < 0xDC00 ∨ 0xDFFF < n2 then .error (.loneSurrogate, k + 12)
                              else
                                let code := ((n - 0xD800) * 0x400 + (n2 - 0xDC00)) + 0x10000
                                scanString (pushCode code acc) (k + 12) r6
                          | short => .error (.eofString, k + 8 + short.length)
            | short => .error (.eofString, k + 2 + short.length)
    else if b < 0x20 then .error (.controlChar, k + 1)
    else scanString (b :: acc) (k + 1) r

/-- Skips a string body and its closing quote without checking UTF-8: how many bytes that
took, and the rest. -/
def skipString (k : Nat) : List UInt8 → Except (Code × Nat) (Nat × List UInt8)
  | [] => .error (.eofString, k)
  | b :: r =>
    if b = 0x22 then .ok (k + 1, r)
    else if b = 0x5C then
      match r with
      | [] => .error (.eofString, k + 1)
      | e :: r2 =>
        if (simpleEscape e).isSome then skipString (k + 2) r2
        else if e ≠ 0x75 then .error (.invalidEscape, k + 2)
        else
          match r2 with
          | a :: b1 :: c :: d :: r3 =>
            if (hex4 a b1 c d).isSome then skipString (k + 6) r3 else .error (.invalidEscape, k + 6)
          | short => .error (.eofString, k + 2 + short.length)
    else if b < 0x20 then .error (.controlChar, k)
    else skipString (k + 1) r

namespace Reader

/-- Reads a string after its opening quote. A text that is not UTF-8 is refused at the place
found by counting its bytes, as unescaped, from the first invalid sequence to the end back from
the place after the closing quote. -/
def string : Reader String := fun c =>
  match scanString [] 0 c.rest with
  | .error (code, k) => .error (c.failureAfter k code) c
  | .ok (acc, k) =>
    match Text.decode acc.reverse with
    | .error f =>
      .error (c.failureAfter (k + 1 - (acc.length - f.validUpTo)) .invalidCodePoint) c
    | .ok s =>
      let c := c.skip (k + 1) (c.rest.drop (k + 1))
      .ok s c

def skipStr : Reader Unit := fun c =>
  match skipString 0 c.rest with
  | .error (code, k) => .error (c.failureAfter k code) c
  | .ok (k, r) => .ok () (c.skip k r)

def word (tail : List UInt8) : Reader Unit := fun c =>
  let rec go (c : Cursor) : List UInt8 → EStateM.Result ReadError Cursor Unit
    | [] => .ok () c
    | w :: ws =>
      match c.rest with
      | [] => .error (c.failure .eofValue) c
      | b :: r =>
        let c := c.advance b r
        if b = w then go c ws else .error (c.failure .expectedIdent) c
  go c tail

end Reader

/-- A number as read: an unsigned or a negative 64-bit integer, or a binary64 number. -/
inductive Number where
  | unsigned (n : Nat)
  | signed (i : Int)
  | float (f : Float)

def Number.describe : Number → String
  | .unsigned n => s!"integer `{n}`"
  | .signed i => s!"integer `{i}`"
  | .float f => s!"floating point `{Text.shortestText f}`"

def u64Max : Nat := 18446744073709551615

/-- Powers of ten as binary64 numbers, as far as they are finite. -/
def pow10 (k : Nat) : Float := Float.ofScientific 1 false k

/-- The binary64 number of `significand · 10^exponent`, scaling step by step; an overflow to
infinity is out of range. -/
def floatOfParts (positive : Bool) (significand : Nat) (exponent : Int) : Option Float :=
  let rec go (f : Float) (e : Int) : Nat → Option Float
    | 0 => some f
    | fuel + 1 =>
      if e.natAbs ≤ 308 then
        if e ≥ 0 then
          let g := f * pow10 e.natAbs
          if g.isInf then none else some g
        else some (f / pow10 e.natAbs)
      else if f == 0 then some f
      else if e ≥ 0 then none
      else go (f / pow10 308) (e + 308) fuel
  (go (Float.ofNat significand) exponent 1000).map fun f => if positive then f else -f

def isDigitByte (b : UInt8) : Bool := 0x30 ≤ b && b ≤ 0x39

def Cursor.peekOrNull (c : Cursor) : UInt8 := c.peek?.getD 0

def Cursor.skipDigits (c : Cursor) : Cursor :=
  match _h : c.rest with
  | b :: r => if isDigitByte b then (c.skip 1 r).skipDigits else c
  | [] => c
termination_by c.rest.length
decreasing_by simp [Cursor.skip, _h]

/-- Reads the digits of an integer part after its first: while they fit in 64 bits they join
the significand, and from the first that does not, each only raises the exponent. -/
def Cursor.intDigits (c : Cursor) (sig : Nat) (exp : Int) (overflowed : Bool) :
    Cursor × Nat × Int × Bool :=
  match h : c.rest with
  | b :: r =>
    if isDigitByte b then
      let d := b.toNat - 0x30
      if overflowed ∨ sig * 10 + d > u64Max then (c.skip 1 r).intDigits sig (exp + 1) true
      else (c.skip 1 r).intDigits (sig * 10 + d) exp false
    else (c, sig, exp, overflowed)
  | [] => (c, sig, exp, overflowed)
termination_by c.rest.length
decreasing_by all_goals simp [Cursor.skip, h]

/-- Reads the digits after a decimal point: while they fit in 64 bits they join the
significand and are counted; from the first that does not, the rest are skipped. Gives
whether that happened. -/
def Cursor.fracDigits (c : Cursor) (sig kept : Nat) : Cursor × Nat × Nat × Bool :=
  match h : c.rest with
  | b :: r =>
    if isDigitByte b then
      let d := b.toNat - 0x30
      if sig * 10 + d > u64Max then (c.skipDigits, sig, kept, true)
      else (c.skip 1 r).fracDigits (sig * 10 + d) (kept + 1)
    else (c, sig, kept, false)
  | [] => (c, sig, kept, false)
termination_by c.rest.length
decreasing_by simp [Cursor.skip, h]

def finishFloat (positive : Bool) (sig : Nat) (e : Int) (c : Cursor) :
    Except ReadError (Float × Cursor) :=
  match floatOfParts positive sig e with
  | some f => .ok (f, c)
  | none => .error (c.failure .outOfRange)

/-- Reads exponent digits after the first: the exponent, or the place of a digit that takes it
out of the 32-bit range. -/
def Cursor.expDigits (c : Cursor) (e : Nat) : Cursor × Option Nat :=
  match h : c.rest with
  | b :: r =>
    if isDigitByte b then
      let e2 := e * 10 + (b.toNat - 0x30)
      if e2 > 2147483647 then (c.skip 1 r, none) else (c.skip 1 r).expDigits e2
    else (c, some e)
  | [] => (c, some e)
termination_by c.rest.length
decreasing_by all_goals simp [Cursor.skip, h]

def readExponent (positive : Bool) (sig : Nat) (start : Int) (c : Cursor) :
    Except ReadError (Float × Cursor) :=
  let c := c.eat
  let (posExp, c) := match c.peek? with
    | some 0x2B => (true, c.eat)
    | some 0x2D => (false, c.eat)
    | _ => (true, c)
  match c.rest with
  | [] => .error (c.failure .eofValue)
  | b :: r =>
    let c := c.advance b r
    if !isDigitByte b then .error (c.failure .invalidNumber)
    else
      match c.expDigits (b.toNat - 0x30) with
      | (c, none) =>
        if sig ≠ 0 ∧ posExp then .error (c.failure .outOfRange)
        else .ok (if positive then 0.0 else -0.0, c.skipDigits)
      | (c, some e) => finishFloat positive sig (if posExp then start + e else start - e) c

def readFraction (positive : Bool) (sig : Nat) (exp : Int) (overflowed : Bool) (c : Cursor) :
    Except ReadError (Number × Cursor) :=
  let asFloat (r : Except ReadError (Float × Cursor)) := r.map fun (f, c) => (Number.float f, c)
  match c.peek? with
  | some 0x2E =>
    let (c, sig2, kept, stopped) := c.eat.fracDigits sig 0
    if kept = 0 ∧ !stopped then
      match c.peek? with
      | some _ => .error (c.peekFailure .invalidNumber)
      | none => .error (c.peekFailure .eofValue)
    else
      let e := exp - kept
      match c.peek? with
      | some 0x65 | some 0x45 => asFloat (readExponent positive sig2 e c)
      | _ => asFloat (finishFloat positive sig2 e c)
  | some 0x65 | some 0x45 => asFloat (readExponent positive sig exp c)
  | _ =>
    if overflowed then asFloat (finishFloat positive sig exp c)
    else if positive then .ok (.unsigned sig, c)
    else if sig = 0 then .ok (.float (-0.0), c)
    else if sig ≤ Nat.pow 2 63 then .ok (.signed (-(sig : Int)), c)
    else .ok (.float (-(Float.ofNat sig)), c)

def readNumber (positive : Bool) (c : Cursor) : Except ReadError (Number × Cursor) :=
  match c.rest with
  | [] => .error (c.failure .eofValue)
  | b :: r =>
    let c := c.advance b r
    if !isDigitByte b then .error (c.failure .invalidNumber)
    else if b = 0x30 then
      if isDigitByte c.peekOrNull then .error (c.peekFailure .invalidNumber)
      else readFraction positive 0 0 false c
    else
      let (c, sig, exp, overflowed) := c.intDigits (b.toNat - 0x30) 0 false
      readFraction positive sig exp overflowed c

def skipExponent (c : Cursor) : Except ReadError Cursor :=
  let c := c.eat
  let c := match c.peek? with
    | some 0x2B | some 0x2D => c.eat
    | _ => c
  match c.rest with
  | b :: r =>
    if isDigitByte b then .ok (c.skip 1 r).skipDigits
    else .error ((c.advance b r).failure .invalidNumber)
  | [] => .error (c.failure .invalidNumber)

def skipNumber (c : Cursor) : Except ReadError Cursor := do
  let c ← match c.rest with
    | b :: r =>
      let c := c.advance b r
      if b = 0x30 then
        if isDigitByte c.peekOrNull then .error (c.peekFailure .invalidNumber) else pure c
      else if isDigitByte b then pure c.skipDigits
      else .error (c.failure .invalidNumber)
    | [] => .error (c.failure .invalidNumber)
  match c.peek? with
  | some 0x2E =>
    let c1 := c.eat
    let c2 := c1.skipDigits
    if c2.pos = c1.pos then .error (c2.peekFailure .invalidNumber)
    else
      match c2.peek? with
      | some 0x65 | some 0x45 => skipExponent c2
      | _ => pure c2
  | some 0x65 | some 0x45 => skipExponent c
  | _ => pure c

def readWord (c : Cursor) : List UInt8 → Except ReadError Cursor
  | [] => .ok c
  | w :: ws =>
    match c.rest with
    | [] => .error (c.failure .eofValue)
    | b :: r =>
      let c := c.advance b r
      if b = w then readWord c ws else .error (c.failure .expectedIdent)

def skipStringAt (c : Cursor) : Except ReadError Cursor :=
  match skipString 0 c.rest with
  | .error (code, k) => .error (c.failureAfter k code)
  | .ok (k, r) => .ok (c.skip k r)

def skipScalar (c : Cursor) (b : UInt8) : Except ReadError (Option UInt8 × Cursor) :=
  let c1 := c.eat
  if b = 0x6E then (readWord c1 [0x75, 0x6C, 0x6C]).map (none, ·)
  else if b = 0x74 then (readWord c1 [0x72, 0x75, 0x65]).map (none, ·)
  else if b = 0x66 then (readWord c1 [0x61, 0x6C, 0x73, 0x65]).map (none, ·)
  else if b = 0x2D then (skipNumber c1).map (none, ·)
  else if isDigitByte b then (skipNumber c).map (none, ·)
  else if b = 0x22 then (skipStringAt c1).map (none, ·)
  else if b = 0x5B ∨ b = 0x7B then .ok (some b, c1)
  else .error (c.peekFailure .expectedValue)

/-- Closes brackets and takes commas after a value, as the skipping loop does: either the
whole value is done, or the loop goes on in `frame` with the rest of the stack. -/
def closeFrames (c : Cursor) (frame : UInt8) (stack : List UInt8) (acceptComma : Bool)
    (fuel : Nat) :
    Except ReadError (Option (UInt8 × List UInt8) × Cursor) :=
  match fuel with
  | 0 => .error (c.failure .eofValue)
  | fuel + 1 =>
    let c := c.skipBlank
    match c.peek? with
    | some 0x2C =>
      if acceptComma then .ok (some (frame, stack), c.eat)
      else .ok (some (frame, stack), c)
    | some b =>
      if (b = 0x5D ∧ frame = 0x5B) ∨ (b = 0x7D ∧ frame = 0x7B) then
        let c := c.eat
        match stack with
        | [] => .ok (none, c)
        | f :: st => closeFrames c f st true fuel
      else if acceptComma then
        .error (c.peekFailure (if frame = 0x5B then .expectedListEnd else .expectedObjectEnd))
      else .ok (some (frame, stack), c)
    | none => .error (c.peekFailure (if frame = 0x5B then .eofList else .eofObject))

def skipKey (c : Cursor) : Except ReadError Cursor := do
  let c := c.skipBlank
  let c ← match c.peek? with
    | some 0x22 => skipStringAt c.eat
    | some _ => .error (c.peekFailure .keyNotString)
    | none => .error (c.peekFailure .eofObject)
  let c := c.skipBlank
  match c.peek? with
  | some 0x3A => pure c.eat
  | some _ => .error (c.peekFailure .expectedColon)
  | none => .error (c.peekFailure .eofObject)

/-- The skipping loop: `enclosing` is the innermost open bracket and `stack` the others. -/
def skipLoop (c : Cursor) (enclosing : Option UInt8) (stack : List UInt8) (fuel : Nat) :
    Except ReadError Cursor :=
  match fuel with
  | 0 => .error (c.failure .eofValue)
  | fuel + 1 => do
    let c := c.skipBlank
    let b ← match c.peek? with
      | some b => pure b
      | none => .error (c.peekFailure .eofValue)
    let stack := if b = 0x5B ∨ b = 0x7B then (enclosing.toList ++ stack) else stack
    let enclosing := if b = 0x5B ∨ b = 0x7B then none else enclosing
    let (opened, c) ← skipScalar c b
    let inner : Option (Bool × UInt8 × List UInt8) := match opened, enclosing, stack with
      | some f, _, st => some (false, f, st)
      | none, some f, st => some (true, f, st)
      | none, none, f :: st => some (true, f, st)
      | none, none, [] => none
    match inner with
    | none => pure c
    | some (acceptComma, frame, stack) =>
      let (next, c) ← closeFrames c frame stack acceptComma (c.rest.length + 1)
      match next with
      | none => pure c
      | some (frame, stack) =>
        let c ← if frame = 0x7B then skipKey c else pure c
        skipLoop c (some frame) stack fuel

def skipValue (c : Cursor) : Except ReadError Cursor :=
  skipLoop c none [] (c.rest.length + 1)

end NamespaceBootstrap.Json
