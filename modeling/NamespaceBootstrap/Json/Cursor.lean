import NamespaceBootstrap.Json.Error

/-!
A place in JSON input: the bytes still to read, how many were read, and the line and the
start of the line of the next byte. A failure is placed either at the reader's place (the
column after the last byte read) or at the next byte (one column further, or the start of the
next line if that byte is a newline); at the end of the input both are the same.
-/

namespace NamespaceBootstrap.Json

structure Cursor where
  rest : List UInt8
  pos : Nat := 0
  line : Nat := 1
  lineStart : Nat := 0
  deriving DecidableEq, Repr

inductive Code where
  | eofList | eofObject | eofString | eofValue | expectedColon | expectedListEnd
  | expectedObjectEnd | expectedIdent | expectedValue | invalidEscape | invalidNumber
  | outOfRange | invalidCodePoint | controlChar | keyNotString | loneSurrogate | trailingComma
  | trailingCharacters | hexEscapeEnd
  deriving DecidableEq, Repr

def Code.text : Code → String
  | .eofList => "EOF while parsing a list"
  | .eofObject => "EOF while parsing an object"
  | .eofString => "EOF while parsing a string"
  | .eofValue => "EOF while parsing a value"
  | .expectedColon => "expected `:`"
  | .expectedListEnd => "expected `,` or `]`"
  | .expectedObjectEnd => "expected `,` or `\x7d`"
  | .expectedIdent => "expected ident"
  | .expectedValue => "expected value"
  | .invalidEscape => "invalid escape"
  | .invalidNumber => "invalid number"
  | .outOfRange => "number out of range"
  | .invalidCodePoint => "invalid unicode code point"
  | .controlChar => "control character (\\u0000-\\u001F) found while parsing a string"
  | .keyNotString => "key must be a string"
  | .loneSurrogate => "lone leading surrogate in hex escape"
  | .trailingComma => "trailing comma"
  | .trailingCharacters => "trailing characters"
  | .hexEscapeEnd => "unexpected end of hex escape"

def Code.category : Code → Category
  | .eofList | .eofObject | .eofString | .eofValue => .truncated
  | _ => .malformed

namespace Cursor

def start (input : List UInt8) : Cursor := { rest := input }

def place (c : Cursor) : Nat × Nat := (c.line, c.pos - c.lineStart)

/-- The line and column after the next byte, or `place` at the end of the input. -/
def peekPlace (c : Cursor) : Nat × Nat :=
  match c.rest with
  | [] => c.place
  | b :: _ => if b = 10 then (c.line + 1, 0) else (c.line, c.pos + 1 - c.lineStart)

def failure (c : Cursor) (code : Code) : ReadError :=
  { category := code.category, text := code.text, line := c.place.1, column := c.place.2 }

def peekFailure (c : Cursor) (code : Code) : ReadError :=
  { category := code.category, text := code.text, line := c.peekPlace.1,
    column := c.peekPlace.2 }

def advance (c : Cursor) (b : UInt8) (r : List UInt8) : Cursor :=
  if b = 10 then { rest := r, pos := c.pos + 1, line := c.line + 1, lineStart := c.pos + 1 }
  else { c with rest := r, pos := c.pos + 1 }

def skip (c : Cursor) (k : Nat) (r : List UInt8) : Cursor :=
  { c with rest := r, pos := c.pos + k }

def peek? (c : Cursor) : Option UInt8 := c.rest.head?

def eat (c : Cursor) : Cursor :=
  match c.rest with
  | [] => c
  | b :: r => c.advance b r

def advanceBy (c : Cursor) : Nat → Cursor
  | 0 => c
  | k + 1 => c.eat.advanceBy k

/-- A failure after the next `k` bytes, lines counted. -/
def failureAfter (c : Cursor) (k : Nat) (code : Code) : ReadError :=
  (c.advanceBy k).failure code

def isBlankByte (b : UInt8) : Bool := b = 0x20 || b = 0x0A || b = 0x09 || b = 0x0D

def skipBlank (c : Cursor) : Cursor :=
  match _h : c.rest with
  | [] => c
  | b :: r => if isBlankByte b then (c.advance b r).skipBlank else c
termination_by c.rest.length
decreasing_by
  simp only [advance]
  split <;> simp [_h]

end Cursor

def mismatch (text : String) : ReadError :=
  { category := .mismatch, text := text, line := 0, column := 0 }

abbrev Reader := EStateM ReadError Cursor

namespace Reader

def fail {α : Type} (code : Code) : Reader α := fun c => .error (c.failure code) c

def failPeek {α : Type} (code : Code) : Reader α := fun c => .error (c.peekFailure code) c

def failData {α : Type} (text : String) : Reader α := fun c => .error (mismatch text) c

/-- Places a data failure of `r` at the reader's place when `r` fails. -/
def placed {α : Type} (r : Reader α) : Reader α := fun c =>
  match r c with
  | .error e c =>
    if e.line = 0 then .error { e with line := c.place.1, column := c.place.2 } c else .error e c
  | ok => ok

/-- Runs `body`, then `closer` whatever `body` did; the first failure wins. -/
def thenClose {α : Type} (body : Reader α) (closer : Reader Unit) : Reader α := fun c =>
  match body c with
  | .ok a c =>
    match closer c with
    | .ok () c => .ok a c
    | .error e c => .error e c
  | .error e c =>
    match closer c with
    | .ok () c => .error e c
    | .error _ c => .error e c

def peekBlank : Reader (Option UInt8) := fun c =>
  let c := c.skipBlank
  .ok c.peek? c

def eat : Reader Unit := fun c => .ok () c.eat

end Reader

end NamespaceBootstrap.Json
