import NamespaceBootstrap.Json.Lexeme
import NamespaceBootstrap.Launch.InitConfig

/-!
Reading an init configuration from the payload's JSON bytes.

The configuration is an object with the fields `args` (an array of strings, required), `env`
(an array of strings) and `hostname` (a string or `null`), other fields skipped; or an array of
those three in that order, the last two optional. A field may appear once. A value of the
wrong type is named in the failure (`invalid type: null, expected a sequence`), and such data
failures are placed where the reader stood after the enclosing array or object was closed.
After the value only white space may follow. A configuration read this way is then validated;
reading and validating is written over any codec, this reader being one.
-/

namespace NamespaceBootstrap.Json

namespace Reader

def scan {α : Type} (f : Cursor → Except ReadError (α × Cursor)) : Reader α := fun c =>
  match f c with
  | .ok (a, c) => .ok a c
  | .error e => .error e c

def skipWith (f : Cursor → Except ReadError Cursor) : Reader Unit :=
  scan fun c => (f c).map fun c => ((), c)

end Reader

inductive Unexpected where
  | null
  | bool (b : Bool)
  | number (n : Number)
  | string (s : String)
  | seq
  | map

def Unexpected.describe : Unexpected → String
  | .null => "null"
  | .bool b => s!"boolean `{b}`"
  | .number n => n.describe
  | .string s => "string " ++ Text.quote s
  | .seq => "sequence"
  | .map => "map"

def invalidType (u : Unexpected) (expected : String) : ReadError :=
  mismatch s!"invalid type: {u.describe}, expected {expected}"

open Reader in
/-- Fails naming the value at the cursor, which is not what `expected` says. -/
def unexpectedHere {α : Type} (expected : String) : Reader α := fun c =>
  let named (u : Unexpected) (c : Cursor) : EStateM.Result ReadError Cursor α :=
    .error { invalidType u expected with line := c.place.1, column := c.place.2 } c
  match c.peek? with
  | some 0x6E =>
    match readWord c.eat [0x75, 0x6C, 0x6C] with
    | .ok c => named .null c
    | .error e => .error e c
  | some 0x74 =>
    match readWord c.eat [0x72, 0x75, 0x65] with
    | .ok c => named (.bool true) c
    | .error e => .error e c
  | some 0x66 =>
    match readWord c.eat [0x61, 0x6C, 0x73, 0x65] with
    | .ok c => named (.bool false) c
    | .error e => .error e c
  | some 0x2D =>
    match readNumber false c.eat with
    | .ok (n, c) => named (.number n) c
    | .error e => .error e c
  | some 0x22 =>
    match Reader.string c.eat with
    | .ok s c => named (.string s) c
    | .error e c => .error e c
  | some 0x5B => named .seq c
  | some 0x7B => named .map c
  | some b =>
    if isDigitByte b then
      match readNumber true c with
      | .ok (n, c) => named (.number n) c
      | .error e => .error e c
    else .error (c.peekFailure .expectedValue) c
  | none => .error (c.peekFailure .expectedValue) c

namespace Reader

def nextByte : Reader UInt8 := fun c =>
  let c := c.skipBlank
  match c.peek? with
  | some b => .ok b c
  | none => .error (c.peekFailure .eofValue) c

def stringValue : Reader String := do
  let b ← nextByte
  if b = 0x22 then eat; Reader.string else unexpectedHere "a string"

def optionalString : Reader (Option String) := do
  match ← peekBlank with
  | some 0x6E => eat; skipWith (readWord · [0x75, 0x6C, 0x6C]); pure none
  | _ => some <$> stringValue

/-- The position of the next element of an array: `none` at its closing bracket. -/
def nextElement (first : Bool) : Reader (Option UInt8) := do
  match ← peekBlank with
  | some 0x5D => pure none
  | some 0x2C =>
    if first then pure (some 0x2C)
    else
      eat
      match ← peekBlank with
      | some 0x5D => failPeek .trailingComma
      | some b => pure (some b)
      | none => failPeek .eofValue
  | some b => if first then pure (some b) else failPeek .expectedListEnd
  | none => failPeek .eofList

def stringItems (acc : List String) (first : Bool) : Nat → Reader (List String)
  | 0 => pure acc.reverse
  | fuel + 1 => do
    match ← nextElement first with
    | none => pure acc.reverse
    | some _ => stringItems ((← stringValue) :: acc) false fuel

def endArray : Reader Unit := do
  match ← peekBlank with
  | some 0x5D => eat
  | some 0x2C =>
    eat
    match ← peekBlank with
    | some 0x5D => failPeek .trailingComma
    | _ => failPeek .trailingCharacters
  | some _ => failPeek .trailingCharacters
  | none => failPeek .eofList

def endObject : Reader Unit := do
  match ← peekBlank with
  | some 0x7D => eat
  | some 0x2C => failPeek .trailingComma
  | some _ => failPeek .trailingCharacters
  | none => failPeek .eofObject

def strings : Reader (List String) := do
  let b ← nextByte
  if b = 0x5B then
    eat
    placed (thenClose (fun c => stringItems [] true (c.rest.length + 1) c) endArray)
  else placed (unexpectedHere "a sequence")

/-- The key of the next field of an object: `none` at its closing brace. -/
def nextKey (first : Bool) : Reader (Option String) := do
  let b ← match ← peekBlank with
    | some 0x7D => return none
    | some 0x2C =>
      if first then pure (some 0x2C)
      else do eat; peekBlank
    | some b => if first then pure (some b) else failPeek .expectedObjectEnd
    | none => failPeek .eofObject
  match b with
  | some 0x22 => eat; some <$> Reader.string
  | some 0x7D => failPeek .trailingComma
  | some _ => failPeek .keyNotString
  | none => failPeek .eofValue

def colon : Reader Unit := do
  match ← peekBlank with
  | some 0x3A => eat
  | some _ => failPeek .expectedColon
  | none => failPeek .eofObject

structure Fields where
  args : Option (List String) := none
  env : Option (List String) := none
  hostname : Option (Option String) := none

def fields (acc : Fields) (first : Bool) : Nat → Reader Fields
  | 0 => pure acc
  | fuel + 1 => do
    match ← nextKey first with
    | none => pure acc
    | some "args" =>
      if acc.args.isSome then failData "duplicate field `args`"
      else do colon; let v ← strings; fields { acc with args := some v } false fuel
    | some "env" =>
      if acc.env.isSome then failData "duplicate field `env`"
      else do colon; let v ← strings; fields { acc with env := some v } false fuel
    | some "hostname" =>
      if acc.hostname.isSome then failData "duplicate field `hostname`"
      else do colon; let v ← optionalString; fields { acc with hostname := some v } false fuel
    | some _ => do colon; skipWith skipValue; fields acc false fuel

/-- The configuration of the fields, which must include `args`. -/
def ofFields (f : Fields) : Reader InitConfig :=
  match f.args with
  | none => failData "missing field `args`"
  | some args => pure { args, env := f.env.getD [], hostname := f.hostname.getD none }

def shortArray (n : Nat) : ReadError :=
  mismatch s!"invalid length {n}, expected struct InitConfig with 3 elements"

def positional : Reader InitConfig := do
  match ← nextElement true with
  | none => fun c => .error (shortArray 0) c
  | some _ =>
    let args ← strings
    match ← nextElement false with
    | none => pure { args }
    | some _ =>
      let env ← strings
      match ← nextElement false with
      | none => pure { args, env }
      | some _ =>
        let hostname ← optionalString
        pure { args, env, hostname }

def initConfig : Reader InitConfig := do
  let b ← nextByte
  if b = 0x5B then
    eat
    placed (thenClose positional endArray)
  else if b = 0x7B then
    eat
    placed (thenClose (fun c => (fields {} true (c.rest.length + 1) >>= ofFields) c) endObject)
  else placed (unexpectedHere "struct InitConfig")

def atEnd : Reader Unit := do
  match ← peekBlank with
  | some _ => failPeek .trailingCharacters
  | none => pure ()

end Reader

end NamespaceBootstrap.Json

namespace NamespaceBootstrap.InitConfig

/-- A JSON codec for configurations: the text it writes, and what it reads from bytes. -/
structure Codec where
  write : InitConfig → String
  read : List UInt8 → Except Json.ReadError InitConfig

/-- The configuration in JSON bytes as a codec reads it, then validated. -/
def ofJsonWith (codec : Codec) (bytes : List UInt8) : Except ConfigError InitConfig :=
  match codec.read bytes with
  | .ok c => c.validate.map fun () => c
  | .error e => .error (.json e)

/-- The codec of the payload: `toJson` writes, and the reader above reads a configuration
followed by nothing but white space. -/
def jsonCodec : Codec where
  write := toJson
  read bytes :=
    let whole := do let v ← Json.Reader.initConfig; Json.Reader.atEnd; pure v
    match whole.run (Json.Cursor.start bytes) with
    | .ok c _ => .ok c
    | .error e _ => .error e

def ofJson (bytes : List UInt8) : Except ConfigError InitConfig := ofJsonWith jsonCodec bytes

end NamespaceBootstrap.InitConfig
