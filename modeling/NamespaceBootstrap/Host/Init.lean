import NamespaceBootstrap.Host.System
import NamespaceBootstrap.Bootstrap.Machine
import NamespaceBootstrap.Bootstrap.Settings
import NamespaceBootstrap.Launch.Payload
import NamespaceBootstrap.Launch.Environment

/-!
The `init` command: what the cloned child turns into.

It only runs in a child the bootstrap resumed as the child. It reads the trigger variable for
the descriptor of the configuration channel, reads one blob from it (the init configuration as
JSON), closes the channel, and reads and validates the configuration. It then sets the hostname
if one is given, and replaces itself with the command, in the inherited environment without the
bootstrap's variables, overridden by the configuration's entries. An argument or environment
entry holding a NUL, or a command that cannot be run, ends it with status 127 and a line on
standard error.
-/

namespace NamespaceBootstrap.Host

/-- How `init` ends: it failed, and the text says why (main prints it after `❌ Error: `); it
returned a status after printing on standard error; or the command replaced the process. -/
inductive InitEnd where
  | failed (reason : String)
  | exited (status : Int)
  | replaced
  deriving DecidableEq, Repr

/-- What `init` did: how it ended, what it printed on standard error, and whether it closed the
configuration channel. -/
structure InitRun where
  ending : InitEnd
  stderr : String := ""
  channelClosed : Bool := false
  deriving Repr

def execFailedStatus : Int := 127

def notResumedReason : String := "`capsule init` only runs inside a child cloned by `capsule exec`"

/-- The position of the first NUL of a text, counted in bytes of its UTF-8 encoding, which is
how the text reaches the kernel. -/
def nulPosition (s : String) : Option Nat := (Text.utf8 s).findIdx? (· = 0)

/-- The first NUL among texts: its position in the first text that holds one. -/
def firstNul : List String → Option Nat
  | [] => none
  | s :: ss => match nulPosition s with
    | some i => some i
    | none => firstNul ss

/-- `init` returning the status of a command that could not be run, after printing `line`. -/
def execFailed (line : String) : InitRun :=
  { ending := .exited execFailedStatus, stderr := line, channelClosed := true }

/-- Runs the command of a configuration: refuses NULs, then runs the program. -/
def launch (h : Host) (c : InitConfig) (inherited : List (String × String)) : InitRun :=
  let env := Environment.build inherited c.env
  let nul := match firstNul c.args with
    | some i => some i
    | none => firstNul env
  match nul with
  | some i => execFailed s!"❌ Invalid argument: nul byte found in provided data at position: {i}\n"
  | none =>
    match c.args with
    | [] => execFailed "❌ Command cannot be empty\n"
    | program :: _ =>
      match h.execFailure program with
      | none => { ending := .replaced, channelClosed := true }
      | some e => execFailed ("❌ Failed to execute " ++ program ++ ": Err(" ++ e.name ++ ")\n")

/-- Runs `init` in a process resumed as `resumed`, with the trigger variable's value, the
streams of its open descriptors, and its inherited environment. -/
def runInit (h : Host) (resumed : Option Tag) (trigger : Option String)
    (open? : Int → Option Wire.Stream) (inherited : List (String × String)) : InitRun :=
  let fail (reason : String) (closed : Bool) : InitRun :=
    { ending := .failed reason, channelClosed := closed }
  if resumed ≠ some .asChild then fail notResumedReason false
  else
    match trigger with
    | none => fail (({} : Settings).envVar ++ " is not set: environment variable not found") false
    | some text =>
      match Machine.parseDescriptor text with
      | .error e => fail e.chain false
      | .ok fd =>
        match open? fd with
        | none =>
          let reason := s!"config pipe {fd} is not open: " ++ Os.Errno.badf.osText
          fail (BootstrapError.config reason).chain false
        | some s =>
          match s.readBlob "reading init config" with
          | (.error e, _) => fail e.chain false
          | (.ok payload, _) =>
            match InitConfig.ofJson payload with
            | .error e => fail ("Invalid init config: " ++ e.chain) true
            | .ok c =>
              let named : Except String Unit := match c.hostname with
                | some n => (h.setHostname n).mapError fun e =>
                    "Failed to set hostname " ++ Text.quote n ++ ": " ++ e.brief
                | none => .ok ()
              match named with
              | .error reason => fail reason true
              | .ok () => launch h c inherited

end NamespaceBootstrap.Host
