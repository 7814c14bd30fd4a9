import NamespaceBootstrap.Text.Blank

/-!
The bootstrap's settings: the environment variable that names the channel's descriptor, what
happens to the descriptor when the bootstrap is done with it, the child's stack size and
whether joins check the namespace's kind.
-/

namespace NamespaceBootstrap

/-- What happens to the channel's descriptor when the bootstrap is done with it. -/
inductive Disposition where
  | keep
  | close
  deriving DecidableEq, Repr

def Disposition.name : Disposition → String
  | .keep => "Keep"
  | .close => "Close"

structure Settings where
  envVar : String := "_LIBCAPSULE_CONFIG_PIPE"
  disposition : Disposition := .keep
  stackSize : Nat := 8388608
  checkKinds : Bool := false
  deriving DecidableEq, Repr

namespace Settings

def closeVar : String := "_LIBCAPSULE_CLOSE_CONFIG_PIPE"

/-- Whether the value of the close variable asks for closing. -/
def asksClose (value : String) : Bool :=
  match Text.trim value with
  | "1" | "true" | "yes" => true
  | _ => false

/-- The settings of an environment, given how it answers for a variable. -/
def fromEnv (lookup : String → Option String) : Settings :=
  match lookup closeVar with
  | some v => if asksClose v then { disposition := .close } else {}
  | none => {}

def isDefault (s : Settings) : Bool := s == {}

end Settings

end NamespaceBootstrap
