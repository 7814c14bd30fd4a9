import NamespaceBootstrap.Config.Error
import NamespaceBootstrap.Text.Quoted
import NamespaceBootstrap.Json.Writer

/-!
The init configuration: what the cloned child runs (the command and its arguments), the
environment entries it adds, and the hostname it sets. It is valid when the command is not
empty, the program name is not empty, and every environment entry has a key before an `=`.
Its JSON form lists `args`, `env` and, when set, `hostname`, in that order.
-/

namespace NamespaceBootstrap

/-- What the cloned child runs. -/
structure InitConfig where
  args : List String
  env : List String := []
  hostname : Option String := none
  deriving DecidableEq, Repr

namespace InitConfig

def withEnv (c : InitConfig) (key value : String) : InitConfig :=
  { c with env := c.env ++ [key ++ "=" ++ value] }

def withHostname (c : InitConfig) (h : String) : InitConfig :=
  { c with hostname := some h }

/-- Whether an environment entry lacks a key: no `=` at all, or `=` first. -/
def badEntry (e : String) : Bool :=
  !e.toList.contains '=' || e.toList.head? == some '='

def validate (c : InitConfig) : Except ConfigError Unit :=
  match c.args with
  | [] => .error (.invalid "Command cannot be empty")
  | prog :: _ =>
    if prog = "" then .error (.invalid "Program name cannot be empty")
    else
      match c.env.find? badEntry with
      | some bad => .error (.invalid s!"Environment entry must be KEY=VALUE, got {Text.quote bad}")
      | none => .ok ()

def toJson (c : InitConfig) : String :=
  let host := match c.hostname with
    | some h => ",\"hostname\":" ++ Json.writeString h
    | none => ""
  "\x7b\"args\":" ++ Json.writeStrings c.args ++ ",\"env\":" ++ Json.writeStrings c.env ++ host ++
    "\x7d"

end InitConfig

end NamespaceBootstrap
