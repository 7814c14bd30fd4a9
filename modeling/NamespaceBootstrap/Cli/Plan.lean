import NamespaceBootstrap.Cli.Commands
import NamespaceBootstrap.Namespace.List
import NamespaceBootstrap.Wire.Frame
import NamespaceBootstrap.Launch.InitConfig

/-!
What `exec` prepares before it starts the bootstrap.

The namespace kinds to join and to create are read from their names (blank names skipped),
the init configuration is built from the command and the environment entries, with the hostname
only when a fresh UTS namespace is asked for, and validated. The namespace list is formed for the
target process, and the request and payload frames are encoded. The first step that fails ends
the preparation with its reason.
-/

namespace NamespaceBootstrap.Cli

/-- Everything `exec` sends to the bootstrap. -/
structure Plan where
  join : List Kind
  fresh : Flags
  init : InitConfig
  list : PathList
  request : List UInt8
  payload : List UInt8

/-- Reads namespace kinds from their names, skipping blank ones. -/
def parseKinds (names : List String) : Except BootstrapError (List Kind) :=
  ((names.map Text.trim).filter (· ≠ "")).mapM Kind.parse

def initConfigOf (r : ExecRequest) (fresh : Flags) : Except String InitConfig :=
  let base : InitConfig := { args := r.command, env := r.env }
  let withHost : Except String InitConfig := match r.hostname with
    | some h =>
      if fresh.contains (.ofKind .uts) then .ok (base.withHostname h) else .error "--hostname requires --new uts"
    | none => .ok base
  withHost.bind fun c => (c.validate.mapError (·.message)).map fun () => c

/-- Prepares an `exec` request, or says why it cannot be done. -/
def prepare (r : ExecRequest) : Except String Plan := do
  let join ← (parseKinds r.join).mapError (·.chain)
  let fresh := Flags.ofKinds (← (parseKinds r.fresh).mapError (·.chain))
  let init ← initConfigOf r fresh
  let list ← (PathList.forProcess r.target join).mapError fun e =>
    "Cannot join namespaces of PID " ++ r.target.render ++ ": " ++ e.chain
  let request ← (Wire.encodeRequest list fresh).mapError (·.chain)
  let payload ← (Wire.encodePayload (Text.utf8 init.toJson)).mapError (·.chain)
  pure { join, fresh, init, list, request, payload }

end NamespaceBootstrap.Cli
