import NamespaceBootstrap.Cli.Parse
import NamespaceBootstrap.Process.Id

/-!
The program's command line: `capsule [-v] <COMMAND>`.

* `exec --target <TARGET> [--join …] [--new …] [--hostname …] [-e KEY=VALUE]… -- <COMMAND>…`
  runs a command inside the namespaces of another process. `--join` and `--new` take
  comma-separated namespace kinds and may be repeated; `--join` defaults to
  `ipc,uts,net,pid,mnt`.
* `namespaces [--pid <PID>]` shows the namespaces of a process.
* `init` (hidden) finishes setting up a child cloned by `exec`.

Process ids are checked as they are read: a text that is not a positive decimal number is
refused with the reason the process id parser gives.
-/

namespace NamespaceBootstrap.Cli

def processIdCheck (s : String) : Option String :=
  match ProcessId.parse s with
  | .ok _ => none
  | .error e => some e.message

def verboseParam : Param :=
  { id := "verbose", short := some 'v', long := some "verbose", help := "Enable verbose logging",
    action := .flag, shared := true, order := 0 }

def targetParam : Param :=
  { id := "target", short := some 't', long := some "target", valueName := "TARGET",
    help := "Process whose namespaces are joined", action := .single, required := true, order := 0,
    check := processIdCheck }

def joinParam : Param :=
  { id := "join", long := some "join", valueName := "JOIN",
    help := "Namespaces to join (mnt is always joined last)", action := .many,
    delimiter := some ',', default := some "ipc,uts,net,pid,mnt", order := 1 }

def newParam : Param :=
  { id := "new_namespaces", long := some "new", valueName := "NEW_NAMESPACES",
    help := "Namespaces the command gets fresh copies of", action := .many, delimiter := some ',',
    order := 2 }

def hostnameParam : Param :=
  { id := "hostname", long := some "hostname", valueName := "HOSTNAME",
    help := "Hostname to set (requires --new uts)", action := .single, order := 3 }

def envParam : Param :=
  { id := "env", short := some 'e', long := some "env", valueName := "ENV",
    help := "Extra environment variables (KEY=VALUE)", action := .many, order := 4 }

def commandParam : Param :=
  { id := "command", valueName := "COMMAND", help := "Command to run", action := .many,
    required := true, positional := true, last := true }

def pidParam : Param :=
  { id := "pid", short := some 'p', long := some "pid", valueName := "PID",
    help := "Process ID (default: current process)", action := .single, order := 0,
    check := processIdCheck }

def execLeaf : Leaf :=
  { name := "exec", about := "Run a command inside another process's namespaces",
    params := [targetParam, joinParam, newParam, hostnameParam, envParam, commandParam] }

def initLeaf : Leaf :=
  { name := "init", about := "Finish setting up a cloned child (started by `exec`, not by hand)",
    params := [], hidden := true }

def namespacesLeaf : Leaf :=
  { name := "namespaces", about := "Show namespace information", params := [pidParam] }

def program : Program :=
  { name := "capsule", about := "Capsule namespace runner", version := "0.1.0",
    params := [verboseParam], subcommands := [execLeaf, initLeaf, namespacesLeaf] }

structure ExecRequest where
  target : ProcessId
  join : List String
  fresh : List String
  hostname : Option String
  env : List String
  command : List String
  deriving Repr

inductive Command where
  | exec (r : ExecRequest)
  | init
  | namespaces (pid : Option ProcessId)
  deriving Repr

structure Invocation where
  verbose : Bool
  command : Command
  deriving Repr

def valuesOf (gs : List Given) (id : String) : List String :=
  match gs.find? (·.id = id) with
  | some g => g.values
  | none => []

def isGiven (gs : List Given) (id : String) : Bool :=
  gs.any fun g => g.id = id && g.explicit

def readProcessId (s : Scope) (p : Param) (v : String) : Except Failure ProcessId :=
  match ProcessId.parse v with
  | .ok pid => .ok pid
  | .error e => .error (Failure.refusedValue s p v e.message)

def commandOf (name : String) (gs : List Given) : Except Failure Command :=
  match program.leaf? name with
  | none => .error (Failure.unknownSubcommand program.scope name .none)
  | some leaf =>
    let s := program.leafScope leaf
    if name = "exec" then do
      let target ← readProcessId s targetParam ((valuesOf gs "target").headD "")
      let request : ExecRequest :=
        { target, join := valuesOf gs "join", fresh := valuesOf gs "new_namespaces",
          hostname := (valuesOf gs "hostname").head?, env := valuesOf gs "env",
          command := valuesOf gs "command" }
      pure (.exec request)
    else if name = "namespaces" then
      match (valuesOf gs "pid").head? with
      | some v => (Command.namespaces ∘ some) <$> readProcessId s pidParam v
      | none => pure (.namespaces none)
    else pure .init

def readCommandLine (args : List String) : Except Failure Invocation := do
  let parsed ← parse program args
  match parsed.sub with
  | none => throw (Failure.noSubcommand program.scope)
  | some (name, gs) =>
    let command ← commandOf name gs
    pure { verbose := isGiven parsed.root "verbose" || isGiven gs "verbose", command }

end NamespaceBootstrap.Cli
