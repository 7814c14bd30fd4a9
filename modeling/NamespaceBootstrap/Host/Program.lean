import NamespaceBootstrap.Host.Bootstrap
import NamespaceBootstrap.Host.Init
import NamespaceBootstrap.Host.Report
import NamespaceBootstrap.Cli.Plan

/-!
The program run on the host: its entry point and the dispatch of its subcommands.

The entry point reads the command line (a mistake, or a request for help or the version, ends it
there), then runs the bootstrap when the trigger variable is set. A process that was not asked to
bootstrap runs its subcommand: `exec` prepares the request and starts the bootstrap as a second
copy of the program with the channel in its trigger variable; `namespaces` prints its report;
`init` refuses to run outside a cloned child. A failing subcommand prints `❌ Error: ` and the
reason on standard error and exits with status 1.
-/

namespace NamespaceBootstrap.Host

/-- What a subcommand printed and how it ended: a status, or the reason it failed. -/
structure Dispatched where
  stdout : String := ""
  stderr : String := ""
  result : Except String Int
  deriving Repr

/-- The status of a program run with a command that runs, taken to succeed. -/
def commandStatus : Int := 0

/-- The reason `exec` gives when the bootstrap ended before reporting a child: the channel was
reset if the bootstrap left bytes of the request unread, or else it ended early. -/
def bootstrapGone (leftUnread : Bool) : String :=
  "Bootstrap process failed (exit status: 1): " ++
    "Bootstrap closed the channel before reporting a child: " ++
    (if leftUnread then Os.Errno.connreset.osText else "early eof")

/-- `exec` on the host. The bootstrap it starts reads the request from the channel; the child it
clones, if it clones one, runs `init` with the payload. -/
def execOnHost (h : Host) (r : Cli.ExecRequest) (inherited : List (String × String)) :
    Except String Int := do
  let plan ← Cli.prepare r
  let (ending, s) := runOnHost h {} (Wire.Stream.ofInput plan.request) fun _ => 0
  match ending with
  | .failed _ => throw (bootstrapGone !s.unread.isEmpty)
  | .notRequested => throw (bootstrapGone false)
  | .parent _ _ =>
    let child := runInit h (some .asChild) (some "3")
      (fun _ => some (Wire.Stream.ofInput plan.payload)) inherited
    match child.ending with
    | .failed _ => pure 1
    | .exited status => pure status
    | .replaced => pure commandStatus

/-- Runs a subcommand in a process resumed as `resumed` (or not resumed at all). -/
def dispatch (h : Host) (c : Cli.Command) (resumed : Option Tag)
    (inherited : List (String × String)) : Dispatched :=
  match c with
  | .exec r => { result := execOnHost h r inherited }
  | .namespaces pid =>
    let (out, r) := namespacesReport h pid
    { stdout := out, result := r.map fun () => 0 }
  | .init =>
    let run := runInit h resumed (inherited.lookup ({} : Settings).envVar) (fun _ => none) inherited
    match run.ending with
    | .failed reason => { stderr := run.stderr, result := .error reason }
    | .exited status => { stderr := run.stderr, result := .ok status }
    | .replaced => { stderr := run.stderr, result := .ok commandStatus }

structure Exit where
  status : Int
  stdout : String := ""
  stderr : String := ""
  deriving Repr

def Dispatched.exit (d : Dispatched) : Exit :=
  match d.result with
  | .ok status => { status, stdout := d.stdout, stderr := d.stderr }
  | .error reason =>
    { status := 1, stdout := d.stdout, stderr := d.stderr ++ "❌ Error: " ++ reason ++ "\n" }

/-- A run of the program: its exit, and the configuration channel after the bootstrap, if the
bootstrap opened one. -/
structure ProgramRun where
  exit : Exit
  channel : Option Wire.Stream := none
  deriving Repr

/-- Runs the program with the command line `args` (without the program's name), the
environment `env`, and the streams of its open descriptors. -/
def runProgram (h : Host) (args : List String) (env : List (String × String))
    (open? : Int → Option Wire.Stream) : ProgramRun :=
  match Cli.readCommandLine args with
  | .error f =>
    { exit := if f.toStdout then { status := 0, stdout := f.text }
        else { status := 2, stderr := f.text } }
  | .ok inv =>
    let settings := Settings.fromEnv fun v => env.lookup v
    match enterOnHost h settings (env.lookup settings.envVar) open? fun _ => 0 with
    | (.failed e, s) => { exit := { status := e.exitCode }, channel := s }
    | (.parent _ status, s) => { exit := { status }, channel := s }
    | (.notRequested, _) => { exit := (dispatch h inv.command none env).exit }

end NamespaceBootstrap.Host
