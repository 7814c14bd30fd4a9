import NamespaceBootstrap.Host.System
import NamespaceBootstrap.Bootstrap.Error
import NamespaceBootstrap.Process.Id

/-!
Which namespaces a process belongs to, and the report the `namespaces` command prints.

The report of a process lists the identity of each namespace kind it exposes, in kind order;
reading a process that does not exist fails with the reason. The command prints a header, the
report, whether the process shares every namespace with process 1 or which ones it does not,
and, for the running process, the machine's name.
-/

namespace NamespaceBootstrap.Host

structure Report where
  ids : List (Kind × String)
  deriving DecidableEq, Repr

namespace Report

def forProcess (h : Host) (pid : ProcessId) : Except BootstrapError Report :=
  match h.namespacesOf pid.toInt with
  | .ok ids => .ok ⟨ids⟩
  | .error e => .error (.config s!"Failed to read namespaces of process {pid.render}: {e.osText}")

def get (r : Report) (k : Kind) : Option String := r.ids.lookup k

/-- The kinds in which the other process is in a different namespace. -/
def differsFrom (r other : Report) : List Kind :=
  Kind.all.filter fun k => match r.get k, other.get k with
    | some a, some b => a ≠ b
    | _, _ => false

/-- The label of a kind, padded to eight columns. -/
def label (k : Kind) : String :=
  let l := k.procName.toUpper ++ ":"
  l ++ String.ofList (List.replicate (8 - l.length) ' ')

def render (r : Report) : String :=
  "Namespace Info:\n" ++ String.join (r.ids.map fun (k, id) => "  " ++ label k ++ id ++ "\n")

end Report

/-- The output of the `namespaces` command for `pid` (the running process when none is given),
and its failure, if it fails. The header is printed before the process is read. -/
def namespacesReport (h : Host) (pid : Option ProcessId) : String × Except String Unit :=
  let target := pid.getD ⟨Int32.ofInt h.current⟩
  let header := "\n🔒 Namespace Information for PID " ++ target.render ++ "\n" ++
    String.ofList (List.replicate 60 '-') ++ "\n"
  match Report.forProcess h target with
  | .error e => (header, .error ("Failed to get namespace information: " ++ e.chain))
  | .ok info =>
    let isolation := match Report.forProcess h ⟨1⟩ with
      | .ok init =>
        match info.differsFrom init with
        | [] => "\n⚠️  Process is in host namespaces\n"
        | ks => "\n✅ Process is isolated in: " ++ ", ".intercalate (ks.map Kind.procName) ++ "\n"
      | .error e => "\n❌ Failed to check isolation: " ++ e.message ++ "\n"
    let name :=
      if (info.get .uts).isSome && pid.isNone then "Hostname: " ++ h.hostname ++ "\n" else ""
    (header ++ info.render ++ isolation ++ name, .ok ())

end NamespaceBootstrap.Host
