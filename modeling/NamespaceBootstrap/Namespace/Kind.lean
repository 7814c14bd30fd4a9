import NamespaceBootstrap.Text.Blank
import NamespaceBootstrap.Text.Quoted
import NamespaceBootstrap.Process.Id
import NamespaceBootstrap.Bootstrap.Error
import NamespaceBootstrap.Namespace.Path

/-!
The seven kinds of Linux namespace, in the order of their clone flag bits: mount, cgroup, UTS,
IPC, user, PID and network. Each has a short name (the name of its file under `/proc/<pid>/ns`)
and one clone flag bit. Names are read case-insensitively for ASCII, around white space, and
with the aliases `mount`, `network` and the `new…` forms of the flags.
-/

namespace NamespaceBootstrap

inductive Kind where
  | mnt | cgroup | uts | ipc | user | pid | net
  deriving DecidableEq, Repr

namespace Kind

/-- Every kind, in the order of their flag bits. -/
def all : List Kind := [.mnt, .cgroup, .uts, .ipc, .user, .pid, .net]

/-- The name of the kind's file under `/proc/<pid>/ns`. -/
def procName : Kind → String
  | .mnt => "mnt" | .cgroup => "cgroup" | .uts => "uts" | .ipc => "ipc" | .user => "user"
  | .pid => "pid" | .net => "net"

def flagBit : Kind → UInt32
  | .mnt => 0x20000 | .cgroup => 0x2000000 | .uts => 0x4000000 | .ipc => 0x8000000
  | .user => 0x10000000 | .pid => 0x20000000 | .net => 0x40000000

def pathFor (k : Kind) (p : ProcessId) : String :=
  "/proc/" ++ p.render ++ "/ns/" ++ k.procName

/-- The kind a lowercase name stands for, aliases included. -/
def ofName? : String → Option Kind
  | "mnt" | "mount" | "newns" => some .mnt
  | "cgroup" | "newcgroup" => some .cgroup
  | "uts" | "newuts" => some .uts
  | "ipc" | "newipc" => some .ipc
  | "user" | "newuser" => some .user
  | "pid" | "newpid" => some .pid
  | "net" | "network" | "newnet" => some .net
  | _ => none

/-- A name trimmed of white space and with ASCII capitals lowered. -/
def normalName (s : String) : String :=
  String.ofList ((Text.trimChars s.toList).map Char.toLower)

/-- The kind a name stands for, or a configuration failure quoting the normalised name. -/
def parse (s : String) : Except BootstrapError Kind :=
  let n := normalName s
  match ofName? n with
  | some k => .ok k
  | none => .error (.config s!"unknown namespace kind {Text.quote n}")

/-- The kind whose file the path's last name is. -/
def ofPath? (path : String) : Option Kind :=
  (Namespace.fileName? path).bind fun n => all.find? (·.procName == n)

theorem ofName_procName (k : Kind) : ofName? k.procName = some k := by
  cases k <;> rfl

theorem mem_all (k : Kind) : k ∈ all := by
  cases k <;> simp [all]

end Kind

end NamespaceBootstrap
