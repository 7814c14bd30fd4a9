import NamespaceBootstrap.Namespace.Flags
import NamespaceBootstrap.Os.Errno

/-!
The host the program runs on, as far as its behaviour depends on it.

The host is an ordinary Linux machine seen from a process without administrative
capabilities: every process it lists shares the machine's initial namespaces, the process may
create a user namespace (and, inside it, namespaces of every other kind) but may not join an
existing namespace or create one otherwise, and it may not rename the machine.

Paths are looked up in a small file tree: `/proc/<pid>/ns/<name>` for the listed processes
(`self` and `thread-self` are the running process), the directories and files of the machine's
file system, which the host is given (`FileSystem.standard` being the machine the program is
described on), and the host's links to namespace files with the directories holding them.
Whatever else is named does not exist. A path is walked the way the kernel walks it: `.` stays where it is,
`..` goes up, and every place passed on the way has to be a directory.
-/

namespace NamespaceBootstrap

inductive Host.NsType where
  | kind (k : Kind)
  | time
  deriving DecidableEq, Repr

/-- What a path names; `blocked` is a path going on past something that is not a directory. -/
inductive Host.Node where
  | missing
  | directory
  | file (executable : Bool)
  | nsFile (t : Host.NsType)
  | blocked
  deriving DecidableEq, Repr

/-- The file system of a machine outside `/proc`: its directories, each with the directories
below it; its links to directories, by the components of the link and of its target; its files
outside `/usr/bin`, and whether they can be run; and the programs on the search path, which live
in `/usr/bin`. -/
structure Host.FileSystem where
  directoryTree : List (String × List String)
  directoryLinks : List (List String × List String)
  files : List (List String × Bool)
  programs : List String
  deriving Repr

namespace Host.FileSystem

/-- The machine the program is described on: the directories of a Debian system, the top-level
program and library directories living under `/usr`, and `/var` keeping its old names for
directories under `/run`. -/
def standard : FileSystem where
  directoryTree :=
    [("", ["boot", "dev", "etc", "home", "media", "mnt", "opt", "proc", "root", "run", "srv",
       "sys", "tmp", "usr", "var"]),
     ("dev", ["hugepages", "mqueue", "pts", "shm"]),
     ("etc", ["alternatives", "apt", "ca-certificates", "cron.d", "cron.daily", "default",
       "dpkg", "gss", "init.d", "kernel", "ld.so.conf.d", "logrotate.d", "opt", "pam.d",
       "profile.d", "rc0.d", "rc1.d", "rc2.d", "rc3.d", "rc4.d", "rc5.d", "rc6.d", "rcS.d",
       "security", "selinux", "skel", "ssl", "sysctl.d", "systemd", "terminfo", "update-motd.d",
       "xdg"]),
     ("etc/apt", ["apt.conf.d", "keyrings", "preferences.d", "sources.list.d", "trusted.gpg.d"]),
     ("etc/ssl", ["certs", "private"]),
     ("run", ["lock", "mount"]),
     ("sys", ["block", "bus", "class", "dev", "devices", "firmware", "fs", "hypervisor",
       "kernel", "module", "power"]),
     ("sys/class", ["net"]),
     ("sys/devices", ["system", "virtual"]),
     ("sys/fs", ["cgroup"]),
     ("sys/kernel", ["mm", "security"]),
     ("usr", ["bin", "games", "include", "lib", "lib64", "libexec", "local", "sbin", "share",
       "src"]),
     ("usr/include", ["linux", "x86_64-linux-gnu"]),
     ("usr/lib", ["apt", "dpkg", "gcc", "locale", "mime", "os-release.d", "ssl", "sysctl.d",
       "systemd", "tmpfiles.d", "udev", "x86_64-linux-gnu"]),
     ("usr/local", ["bin", "etc", "games", "include", "lib", "man", "sbin", "share", "src"]),
     ("usr/share", ["base-files", "bash-completion", "ca-certificates", "common-licenses",
       "debconf", "doc", "dpkg", "info", "keyrings", "locale", "man", "menu", "misc", "perl5",
       "pixmaps", "tabset", "terminfo", "zoneinfo"]),
     ("var", ["backups", "cache", "lib", "local", "log", "mail", "opt", "spool", "tmp"]),
     ("var/cache", ["apt", "debconf", "ldconfig"]),
     ("var/lib", ["apt", "dpkg", "misc", "pam", "systemd"]),
     ("var/log", ["apt"]),
     ("var/spool", ["cron"])]
  directoryLinks :=
    [(["bin"], ["usr", "bin"]), (["sbin"], ["usr", "sbin"]), (["lib"], ["usr", "lib"]),
     (["lib64"], ["usr", "lib64"]), (["var", "run"], ["run"]), (["var", "lock"], ["run", "lock"])]
  files :=
    [(["dev", "null"], false), (["dev", "zero"], false), (["dev", "random"], false),
     (["dev", "urandom"], false), (["etc", "passwd"], false), (["etc", "group"], false),
     (["etc", "hosts"], false), (["etc", "hostname"], false), (["etc", "os-release"], false)]
  programs :=
    ["sh", "bash", "hostname", "true", "false", "grep", "id", "cat", "mount", "unshare", "env",
     "echo", "ls", "sleep", "test", "readlink", "stat", "uname", "kill", "ps", "nsenter"]

def directories (fs : FileSystem) : List (List String) :=
  [] :: fs.directoryTree.flatMap fun (parent, names) =>
    let base := (parent.splitOn "/").filter (· ≠ "")
    names.map fun n => base ++ [n]

def allFiles (fs : FileSystem) : List (List String × Bool) :=
  fs.files ++ fs.programs.map fun p => (["usr", "bin", p], true)

end Host.FileSystem

/-- The host as seen by the process `current`: every process of the machine, the running one
included; the machine's name; links to namespace files, by absolute path, with the type of the
file they point to; and the file system. -/
structure Host where
  current : Int
  processes : List Int
  hostname : String := "host"
  links : List (String × Host.NsType) := []
  fileSystem : Host.FileSystem := .standard
  deriving Repr

namespace Host

def nsEntries : List (String × NsType) :=
  [("cgroup", .kind .cgroup), ("ipc", .kind .ipc), ("mnt", .kind .mnt), ("net", .kind .net),
   ("pid", .kind .pid), ("pid_for_children", .kind .pid), ("time", .time),
   ("time_for_children", .time), ("user", .kind .user), ("uts", .kind .uts)]

def procDirectories : List String :=
  ["bus", "driver", "fs", "irq", "net", "pressure", "sys", "sysvipc", "tty"]

def sysctlDirectories : List String :=
  ["abi", "crypto", "debug", "dev", "fs", "kernel", "net", "user", "vm"]

def processDirectories : List String :=
  ["attr", "cwd", "fd", "fdinfo", "map_files", "net", "ns", "root", "task"]

def components (path : String) : List String :=
  (path.splitOn "/").filter (· ≠ "")

/-- The machine as seen by process `current`, which runs beside the machine's first process. -/
def ofProcess (current : Int) : Host := { current, processes := [1, current].eraseDups }

def procEntry? (h : Host) (name : String) : Option Int :=
  if name = "self" || name = "thread-self" then some h.current
  else match name.toNat? with
    | some n => if h.processes.contains (n : Int) then some n else none
    | none => none

/-- What the place reached by the components `cs` names, none of them being `.` or `..`. -/
def nodeAt (h : Host) (cs : List String) : Node :=
  match cs with
  | ["proc", p] =>
    if (h.procEntry? p).isSome || procDirectories.contains p then .directory else .missing
  | ["proc", "sys", d] => if sysctlDirectories.contains d then .directory else .missing
  | ["proc", p, d] =>
    if (h.procEntry? p).isSome then
      if processDirectories.contains d then .directory
      else if d = "exe" then .file true
      else .missing
    else .missing
  | ["proc", p, "ns", n] =>
    match h.procEntry? p, nsEntries.lookup n with
    | some _, some t => .nsFile t
    | _, _ => .missing
  | cs =>
    let linked := h.links.map fun (l, t) => (components l, t)
    match linked.lookup cs with
    | some t => .nsFile t
    | none =>
    if h.fileSystem.directories.contains cs || linked.any (·.1.dropLast = cs) then .directory
    else match h.fileSystem.allFiles.lookup cs with
      | some x => .file x
      | none => .missing

/-- Walks the components `cs` from the directory reached by `cur`: `.` stays, `..` goes up (the
root being its own parent), and a name goes down, to the target when it is a link. Going on
from a place that is not a directory fails with `ENOTDIR`, shown as `blocked`, while a missing
place stays missing. -/
def walk (h : Host) (cur : List String) : List String → Node
  | [] => h.nodeAt cur
  | c :: rest =>
    let next := if c = "." then cur else if c = ".." then cur.dropLast
      else (h.fileSystem.directoryLinks.lookup (cur ++ [c])).getD (cur ++ [c])
    if rest.isEmpty then h.nodeAt next
    else match h.nodeAt next with
      | .directory => h.walk next rest
      | .missing => .missing
      | _ => .blocked

/-- What an absolute path names on the host; relative paths name nothing. A path ending in a
slash names a directory, so it is `blocked` when it reaches anything else. -/
def lookup (h : Host) (path : String) : Node :=
  if !path.startsWith "/" then .missing
  else
    let node := h.walk [] (components path)
    if path.endsWith "/" then
      match node with
      | .directory | .missing => node
      | _ => .blocked
    else node

def isDirectory (h : Host) (path : String) : Bool := h.lookup path = .directory

/-- Joins the namespace at `path`, the kernel checking its type against `expected` when one is
given. Opening a missing path fails with `ENOENT`; a file that is not a namespace, or one of
another type than expected, gives `EINVAL`; re-entering the process's own user namespace gives
`EINVAL`; joining any other namespace needs a capability the process lacks: `EPERM`. -/
def enterNamespace (h : Host) (path : String) (expected : Option Kind) : Except Os.Errno Unit :=
  match h.lookup path with
  | .missing => .error .noent
  | .blocked => .error .notdir
  | .directory => .error .inval
  | .file _ => .error .inval
  | .nsFile t =>
    match expected with
    | some k => if t ≠ .kind k then .error .inval
      else if t = .kind .user then .error .inval else .error .perm
    | none => if t = .kind .user then .error .inval else .error .perm

/-- The bits of clone flags the checks below look at. -/
def cloneVm : UInt32 := 0x100
def cloneFs : UInt32 := 0x200
def cloneSighand : UInt32 := 0x800
def clonePidfd : UInt32 := 0x1000
def cloneParent : UInt32 := 0x8000
def cloneThread : UInt32 := 0x10000
def cloneParentSettid : UInt32 := 0x100000
def cloneDetached : UInt32 := 0x400000

def hasBits (w b : UInt32) : Bool := w &&& b == b

/-- Clones a child with the namespace flag word `bits` (the clone also keeps the caller's
parent). Inconsistent flags give `EINVAL`: a new mount or user namespace with a shared file
system context, a thread without shared signal handlers, shared handlers without a shared
address space, a pidfd with detached or thread clones or with the parent's tid. New namespaces
other than a user namespace need a new user namespace with them, or else `EPERM`. -/
def cloneWith (_ : Host) (bits : UInt32) : Except Os.Errno Unit :=
  let w := bits ||| cloneParent
  let others := Kind.all.filter (· ≠ .user) |>.any fun k => hasBits w k.flagBit
  if hasBits w (Kind.mnt.flagBit ||| cloneFs) then .error .inval
  else if hasBits w (Kind.user.flagBit ||| cloneFs) then .error .inval
  else if hasBits w cloneThread && !hasBits w cloneSighand then .error .inval
  else if hasBits w cloneSighand && !hasBits w cloneVm then .error .inval
  else if hasBits w clonePidfd && (hasBits w cloneDetached || hasBits w cloneThread) then
    .error .inval
  else if hasBits w (clonePidfd ||| cloneParentSettid) then .error .inval
  else if others && !hasBits w Kind.user.flagBit then .error .perm
  else .ok ()

/-- Renames the machine: refused without the capability. -/
def setHostname (_ : Host) (_ : String) : Except Os.Errno Unit := .error .perm

/-- Why running `program` fails, or `none` when it runs. A name with a slash is a path: a
missing path gives `ENOENT`, a directory or a file that cannot be run `EACCES`. A name without a
slash is looked up on the search path. -/
def execFailure (h : Host) (program : String) : Option Os.Errno :=
  if program.toList.contains '/' then
    match h.lookup program with
    | .missing => some .noent
    | .blocked => some .notdir
    | .directory => some .acces
    | .file true => none
    | .file false => some .acces
    | .nsFile _ => some .acces
  else if h.fileSystem.programs.contains program then none
  else some .noent

def namespaceId (k : Kind) : String :=
  let number : Nat := match k with
    | .mnt => 4026531841 | .cgroup => 4026531835 | .uts => 4026531838 | .ipc => 4026531839
    | .user => 4026531837 | .pid => 4026531836 | .net => 4026531840
  k.procName ++ ":[" ++ toString number ++ "]"

/-- The namespace identities of a listed process, or `ENOENT` for a process that is not. -/
def namespacesOf (h : Host) (pid : Int) : Except Os.Errno (List (Kind × String)) :=
  if pid > 0 && h.processes.contains pid then .ok (Kind.all.map fun k => (k, namespaceId k))
  else .error .noent

end Host

end NamespaceBootstrap
