/-!
The operating-system error numbers this library meets, with the two ways they are described:
the C library's sentence (`strerror`) and the short form `NAME: sentence` of the system-call
wrapper, and the class of input/output failure each one falls in.
-/

namespace NamespaceBootstrap.Os

inductive Errno where
  | perm | noent | badf | again | nomem | acces | exist | notdir | inval | nospc | pipe | nosys
  | users | connreset
  deriving DecidableEq, Repr

def Errno.code : Errno → Nat
  | .perm => 1 | .noent => 2 | .badf => 9 | .again => 11 | .nomem => 12 | .acces => 13
  | .exist => 17 | .notdir => 20 | .inval => 22 | .nospc => 28 | .pipe => 32 | .nosys => 38
  | .users => 87 | .connreset => 104

def Errno.name : Errno → String
  | .perm => "EPERM" | .noent => "ENOENT" | .badf => "EBADF" | .again => "EAGAIN"
  | .nomem => "ENOMEM" | .acces => "EACCES" | .exist => "EEXIST" | .notdir => "ENOTDIR"
  | .inval => "EINVAL"
  | .nospc => "ENOSPC" | .pipe => "EPIPE" | .nosys => "ENOSYS" | .users => "EUSERS"
  | .connreset => "ECONNRESET"

def Errno.all : List Errno :=
  [.perm, .noent, .badf, .again, .nomem, .acces, .exist, .notdir, .inval, .nospc, .pipe, .nosys,
    .users, .connreset]

def Errno.ofName? (s : String) : Option Errno :=
  Errno.all.find? (·.name == s)

/-- The C library's sentence. -/
def Errno.sentence : Errno → String
  | .perm => "Operation not permitted"
  | .noent => "No such file or directory"
  | .badf => "Bad file descriptor"
  | .again => "Resource temporarily unavailable"
  | .nomem => "Cannot allocate memory"
  | .acces => "Permission denied"
  | .exist => "File exists"
  | .notdir => "Not a directory"
  | .inval => "Invalid argument"
  | .nospc => "No space left on device"
  | .pipe => "Broken pipe"
  | .nosys => "Function not implemented"
  | .users => "Too many users"
  | .connreset => "Connection reset by peer"

/-- The system-call wrapper's sentence. -/
def Errno.shortSentence : Errno → String
  | .badf => "Bad file number"
  | .again => "Try again"
  | .nomem => "Out of memory"
  | e => e.sentence

/-- The wrapper's form, `NAME: sentence`. -/
def Errno.brief (e : Errno) : String :=
  e.name ++ ": " ++ e.shortSentence

/-- The error as an input/output failure prints it: sentence and number. -/
def Errno.osText (e : Errno) : String :=
  s!"{e.sentence} (os error {e.code})"

/-- The class of input/output failure of an error number. -/
def Errno.ioKind : Errno → String
  | .perm => "PermissionDenied"
  | .acces => "PermissionDenied"
  | .noent => "NotFound"
  | .pipe => "BrokenPipe"
  | .connreset => "ConnectionReset"
  | .inval => "InvalidInput"
  | .exist => "AlreadyExists"
  | .notdir => "NotADirectory"
  | .again => "WouldBlock"
  | .nomem => "OutOfMemory"
  | .nospc => "StorageFull"
  | .nosys => "Unsupported"
  | _ => "Uncategorized"

end NamespaceBootstrap.Os
