import NamespaceBootstrap.Namespace.Kind
import NamespaceBootstrap.Text.Utf8

/-!
Lists of namespace paths, the first message of the bootstrap protocol.

On the wire a list is its paths in UTF-8 joined by commas, so a list can be sent only if it is
not empty and every path is non-empty UTF-8 without a comma. `new` builds a list from handles
whose paths are bytes and checks exactly that, path by path; every other way of building a list
goes through it. `decode` reads a received list back and fails at the first entry that breaks
the rule, giving each handle no declared kind (the kind is then inferred from the path's last
name). `forProcess` builds the list of a process's namespaces of the given kinds: each kind once,
in the order given, with the mount namespace last, as it must be joined after the others.
-/

namespace NamespaceBootstrap

/-- A namespace to join: its path, and the kind the sender declared, if any. -/
structure Handle where
  path : String
  kind : Option Kind := none
  deriving DecidableEq, Repr

/-- The declared kind, else the kind of the path's last name. -/
def Handle.inferredKind (h : Handle) : Option Kind :=
  match h.kind with
  | some k => some k
  | none => Kind.ofPath? h.path

/-- A namespace as a caller names it: the bytes of its path, and the kind it declares, if any. -/
structure RawHandle where
  path : List UInt8
  kind : Option Kind := none
  deriving DecidableEq, Repr

structure PathList where
  handles : List Handle
  deriving DecidableEq, Repr

namespace PathList

def paths (l : PathList) : List String := l.handles.map Handle.path

/-- Whether a path can be sent: not empty, and without a comma. -/
def sendable (p : String) : Bool := p != "" && !p.toList.contains ','

/-- The path of raw bytes, if it is UTF-8 and can be sent. -/
def checkPath (raw : List UInt8) : Except BootstrapError String :=
  match Text.decode raw with
  | .error _ => .error (.config s!"namespace path {Text.decodeLossy raw} is not UTF-8")
  | .ok p =>
    if sendable p then .ok p else .error (.config s!"namespace path {Text.quote p} cannot be sent")

def checkHandle (h : RawHandle) : Except BootstrapError Handle :=
  (checkPath h.path).map fun p => { path := p, kind := h.kind }

/-- The list of raw handles, each path checked in order. -/
def new (hs : List RawHandle) : Except BootstrapError PathList :=
  if hs.isEmpty then .error (.config "namespace list cannot be empty")
  else (hs.mapM checkHandle).map PathList.mk

def ofRaw (raws : List (List UInt8)) : Except BootstrapError PathList :=
  new (raws.map fun raw => { path := raw })

def ofPaths (paths : List String) : Except BootstrapError PathList :=
  new (paths.map fun p => { path := Text.utf8 p })

/-- The kinds without repeats, each where it first occurs, and the mount kind moved last. -/
def arrange (ks : List Kind) : List Kind :=
  let once := ks.foldl (fun acc k => if acc.contains k then acc else acc ++ [k]) []
  once.filter (· != .mnt) ++ once.filter (· == .mnt)

def forProcess (p : ProcessId) (ks : List Kind) : Except BootstrapError PathList :=
  new ((arrange ks).map fun k => { path := Text.utf8 (k.pathFor p), kind := some k })

def encode (l : PathList) : List UInt8 :=
  Text.utf8 (String.intercalate "," l.paths)

def decodeStep : String := "decoding namespace list"

def decodeFailure (reason : String) : BootstrapError :=
  .channel decodeStep (.malformed reason)

def firstEmpty? (entries : List String) : Option Nat :=
  entries.findIdx? (· == "")

def decode (blob : List UInt8) : Except BootstrapError PathList :=
  match Text.decode blob with
  | .error f => .error (decodeFailure s!"namespace list is not UTF-8: {f.message}")
  | .ok text =>
    if text = "" then .error (decodeFailure "namespace list is empty")
    else
      let entries := (text.toList.splitOn ',').map String.ofList
      match firstEmpty? entries with
      | some i => .error (decodeFailure s!"namespace list entry {i} is empty in {Text.quote text}")
      | none => .ok ⟨entries.map fun p => { path := p }⟩

end PathList

end NamespaceBootstrap
