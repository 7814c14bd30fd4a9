import NamespaceBootstrap.Host.System
import NamespaceBootstrap.Bootstrap.Machine
import NamespaceBootstrap.Bootstrap.Settings

/-!
The bootstrap run on the host: the handshake of `Machine.run`, with the namespaces joined and
the child cloned by the host itself.

The namespaces of the list are joined in order, each checked against the kind its path names
when the settings ask for it; the first that fails ends the run. On this host every join fails,
so the run ends there, having read the list and nothing after it.
-/

namespace NamespaceBootstrap.Host

/-- Joins the namespaces of handles on the host in order, stopping at the first failure;
returns the handles joined. -/
def joinHandles (h : Host) (check : Bool) : List Handle → List Handle × Except BootstrapError Unit
  | [] => ([], .ok ())
  | hd :: rest =>
    match h.enterNamespace hd.path (if check then hd.inferredKind else none) with
    | .error e => ([], .error (.join hd.path e))
    | .ok () =>
      let (joined, r) := joinHandles h check rest
      (hd :: joined, r)

/-- How a bootstrap on the host ends. -/
inductive HostEnding where
  | notRequested
  | parent (child : Int) (status : Int)
  | failed (e : BootstrapError)
  deriving DecidableEq, Repr

/-- The process id the host gives a cloned child. -/
def childPid (h : Host) : Int := h.current + 1

/-- Runs the handshake on the host over the channel `s`, resuming the parent through `cont`;
returns the ending and the channel after the run. -/
def runOnHost (h : Host) (settings : Settings) (s : Wire.Stream) (cont : Tag → Int) :
    HostEnding × Wire.Stream :=
  match s.readPathList with
  | (.error e, s) => (.failed e, s)
  | (.ok l, s) =>
    match (joinHandles h settings.checkKinds l.handles).2 with
    | .error e => (.failed e, s)
    | .ok () =>
      match s.readFlags with
      | (.error e, s) => (.failed e, s)
      | (.ok f, s) =>
        match h.cloneWith f.bits with
        | .error e => (.failed (.clone e), s)
        | .ok () =>
          match s.writeChildPid ⟨Int32.ofInt h.childPid⟩ with
          | (.error e, s) => (.failed e, s)
          | (.ok (), s) =>
            match s.releaseStep with
            | (.error e, s) => (.failed e, s)
            | (.ok (), s) => (.parent h.childPid (cont .asParent), s)

/-- Enters the bootstrap on the host from a trigger; `open?` gives the stream of an open
descriptor. Returns the ending and the channel, if one was opened. -/
def enterOnHost (h : Host) (settings : Settings) (trigger : Option String)
    (open? : Int → Option Wire.Stream) (cont : Tag → Int) : HostEnding × Option Wire.Stream :=
  match trigger with
  | none => (.notRequested, none)
  | some text =>
    match Machine.parseDescriptor text with
    | .error e => (.failed e, none)
    | .ok fd =>
      match open? fd with
      | none => (.failed (.config s!"config pipe {fd} is not open: {Os.Errno.badf.osText}"), none)
      | some s =>
        let s := { s with release := if settings.disposition = .close then .close else .keep }
        let (ending, s) := runOnHost h settings s cont
        (ending, some s)

end NamespaceBootstrap.Host
