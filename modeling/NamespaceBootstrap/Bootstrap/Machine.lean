import NamespaceBootstrap.Wire.Channel
import NamespaceBootstrap.Bootstrap.Handoff
import NamespaceBootstrap.Bootstrap.Joiner
import NamespaceBootstrap.Bootstrap.Cloner

/-!
The bootstrap handshake as a state machine over a channel, a joiner and a cloner.

A run reads the namespace list, joins its namespaces in order, reads the clone flag word,
clones the child with it, writes the child's id back, releases the channel and resumes once as
the parent; it stops at the first step that fails. The phase records how far the machine got.
Entering from a trigger first reads the trigger as a descriptor number and opens it; a missing
trigger means no bootstrap was asked for.
-/

namespace NamespaceBootstrap

inductive Phase where
  | idle | notRequested | channelDetected | namespacesJoined | cloneFlagsRead | childCloned
  | handoffComplete
  deriving DecidableEq, Repr

def Phase.name : Phase → String
  | .idle => "idle"
  | .notRequested => "not-requested"
  | .channelDetected => "channel-detected"
  | .namespacesJoined => "namespaces-joined"
  | .cloneFlagsRead => "clone-flags-read"
  | .childCloned => "child-cloned"
  | .handoffComplete => "handoff-complete"

/-- How a bootstrap that did not fail ends. -/
inductive Outcome where
  | notRequested
  | parent (child : ProcessId) (status : Int)
  deriving DecidableEq, Repr

/-- How a bootstrap ends: an outcome, a failure, or a cloner whose id counter overflowed. -/
inductive Ending where
  | done (o : Outcome)
  | failed (e : BootstrapError)
  | overflow
  deriving DecidableEq, Repr

structure Machine where
  phase : Phase := .idle
  joiner : Joiner
  cloner : Cloner
  deriving DecidableEq, Repr

/-- What a run did: how it ended, the machine and the channel after it, and the sides passed to
the continuation. -/
structure Run where
  ending : Ending
  machine : Machine
  stream : Wire.Stream
  calls : List Tag
  deriving Repr

namespace Machine

/-- Runs the handshake once over the channel `s`, resuming through `cont`. -/
def run (m : Machine) (s : Wire.Stream) (cont : Tag → Int) : Run :=
  let m := { m with phase := .channelDetected }
  let point := ResumePoint.establish
  match s.readPathList with
  | (.error e, s) => ⟨.failed e, m, s, []⟩
  | (.ok l, s) =>
    match m.joiner.joinAll l with
    | (.error e, j) => ⟨.failed e, { m with joiner := j }, s, []⟩
    | (.ok (), j) =>
      let m := { m with joiner := j, phase := .namespacesJoined }
      match s.readFlags with
      | (.error e, s) => ⟨.failed e, m, s, []⟩
      | (.ok f, s) =>
        let m := { m with phase := .cloneFlagsRead }
        match m.cloner.spawn f with
        | (.failed e, c) => ⟨.failed e, { m with cloner := c }, s, []⟩
        | (.counterOverflow, c) => ⟨.overflow, { m with cloner := c }, s, []⟩
        | (.child p, c) =>
          let m := { m with cloner := c }
          match s.writeChildPid p with
          | (.error e, s) => ⟨.failed e, m, s, []⟩
          | (.ok (), s) =>
            let m := { m with phase := .childCloned }
            match s.releaseStep with
            | (.error e, s) => ⟨.failed e, m, s, []⟩
            | (.ok (), s) =>
              match point.signal cont .asParent with
              | (.error e, pt) => ⟨.failed e, m, s, pt.calls⟩
              | (.ok status, pt) =>
                ⟨.done (.parent p status), { m with phase := .handoffComplete }, s, pt.calls⟩

def parseDescriptor (text : String) : Except BootstrapError Int :=
  match Text.parseTrimmedI32 text with
  | .error e =>
    .error (.config s!"config pipe {Text.quote text} is not a descriptor number: {e.message}")
  | .ok fd =>
    if fd ≤ 0 then .error (.config s!"config pipe must be a positive descriptor, got {fd}")
    else .ok fd

/-- Enters the bootstrap from a trigger. `open?` gives the stream of an open descriptor. -/
def enter (m : Machine) (trigger : Option String) (open? : Int → Option Wire.Stream)
    (cont : Tag → Int) : Ending × Machine × Option Wire.Stream × List Tag :=
  match trigger with
  | none => (.done .notRequested, { m with phase := .notRequested }, none, [])
  | some text =>
    match parseDescriptor text with
    | .error e => (.failed e, m, none, [])
    | .ok fd =>
      match open? fd with
      | none =>
        (.failed (.config s!"config pipe {fd} is not open: {Os.Errno.badf.osText}"), m, none, [])
      | some s =>
        let r := m.run s cont
        (r.ending, r.machine, some r.stream, r.calls)

end Machine

end NamespaceBootstrap
