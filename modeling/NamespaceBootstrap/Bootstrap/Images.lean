import NamespaceBootstrap.Bootstrap.Machine

/-!
The process images of the program around the bootstrap.

The entry point reads its command line and keeps the command in a slot. It hands the bootstrap a
continuation: resumed as the parent, it answers 0 and leaves the command, since the parent only
reports the child; resumed as the child, it finishes. When no bootstrap was asked for, the entry
point finishes itself; when the parent resumed, it exits with the continuation's status; a
failed bootstrap exits with the failure's status. Finishing takes the command out of the slot and
dispatches it; a slot found empty means the image resumed twice, which ends it with status 1.

A clone copies the image as it stands when the child is cloned: the bootstrap has run the
continuation on nothing yet, so the child has the slot as it was filled, its own copy of the
channel, and a copy of the resumption point the bootstrap established, which has not resumed.
The child runs the child entry on that copy: it releases its copy of the channel, then resumes
as the child, and exits with the entry's status.

The continuation reads the slot as it stood when the bootstrap began; the bootstrap runs it at
most once per image, so that is the slot it runs on.
-/

namespace NamespaceBootstrap

/-- The command slot of an image, and what each finishing found in it, in order. -/
structure Slot (α : Type) where
  command : Option α
  taken : List (Option α) := []
  deriving DecidableEq, Repr

namespace Slot

variable {α : Type} (dispatch : α → Option Tag → Int)

def init (cmd : α) : Slot α := { command := some cmd }

/-- Takes the command and dispatches it on the side the image resumed on, answering the status
the dispatch ends with; a slot found empty answers status 1. -/
def finish (s : Slot α) (resumed : Option Tag) : Int × Slot α :=
  match s.command with
  | some c => (dispatch c resumed, { command := none, taken := s.taken ++ [some c] })
  | none => (ResumePoint.fatalStatus, { s with taken := s.taken ++ [none] })

/-- The continuation the entry point hands to the bootstrap. -/
def resume (s : Slot α) : Tag → Int × Slot α
  | .asParent => (0, s)
  | .asChild => s.finish dispatch (some .asChild)

/-- The slot after the continuation ran on the given sides, in order. -/
def afterCalls (s : Slot α) (calls : List Tag) : Slot α :=
  calls.foldl (fun s t => (s.resume dispatch t).2) s

end Slot

/-- How a process image ends: it exits with a status, or it stops on the cloner's overflowing
id counter. -/
inductive ImageEnd where
  | exited (status : Int)
  | panicked
  deriving DecidableEq, Repr

/-- What an image did: how it ended, its slot at the end, and the sides its continuation ran
on. -/
structure Image (α : Type) where
  ending : ImageEnd
  slot : Slot α
  calls : List Tag
  deriving DecidableEq, Repr

variable {α : Type} (dispatch : α → Option Tag → Int)

/-- The image that runs the entry point with the command `cmd`: how its bootstrap ended, and the
image. -/
def mainImage (m : Machine) (trigger : Option String) (open? : Int → Option Wire.Stream)
    (cmd : α) : Ending × Image α :=
  let slot := Slot.init cmd
  let (ending, _, _, calls) := m.enter trigger open? fun t => (slot.resume dispatch t).1
  let slot := slot.afterCalls dispatch calls
  let image : Image α := match ending with
    | .done .notRequested =>
      let (status, slot) := slot.finish dispatch none
      ⟨.exited status, slot, calls⟩
    | .done (.parent _ status) => ⟨.exited status, slot, calls⟩
    | .failed e => ⟨.exited e.exitCode, slot, calls⟩
    | .overflow => ⟨.panicked, slot, calls⟩
  (ending, image)

/-- What a clone copies for the child: the channel, and the resumption point, which has run the
continuation on nothing. -/
structure ChildCopy where
  channel : Wire.Stream
  point : ResumePoint
  unresumed : point.consumed = none
  noCalls : point.calls = []

namespace Machine

/-- The child's copy when a run clones the child, if it clones one: the channel with the list
read and joined, the flag word read and the cloner giving an id, and the point the run
established, which nothing signals before the clone. -/
def cloneChannel? (m : Machine) (s : Wire.Stream) : Option ChildCopy :=
  let point := ResumePoint.establish
  match s.readPathList with
  | (.error _, _) => none
  | (.ok l, s) =>
    match m.joiner.joinAll l with
    | (.error _, _) => none
    | (.ok (), _) =>
      match s.readFlags with
      | (.error _, _) => none
      | (.ok f, s) =>
        match m.cloner.spawn f with
        | (.child _, _) => some ⟨s, point, rfl, rfl⟩
        | _ => none

/-- The child's copy when a bootstrap entered from a trigger clones the child, if it clones
one. -/
def enterClone? (m : Machine) (trigger : Option String) (open? : Int → Option Wire.Stream) :
    Option ChildCopy :=
  match trigger with
  | none => none
  | some text =>
    match parseDescriptor text with
    | .error _ => none
    | .ok fd => (open? fd).bind m.cloneChannel?

end Machine

/-- The image a clone starts, from its copy of the slot and the copy `c` of the channel and the
resumption point: it runs the child entry on the point, preparing the child by releasing the
channel, and exits with the entry's status. -/
def childImage (cmd : α) (c : ChildCopy) : Image α :=
  let slot := Slot.init cmd
  let (status, point) :=
    c.point.childEntry (fun t => (slot.resume dispatch t).1) c.channel.releaseStep.1
  ⟨.exited status, slot.afterCalls dispatch point.calls, point.calls⟩

end NamespaceBootstrap
