import NamespaceBootstrap.Bootstrap.Error

/-!
The resumption point: a process image resumes past the bootstrap at most once. The first
signal records its side and runs the continuation; every later signal is refused and names
both sides. A child entry first prepares the child (which may fail) and then signals as the
child; it answers the continuation's status, or 1 when it could not resume.
-/

namespace NamespaceBootstrap

/-- A resumption point: the side it resumed on, if it did, and the sides passed to the
continuation, in order. -/
structure ResumePoint where
  consumed : Option Tag := none
  calls : List Tag := []
  deriving DecidableEq, Repr

namespace ResumePoint

/-- The point as the bootstrap establishes it, before any namespace work: it has not resumed. -/
def establish : ResumePoint := {}

def fatalStatus : Int := 1

/-- Resumes on side `t` with the continuation `cont`, unless the point already resumed. -/
def signal (p : ResumePoint) (cont : Tag → Int) (t : Tag) :
    Except BootstrapError Int × ResumePoint :=
  match p.consumed with
  | some prev => (.error (.handoff prev t), p)
  | none => (.ok (cont t), { consumed := some t, calls := p.calls ++ [t] })

/-- Runs a child entry once: `prepared` is the preparation's outcome. -/
def childEntry (p : ResumePoint) (cont : Tag → Int) (prepared : Except BootstrapError Unit) :
    Int × ResumePoint :=
  match prepared with
  | .error _ => (fatalStatus, p)
  | .ok () =>
    match p.signal cont .asChild with
    | (.ok status, p) => (status, p)
    | (.error _, p) => (fatalStatus, p)

def describe (p : ResumePoint) : String :=
  match p.consumed with
  | some t => s!"ResumptionPoint \x7b consumed: Some({t.name}), .. \x7d"
  | none => "ResumptionPoint \x7b consumed: None, .. \x7d"

end ResumePoint

end NamespaceBootstrap
