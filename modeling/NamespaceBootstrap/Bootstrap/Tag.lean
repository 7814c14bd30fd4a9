/-!
The two ways a process image resumes after the bootstrap: as the parent that cloned the child,
or as the cloned child.
-/

namespace NamespaceBootstrap

/-- Which side of the clone a process image resumes on. -/
inductive Tag where
  | asParent
  | asChild
  deriving DecidableEq, Repr

def Tag.name : Tag → String
  | .asParent => "AsParent"
  | .asChild => "AsChild"

def Tag.phrase : Tag → String
  | .asParent => "as parent"
  | .asChild => "as child"

end NamespaceBootstrap
