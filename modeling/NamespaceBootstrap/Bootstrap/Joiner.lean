import NamespaceBootstrap.Namespace.List

/-!
Joining namespaces in list order, stopping at the first that fails. The joiner here records
what it was asked: every path it attempted, and every path it joined; a path in its failing
set fails with `EINVAL`.
-/

namespace NamespaceBootstrap

/-- A recording joiner: the paths that fail, and the paths attempted and joined, in order. -/
structure Joiner where
  failing : List String := []
  attempted : List String := []
  joined : List String := []
  deriving DecidableEq, Repr

namespace Joiner

def enter (j : Joiner) (path : String) : Except BootstrapError Unit × Joiner :=
  let j := { j with attempted := j.attempted ++ [path] }
  if j.failing.contains path then (.error (.join path .inval), j)
  else (.ok (), { j with joined := j.joined ++ [path] })

/-- Joins the paths in order, stopping at the first failure. -/
def joinPaths (j : Joiner) : List String → Except BootstrapError Unit × Joiner
  | [] => (.ok (), j)
  | p :: ps =>
    match j.enter p with
    | (.ok (), j) => j.joinPaths ps
    | (.error e, j) => (.error e, j)

/-- Joins every namespace of the list, in order, stopping at the first failure. -/
def joinAll (j : Joiner) (l : PathList) : Except BootstrapError Unit × Joiner :=
  j.joinPaths l.paths

end Joiner

end NamespaceBootstrap
