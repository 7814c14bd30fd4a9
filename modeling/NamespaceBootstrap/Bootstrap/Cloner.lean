import NamespaceBootstrap.Namespace.Flags
import NamespaceBootstrap.Bootstrap.Error

/-!
Cloning the child. The cloner here records every flag word it was asked for and hands out
process ids from a counter, or refuses every clone with one error number. Its counter is a
32-bit number: handing out the largest one leaves no next id, and the cloner stops there.
-/

namespace NamespaceBootstrap

/-- A recording cloner: the id the next clone gets, the error every clone fails with if any,
and the flag words asked for, in order. -/
structure Cloner where
  nextPid : Int32
  failWith : Option Os.Errno := none
  requested : List Flags := []
  deriving DecidableEq, Repr

/-- What a clone request comes to: the child's id, a failure, or an id counter that cannot step
past the largest id. -/
inductive CloneResult where
  | child (p : ProcessId)
  | failed (e : BootstrapError)
  | counterOverflow
  deriving DecidableEq, Repr

namespace Cloner

def defaultFirstPid : Int32 := 100

/-- Clones a child with the flag word `f`. -/
def spawn (c : Cloner) (f : Flags) : CloneResult × Cloner :=
  let c := { c with requested := c.requested ++ [f] }
  match c.failWith with
  | some e => (.failed (.clone e), c)
  | none =>
    if c.nextPid = Int32.maxValue then (.counterOverflow, c)
    else (.child ⟨c.nextPid⟩, { c with nextPid := c.nextPid + 1 })

end Cloner

end NamespaceBootstrap
