import NamespaceBootstrap.Text.Decimal
import NamespaceBootstrap.Text.Quoted
import NamespaceBootstrap.Config.Error

/-!
Process ids: a signed 32-bit number, written in decimal. A process id names a process only
when it is positive; reading one from text trims white space, takes an optional `+`, and
refuses zero and every negative value.
-/

namespace NamespaceBootstrap

/-- A process id as the kernel hands it out: any 32-bit signed value. -/
structure ProcessId where
  raw : Int32
  deriving DecidableEq, Repr

namespace ProcessId

def toInt (p : ProcessId) : Int := p.raw.toInt

/-- Whether the id can name a process. -/
def isValid (p : ProcessId) : Bool := 0 < p.toInt

/-- The id in decimal, with a `-` before a negative one. -/
def render (p : ProcessId) : String := toString p.toInt

/-- The process id of a decimal text, or why the text names no process. -/
def parse (s : String) : Except ConfigError ProcessId :=
  match Text.parseTrimmedI32 s with
  | .error e => .error (.invalid s!"invalid process id {Text.quote s}: {e.message}")
  | .ok v =>
    if v ≤ 0 then .error (.invalid s!"process id must be positive, got {v}")
    else .ok ⟨Int32.ofInt v⟩

end ProcessId

end NamespaceBootstrap
