/-!
Why a JSON text could not be read as the value asked for, and where.

A failure falls in one of four classes: the text breaks the grammar, the text is well formed
but holds the wrong data, the text ends too early, or reading it failed. It carries the line
(from 1) and the column (bytes since the start of the line) at which the reader stood.
-/

namespace NamespaceBootstrap.Json

/-- The class of a reading failure: the text breaks the JSON grammar, it is JSON of another
shape than asked for, it ends before the value does, or reading it failed. -/
inductive Category where
  | malformed
  | mismatch
  | truncated
  | io
  deriving DecidableEq, Repr

structure ReadError where
  category : Category
  text : String
  line : Nat
  column : Nat
  deriving DecidableEq, Repr

def ReadError.message (e : ReadError) : String :=
  s!"{e.text} at line {e.line} column {e.column}"

end NamespaceBootstrap.Json
