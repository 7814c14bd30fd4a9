/-!
The environment of the command the child runs: the variables it inherited, less those of the
bootstrap itself (their names start with `_LIBCAPSULE_`), with the entries of the init
configuration laid over them. An entry `KEY=VALUE` is split at its first `=`, and one without
`=` is skipped. A later value of a name replaces an earlier one, and the result is ordered by
name.
-/

namespace NamespaceBootstrap.Environment

/-- The prefix of the names the bootstrap reserves for itself. -/
def reservedPrefix : String := "_LIBCAPSULE_"

/-- Sets `key` to `value` in a list of variables ordered by name. -/
def set (key value : String) : List (String × String) → List (String × String)
  | [] => [(key, value)]
  | (k, v) :: rest =>
    if key < k then (key, value) :: (k, v) :: rest
    else if key = k then (key, value) :: rest
    else (k, v) :: set key value rest

/-- The name and value of an entry, split at its first `=`. -/
def splitEntry (entry : String) : Option (String × String) :=
  let cs := entry.toList
  if cs.contains '=' then
    some (String.ofList (cs.takeWhile (· ≠ '=')), String.ofList ((cs.dropWhile (· ≠ '=')).drop 1))
  else none

/-- The variables of the inherited ones that the command keeps. -/
def kept (inherited : List (String × String)) : List (String × String) :=
  inherited.filter fun (k, _) => !k.startsWith reservedPrefix

/-- The environment of the command, as `KEY=VALUE` entries ordered by name. -/
def build (inherited : List (String × String)) (extra : List String) : List String :=
  let base := (kept inherited).foldl (fun acc (k, v) => set k v acc) []
  let merged := extra.foldl (fun acc e => match splitEntry e with
    | some (k, v) => set k v acc
    | none => acc) base
  merged.map fun (k, v) => k ++ "=" ++ v

end NamespaceBootstrap.Environment
