/-!
The last name of a path. A path is read as components between slashes: empty components and
`.` components add nothing, so `a/ipc/./` and `//ipc` both end in `ipc`; a path that ends in
`..`, or that has no named component at all (`/`, `.`, the empty path), has no last name.
-/

namespace NamespaceBootstrap.Namespace

/-- The last named component of a path, if it has one. -/
def fileName? (path : String) : Option String :=
  match (((path.toList.splitOn '/').map String.ofList).filter (fun c => c != "" && c != ".")).getLast? with
  | some ".." => none
  | other => other

end NamespaceBootstrap.Namespace
