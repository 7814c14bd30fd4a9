import NamespaceBootstrap.Cli.Usage

/-!
Help texts.

A help text is the level's description, its full usage, and then its sections: the subcommands
shown (hidden ones left out), the positionals, and the named parameters. Named parameters are
ordered by their declared place and then by their short name (lower case before upper case) or
long name; each line shows the short name or four spaces, the long name and the value, and the
description starts two columns after the widest entry of its section. A parameter with a
default value shows it after its description.
-/

namespace NamespaceBootstrap.Cli

def spaces (n : Nat) : String := String.ofList (List.replicate n ' ')

namespace Param

def helpEntry (p : Param) : String :=
  if p.positional then p.valueText (p.required && !p.optional)
  else
    let shortPart := match p.short with
      | some c => String.ofList ['-', c]
      | none => if p.long.isSome then "    " else ""
    let longPart := match p.long with
      | some l => (if p.short.isSome then ", " else "") ++ "--" ++ l
      | none => ""
    let value := if p.takesValue then " " ++ p.valueText true else ""
    shortPart ++ longPart ++ value

def helpAbout (p : Param) : String :=
  match p.default with
  | some d => if p.takesValue then p.help ++ " [default: " ++ d ++ "]" else p.help
  | none => p.help

def helpKey (p : Param) : Nat × String :=
  match p.short with
  | some c => (p.order, String.ofList [c.toLower, if c.isLower then '0' else '1'])
  | none => (p.order, match p.long with | some l => l | none => "\x7b" ++ p.id)

end Param

def keyLe (a b : Nat × String) : Bool :=
  a.1 < b.1 || (a.1 = b.1 && decide (a.2 ≤ b.2))

def helpSection (title : String) (rows : List (String × String)) : String :=
  let width := rows.foldl (fun w r => max w r.1.length) 0
  title ++ ":\n" ++
    "\n".intercalate (rows.map fun (e, a) => "  " ++ e ++ spaces (width - e.length + 2) ++ a)

namespace Scope

def sections (s : Scope) : List String :=
  let subs := (s.subcommands.filter (!·.hidden)).map fun l => (l.name, l.about)
  let pos := s.positionals.map fun p => (p.helpEntry, p.helpAbout)
  let named := (s.params.filter (!·.positional)).mergeSort fun a b => keyLe a.helpKey b.helpKey
  let opts := named.map fun p => (p.helpEntry, p.helpAbout)
  (if subs.isEmpty then [] else [helpSection "Commands" subs]) ++
    (if pos.isEmpty then [] else [helpSection "Arguments" pos]) ++
    (if opts.isEmpty then [] else [helpSection "Options" opts])

def helpText (s : Scope) : String :=
  s.about ++ "\n\nUsage: " ++ s.fullUsage ++ "\n\n" ++ "\n\n".intercalate s.sections ++ "\n"

end Scope

end NamespaceBootstrap.Cli
