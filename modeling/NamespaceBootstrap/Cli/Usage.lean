import NamespaceBootstrap.Cli.Grammar

/-!
Usage lines.

A parameter is shown by its long name, or its short one, followed by its value: `<NAME>` for a
required value, `[NAME]` for a positional that may be left out, with `...` after a positional
that takes several. The full usage of a level lists `[OPTIONS]` when some named parameter is
neither required nor built in, then the required options and the positionals (the positional
that only follows `--` with `-- ` before it), then the subcommand. The usage shown after a
mistake lists instead what was given on the command line, after the required options. After a
value attached to a switch, the level's argument group stands in for its members once one of
them was given: `<--target <TARGET>|…|COMMAND>`, positionals by their bare value name.
-/

namespace NamespaceBootstrap.Cli

namespace Param

def valueText (p : Param) (required : Bool) : String :=
  if p.positional then
    let core :=
      if p.optional || !required then "[" ++ p.valueName ++ "]" else "<" ++ p.valueName ++ ">"
    if p.action = .many then core ++ "..." else core
  else "<" ++ p.valueName ++ ">"

def shownAs (p : Param) (required : Bool) : String :=
  let name := match p.long, p.short with
    | some l, _ => "--" ++ l
    | none, some c => String.ofList ['-', c]
    | none, none => ""
  if p.positional then p.valueText required
  else if p.takesValue then name ++ " " ++ p.valueText required
  else name

def shown (p : Param) : String := p.shownAs p.required

end Param

namespace Scope

/-- Whether the full usage lists `[OPTIONS]`. -/
def needsOptionsTag (s : Scope) : Bool :=
  s.params.any fun p =>
    !p.positional && p.action ≠ .help && p.action ≠ .version && !p.required

def insertNew (xs : List String) (x : String) : List String :=
  if xs.contains x then xs else xs ++ [x]

def positionalText (p : Param) (listed : Bool) (allOptional : Bool) : Option String :=
  if p.last && allOptional then none
  else if listed then
    let t := p.shownAs !allOptional
    some (if p.last then "-- " ++ t else t)
  else if p.last then some ("[-- " ++ p.shownAs true ++ "]")
  else some (p.shownAs false)

/-- The level's argument group in a usage line: its members between angle brackets, apart by
bars. -/
def groupText (s : Scope) : String :=
  let members := s.group.filterMap s.param?
  let shown := members.map fun p => if p.positional then p.valueName else p.shownAs true
  "<" ++ "|".intercalate shown ++ ">"

/-- The parameters of a usage line: the required ones and `given`, options first. When
`grouped`, the argument group is shown instead of its members, between options and
positionals. -/
def argsText (s : Scope) (given : List String) (allOptional grouped : Bool) :
    String :=
  let ids := (s.params.filter (·.required)).map (·.id) ++ given
  let shown (p : Param) : Bool := !(grouped && s.group.contains p.id)
  let opts := ids.foldl (fun acc id => match s.param? id with
    | some p => if p.positional || !shown p then acc else insertNew acc (p.shownAs !allOptional)
    | none => acc) []
  let poss := (s.positionals.filter shown).filterMap fun p =>
    positionalText p (ids.contains p.id) allOptional
  let optPart := if allOptional then "" else String.join (opts.map (" " ++ ·))
  let groupPart := if grouped then " " ++ s.groupText else ""
  optPart ++ groupPart ++ String.join (poss.map (" " ++ ·))

def hasVisibleSubcommands (s : Scope) : Bool :=
  s.subcommands.any (!·.hidden)

def fullUsage (s : Scope) : String :=
  let tag := if s.needsOptionsTag then " [OPTIONS]" else ""
  let sub :=
    if s.hasVisibleSubcommands then (if s.needsSubcommand then " <COMMAND>" else " [COMMAND]")
    else ""
  s.usageName ++ tag ++ s.argsText [] false false ++ sub

/-- The usage after a mistake, listing what was given, with the argument group when
`grouped`. -/
def givenUsage (s : Scope) (given : List String) (grouped : Bool) : String :=
  let sub := if s.needsSubcommand then " <COMMAND>" else ""
  s.usageName ++ s.argsText given false grouped ++ sub

/-- The usage line shown after a mistake: the full usage when nothing was given. -/
def usageAfter (s : Scope) (given : List String) (grouped : Bool) : String :=
  "Usage: " ++ (if given.isEmpty then s.fullUsage else s.givenUsage given grouped)

end Scope

end NamespaceBootstrap.Cli
