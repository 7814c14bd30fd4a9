/-!
A command-line grammar: the parameters a command accepts and the subcommands a program
dispatches to.

A parameter is a switch, an option with one value, an option or positional whose values
accumulate, or one of the two built-in switches that print the help or the version. Every
command gets a `-h`/`--help` switch, the program also gets `-V`/`--version`, and a program with
subcommands gets a `help` subcommand that prints the help of the subcommands it names. The
program's global switches are accepted by every subcommand but `help`.

A `Scope` is one level of the grammar as the parser sees it: the name it is shown under in usage
lines, its parameters in the order they were declared (the built-in ones last) and the
subcommands below it. The parameters a level declares itself, without the built-in ones and the
global switches it inherits, form its argument group, which some usage lines show as a whole.
-/

namespace NamespaceBootstrap.Cli

/-- What a parameter does when it is given: a switch (`flag`) or an option with one value
(`single`) is refused when given twice, the values of `many` accumulate, and `help` and
`version` print. -/
inductive Action where
  | flag
  | single
  | many
  | help
  | version
  deriving DecidableEq, Repr

/-- A parameter of a command. A positional is given by position, and a `last` one takes only the
arguments after `--`; `delimiter` splits one argument into several values; `shared` parameters
are accepted by the subcommands too; `order` places the parameter in the help; and `check` gives
the reason a value is refused, if it is. -/
structure Param where
  id : String
  short : Option Char := none
  long : Option String := none
  valueName : String := ""
  help : String := ""
  action : Action
  required : Bool := false
  positional : Bool := false
  last : Bool := false
  optional : Bool := false
  delimiter : Option Char := none
  default : Option String := none
  shared : Bool := false
  order : Nat := 999
  check : String → Option String := fun _ => none

def Param.takesValue (p : Param) : Bool :=
  p.action = .single || p.action = .many

structure Leaf where
  name : String
  about : String
  params : List Param
  hidden : Bool := false

structure Program where
  name : String
  about : String
  version : String
  params : List Param
  subcommands : List Leaf

/-- One level of the grammar as the parser sees it. -/
structure Scope where
  usageName : String
  about : String
  params : List Param
  subcommands : List Leaf
  needsSubcommand : Bool
  helpFlag : Bool
  version : Option String
  group : List String := []

def helpParam : Param :=
  { id := "help", short := some 'h', long := some "help", help := "Print help", action := .help }

def versionParam : Param :=
  { id := "version", short := some 'V', long := some "version", help := "Print version",
    action := .version }

def helpTopics : Param :=
  { id := "subcommand", valueName := "COMMAND", help := "Print help for the subcommand(s)",
    action := .many, positional := true, optional := true }

def helpLeaf : Leaf :=
  { name := "help", about := "Print this message or the help of the given subcommand(s)",
    params := [helpTopics] }

/-- The subcommands of a program, the built-in `help` last. -/
def Program.leaves (p : Program) : List Leaf := p.subcommands ++ [helpLeaf]

def Program.scope (p : Program) : Scope :=
  { usageName := p.name, about := p.about, params := p.params ++ [helpParam, versionParam],
    subcommands := p.leaves, needsSubcommand := true, helpFlag := true, version := some p.version,
    group := p.params.map (·.id) }

def Program.leafScope (p : Program) (l : Leaf) : Scope :=
  if l.name = helpLeaf.name then
    { usageName := p.name ++ " " ++ l.name, about := l.about, params := l.params, subcommands := [],
      needsSubcommand := false, helpFlag := false, version := none }
  else
    { usageName := p.name ++ " " ++ l.name, about := l.about,
      params := l.params ++ p.params.filter (·.shared) ++ [helpParam], subcommands := [],
      needsSubcommand := false, helpFlag := true, version := none, group := l.params.map (·.id) }

def Program.leaf? (p : Program) (name : String) : Option Leaf :=
  p.leaves.find? (·.name = name)

namespace Scope

def param? (s : Scope) (id : String) : Option Param :=
  s.params.find? (·.id = id)

def byLong? (s : Scope) (name : String) : Option Param :=
  s.params.find? fun p => !p.positional && p.long = some name

def byShort? (s : Scope) (c : Char) : Option Param :=
  s.params.find? fun p => !p.positional && p.short = some c

def longs (s : Scope) : List String :=
  s.params.filterMap fun p => if p.positional then none else p.long

def positionals (s : Scope) : List Param :=
  s.params.filter (·.positional)

def hasSubcommands (s : Scope) : Bool := !s.subcommands.isEmpty

def subcommand? (s : Scope) (name : String) : Option Leaf :=
  s.subcommands.find? (·.name = name)

end Scope

end NamespaceBootstrap.Cli
