import NamespaceBootstrap.Cli.Help

/-!
Why a command line was not accepted, and the text printed for it.

Printing the help or the version also ends the parse, as a failure of its own kind: its text is
the help or the version, printed on standard output with exit code `0`. Every other failure
prints on standard error with exit code `2`: `error: ` and the reason, then any suggestions
(`  tip: …`), the usage line, and a pointer to `--help` when the level has that switch.
-/

namespace NamespaceBootstrap.Cli

inductive FailureKind where
  | displayHelp
  | displayVersion
  | helpOnMissing
  | missingRequired
  | missingSubcommand
  | unknownArgument
  | invalidSubcommand
  | valueValidation
  | invalidValue
  | argumentConflict
  | tooManyValues
  deriving DecidableEq, Repr

def FailureKind.name : FailureKind → String
  | .displayHelp => "DisplayHelp"
  | .displayVersion => "DisplayVersion"
  | .helpOnMissing => "DisplayHelpOnMissingArgumentOrSubcommand"
  | .missingRequired => "MissingRequiredArgument"
  | .missingSubcommand => "MissingSubcommand"
  | .unknownArgument => "UnknownArgument"
  | .invalidSubcommand => "InvalidSubcommand"
  | .valueValidation => "ValueValidation"
  | .invalidValue => "InvalidValue"
  | .argumentConflict => "ArgumentConflict"
  | .tooManyValues => "TooManyValues"

structure Failure where
  kind : FailureKind
  text : String
  deriving DecidableEq, Repr

namespace Failure

/-- Whether the text goes to standard output: only for help and version asked for. -/
def toStdout (f : Failure) : Bool :=
  f.kind = .displayHelp || f.kind = .displayVersion

def exitCode (f : Failure) : UInt8 := if f.toStdout then 0 else 2

end Failure

inductive Similar where
  | none
  | subcommands (names : List String)
  | argument (name : String)

def Similar.line : Similar → Option String
  | .none => Option.none
  | .subcommands [n] => some ("a similar subcommand exists: '" ++ n ++ "'")
  | .subcommands ns => some ("some similar subcommands exist: " ++
      ", ".intercalate (ns.map fun n => "'" ++ n ++ "'"))
  | .argument n => some ("a similar argument exists: '" ++ n ++ "'")

/-- The text of an error: reason, suggestions, usage and the pointer to the help. -/
def errorText (s : Scope) (reason : String) (similar : Similar) (tips : List String)
    (usage : Option String) : String :=
  let similarPart := match similar.line with
    | some l => "\n\n  tip: " ++ l
    | none => ""
  let tipPart :=
    if tips.isEmpty then ""
    else (if similarPart = "" then "\n" else "") ++ String.join (tips.map ("\n  tip: " ++ ·))
  let usagePart := match usage with
    | some u => "\n\n" ++ u
    | none => ""
  let hint :=
    if s.helpFlag then "\n\nFor more information, try '--help'.\n"
    else if s.hasSubcommands then "\n\nFor more information, try 'help'.\n"
    else "\n"
  "error: " ++ reason ++ similarPart ++ tipPart ++ usagePart ++ hint

namespace Failure

def unknownArgument (s : Scope) (arg : String) (similar : Similar) (tips : List String)
    (given : List String) : Failure :=
  ⟨.unknownArgument, errorText s ("unexpected argument '" ++ arg ++ "' found") similar tips
    (some (s.usageAfter given false))⟩

/-- The tip for an argument that could have been meant as a value. -/
def asValueTip (arg : String) : String :=
  "to pass '" ++ arg ++ "' as a value, use '-- " ++ arg ++ "'"

def unknownSubcommand (s : Scope) (word : String) (similar : Similar) : Failure :=
  ⟨.invalidSubcommand, errorText s ("unrecognized subcommand '" ++ word ++ "'") similar []
    (some (s.usageAfter [] false))⟩

def subcommandAfterEscape (s : Scope) (word : String) : Failure :=
  ⟨.unknownArgument, errorText s ("unexpected argument '" ++ word ++ "' found") .none
    ["subcommand '" ++ word ++ "' exists; to use it, remove the '--' before it"]
    (some (s.usageAfter [] false))⟩

def missingValue (s : Scope) (p : Param) : Failure :=
  ⟨.invalidValue, errorText s ("a value is required for '" ++ p.shown ++ "' but none was supplied")
    .none [] none⟩

def refusedValue (s : Scope) (p : Param) (value reason : String) : Failure :=
  let text := "invalid value '" ++ value ++ "' for '" ++ p.shown ++ "': " ++ reason
  ⟨.valueValidation, errorText s text .none [] none⟩

def repeated (s : Scope) (p : Param) : Failure :=
  ⟨.argumentConflict, errorText s ("the argument '" ++ p.shown ++ "' cannot be used multiple times")
    .none [] (some (s.usageAfter [] false))⟩

/-- A value attached to a switch; `grouped` when a member of the level's argument group was
given. -/
def unexpectedValue (s : Scope) (p : Param) (value : String) (given : List String)
    (grouped : Bool) : Failure :=
  ⟨.tooManyValues, errorText s ("unexpected value '" ++ value ++ "' for '" ++ p.shown ++
    "' found; no more were expected") .none [] (some (s.usageAfter given grouped))⟩

def missing (s : Scope) (absent : List Param) (given : List String) : Failure :=
  let opts := (absent.filter (!·.positional)).map (·.shownAs true)
  let poss := (absent.filter (·.positional)).map (·.shownAs true)
  ⟨.missingRequired, errorText s ("the following required arguments were not provided:" ++
    String.join ((opts ++ poss).map ("\n  " ++ ·))) .none [] (some (s.usageAfter given false))⟩

def noSubcommand (s : Scope) : Failure :=
  let names := s.subcommands.map (·.name)
  let text := "'" ++ s.usageName ++ "' requires a subcommand but one was not provided" ++
    "\n  [subcommands: " ++ ", ".intercalate names ++ "]"
  ⟨.missingSubcommand, errorText s text .none [] (some (s.usageAfter [] false))⟩

def help (s : Scope) : Failure := ⟨.displayHelp, s.helpText⟩

def helpOnEmpty (s : Scope) : Failure := ⟨.helpOnMissing, s.helpText⟩

def version (s : Scope) (v : String) : Failure := ⟨.displayVersion, s.usageName ++ " " ++ v ++ "\n"⟩

end Failure

end NamespaceBootstrap.Cli
