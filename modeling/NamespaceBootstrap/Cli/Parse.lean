import NamespaceBootstrap.Cli.Failure
import NamespaceBootstrap.Cli.Similar

/-!
Parsing a command line against a program's grammar.

The arguments are read left to right. At the program's level a word naming a subcommand ends the
level and the rest is parsed by the subcommand (`help` instead prints the help of the
subcommands named after it). `--` ends the options: every later argument is a value. `--name`
and `--name=value` name a long parameter; `-abc` is a cluster of short switches, where the
first short option takes the rest of the cluster (after an optional `=`) as its value. An
option without an attached value takes the next argument.

Values are checked when their option is complete, which is when the next parameter is acted
on, a positional is met, or the arguments end; an unknown argument is reported even if the
values before it would be refused. A single-valued parameter or switch given twice is refused,
and so is a positional that only follows `--` when it is given without it.

When the arguments end, the default values are filled in, a level that needs a subcommand
without one prints its help (given nothing) or says one is needed, and required parameters
that were not given are listed.
-/

namespace NamespaceBootstrap.Cli

structure Given where
  id : String
  values : List String
  explicit : Bool
  deriving DecidableEq, Repr

structure Pending where
  id : String
  values : List String
  deriving DecidableEq, Repr

inductive Mode where
  | ready
  | option (id : String)
  | positional (id : String)
  deriving DecidableEq, Repr

structure Level where
  given : List Given := []
  pending : Option Pending := none
  mode : Mode := .ready
  escaped : Bool := false
  deriving Repr

namespace Level

def has (l : Level) (id : String) : Bool := l.given.any (·.id = id)

def hasExplicit (l : Level) (id : String) : Bool := l.given.any fun g => g.id = id && g.explicit

def explicitIds (l : Level) : List String := (l.given.filter (·.explicit)).map (·.id)

def remove (l : Level) (id : String) : Level := { l with given := l.given.filter (·.id ≠ id) }

def start (l : Level) (id : String) : Level :=
  if l.has id then
    { l with given := l.given.map fun g => if g.id = id then { g with explicit := true } else g }
  else { l with given := l.given ++ [⟨id, [], true⟩] }

def addValue (l : Level) (id : String) (v : String) : Level :=
  { l with given := l.given.map fun g =>
      if g.id = id then { g with values := g.values ++ [v] } else g }

def addPending (l : Level) (id : String) (v : String) : Level :=
  match l.pending with
  | some p => { l with pending := some { p with values := p.values ++ [v] } }
  | none => { l with pending := some ⟨id, [v]⟩ }

end Level

/-- A step's resulting state, with the failure that stopped it if one did. The state is kept
even on failure: some failures are passed over and the parse goes on from that state. -/
abbrev Effect := Level × Option Failure

def Effect.check : Effect → Except Failure Level
  | (l, none) => .ok l
  | (_, some f) => .error f

def splitValues (p : Param) (vs : List String) : List String :=
  match p.delimiter with
  | some d => vs.flatMap fun v => v.splitOn (String.singleton d)
  | none => vs

def pushValues (s : Scope) (p : Param) (l : Level) : List String → Effect
  | [] => (l, none)
  | v :: vs =>
    match p.check v with
    | some reason => (l, some (Failure.refusedValue s p v reason))
    | none => pushValues s p (l.addValue p.id v) vs

def apply (s : Scope) (l : Level) (p : Param) (vs : List String) : Effect :=
  if p.takesValue && vs.isEmpty then (l, some (Failure.missingValue s p))
  else
    let vs := splitValues p vs
    match p.action with
    | .flag =>
      if l.has p.id then (l.remove p.id, some (Failure.repeated s p))
      else pushValues s p (l.start p.id) ["true"]
    | .single =>
      if l.has p.id then (l.remove p.id, some (Failure.repeated s p))
      else pushValues s p (l.start p.id) vs
    | .many => pushValues s p (l.start p.id) vs
    | .help => (l, some (Failure.help s))
    | .version => (l, some (Failure.version s (s.version.getD "")))

def resolve (s : Scope) (l : Level) : Effect :=
  match l.pending with
  | none => (l, none)
  | some pend =>
    let l := { l with pending := none }
    match s.param? pend.id with
    | some p => apply s l p pend.values
    | none => (l, none)

def react (s : Scope) (l : Level) (p : Param) (vs : List String) : Effect :=
  match resolve s l with
  | (l, some f) => (l, some f)
  | (l, none) => apply s l p vs

/-- Completes the pending option, passing over its failure. -/
def settle (s : Scope) (l : Level) : Level := (resolve s l).1

def positionIn (name : String) (args : List String) : Option Nat :=
  args.findIdx? (· = name)

/-- A long name alike to `name`: of this level, or else of the subcommand named soonest in
the arguments that follow. -/
def similarLong (prog : Program) (s : Scope) (name : String) (rest : List String) :
    Option (String × Option String) :=
  match (similar name s.longs).getLast? with
  | some c => some (c, none)
  | none =>
    let scored := s.subcommands.filterMap fun leaf =>
      match (similar name (prog.leafScope leaf).longs).getLast?, positionIn leaf.name rest with
      | some c, some i => some (i, (c, some leaf.name))
      | _, _ => none
    let best := scored.foldl (fun acc x => match acc with
      | some y => if x.1 < y.1 then some x else some y
      | none => some x) none
    best.map (·.2)

def unknownLong (prog : Program) (s : Scope) (l : Level) (name : String) (rest : List String) :
    Failure :=
  let arg := "--" ++ name
  let guess := similarLong prog s name rest
  let l := match guess with
    | some (c, none) => match s.byLong? c with
      | some p => l.start p.id
      | none => l
    | _ => l
  let asValue :=
    (guess.isNone || s.positionals.any (·.last)) && !l.escaped && !s.positionals.isEmpty
  let tips := (if asValue then [Failure.asValueTip arg] else []) ++
    (match guess with
      | some (c, some sub) => ["'" ++ sub ++ " --" ++ c ++ "' exists"]
      | _ => [])
  let sim := match guess with
    | some (c, none) => Similar.argument ("--" ++ c)
    | _ => Similar.none
  Failure.unknownArgument s arg sim tips l.explicitIds

def unmatched (s : Scope) (l : Level) (arg : String) : Failure :=
  if l.escaped && (s.subcommand? arg).isSome then Failure.subcommandAfterEscape s arg
  else
    let looksNamed := arg.startsWith "-" && arg ≠ "-" && arg ≠ "--"
    let tips :=
      if !l.escaped && !s.positionals.isEmpty && looksNamed then [Failure.asValueTip arg] else []
    if s.hasSubcommands then
      match similar arg (s.subcommands.map (·.name)) with
      | [] =>
        if s.positionals.isEmpty then Failure.unknownSubcommand s arg .none
        else Failure.unknownArgument s arg .none tips []
      | names => Failure.unknownSubcommand s arg (.subcommands names)
    else Failure.unknownArgument s arg .none tips []

inductive Cluster where
  | done (l : Level) (mode : Mode)
  | unknown (l : Level) (arg : String)

def shortCluster (s : Scope) (l : Level) : List Char → Except Failure Cluster
  | [] => .ok (.done l .ready)
  | c :: cs =>
    match s.byShort? c with
    | none => .ok (.unknown l (String.ofList ['-', c]))
    | some p =>
      if !p.takesValue then do
        let l ← (react s l p []).check
        shortCluster s l cs
      else
        let attached := match cs with
          | [] => none
          | '=' :: v => some (String.ofList v)
          | v => some (String.ofList v)
        match attached with
        | some v => do
          let l ← (react s l p [v]).check
          pure (.done l .ready)
        | none => do
          let l ← (resolve s l).check
          pure (.done { l with pending := some ⟨p.id, []⟩ } (.option p.id))

def splitLong (body : List Char) : String × Option String :=
  match body.findIdx? (· = '=') with
  | some i => (String.ofList (body.take i), some (String.ofList (body.drop (i + 1))))
  | none => (String.ofList body, none)

inductive Stop where
  | finished (l : Level)
  | descend (l : Level) (name : String) (rest : List String)

def readLevel (prog : Program) (s : Scope) (l : Level) : List String → Except Failure Stop
  | [] => .ok (.finished l)
  | a :: rest =>
    let named := a.startsWith "-" && a ≠ "-"
    let positional : Except Failure Stop :=
      let target := if l.escaped && s.positionals.any (·.last) then s.positionals.getLast?
        else s.positionals.head?
      match target with
      | some p =>
        if p.last && !l.escaped then
          .error (Failure.unknownArgument s a .none [] [])
        else do
          let l ← if l.pending.map (·.id) = some p.id then pure l else (resolve s l).check
          readLevel prog s { l.addPending p.id a with mode := .positional p.id } rest
      | none => .error (unmatched s (settle s l) a)
    if l.escaped then positional
    else
      match s.subcommand? a with
      | some leaf => .ok (.descend l leaf.name rest)
      | none =>
        if a = "--" then readLevel prog s { l with escaped := true } rest
        else if a.startsWith "--" then
          let (name, value) := splitLong (a.toList.drop 2)
          match s.byLong? name, value with
          | some p, some v =>
            if p.takesValue then do
              let l ← (react s l p [v]).check
              readLevel prog s { l with mode := .ready } rest
            else
              let used := (l.given.filter fun g => g.explicit &&
                !((s.param? g.id).map (·.required)).getD false).map (·.id) ++ [p.id]
              let grouped := l.given.any fun g => g.explicit && s.group.contains g.id
              .error (Failure.unexpectedValue s p v used grouped)
          | some p, none =>
            if p.takesValue then do
              let l ← (resolve s l).check
              readLevel prog s { l with pending := some ⟨p.id, []⟩, mode := .option p.id } rest
            else do
              let l ← (react s l p []).check
              readLevel prog s { l with mode := .ready } rest
          | none, _ => .error (unknownLong prog s (settle s l) name rest)
        else if named then do
          match ← shortCluster s l (a.toList.drop 1) with
          | .done l mode => readLevel prog s { l with mode := mode } rest
          | .unknown l arg =>
            let tips :=
              if !l.escaped && !s.positionals.isEmpty then [Failure.asValueTip arg] else []
            .error (Failure.unknownArgument s arg .none tips [])
        else
          match l.mode with
          | .option id => readLevel prog s { l.addPending id a with mode := .ready } rest
          | _ => positional

def addDefaults (s : Scope) (l : Level) : Level :=
  s.params.foldl (fun l p => match p.default with
    | some d =>
      if l.has p.id then l else { l with given := l.given ++ [⟨p.id, splitValues p [d], false⟩] }
    | none => l) l

/-- Ends a level: completes the pending option, fills in defaults and checks what is needed. -/
def finishLevel (s : Scope) (l : Level) (named : Bool) : Except Failure Level := do
  let l ← (resolve s l).check
  let l := addDefaults s l
  if !named && s.needsSubcommand then
    if l.explicitIds.isEmpty then throw (Failure.helpOnEmpty s) else throw (Failure.noSubcommand s)
  let absent := s.params.filter fun p => p.required && !l.hasExplicit p.id
  if absent.isEmpty then pure l
  else throw (Failure.missing s absent (l.explicitIds ++ absent.map (·.id)))

/-- The help asked for with the `help` subcommand: of the program, or of the subcommand named. -/
def helpFor (prog : Program) : List String → Failure
  | [] => Failure.help prog.scope
  | n :: ns =>
    match prog.leaf? n with
    | none => Failure.unknownSubcommand prog.scope n .none
    | some leaf =>
      let ls := prog.leafScope leaf
      match ns with
      | [] => Failure.help ls
      | m :: _ => Failure.unknownSubcommand ls m .none

structure Parsed where
  root : List Given
  sub : Option (String × List Given)
  deriving Repr

def parse (prog : Program) (args : List String) : Except Failure Parsed := do
  let root := prog.scope
  match ← readLevel prog root {} args with
  | .finished l =>
    let l ← finishLevel root l false
    pure ⟨l.given, none⟩
  | .descend l name rest =>
    if name = helpLeaf.name then throw (helpFor prog rest)
    match prog.leaf? name with
    | none => throw (Failure.unknownSubcommand root name .none)
    | some leaf =>
      let ls := prog.leafScope leaf
      let sl ← match ← readLevel prog ls {} rest with
        | .finished sl => finishLevel ls sl false
        | .descend sl _ _ => finishLevel ls sl true
      let l ← finishLevel root l true
      pure ⟨l.given, some (name, sl.given)⟩

end NamespaceBootstrap.Cli
