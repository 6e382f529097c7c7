/-!
# Command line arguments

Options may stand anywhere among the arguments of a command; those that concern all commands stand
before its name. After `--` there are no more options.
-/

namespace BlockScript.CommandLine

/-- An option by its long name and, if it has one, its letter. -/
structure Switch where
  name : String
  letter : Option Char
  takesValue : Bool

/-- The options that are given, with their values, and the other arguments. -/
structure Parsed where
  given : List (String × Option String)
  positional : List String

namespace Parsed

def withGiven (more : List (String × Option String)) (p : Parsed) : Parsed :=
  { p with given := more ++ p.given }

def withPositional (arg : String) (p : Parsed) : Parsed :=
  { p with positional := arg :: p.positional }

def has (p : Parsed) (name : String) : Bool :=
  p.given.any (·.1 == name)

/-- The value of an option; the last one counts. -/
def value? (p : Parsed) (name : String) : Option String :=
  (p.given.reverse.find? (·.1 == name)).bind (·.2)

end Parsed

/-- What one argument says: options, of which the last may still need the next argument as its
value. -/
structure Word where
  given : List (String × Option String)
  pending : Option String

/-- An option written out, with a value after an equals sign if there is one. -/
def longWord? (switches : List Switch) (name : List Char) (value : Option (List Char)) : Option Word :=
  match switches.find? (·.name == String.ofList name) with
  | none => none
  | some s =>
    match s.takesValue, value with
    | true, some v => some ⟨[(s.name, some (String.ofList v))], none⟩
    | true, none => some ⟨[], some s.name⟩
    | false, some _ => none
    | false, none => some ⟨[(s.name, none)], none⟩

/-- Letters of options; the one that takes a value has it in the letters that follow, or in the next
argument. -/
def letterWord? (switches : List Switch) : List Char → Option Word
  | [] => some ⟨[], none⟩
  | c :: cs =>
    match switches.find? (·.letter == some c) with
    | none => none
    | some s =>
      if !s.takesValue then
        (letterWord? switches cs).map fun w => ⟨(s.name, none) :: w.given, w.pending⟩
      else if cs.isEmpty then some ⟨[], some s.name⟩
      else some ⟨[(s.name, some (String.ofList cs))], none⟩

/-- Reads an argument that starts with a hyphen; there is none if it means no option. -/
def word? (switches : List Switch) (arg : List Char) : Option Word :=
  match arg with
  | '-' :: '-' :: body =>
    let name := body.takeWhile (· ≠ '=')
    longWord? switches name (match body.dropWhile (· ≠ '=') with | _ :: v => some v | [] => none)
  | _ :: letters => letterWord? switches letters
  | [] => none

def isOption (arg : String) : Bool :=
  arg.toList.head? == some '-' && arg.length > 1

/-- Tells options from other arguments. With `stopEarly`, all arguments from the first other one on
are left as they are. Unknown options and missing values are refused. -/
def parse? (switches : List Switch) (stopEarly : Bool) : List String → Option Parsed
  | [] => some ⟨[], []⟩
  | arg :: rest =>
    if arg = "--" then some ⟨[], rest⟩
    else if isOption arg then
      match word? switches arg.toList with
      | none => none
      | some ⟨given, none⟩ => (parse? switches stopEarly rest).map (·.withGiven given)
      | some ⟨given, some name⟩ =>
        match rest with
        | [] => none
        | value :: rest =>
          (parse? switches stopEarly rest).map (·.withGiven (given ++ [(name, some value)]))
    else if stopEarly then some ⟨[], arg :: rest⟩
    else (parse? switches stopEarly rest).map (·.withPositional arg)

/-! ### Commands -/

inductive Command
  /-- Show the diagnostics of a file. -/
  | check (file : String) (settings : Option String)
  /-- Show the instructions of a file. -/
  | compile (file : String) (block : Option String) (json optimize : Bool) (settings : Option String)
  /-- List the presets, or show the lines of one. -/
  | presets (id : Option String)
deriving DecidableEq

/-- A command, and whether messages are shown while it works. -/
structure Invocation where
  verbose : Bool
  command : Command
deriving DecidableEq

/-- What the arguments ask for. -/
inductive Request
  | run (invocation : Invocation)
  | help
  | misused
deriving DecidableEq

def helpSwitch : Switch := ⟨"help", none, false⟩

def generalSwitches : List Switch :=
  [⟨"verbose", some 'v', false⟩, helpSwitch]

def settingsSwitch : Switch := ⟨"settings", some 's', true⟩

def compileSwitches : List Switch := [
  ⟨"block-id", some 'b', true⟩,
  ⟨"json", none, false⟩,
  ⟨"no-optimize", none, false⟩,
  settingsSwitch,
  helpSwitch]

/-- The switches of a command and what it does with its arguments. -/
def commands : List (String × List Switch × (Parsed → Option Command)) := [
  ("check", [settingsSwitch, helpSwitch], fun p =>
    match p.positional with
    | [file] => some (.check file (p.value? "settings"))
    | _ => none),
  ("compile", compileSwitches, fun p =>
    match p.positional with
    | [file] =>
      some (.compile file (p.value? "block-id") (p.has "json") (!p.has "no-optimize")
        (p.value? "settings"))
    | _ => none),
  ("presets", [helpSwitch], fun p =>
    match p.positional with
    | [] => some (.presets none)
    | [id] => some (.presets (some id))
    | _ => none)]

/-- Reads the arguments of a command that has been found. -/
def Request.ofCommand (verbose : Bool) (switches : List Switch) (read : Parsed → Option Command)
    (args : List String) : Request :=
  match parse? switches false args with
  | none => .misused
  | some p =>
    if p.has "help" then .help
    else
      match read p with
      | some command => .run ⟨verbose, command⟩
      | none => .misused

/-- Reads the arguments of the program. -/
def Request.ofArguments (args : List String) : Request :=
  match parse? generalSwitches true args with
  | none => .misused
  | some p =>
    if p.has "help" then .help
    else
      match p.positional with
      | [] => .misused
      | name :: rest =>
        match commands.find? (·.1 == name) with
        | none => .misused
        | some (_, switches, read) => .ofCommand (p.has "verbose") switches read rest

end BlockScript.CommandLine
