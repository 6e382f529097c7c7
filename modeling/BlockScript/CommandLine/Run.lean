import BlockScript.CommandLine.Arguments
import BlockScript.CommandLine.Report

/-!
# Running commands

A command turns the files it names into an exit code and what is written on the two outputs.
-/

namespace BlockScript.CommandLine

/-! ### Files -/

/-- What is found at a path. -/
inductive FileAt
  | missing
  | directory
  | text (content : String)

/-- The parts of a path between slashes, without the empty ones and those that lead nowhere. -/
def pathParts (path : String) : List String :=
  (split path.toList).filter fun part => part ≠ "" && part ≠ "."
where
  split (cs : List Char) : List String :=
    (cs.foldr (fun c parts =>
      if c = '/' then [] :: parts
      else
        match parts with
        | [] => [[c]]
        | part :: rest => (c :: part) :: rest) [[]]).map String.ofList

/-- The shortest spelling of a path; the empty path is that of the directory one is in. -/
def normalizePath (path : String) : String :=
  let body := "/".intercalate (pathParts path)
  if path.toList.head? = some '/' then "/" ++ body
  else if body = "" then "."
  else body

/-- The last part of a path. -/
def fileName (path : String) : String :=
  ((pathParts path).getLast?).getD ""

/-- The name of a file without what follows its last point; a point at either end of the name is
part of it. -/
def fileStem (path : String) : String :=
  let name := (fileName path).toList
  let extension := name.reverse.takeWhile (· ≠ '.')
  let stem := name.take (name.length - extension.length - 1)
  if extension.length < name.length ∧ extension ≠ [] ∧ stem ≠ [] then String.ofList stem
  else String.ofList name

/-! ### Output -/

/-- The parameters and the letter of a terminal control sequence, and what follows it. -/
def controlTail? : List Char → Option (List Char)
  | [] => none
  | c :: cs =>
    if c.isAlpha then some cs
    else if c = ';' ∨ c = '?' ∨ c.isDigit then controlTail? cs
    else none

theorem length_of_controlTail? {cs rest : List Char} (h : controlTail? cs = some rest) :
    rest.length < cs.length := by
  induction cs with
  | nil => simp [controlTail?] at h
  | cons c cs ih =>
    simp only [controlTail?] at h
    split at h
    · simp_all
    · split at h
      · have := ih h
        simp only [List.length_cons]
        omega
      · simp at h

/-- A text without terminal control sequences. -/
def dropControls : List Char → List Char
  | [] => []
  | '\x1b' :: '[' :: cs =>
    match h : controlTail? cs with
    | some rest =>
      have := length_of_controlTail? h
      dropControls rest
    | none => '\x1b' :: dropControls ('[' :: cs)
  | c :: cs => c :: dropControls cs
termination_by cs => cs.length

/-- A line of output. -/
def outputLine (s : String) : String :=
  String.ofList (dropControls s.toList) ++ "\n"

def outputLines (lines : List String) : String :=
  String.join (lines.map outputLine)

/-- How the program ends. -/
structure Exit where
  code : Nat
  output : String
  errors : String
deriving DecidableEq

/-- Why a command cannot be carried out at all. -/
inductive Failure
  | settings (e : SettingsError)
  | compilation (e : CompilationError)
  | number (e : NumberError)
  | isDirectory (path : String)
deriving DecidableEq

def Failure.message? : Failure → Option String
  | .settings e => e.message?
  | .compilation (.settings e) => e.message?
  | .compilation (.number e) => some e.message
  | .compilation .widthTooLarge => none
  | .compilation (.unknownPreset id) => some ("Unknown preset: " ++ Text.quoted id)
  | .number e => some e.message
  | .isDirectory path => some ("[Errno 21] Is a directory: " ++ Text.quoted path)

/-- Messages on the error output. -/
def logLines (log : List LogEntry) : List String :=
  log.map fun e => "[" ++ e.level.name ++ "] " ++ e.message

def usage : String :=
  outputLines [
    "Usage: blockscript [--verbose] COMMAND [ARGUMENTS]",
    "",
    "Commands:",
    "  check FILE [--settings INI]",
    "  compile FILE [--block-id ID] [--json] [--no-optimize] [--settings INI]",
    "  presets [ID]"]

/-! ### Commands -/

/-- The settings at a path; without a file there, the defaults. -/
def settingsAt (files : String → FileAt) (path : Option String) : Except Failure Settings :=
  match path.map fun p => files (normalizePath p) with
  | some (.text content) => (Settings.ofFile content).mapError .settings
  | _ => .ok .default

/-- The compilation of a file, with the settings for it; nothing if there is no such file. A file under
settings with bad lifetimes is not looked for. -/
def compileFile (files : String → FileAt) (file : String) (block : Option String) (optimize : Bool)
    (settings : Option String) :
    Except Failure (Option (Settings × Logged (Except CompilationError Compilation))) := do
  let s ← settingsAt files settings
  let _ ← s.lifetimes.mapError .settings
  let path := normalizePath file
  match files path with
  | .missing => return none
  | .directory => throw (.isDirectory path)
  | .text content =>
    let id := (block.filter (· ≠ "")).getD (fileStem path)
    return some (s, Compilation.ofLines s optimize id (Text.splitLines content))

/-- The end of a command about a file that is not there. -/
def notFound (file : String) : Exit :=
  ⟨2, "", outputLine ("File not found: " ++ normalizePath file)⟩

/-- The compilation of a file together with its messages and the limit for diagnostics. -/
structure Compiled where
  compilation : Compilation
  limit : Except Failure Int
  messages : String

def compiled? (files : String → FileAt) (verbose : Bool) (file : String) (block : Option String)
    (optimize : Bool) (settings : Option String) : Except Failure (Option Compiled) := do
  match ← compileFile files file block optimize settings with
  | none => return none
  | some (s, r) =>
    let c ← r.value.mapError .compilation
    return some ⟨c, s.maxDiagnostics.mapError .settings,
      if verbose then outputLines (logLines r.log) else ""⟩

def check (files : String → FileAt) (verbose : Bool) (file : String) (settings : Option String) :
    Except Failure Exit := do
  match ← compiled? files verbose file none true settings with
  | none => return notFound file
  | some ⟨c, limit, messages⟩ =>
    let shown := diagnosticLines (← limit) c.diagnostics
    let warnings := toString c.warnings.length ++ " warning(s)"
    if c.valid then
      let last := "✓ " ++ fileName file ++ ": " ++ toString c.instructions.length ++
        " instruction(s), " ++ warnings
      return ⟨0, outputLines (shown ++ [last]), messages⟩
    else
      let last := "✗ " ++ toString c.errors.length ++ " error(s), " ++ warnings
      return ⟨1, outputLines (shown ++ [last]), messages⟩

def compile (files : String → FileAt) (verbose : Bool) (file : String) (block : Option String)
    (json optimize : Bool) (settings : Option String) : Except Failure Exit := do
  match ← compiled? files verbose file block optimize settings with
  | none => return notFound file
  | some ⟨c, limit, messages⟩ =>
    if json then return ⟨0, outputLine (c.json.write 0), messages⟩
    else
      let lines ← (c.lines (← limit)).mapError .number
      return ⟨0, outputLines lines, messages⟩

def presets (id : Option String) : Exit :=
  match id with
  | none => ⟨0, outputLines Presets.default.ids, ""⟩
  | some id =>
    match Presets.default.find? id with
    | some preset => ⟨0, outputLines preset.lines, ""⟩
    | none => ⟨1, "", outputLine ("Unknown preset: " ++ id)⟩

/-- Carries out a command. -/
def Invocation.run (files : String → FileAt) (i : Invocation) : Except Failure Exit :=
  match i.command with
  | .check file settings => CommandLine.check files i.verbose file settings
  | .compile file block json optimize settings =>
    CommandLine.compile files i.verbose file block json optimize settings
  | .presets id => .ok (CommandLine.presets id)

/-- The paths of the files that a command reads. -/
def Invocation.paths (i : Invocation) : List String :=
  match i.command with
  | .check file settings => normalizePath file :: (settings.map normalizePath).toList
  | .compile file _ _ _ settings => normalizePath file :: (settings.map normalizePath).toList
  | .presets _ => []

/-- Does what the arguments ask for. -/
def run (files : String → FileAt) (args : List String) : Except Failure Exit :=
  match Request.ofArguments args with
  | .run invocation => invocation.run files
  | .help => .ok ⟨0, usage, ""⟩
  | .misused => .ok ⟨2, "", usage⟩

end BlockScript.CommandLine
