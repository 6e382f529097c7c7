import BlockScript.Alias
import BlockScript.Grammar.Validator
import BlockScript.Instruction.Extraction
import BlockScript.Instruction.Optimization
import BlockScript.Preset
import BlockScript.Recovery
import BlockScript.Settings

/-!
# Compilation

From the lines of a block to its instructions: aliases are expanded, lines are validated, what is bad is
blanked, and the rest is extracted and optimized.
-/

namespace BlockScript

/-- What a block compiles to. -/
structure Compilation where
  id : String
  /-- All diagnostics, by place. -/
  diagnostics : List Diagnostic
  /-- The statements that are left after recovery. -/
  block : Block
  extraction : Extraction
  instructions : List Instruction
  report : OptimizationReport
  /-- Whether nothing is to be executed because of errors. -/
  fallback : Bool

/-- Why a block cannot be compiled at all. -/
inductive CompilationError
  | settings (e : SettingsError)
  | number (e : NumberError)
  /-- Tabs cannot be expanded to columns that far apart. -/
  | widthTooLarge
  | unknownPreset (id : String)
deriving DecidableEq

namespace Compilation

def errors (c : Compilation) : List Diagnostic :=
  c.diagnostics.filter (·.isError)

def warnings (c : Compilation) : List Diagnostic :=
  c.diagnostics.filter (!·.isError)

def valid (c : Compilation) : Bool :=
  c.errors.isEmpty

/-- The lines that have errors. -/
def badLines (verdicts : List Grammar.Verdict) : List Int :=
  (verdicts.filter (!·.valid)).map (·.line)

/-- The instructions to be executed, and what became of the extracted ones. -/
def select (optimize : Bool) (is : List Instruction) : List Instruction × OptimizationReport :=
  if optimize then Optimization.optimizeWithReport is
  else (is, ⟨is.length, 0, 0, is.length⟩)

/-- Puts together the compilation of a block. -/
def assemble (strict optimize : Bool) (id : String) (verdicts : List Grammar.Verdict) (r : Recovery)
    (block : Block) (e : Extraction) : Compilation :=
  let diagnostics := Diagnostic.sort
    (verdicts.flatMap (·.diagnostics) ++ r.warnings ++ e.errors ++ e.warnings)
  let selected := select optimize e.instructions
  {
    id := id
    diagnostics := diagnostics
    block := block
    extraction := e
    instructions := selected.1
    report := selected.2
    fallback := diagnostics.any (·.isError) && (strict || selected.1.isEmpty) }

/-- The messages about a finished compilation. -/
def summary (c : Compilation) : List LogEntry :=
  (if c.valid then []
    else [⟨.warning, "Block " ++ Text.quoted c.id ++ ": " ++ toString c.errors.length ++ " error(s)"⟩]) ++
    [⟨.info, "Block " ++ Text.quoted c.id ++ " compiled: " ++ toString c.instructions.length ++
      " instruction(s)"⟩]

/-- Compiles lines that have been validated. -/
def ofVerdicts (width : Nat) (strict optimize : Bool) (id : String) (verdicts : List Grammar.Verdict)
    (source : List String) : Logged (Except NumberError Compilation) :=
  let r := Recovery.ofSource width strict id (badLines verdicts) source
  let block := Block.ofLines width r.source
  match Extraction.ofBlock id block with
  | .error e => ⟨.error e, r.log⟩
  | .ok e =>
    let c := assemble strict optimize id verdicts r block e
    ⟨.ok c, r.log ++ Extraction.report id e :: c.summary⟩

/-- Compiles lines without aliases. -/
def ofSource (width : Nat) (strict optimize : Bool) (id : String) (source : List String) :
    Logged (Except NumberError Compilation) :=
  let verdicts := Grammar.validateLines width source 1
  let c := ofVerdicts width strict optimize id verdicts.value.1 source
  ⟨c.value, verdicts.log ++ c.log⟩

/-- The greatest distance of tab stops. -/
def widthLimit : Int := 2147483647

/-- The width of the indentation and the lines of a block with their aliases expanded. -/
def prepare (s : Settings) (lines : List String) : Except CompilationError (Nat × List String) := do
  let width ← s.indentWidth.mapError .settings
  let aliases ← s.aliases.mapError .settings
  if width > widthLimit ∧ lines ≠ [] then throw .widthTooLarge
  return (width.toNat, lines.map (Keyword.expandAlias aliases))

/-- Compiles a block under some settings. -/
def ofLines (s : Settings) (optimize : Bool) (id : String) (lines : List String) :
    Logged (Except CompilationError Compilation) :=
  match prepare s lines with
  | .error e => ⟨.error e, []⟩
  | .ok (width, source) =>
    match s.strict with
    | .error e => ⟨.error (.settings e), (Grammar.validateLines width source 1).log⟩
    | .ok strict =>
      let c := ofSource width strict optimize id source
      ⟨c.value.mapError .number, c.log⟩

/-- Compiles the lines of a preset. Without a name for the block, the preset gives it one. -/
def ofPreset (s : Settings) (presets : Presets) (id : String) (block : Option String) :
    Logged (Except CompilationError Compilation) :=
  match presets.find? id with
  | none => ⟨.error (.unknownPreset id), []⟩
  | some preset => ofLines s true ((block.filter (· ≠ "")).getD ("preset-" ++ id)) preset.lines

end Compilation

end BlockScript
