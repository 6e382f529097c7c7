import BlockScript.Compilation
import BlockScript.Execution

/-!
# Processors

A processor compiles blocks and executes them, and keeps what has to be kept between blocks: settings,
presets, handlers, and an evaluator with its cache.
-/

namespace BlockScript

structure Processor where
  settings : Settings
  presets : Presets
  handlers : Handlers
  evaluator : Evaluator

/-- What processing a block gives; a compilation that fell back is not executed. -/
structure Processed where
  compilation : Compilation
  execution : Option Execution

def Processed.success (p : Processed) : Bool :=
  !p.compilation.fallback && p.execution.any (·.success)

inductive ProcessingError
  | compilation (e : CompilationError)
  | execution (e : Execution.Interruption)
deriving DecidableEq

namespace Processor

/-- A processor whose cache takes its lifetimes from the settings. -/
def start (settings : Settings) (presets : Presets) (handlers : Handlers) (now : Double) :
    Except SettingsError Processor :=
  settings.lifetimes.map fun lifetimes =>
    ⟨settings, presets, handlers, .start (some (.start lifetimes now))⟩

def compile (p : Processor) (lines : List String) (id : String) (optimize : Bool) :
    Logged (Except CompilationError Compilation) :=
  Compilation.ofLines p.settings optimize id lines

def compilePreset (p : Processor) (id : String) (block : Option String) :
    Logged (Except CompilationError Compilation) :=
  Compilation.ofPreset p.settings p.presets id block

/-- Compiles a block and executes its instructions. -/
def process [Searcher] (p : Processor) (lines : List String) (id : String) (context : Context)
    (timing : Execution.Timing) : Outcome Processor ProcessingError Processed :=
  let compiled := p.compile lines id true
  match compiled.value with
  | .error e => ⟨.error (.compilation e), compiled.log, p⟩
  | .ok c =>
    if c.fallback then
      ⟨.ok ⟨c, none⟩, compiled.log ++
        [⟨.warning, "Block " ++ Text.quoted id ++ ": compile fell back, nothing executed"⟩], p⟩
    else
      let run := Execution.run p.handlers context id timing c.instructions p.evaluator
      let p := { p with evaluator := run.state }
      match run.answer with
      | .error e => ⟨.error (.execution e), compiled.log ++ run.log, p⟩
      | .ok e =>
        let done : List LogEntry :=
          if e.success then
            [⟨.success, "Block " ++ Text.quoted id ++ ": " ++ toString e.applied ++ " applied"⟩]
          else []
        ⟨.ok ⟨c, some e⟩, compiled.log ++ run.log ++ done, p⟩

end Processor

end BlockScript
