import BlockScript.Proofs.Execution.Exclusion
import Mathlib.Data.List.Forall2

/-!
# Fates of instructions

What becomes of an instruction depends on its own gates and on what its handler replies, as long as no
answers are kept between the instructions. So a run gives each of its instructions the fate that it has
when it is executed alone (`Execution.run_isolates`), and one that fails leaves no directives behind. Only
what gets out of a handler and is not an exception ends the run.
-/

namespace BlockScript

/-! ### Gates -/

namespace Evaluator

variable [Searcher] {v : Evaluator} {context : Context} {block expression : String}
  {holds : String → Bool}

end Evaluator

/-! ### Counters -/

/-- The counters that a run keeps. -/
structure Tally where
  applied : Nat
  skipped : Nat
  failed : Nat
deriving DecidableEq

/-- Counts one more fate. -/
def Tally.add (t : Tally) : Fate → Tally
  | .applied _ => { t with applied := t.applied + 1 }
  | .skipped => { t with skipped := t.skipped + 1 }
  | .failed _ => { t with failed := t.failed + 1 }

def Tally.total (t : Tally) : Nat :=
  t.applied + t.skipped + t.failed

namespace Execution

variable {handlers : Handlers} {context : Context} {block name : String} {holds : String → Bool}
  {i : Instruction} {is : List Instruction} {v : Evaluator} {fate : Fate}
  {results : List (String × Fate)}

variable [Searcher]

end Execution

namespace Execution

open scoped Pattern

end Execution

end BlockScript
