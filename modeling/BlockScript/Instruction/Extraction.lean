import BlockScript.Block
import BlockScript.Diagnostic
import BlockScript.Instruction.Basic
import BlockScript.Instruction.Option
import BlockScript.Log

/-!
# Extraction

From a forest of statements to instructions. Conditions and scopes are handed down the tree. A
statement without keyword or target is rejected, and what is nested below it is skipped, so that the
children of a broken conditional never run ungated.
-/

namespace BlockScript

/-! ### Conditions -/

namespace Condition

/-- Turns the first gate that must hold into one that must not. -/
def negateFirst : List Condition → List Condition
  | [] => []
  | c :: cs =>
    if c.kind = .whenTrue then ⟨.whenFalse, c.expression, c.line⟩ :: cs else c :: negateFirst cs

/-- The conditions of a statement: those it inherits, its own gate, and its branch label. A negating
branch turns over the nearest gate that must hold. -/
def ofStatement (inherited : List Condition) (s : Statement) : List Condition :=
  let own := (s.gate?.map fun e => (⟨.whenTrue, e, s.line⟩ : Condition)).toList
  let gated := inherited ++ own
  match s.label? with
  | none => gated
  | some label =>
    (if Keyword.isNegating label then (negateFirst gated.reverse).reverse else gated) ++
      [⟨.label, label, s.line⟩]

end Condition

/-! ### Single statements -/

namespace Statement

/-- The keyword and the target of a statement that has both; the target must name a function. -/
def usable? (s : Statement) : Option (String × TargetZone) :=
  match s.keyword, s.target with
  | some keyword, some target => if target.function = "" then none else some (keyword, target)
  | _, _ => none

/-- What makes a statement unusable. -/
def rejections (s : Statement) : List Problem :=
  (if s.keyword.isNone then [.keywordLacking s.line] else []) ++
    (if (s.target.filter (·.function ≠ "")).isNone then [.targetLacking s.line] else [])

/-- What looks wrong about a usable statement. -/
def doubts (s : Statement) (keyword : String) : List Problem :=
  (if Keyword.isKnown keyword then [] else [.defaultBucket keyword]) ++
    (if Keyword.needs keyword .effect ∧ (s.effect.bind (·.action)).isNone then
      [.effectExpected keyword] else []) ++
    (if Keyword.needs keyword .output ∧ s.outcome.isNone then [.outputExpected keyword] else []) ++
    (if keyword = Keyword.conditional ∧ s.gate?.isNone then [.conditionalWithoutGate] else [])

/-- Diagnostics at the place of a statement. -/
def diagnose (s : Statement) (problems : List Problem) : List Diagnostic :=
  problems.map (⟨·, s.line, s.column⟩)

/-- Ids are stable: the block, the keyword and the line. -/
def instructionId (block keyword : String) (s : Statement) : String :=
  block ++ "-" ++ keyword ++ "-" ++ toString s.line

/-- The effect of a statement, its options read as values. -/
def readEffect (zone : EffectZone) : Except NumberError (Option Effect) :=
  match zone.action with
  | none => return none
  | some action => do
    let parameters ← zone.parameters.mapM fun (name, raw) => return (name, ← readOption raw)
    return some ⟨action, parameters⟩

/-- The instruction of a usable statement under a scope and conditions; `children` are the
statements right below it. -/
def instruction (block : String) (scope : Option Scope) (conditions : List Condition)
    (s : Statement) (keyword : String) (target : TargetZone) (children : List Statement) :
    Except NumberError Instruction := do
  let selector ← Selector.normalize target.function target.argument scope
  let effect ← match s.effect with
    | none => pure none
    | some zone => readEffect zone
  return {
    id := s.instructionId block keyword
    bucket := Keyword.bucketOf keyword
    subject := s.subject?
    target := selector
    effect := effect
    outcome := s.outcome
    conditions := Condition.ofStatement conditions s
    origin := some ⟨s.line, s.column, s.operator, keyword, s.source, s.depth⟩
    children := children.filterMap fun c => c.usable?.map fun (k, _) => c.instructionId block k }

end Statement

/-! ### Forests -/

/-- What extraction finds, in the order of the statements. -/
structure Extraction where
  instructions : List Instruction
  errors : List Diagnostic
  warnings : List Diagnostic

namespace Extraction

def empty : Extraction :=
  ⟨[], [], []⟩

def append (a b : Extraction) : Extraction :=
  ⟨a.instructions ++ b.instructions, a.errors ++ b.errors, a.warnings ++ b.warnings⟩

instance : Append Extraction := ⟨append⟩

def valid (e : Extraction) : Bool :=
  e.errors.isEmpty

/-- The warnings about everything below a statement that is left out. -/
def skipped (parent : Statement) : Forest Statement → List Diagnostic
  | .nil => []
  | .tree s below rest =>
    s.diagnose [.parentRejected s.line parent.line] ++ (skipped s below ++ skipped parent rest)

/-- Extracts a forest that hangs below a scope and conditions. -/
def ofForest (block : String) (scope : Option Scope) (conditions : List Condition) :
    Forest Statement → Except NumberError Extraction
  | .nil => return empty
  | .tree s below rest => do
    let first ← match s.usable? with
      | none => pure ⟨[], s.diagnose s.rejections, skipped s below⟩
      | some (keyword, target) => do
        let i ← s.instruction block scope conditions keyword target below.roots
        let inner ← ofForest block (some i.target.scope) i.conditions below
        pure (append ⟨[i], [], s.diagnose (s.doubts keyword)⟩ inner)
    return append first (← ofForest block scope conditions rest)

/-- The instructions of a block. A number that is too long ends the extraction. -/
def ofBlock (id : String) (block : Block) : Except NumberError Extraction :=
  ofForest id none [] block.forest

/-- The message given when a block has been extracted. -/
def report (id : String) (e : Extraction) : LogEntry :=
  ⟨.debug, "Block " ++ Text.quoted id ++ ": " ++ toString e.instructions.length ++
    " instruction(s), " ++ toString e.errors.length ++ " error(s), " ++
    toString e.warnings.length ++ " warning(s)"⟩

/-- The number of instructions in a bucket. -/
def bucketCount (e : Extraction) (bucket : Bucket) : Nat :=
  (e.instructions.filter (·.bucket == bucket)).length

/-- The number of instructions with a gate. -/
def gatedCount (e : Extraction) : Nat :=
  (e.instructions.filter (!·.gates.isEmpty)).length

/-- The depth of the deepest statement that gave an instruction. -/
def maxDepth (e : Extraction) : Nat :=
  e.instructions.foldl (fun d i => max d ((i.origin.map (·.depth)).getD 0)) 0

end Extraction

end BlockScript
