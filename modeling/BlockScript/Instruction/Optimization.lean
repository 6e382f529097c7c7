import BlockScript.Instruction.Basic

/-!
# Optimization

Instructions without effect are dropped, those that agree in everything but their parameters are
merged, and the rest is put in the order of the buckets.
-/

namespace BlockScript

namespace Instruction

/-- An instruction that sets nothing does nothing. -/
def isLive (i : Instruction) : Bool :=
  match i.effect with
  | none => false
  | some effect => !effect.parameters.isEmpty

/-- What two instructions must share to become one. -/
structure MergeKey where
  bucket : Bucket
  subject : Option String
  target : Selector
  effect : Option String
  outcome : Option String
  conditions : List Condition
deriving DecidableEq

def mergeKey (i : Instruction) : MergeKey :=
  ⟨i.bucket, i.subject, i.target, i.effect.map (·.name), i.outcome, i.conditions⟩

/-- Sets further parameters of an effect; later values win. -/
def setParameters (i : Instruction) (more : Entries Scalar) : Instruction :=
  { i with effect := i.effect.map fun e => ⟨e.name, Entries.update e.parameters more⟩ }

def parameters (i : Instruction) : Entries Scalar :=
  (i.effect.map (·.parameters)).getD []

end Instruction

/-- What became of a list of instructions. -/
structure OptimizationReport where
  before : Nat
  removed : Nat
  merged : Nat
  after : Nat
deriving DecidableEq

namespace Optimization

/-- Folds an instruction into the first one with its key, or adds it at the end. -/
def absorb (i : Instruction) : List Instruction → List Instruction
  | [] => [i]
  | head :: rest =>
    if head.mergeKey = i.mergeKey then head.setParameters i.parameters :: rest
    else head :: absorb i rest

def consolidate (is : List Instruction) : List Instruction :=
  is.foldl (fun merged i => absorb i merged) []

/-- Sorts by bucket; instructions of one bucket keep their order. -/
def sortByBucket (is : List Instruction) : List Instruction :=
  is.mergeSort fun a b => a.bucket ≤ b.bucket

def optimize (is : List Instruction) : List Instruction :=
  sortByBucket (consolidate (is.filter (·.isLive)))

def optimizeWithReport (is : List Instruction) : List Instruction × OptimizationReport :=
  let live := is.filter (·.isLive)
  let merged := consolidate live
  (sortByBucket merged,
    ⟨is.length, is.length - live.length, live.length - merged.length, merged.length⟩)

end Optimization

end BlockScript
