import BlockScript.Instruction.Selector
import BlockScript.Statement.Basic
import BlockScript.Value

/-!
# Instructions

A statement made ready for execution: in this bucket, for this selector, apply this effect when all
gates hold.
-/

namespace BlockScript

inductive ConditionKind
  /-- The expression must hold. -/
  | whenTrue
  /-- The expression must not hold. -/
  | whenFalse
  /-- The name of a branch; it decides nothing. -/
  | label
deriving DecidableEq

def ConditionKind.name : ConditionKind → String
  | .whenTrue => "if"
  | .whenFalse => "else"
  | .label => "label"

structure Condition where
  kind : ConditionKind
  expression : String
  line : Int
deriving DecidableEq

/-- Whether a condition decides about execution. -/
def Condition.isGate (c : Condition) : Bool :=
  c.kind != .label

/-- An effect and its parameters; the first action of a statement names it. -/
structure Effect where
  name : String
  parameters : Entries Scalar
deriving DecidableEq

/-- Where an instruction comes from. -/
structure Origin where
  line : Int
  column : Nat
  operator : Operator
  keyword : String
  source : String
  depth : Nat
deriving DecidableEq

structure Instruction where
  id : String
  bucket : Bucket
  subject : Option String
  target : Selector
  effect : Option Effect
  outcome : Option String
  conditions : List Condition
  origin : Option Origin
  /-- The instructions of the statements right below. -/
  children : List String
deriving DecidableEq

namespace Instruction

def gates (i : Instruction) : List Condition :=
  i.conditions.filter (·.isGate)

end Instruction

end BlockScript
