import BlockScript.Expression.Literal
import BlockScript.Expression.Basic
import BlockScript.Log
import BlockScript.Searcher

/-!
# Evaluating expressions

Paths lead through nested records. A path that leads nowhere has no value, and every comparison with
it fails.
-/

namespace BlockScript

/-! ### Comparing values -/

namespace Scalar

/-- The place of a number on the number line; truth values count as one and zero. -/
def place? : Scalar → Option Double.Place
  | .text _ => none
  | .int n => some (.ofInt n)
  | .double x => x.place?
  | .flag b => some (.ofInt (if b then 1 else 0))

/-- Whether two values are the same text or equal numbers. -/
def equals : Scalar → Scalar → Bool
  | .text a, .text b => a == b
  | a, b =>
    match a.place?, b.place? with
    | some p, some q => p == q
    | _, _ => false

def isNumber : Scalar → Bool
  | .int _ => true
  | .double _ => true
  | _ => false

/-- The order of two texts or two numbers; other values have none. -/
def order? : Scalar → Scalar → Option Ordering
  | .text a, .text b => some (compare a b)
  | a, b =>
    if a.isNumber && b.isNumber then
      match a.place?, b.place? with
      | some p, some q => some (p.compare q)
      | _, _ => none
    else none

/-- A text without its differences of case; other values as they are. -/
def folded : Scalar → Scalar
  | .text s => .text (Text.fold s)
  | s => s

end Scalar

/-- Whether a comparison holds; `equal` says whether the values are equal, `order` how they are
ordered, if they are. -/
def Comparison.holds (equal : Bool) (order : Option Ordering) : Comparison → Bool
  | .eq => equal
  | .ne => !equal
  | .gt => order == some .gt
  | .lt => order == some .lt
  | .ge => order == some .gt || order == some .eq
  | .le => order == some .lt || order == some .eq

namespace Value

/-- The value that stands for a record in comparisons: its name, if it has one. -/
def named (v : Value) : Value :=
  (v.field? "name").getD v

/-- Brings a text to the kind of the literal that it is compared with. -/
def comparable (literal : Scalar) : Value → Except NumberError Value
  | .scalar (.text s) =>
    match literal with
    | .text _ => .ok (.scalar (.text s))
    | _ => do return .scalar (← Literal.read s)
  | v => .ok v

/-- Compares with a literal. Texts are compared without regard to case. Only texts, numbers and truth
values can be equal to a literal. -/
def compare (c : Comparison) (literal : Scalar) (v : Value) : Except NumberError Bool := do
  match ← v.named.comparable literal with
  | .scalar s =>
    return c.holds (s.folded.equals literal.folded) (s.folded.order? literal.folded)
  | _ => return c.holds false none

/-- Where a path leads from a value. -/
def follow? (v : Value) : List String → Option Value
  | [] => some v
  | step :: rest =>
    match v.field? step with
    | none => none
    | some w => follow? w rest

end Value

/-! ### Evaluation -/

/-- Why an expression cannot be evaluated. -/
inductive EvaluationError
  | number (e : NumberError)
  /-- A search that cannot be made, and what is said about it. -/
  | refused (message : String)
  /-- A search that has broken down. -/
  | breakdown (name : String)
deriving DecidableEq

def EvaluationError.message : EvaluationError → String
  | .number e => e.message
  | .refused message => message
  | .breakdown name => name

namespace Expression

/-- The value that the path leads to. -/
def value? (e : Expression) (facts : Entries Value) : Option Value :=
  (Value.record facts).follow? e.pathSteps

/-- A failure to read or write a number as a failure of evaluation. -/
def numeric {α : Type} (r : Except NumberError α) : Except EvaluationError α :=
  r.mapError .number

variable [Searcher]

/-- Searches a value for a pattern. An invalid pattern is found nowhere. -/
def search (pattern : String) (v : Value) : Except EvaluationError (Logged Bool) :=
  match Searcher.search pattern v.named with
  | .ok found => .ok (pure found)
  | .error (.invalid reason) =>
    .ok do
      Logged.say .warning ("Invalid regex " ++ Text.quoted pattern ++ ": " ++ reason)
      return false
  | .error (.refused message) => .error (.refused message)
  | .error (.breakdown name) => .error (.breakdown name)

/-- Whether an expression is true of some facts. -/
def eval (facts : Entries Value) (e : Expression) : Except EvaluationError (Logged Bool) :=
  match e.question with
  | .malformed =>
    .ok do
      Logged.say .warning ("Malformed condition: lhs=" ++ Text.quoted e.path)
      return false
  | .holds => .ok (pure ((e.value? facts).any (·.holds)))
  | .fails => .ok (pure !(e.value? facts).any (·.holds))
  | .compare c literal _ =>
    match e.value? facts with
    | none => .ok (pure false)
    | some v => do return pure (← numeric (v.compare c literal))
  | .search pattern _ =>
    match e.value? facts with
    | none => .ok (pure false)
    | some v => search pattern v

end Expression

end BlockScript
