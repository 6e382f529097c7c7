import BlockScript.Cache
import BlockScript.Context
import BlockScript.Expression.Evaluation
import BlockScript.Instruction.Basic

/-!
# Evaluating conditions for blocks

An evaluator keeps, for each block, the interactions that are going on there, which override those of
the context, and, if it has a cache, earlier answers. Whatever cannot be evaluated counts as false.
-/

namespace BlockScript

/-- What an operation on a state of type `σ` gives: an answer or a failure, the messages given on the
way, and the state it leaves, which a failure does not undo. -/
structure Outcome (σ ε α : Type) where
  answer : Except ε α
  log : List LogEntry
  state : σ

/-! ### Interactions -/

/-- The interactions known to be going on, or not, at a block. -/
structure Overlay where
  hover : Option Bool
  click : Option Bool
  focus : Option Bool
deriving DecidableEq

namespace Overlay

def none : Overlay :=
  ⟨.none, .none, .none⟩

/-- What is known overrides what the context says. -/
def apply (o : Overlay) (i : Interaction) : Interaction :=
  ⟨o.hover.getD i.hover, o.click.getD i.click, o.focus.getD i.focus⟩

def names : List String :=
  ["hover", "click", "focus"]

/-- Sets an interaction by its name. -/
def set (o : Overlay) (name : String) (value : Bool) : Overlay :=
  if name = "hover" then { o with hover := some value }
  else if name = "click" then { o with click := some value }
  else if name = "focus" then { o with focus := some value }
  else o

end Overlay

/-- Names that are not those of interactions, sorted. -/
structure UnknownFlags where
  names : List String
deriving DecidableEq

def UnknownFlags.message (e : UnknownFlags) : String :=
  "Unknown interaction flag(s): " ++ ", ".intercalate e.names

def Context.override (c : Context) (o : Overlay) : Context :=
  { c with interaction := o.apply c.interaction }

/-! ### Single expressions -/

variable [Searcher]

/-- Whether an expression, as it is written, is true of some facts. Numbers that cannot be read and
searches that cannot be made are reported and make it false. -/
def Expression.decide (facts : Entries Value) (text : String) : Except EvaluationError (Logged Bool) :=
  match (Expression.numeric (Expression.read text)).bind (Expression.eval facts) with
  | .ok r => .ok r
  | .error (.breakdown name) => .error (.breakdown name)
  | .error e =>
    .ok do
      Logged.say .warning ("Condition " ++ Text.quoted text ++ " could not be evaluated: " ++ e.message)
      return false

/-! ### Evaluators -/

structure Evaluator where
  cache : Option Cache
  overlays : Entries Overlay

/-- What the clock shows during an evaluation: when an answer is looked for in the cache, when one is
stored there, and when expired ones are swept out before that. -/
structure Moment where
  asked : Double
  stored : Double
  swept : Double
deriving DecidableEq

/-- A moment at which the clock stands still. -/
def Moment.at (now : Double) : Moment :=
  ⟨now, now, now⟩

namespace Evaluator

def start (cache : Option Cache) : Evaluator :=
  ⟨cache, []⟩

/-- The number of answers in the cache. -/
def cached (v : Evaluator) : Option Nat :=
  v.cache.map (·.size)

/-- The context as it is seen from a block. -/
def effective (v : Evaluator) (context : Context) (block : String) : Context :=
  match v.overlays.get? block with
  | none => context
  | some o => context.override o

/-- The answer in the cache. Answers are kept only for blocks that have a name. -/
def lookUp (now : Double) (block expression : String) (v : Evaluator) : Evaluator × Option Bool :=
  match v.cache with
  | none => (v, none)
  | some c =>
    if block = "" then (v, none)
    else
      let (c, value) := c.get now block expression
      ({ v with cache := some c }, value)

def remember (now swept : Double) (block expression : String) (value : Bool) (v : Evaluator) :
    Evaluator × Except NumberError Unit :=
  match v.cache with
  | none => (v, .ok ())
  | some c =>
    if block = "" then (v, .ok ())
    else
      let (c, r) := c.set now swept block expression value
      ({ v with cache := some c }, r)

/-- Evaluates an expression for a block at a moment. -/
def evaluate (m : Moment) (expression : String) (context : Context) (block : String)
    (v : Evaluator) : Outcome Evaluator EvaluationError Bool :=
  let (v, known) := v.lookUp m.asked block expression
  match known with
  | some value => ⟨.ok value, [], v⟩
  | none =>
    match Expression.decide (v.effective context block).facts expression with
    | .error e => ⟨.error e, [], v⟩
    | .ok ⟨value, log⟩ =>
      let (v, stored) := v.remember m.stored m.swept block expression value
      ⟨(stored.mapError .number).map fun _ => value, log, v⟩

/-- Evaluates a condition: what must not hold is turned over, and a label always passes. -/
def evaluateCondition (m : Moment) (c : Condition) (context : Context) (block : String)
    (v : Evaluator) : Outcome Evaluator EvaluationError Bool :=
  match c.kind with
  | .label => ⟨.ok true, [], v⟩
  | .whenTrue => v.evaluate m c.expression context block
  | .whenFalse =>
    let r := v.evaluate m c.expression context block
    { r with answer := r.answer.map (!·) }

/-- Whether all conditions pass, each evaluated at a moment of its own; those after one that does not
are left alone. -/
def evaluateAll (context : Context) (block : String) :
    (Nat → Moment) → List Condition → Evaluator → Outcome Evaluator EvaluationError Bool
  | _, [], v => ⟨.ok true, [], v⟩
  | moments, c :: cs, v =>
    let r := v.evaluateCondition (moments 0) c context block
    match r.answer with
    | .ok true =>
      let rest := evaluateAll context block (fun k => moments (k + 1)) cs r.state
      { rest with log := r.log ++ rest.log }
    | _ => r

/-- Records interactions at a block and drops the cached answers that depend on them. -/
def update (block : String) (flags : Entries Bool) (v : Evaluator) : Except UnknownFlags Evaluator :=
  let unknown := (flags.map (·.1)).filter (!Overlay.names.contains ·)
  if unknown ≠ [] then .error ⟨unknown.mergeSort⟩
  else
    let overlay := flags.foldl (fun o (name, value) => o.set name value)
      ((v.overlays.get? block).getD .none)
    .ok {
      overlays := v.overlays.put block overlay
      cache := v.cache.map fun c => (c.invalidate block Topic.interaction.name).1 }

/-- Drops what is known about the interactions at a block, and its cached answers. -/
def forget (block : String) (v : Evaluator) : Evaluator where
  overlays := v.overlays.filter (·.1 != block)
  cache := v.cache.map fun c => (c.forgetBlock block).1

end Evaluator

end BlockScript
