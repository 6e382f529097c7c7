import BlockScript.Evaluator

/-!
# Execution

Instructions are carried out one after the other. One whose gates do not all pass is skipped; for the
others a handler, chosen by the bucket, says which changes the host is to make. An exception in a
handler concerns that instruction only.
-/

namespace BlockScript

/-- A change that the host is asked to make. -/
structure Directive where
  target : String
  effect : String
  parameters : Entries Scalar
  instruction : String
deriving DecidableEq

/-! ### Handlers -/

/-- A member of a row of results. -/
inductive Product
  | directive (d : Directive)
  | foreign

/-- What gets out of a handler in place of a reply. -/
inductive Raised
  /-- An exception, with its text. -/
  | exception (message : String)
  /-- What is not contained, by its name: a request to stop, or an exception that has no text. -/
  | escape (name : String)
deriving DecidableEq

/-- What a handler gives back. Values that are neither directives nor rows of them are known by the
name of their kind. -/
inductive Reply
  | nothing
  | directive (d : Directive)
  /-- A row whose members are asked for one by one; it may break off after them. -/
  | row (kind : String) (products : List Product) (breakdown : Option Raised)
  | foreign (kind : String)
  | raised (r : Raised)

/-- When a reply is there. One that has to be waited for is treated as if it had come at once. -/
inductive Response
  | now (reply : Reply)
  | later (reply : Reply)

def Response.reply : Response → Reply
  | .now r => r
  | .later r => r

abbrev Handler := Instruction → Context → Response

def Product.directive? : Product → Option Directive
  | .directive d => some d
  | .foreign => none

/-- The message about a value that is not made of directives. -/
def unexpectedReply (kind : String) : String :=
  "Handler returned " ++ kind ++ ", expected EffectDirective(s)"

/-- The directives of a reply, or what there is in place of them. Directives of a row that breaks off or
that holds anything else are lost. -/
def Reply.directives : Reply → Except Raised (List Directive)
  | .nothing => .ok []
  | .directive d => .ok [d]
  | .row _ _ (some r) => .error r
  | .row kind products none =>
    match products.mapM Product.directive? with
    | some ds => .ok ds
    | none => .error (.exception (unexpectedReply kind))
  | .foreign kind => .error (.exception (unexpectedReply kind))
  | .raised r => .error r

namespace Handler

/-- The effect of an instruction as a directive; without an effect, its keyword is the effect. -/
def directive? (i : Instruction) : Option Directive :=
  match i.effect, i.origin with
  | some e, _ => some ⟨i.target.text, e.name, e.parameters, i.id⟩
  | none, some o => some ⟨i.target.text, o.keyword, [], i.id⟩
  | none, none => none

def replyOf : Option Directive → Response
  | some d => .now (.directive d)
  | none => .now (.raised (.exception "'NoneType' object has no attribute 'keyword'"))

/-- One directive for each instruction. -/
def emitEffect : Handler := fun i _ =>
  replyOf (directive? i)

/-- One directive for each instruction; its outcome is one more parameter. -/
def emitState : Handler := fun i _ =>
  replyOf ((directive? i).map fun d =>
    match i.outcome with
    | some o => { d with parameters := d.parameters.put "outcome" (.text o) }
    | none => d)

end Handler

/-- Handlers by bucket, the latest first. -/
abbrev Handlers := List (Bucket × Handler)

namespace Handlers

def default : Handlers :=
  [(.state, .emitState)]

def register (bucket : Bucket) (handler : Handler) (hs : Handlers) : Handlers :=
  (bucket, handler) :: hs

/-- The handler of a bucket; a bucket without one gets its effects emitted. -/
def find (hs : Handlers) (bucket : Bucket) : Handler :=
  ((hs.find? fun h => h.1 == bucket).map (·.2)).getD .emitEffect

end Handlers

/-! ### Results -/

/-- What became of an instruction. -/
inductive Fate
  | applied (directives : List Directive)
  | skipped
  | failed (message : String)
deriving DecidableEq

namespace Fate

def name : Fate → String
  | .applied _ => "applied"
  | .skipped => "skipped"
  | .failed _ => "failed"

def directives : Fate → List Directive
  | .applied ds => ds
  | _ => []

def isApplied : Fate → Bool
  | .applied _ => true
  | _ => false

def isSkipped : Fate → Bool
  | .skipped => true
  | _ => false

def isFailed : Fate → Bool
  | .failed _ => true
  | _ => false

end Fate

/-- The fates of instructions in the order of execution. -/
structure Execution where
  results : List (String × Fate)

namespace Execution

def count (e : Execution) (p : Fate → Bool) : Nat :=
  (e.results.filter (p ·.2)).length

def applied (e : Execution) : Nat :=
  e.count (·.isApplied)

def skipped (e : Execution) : Nat :=
  e.count (·.isSkipped)

def failed (e : Execution) : Nat :=
  e.count (·.isFailed)

def success (e : Execution) : Bool :=
  e.failed == 0

def directives (e : Execution) : List Directive :=
  e.results.flatMap (·.2.directives)

/-- When the conditions of the instructions of a run are evaluated, by the place of the instruction in
the run and that of the condition in the instruction, and how long the run takes, as a text in
milliseconds. -/
structure Timing where
  gates : Nat → Nat → Moment
  elapsed : String

/-- Why a run has no results. -/
inductive Interruption
  /-- A gate cannot be evaluated. -/
  | gate (e : EvaluationError)
  /-- What has got out of a handler is not contained. -/
  | handler (name : String)
deriving DecidableEq

/-- Lets the handler of an instruction carry it out. An exception is what becomes of this instruction;
what is not contained is given by its name. -/
def carryOut (handlers : Handlers) (context : Context) (i : Instruction) :
    Except String (Logged Fate) :=
  match (handlers.find i.bucket i context).reply.directives with
  | .ok ds => .ok (pure (.applied ds))
  | .error (.exception message) =>
    .ok do
      Logged.say .error ("Instruction " ++ i.id ++ " failed: " ++ message)
      return .failed message
  | .error (.escape name) => .error name

variable [Searcher]

/-- Executes one instruction, the conditions of which are evaluated at some moments. -/
def runOne (handlers : Handlers) (context : Context) (block : String) (moments : Nat → Moment)
    (i : Instruction) (v : Evaluator) : Outcome Evaluator Interruption Fate :=
  let gates := v.evaluateAll context block moments i.conditions
  match gates.answer with
  | .error e => ⟨.error (.gate e), gates.log, gates.state⟩
  | .ok false => ⟨.ok .skipped, gates.log, gates.state⟩
  | .ok true =>
    match carryOut handlers context i with
    | .error name => ⟨.error (.handler name), gates.log, gates.state⟩
    | .ok done => ⟨.ok done.value, gates.log ++ done.log, gates.state⟩

/-- Executes the instructions of a run from place `n` on. -/
def runFrom (handlers : Handlers) (context : Context) (block : String) (timing : Timing) :
    (n : Nat) → List Instruction → Evaluator → Outcome Evaluator Interruption (List (String × Fate))
  | _, [], v => ⟨.ok [], [], v⟩
  | n, i :: is, v =>
    let first := runOne handlers context block (timing.gates n) i v
    match first.answer with
    | .error e => ⟨.error e, first.log, first.state⟩
    | .ok fate =>
      let rest := runFrom handlers context block timing (n + 1) is first.state
      ⟨rest.answer.map ((i.id, fate) :: ·), first.log ++ rest.log, rest.state⟩

/-- The message at the end of a run. -/
def report (timing : Timing) (e : Execution) : LogEntry :=
  ⟨.debug, "Executed " ++ toString e.results.length ++ " instruction(s) in " ++ timing.elapsed ++
    " ms (" ++ toString e.applied ++ " applied, " ++ toString e.skipped ++ " skipped, " ++
    toString e.failed ++ " failed)"⟩

/-- Executes instructions for a block. A gate that cannot be evaluated, and what is not contained, end
the run without a result. -/
def run (handlers : Handlers) (context : Context) (block : String) (timing : Timing)
    (is : List Instruction) (v : Evaluator) : Outcome Evaluator Interruption Execution :=
  let all := runFrom handlers context block timing 0 is v
  match all.answer with
  | .error e => ⟨.error e, all.log, all.state⟩
  | .ok results => ⟨.ok ⟨results⟩, all.log ++ [report timing ⟨results⟩], all.state⟩

end Execution

end BlockScript
