import BlockScript.Text.Case
import BlockScript.Value

/-!
# Expressions

A condition asks whether the fact at a path holds, or compares it with a literal, or searches it for
a pattern.
-/

namespace BlockScript

inductive Comparison
  | eq
  | ne
  | gt
  | lt
  | ge
  | le
deriving DecidableEq

def Comparison.spelling : Comparison → String
  | .eq => "=="
  | .ne => "!="
  | .gt => ">"
  | .lt => "<"
  | .ge => ">="
  | .le => "<="

/-- What is asked about a fact. Literals and patterns are kept as they are written, too. -/
inductive Question
  | holds
  | fails
  | compare (comparison : Comparison) (literal : Scalar) (spelling : String)
  | search (pattern : String) (spelling : String)
  /-- A question that is cut short and never answered by yes. -/
  | malformed
deriving DecidableEq

structure Expression where
  path : String
  question : Question
deriving DecidableEq

/-- What the answer to an expression depends on, which says how long it stays good. -/
inductive Topic
  | interaction
  | time
  | theme
  | file
  | other
deriving DecidableEq

namespace Topic

def name : Topic → String
  | .interaction => "interaction"
  | .time => "time"
  | .theme => "theme"
  | .file => "file"
  | .other => "default"

def all : List Topic :=
  [.interaction, .time, .theme, .file, .other]

def ofName? (name : String) : Option Topic :=
  all.find? (·.name == name)

/-- The topic of facts by the first step of their path, in lower case. -/
def ofRoot (root : String) : Topic :=
  if root ∈ ["hover", "click", "focus", "interaction"] then .interaction
  else if root ∈ ["time", "hour", "minute", "weekday", "iso"] then .time
  else if root = "theme" then .theme
  else if root = "file" then .file
  else .other

end Topic

namespace Expression

/-- The parts between points; there is one more of them than there are points. -/
def steps : List Char → List (List Char)
  | [] => [[]]
  | c :: cs =>
    if c = '.' then [] :: steps cs
    else
      match steps cs with
      | [] => [[c]]
      | step :: rest => (c :: step) :: rest

/-- The steps of the path. -/
def pathSteps (e : Expression) : List String :=
  (steps e.path.toList).map String.ofList

def topic (e : Expression) : Topic :=
  .ofRoot (Text.lower (e.pathSteps.headD ""))

end Expression

end BlockScript
