import BlockScript.Entries
import BlockScript.Keyword
import BlockScript.Text.Blank

/-!
# Statements

A statement as it is written: what to do, to what, with which effect and with which outcome. Texts
are trimmed and otherwise as in the line.
-/

namespace BlockScript

inductive Operator
  | root
  | hierarchical
deriving DecidableEq

def Operator.name : Operator → String
  | .root => "root"
  | .hierarchical => "hierarchical"

def Operator.spelling : Operator → String
  | .root => "::"
  | .hierarchical => ":^:"

/-- A target zone, `// function[argument]`. `raw` is the spelling of the whole zone. -/
structure TargetZone where
  function : String
  argument : Option String
  raw : String
deriving DecidableEq

/-- An effect zone, `% {action}(option) …`. The action is the first one written; parameters are the
options under their actions. -/
structure EffectZone where
  action : Option String
  parameters : Entries String
deriving DecidableEq

structure Statement where
  operator : Operator
  keyword : Option String
  condition : Option String
  subjects : List String
  target : Option TargetZone
  effect : Option EffectZone
  outcome : Option String
  depth : Nat
  line : Int
  column : Nat
deriving DecidableEq

namespace Statement

/-- The first variable of the declaration. -/
def subject? (s : Statement) : Option String :=
  s.subjects.head?

/-- The branch that a statement takes. -/
def label? (s : Statement) : Option String :=
  s.keyword.filter Keyword.isBranch

/-- The condition that a statement puts on itself and on what is nested below it. -/
def gate? (s : Statement) : Option String :=
  if s.keyword = some Keyword.conditional then s.condition.filter (· ≠ "") else none

def braced (opening closing : Char) (s : String) : String :=
  opening.toString ++ s ++ closing.toString

/-- `keyword{condition}[variable]…` -/
def declarationSource (s : Statement) : String :=
  s.keyword.getD "" ++ (s.condition.map (braced '\x7b' '\x7d')).getD "" ++
    String.join (s.subjects.map (braced '[' ']'))

/-- `function[argument]` -/
def TargetZone.source (z : TargetZone) : String :=
  z.function ++ (z.argument.map (braced '[' ']')).getD ""

/-- `{action}(option) …`, or the action alone if no option is given. -/
def EffectZone.source (z : EffectZone) : String :=
  match z.parameters with
  | [] => ((z.action.filter (· ≠ "")).map (braced '\x7b' '\x7d')).getD ""
  | parameters =>
    " ".intercalate
      (parameters.map fun (name, value) => braced '\x7b' '\x7d' name ++ braced '(' ')' value)

/-- The canonical spelling of a statement on one line. Empty parts are left out with their space. -/
def source (s : Statement) : String :=
  let target := (s.target.map fun z => ["//", TargetZone.source z]).getD []
  let effect := (s.effect.map fun z => ["%", EffectZone.source z]).getD []
  let output := (s.outcome.map fun o => ["->", braced '\x7b' '\x7d' o]).getD []
  let parts := s.operator.spelling :: s.declarationSource :: (target ++ effect ++ output)
  " ".intercalate (parts.filter (· ≠ ""))

end Statement

end BlockScript
