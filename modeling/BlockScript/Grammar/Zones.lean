import BlockScript.Diagnostic
import BlockScript.Grammar.Span

/-!
# Zones of a statement

The declaration, the order of the zones, and what each zone must hold.
-/

namespace BlockScript.Grammar

/-- The keyword of a statement in lower case, if it starts with one. -/
def keywordOf : List Token → Option String
  | [] => none
  | t :: _ => if t.kind = .identifier then some (Text.lower t.value) else none

/-- A statement starts with a keyword, a known one if possible; `if` is followed by a block. -/
def checkDeclaration (opener : Token) : List Token → List (Problem × Nat)
  | [] => [(.missingKeyword, opener.stop + 1)]
  | t :: rest =>
    if t.kind ≠ .identifier then [(.missingKeyword, t.column)]
    else
      let keyword := Text.lower t.value
      let unknown :=
        if Keyword.isKnown keyword then [] else [(Problem.unknownKeyword t.value, t.column)]
      let blockless :=
        if keyword = Keyword.conditional ∧ !rest.head?.any (·.kind == .actionBlock) then
          [(Problem.conditionalWithoutBlock, t.column)]
        else []
      unknown ++ blockless

/-- The column after the last token. -/
def endColumn (body : List Token) : Nat :=
  (body.getLast?.map (·.stop + 1)).getD 1

/-- Reports a missing zone of a keyword that needs it. -/
def checkPresence (keyword : Option String) (zone : Zone) (problem : String → Problem)
    (body : List Token) : List (Problem × Nat) :=
  match keyword with
  | none => []
  | some name => if Keyword.needs name zone then [(problem name, endColumn body)] else []

/-- The problems of an effect zone: every action has its option right behind it, and nothing else
stands there. -/
def checkPairs : List Token → List Problem
  | [] => []
  | t :: ts =>
    if t.kind = .actionBlock then
      match ts with
      | [] => [.actionWithoutOption t.value]
      | o :: rest =>
        if o.kind = .optionBlock then checkPairs rest
        else .actionWithoutOption t.value :: checkPairs (o :: rest)
    else .strayInEffect t.kind :: checkPairs ts

/-- The tokens of the effect zone: up to the output operator, if that stands behind the zone's own
operator. -/
def effectTokens (parameter : Token) (trigger : Option Token) (rest : List Token) : List Token :=
  match trigger with
  | none => rest
  | some t => if t.start > parameter.start then rest.takeWhile (·.kind ≠ .trigger) else rest

def checkEffect (parameter : Token) (trigger : Option Token) (rest : List Token) :
    List (Problem × Nat) :=
  match effectTokens parameter trigger rest with
  | [] => [(.emptyEffect, parameter.column)]
  | tokens => (checkPairs tokens).map (·, parameter.column)

/-- Zones stand in the order target, effect, output. -/
def checkOrder (relation parameter trigger : Option Token) : List (Problem × Nat) :=
  let swapped (a b : Option Token) (problem : Problem) : List (Problem × Nat) :=
    match a, b with
    | some a, some b => if a.start < b.start then [(problem, a.column)] else []
    | _, _ => []
  swapped parameter relation .effectBeforeTarget ++
    swapped trigger relation (.outputBefore "//") ++
    swapped trigger parameter (.outputBefore "%")

/-- Everything the zones of a statement can get wrong, in the order target, effect, output after the
order of the zones itself. -/
def checkZones (keyword : Option String) (body : List Token) : List (Problem × Nat) :=
  let relation := splitAt? .relation body
  let parameter := splitAt? .parameter body
  let trigger := splitAt? .trigger body
  let target :=
    match relation with
    | none => checkPresence keyword .target .targetRequired body
    | some (t, rest) =>
      if rest.head?.any (fun t => t.kind == .identifier || t.kind == .string) then []
      else [(.missingTargetFunction, t.column)]
  let effect :=
    match parameter with
    | none => checkPresence keyword .effect .effectRequired body
    | some (t, rest) => checkEffect t (trigger.map (·.1)) rest
  let output :=
    match trigger with
    | none => checkPresence keyword .output .outputRequired body
    | some (t, rest) =>
      if rest.head?.any (·.kind == .actionBlock) then [] else [(.missingOutcome, t.column)]
  checkOrder (relation.map (·.1)) (parameter.map (·.1)) (trigger.map (·.1)) ++
    target ++ effect ++ output

end BlockScript.Grammar
