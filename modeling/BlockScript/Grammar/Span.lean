import BlockScript.Token.Basic

/-!
# Statement spans

The tokens of a line fall into spans: a statement operator, or a run of hierarchical ones, and the
tokens up to the next operator.
-/

namespace BlockScript

/-- The tokens of one statement. `chain` counts the hierarchical operators in its run, and is zero
for a root operator. -/
structure Span where
  opener : Token
  chain : Nat
  body : List Token
deriving DecidableEq

namespace Span

def isHierarchical (s : Span) : Bool :=
  s.opener.kind == .hierarchical

/-- Root statements have depth zero. Otherwise `width` columns make a level, and so does each
operator of the run after the first. -/
def depth (width : Nat) (s : Span) : Nat :=
  if s.isHierarchical then s.opener.start / width + s.chain - 1 else 0

/-- The span of an operator at the head of some tokens. -/
def ofOpener (opener : Token) (rest : List Token) : Span :=
  if opener.kind = .hierarchical then
    let run := rest.takeWhile (·.kind == .hierarchical)
    let after := rest.dropWhile (·.kind == .hierarchical)
    ⟨opener, run.length + 1, after.takeWhile (!·.kind.isOpener)⟩
  else ⟨opener, 0, rest.takeWhile (!·.kind.isOpener)⟩

/-- The number of tokens of a span after its first. -/
def tailLength (s : Span) : Nat :=
  s.chain - 1 + s.body.length

/-- The spans of a line's tokens; tokens before the first operator belong to none. -/
def split : List Token → List Span
  | [] => []
  | t :: ts =>
    if t.kind.isOpener then
      let span := ofOpener t ts
      span :: split (ts.drop span.tailLength)
    else split ts
termination_by tokens => tokens.length
decreasing_by all_goals simp only [List.length_drop, List.length_cons]; omega

end Span

/-- What follows the first token of a kind, with that token. -/
def splitAt? (kind : TokenKind) : List Token → Option (Token × List Token)
  | [] => none
  | t :: ts => if t.kind = kind then some (t, ts) else splitAt? kind ts

end BlockScript
