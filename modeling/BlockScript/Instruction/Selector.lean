import BlockScript.Entries
import BlockScript.Number.Numeral

/-!
# Selectors

What an instruction acts on: a kind of content, one of its items or a range of them, or a named
variant.
-/

namespace BlockScript

/-- How wide an instruction reaches, from the whole block to a single element. -/
inductive Scope
  | block
  | content
  | element
deriving DecidableEq

namespace Scope

def name : Scope → String
  | .block => "block"
  | .content => "content"
  | .element => "element"

def rank : Scope → Nat
  | .block => 0
  | .content => 1
  | .element => 2

/-- The narrower of two scopes. -/
def narrower (a b : Scope) : Scope :=
  if a.rank > b.rank then a else b

end Scope

/-- The items that a selector picks by number. -/
inductive Position
  | item (n : Int)
  | range (first last : Int)
deriving DecidableEq

structure Selector where
  kind : String
  pattern : Option String
  position : Option Position
  modifier : Option String
  scope : Scope
deriving DecidableEq

namespace Selector

/-- The kind that a target function selects, and how wide that kind reaches; other functions select
content. -/
def kinds : Entries Scope := [
  ("content", .block),
  ("text", .content),
  ("paragraph", .content),
  ("line", .content),
  ("element", .element),
  ("pattern", .element)]

def kindOf (function : String) : String × Scope :=
  match kinds.get? function with
  | some scope => (function, scope)
  | none => ("content", .block)

/-- Two rows of digits with a hyphen between them. -/
def rangeDigits? (cs : List Char) : Option (List Char × List Char) :=
  let first := cs.takeWhile Text.isDigit
  match cs.dropWhile Text.isDigit with
  | '-' :: last => if !first.isEmpty && isNumeral last then some (first, last) else none
  | _ => none

/-- The position that an argument gives, or none if it is not a number or a range. -/
def readPosition (argument : String) : Except NumberError (Option Position) :=
  let cs := argument.toList
  if isNumeral cs then do return some (.item (← readDigits cs))
  else
    match rangeDigits? cs with
    | some (first, last) => do
      let a ← readDigits first
      let b ← readDigits last
      return some (.range a b)
    | none => return none

/-- The selector of a target. An argument is a position or else the name of a variant, which becomes
the pattern; an empty one counts as none. A nested target does not reach wider than its parent. -/
def normalize (function : String) (argument : Option String) (parent : Option Scope) :
    Except NumberError Selector := do
  let (kind, own) := kindOf function
  let scope := (parent.map fun p => p.narrower own).getD own
  match argument.filter (· ≠ "") with
  | none => return ⟨kind, some function, none, none, scope⟩
  | some argument =>
    match ← readPosition argument with
    | some position => return ⟨kind, some function, some position, none, scope⟩
    | none => return ⟨kind, some argument, none, some argument, scope⟩

/-- A selector as `function[argument]`. -/
def text (s : Selector) : String :=
  let pattern := s.pattern.getD "None"
  match s.position with
  | some (.range first last) => pattern ++ "[" ++ toString first ++ "-" ++ toString last ++ "]"
  | some (.item n) => pattern ++ "[" ++ toString n ++ "]"
  | none =>
    match s.modifier.filter (· ≠ "") with
    | some modifier => s.kind ++ "[" ++ modifier ++ "]"
    | none => (s.pattern.filter (· ≠ "")).getD s.kind

end Selector

end BlockScript
