import BlockScript.Ini.Reading

/-!
# References between options

In a value, `%(name)s` stands for the value of another option and `%%` for a percent sign.
-/

namespace BlockScript

/-- Why the references of a value have no meaning. -/
inductive InterpolationError
  | badReference
  | missingOption
  | tooDeep
deriving DecidableEq

namespace Ini

/-- The name in `(name)s` at the front of a text, and what comes after it. -/
def reference? : List Char → Option (List Char × List Char)
  | '(' :: cs =>
    let name := cs.takeWhile (· ≠ ')')
    match cs.dropWhile (· ≠ ')') with
    | ')' :: 's' :: rest => if name.isEmpty then none else some (name, rest)
    | _ => none
  | _ => none

theorem length_of_reference? {cs name rest : List Char} (h : reference? cs = some (name, rest)) :
    rest.length < cs.length := by
  match cs with
  | [] => simp [reference?] at h
  | c :: cs =>
    by_cases hc : c = '('
    · subst hc
      simp only [reference?] at h
      have hlen := (List.dropWhile_sublist (fun x : Char => decide (x ≠ ')')) (l := cs)).length_le
      split at h
      next r heq =>
        split at h
        · simp at h
        · simp only [Option.some.injEq, Prod.mk.injEq] at h
          obtain ⟨-, rfl⟩ := h
          rw [heq] at hlen
          simp only [List.length_cons] at hlen ⊢
          omega
      next => simp at h
    · simp [reference?, hc] at h

/-- A part of a value. -/
inductive Piece
  | text (c : Char)
  | reference (name : String)

/-- The parts of a value, up to the first percent sign that is neither doubled nor begins a reference,
and whether there is such a sign. -/
def pieces : List Char → List Piece × Bool
  | [] => ([], false)
  | '%' :: '%' :: cs =>
    let (ps, bad) := pieces cs
    (.text '%' :: ps, bad)
  | '%' :: cs =>
    match h : reference? cs with
    | none => ([], true)
    | some (name, rest) =>
      have := length_of_reference? h
      let (ps, bad) := pieces rest
      (.reference (String.ofList name) :: ps, bad)
  | c :: cs =>
    let (ps, bad) := pieces cs
    (.text c :: ps, bad)
termination_by cs => cs.length

/-- How deep references may lead to values with references. -/
def depthLimit : Nat := 10

mutual

/-- A value with its references replaced; `depth` is how much deeper they may lead. -/
def expand (options : Entries String) (depth : Nat) (value : List Char) :
    Except InterpolationError (List Char) :=
  match depth with
  | 0 => .error .tooDeep
  | depth + 1 => do
    let (ps, bad) := pieces value
    let text ← expandPieces options depth ps
    if bad then throw .badReference
    return text
termination_by (depth, 0)

def expandPieces (options : Entries String) (depth : Nat) :
    List Piece → Except InterpolationError (List Char)
  | [] => .ok []
  | .text c :: ps => return c :: (← expandPieces options depth ps)
  | .reference name :: ps =>
    match options.get? (optionName name) with
    | none => .error .missingOption
    | some value => do
      let inner ← if value.toList.contains '%' then expand options depth value.toList
        else pure value.toList
      return inner ++ (← expandPieces options depth ps)
termination_by ps => (depth, ps.length + 1)

end

/-- The value of an option whose references are looked up among `options`. -/
def resolve (options : Entries String) (value : String) : Except InterpolationError String :=
  (expand options depthLimit value.toList).map String.ofList

/-- A text without doubled percent signs. -/
def dropDoubled : List Char → List Char
  | '%' :: '%' :: cs => dropDoubled cs
  | c :: cs => c :: dropDoubled cs
  | [] => []

/-- A text without references. -/
def dropReferences : List Char → List Char
  | [] => []
  | '%' :: cs =>
    match h : reference? cs with
    | none => '%' :: dropReferences cs
    | some (_, rest) =>
      have := length_of_reference? h
      dropReferences rest
  | c :: cs => c :: dropReferences cs
termination_by cs => cs.length

/-- Where a value has a percent sign that means nothing, counted without what does mean something. -/
def strayPercent? (value : String) : Option Nat :=
  (dropReferences (dropDoubled value.toList)).findIdx? (· == '%')

end Ini

end BlockScript
