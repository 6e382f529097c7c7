import BlockScript.Text.CaseTable

/-!
# Lower case

Lower-casing of texts, folding for caseless comparison, and the one-to-one lower case that patterns
use.
-/

namespace BlockScript.Text

/-- Where a table of runs `(first, last, step, target)` takes `n`. -/
def applyRuns (runs : List (Nat × Nat × Nat × Nat)) (n : Nat) : Option Nat :=
  (runs.find? fun (first, last, step, _) => first ≤ n && n ≤ last && (n - first) % step == 0).map
    fun (first, _, _, target) => target + (n - first)

/-- The lower-case partner of a character, or the character itself. -/
def lowerChar (c : Char) : Char :=
  if c.toNat < 0x80 then c.toLower
  else if c = 'İ' then 'i'
  else ((applyRuns lowerRuns c.toNat).map Char.ofNat).getD c

/-- The letters that count as `c` when case is ignored, all in lower case. -/
def lowerForms (c : Char) : List Char :=
  let low := lowerChar c
  match lowerSiblings.find? (·.contains low.toNat) with
  | some group => group.map Char.ofNat
  | none => [low]

/-- The other characters whose lower-case partner is `c`. -/
def upperForms (c : Char) : List Char :=
  let n := c.toNat
  let ascii := if c.toUpper = c then [] else [c.toUpper]
  let dotted := if c = 'i' then ['İ'] else []
  let others := lowerRuns.filterMap fun (first, last, step, target) =>
    let m := first + (n - target)
    if target ≤ n && m ≤ last && (m - first) % step == 0 && m ≠ n then some (Char.ofNat m) else none
  ascii ++ dotted ++ others

/-- Whether the next character that is not looked through is a letter with case. -/
def meetsCased (cs : List Char) : Bool :=
  match cs.dropWhile caseIgnorable.contains with
  | [] => false
  | c :: _ => casedLetters.contains c

/-- Lower-cases character by character. A capital sigma that ends a word becomes the final form;
`before` is what has been passed, backwards. -/
def lowerFrom (before : List Char) : List Char → List Char
  | [] => []
  | c :: cs =>
    let low :=
      if c = 'Σ' then [if meetsCased before && !meetsCased cs then 'ς' else 'σ']
      else if c = 'İ' then ['i', '\u0307']
      else [lowerChar c]
    low ++ lowerFrom (c :: before) cs

def lower (s : String) : String :=
  String.ofList (lowerFrom [] s.toList)

/-- The folded form of a character, for comparing texts without regard to case. -/
def foldChar (c : Char) : List Char :=
  if c.toNat < 0x80 then [c.toLower]
  else if c = 'İ' then ['i', '\u0307']
  else
    match foldSequences.find? (·.1 == c.toNat) with
    | some (_, folded) => folded.map Char.ofNat
    | none =>
      match applyRuns foldRuns c.toNat with
      | some n => [Char.ofNat n]
      | none => [lowerChar c]

def fold (s : String) : String :=
  String.ofList (s.toList.flatMap foldChar)

end BlockScript.Text
