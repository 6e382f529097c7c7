import BlockScript.Diagnostic

/-!
# Bracket balance

Each kind of bracket is checked on its own, without regard to the others or to quotes.
-/

namespace BlockScript.Grammar

/-- The bracket problems of one kind in the text from `column` on, with `depth` brackets open, the
outermost of them since column `outermost`. -/
def bracketProblems (opening closing : Char) (column depth outermost : Nat) :
    List Char → List (Problem × Nat)
  | [] => if depth = 0 then [] else [(.unclosedOpener opening, outermost)]
  | c :: cs =>
    if c = opening then
      bracketProblems opening closing (column + 1) (depth + 1)
        (if depth = 0 then column else outermost) cs
    else if c = closing then
      if depth = 0 then
        (.unmatchedCloser closing, column) ::
          bracketProblems opening closing (column + 1) 0 outermost cs
      else bracketProblems opening closing (column + 1) (depth - 1) outermost cs
    else bracketProblems opening closing (column + 1) depth outermost cs

/-- The bracket pairs, in the order in which they are checked. -/
def bracketPairs : List (Char × Char) :=
  [('\x7b', '\x7d'), ('[', ']'), ('(', ')')]

/-- The bracket problems of a line whose tabs are expanded, with their columns. -/
def checkBrackets (text : List Char) : List (Problem × Nat) :=
  bracketPairs.flatMap fun (opening, closing) => bracketProblems opening closing 1 0 0 text

end BlockScript.Grammar
