import BlockScript.Grammar.Brackets
import BlockScript.Grammar.Zones
import BlockScript.Log
import BlockScript.Token.Scan

/-!
# Validating lines

Lines are checked one by one. The open statements above a line are kept on a stack, innermost first,
so that a line can be checked against its ancestors.
-/

namespace BlockScript.Grammar

/-- An open statement: its depth, its keyword, and the `else` branches seen below it. -/
structure Frame where
  depth : Nat
  keyword : Option String
  elses : Nat
deriving DecidableEq

abbrev Stack := List Frame

/-- What validation says of a line, in the order found. -/
structure Verdict where
  line : Int
  errors : List Diagnostic
  warnings : List Diagnostic

namespace Verdict

def valid (v : Verdict) : Bool :=
  v.errors.isEmpty

/-- All diagnostics, by place. -/
def diagnostics (v : Verdict) : List Diagnostic :=
  Diagnostic.sort (v.errors ++ v.warnings)

def ofProblems (line : Int) (problems : List (Problem × Nat)) : Verdict :=
  let ds := problems.map fun (p, column) => (⟨p, line, column⟩ : Diagnostic)
  ⟨line, ds.filter (·.isError), ds.filter (!·.isError)⟩

end Verdict

/-- Closes the statements that are not shallower than `depth`. -/
def Stack.closeTo (depth : Nat) (stack : Stack) : Stack :=
  stack.dropWhile (·.depth ≥ depth)

/-- Counts an `else` for the nearest enclosing conditional and returns that count, if there is a
conditional. -/
def Stack.countElse : Stack → Stack × Option Nat
  | [] => ([], none)
  | f :: fs =>
    if f.keyword = some Keyword.conditional then
      (⟨f.depth, f.keyword, f.elses + 1⟩ :: fs, some (f.elses + 1))
    else
      let (fs', count) := Stack.countElse fs
      (f :: fs', count)

def Stack.insideConditional (stack : Stack) : Bool :=
  stack.any (·.keyword == some Keyword.conditional)

/-- Puts a statement on the stack, which has been closed to its depth. It needs a parent if it is
nested, a conditional if it is a branch, and to be the only `else` of that conditional if it is
one. -/
def enter (opener : Token) (depth : Nat) (keyword : Option String) (stack : Stack) :
    List (Problem × Nat) × Stack :=
  let orphan :=
    if opener.kind = .hierarchical ∧ depth > 0 ∧ stack.isEmpty then
      [(Problem.noParent, opener.column)]
    else []
  let push (s : Stack) : Stack := ⟨depth, keyword, 0⟩ :: s
  match keyword.filter Keyword.isBranch with
  | none => (orphan, push stack)
  | some name =>
    if !stack.insideConditional then
      (orphan ++ [(.branchOutsideConditional name, opener.column)], push stack)
    else if name = "else" then
      let (counted, count) := stack.countElse
      (orphan ++ (if count.any (· > 1) then [(.secondElse, opener.column)] else []), push counted)
    else (orphan, push stack)

/-- The problems of a statement and the stack it leaves. -/
def checkSpan (width : Nat) (span : Span) (stack : Stack) : List (Problem × Nat) × Stack :=
  let depth := span.depth width
  let shallow :=
    if span.isHierarchical ∧ depth = 0 then
      [(Problem.hierarchicalAtDepthZero, span.opener.column)]
    else []
  let keyword := keywordOf span.body
  let (hierarchy, stack) := enter span.opener depth keyword (stack.closeTo depth)
  (shallow ++ checkDeclaration span.opener span.body ++ checkZones keyword span.body ++ hierarchy,
    stack)

/-- The problems of a line that is not blank. It must start with a statement operator, and its first
statement is the one that is checked; a line that starts otherwise leaves the stack alone. -/
def checkLine (width : Nat) (line : String) (number : Int) (stack : Stack) :
    List (Problem × Nat) × Stack :=
  let text := Text.expandTabs width line
  let brackets := checkBrackets text
  let indent := (text.takeWhile Text.isBlank).length
  match Span.split (Token.scanFrom number 0 text) with
  | [] => (brackets ++ [(.badOpening, indent + 1)], stack)
  | span :: _ =>
    if span.opener.start = indent then
      let (problems, stack) := checkSpan width span stack
      (brackets ++ problems, stack)
    else (brackets ++ [(.badOpening, indent + 1)], stack)

/-- The verdict on a line below the statements on the stack, and the stack for the next line.
Blank lines are fine. Levels are `width` columns wide, at least one. -/
def validate (width : Nat) (stack : Stack) (line : String) (number : Int) : Logged (Verdict × Stack) :=
  let (problems, stack) :=
    if Text.allBlank line then ([], stack) else checkLine (max 1 width) line number stack
  let verdict := Verdict.ofProblems number problems
  let log : List LogEntry :=
    if verdict.valid then []
    else [⟨.debug, "Line " ++ toString number ++ ": " ++ toString verdict.errors.length ++
      " grammar error(s)"⟩]
  ⟨(verdict, stack), log⟩

/-- Validates lines numbered from `start`, one after the other. -/
def validateFrom (width : Nat) (stack : Stack) (start : Int) :
    List String → Logged (List Verdict × Stack)
  | [] => pure ([], stack)
  | line :: rest => do
    let (verdict, stack) ← validate width stack line start
    let (verdicts, stack) ← validateFrom width stack (start + 1) rest
    return (verdict :: verdicts, stack)

/-- The verdicts on a block of lines. -/
def validateLines (width : Nat) (lines : List String) (start : Int) :
    Logged (List Verdict × Stack) :=
  validateFrom width [] start lines

end BlockScript.Grammar
