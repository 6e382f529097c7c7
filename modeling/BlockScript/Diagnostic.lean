import BlockScript.Keyword
import BlockScript.Text.Quoted
import BlockScript.Token.Basic

/-!
# Diagnostics

Everything that can be said against a block. Each problem belongs to one stage and is either an
error or a warning.
-/

namespace BlockScript

inductive Severity
  | error
  | warning
deriving DecidableEq

def Severity.name : Severity → String
  | .error => "error"
  | .warning => "warning"

inductive Stage
  | grammar
  | extract
  | compile
deriving DecidableEq

def Stage.name : Stage → String
  | .grammar => "grammar"
  | .extract => "extract"
  | .compile => "compile"

inductive Problem
  /-- A line that does not start with a statement operator. -/
  | badOpening
  | hierarchicalAtDepthZero
  | missingKeyword
  | unknownKeyword (name : String)
  | conditionalWithoutBlock
  | effectBeforeTarget
  /-- An output zone in front of the zone with this operator. -/
  | outputBefore (operator : String)
  | targetRequired (keyword : String)
  | missingTargetFunction
  | effectRequired (keyword : String)
  | outputRequired (keyword : String)
  | missingOutcome
  | actionWithoutOption (action : String)
  | strayInEffect (kind : TokenKind)
  | emptyEffect
  | unmatchedCloser (bracket : Char)
  | unclosedOpener (bracket : Char)
  | noParent
  | branchOutsideConditional (keyword : String)
  | secondElse
  /-- An instruction that lands in the default bucket. -/
  | defaultBucket (keyword : String)
  | effectExpected (keyword : String)
  | outputExpected (keyword : String)
  | conditionalWithoutGate
  | keywordLacking (line : Int)
  | targetLacking (line : Int)
  /-- A statement left out because its parent was rejected. -/
  | parentRejected (line parent : Int)
  /-- A line left out because a line above it has errors. -/
  | nestedUnderError (line : Int)
deriving DecidableEq

namespace Problem

def severity : Problem → Severity
  | .unknownKeyword _ | .defaultBucket _ | .effectExpected _ | .outputExpected _
  | .conditionalWithoutGate | .parentRejected .. | .nestedUnderError _ => .warning
  | _ => .error

def stage : Problem → Stage
  | .defaultBucket _ | .effectExpected _ | .outputExpected _ | .conditionalWithoutGate
  | .keywordLacking _ | .targetLacking _ | .parentRejected .. => .extract
  | .nestedUnderError _ => .compile
  | _ => .grammar

def message : Problem → String
  | .badOpening => "Statement must start with '::' or ':^:'"
  | .hierarchicalAtDepthZero => "Hierarchical statement ':^:' cannot appear at depth 0"
  | .missingKeyword => "Missing keyword after statement operator"
  | .unknownKeyword name => "Unknown keyword: " ++ Text.quoted name
  | .conditionalWithoutBlock => "'if' requires a \x7bcondition\x7d block"
  | .effectBeforeTarget => "'%' must come after the '//' target zone"
  | .outputBefore operator => "'->' must come after '" ++ operator ++ "'"
  | .targetRequired keyword =>
    "Keyword " ++ Text.quoted keyword ++ " requires a target zone ('// function')"
  | .missingTargetFunction => "Missing target function after '//'"
  | .effectRequired keyword =>
    "Keyword " ++ Text.quoted keyword ++ " requires an effect zone ('% \x7baction\x7d(params)')"
  | .outputRequired keyword =>
    "Keyword " ++ Text.quoted keyword ++ " requires an output zone ('-> \x7boutcome\x7d')"
  | .missingOutcome => "'->' must be followed by an \x7boutcome\x7d block"
  | .actionWithoutOption action =>
    "Effect action \x7b" ++ action ++ "\x7d is missing its (params) block"
  | .strayInEffect kind => "Unexpected " ++ kind.name ++ " in effect zone"
  | .emptyEffect => "'%' must be followed by at least one \x7baction\x7d(params) pair"
  | .unmatchedCloser bracket => "Unmatched '" ++ bracket.toString ++ "'"
  | .unclosedOpener bracket => "Unclosed '" ++ bracket.toString ++ "'"
  | .noParent => "Hierarchical statement has no parent at a shallower depth"
  | .branchOutsideConditional keyword =>
    "Branch " ++ Text.quoted keyword ++ " requires an enclosing 'if' statement"
  | .secondElse => "Only one 'else' branch is allowed per conditional group"
  | .defaultBucket keyword =>
    "Unknown keyword " ++ Text.quoted keyword ++ "; using the " ++ Bucket.name .visual ++ " bucket"
  | .effectExpected keyword => "Keyword " ++ Text.quoted keyword ++ " expects an effect zone"
  | .outputExpected keyword => "Keyword " ++ Text.quoted keyword ++ " expects an output zone"
  | .conditionalWithoutGate => "'if' without a \x7bcondition\x7d block adds no gate"
  | .keywordLacking line => "Statement at line " ++ toString line ++ " is missing keyword"
  | .targetLacking line => "Statement at line " ++ toString line ++ " is missing target function"
  | .parentRejected line parent =>
    "Skipped statement at line " ++ toString line ++ ": parent at line " ++ toString parent ++
      " is invalid"
  | .nestedUnderError line =>
    "Line " ++ toString line ++ " skipped: it is nested under a line with errors"

end Problem

/-- A problem and the place where it was found. -/
structure Diagnostic where
  problem : Problem
  line : Int
  column : Nat
deriving DecidableEq

namespace Diagnostic

def severity (d : Diagnostic) : Severity :=
  d.problem.severity

def stage (d : Diagnostic) : Stage :=
  d.problem.stage

def message (d : Diagnostic) : String :=
  d.problem.message

def isError (d : Diagnostic) : Bool :=
  d.severity == .error

/-- Places are ordered by line, then by column. -/
def notAfter (a b : Diagnostic) : Bool :=
  a.line < b.line || (a.line == b.line && a.column ≤ b.column)

/-- Sorts by place; diagnostics at one place keep their order. -/
def sort (ds : List Diagnostic) : List Diagnostic :=
  ds.mergeSort notAfter

def text (d : Diagnostic) : String :=
  "line " ++ toString d.line ++ ", col " ++ toString d.column ++ ": " ++ d.severity.name ++ ": " ++
    d.message

end Diagnostic

end BlockScript
