import BlockScript.Block
import BlockScript.Diagnostic
import BlockScript.Log

/-!
# Recovery

A line with errors is blanked together with everything that is nested below its statements, so that the
other lines keep their numbers and their parents. In strict mode one such line blanks the whole block.
-/

namespace BlockScript

namespace Recovery

/-- Adds the lines of all statements below a statement whose line is skipped, in walking order. -/
def spread (skipped : List Int) : Forest Statement → List Int
  | .nil => skipped
  | .tree s below rest =>
    let skipped :=
      if s.line ∈ skipped then (below.walk.map (·.line)).foldr List.insert skipped else skipped
    spread (spread skipped below) rest

/-- The lines that go with the bad lines of a block. -/
def skippedLines (block : Block) (bad : List Int) : List Int :=
  spread bad block.forest

/-- Blanks the skipped lines of a source, whose first line has the number `first`. -/
def blankFrom (first : Int) (skipped : List Int) : List String → List String
  | [] => []
  | line :: rest =>
    (if first ∈ skipped then "" else line) :: blankFrom (first + 1) skipped rest

def blank (skipped : List Int) (source : List String) : List String :=
  blankFrom 1 skipped source

/-- The numbers of the lines of a source. -/
def lineNumbers (source : List String) : List Int :=
  (List.range source.length).map fun (i : Nat) => i + 1

/-- The warnings about skipped lines that have no errors of their own. -/
def nestedWarnings (bad skipped : List Int) (source : List String) : List Diagnostic :=
  ((lineNumbers source).filter fun n => n ∈ skipped && n ∉ bad).map fun n =>
    ⟨.nestedUnderError n, n, 1⟩

end Recovery

/-- What is left of a source after its bad lines have been dealt with. -/
structure Recovery where
  source : List String
  warnings : List Diagnostic
  log : List LogEntry

namespace Recovery

/-- Deals with the bad lines of a source. -/
def ofSource (width : Nat) (strict : Bool) (id : String) (bad : List Int) (source : List String) :
    Recovery :=
  if bad.isEmpty then ⟨source, [], []⟩
  else if strict then
    ⟨source.map fun _ => "", [], [⟨.warning,
      "Block " ++ Text.quoted id ++ ": grammar errors in strict mode, block skipped"⟩]⟩
  else
    let skipped := skippedLines (.ofLines width source) bad
    ⟨blank skipped source, nestedWarnings bad skipped source, []⟩

end Recovery

end BlockScript
