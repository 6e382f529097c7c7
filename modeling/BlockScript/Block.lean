import BlockScript.Forest
import BlockScript.Statement.Stream

/-!
# Blocks

The statements of a block and the forest they form by their depths.
-/

namespace BlockScript

/-- The statements of a block in the order in which they are written. -/
structure Block where
  statements : List Statement

namespace Block

def ofLines (width : Nat) (lines : List String) : Block :=
  ⟨Statement.ofLines width lines⟩

/-- The block of a stream of tokens. -/
def ofTokens (width : Nat) (tokens : List Token) : Block :=
  ⟨Statement.Stream.readAll width tokens⟩

/-- Each statement hangs below the nearest shallower one before it. -/
def forest (b : Block) : Forest Statement :=
  .ofList (·.depth) b.statements

/-- The forest of the statements together with their positions in the block. -/
def indexed (b : Block) : Forest (Statement × Nat) :=
  .ofList (·.1.depth) b.statements.zipIdx

def maxDepth (b : Block) : Nat :=
  b.statements.foldl (fun d s => max d s.depth) 0

end Block

end BlockScript
