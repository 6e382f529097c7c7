/-! # Sets of characters -/

namespace BlockScript.Text

/-- A set of characters, given by the code points at which membership changes, in rising order;
below the first of them nothing belongs. -/
structure CodeSet where
  changes : List Nat

/-- Whether `n` is inside, knowing it for the code points before the first change. -/
def insideAt (n : Nat) : Bool → List Nat → Bool
  | before, [] => before
  | before, b :: bs => if n < b then before else insideAt n (!before) bs

def CodeSet.contains (s : CodeSet) (c : Char) : Bool :=
  insideAt c.toNat false s.changes

end BlockScript.Text
