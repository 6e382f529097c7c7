/-!
# Forests

Ordered trees, as a first tree followed by the rest. A forest is built from a list of items with
depths: each item goes below the nearest one before it that is less deep, and is a root if there is
none.
-/

namespace BlockScript

/-- No tree, or a first tree, given by its root and the forest below it, and the trees after it. -/
inductive Forest (α : Type)
  | nil
  | tree (root : α) (below rest : Forest α)

namespace Forest

variable {α β : Type}

/-- The trees at the head whose roots satisfy `p`, and the other trees. -/
def spanRoots (p : α → Bool) : Forest α → Forest α × Forest α
  | nil => (nil, nil)
  | tree a below rest =>
    if p a then
      let (taken, left) := spanRoots p rest
      (tree a below taken, left)
    else (nil, tree a below rest)

/-- Puts an item in front; the trees at the head that are deeper go below it. -/
def push (depth : α → Nat) (a : α) (f : Forest α) : Forest α :=
  let (below, rest) := f.spanRoots fun b => depth a < depth b
  tree a below rest

def ofList (depth : α → Nat) (items : List α) : Forest α :=
  items.foldr (push depth) nil

/-- All items, each before those below it. -/
def walk : Forest α → List α
  | nil => []
  | tree a below rest => a :: (walk below ++ walk rest)

def roots : Forest α → List α
  | nil => []
  | tree a _ rest => a :: roots rest

def size : Forest α → Nat
  | nil => 0
  | tree _ below rest => 1 + size below + size rest

/-- The trees, each as its root and the forest below it. -/
def trees : Forest α → List (α × Forest α)
  | nil => []
  | tree a below rest => (a, below) :: trees rest

/-- The number of items of a stack of trees. -/
def stackSize : List (α × Forest α) → Nat
  | [] => 0
  | (_, below) :: stack => 1 + below.size + stackSize stack

theorem stackSize_append (f : Forest α) (stack : List (α × Forest α)) :
    stackSize (f.trees ++ stack) = f.size + stackSize stack :=
  match f with
  | nil => (Nat.zero_add _).symm
  | tree a below rest => by
    rw [trees, List.cons_append, stackSize, stackSize_append rest stack, size, Nat.add_assoc _ rest.size]

/-- All items of a stack of trees. The trees below a root take its place on top of the stack. -/
def visit : List (α × Forest α) → List α
  | [] => []
  | (a, below) :: stack => a :: visit (below.trees ++ stack)
termination_by stack => stackSize stack
decreasing_by
  rw [stackSize_append, stackSize, Nat.add_assoc]
  exact Nat.lt_one_add_iff.mpr (Nat.le_refl _)

def map (f : α → β) : Forest α → Forest β
  | nil => nil
  | tree a below rest => tree (f a) (map f below) (map f rest)

/-- An item with the items right below it and those above it, nearest first. -/
structure Node (α : Type) where
  item : α
  children : List α
  ancestors : List α

/-- The nodes of a forest that hangs below `ancestors`, in walking order. -/
def nodesBelow (ancestors : List α) : Forest α → List (Node α)
  | nil => []
  | tree a below rest =>
    ⟨a, below.roots, ancestors⟩ ::
      (nodesBelow (a :: ancestors) below ++ nodesBelow ancestors rest)

def nodes (f : Forest α) : List (Node α) :=
  f.nodesBelow []

end Forest

end BlockScript
