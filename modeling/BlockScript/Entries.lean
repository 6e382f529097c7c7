/-!
# Named entries

Values under names. A name keeps the place at which it was first set; setting it again changes its
value only.
-/

namespace BlockScript

abbrev Entries (α : Type) := List (String × α)

namespace Entries

variable {α : Type}

def get? (es : Entries α) (name : String) : Option α :=
  (es.find? (·.1 == name)).map (·.2)

def put (name : String) (value : α) : Entries α → Entries α
  | [] => [(name, value)]
  | (n, v) :: es => if n = name then (n, value) :: es else (n, v) :: put name value es

/-- Sets all of `more`, in order. -/
def update (es more : Entries α) : Entries α :=
  more.foldl (fun es (n, v) => put n v es) es

/-- The entries that setting each pair in order leaves. -/
def ofPairs (pairs : List (String × α)) : Entries α :=
  update [] pairs

end Entries

end BlockScript
