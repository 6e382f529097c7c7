import BlockScript.Value

/-!
# Searching

Values are searched for patterns by a library. What it takes for a pattern and what it finds is left to
it; it may also fail.
-/

namespace BlockScript

/-- Why a search has no result. -/
inductive SearchError
  /-- What is given as a pattern is none, for a reason. -/
  | invalid (reason : String)
  /-- A value that the library cannot work with. -/
  | refused (message : String)
  /-- Any other failure, by its name. -/
  | breakdown (name : String)
deriving DecidableEq

/-- A library that searches the texts of values for patterns. -/
class Searcher where
  search (pattern : String) (v : Value) : Except SearchError Bool

end BlockScript
