import BlockScript.Pattern.Search
import BlockScript.Pattern.Syntax
import BlockScript.Searcher
import BlockScript.Text.Name

/-!
# Searching by patterns

The library that reads and matches patterns as they are described here.
-/

namespace BlockScript

/-- What a search says of a text that is not a pattern. -/
def PatternError.toSearchError : PatternError → SearchError
  | .malformed => .invalid "malformed pattern"
  | .number e => .refused e.message
  | .incompatibleFlags => .refused "ASCII and UNICODE flags are incompatible"
  | .repetitionTooLarge => .breakdown "the repetition number is too large"

namespace Pattern

/-- Searches the text of a value; characters that the pattern names are found with `named?`. -/
def searchBy (named? : String → Option Char) (pattern : String) (v : Value) :
    Except SearchError Bool := do
  let text ← v.searchText.mapError fun e => .refused e.message
  let p ← (ofText named? pattern).mapError (·.toSearchError)
  return p.isFoundIn text

/-- Knows the names of the printable ASCII characters. -/
scoped instance ascii : Searcher :=
  ⟨searchBy Text.asciiNamed?⟩

end Pattern

end BlockScript
