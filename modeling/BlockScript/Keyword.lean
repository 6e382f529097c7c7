import BlockScript.Entries
import BlockScript.Text.Case

/-!
# Keywords

The keywords of statements: in which bucket the instructions of each are carried out, and which
zones its statements must have.
-/

namespace BlockScript

/-- The rank of an instruction in the order of execution. -/
abbrev Bucket := Int

namespace Bucket

def visual : Bucket := 1
def layout : Bucket := 2
def animation : Bucket := 3
def interaction : Bucket := 4
def state : Bucket := 5

/-- The buckets that keywords use. -/
def all : List Bucket :=
  [visual, layout, animation, interaction, state]

def name? (b : Bucket) : Option String :=
  if b = visual then some "visual"
  else if b = layout then some "layout"
  else if b = animation then some "animation"
  else if b = interaction then some "interaction"
  else if b = state then some "state"
  else none

/-- The name of a bucket, or its number. -/
def name (b : Bucket) : String :=
  b.name?.getD (toString (b : Int))

end Bucket

/-- The parts of a statement: `keyword[variable]`, `// target`, `% {effect}(option)` and
`-> {output}`. -/
inductive Zone
  | declaration
  | target
  | effect
  | output
deriving DecidableEq

def Zone.name : Zone → String
  | .declaration => "declaration"
  | .target => "target"
  | .effect => "effect"
  | .output => "output"

structure Keyword where
  name : String
  bucket : Bucket
  zones : List Zone
  description : String

namespace Keyword

/-- Every statement has a declaration; the zones listed for a keyword come on top of it. -/
def requires (k : Keyword) (zone : Zone) : Bool :=
  zone == .declaration || k.zones.contains zone

def table : List Keyword := [
  ⟨"set", .visual, [.target, .effect], "Set visual property or style"⟩,
  ⟨"apply", .visual, [.target, .effect], "Apply visual effect"⟩,
  ⟨"remove", .visual, [.target], "Remove effect or property"⟩,
  ⟨"blur", .visual, [.target], "Apply blur effect"⟩,
  ⟨"hide", .visual, [.target], "Hide content"⟩,
  ⟨"reveal", .visual, [.target], "Reveal content"⟩,
  ⟨"mask", .visual, [.target, .effect], "Mask content with pattern"⟩,
  ⟨"redact", .visual, [.target], "Redact sensitive information"⟩,
  ⟨"resize", .layout, [.target, .effect], "Resize element"⟩,
  ⟨"position", .layout, [.target, .effect], "Position element"⟩,
  ⟨"animate", .animation, [.target, .effect], "Animate element"⟩,
  ⟨"transition", .animation, [.target, .effect], "Apply transition"⟩,
  ⟨"click", .interaction, [.target, .effect], "Click interaction"⟩,
  ⟨"hover", .interaction, [.target, .effect], "Hover interaction"⟩,
  ⟨"toggle", .interaction, [.target], "Define toggle behaviour"⟩,
  ⟨"store", .state, [.target, .output], "Store state or data"⟩,
  ⟨"retrieve", .state, [.target, .output], "Retrieve stored data"⟩,
  ⟨"protect", .state, [.target, .effect, .output], "Apply security protection"⟩,
  ⟨"encrypt", .state, [.target, .effect], "Encrypt content"⟩,
  ⟨"authenticate", .state, [.target], "Require authentication"⟩,
  ⟨"coordinate", .state, [.target, .effect], "Coordinate with other blocks"⟩,
  ⟨"link", .state, [.target], "Connect to other blocks"⟩,
  ⟨"navigate", .state, [.target], "Define navigation paths"⟩,
  ⟨"group", .state, [.target], "Group related blocks"⟩,
  ⟨"reset", .state, [.target], "Reset stored state"⟩,
  ⟨"snapshot", .state, [.target], "Snapshot current state"⟩,
  ⟨"save", .state, [.target], "Save state"⟩,
  ⟨"load", .state, [.target], "Load state"⟩,
  ⟨"track", .state, [.target], "Track state changes"⟩,
  ⟨"if", .visual, [.target], "Conditional group: if\x7bexpression\x7d"⟩,
  ⟨"true", .visual, [.target], "Branch taken when the condition holds"⟩,
  ⟨"false", .visual, [.target], "Branch taken when the condition fails"⟩,
  ⟨"else", .visual, [.target], "Alias of false"⟩]

/-- The names of all keywords, sorted. -/
def names : List String :=
  (table.map (·.name)).mergeSort

/-- The keyword of a name in any case. -/
def find? (name : String) : Option Keyword :=
  table.find? (·.name == Text.lower name)

def isKnown (name : String) : Bool :=
  (find? name).isSome

/-- The bucket of a keyword; unknown keywords are visual. -/
def bucketOf (name : String) : Bucket :=
  ((find? name).map (·.bucket)).getD .visual

/-- Whether statements of a keyword must have a zone; unknown keywords ask for nothing. -/
def needs (name : String) (zone : Zone) : Bool :=
  (find? name).any (·.requires zone)

/-- The keyword whose children depend on a condition. -/
def conditional : String := "if"

/-- The keywords that name a branch of the nearest conditional. -/
def isBranch (name : String) : Bool :=
  name == "true" || name == "false" || name == "else"

/-- The branches taken when the condition fails. -/
def isNegating (name : String) : Bool :=
  name == "false" || name == "else"

/-- The keyword that an alias stands for, in lower case; a name that leads to no known keyword is
left as it is. -/
def resolveAlias (aliases : Entries String) (name : String) : String :=
  let low := Text.lower name
  let canonical := (aliases.get? low).getD low
  if isKnown canonical then canonical else name

end Keyword

end BlockScript
