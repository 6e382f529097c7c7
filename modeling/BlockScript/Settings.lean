import BlockScript.Cache
import BlockScript.Ini.Interpolation

/-!
# Settings

The options of the compiler, of the cache and of keyword aliases. What is not set has a default. Settings
live in memory, or in a file that is written after every change.
-/

namespace BlockScript

/-- Why a setting cannot be read or changed. -/
inductive SettingsError
  | ini (e : IniError)
  | interpolation (e : InterpolationError)
  | number (e : NumberError)
  | notTruth (text : String)
  | sectionName (name : String)
  | strayPercent (value : String) (position : Nat)
  | noFile
deriving DecidableEq

/-- The text of an error about values; errors about the form of a file are told by their kind alone. -/
def SettingsError.message? : SettingsError → Option String
  | .ini _ => none
  | .interpolation _ => none
  | .number e => some e.message
  | .notTruth text => some ("Not a boolean: " ++ text)
  | .sectionName name => some ("Invalid section name: " ++ Text.quoted name)
  | .strayPercent value position =>
    some ("invalid interpolation syntax in " ++ Text.quoted value ++ " at position " ++ toString position)
  | .noFile => some "SettingsManager has no ini_path to save to"

structure Settings where
  ini : Ini
  /-- The text of the file, if there is one. -/
  file : Option String

namespace Settings

/-- Settings in memory, with nothing set. -/
def default : Settings :=
  ⟨.empty, none⟩

/-- The settings of a file. -/
def ofFile (text : String) : Except SettingsError Settings :=
  ((Ini.ofText text).mapError .ini).map fun ini => ⟨ini, some text⟩

/-! ### Reading options -/

/-- The text of an option, if it is set in a section or by default. -/
def text? (s : Settings) (title name : String) : Except SettingsError (Option String) :=
  match s.ini.options? title with
  | none => .ok none
  | some options =>
    match options.get? (Ini.optionName name) with
    | none => .ok none
    | some value => ((Ini.resolve options value).mapError .interpolation).map some

/-- The value of an option that is set, read from its text. -/
def read? {α : Type} (read : String → Except SettingsError α) (s : Settings) (title name : String) :
    Except SettingsError (Option α) := do
  match ← s.text? title name with
  | none => return none
  | some text => return some (← read text)

def readTruth (text : String) : Except SettingsError Bool :=
  let low := Text.lower text
  if low ∈ ["1", "yes", "true", "on"] then .ok true
  else if low ∈ ["0", "no", "false", "off"] then .ok false
  else .error (.notTruth text)

def int? : Settings → String → String → Except SettingsError (Option Int) :=
  read? fun text => (readInt text).mapError .number

def double? : Settings → String → String → Except SettingsError (Option Double) :=
  read? fun text => (readDouble text).mapError .number

def truth? : Settings → String → String → Except SettingsError (Option Bool) :=
  read? readTruth

/-! ### The options -/

def compiler : String := "COMPILER"
def cache : String := "CACHE"
def keywords : String := "KEYWORDS"

/-- The number of spaces to a level of indentation, at least one. -/
def indentWidth (s : Settings) : Except SettingsError Int := do
  return max 1 ((← s.int? compiler "indent_width").getD 2)

/-- Whether one line with errors rejects the whole block. -/
def strict (s : Settings) : Except SettingsError Bool := do
  return (← s.truth? compiler "strict").getD false

/-- How many diagnostics of a file are shown. -/
def maxDiagnostics (s : Settings) : Except SettingsError Int := do
  return (← s.int? compiler "max_diagnostics").getD 50

def interactionLifetime (s : Settings) : Except SettingsError Double := do
  return (← s.double? cache "interaction_ttl").getD Lifetimes.default.interaction

def timeLifetime (s : Settings) : Except SettingsError Double := do
  return (← s.double? cache "time_ttl").getD Lifetimes.default.time

def longLifetime (s : Settings) : Except SettingsError Double := do
  return (← s.double? cache "long_ttl").getD Lifetimes.default.long

def otherLifetime (s : Settings) : Except SettingsError Double := do
  return (← s.double? cache "default_ttl").getD Lifetimes.default.other

def lifetimes (s : Settings) : Except SettingsError Lifetimes := do
  return ⟨← s.interactionLifetime, ← s.timeLifetime, ← s.longLifetime, ← s.otherLifetime⟩

/-- The aliases of keywords, in lower case. The defaults count as aliases, too. -/
def aliases (s : Settings) : Except SettingsError (Entries String) :=
  if s.ini.has keywords then do
    let options := (s.ini.options? keywords).getD []
    let pairs ← options.mapM fun (name, value) => do
      let text ← (Ini.resolve options value).mapError .interpolation
      return (Text.lower name, Text.lower (Text.trim text))
    return Entries.ofPairs pairs
  else .ok []

/-! ### Changing options -/

/-- Writes the settings to their file. -/
def save (s : Settings) : Except SettingsError Settings :=
  match s.file with
  | none => .error .noFile
  | some _ => .ok { s with file := some s.ini.text }

/-- Writes the settings to their file if there is one. -/
def sync (s : Settings) : Settings :=
  { s with file := s.file.map fun _ => s.ini.text }

/-- Adds a section if it is not there. The defaults cannot be added. -/
def withSection (s : Settings) (title : String) : Except SettingsError Settings :=
  if title = Sections.defaultName then .error (.sectionName title)
  else if s.ini.has title then .ok s
  else .ok { s with ini := s.ini.setOwn title [] }

/-- Sets an option. A section is added for it even if the value turns out to be bad. An option of the
section without a name goes to the defaults. -/
def set (title name value : String) (s : Settings) : Settings × Except SettingsError Unit :=
  match s.withSection title with
  | .error e => (s, .error e)
  | .ok s =>
    match Ini.strayPercent? value with
    | some position => (s, .error (.strayPercent value position))
    | none =>
      let title := if title = "" then Sections.defaultName else title
      let own := ((s.ini.own? title).getD []).put (Ini.optionName name) value
      (sync { s with ini := s.ini.setOwn title own }, .ok ())

end Settings

end BlockScript
