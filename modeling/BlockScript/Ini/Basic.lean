import BlockScript.Entries
import BlockScript.Text.Blank
import BlockScript.Text.Case

/-!
# Settings files

Options with values, in sections; the options of the section `DEFAULT` count in every section. Names
of options do not depend on case.
-/

namespace BlockScript

/-- Sections of options, beside the options that are there by default. No section is named like the
defaults. -/
structure Sections (α : Type) where
  defaults : Entries α
  named : Entries (Entries α)

abbrev Ini := Sections String

namespace Sections

variable {α β : Type}

def empty : Sections α :=
  ⟨[], []⟩

/-- The name under which the defaults are written. -/
def defaultName : String :=
  "DEFAULT"

def has (s : Sections α) (title : String) : Bool :=
  (s.named.get? title).isSome

/-- The options of one section alone. -/
def own? (s : Sections α) (title : String) : Option (Entries α) :=
  if title = defaultName then some s.defaults else s.named.get? title

def setOwn (title : String) (options : Entries α) (s : Sections α) : Sections α :=
  if title = defaultName then { s with defaults := options }
  else { s with named := s.named.put title options }

/-- All options that count in a section, if there is such a section: the defaults first, and those of
the section over them. -/
def options? (s : Sections α) (title : String) : Option (Entries α) :=
  (s.own? title).map fun own => s.defaults.update own

def map (f : α → β) (s : Sections α) : Sections β where
  defaults := s.defaults.map fun (name, value) => (name, f value)
  named := s.named.map fun (name, options) => (name, options.map fun (n, v) => (n, f v))

end Sections

namespace Ini

/-- A value as it is written: its further lines are indented. -/
def writeValue (value : String) : String :=
  String.ofList (value.toList.flatMap fun c => if c = '\n' then ['\n', '\t'] else [c])

def writeSection (name : String) (options : Entries String) : String :=
  "[" ++ name ++ "]\n" ++
    String.join (options.map fun (name, value) => name ++ " = " ++ writeValue value ++ "\n") ++ "\n"

/-- The text of a settings file; the defaults come first, if there are any. -/
def text (ini : Ini) : String :=
  (if ini.defaults.isEmpty then "" else writeSection Sections.defaultName ini.defaults) ++
    String.join (ini.named.map fun (name, options) => writeSection name options)

end Ini

end BlockScript
