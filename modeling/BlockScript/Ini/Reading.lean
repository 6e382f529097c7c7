import BlockScript.Ini.Basic
import BlockScript.Text.Lines

/-!
# Reading settings files

A file is read line by line. A line that is indented further than the option above it goes on with its
value; otherwise it opens a section or holds an option.
-/

namespace BlockScript

/-- Why a text is not a settings file. -/
inductive IniError
  | noSection
  | duplicateSection
  | duplicateOption
  | notAnOption
deriving DecidableEq

namespace Ini

/-! ### Lines -/

/-- The places of a character in a text, from `offset` on, and whether it may begin a comment there:
nothing or a blank must stand before it. -/
def marksFrom (mark : Char) (offset : Nat) (before : Option Char) : List Char → List (Nat × Bool)
  | [] => []
  | c :: cs =>
    let rest := marksFrom mark (offset + 1) (some c) cs
    if c = mark then (offset, before.all Text.isBlank) :: rest else rest

/-- The first place in two rows of places, taken side by side, at which a comment may begin. If both
rows have one at the same turn, the one further left counts. -/
def firstComment : List (Nat × Bool) → List (Nat × Bool) → Option Nat
  | [], bs => (bs.find? (·.2)).map (·.1)
  | as, [] => (as.find? (·.2)).map (·.1)
  | (i, a) :: as, (j, b) :: bs =>
    if a && b then some (min i j)
    else if a then some i
    else if b then some j
    else firstComment as bs

/-- Where the comment of a line begins. A line that starts with the sign of a comment is all comment. -/
def commentStart? (line : List Char) : Option Nat :=
  match Text.trimLeft line with
  | c :: _ =>
    if c = '#' ∨ c = ';' then some 0
    else firstComment (marksFrom '#' 0 none line) (marksFrom ';' 0 none line)
  | [] => none

/-- What a line says: nothing, with or without a comment, or a text with some indentation. -/
inductive Line
  | blank (commented : Bool)
  | content (indent : Nat) (text : List Char)

def Line.ofChars (line : List Char) : Line :=
  let comment := commentStart? line
  let text := Text.trimChars (match comment with | some n => line.take n | none => line)
  if text.isEmpty then .blank comment.isSome
  else .content (line.takeWhile Text.isBlank).length text

/-- The lines of a text. -/
def lines : List Char → List (List Char)
  | [] => [[]]
  | c :: cs =>
    if c = '\n' then [] :: lines cs
    else
      match lines cs with
      | [] => [[c]]
      | line :: rest => (c :: line) :: rest

/-- The name of the section that a line opens: what stands between its first character, a bracket, and
the last closing bracket. -/
def header? : List Char → Option (List Char)
  | '[' :: cs =>
    let name := (cs.reverse.dropWhile (· ≠ ']')).drop 1
    if name.isEmpty then none else some name.reverse
  | _ => none

/-- The name and the value of an option, around the first equals sign or colon. -/
def option? (text : List Char) : Option (List Char × List Char) :=
  let isDelimiter (c : Char) : Bool := c == '=' || c == ':'
  match text.dropWhile fun c => !isDelimiter c with
  | [] => none
  | _ :: value => some (Text.trimRight (text.takeWhile fun c => !isDelimiter c), Text.trimChars value)

/-- Names of options are compared in lower case. -/
def optionName (name : String) : String :=
  Text.lower name

/-! ### Files -/

/-- The file read so far, values as rows of lines. -/
structure Draft where
  sections : Sections (List String)
  /-- The section being read. -/
  current : Option String
  /-- The option whose value may go on. -/
  extendable : Option String
  indent : Nat
  /-- Whether a line was no option. -/
  faulty : Bool

namespace Draft

def start : Draft :=
  ⟨.empty, none, none, 0, false⟩

/-- Adds a line to the value that may go on. -/
def extend (d : Draft) (line : String) : Draft :=
  match d.current, d.extendable with
  | some name, some option =>
    let own := (d.sections.own? name).getD []
    let value := (own.get? option).getD []
    { d with sections := d.sections.setOwn name (own.put option (value ++ [line])) }
  | _, _ => d

/-- Opens a section; the defaults may be opened again. -/
def enter (d : Draft) (name : String) : Except IniError Draft :=
  if d.sections.has name then .error .duplicateSection
  else
    let own := (d.sections.own? name).getD []
    .ok { d with sections := d.sections.setOwn name own, current := some name, extendable := none }

/-- Adds an option to a section. One without a name is a fault, but is kept. -/
def addOption (d : Draft) (name option value : String) : Except IniError Draft :=
  let own := (d.sections.own? name).getD []
  if (own.get? option).isSome then .error .duplicateOption
  else
    .ok { d with
      sections := d.sections.setOwn name (own.put option [value])
      extendable := if option = "" then none else some option
      faulty := d.faulty || option = "" }

/-- Whether a line with this indentation goes on with a value. -/
def continues (d : Draft) (indent : Nat) : Bool :=
  d.current.isSome && d.extendable.isSome && indent > d.indent

def add (d : Draft) : Line → Except IniError Draft
  | .blank commented => .ok (if commented then d else d.extend "")
  | .content indent text =>
    if d.continues indent then .ok (d.extend (String.ofList text))
    else
      let d := { d with indent := indent }
      match header? text, d.current with
      | some name, _ => d.enter (String.ofList name)
      | none, none => .error .noSection
      | none, some name =>
        match option? text with
        | some (option, value) =>
          d.addOption name (optionName (String.ofList option)) (String.ofList value)
        | none => .ok { d with faulty := true }

/-- The lines of a value, without blanks at its end. -/
def join (value : List String) : String :=
  String.ofList (Text.trimRight ("\n".intercalate value).toList)

end Draft

/-- Reads a settings file. Lines that are no options are reported last. -/
def ofText (text : String) : Except IniError Ini := do
  let d ← ((lines (Text.readText text).toList).map Line.ofChars).foldlM Draft.add .start
  if d.faulty then throw .notAnOption
  return d.sections.map Draft.join

end Ini

end BlockScript
