import BlockScript.Text.Blank

/-!
# Lines

Tabs, the splitting of a text into lines and the indentation of a line. Columns count characters
of a line whose tabs have been expanded.
-/

namespace BlockScript.Text

/-- Replaces each tab by spaces up to the next multiple of `width`; a line end inside the text
starts the count again. A width of zero drops the tabs. -/
def expandTabsFrom (width : Nat) : Nat → List Char → List Char
  | _, [] => []
  | column, '\t' :: cs =>
    if width = 0 then expandTabsFrom width column cs
    else
      let gap := width - column % width
      List.replicate gap ' ' ++ expandTabsFrom width (column + gap) cs
  | column, c :: cs =>
    if c = '\n' ∨ c = '\r' then c :: expandTabsFrom width 0 cs
    else c :: expandTabsFrom width (column + 1) cs

def expandTabs (width : Nat) (line : String) : List Char :=
  expandTabsFrom width 0 line.toList

/-- The nesting level shown by a line's leading spaces, `width` of them to a level. -/
def indentDepth (line : String) (width : Nat) : Nat :=
  ((expandTabs width line).takeWhile (· = ' ')).length / max 1 width

/-- Characters that end a line; a carriage return together with the line feed after it is one
end. -/
def isLineEnd (c : Char) : Bool :=
  let n := c.toNat
  (0x0a ≤ n && n ≤ 0x0d) || (0x1c ≤ n && n ≤ 0x1e) || n == 0x85 || n == 0x2028 || n == 0x2029

/-- Splits into lines without their ends; a text that stops right after a line end has no last empty
line. `current` holds the line being read, backwards. -/
def splitLinesFrom (current : List Char) : List Char → List (List Char)
  | [] => if current.isEmpty then [] else [current.reverse]
  | '\r' :: '\n' :: cs => current.reverse :: splitLinesFrom [] cs
  | c :: cs =>
    if isLineEnd c then current.reverse :: splitLinesFrom [] cs
    else splitLinesFrom (c :: current) cs

/-- The lines of a text, each without blanks at its end. Blank lines stay, so that line numbers
match the text. -/
def splitLines (text : String) : List String :=
  (splitLinesFrom [] text.toList).map fun line => String.ofList (trimRight line)

/-- Turns every carriage return, with the line feed after it if there is one, into a line feed. -/
def normalizeNewlines : List Char → List Char
  | [] => []
  | '\r' :: '\n' :: cs => '\n' :: normalizeNewlines cs
  | c :: cs => (if c = '\r' then '\n' else c) :: normalizeNewlines cs

/-- The text of a file as it is read: every line ends in a line feed. -/
def readText (s : String) : String :=
  String.ofList (normalizeNewlines s.toList)

end BlockScript.Text
