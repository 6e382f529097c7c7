/-!
# Blank characters

Blanks separate tokens and are trimmed from the ends of texts. Line feeds and the other characters
that end a line are blanks too.
-/

namespace BlockScript.Text

/-- The spaces of all scripts, the tabs and line ends, and the four information separators. -/
def isBlank (c : Char) : Bool :=
  let n := c.toNat
  (0x09 ≤ n && n ≤ 0x0d) || (0x1c ≤ n && n ≤ 0x20) || n == 0x85 || n == 0xa0 || n == 0x1680 ||
    (0x2000 ≤ n && n ≤ 0x200a) || n == 0x2028 || n == 0x2029 || n == 0x202f || n == 0x205f ||
    n == 0x3000

def trimLeft (cs : List Char) : List Char :=
  cs.dropWhile isBlank

/-- Keeps everything up to the last character that is not blank. -/
def trimRight : List Char → List Char
  | [] => []
  | c :: cs =>
    match trimRight cs with
    | [] => if isBlank c then [] else [c]
    | kept => c :: kept

def trimChars (cs : List Char) : List Char :=
  trimRight (trimLeft cs)

/-- A text without the blanks at its two ends. -/
def trim (s : String) : String :=
  String.ofList (trimChars s.toList)

def allBlank (s : String) : Bool :=
  s.toList.all isBlank

end BlockScript.Text
