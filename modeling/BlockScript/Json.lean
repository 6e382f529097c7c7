import BlockScript.Number.Decimal
import BlockScript.Text.Quoted

/-!
# JSON

Values written over several lines, each level indented by two spaces, in ASCII.
-/

namespace BlockScript

inductive Json
  | null
  | bool (b : Bool)
  | int (n : Int)
  | double (x : Double)
  | text (s : String)
  | list (items : List Json)
  | record (fields : List (String × Json))
deriving Inhabited

namespace Json

/-- A sixteen-bit unit as an escape. -/
def escapeUnit (n : Nat) : List Char :=
  '\\' :: 'u' :: Text.hexDigits 4 n

/-- A character inside quotes. What is not printable ASCII is escaped, in two units if one is too
small for it. -/
def escapeChar (c : Char) : List Char :=
  if c = '"' ∨ c = '\\' then ['\\', c]
  else if c = '\n' then ['\\', 'n']
  else if c = '\r' then ['\\', 'r']
  else if c = '\t' then ['\\', 't']
  else if c = '\x08' then ['\\', 'b']
  else if c = '\x0c' then ['\\', 'f']
  else if ' ' ≤ c ∧ c ≤ '~' then [c]
  else if c.toNat < 0x10000 then escapeUnit c.toNat
  else
    let n := c.toNat - 0x10000
    escapeUnit (0xd800 + n / 0x400) ++ escapeUnit (0xdc00 + n % 0x400)

def quoted (s : String) : String :=
  String.ofList ('"' :: (s.toList.flatMap escapeChar ++ ['"']))

/-- A number; infinities and what is not a number are named. -/
def doubleText (x : Double) : String :=
  if x.isNaN then "NaN"
  else if x.isInfinite then if x.isNegative then "-Infinity" else "Infinity"
  else x.text

/-- The start of a line at a level. -/
def newline (level : Nat) : String :=
  String.ofList ('\n' :: List.replicate (2 * level) ' ')

/-- Written parts between brackets, each on a line of its own. -/
def enclose (level : Nat) (opening closing : String) (parts : List String) : String :=
  if parts.isEmpty then opening ++ closing
  else
    opening ++ ",".intercalate (parts.map (newline (level + 1) ++ ·)) ++ newline level ++ closing

mutual

def write (level : Nat) : Json → String
  | .null => "null"
  | .bool b => if b then "true" else "false"
  | .int n => toString n
  | .double x => doubleText x
  | .text s => quoted s
  | .list items => enclose level "[" "]" (writeItems (level + 1) items)
  | .record fields => enclose level "\x7b" "\x7d" (writeFields (level + 1) fields)

def writeItems (level : Nat) : List Json → List String
  | [] => []
  | j :: js => write level j :: writeItems level js

def writeFields (level : Nat) : List (String × Json) → List String
  | [] => []
  | (name, j) :: fs => (quoted name ++ ": " ++ write level j) :: writeFields level fs

end

/-- A text or null. -/
def ofText? : Option String → Json
  | some s => .text s
  | none => .null

end Json

end BlockScript
