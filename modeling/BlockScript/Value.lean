import BlockScript.Entries
import BlockScript.Number.Reading

/-!
# Values

The plain values that options and conditions hold, and the nested values that conditions look into.
-/

namespace BlockScript

/-- A text, a whole number of any size, a number with a fraction, or a truth value. -/
inductive Scalar
  | text (s : String)
  | int (n : Int)
  | double (x : Double)
  | flag (b : Bool)
deriving DecidableEq, Inhabited

/-- How a plain value is shown: texts in quotes. -/
def Scalar.shown : Scalar → Except NumberError String
  | .text s => .ok (Text.quoted s)
  | .int n => writeInt n
  | .double x => .ok x.text
  | .flag b => .ok (if b then "True" else "False")

/-- What a path may lead to. -/
inductive Value
  | null
  | scalar (s : Scalar)
  | list (items : List Value)
  | record (fields : List (String × Value))
deriving Inhabited

namespace Value

mutual

/-- How a value is shown inside another one. -/
def shown : Value → Except NumberError String
  | .null => .ok "None"
  | .scalar s => s.shown
  | .list items => return "[" ++ ", ".intercalate (← shownItems items) ++ "]"
  | .record fields => return "\x7b" ++ ", ".intercalate (← shownFields fields) ++ "\x7d"

def shownItems : List Value → Except NumberError (List String)
  | [] => .ok []
  | v :: vs => return (← shown v) :: (← shownItems vs)

def shownFields : List (String × Value) → Except NumberError (List String)
  | [] => .ok []
  | (name, v) :: fs => return (Text.quoted name ++ ": " ++ (← shown v)) :: (← shownFields fs)

end

/-- The text that patterns are searched in: a text stands for itself, all else as it is shown. -/
def searchText : Value → Except NumberError String
  | .scalar (.text s) => .ok s
  | v => v.shown

/-- Empty texts, lists and records, zeros, false and null do not hold; all else does. -/
def holds : Value → Bool
  | .null => false
  | .scalar (.text s) => s ≠ ""
  | .scalar (.int n) => n ≠ 0
  | .scalar (.double x) => x.magnitude ≠ 0
  | .scalar (.flag b) => b
  | .list items => !items.isEmpty
  | .record fields => !fields.isEmpty

def field? : Value → String → Option Value
  | .record fields, name => Entries.get? fields name
  | _, _ => none

end Value

end BlockScript
