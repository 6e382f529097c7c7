import BlockScript.Number.Numeral
import BlockScript.Text.Case
import BlockScript.Value

/-!
# Literals

What an expression compares with: a truth value, a number, a time of day in minutes since midnight,
or a text, with or without quotes.
-/

namespace BlockScript.Literal

/-- The text between two quotes of one sort, if a text has quotes at both ends. -/
def unquote? (cs : List Char) : Option (List Char) :=
  match cs with
  | [] => none
  | [_] => none
  | c :: rest =>
    if (c = '"' ∨ c = '\'') ∧ rest.getLast? = some c then some rest.dropLast else none

/-- A minus at the front, and what follows it. -/
def spanMinus : List Char → Bool × List Char
  | '-' :: cs => (true, cs)
  | cs => (false, cs)

/-- The minutes of a time written as hours and two digits of minutes. -/
def timeOfDay? (cs : List Char) : Option Nat :=
  let hours := cs.takeWhile Text.isDigit
  match cs.dropWhile Text.isDigit with
  | [':', a, b] =>
    if (hours.length = 1 ∨ hours.length = 2) ∧ Text.isDigit a ∧ Text.isDigit b then
      some (Text.digitsValue hours * 60 + Text.digitsValue [a, b])
    else none
  | _ => none

/-- The value of a text without blanks around it. -/
def readTrimmed (cs : List Char) : Except NumberError Scalar :=
  match unquote? cs with
  | some inner => .ok (.text (String.ofList inner))
  | none =>
    let text := String.ofList cs
    let low := Text.lower text
    let (negative, digits) := spanMinus cs
    if low = "true" then .ok (.flag true)
    else if low = "false" then .ok (.flag false)
    else if isNumeral digits then do
      let n ← readDigits digits
      return .int (if negative then -n else n)
    else if isDecimalNumeral digits then .ok (.double (readDecimalNumeral negative digits))
    else
      match timeOfDay? cs with
      | some minutes => .ok (.int minutes)
      | none => .ok (.text text)

/-- Reads a literal. -/
def read (text : String) : Except NumberError Scalar :=
  readTrimmed (Text.trimChars text.toList)

end BlockScript.Literal
