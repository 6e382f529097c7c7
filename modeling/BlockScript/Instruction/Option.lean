import BlockScript.Number.Numeral
import BlockScript.Value

/-! # Option values -/

namespace BlockScript

/-- A text without the line feed that may end it. -/
def dropLineFeed (cs : List Char) : List Char :=
  if cs.getLast? = some '\n' then cs.dropLast else cs

/-- The value of an option: a truth value, a number, or the text itself. -/
def readOption (raw : String) : Except NumberError Scalar :=
  let cs := dropLineFeed raw.toList
  if raw = "true" then return .flag true
  else if raw = "false" then return .flag false
  else if isNumeral cs then do return .int (← readDigits cs)
  else if isDecimalNumeral cs then return .double (readDecimalNumeral false cs)
  else return .text raw

end BlockScript
