import BlockScript.Number.Reading

/-!
# Numerals

Texts that are nothing but digits, or digits around a point.
-/

namespace BlockScript

/-- Whether a text consists of digits, at least one. -/
def isNumeral (cs : List Char) : Bool :=
  !cs.isEmpty && cs.all Text.isDigit

/-- Whether a text is digits, a point, and digits. -/
def isDecimalNumeral (cs : List Char) : Bool :=
  match cs.dropWhile Text.isDigit with
  | '.' :: fraction => !(cs.takeWhile Text.isDigit).isEmpty && isNumeral fraction
  | _ => false

/-- The number that digits with a point among them write. -/
def readDecimalNumeral (negative : Bool) (cs : List Char) : Double :=
  let fraction := (cs.dropWhile Text.isDigit).drop 1
  .ofDecimal negative (Text.digitsValue cs) (-fraction.length)

end BlockScript
