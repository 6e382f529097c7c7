import BlockScript.Number.Decimal
import BlockScript.Text.Blank
import BlockScript.Text.Digit
import BlockScript.Text.Quoted

/-!
# Reading and writing integers

Digits of all scripts are read. An integer of more than 4300 digits is neither read nor written.
-/

namespace BlockScript

/-- Why a text is not a number, or a number has no text. -/
inductive NumberError
  | tooManyDigits (count : Nat)
  | tooLongToWrite
  | notAnInteger (text : String)
  | notANumber (text : String)
deriving DecidableEq

def digitLimit : Nat :=
  4300

def NumberError.message : NumberError → String
  | .tooManyDigits count =>
    "Exceeds the limit (4300 digits) for integer string conversion: value has " ++ toString count ++
      " digits; use sys.set_int_max_str_digits() to increase the limit"
  | .tooLongToWrite =>
    "Exceeds the limit (4300 digits) for integer string conversion; " ++
      "use sys.set_int_max_str_digits() to increase the limit"
  | .notAnInteger text =>
    "invalid literal for int() with base 10: " ++ String.ofList ((Text.quotedChars text.toList).take 200)
  | .notANumber text => "could not convert string to float: " ++ Text.quoted text

/-- The number written by a row of digits. -/
def readDigits (digits : List Char) : Except NumberError Nat :=
  if digits.length > digitLimit then .error (.tooManyDigits digits.length)
  else .ok (Text.digitsValue digits)

/-- The decimal text of an integer. -/
def writeInt (n : Int) : Except NumberError String :=
  if n.natAbs ≥ Nat.pow 10 digitLimit then .error .tooLongToWrite else .ok (toString n)

/-- Blanks around a number; the information separators are not among them. -/
def isNumberBlank (c : Char) : Bool :=
  Text.isBlank c && !(0x1c ≤ c.toNat && c.toNat ≤ 0x1f)

/-- The digits that go on after a digit, without the single underscores between them, and what
follows; none if an underscore is not between two digits. -/
def moreDigits? : List Char → Option (List Char × List Char)
  | [] => some ([], [])
  | ['_'] => none
  | '_' :: c :: cs =>
    if Text.isDigit c then (moreDigits? cs).map fun (ds, rest) => (c :: ds, rest) else none
  | c :: cs =>
    if Text.isDigit c then (moreDigits? cs).map fun (ds, rest) => (c :: ds, rest)
    else some ([], c :: cs)

/-- A row of digits, with single underscores between them, and what follows it. -/
def spanDigits? : List Char → Option (List Char × List Char)
  | [] => none
  | c :: cs =>
    if Text.isDigit c then (moreDigits? cs).map fun (ds, rest) => (c :: ds, rest) else none

/-- A sign, if there is one, and whether it is a minus. -/
def readSign : List Char → Bool × List Char
  | '-' :: cs => (true, cs)
  | '+' :: cs => (false, cs)
  | cs => (false, cs)

/-- Reads an integer: blanks around it, a sign, digits with single underscores between them. Too
many digits are reported before anything that follows them. -/
def readInt (text : String) : Except NumberError Int :=
  let (negative, cs) := readSign (text.toList.dropWhile isNumberBlank)
  match spanDigits? cs with
  | none => .error (.notAnInteger text)
  | some (digits, rest) => do
    let n ← readDigits digits
    if rest.all isNumberBlank then return if negative then -n else n
    else throw (.notAnInteger text)

/-- Digits before and after a point and a power of ten, as far as they are there. -/
structure FloatParts where
  whole : List Char
  fraction : List Char
  exponent : Int

/-- Digits at the start, possibly none, and what follows. -/
def spanDigits (cs : List Char) : Option (List Char × List Char) :=
  match cs with
  | c :: _ => if Text.isDigit c then spanDigits? cs else some ([], cs)
  | [] => some ([], [])

/-- Reads digits, a point with digits, and an exponent, up to the end of the text; a digit must
stand before or after the point. -/
def readFloatParts (cs : List Char) : Option FloatParts := do
  let (whole, cs) ← spanDigits cs
  let (fraction, cs) ← match cs with
    | '.' :: cs => spanDigits cs
    | _ => some ([], cs)
  guard (!(whole.isEmpty && fraction.isEmpty))
  match cs with
  | [] => return ⟨whole, fraction, 0⟩
  | c :: cs =>
    guard (c = 'e' || c = 'E')
    let (negative, cs) := readSign cs
    let (digits, rest) ← spanDigits? cs
    guard rest.isEmpty
    let n : Int := Text.digitsValue digits
    return ⟨whole, fraction, if negative then -n else n⟩

def FloatParts.toDouble (negative : Bool) (p : FloatParts) : Double :=
  .ofDecimal negative (Text.digitsValue (p.whole ++ p.fraction)) (p.exponent - p.fraction.length)

def trimNumber (cs : List Char) : List Char :=
  ((cs.dropWhile isNumberBlank).reverse.dropWhile isNumberBlank).reverse

/-- Reads a number with a fraction: blanks around it, a sign, and either decimal digits or one of
the words for infinity and not-a-number. -/
def readDouble (text : String) : Except NumberError Double :=
  let (negative, cs) := readSign (trimNumber text.toList)
  let word := String.ofList (cs.map Char.toLower)
  if word = "inf" ∨ word = "infinity" then .ok (.infinity negative)
  else if word = "nan" then .ok (if negative then .ofMagnitude true Double.nan.magnitude else .nan)
  else
    match readFloatParts cs with
    | some parts => .ok (parts.toDouble negative)
    | none => .error (.notANumber text)

end BlockScript
