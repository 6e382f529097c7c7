import BlockScript.Text.Printable

/-!
# Quoted text

How messages show a text: between quotes on one line, with escapes for what cannot be seen.
-/

namespace BlockScript.Text

def hexDigit (n : Nat) : Char :=
  Char.ofNat (if n < 10 then 48 + n else 87 + n)

/-- The last `width` hexadecimal digits of `n`. -/
def hexDigits : Nat → Nat → List Char
  | 0, _ => []
  | width + 1, n => hexDigits width (n / 16) ++ [hexDigit (n % 16)]

/-- A character inside quotes: the quote and the backslash are escaped, tabs and line ends get their
letters, and what is not printable its code point in two, four or eight digits. -/
def escapeChar (quote c : Char) : List Char :=
  if c = quote ∨ c = '\\' then ['\\', c]
  else if c = '\t' then ['\\', 't']
  else if c = '\n' then ['\\', 'n']
  else if c = '\r' then ['\\', 'r']
  else if printable.contains c then [c]
  else
    let n := c.toNat
    if n < 0x100 then '\\' :: 'x' :: hexDigits 2 n
    else if n < 0x10000 then '\\' :: 'u' :: hexDigits 4 n
    else '\\' :: 'U' :: hexDigits 8 n

/-- Quotes with `'`, or with `"` when that saves escaping. -/
def quoteFor (cs : List Char) : Char :=
  if cs.contains '\'' && !cs.contains '"' then '"' else '\''

def quotedChars (cs : List Char) : List Char :=
  let quote := quoteFor cs
  quote :: (cs.flatMap (escapeChar quote) ++ [quote])

def quoted (s : String) : String :=
  String.ofList (quotedChars s.toList)

end BlockScript.Text
