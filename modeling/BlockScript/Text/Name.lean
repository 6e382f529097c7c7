/-! # Names of characters -/

namespace BlockScript.Text

/-- The names of the printable ASCII characters that are neither digits nor letters. -/
def signNames : List (Char × String) := [
  (' ', "SPACE"), ('!', "EXCLAMATION MARK"), ('"', "QUOTATION MARK"), ('#', "NUMBER SIGN"),
  ('$', "DOLLAR SIGN"), ('%', "PERCENT SIGN"), ('&', "AMPERSAND"), ('\'', "APOSTROPHE"),
  ('(', "LEFT PARENTHESIS"), (')', "RIGHT PARENTHESIS"), ('*', "ASTERISK"), ('+', "PLUS SIGN"),
  (',', "COMMA"), ('-', "HYPHEN-MINUS"), ('.', "FULL STOP"), ('/', "SOLIDUS"), (':', "COLON"),
  (';', "SEMICOLON"), ('<', "LESS-THAN SIGN"), ('=', "EQUALS SIGN"), ('>', "GREATER-THAN SIGN"),
  ('?', "QUESTION MARK"), ('@', "COMMERCIAL AT"), ('[', "LEFT SQUARE BRACKET"),
  ('\\', "REVERSE SOLIDUS"), (']', "RIGHT SQUARE BRACKET"), ('^', "CIRCUMFLEX ACCENT"),
  ('_', "LOW LINE"), ('\x60', "GRAVE ACCENT"), ('\x7b', "LEFT CURLY BRACKET"), ('|', "VERTICAL LINE"),
  ('\x7d', "RIGHT CURLY BRACKET"), ('~', "TILDE")]

def digitNames : List String :=
  ["ZERO", "ONE", "TWO", "THREE", "FOUR", "FIVE", "SIX", "SEVEN", "EIGHT", "NINE"]

/-- The name of a printable ASCII character. -/
def asciiName? (c : Char) : Option String :=
  if c.isDigit then (digitNames[c.toNat - 48]?).map ("DIGIT " ++ ·)
  else if c.isUpper then some ("LATIN CAPITAL LETTER " ++ String.ofList [c])
  else if c.isLower then some ("LATIN SMALL LETTER " ++ String.ofList [c.toUpper])
  else (signNames.find? (·.1 == c)).map (·.2)

/-- The printable ASCII character that has a name, which may be written in small letters. -/
def asciiNamed? (name : String) : Option Char :=
  ((List.range 0x7f).map Char.ofNat).find? fun c => asciiName? c == some (name.map Char.toUpper)

end BlockScript.Text
