import BlockScript.Token.Basic

/-! # Spelling tokens -/

namespace BlockScript.Token

/-- The spelling of a token, its delimiters restored; a string gets double quotes. -/
def source (t : Token) : String :=
  let (opening, closing) := t.kind.delimiters
  String.ofList (opening ++ t.value.toList ++ closing)

/-- Whether something stood between two tokens of a text. -/
def apart (previous next : Token) : Bool :=
  next.line ≠ previous.line || next.start > previous.stop

/-- The spelling of the tokens that follow `previous`, up to an end mark. -/
def sourceAfter (previous : Token) : List Token → String
  | [] => ""
  | t :: ts =>
    if t.kind = .endOfInput then ""
    else (if previous.apart t then " " else "") ++ t.source ++ sourceAfter t ts

/-- The spelling of a row of tokens, with one space where they stood apart. -/
def sourceOf : List Token → String
  | [] => ""
  | t :: ts => if t.kind = .endOfInput then "" else t.source ++ sourceAfter t ts

/-- The spelling of the tokens from position `first` to position `last`, both included; nothing if
these are not positions of the row, in order. -/
def sourceBetween (tokens : List Token) (first last : Int) : String :=
  if first < 0 ∨ last < first ∨ last ≥ tokens.length then ""
  else sourceOf ((tokens.take (last.toNat + 1)).drop first.toNat)

end BlockScript.Token
