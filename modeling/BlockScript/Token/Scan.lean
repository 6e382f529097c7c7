import BlockScript.Text.Digit
import BlockScript.Text.Lines
import BlockScript.Token.Basic

/-!
# Scanning lines

At every offset the first form that fits gives the next token. A character at which no form fits,
blanks among them, is passed over.
-/

namespace BlockScript

/-- A token seen at the start of a text: its kind, its value and the number of characters it takes. -/
structure Lexeme where
  kind : TokenKind
  value : List Char
  size : Nat

namespace Lexeme

/-- An operator. -/
def symbol? (spelling : String) (kind : TokenKind) (cs : List Char) : Option Lexeme :=
  if spelling.toList.isPrefixOf cs then some ⟨kind, spelling.toList, spelling.length⟩ else none

/-- Text between `opening` and the next `closing`. -/
def enclosed? (opening closing : Char) (kind : TokenKind) : List Char → Option Lexeme
  | [] => none
  | c :: cs =>
    let inner := cs.takeWhile (· ≠ closing)
    if c = opening ∧ inner.length < cs.length then some ⟨kind, inner, inner.length + 2⟩ else none

/-- A bracketed block; it holds at least one character. -/
def block? (opening closing : Char) (kind : TokenKind) (cs : List Char) : Option Lexeme :=
  (enclosed? opening closing kind cs).filter (!·.value.isEmpty)

/-- Digits, and a point with more digits if both are there. -/
def number? (cs : List Char) : Option Lexeme :=
  let whole := cs.takeWhile Text.isDigit
  let fraction :=
    match cs.dropWhile Text.isDigit with
    | '.' :: rest => rest.takeWhile Text.isDigit
    | _ => []
  let spelling := if fraction.isEmpty then whole else whole ++ '.' :: fraction
  if whole.isEmpty then none else some ⟨.number, spelling, spelling.length⟩

def startsIdentifier (c : Char) : Bool :=
  c.isAlpha || c == '_'

def continuesIdentifier (c : Char) : Bool :=
  c.isAlphanum || c == '_'

/-- A letter or underscore, then letters, digits and underscores, all of them ASCII. -/
def identifier? : List Char → Option Lexeme
  | [] => none
  | c :: cs =>
    let spelling := c :: cs.takeWhile continuesIdentifier
    if startsIdentifier c then some ⟨.identifier, spelling, spelling.length⟩ else none

/-- The forms of a token, in order of precedence. -/
def forms : List (List Char → Option Lexeme) := [
  symbol? ":^:" .hierarchical,
  symbol? "::" .root,
  symbol? "//" .relation,
  symbol? "%" .parameter,
  symbol? "->" .trigger,
  block? '\x7b' '\x7d' .actionBlock,
  block? '[' ']' .variableBlock,
  block? '(' ')' .optionBlock,
  enclosed? '"' '"' .string,
  enclosed? '\'' '\'' .string,
  number?,
  identifier?]

/-- The lexeme at the start of a text, by the first form that fits. -/
def first? (cs : List Char) : Option Lexeme :=
  forms.findSome? (· cs)

end Lexeme

namespace Token

/-- The tokens of the part of a line that starts at `offset`. -/
def scanFrom (line : Int) (offset : Nat) : List Char → List Token
  | [] => []
  | c :: cs =>
    match Lexeme.first? (c :: cs) with
    | some l =>
      ⟨l.kind, String.ofList l.value, line, offset, offset + l.size⟩ ::
        scanFrom line (offset + l.size) (cs.drop (l.size - 1))
    | none => scanFrom line (offset + 1) cs
termination_by cs => cs.length
decreasing_by all_goals simp only [List.length_drop, List.length_cons]; omega

/-- The tokens of a line whose tabs are expanded to `width`. -/
def scan (width : Nat) (line : Int) (text : String) : List Token :=
  scanFrom line 0 (Text.expandTabs width text)

/-- The mark after the last token. -/
def endMark (line : Int) (offset : Nat) : Token :=
  ⟨.endOfInput, "", line, offset, offset⟩

/-- The tokens of one line and the end mark after its last character. -/
def ofLine (width : Nat) (line : Int) (text : String) : List Token :=
  scan width line text ++ [endMark line (Text.expandTabs width text).length]

/-- The tokens of lines that are numbered from `start`, each line on its own. -/
def scanLines (width : Nat) (start : Int) : List String → List Token
  | [] => []
  | text :: rest => scan width start text ++ scanLines width (start + 1) rest

/-- The tokens of some lines and one end mark, on the last of them. -/
def ofLines (width : Nat) (start : Int) (lines : List String) : List Token :=
  scanLines width start lines ++ [endMark (max start (start + lines.length - 1)) 0]

end Token

end BlockScript
