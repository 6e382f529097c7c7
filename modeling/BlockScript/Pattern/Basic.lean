import BlockScript.Text.Alphanumeric
import BlockScript.Text.Blank
import BlockScript.Text.Case
import BlockScript.Text.Digit

/-!
# Patterns

What a text can be searched for: characters of given sets one after the other, with alternatives,
repetitions, groups and tests of the place that has been reached.
-/

namespace BlockScript

namespace Pattern

/-! ### Sets of characters -/

inductive Category
  | digit
  | blank
  | word
deriving DecidableEq

/-- Whether a character is of a category; only ASCII characters are if `ascii` is set. -/
def Category.contains (ascii : Bool) (c : Char) : Category → Bool
  | .digit => if ascii then c.isDigit else Text.isDigit c
  | .blank => if ascii then c == ' ' || (9 ≤ c.toNat && c.toNat ≤ 13) else Text.isBlank c
  | .word =>
    c == '_' || (if ascii then c.isAlphanum else Text.alphanumeric.contains c)

/-- A part of a set: a run of code points, or a category or all that is outside of it. -/
inductive Member
  | codes (first last : Nat)
  | category (category : Category) (negated : Bool)
deriving DecidableEq

/-- How characters are compared and classified. -/
structure Reading where
  ignoreCase : Bool
  ascii : Bool
deriving DecidableEq

/-- The characters that count as `c`, itself among them. -/
def Reading.forms (r : Reading) (c : Char) : List Char :=
  if !r.ignoreCase then [c]
  else if r.ascii then [c, c.toLower, c.toUpper]
  else c :: (Text.lowerForms c).flatMap fun low => low :: Text.upperForms low

/-- Whether two characters count as the same one. -/
def Reading.same (r : Reading) (a b : Char) : Bool :=
  if !r.ignoreCase then a == b
  else if r.ascii then a.toLower == b.toLower
  else Text.lowerChar a == Text.lowerChar b

structure CharSet where
  members : List Member
  negated : Bool
  reading : Reading
deriving DecidableEq

def Member.contains (r : Reading) (c : Char) : Member → Bool
  | .codes first last => (r.forms c).any fun x => first ≤ x.toNat && x.toNat ≤ last
  | .category kind negated => kind.contains r.ascii c != negated

def CharSet.contains (s : CharSet) (c : Char) : Bool :=
  s.members.any (·.contains s.reading c) != s.negated

/-! ### Places -/

/-- A test of a place in the text. -/
inductive Anchor
  /-- The start of the text. -/
  | start
  | lineStart
  /-- The end of the text, or right before a line feed that ends it. -/
  | lastLineEnd
  | lineEnd
  /-- The end of the text. -/
  | stop
  /-- Between a word character and another one or an end of the text, or anywhere else if `inside`
  is set. An empty text has no such place. -/
  | wordEdge (inside ascii : Bool)
deriving DecidableEq

/-- In which order numbers of repetitions are tried. -/
inductive Eagerness
  | greedy
  | lazy
  /-- As often as possible, and never fewer times on a second thought. -/
  | possessive
deriving DecidableEq

end Pattern

inductive Pattern
  | empty
  | char (set : Pattern.CharSet)
  | anchor (anchor : Pattern.Anchor)
  | seq (first second : Pattern)
  | alt (first second : Pattern)
  | loop (eagerness : Pattern.Eagerness) (least : Nat) (most : Option Nat) (body : Pattern)
  | group (number : Nat) (body : Pattern)
  /-- The text that a group has matched, once more. -/
  | again (number : Nat) (reading : Pattern.Reading)
  /-- Nothing, where the body does not match. -/
  | absent (body : Pattern)
  /-- One of two patterns, by whether a group has matched. -/
  | ifGroup (number : Nat) (yes no : Pattern)

end BlockScript
