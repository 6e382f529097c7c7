import BlockScript.Pattern.Basic

/-!
# Searching

Patterns are matched by backtracking: alternatives and numbers of repetitions are tried in order, and
the first way that lets the rest of the pattern match is taken. A repetition that took no text is not
repeated beyond the least number of times.
-/

namespace BlockScript.Pattern

/-- A place in a text, with what the groups have matched on the way to it. -/
structure Cursor where
  position : Nat
  before : Option Char
  rest : List Char
  groups : List (Nat × List Char)

namespace Cursor

def ofText (text : List Char) : Cursor :=
  ⟨0, none, text, []⟩

def next? (c : Cursor) : Option (Char × Cursor) :=
  match c.rest with
  | [] => none
  | x :: xs => some (x, ⟨c.position + 1, some x, xs, c.groups⟩)

/-- What a group has matched most recently. -/
def group? (c : Cursor) (number : Nat) : Option (List Char) :=
  (c.groups.find? (·.1 == number)).map (·.2)

/-- Records the text from `first` up to here as the match of a group. -/
def capture (number : Nat) (first c : Cursor) : Cursor :=
  { c with groups := (number, first.rest.take (c.position - first.position)) :: c.groups }

/-- Passes over a given text. -/
def skip? (reading : Reading) (c : Cursor) : List Char → Option Cursor
  | [] => some c
  | x :: xs =>
    match c.next? with
    | none => none
    | some (y, d) => if reading.same x y then skip? reading d xs else none

end Cursor

def Anchor.holds (c : Cursor) : Anchor → Bool
  | .start => c.before.isNone
  | .lineStart => c.before.isNone || c.before == some '\n'
  | .lastLineEnd => c.rest.isEmpty || c.rest == ['\n']
  | .lineEnd => c.rest.isEmpty || c.rest.head? == some '\n'
  | .stop => c.rest.isEmpty
  | .wordEdge inside ascii =>
    let isWord (x : Option Char) : Bool := x.any (Category.word.contains ascii ·)
    !(c.before.isNone && c.rest.isEmpty) &&
      (isWord c.before != isWord c.rest.head?) != inside

/-- What is tried after a match. -/
abbrev Continuation := Cursor → Option Cursor

abbrev Matcher := Cursor → Continuation → Option Cursor

/-- A fixed number of matches in a row. -/
def times (m : Matcher) : Nat → Matcher
  | 0, c, k => k c
  | n + 1, c, k => m c fun d => times m n d k

/-- Whether one more optional repetition may start here. `last` is where the one before it started. -/
def mayRepeat (most : Option Nat) (last : Option Nat) (c : Cursor) : Bool :=
  most != some 0 && last != some c.position

/-- Up to `most` more matches, as many as possible first. -/
def greedy (m : Matcher) (k : Continuation) :
    (fuel : Nat) → (most : Option Nat) → (last : Option Nat) → Cursor → Option Cursor
  | 0, _, _, c => k c
  | fuel + 1, most, last, c =>
    if mayRepeat most last c then
      (m c fun d => greedy m k fuel (most.map (· - 1)) (some c.position) d) <|> k c
    else k c

/-- Up to `most` more matches, as few as possible first. -/
def lazy (m : Matcher) (k : Continuation) :
    (fuel : Nat) → (most : Option Nat) → (last : Option Nat) → Cursor → Option Cursor
  | 0, _, _, c => k c
  | fuel + 1, most, last, c =>
    k c <|>
      if mayRepeat most last c then
        m c fun d => lazy m k fuel (most.map (· - 1)) (some c.position) d
      else none

/-- The end of as many matches as possible, each one the first that can be found. -/
def possessive (m : Matcher) : (fuel : Nat) → (most : Option Nat) → Cursor → Cursor
  | 0, _, c => c
  | fuel + 1, most, c =>
    if most = some 0 then c
    else
      match m c some with
      | none => c
      | some d => if d.position = c.position then d else possessive m fuel (most.map (· - 1)) d

/-- Matches by `m`, between `least` and `most` times. There can be no more optional repetitions than
there are characters left, and one. -/
def loopMatcher (eagerness : Eagerness) (least : Nat) (most : Option Nat) (m : Matcher) : Matcher :=
  fun c k =>
    let more := most.map (· - least)
    match eagerness with
    | .greedy => times m least c fun d => greedy m k (d.rest.length + 2) more none d
    | .lazy => times m least c fun d => lazy m k (d.rest.length + 2) more none d
    | .possessive =>
      let once : Matcher := fun c k => (m c some).bind k
      times once least c fun d => k (possessive m (d.rest.length + 2) more d)

def matcher : Pattern → Matcher
  | .empty => fun c k => k c
  | .char set => fun c k =>
    match c.next? with
    | some (x, d) => if set.contains x then k d else none
    | none => none
  | .anchor a => fun c k => if a.holds c then k c else none
  | .seq p q => fun c k => matcher p c fun d => matcher q d k
  | .alt p q => fun c k => matcher p c k <|> matcher q c k
  | .loop eagerness least most p => loopMatcher eagerness least most (matcher p)
  | .group n p => fun c k => matcher p c fun d => k (.capture n c d)
  | .again n reading => fun c k => ((c.group? n).bind (c.skip? reading ·)).bind k
  | .absent p => fun c k => if (matcher p c some).isSome then none else k c
  | .ifGroup n yes no => fun c k =>
    if (c.group? n).isSome then matcher yes c k else matcher no c k

/-- Whether a match starts at some place from `c` on. -/
def foundFrom (p : Pattern) (before : Option Char) (position : Nat) : List Char → Bool
  | [] => (p.matcher ⟨position, before, [], []⟩ some).isSome
  | x :: xs =>
    (p.matcher ⟨position, before, x :: xs, []⟩ some).isSome || foundFrom p (some x) (position + 1) xs

/-- Whether the pattern matches somewhere in a text. -/
def isFoundIn (p : Pattern) (text : String) : Bool :=
  p.foundFrom none 0 text.toList

end BlockScript.Pattern
