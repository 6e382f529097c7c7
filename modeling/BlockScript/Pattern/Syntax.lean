import BlockScript.Pattern.Escape

/-!
# Reading patterns

A pattern is read mark by mark; groups that are still open wait on a stack. Texts that hold `<`, `=`
or `>` are never patterns, because those signs compare, so groups with names and tests of what comes
before do not occur.
-/

namespace BlockScript.Pattern

/-! ### Quantifiers -/

/-- From this number on, repetitions are too many to count. -/
def repetitionLimit : Nat :=
  4294967295

def readCount (digits : List Char) : Except PatternError Nat :=
  match readDigits digits with
  | .error e => .error (.number e)
  | .ok n => if n ≥ repetitionLimit then .error .repetitionTooLarge else .ok n

/-- The digits of `{least,most}`, after the opening brace. A missing number is empty; `{n}` is the same
as `{n,n}`. Braces of another form are not a quantifier. -/
def countDigits? (ms : List Mark) : Option (Taken (List Char × List Char)) :=
  let least := takeAllPlain Char.isDigit ms
  match ms.drop least.length with
  | .plain '\x7d' :: _ => if least.isEmpty then none else some ⟨(least, least), least.length + 1⟩
  | .plain ',' :: ms =>
    let most := takeAllPlain Char.isDigit ms
    if (ms.drop most.length).head? = some (.plain '\x7d') then
      some ⟨(least, most), least.length + most.length + 2⟩
    else none
  | _ => none

/-- How often something may be repeated. -/
structure Bounds where
  least : Nat
  most : Option Nat

def readBounds (least most : List Char) : Except PatternError Bounds := do
  let a ← if least.isEmpty then pure 0 else readCount least
  if most.isEmpty then return ⟨a, none⟩
  else
    let b ← readCount most
    if b < a then throw .malformed
    return ⟨a, some b⟩

/-! ### Flags -/

/-- What the flags of a pattern have set. -/
structure Options where
  ignoreCase : Bool
  multiline : Bool
  dotAll : Bool
  verbose : Bool
  ascii : Bool

def Options.reading (o : Options) : Reading :=
  ⟨o.ignoreCase, o.ascii⟩

def Options.none : Options :=
  ⟨false, false, false, false, false⟩

def Options.set (value : Bool) (o : Options) : Char → Options
  | 'i' => { o with ignoreCase := value }
  | 'm' => { o with multiline := value }
  | 's' => { o with dotAll := value }
  | 'x' => { o with verbose := value }
  | 'a' => { o with ascii := true }
  | 'u' => { o with ascii := false }
  | _ => o

def Options.setAll (value : Bool) (o : Options) (flags : List Char) : Options :=
  flags.foldl (Options.set value) o

def isFlag (c : Char) : Bool :=
  ['i', 'm', 's', 'x', 'a', 'u', 't'].contains c

/-- Whether flags may be turned on together. -/
def agree (on : List Char) : Bool :=
  !(on.contains 'a' && on.contains 'u')

inductive Flags
  /-- `(?flags)`, for the whole pattern. -/
  | whole (on : List Char)
  /-- `(?on-off:`, for a group. -/
  | group (on off : List Char)

/-- The flags after `(?`. In a group, flags for character classes cannot be turned off. -/
def readFlags (ms : List Mark) : Option (Taken Flags) :=
  let on := takeAllPlain isFlag ms
  match ms.drop on.length with
  | .plain ')' :: _ =>
    if !on.isEmpty && agree on then some ⟨.whole on, on.length + 1⟩ else none
  | .plain ':' :: _ =>
    if agree on && !on.contains 't' then some ⟨.group on [], on.length + 1⟩ else none
  | .plain '-' :: ms =>
    let off := takeAllPlain isFlag ms
    let allowed := off.all fun c => ['i', 'm', 's', 'x'].contains c && !on.contains c
    if (ms.drop off.length).head? = some (.plain ':') && !off.isEmpty && allowed && agree on &&
        !on.contains 't' then
      some ⟨.group on off, on.length + off.length + 2⟩
    else none
  | _ => none

/-! ### The state of reading -/

inductive PieceKind
  | ordinary
  | anchor
  | repeated
deriving DecidableEq

/-- A pattern that stands in a row with others. -/
structure Piece where
  pattern : Pattern
  kind : PieceKind

/-- What an opened parenthesis begins. -/
inductive Opening
  | plain
  | capture (number : Nat)
  | absent
  | ifGroup (number : Nat)

/-- A part of the pattern that is still open. Pieces and finished alternatives are kept last first. -/
structure Level where
  opening : Opening
  options : Options
  alternatives : List Pattern
  pieces : List Piece

namespace Level

/-- The pieces of the alternative being read, in a row. -/
def row (l : Level) : Pattern :=
  l.pieces.foldl (fun p piece => .seq piece.pattern p) .empty

def nextAlternative (l : Level) : Level :=
  { l with alternatives := l.row :: l.alternatives, pieces := [] }

def choice (l : Level) : Pattern :=
  l.alternatives.foldl (fun p q => .alt q p) l.row

/-- The pattern of a closed level. -/
def close (l : Level) : Pattern :=
  match l.opening with
  | .plain => l.choice
  | .capture n => .group n l.choice
  | .absent => .absent l.choice
  | .ifGroup n =>
    match l.alternatives with
    | yes :: _ => .ifGroup n yes l.row
    | [] => .ifGroup n l.row .empty

def add (piece : Piece) (l : Level) : Level :=
  { l with pieces := piece :: l.pieces }

end Level

structure Draft where
  level : Level
  outer : List Level
  /-- The number of groups opened so far. -/
  groups : Nat
  /-- The greatest group that a choice between two patterns has asked for. -/
  asked : Nat
  /-- The flags set for the whole pattern. -/
  flags : List Char
  repeats : Bool

namespace Draft

def start : Draft :=
  ⟨⟨.plain, .none, [], []⟩, [], 0, 0, [], false⟩

def add (d : Draft) (p : Pattern) (kind : PieceKind) : Draft :=
  { d with level := d.level.add ⟨p, kind⟩ }

def addSet (d : Draft) (members : List Member) (negated : Bool) : Draft :=
  d.add (.char ⟨members, negated, d.level.options.reading⟩) .ordinary

def addCode (d : Draft) (code : Nat) : Draft :=
  d.addSet [.code code] false

def addAnchor (d : Draft) (a : Anchor) : Draft :=
  d.add (.anchor a) .anchor

def enter (d : Draft) (opening : Opening) (options : Options) : Draft :=
  { d with level := ⟨opening, options, [], []⟩, outer := d.level :: d.outer }

/-- Whether a group has been opened and closed. -/
def isComplete (d : Draft) (number : Nat) : Bool :=
  number ≤ d.groups && (d.level :: d.outer).all fun l =>
    match l.opening with
    | .capture n => n != number
    | _ => true

/-- Repeats the last piece. -/
def repeatLast (d : Draft) (eagerness : Eagerness) (bounds : Bounds) : Except PatternError Draft :=
  match d.level.pieces with
  | ⟨p, .ordinary⟩ :: rest =>
    let piece : Piece := ⟨.loop eagerness bounds.least bounds.most p, .repeated⟩
    .ok { d with level := { d.level with pieces := piece :: rest }, repeats := true }
  | _ => .error .malformed

/-- Reads the mark after a quantifier, which says how eager it is, and repeats the last piece. -/
def quantify (d : Draft) (bounds : Bounds) (size : Nat) (ms : List Mark) :
    Except PatternError (Taken Draft) :=
  match ms with
  | .plain '?' :: _ => return ⟨← d.repeatLast .lazy bounds, size + 1⟩
  | .plain '+' :: _ => return ⟨← d.repeatLast .possessive bounds, size + 1⟩
  | _ => return ⟨← d.repeatLast .greedy bounds, size⟩

/-- Reads on after an opening brace, which stands for itself if no quantifier follows. -/
def readBrace (d : Draft) (ms : List Mark) : Except PatternError (Taken Draft) :=
  match countDigits? ms with
  | none => .ok ⟨d.addCode '\x7b'.toNat, 0⟩
  | some ⟨(least, most), size⟩ =>
    let rest := ms.drop size
    if rest.head? = some .cut then .error .malformed
    else do d.quantify (← readBounds least most) size rest

/-- Reads a reference to a group, or an octal code point of three digits; `c` is the first digit and
not zero. -/
def readReference (d : Draft) (c : Char) (ms : List Mark) : Except PatternError (Taken Draft) :=
  match takePlain Char.isDigit 2 ms with
  | [a, b] =>
    if isOctal c && isOctal a && isOctal b then
      let code := valueIn 8 [c, a, b]
      if code ≤ 0o377 then .ok ⟨d.addCode code, 2⟩ else .error .malformed
    else refer [c, a]
  | [a] => refer [c, a]
  | _ => refer [c]
where
  refer (digits : List Char) : Except PatternError (Taken Draft) :=
    let number := valueIn 10 digits
    if number ≠ 0 ∧ d.isComplete number then
      .ok ⟨d.add (.again number d.level.options.reading) .ordinary, digits.length - 1⟩
    else .error .malformed

def readEscape (named? : String → Option Char) (d : Draft) (c : Char) (ms : List Mark) :
    Except PatternError (Taken Draft) :=
  let ascii := d.level.options.ascii
  match c with
  | 'A' => .ok ⟨d.addAnchor .start, 0⟩
  | 'Z' => .ok ⟨d.addAnchor .stop, 0⟩
  | 'b' => .ok ⟨d.addAnchor (.wordEdge false ascii), 0⟩
  | 'B' => .ok ⟨d.addAnchor (.wordEdge true ascii), 0⟩
  | c =>
    match categoryEscape? c with
    | some member => .ok ⟨d.addSet [member] false, 0⟩
    | none =>
      if c ≠ '0' ∧ c.isDigit then d.readReference c ms
      else
        match if c = '0' then octalCode? 2 c ms else codeEscape? named? c ms with
        | some t => .ok (t.map d.addCode)
        | none => .error .malformed

/-- Reads `(number)` after `(?`, where a group decides between two patterns. -/
def readDecision (d : Draft) (ms : List Mark) : Except PatternError (Taken Draft) :=
  let name := takeAllPlain (· ≠ ')') ms
  match (ms.drop name.length).head?, readInt (String.ofList name) with
  | some (.plain ')'), .ok n =>
    if n ≤ 0 then .error .malformed
    else
      let opened := d.enter (.ifGroup n.toNat) d.level.options
      .ok ⟨{ opened with asked := max d.asked n.toNat }, name.length + 1⟩
  | _, _ => .error .malformed

/-- Reads flags after `(?`. Flags for the whole pattern stand at its very beginning. -/
def readOptions (d : Draft) (ms : List Mark) : Except PatternError (Taken Draft) :=
  match readFlags ms with
  | none => .error .malformed
  | some ⟨.group on off, size⟩ =>
    .ok ⟨d.enter .plain ((d.level.options.setAll true on).setAll false off), size⟩
  | some ⟨.whole on, size⟩ =>
    if d.outer.isEmpty && d.level.alternatives.isEmpty && d.level.pieces.isEmpty then
      let flags := d.flags ++ on
      .ok ⟨{ d with level := { d.level with options := d.level.options.setAll true on },
                    flags := flags }, size⟩
    else .error .malformed

/-- Reads on after an opening parenthesis. -/
def readGroup (d : Draft) (ms : List Mark) : Except PatternError (Taken Draft) :=
  let options := d.level.options
  match ms with
  | .plain '?' :: .plain ':' :: _ => .ok ⟨d.enter .plain options, 2⟩
  | .plain '?' :: .plain '!' :: _ => .ok ⟨d.enter .absent options, 2⟩
  | .plain '?' :: .plain '(' :: ms => do return (← d.readDecision ms).after 2
  | .plain '?' :: .plain '#' :: ms =>
    let comment := ms.takeWhile (· ≠ .plain ')')
    if comment.length < ms.length then .ok ⟨d, comment.length + 3⟩ else .error .malformed
  | .plain '?' :: ms => do return (← d.readOptions ms).after 1
  | _ =>
    .ok ⟨{ d with groups := d.groups + 1 }.enter (.capture (d.groups + 1)) options, 0⟩

/-- Goes on to the next alternative; a choice by a group has two. -/
def readBar (d : Draft) : Except PatternError Draft :=
  match d.level.opening, d.level.alternatives with
  | .ifGroup _, _ :: _ => .error .malformed
  | _, _ => .ok { d with level := d.level.nextAlternative }

/-- Reads one construct, which starts with `m`; the size counts the marks after `m`. -/
def read (named? : String → Option Char) (d : Draft) (m : Mark) (ms : List Mark) :
    Except PatternError (Taken Draft) :=
  let options := d.level.options
  let one (d : Draft) : Except PatternError (Taken Draft) := .ok ⟨d, 0⟩
  match m with
  | .cut => .error .malformed
  | .escaped c => d.readEscape named? c ms
  | .plain c =>
    if options.verbose && (c == ' ' || (9 ≤ c.toNat && c.toNat ≤ 13)) then one d
    else if options.verbose && c == '#' then
      .ok ⟨d, (ms.takeWhile fun m => m ≠ .plain '\n' && m ≠ .cut).length⟩
    else
      match c with
      | '.' => one (d.addSet (if options.dotAll then [] else [.code '\n'.toNat]) true)
      | '^' => one (d.addAnchor (if options.multiline then .lineStart else .start))
      | '$' => one (d.addAnchor (if options.multiline then .lineEnd else .lastLineEnd))
      | '|' => d.readBar.map (⟨·, 0⟩)
      | '(' => d.readGroup ms
      | '[' =>
        match readSet named? options.reading ms with
        | some t => .ok (t.map fun set => d.add (.char set) .ordinary)
        | none => .error .malformed
      | '*' => d.quantify ⟨0, none⟩ 0 ms
      | '+' => d.quantify ⟨1, none⟩ 0 ms
      | '?' => d.quantify ⟨0, some 1⟩ 0 ms
      | '\x7b' => d.readBrace ms
      | c => one (d.addCode c.toNat)

/-- Reads constructs to the end, or to a parenthesis that closes nothing; the marks that are left
start with it. -/
def readAll (named? : String → Option Char) (d : Draft) :
    List Mark → Except PatternError (Draft × List Mark)
  | [] => .ok (d, [])
  | m :: ms =>
    if m = .plain ')' then
      match d.outer with
      | [] => .ok (d, m :: ms)
      | parent :: outer =>
        readAll named? { d with level := parent.add ⟨d.level.close, .ordinary⟩, outer := outer } ms
    else do
      let t ← d.read named? m ms
      readAll named? t.value (ms.drop t.size)
termination_by ms => ms.length
decreasing_by all_goals simp only [List.length_drop, List.length_cons]; omega

/-- The pattern of a draft, `left` being the marks that have not been read. -/
def finish (d : Draft) (left : List Mark) : Except PatternError Pattern :=
  if !d.outer.isEmpty then .error .malformed
  else if !agree d.flags then .error .incompatibleFlags
  else if !left.isEmpty || d.asked > d.groups || (d.flags.contains 't' && d.repeats) then
    .error .malformed
  else .ok d.level.choice

end Draft

/-- Reads a pattern; characters in it are found by their names with `named?`. -/
def ofText (named? : String → Option Char) (text : String) : Except PatternError Pattern := do
  let (d, left) ← Draft.start.readAll named? (Mark.ofChars text.toList)
  d.finish left

end BlockScript.Pattern
