import BlockScript.Grammar.Span
import BlockScript.Statement.Basic
import BlockScript.Token.Scan
import BlockScript.Token.Source

/-!
# Reading statements

A statement is read from its span, zone by zone from left to right. Whatever is out of place is
passed over; nothing is refused.
-/

namespace BlockScript.Statement

/-- What a declaration says. -/
structure Declaration where
  keyword : Option String
  condition : Option String
  subjects : List String

/-- A condition block at the head of some tokens. -/
def readCondition : List Token → Option String × List Token
  | [] => (none, [])
  | t :: ts =>
    if t.kind = .actionBlock then (some (Text.trim t.value), ts) else (none, t :: ts)

/-- Reads the keyword, the block of a conditional, and the subjects; without a keyword nothing is
read. -/
def readDeclaration : List Token → Declaration × List Token
  | [] => (⟨none, none, []⟩, [])
  | t :: ts =>
    if t.kind = .identifier then
      let keyword := Text.lower t.value
      let (condition, rest) :=
        if keyword = Keyword.conditional then readCondition ts else (none, ts)
      let subjects := rest.takeWhile (·.kind == .variableBlock)
      (⟨some keyword, condition, subjects.map fun v => Text.trim v.value⟩,
        rest.dropWhile (·.kind == .variableBlock))
    else (⟨none, none, []⟩, t :: ts)

/-- The function of a target, an identifier in lower case or a string as it is, and the tokens after
it. -/
def readFunction : List Token → Option (String × List Token)
  | [] => none
  | t :: ts =>
    if t.kind = .identifier then some (Text.lower t.value, ts)
    else if t.kind = .string then some (t.value, ts)
    else readFunction ts

/-- The target that the tokens of its zone name: the first function, and the first variable block
after it. -/
def targetOf (zone : List Token) : TargetZone :=
  match readFunction zone with
  | none => ⟨"", none, Token.sourceOf zone⟩
  | some (function, rest) =>
    let argument := (splitAt? .variableBlock rest).map fun (t, _) => Text.trim t.value
    ⟨function, argument, Token.sourceOf zone⟩

/-- The actions of an effect zone, each with the option right behind it. -/
def readActions : List Token → List (String × Option String)
  | [] => []
  | t :: ts =>
    if t.kind = .actionBlock then
      match ts with
      | [] => [(Text.trim t.value, none)]
      | o :: rest =>
        if o.kind = .optionBlock then
          (Text.trim t.value, some (Text.trim o.value)) :: readActions rest
        else (Text.trim t.value, none) :: readActions (o :: rest)
    else readActions ts

/-- The first action is the effect; options of a repeated action replace earlier ones. -/
def effectOf (zone : List Token) : EffectZone :=
  let actions := readActions zone
  ⟨actions.head?.map (·.1),
    Entries.ofPairs (actions.filterMap fun (name, option) => option.map (name, ·))⟩

/-- The tokens of the zone that the operator `kind` opens at the head of `tokens`, up to an operator
in `stops`, and what follows them. -/
def readZone (kind : TokenKind) (stops : List TokenKind) :
    List Token → Option (List Token) × List Token
  | [] => (none, [])
  | t :: ts =>
    if t.kind = kind then
      (some (ts.takeWhile (!stops.contains ·.kind)), ts.dropWhile (!stops.contains ·.kind))
    else (none, t :: ts)

/-- The statement of a span. -/
def ofSpan (width : Nat) (span : Span) : Statement :=
  let (declaration, rest) := readDeclaration span.body
  let (target, rest) := readZone .relation [.parameter, .trigger] rest
  let (effect, rest) := readZone .parameter [.trigger] rest
  let (output, _) := readZone .trigger [] rest
  { operator := if span.isHierarchical then .hierarchical else .root
    keyword := declaration.keyword
    condition := declaration.condition
    subjects := declaration.subjects
    target := target.map targetOf
    effect := effect.map effectOf
    outcome := output.bind fun zone => zone.head?.map fun t => Text.trim t.value
    depth := span.depth (max 1 width)
    line := span.opener.line
    column := span.opener.column }

/-- The statements of one line. -/
def ofLine (width : Nat) (line : Int) (text : String) : List Statement :=
  (Span.split (Token.scan width line text)).map (ofSpan width)

/-- The statements of lines numbered from `start`. -/
def ofLinesFrom (width : Nat) (start : Int) : List String → List Statement
  | [] => []
  | text :: rest => ofLine width start text ++ ofLinesFrom width (start + 1) rest

/-- The statements of a block, in the order in which they are written. -/
def ofLines (width : Nat) (lines : List String) : List Statement :=
  ofLinesFrom width 1 lines

end BlockScript.Statement
