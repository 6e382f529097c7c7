import BlockScript.Statement.Reading

/-!
# Reading streams

The statements of a block are read off the tokens of all its lines in one pass. What is read of a
statement stands on the line of its operator; an end mark ends the stream.
-/

namespace BlockScript

/-- Whether a token stands on a line. End marks stand on none. -/
def Token.isOn (line : Int) (t : Token) : Bool :=
  t.kind != .endOfInput && t.line == line

namespace Statement.Stream

/-! ### Moving on -/

/-- The first token, if it stands on the line and its kind satisfies `p`, and what follows it. -/
def next? (line : Int) (p : TokenKind → Bool) : List Token → Option (Token × List Token)
  | [] => none
  | t :: ts => if t.isOn line && p t.kind then some (t, ts) else none

/-- The tokens that stand on the line up to the first one whose kind does not satisfy `p`. -/
def takeOn (line : Int) (p : TokenKind → Bool) (ts : List Token) : List Token :=
  ts.takeWhile fun t => t.isOn line && p t.kind

/-- What follows these. -/
def dropOn (line : Int) (p : TokenKind → Bool) (ts : List Token) : List Token :=
  ts.dropWhile fun t => t.isOn line && p t.kind

theorem suffix_of_next? {line : Int} {p : TokenKind → Bool} {ts rest : List Token} {t : Token}
    (h : next? line p ts = some (t, rest)) : rest <:+ ts := by
  cases ts with
  | nil => cases h
  | cons u ts =>
    rw [next?] at h
    split at h
    · cases h
      exact List.suffix_cons _ _
    · cases h

theorem dropOn_suffix (line : Int) (p : TokenKind → Bool) (ts : List Token) :
    dropOn line p ts <:+ ts :=
  List.dropWhile_suffix _

/-! ### Statements -/

/-- The condition block of a conditional. -/
def readCondition (line : Int) (ts : List Token) : Option String × List Token :=
  match next? line (· == .actionBlock) ts with
  | none => (none, ts)
  | some (t, rest) => (some (Text.trim t.value), rest)

def readDeclaration (line : Int) (ts : List Token) : Declaration × List Token :=
  match next? line (· == .identifier) ts with
  | none => (⟨none, none, []⟩, ts)
  | some (t, rest) =>
    let keyword := Text.lower t.value
    let (condition, rest) :=
      if keyword = Keyword.conditional then readCondition line rest else (none, rest)
    let subjects := takeOn line (· == .variableBlock) rest
    (⟨some keyword, condition, subjects.map fun v => Text.trim v.value⟩,
      dropOn line (· == .variableBlock) rest)

/-- The tokens of the zone that the operator `kind` opens, up to an operator of a statement or one in
`stops`. -/
def readZone (line : Int) (kind : TokenKind) (stops : List TokenKind) (ts : List Token) :
    Option (List Token) × List Token :=
  match next? line (· == kind) ts with
  | none => (none, ts)
  | some (_, rest) =>
    let within (k : TokenKind) := !k.isOpener && !stops.contains k
    (some (takeOn line within rest), dropOn line within rest)

/-- The one token of an outcome. -/
def readOutcome (line : Int) (ts : List Token) : Option String × List Token :=
  match next? line (· == .trigger) ts with
  | none => (none, ts)
  | some (_, rest) =>
    match next? line (!·.isOpener) rest with
    | none => (none, rest)
    | some (t, rest) => (some (Text.trim t.value), rest)

/-- The hierarchical operators of a run that follow its first one. -/
def readRun (opener : Token) (ts : List Token) : Nat × List Token :=
  if opener.kind = .hierarchical then
    ((takeOn opener.line (· == .hierarchical) ts).length,
      dropOn opener.line (· == .hierarchical) ts)
  else (0, ts)

/-- The statement that an operator opens, and what follows it from the next operator or line on. -/
def readStatement (width : Nat) (opener : Token) (ts : List Token) : Statement × List Token :=
  let run := readRun opener ts
  let declaration := readDeclaration opener.line run.2
  let target := readZone opener.line .relation [.parameter, .trigger] declaration.2
  let effect := readZone opener.line .parameter [.trigger] target.2
  let outcome := readOutcome opener.line effect.2
  ({ operator := if opener.kind = .hierarchical then .hierarchical else .root
     keyword := declaration.1.keyword
     condition := declaration.1.condition
     subjects := declaration.1.subjects
     target := target.1.map targetOf
     effect := effect.1.map effectOf
     outcome := outcome.1
     depth := if opener.kind = .hierarchical then opener.start / max 1 width + run.1 else 0
     line := opener.line
     column := opener.column },
    dropOn opener.line (!·.isOpener) outcome.2)

/-! ### Streams -/

theorem readCondition_suffix (line : Int) (ts : List Token) :
    (readCondition line ts).2 <:+ ts := by
  unfold readCondition
  split
  next => exact List.suffix_rfl
  next h => exact suffix_of_next? h

theorem readDeclaration_suffix (line : Int) (ts : List Token) :
    (readDeclaration line ts).2 <:+ ts := by
  unfold readDeclaration
  split
  next => exact List.suffix_rfl
  next t rest h =>
    refine List.IsSuffix.trans ?_ (suffix_of_next? h)
    dsimp only
    split
    · exact (dropOn_suffix line _ _).trans (readCondition_suffix line rest)
    · exact dropOn_suffix line _ _

theorem readZone_suffix (line : Int) (kind : TokenKind) (stops : List TokenKind)
    (ts : List Token) : (readZone line kind stops ts).2 <:+ ts := by
  unfold readZone
  split
  next => exact List.suffix_rfl
  next h =>
    dsimp only
    exact (dropOn_suffix line _ _).trans (suffix_of_next? h)

theorem readOutcome_suffix (line : Int) (ts : List Token) : (readOutcome line ts).2 <:+ ts := by
  unfold readOutcome
  split
  next => exact List.suffix_rfl
  next h =>
    split
    next => exact suffix_of_next? h
    next h' => exact (suffix_of_next? h').trans (suffix_of_next? h)

theorem readRun_suffix (opener : Token) (ts : List Token) : (readRun opener ts).2 <:+ ts := by
  unfold readRun
  split
  · dsimp only
    exact dropOn_suffix opener.line _ ts
  · exact List.suffix_rfl

theorem readStatement_suffix (width : Nat) (opener : Token) (ts : List Token) :
    (readStatement width opener ts).2 <:+ ts := by
  unfold readStatement
  dsimp only
  refine (dropOn_suffix _ _ _).trans ?_
  refine (readOutcome_suffix _ _).trans ?_
  refine (readZone_suffix _ _ _ _).trans ?_
  refine (readZone_suffix _ _ _ _).trans ?_
  exact (readDeclaration_suffix _ _).trans (readRun_suffix opener ts)

/-- The statements of a stream. Tokens before the first operator of a line belong to none. -/
def readAll (width : Nat) : List Token → List Statement
  | [] => []
  | t :: ts =>
    if t.kind = .endOfInput then []
    else if t.kind.isOpener then
      let read := readStatement width t ts
      read.1 :: readAll width read.2
    else readAll width ts
termination_by ts => ts.length
decreasing_by
  · exact Nat.lt_succ_of_le (readStatement_suffix width t ts).length_le
  · exact Nat.lt_succ_self _

end Statement.Stream

end BlockScript
