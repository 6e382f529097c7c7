import BlockScript.Grammar.Brackets
import BlockScript.Proofs.Digits

/-!
# Sentences

The grammar of statements on one line: a known keyword with its subjects, a target, one or more
effects, and an outcome. `Sentence.line` is the canonical spelling, `Sentence.WellFormed` says what
may stand in the parts. The texts between brackets are free in all else: operators, quotes and the
other kinds of brackets may stand there.
-/

namespace BlockScript

/-! ### Balanced texts -/

/-- The number of brackets that are open behind a text, with `depth` open in front of it; none if a
bracket closes nothing. -/
def depthAfter? (opening closing : Char) (depth : Nat) : List Char → Option Nat
  | [] => some depth
  | c :: cs =>
    if c = opening then depthAfter? opening closing (depth + 1) cs
    else if c = closing then
      if depth = 0 then none else depthAfter? opening closing (depth - 1) cs
    else depthAfter? opening closing depth cs

/-- Whether each bracket of a pair has its partner in a text. -/
def Balanced (pair : Char × Char) (cs : List Char) : Prop :=
  depthAfter? pair.1 pair.2 0 cs = some 0

instance (pair : Char × Char) (cs : List Char) : Decidable (Balanced pair cs) :=
  inferInstanceAs (Decidable (_ = _))

lemma depthAfter?_append (opening closing : Char) (depth : Nat) (front back : List Char) :
    depthAfter? opening closing depth (front ++ back) =
      (depthAfter? opening closing depth front).bind (depthAfter? opening closing · back) := by
  fun_induction depthAfter? opening closing depth front with
  | case1 => rfl
  | case2 depth cs ih => simpa [depthAfter?] using ih
  | case3 cs hne => simp [depthAfter?, hne]
  | case4 depth cs hne hdepth ih => simpa [depthAfter?, hne, hdepth] using ih
  | case5 depth c cs hopening hclosing ih => simpa [depthAfter?, hopening, hclosing] using ih

lemma depthAfter?_of_free {pair : Char × Char} {cs : List Char} (hopening : pair.1 ∉ cs)
    (hclosing : pair.2 ∉ cs) (depth : Nat) : depthAfter? pair.1 pair.2 depth cs = some depth := by
  induction cs with
  | nil => rfl
  | cons c cs ih =>
    rw [List.mem_cons, not_or] at hopening hclosing
    rw [depthAfter?, if_neg (Ne.symm hopening.1), if_neg (Ne.symm hclosing.1)]
    exact ih hopening.2 hclosing.2

namespace Balanced

variable {pair : Char × Char} {cs ds : List Char}

lemma of_free (hopening : pair.1 ∉ cs) (hclosing : pair.2 ∉ cs) : Balanced pair cs :=
  depthAfter?_of_free hopening hclosing 0

lemma append (hcs : Balanced pair cs) (hds : Balanced pair ds) : Balanced pair (cs ++ ds) := by
  rw [Balanced, depthAfter?_append, hcs, Option.bind_some]
  exact hds

lemma flatMap {α : Type} {as : List α} {f : α → List Char} (h : ∀ a ∈ as, Balanced pair (f a)) :
    Balanced pair (as.flatMap f) := by
  induction as with
  | nil => rfl
  | cons a as ih =>
    obtain ⟨ha, has⟩ := List.forall_mem_cons.mp h
    rw [List.flatMap_cons]
    exact ha.append (ih has)

/-- A text between two brackets that holds neither of them. -/
lemma enclose (hopening : pair.1 ∉ cs) (hclosing : pair.2 ∉ cs) (hne : pair.2 ≠ pair.1) :
    Balanced pair (pair.1 :: (cs ++ [pair.2])) := by
  rw [Balanced, depthAfter?, if_pos rfl, depthAfter?_append, depthAfter?_of_free hopening hclosing]
  simp [depthAfter?, hne]

end Balanced

namespace Grammar

/-- Bracket problems are found unless all brackets have their partners. -/
lemma bracketProblems_eq_nil_iff {opening closing : Char} {column depth outermost : Nat}
    {cs : List Char} :
    bracketProblems opening closing column depth outermost cs = [] ↔
      depthAfter? opening closing depth cs = some 0 := by
  fun_induction bracketProblems opening closing column depth outermost cs with
  | case1 => simp [depthAfter?, *]
  | case2 => simp [depthAfter?, *]
  | case3 _ _ _ _ ih => simpa [depthAfter?] using ih
  | case4 _ _ _ hne _ => simp [depthAfter?, hne]
  | case5 _ _ _ _ hne hdepth ih => simpa [depthAfter?, hne, hdepth] using ih
  | case6 _ _ _ _ _ hopening hclosing ih => simpa [depthAfter?, hopening, hclosing] using ih

lemma checkBrackets_eq_nil_iff {text : List Char} :
    checkBrackets text = [] ↔ ∀ pair ∈ bracketPairs, Balanced pair text := by
  simp only [checkBrackets, List.flatMap_eq_nil_iff, bracketProblems_eq_nil_iff, Balanced]

end Grammar

/-! ### Names -/

def isNameStart (c : Char) : Bool :=
  c.isLower || c == '_'

def isNameChar (c : Char) : Bool :=
  isNameStart c || c.isDigit

/-- Whether a text is an identifier in lower case. -/
def isName : List Char → Bool
  | [] => false
  | c :: cs => isNameStart c && cs.all isNameChar

/-! ### The parts of sentences -/

/-- Whether a text may stand between two brackets: it is trimmed, holds neither of them, and is
balanced in the other kinds. -/
structure Inner (pair : Char × Char) (s : String) : Prop where
  nonempty : s ≠ ""
  trimmed : Text.trim s = s
  untabbed : '\t' ∉ s.toList
  opening : pair.1 ∉ s.toList
  closing : pair.2 ∉ s.toList
  balanced : ∀ other ∈ Grammar.bracketPairs, other ≠ pair → Balanced other s.toList
  digits : DigitsFit s.toList

/-- A statement as the grammar has it; its first action and option are given apart. -/
structure Sentence where
  keyword : String
  subjects : List String
  function : String
  argument : Option String
  action : String
  option : String
  more : List (String × String)
  outcome : Option String

/-- What a token is, without its place. -/
structure Shape where
  kind : TokenKind
  value : String

def Shape.chars (s : Shape) : List Char :=
  s.kind.delimiters.1 ++ s.value.toList ++ s.kind.delimiters.2

namespace Sentence

/-- The actions with their options. -/
def pairs (w : Sentence) : List (String × String) :=
  (w.action, w.option) :: w.more

/-- What stands in a sentence behind its operator, word by word. -/
def words (w : Sentence) : List (List Shape) :=
  (⟨.identifier, w.keyword⟩ :: w.subjects.map (⟨.variableBlock, ·⟩)) ::
    [⟨.relation, "//"⟩] ::
    (⟨.identifier, w.function⟩ :: w.argument.toList.map (⟨.variableBlock, ·⟩)) ::
    [⟨.parameter, "%"⟩] ::
    ((w.pairs.map fun (action, option) => [⟨.actionBlock, action⟩, ⟨.optionBlock, option⟩]) ++
      (w.outcome.toList.flatMap fun outcome => [[⟨.trigger, "->"⟩], [⟨.actionBlock, outcome⟩]]))

def chars (w : Sentence) : List Char :=
  ':' :: ':' :: w.words.flatMap fun word => ' ' :: word.flatMap Shape.chars

/-- `:: keyword[subject]… // function[argument] % {action}(option) … -> {outcome}` -/
def line (w : Sentence) : String :=
  String.ofList w.chars

example : line ⟨"set", ["background"], "content", some "all", "color", "#ff0000", [],
    some "visual[solid]"⟩ =
    ":: set[background] // content[all] % \x7bcolor\x7d(#ff0000) -> \x7bvisual[solid]\x7d" := by
  decide +kernel

/-- Whether the parts of a sentence are such as the grammar asks for. Conditionals and branches are
no sentences; they need others around them. -/
structure WellFormed (w : Sentence) : Prop where
  keyword : w.keyword ∈ Keyword.table.map (·.name)
  plain : w.keyword ≠ Keyword.conditional ∧ Keyword.isBranch w.keyword = false
  subjects : ∀ subject ∈ w.subjects, Inner ('[', ']') subject
  function : isName w.function.toList = true
  argument : ∀ argument ∈ w.argument, Inner ('[', ']') argument
  actions : ∀ p ∈ w.pairs, Inner ('\x7b', '\x7d') p.1
  options : ∀ p ∈ w.pairs, Inner ('(', ')') p.2
  distinct : Entries.Distinct w.pairs
  outcome : ∀ outcome ∈ w.outcome, Inner ('\x7b', '\x7d') outcome
  required : Keyword.needs w.keyword .output = true → w.outcome.isSome = true

end Sentence

end BlockScript
