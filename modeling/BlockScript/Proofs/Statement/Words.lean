import BlockScript.Proofs.Sentence.Scanning

/-!
# Words of statements

A well-formed statement is spelled word by word, with a blank in front of each
(`Statement.WellFormed.toList_source`): names and operators stand at the start of words, blocks right
behind the word they belong to.
-/

namespace BlockScript

/-! ### Well-formed statements -/

structure TargetZone.WellFormed (z : TargetZone) : Prop where
  function : isName z.function.toList = true
  argument : ∀ argument ∈ z.argument, Piece ']' argument

/-- The action is the first parameter; without parameters there may be an action of its own. -/
structure EffectZone.WellFormed (z : EffectZone) : Prop where
  distinct : z.parameters.Distinct
  names : ∀ p ∈ z.parameters, Piece '\x7d' p.1
  options : ∀ p ∈ z.parameters, Piece ')' p.2
  first : ∀ p ∈ z.parameters.head?, z.action = some p.1
  action : ∀ action ∈ z.action, Piece '\x7d' action

namespace Statement

/-- Whether a statement is such as it could be read: its keyword and its function are names in lower
case, and no text holds the bracket that ends its block. -/
structure WellFormed (s : Statement) : Prop where
  keyword : ∃ name, s.keyword = some name ∧ isName name.toList = true
  condition : ∀ c ∈ s.condition, s.keyword = some Keyword.conditional ∧ Piece '\x7d' c
  subjects : ∀ v ∈ s.subjects, Piece ']' v
  target : ∀ z ∈ s.target, z.WellFormed
  effect : ∀ z ∈ s.effect, z.WellFormed
  outcome : ∀ o ∈ s.outcome, Piece '\x7d' o

/-- Whether two statements say the same, wherever they stand. -/
structure Agrees (t s : Statement) : Prop where
  operator : t.operator = s.operator
  keyword : t.keyword = s.keyword
  condition : t.condition = s.condition
  label : t.label? = s.label?
  subjects : t.subjects = s.subjects
  target : t.target.map (fun z => (z.function, z.argument)) =
    s.target.map fun z => (z.function, z.argument)
  effect : t.effect = s.effect
  outcome : t.outcome = s.outcome

namespace Agrees

variable {s t u : Statement}

lemma symm (h : t.Agrees s) : s.Agrees t :=
  ⟨h.operator.symm, h.keyword.symm, h.condition.symm, h.label.symm, h.subjects.symm, h.target.symm,
    h.effect.symm, h.outcome.symm⟩

lemma trans (h : t.Agrees s) (h' : s.Agrees u) : t.Agrees u :=
  ⟨h.operator.trans h'.operator, h.keyword.trans h'.keyword, h.condition.trans h'.condition,
    h.label.trans h'.label, h.subjects.trans h'.subjects, h.target.trans h'.target,
    h.effect.trans h'.effect, h.outcome.trans h'.outcome⟩

end Agrees

end Statement

/-! ### Words -/

namespace Operator

def kind : Operator → TokenKind
  | .root => .root
  | .hierarchical => .hierarchical

lemma writable (o : Operator) : Shape.Writable ⟨o.kind, o.spelling⟩ := by
  cases o with
  | root => exact ⟨Shape.legible_operator (by simp [kind, spelling, TokenPattern.all]) rfl, by decide⟩
  | hierarchical =>
    exact ⟨Shape.legible_operator (by simp [kind, spelling, TokenPattern.all]) rfl, by decide⟩

lemma chars_shape (o : Operator) : (Shape.mk o.kind o.spelling).chars = o.spelling.toList := by
  cases o <;> decide

end Operator

def TargetZone.words (z : TargetZone) : List (List Shape) :=
  [[⟨.relation, "//"⟩], ⟨.identifier, z.function⟩ :: z.argument.toList.map (⟨.variableBlock, ·⟩)]

/-- The actions with their options, or the action alone. -/
def EffectZone.actions (z : EffectZone) : List (List Shape) :=
  match z.parameters with
  | [] => z.action.toList.map fun action => [⟨.actionBlock, action⟩]
  | parameters => parameters.map fun p => [⟨.actionBlock, p.1⟩, ⟨.optionBlock, p.2⟩]

def EffectZone.words (z : EffectZone) : List (List Shape) :=
  [⟨.parameter, "%"⟩] :: z.actions

/-- The words of an outcome. -/
def outcomeWords (outcome : String) : List (List Shape) :=
  [[⟨.trigger, "->"⟩], [⟨.actionBlock, outcome⟩]]

/-- Words with a blank in front of each. -/
def spaced (words : List (List Shape)) : List Char :=
  words.flatMap fun word => ' ' :: word.flatMap Shape.chars

namespace Statement

def declaration (s : Statement) : List Shape :=
  ⟨.identifier, s.keyword.getD ""⟩ ::
    (s.condition.toList.map (⟨.actionBlock, ·⟩) ++ s.subjects.map (⟨.variableBlock, ·⟩))

/-- What stands in a statement behind its operator, word by word. -/
def words (s : Statement) : List (List Shape) :=
  s.declaration :: (s.target.toList.flatMap TargetZone.words ++
    (s.effect.toList.flatMap EffectZone.words ++ s.outcome.toList.flatMap outcomeWords))

variable {s : Statement}

lemma forall_mem_words {p : List Shape → Prop} :
    (∀ word ∈ s.words, p word) ↔
      p s.declaration ∧ (∀ z ∈ s.target, ∀ word ∈ z.words, p word) ∧
      (∀ z ∈ s.effect, ∀ word ∈ z.words, p word) ∧
      ∀ o ∈ s.outcome, ∀ word ∈ outcomeWords o, p word := by
  simp only [words, List.forall_mem_cons, List.forall_mem_append, List.forall_mem_flatMap,
    Option.mem_toList, Option.mem_def]

end Statement

lemma EffectZone.forall_mem_actions {z : EffectZone} {p : List Shape → Prop} :
    (∀ word ∈ z.actions, p word) ↔
      (z.parameters = [] → ∀ action ∈ z.action, p [⟨.actionBlock, action⟩]) ∧
      ∀ q ∈ z.parameters, p [⟨.actionBlock, q.1⟩, ⟨.optionBlock, q.2⟩] := by
  rw [actions]
  cases z.parameters with
  | nil => simp
  | cons q qs => simp only [List.forall_mem_map, reduceCtorEq, false_implies, true_and]

lemma EffectZone.forall_mem_words {z : EffectZone} {p : List Shape → Prop} :
    (∀ word ∈ z.words, p word) ↔ p [⟨.parameter, "%"⟩] ∧ ∀ word ∈ z.actions, p word :=
  List.forall_mem_cons

/-- Actions and options are blocks. -/
lemma EffectZone.kind_of_mem_actions (z : EffectZone) : ∀ word ∈ z.actions, ∀ shape ∈ word,
    shape.kind = .actionBlock ∨ shape.kind = .optionBlock := by
  refine forall_mem_actions.mpr ⟨fun _ action _ => ?_, fun q _ => ?_⟩ <;> simp

namespace Statement

variable {s : Statement}

lemma WellFormed.writable (h : s.WellFormed) : ∀ word ∈ s.words, ∀ shape ∈ word, shape.Writable := by
  obtain ⟨name, hname, hkeyword⟩ := h.keyword
  have hsubjects : ∀ subjects : List String, (∀ v ∈ subjects, Piece ']' v) →
      ∀ shape ∈ subjects.map (⟨.variableBlock, ·⟩), Shape.Writable shape :=
    fun _ hall => List.forall_mem_map.mpr fun v hv => Shape.writable_subject (hall v hv)
  refine forall_mem_words.mpr ⟨?declaration, fun z hz => ?target, fun z hz => ?effect,
    fun o ho => ?outcome⟩
  case declaration =>
    rw [declaration, hname]
    refine List.forall_mem_cons.mpr ⟨Shape.writable_name hkeyword, ?_⟩
    refine List.forall_mem_append.mpr ⟨List.forall_mem_map.mpr fun c hc => ?_, hsubjects _ h.subjects⟩
    exact Shape.writable_action (h.condition c (Option.mem_toList.mp hc)).2
  case target =>
    have hz := h.target z hz
    refine List.forall_mem_cons.mpr ⟨by simpa using Shape.writable_relation, ?_⟩
    refine List.forall_mem_singleton.mpr (List.forall_mem_cons.mpr
      ⟨Shape.writable_name hz.function, hsubjects _ fun v hv => ?_⟩)
    exact hz.argument v (Option.mem_toList.mp hv)
  case effect =>
    have hz := h.effect z hz
    refine EffectZone.forall_mem_words.mpr ⟨by simpa using Shape.writable_parameter,
      EffectZone.forall_mem_actions.mpr ⟨?_, ?_⟩⟩
    · intro _ action haction
      simpa using Shape.writable_action (hz.action action haction)
    · intro q hq
      simpa using ⟨Shape.writable_action (hz.names q hq), Shape.writable_option (hz.options q hq)⟩
  case outcome =>
    simpa [outcomeWords] using ⟨Shape.writable_trigger, Shape.writable_action (h.outcome o ho)⟩

/-- Names stand at the start of words only, and operators of statements nowhere. -/
lemma kind_of_mem_words (s : Statement) : ∀ word ∈ s.words,
    (∀ shape ∈ word.tail, shape.kind ≠ .identifier ∧ shape.kind ≠ .number) ∧
      ∀ shape ∈ word, shape.kind.isOpener = false := by
  refine forall_mem_words.mpr ⟨?_, fun z _ => ?_, fun z _ => ?_, fun o _ => ?_⟩
  · have hblocks : ∀ shape ∈ s.declaration.tail,
        shape.kind = .actionBlock ∨ shape.kind = .variableBlock := by
      simp [declaration, or_imp, forall_and]
    refine ⟨fun shape hshape => ?_, List.forall_mem_cons.mpr ⟨rfl, fun shape hshape => ?_⟩⟩
    · rcases hblocks shape hshape with hkind | hkind <;> simp [hkind]
    · rcases hblocks shape hshape with hkind | hkind <;> simp [hkind, TokenKind.isOpener]
  · simp [TargetZone.words, TokenKind.isOpener]
  · refine EffectZone.forall_mem_words.mpr ⟨by simp [TokenKind.isOpener], fun word hword => ?_⟩
    have hblocks := z.kind_of_mem_actions word hword
    constructor
    · intro shape hshape
      rcases hblocks shape (List.mem_of_mem_tail hshape) with hkind | hkind <;> simp [hkind]
    · intro shape hshape
      rcases hblocks shape hshape with hkind | hkind <;> simp [hkind, TokenKind.isOpener]
  · simp [outcomeWords, TokenKind.isOpener]

end Statement

/-! ### Spelling -/

lemma toList_intercalate_cons (part : String) (parts : List String) :
    (" ".intercalate (part :: parts)).toList =
      part.toList ++ parts.flatMap fun p => ' ' :: p.toList := by
  induction parts generalizing part with
  | nil => simp
  | cons next parts ih =>
    rw [String.intercalate_cons_cons, String.toList_append, String.toList_append, ih,
      List.flatMap_cons, List.append_assoc]
    rfl

/-- Parts with a blank in front of each; empty ones are left out. -/
def spelled (parts : List String) : List Char :=
  (parts.filter (· ≠ "")).flatMap fun part => ' ' :: part.toList

lemma spelled_append (front back : List String) :
    spelled (front ++ back) = spelled front ++ spelled back := by
  rw [spelled, List.filter_append, List.flatMap_append]
  rfl

lemma spelled_cons {part : String} (h : part ≠ "") (parts : List String) :
    spelled (part :: parts) = ' ' :: part.toList ++ spelled parts := by
  rw [spelled, List.filter_cons, if_pos (decide_eq_true h), List.flatMap_cons]
  rfl

lemma spelled_intercalate {part : String} (h : part ≠ "") (parts : List String) :
    spelled [" ".intercalate (part :: parts)] =
      (part :: parts).flatMap fun p => ' ' :: p.toList := by
  have hlist := toList_intercalate_cons part parts
  have hne : " ".intercalate (part :: parts) ≠ "" := by
    intro heq
    rw [heq] at hlist
    exact h (String.toList_eq_nil_iff.mp (List.append_eq_nil_iff.mp hlist.symm).1)
  rw [spelled_cons hne, hlist, List.flatMap_cons]
  simp [spelled]

/-- A zone that may be left out. -/
lemma spelled_optional {α : Type} {zone : Option α} {parts : α → List String}
    {words : α → List (List Shape)} (h : ∀ z ∈ zone, spelled (parts z) = spaced (words z)) :
    spelled ((zone.map parts).getD []) = spaced (zone.toList.flatMap words) := by
  cases zone with
  | none => rfl
  | some z => simpa using h z rfl

namespace Statement

variable {s : Statement}

lemma toList_braced (opening closing : Char) (v : String) :
    (braced opening closing v).toList = opening :: (v.toList ++ [closing]) := by
  simp [braced]

lemma braced_ne (opening closing : Char) (v : String) : braced opening closing v ≠ "" := by
  intro h
  simpa [toList_braced] using congrArg String.toList h

lemma toList_declarationSource (s : Statement) :
    s.declarationSource.toList = s.declaration.flatMap Shape.chars := by
  cases hc : s.condition <;>
    simp [declarationSource, declaration, hc, toList_braced, Shape.chars, TokenKind.delimiters,
      List.flatMap_map]

lemma ne_of_toList {part : String} {shape : Shape} {word : List Shape} (hshape : shape.Writable)
    (h : part.toList = (shape :: word).flatMap Shape.chars) : part ≠ "" := by
  rintro rfl
  rw [List.flatMap_cons] at h
  exact hshape.legible.chars_ne_nil (List.append_eq_nil_iff.mp h.symm).1

lemma toList_targetSource (z : TargetZone) :
    (TargetZone.source z).toList =
      (⟨.identifier, z.function⟩ :: z.argument.toList.map (⟨.variableBlock, ·⟩)).flatMap
        Shape.chars := by
  cases hz : z.argument <;>
    simp [TargetZone.source, hz, toList_braced, Shape.chars, TokenKind.delimiters]

lemma targetSource_ne {z : TargetZone} (h : z.WellFormed) : TargetZone.source z ≠ "" :=
  ne_of_toList (Shape.writable_name h.function) (toList_targetSource z)

lemma spelled_target {z : TargetZone} (h : z.WellFormed) :
    spelled ["//", TargetZone.source z] = spaced z.words := by
  rw [spelled_cons (by decide), spelled_cons (targetSource_ne h), toList_targetSource]
  simp [spelled, spaced, TargetZone.words, Shape.chars, TokenKind.delimiters]

/-- The source of an action with its option. -/
def pairSource (p : String × String) : String :=
  braced '\x7b' '\x7d' p.1 ++ braced '(' ')' p.2

lemma spelled_effect {z : EffectZone} (h : z.WellFormed) :
    spelled ["%", EffectZone.source z] = spaced z.words := by
  have hsign : ∀ words, spaced ([⟨.parameter, "%"⟩] :: words) = ' ' :: "%".toList ++ spaced words :=
    fun _ => rfl
  rw [spelled_cons (by decide), EffectZone.words, hsign, EffectZone.source, EffectZone.actions]
  congr 1
  cases hparameters : z.parameters with
  | nil =>
    cases haction : z.action with
    | none => rfl
    | some action =>
      have hne : action ≠ "" := (h.action action haction).nonempty
      dsimp only
      rw [Option.filter_some, if_pos (decide_eq_true hne), Option.map_some, Option.getD_some,
        spelled_cons (braced_ne _ _ action)]
      simp [spelled, spaced, toList_braced, Shape.chars, TokenKind.delimiters]
  | cons p ps =>
    have hpart : ∀ q, (pairSource q).toList =
        [⟨.actionBlock, q.1⟩, ⟨.optionBlock, q.2⟩].flatMap Shape.chars := by
      simp [pairSource, toList_braced, Shape.chars, TokenKind.delimiters]
    have hp : Piece '\x7d' p.1 := h.names p (by simp [hparameters])
    change spelled [" ".intercalate (pairSource p :: ps.map pairSource)] = _
    rw [spelled_intercalate (ne_of_toList (Shape.writable_action hp) (hpart p)), ← List.map_cons,
      List.flatMap_map, spaced, List.flatMap_map]
    simp only [hpart]

lemma spelled_output (o : String) :
    spelled ["->", braced '\x7b' '\x7d' o] = spaced (outcomeWords o) := by
  rw [spelled_cons (by decide), spelled_cons (braced_ne _ _ o)]
  simp [spelled, spaced, outcomeWords, toList_braced, Shape.chars, TokenKind.delimiters]

/-- A statement is spelled word by word. -/
lemma WellFormed.toList_source (h : s.WellFormed) :
    s.source.toList = s.operator.spelling.toList ++ spaced s.words := by
  obtain ⟨name, hname, hkeyword⟩ := h.keyword
  have hoperator : s.operator.spelling ≠ "" := by
    cases s.operator <;> decide
  have hwritable : Shape.Writable ⟨.identifier, s.keyword.getD ""⟩ := by
    rw [hname]
    exact Shape.writable_name hkeyword
  have hdeclaration := ne_of_toList hwritable s.toList_declarationSource
  rw [source, List.filter_cons, if_pos (decide_eq_true hoperator), toList_intercalate_cons]
  congr 1
  change spelled (_ :: _) = _
  rw [spelled_cons hdeclaration, List.append_assoc, spelled_append, spelled_append,
    spelled_optional fun z hz => spelled_target (h.target z hz),
    spelled_optional fun z hz => spelled_effect (h.effect z hz),
    spelled_optional fun o _ => spelled_output o, toList_declarationSource]
  simp only [words, spaced, List.flatMap_cons, List.flatMap_append]

lemma WellFormed.untabbed_source (h : s.WellFormed) : '\t' ∉ s.source.toList := by
  rw [h.toList_source, ← s.operator.chars_shape, List.mem_append, not_or]
  refine ⟨s.operator.writable.untabbed, ?_⟩
  simp only [spaced, List.mem_flatMap, List.mem_cons, not_or, not_exists, not_and]
  refine fun word hword => ⟨by decide, fun shape hshape => ?_⟩
  exact (h.writable word hword shape hshape).untabbed

end Statement

end BlockScript
