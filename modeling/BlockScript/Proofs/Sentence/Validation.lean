import BlockScript.Proofs.Grammar.Ancestors
import BlockScript.Proofs.Sentence.Scanning

/-!
# Validating sentences

A well-formed sentence passes all checks (`Grammar.validateLines_sentence`): whatever its texts hold,
only the operators and brackets of the sentence itself count.
-/

namespace BlockScript

/-! ### The parts of a row -/

namespace Sentence.Row

variable {w : Sentence} (r : w.Row)

lemma kind_keyword : r.keyword.kind = .identifier :=
  congrArg Shape.kind r.keyword_shape

lemma value_keyword : r.keyword.value = w.keyword :=
  congrArg Shape.value r.keyword_shape

lemma kind_function : r.function.kind = .identifier :=
  congrArg Shape.kind r.function_shape

lemma kind_of_mem_subjects : ∀ t ∈ r.subjects, t.kind = .variableBlock :=
  (of_map_shape r.subjects_shape).1

lemma kind_of_mem_argument : ∀ t ∈ r.argument, t.kind = .variableBlock :=
  (of_map_shape r.argument_shape).1

lemma paired : Paired r.pairs w.pairs :=
  paired_of_map_shape r.pairs_shape

lemma kind_of_mem_pairs : ∀ t ∈ r.pairs, t.kind = .actionBlock ∨ t.kind = .optionBlock := by
  have hall : ∀ {ts ps}, Paired ts ps → ∀ t ∈ ts, t.kind = .actionBlock ∨ t.kind = .optionBlock := by
    intro ts ps h
    induction h with
    | nil => exact List.forall_mem_nil _
    | cons ha ho _ ih =>
      exact List.forall_mem_cons.mpr ⟨.inl ha, List.forall_mem_cons.mpr ⟨.inr ho, ih⟩⟩
  exact hall r.paired

/-- The output zone is there iff there is an outcome. -/
lemma output_cases :
    w.outcome = none ∧ r.output = [] ∨
      ∃ outcome t block, w.outcome = some outcome ∧ r.output = [t, block] ∧ t.kind = .trigger ∧
        block.shape = ⟨.actionBlock, outcome⟩ := by
  have hshape := r.output_shape
  cases houtcome : w.outcome with
  | none =>
    rw [houtcome] at hshape
    exact .inl ⟨rfl, List.map_eq_nil_iff.mp hshape⟩
  | some outcome =>
    rw [houtcome] at hshape
    obtain ⟨t, _, houtput, ht, hrest⟩ := List.map_eq_cons_iff.mp hshape
    obtain ⟨block, _, rfl, hblock, hnil⟩ := List.map_eq_cons_iff.mp hrest
    rw [List.map_eq_nil_iff.mp hnil] at houtput
    exact .inr ⟨outcome, t, block, rfl, houtput, congrArg Shape.kind ht, hblock⟩

lemma splitAt?_relation :
    splitAt? .relation r.body = some (r.relation,
      r.function :: (r.argument ++ r.parameter :: (r.pairs ++ r.output))) := by
  have hfront : ∀ t ∈ r.keyword :: r.subjects, t.kind ≠ .relation := by
    refine List.forall_mem_cons.mpr ⟨by simp [r.kind_keyword], fun t ht => ?_⟩
    simp [r.kind_of_mem_subjects t ht]
  exact splitAt?_append hfront r.relation_kind _

lemma kind_front : ∀ t ∈ r.keyword :: (r.subjects ++ r.relation :: r.function :: r.argument),
    t.kind ≠ .parameter ∧ t.kind ≠ .trigger := by
  simp only [List.forall_mem_cons, List.forall_mem_append]
  refine ⟨by simp [r.kind_keyword], fun t ht => by simp [r.kind_of_mem_subjects t ht],
    by simp [r.relation_kind], by simp [r.kind_function], fun t ht => ?_⟩
  simp [r.kind_of_mem_argument t ht]

lemma splitAt?_parameter :
    splitAt? .parameter r.body = some (r.parameter, r.pairs ++ r.output) := by
  have hsplit := splitAt?_append (fun t ht => (r.kind_front t ht).1) r.parameter_kind
    (r.pairs ++ r.output)
  rwa [List.cons_append, List.append_assoc] at hsplit

lemma splitAt?_trigger :
    splitAt? .trigger r.body = match r.output with
      | [] => none
      | t :: rest => some (t, rest) := by
  have hfront : ∀ t ∈ r.keyword :: (r.subjects ++ r.relation :: r.function ::
      (r.argument ++ r.parameter :: r.pairs)), t.kind ≠ .trigger := by
    have hpairs : ∀ t ∈ r.pairs, t.kind ≠ .trigger := by
      intro t ht
      rcases r.kind_of_mem_pairs t ht with h | h <;> simp [h]
    have hrest := r.kind_front
    simp only [List.forall_mem_cons, List.forall_mem_append] at hrest ⊢
    refine ⟨hrest.1.2, fun t ht => (hrest.2.1 t ht).2, hrest.2.2.1.2, hrest.2.2.2.1.2,
      fun t ht => (hrest.2.2.2.2 t ht).2, by simp [r.parameter_kind], hpairs⟩
  have hbody : r.body = (r.keyword :: (r.subjects ++ r.relation :: r.function ::
      (r.argument ++ r.parameter :: r.pairs))) ++ r.output := by
    simp [body]
  rw [hbody]
  rcases r.output_cases with ⟨-, houtput⟩ | ⟨outcome, t, block, -, houtput, ht, -⟩
  · rw [houtput, List.append_nil]
    exact splitAt?_of_forall_ne hfront
  · rw [houtput]
    exact splitAt?_append hfront ht _

end Sentence.Row

/-! ### The checks -/

namespace Grammar

open Sentence

variable {w : Sentence}

/-- Actions with their options are in order. -/
lemma checkPairs_of_paired {ts : List Token} {ps : List (String × String)} (h : Paired ts ps) :
    checkPairs ts = [] := by
  induction h with
  | nil => rfl
  | cons ha ho _ ih =>
    rw [checkPairs, if_pos ha]
    simp only [ho, if_true]
    exact ih

/-- The effect zone holds the pairs. -/
lemma effectTokens_row (r : w.Row) :
    effectTokens r.parameter ((splitAt? .trigger r.body).map (·.1)) (r.pairs ++ r.output) =
      r.pairs := by
  rw [r.splitAt?_trigger]
  rcases r.output_cases with ⟨-, houtput⟩ | ⟨outcome, t, block, -, houtput, ht, -⟩
  · simp [houtput, effectTokens]
  · have hstart : t.start > r.parameter.start := r.output_start t (by simp [houtput])
    have hpairs : ∀ u ∈ r.pairs, decide (u.kind ≠ .trigger) = true := by
      intro u hu
      rcases r.kind_of_mem_pairs u hu with h | h <;> simp [h]
    simp only [houtput, Option.map_some, effectTokens, if_pos hstart]
    rw [List.takeWhile_append_of_pos hpairs, List.takeWhile_cons]
    simp [ht]

lemma checkEffect_row (r : w.Row) :
    checkEffect r.parameter ((splitAt? .trigger r.body).map (·.1)) (r.pairs ++ r.output) = [] := by
  have hpaired := r.paired
  rw [checkEffect, effectTokens_row]
  split
  next hnil =>
    rw [hnil] at hpaired
    cases hpaired
  next => rw [checkPairs_of_paired hpaired, List.map_nil]

lemma checkOrder_row (r : w.Row) :
    checkOrder (some r.relation) (some r.parameter) ((splitAt? .trigger r.body).map (·.1)) = [] := by
  have hrelation := r.relation_start
  rw [r.splitAt?_trigger]
  rcases r.output_cases with ⟨-, houtput⟩ | ⟨outcome, t, block, -, houtput, -, -⟩
  · simp [houtput, checkOrder, hrelation.le]
  · have htrigger := r.output_start t (by simp [houtput])
    simp [houtput, checkOrder, hrelation.le, htrigger.le, (hrelation.trans htrigger).le]

lemma checkZones_row (h : w.WellFormed) (r : w.Row) : checkZones (some w.keyword) r.body = [] := by
  have heffect := checkEffect_row r
  have horder := checkOrder_row r
  rw [checkZones, r.splitAt?_relation, r.splitAt?_parameter]
  simp only [Option.map_some, horder, heffect, List.head?_cons, Option.any_some, r.kind_function]
  rw [r.splitAt?_trigger]
  rcases r.output_cases with ⟨hnone, houtput⟩ | ⟨outcome, t, block, -, houtput, ht, hblock⟩
  · have hneeds : Keyword.needs w.keyword .output = false := by
      have := h.required
      simpa [hnone] using this
    simp [houtput, checkPresence, hneeds]
  · have hkind : block.kind = .actionBlock := congrArg Shape.kind hblock
    simp [houtput, hkind]

end Grammar

namespace Sentence

variable {w : Sentence}

lemma WellFormed.lower_keyword (h : w.WellFormed) : Text.lower w.keyword = w.keyword :=
  Text.lower_of_isName (Keyword.isName_of_mem_table h.keyword)

lemma WellFormed.isKnown (h : w.WellFormed) : Keyword.isKnown w.keyword = true := by
  obtain ⟨k, hk, hname⟩ := List.mem_map.mp h.keyword
  rw [Keyword.isKnown, Keyword.find?, h.lower_keyword, List.find?_isSome]
  exact ⟨k, hk, by simpa using hname⟩

end Sentence

namespace Grammar

open Sentence

variable {w : Sentence}

lemma keywordOf_row (h : w.WellFormed) (r : w.Row) : keywordOf r.body = some w.keyword := by
  rw [Row.body, keywordOf, if_pos r.kind_keyword, r.value_keyword, h.lower_keyword]

lemma checkDeclaration_row (h : w.WellFormed) (r : w.Row) (opener : Token) :
    checkDeclaration opener r.body = [] := by
  rw [Row.body, checkDeclaration]
  simp [r.kind_keyword, r.value_keyword, h.lower_keyword, h.isKnown, h.plain.1]

end Grammar

/-! ### Brackets -/

/-- A block is balanced in all kinds of brackets. -/
lemma Inner.balanced_block {pair other : Char × Char} {v : String} (h : Inner pair v)
    (hpair : pair ∈ Grammar.bracketPairs) (hother : other ∈ Grammar.bracketPairs) :
    Balanced other (pair.1 :: (v.toList ++ [pair.2])) := by
  have hclosing : ∀ p ∈ Grammar.bracketPairs, p.2 ≠ p.1 := by decide
  have hapart : ∀ p ∈ Grammar.bracketPairs, ∀ q ∈ Grammar.bracketPairs, q ≠ p →
      Balanced q [p.1] ∧ Balanced q [p.2] := by decide
  by_cases heq : other = pair
  · subst heq
    exact .enclose h.opening h.closing (hclosing other hother)
  · obtain ⟨hfront, hback⟩ := hapart pair hpair other hother heq
    exact hfront.append ((h.balanced other hother heq).append hback)

lemma Shape.Sound.balanced {s : Shape} (h : s.Sound) {pair : Char × Char}
    (hpair : pair ∈ Grammar.bracketPairs) : Balanced pair s.chars := by
  cases h with
  | @name v hv =>
    have hfree : ∀ p ∈ Grammar.bracketPairs, isNameChar p.1 = false ∧ isNameChar p.2 = false := by
      decide
    have hall := List.all_eq_true.mp (all_isNameChar_of_isName hv)
    have hvalue : (Shape.mk .identifier v).chars = v.toList := by simp [chars, TokenKind.delimiters]
    rw [hvalue]
    refine .of_free (fun hmem => ?_) (fun hmem => ?_)
    · exact absurd (hall _ hmem) (by simp [(hfree pair hpair).1])
    · exact absurd (hall _ hmem) (by simp [(hfree pair hpair).2])
  | action hv => exact hv.balanced_block (by decide) hpair
  | subject hv => exact hv.balanced_block (by decide) hpair
  | option hv => exact hv.balanced_block (by decide) hpair
  | relation | parameter | trigger =>
    revert pair
    decide

namespace Grammar

open Sentence

variable {w : Sentence}

lemma checkBrackets_sentence (h : w.WellFormed) : checkBrackets w.chars = [] := by
  refine checkBrackets_eq_nil_iff.mpr fun pair hpair => ?_
  have hplain : ∀ p ∈ bracketPairs, Balanced p [':', ':'] ∧ Balanced p [' '] := by decide
  obtain ⟨hopener, hblank⟩ := hplain pair hpair
  refine hopener.append (.flatMap fun word hword => hblank.append (.flatMap fun s hs => ?_))
  exact (h.sound word hword s hs).balanced hpair

end Grammar

/-! ### Lines -/

namespace Sentence

variable {w : Sentence}

lemma Row.isOpener_of_mem_body (r : w.Row) : ∀ t ∈ r.body, t.kind.isOpener = false := by
  have hblock : ∀ {kind : TokenKind} {t : Token}, t.kind = kind → kind.isOpener = false →
      t.kind.isOpener = false := fun h hkind => h ▸ hkind
  simp only [Row.body, List.forall_mem_cons, List.forall_mem_append]
  refine ⟨hblock r.kind_keyword rfl, fun t ht => hblock (r.kind_of_mem_subjects t ht) rfl,
    hblock r.relation_kind rfl, hblock r.kind_function rfl,
    fun t ht => hblock (r.kind_of_mem_argument t ht) rfl, hblock r.parameter_kind rfl,
    fun t ht => ?_, fun t ht => ?_⟩
  · exact (r.kind_of_mem_pairs t ht).elim (hblock · rfl) (hblock · rfl)
  · rcases r.output_cases with ⟨-, houtput⟩ | ⟨outcome, u, block, -, houtput, hu, hshape⟩
    · simp [houtput] at ht
    · rw [houtput] at ht
      rcases List.mem_pair.mp ht with rfl | rfl
      · exact hblock hu rfl
      · exact hblock (congrArg Shape.kind hshape) rfl

/-- A sentence is one span. -/
lemma exists_split (h : w.WellFormed) (width : Nat) (line : Int) :
    ∃ r : w.Row, Span.split (Token.scan width line w.line) =
      [⟨⟨.root, "::", line, 0, 2⟩, 0, r.body⟩] := by
  obtain ⟨r, hr⟩ := exists_row h width line
  have hbody := r.isOpener_of_mem_body
  have hall : r.body.takeWhile (!·.kind.isOpener) = r.body :=
    List.takeWhile_eq_self_iff.mpr fun t ht => by rw [hbody t ht]; rfl
  refine ⟨r, ?_⟩
  have hrest : ∀ u ∈ Span.afterOpener ⟨.root, "::", line, 0, 2⟩ r.body, u.kind.isOpener = false :=
    hbody
  rw [hr, Span.split_of_single rfl hrest]
  simp [Span.ofOpener, hall]

end Sentence

namespace Grammar

open Sentence

variable {w : Sentence} {width : Nat}

lemma checkSpan_row (h : w.WellFormed) (r : w.Row) (width : Nat) (line : Int) (stack : Stack) :
    (checkSpan width ⟨⟨.root, "::", line, 0, 2⟩, 0, r.body⟩ stack).1 = [] := by
  have hbranch : (some w.keyword).filter Keyword.isBranch = none := by simp [h.plain.2]
  simp [checkSpan, Span.isHierarchical, keywordOf_row h, checkDeclaration_row h, checkZones_row h,
    enter, hbranch]

/-- A sentence has no problems, whatever statements are open above it. -/
lemma checkLine_sentence (h : w.WellFormed) (width : Nat) (number : Int) (stack : Stack) :
    (checkLine width w.line number stack).1 = [] := by
  obtain ⟨r, hr⟩ := exists_split h width number
  have hindent : (w.chars.takeWhile Text.isBlank).length = 0 := by
    rw [chars, List.takeWhile_cons_of_neg (by decide)]
    rfl
  rw [Token.scan, h.expandTabs_line] at hr
  simp only [checkLine, h.expandTabs_line, hr, hindent, if_true]
  rw [checkBrackets_sentence h, checkSpan_row h, List.append_nil]

/-- A well-formed sentence is valid, without a warning. -/
theorem validateLines_sentence (h : w.WellFormed) (hwidth : 1 ≤ width) (start : Int) :
    (validateLines width [w.line] start).value.1 = [⟨start, [], []⟩] := by
  have hblank : Text.allBlank w.line = false := by
    rw [Text.allBlank, line, String.toList_ofList, chars, List.all_cons]
    rfl
  rw [validateLines, validateFrom_cons, validate_of_not_allBlank hblank hwidth,
    checkLine_sentence h]
  rfl

end Grammar

end BlockScript
