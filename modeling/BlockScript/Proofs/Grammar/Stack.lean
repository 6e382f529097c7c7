import BlockScript.Grammar.Validator
import BlockScript.Proofs.Lines
import Mathlib.Data.List.Forall2
import Mathlib.Tactic.Common

/-!
# Stacks of open statements

One stack covers another if it holds the same open statements, in which at least as many `else`
branches have been seen. A line that is fine below a stack is fine below every stack that it covers.
The verdict on a line is read off its problems.
-/

namespace BlockScript.Grammar

/-! ### Covering -/

/-- Whether `f` is the same statement as `g`, seen at the same time or later. -/
structure Frame.Covers (f g : Frame) : Prop where
  depth : f.depth = g.depth
  keyword : f.keyword = g.keyword
  elses : g.elses ≤ f.elses

namespace Stack

def Covers (stack left : Stack) : Prop :=
  List.Forall₂ Frame.Covers stack left

variable {stack left : Stack}

@[refl] lemma Covers.refl (stack : Stack) : stack.Covers stack :=
  List.forall₂_same.mpr fun _ _ => ⟨rfl, rfl, Nat.le_refl _⟩

lemma Covers.trans {later : Stack} (h : later.Covers stack) (h' : stack.Covers left) :
    later.Covers left := by
  induction h generalizing left with
  | nil => exact h'
  | cons hf _ ih =>
    obtain ⟨g, gs, hg, hgs, rfl⟩ := List.forall₂_cons_left_iff.mp h'
    exact .cons ⟨hf.depth.trans hg.depth, hf.keyword.trans hg.keyword, hg.elses.trans hf.elses⟩
      (ih hgs)

lemma Covers.isEmpty (h : stack.Covers left) : List.isEmpty stack = List.isEmpty left := by
  cases h <;> rfl

lemma Covers.insideConditional (h : stack.Covers left) :
    stack.insideConditional = left.insideConditional := by
  induction h with
  | nil => rfl
  | cons hf _ ih =>
    simp only [Stack.insideConditional, List.any_cons, hf.keyword] at ih ⊢
    rw [ih]

/-! ### Closing statements -/

lemma closeTo_cons {e : Nat} {f : Frame} :
    closeTo e (f :: stack) = if e ≤ f.depth then closeTo e stack else f :: stack := by
  simp [closeTo, List.dropWhile_cons]

lemma closeTo_closeTo {d e : Nat} (h : d ≤ e) (stack : Stack) :
    (stack.closeTo e).closeTo d = stack.closeTo d := by
  induction stack with
  | nil => rfl
  | cons f stack ih =>
    rw [closeTo_cons]
    split
    next he => rw [ih, closeTo_cons, if_pos (h.trans he)]
    next => rfl

lemma Covers.closeTo (h : stack.Covers left) (e : Nat) :
    (stack.closeTo e).Covers (left.closeTo e) := by
  induction h with
  | nil => exact .nil
  | cons hf hrest ih =>
    rw [closeTo_cons, closeTo_cons, hf.depth]
    split
    · exact ih
    · exact .cons hf hrest

/-! ### Counting branches -/

lemma covers_countElse (stack : Stack) : stack.countElse.1.Covers stack := by
  induction stack with
  | nil => exact .nil
  | cons f stack ih =>
    unfold countElse
    split
    · exact .cons ⟨rfl, rfl, Nat.le_succ _⟩ (Covers.refl stack)
    · exact .cons ⟨rfl, rfl, Nat.le_refl _⟩ ih

lemma Covers.countElse (h : stack.Covers left) :
    stack.countElse.1.Covers left.countElse.1 ∧
      ∀ n, left.countElse.2 = some n → ∃ m, stack.countElse.2 = some m ∧ n ≤ m := by
  induction h with
  | nil => exact ⟨.nil, by simp [Stack.countElse]⟩
  | @cons f g stack left hf hrest ih =>
    unfold Stack.countElse
    rw [hf.keyword]
    split
    · have := hf.elses
      refine ⟨.cons ⟨hf.depth, rfl, by simpa⟩ hrest, ?_⟩
      simpa
    · exact ⟨.cons hf ih.1, ih.2⟩

end Stack

/-! ### Checking a statement -/

private lemma append_subset_append {α : Type} (front : List α) {a b : List α} (h : a ⊆ b) :
    front ++ a ⊆ front ++ b :=
  List.append_subset.mpr
    ⟨List.subset_append_left _ _, List.subset_append_of_subset_right _ h⟩

/-- A statement that is entered stands on top of the stack; below it at most a count has changed. -/
lemma enter_snd (opener : Token) (depth : Nat) (keyword : Option String) (stack : Stack) :
    ∃ counted : Stack, (enter opener depth keyword stack).2 = ⟨depth, keyword, 0⟩ :: counted ∧
      counted.Covers stack := by
  cases hk : keyword.filter Keyword.isBranch with
  | none => exact ⟨stack, by simp only [enter, hk], .refl stack⟩
  | some name =>
    by_cases hin : stack.insideConditional = true
    · by_cases hname : name = "else"
      · refine ⟨stack.countElse.1, ?_, stack.covers_countElse⟩
        simp [enter, hk, hin, hname]
      · exact ⟨stack, by simp [enter, hk, hin, hname], .refl stack⟩
    · exact ⟨stack, by simp [enter, hk, hin], .refl stack⟩

/-- A statement has no new problems below a stack that is covered. -/
lemma Stack.Covers.enter {stack left : Stack} (h : stack.Covers left) (opener : Token) (depth : Nat)
    (keyword : Option String) :
    (enter opener depth keyword left).1 ⊆ (enter opener depth keyword stack).1 ∧
      Stack.Covers (enter opener depth keyword stack).2 (enter opener depth keyword left).2 := by
  have hpush : ∀ {s l : Stack}, s.Covers l →
      Stack.Covers (⟨depth, keyword, 0⟩ :: s) (⟨depth, keyword, 0⟩ :: l) :=
    fun hsl => .cons ⟨rfl, rfl, Nat.le_refl 0⟩ hsl
  cases hk : keyword.filter Keyword.isBranch with
  | none =>
    simp only [Grammar.enter, hk, h.isEmpty]
    exact ⟨List.Subset.refl _, hpush h⟩
  | some name =>
    by_cases hin : left.insideConditional = true
    · by_cases hname : name = "else"
      · obtain ⟨hcounted, hcount⟩ := h.countElse
        simp only [Grammar.enter, hk, h.isEmpty, h.insideConditional, hin, hname]
        refine ⟨append_subset_append _ ?_, hpush hcounted⟩
        split
        next hmany =>
          obtain ⟨n, hn, hmore⟩ := (Option.any_eq_true _ _).mp hmany
          obtain ⟨m, hm, hle⟩ := hcount n hn
          have hseveral : 1 < n := of_decide_eq_true hmore
          have hstack : stack.countElse.2.any (· > 1) = true := by
            rw [hm, Option.any_some]
            exact decide_eq_true (by omega)
          rw [if_pos hstack]
          exact List.Subset.refl _
        next => exact List.nil_subset _
      · simp only [Grammar.enter, hk, h.isEmpty, h.insideConditional, hin, hname]
        exact ⟨List.Subset.refl _, hpush h⟩
    · simp only [Grammar.enter, hk, h.isEmpty, h.insideConditional, hin]
      exact ⟨List.Subset.refl _, hpush h⟩

/-- What checking a statement leaves on the stack: the statement, and below it the statements that
are shallower. -/
lemma checkSpan_snd (width : Nat) (span : Span) (stack : Stack) :
    ∃ (f : Frame) (counted : Stack), (checkSpan width span stack).2 = f :: counted ∧
      f.depth = span.depth width ∧ counted.Covers (stack.closeTo (span.depth width)) := by
  obtain ⟨counted, hcounted, hcovers⟩ := enter_snd span.opener (span.depth width)
    (keywordOf span.body) (stack.closeTo (span.depth width))
  exact ⟨_, counted, hcounted, rfl, hcovers⟩

/-- Only the statements that are shallower matter for checking a statement. -/
lemma checkSpan_of_covers {width : Nat} {span : Span} {stack left : Stack}
    (h : Stack.Covers (stack.closeTo (span.depth width)) (left.closeTo (span.depth width))) :
    (checkSpan width span left).1 ⊆ (checkSpan width span stack).1 ∧
      Stack.Covers (checkSpan width span stack).2 (checkSpan width span left).2 := by
  obtain ⟨hproblems, hstack⟩ := h.enter span.opener (span.depth width) (keywordOf span.body)
  exact ⟨append_subset_append _ hproblems, hstack⟩

/-! ### Checking a line -/

/-- Either a line starts wrongly and leaves the stack alone, or its first span is checked. -/
lemma checkLine_split (width : Nat) (line : String) (number : Int) :
    (∀ stack, (checkLine width line number stack).2 = stack ∧
      ∃ column, (Problem.badOpening, column) ∈ (checkLine width line number stack).1) ∨
    ∃ span others, Span.split (Token.scan width number line) = span :: others ∧
      ∀ stack, checkLine width line number stack =
        (checkBrackets (Text.expandTabs width line) ++ (checkSpan width span stack).1,
          (checkSpan width span stack).2) := by
  simp only [checkLine, Token.scan]
  cases hsplit : Span.split (Token.scanFrom number 0 (Text.expandTabs width line)) with
  | nil => exact .inl fun stack => ⟨rfl, _, List.mem_append_right _ List.mem_cons_self⟩
  | cons span spans =>
    by_cases hstart : span.opener.start = ((Text.expandTabs width line).takeWhile Text.isBlank).length
    · refine .inr ⟨span, spans, rfl, fun stack => ?_⟩
      simp only [hstart, if_true]
    · refine .inl fun stack => ?_
      simp only [hstart, if_false]
      exact ⟨trivial, _, List.mem_append_right _ List.mem_cons_self⟩

/-- Either a line starts wrongly and leaves the stack alone, or its first statement is checked. -/
lemma checkLine_cases (width : Nat) (line : String) (number : Int) :
    (∀ stack, (checkLine width line number stack).2 = stack ∧
      ∃ column, (Problem.badOpening, column) ∈ (checkLine width line number stack).1) ∨
    ∃ span rest, Statement.ofLine width number line = Statement.ofSpan width span :: rest ∧
      ∀ stack, checkLine width line number stack =
        (checkBrackets (Text.expandTabs width line) ++ (checkSpan width span stack).1,
          (checkSpan width span stack).2) := by
  rcases checkLine_split width line number with hjunk | ⟨span, others, hsplit, hcheck⟩
  · exact .inl hjunk
  · refine .inr ⟨span, others.map (Statement.ofSpan width), ?_, hcheck⟩
    rw [Statement.ofLine, hsplit, List.map_cons]

/-! ### Verdicts -/

lemma Verdict.valid_ofProblems {line : Int} {problems : List (Problem × Nat)} :
    (Verdict.ofProblems line problems).valid = true ↔
      ∀ p ∈ problems, (⟨p.1, line, p.2⟩ : Diagnostic).isError = false := by
  simp only [Verdict.valid, Verdict.ofProblems, List.isEmpty_iff, List.filter_eq_nil_iff,
    List.forall_mem_map, Bool.not_eq_true]

lemma validate_of_allBlank {line : String} (h : Text.allBlank line = true) (width : Nat)
    (stack : Stack) (number : Int) :
    (validate width stack line number).value = (Verdict.ofProblems number [], stack) := by
  simp [validate, h]

lemma validate_of_not_allBlank {line : String} (h : Text.allBlank line = false) {width : Nat}
    (hwidth : 1 ≤ width) (stack : Stack) (number : Int) :
    (validate width stack line number).value =
      (Verdict.ofProblems number (checkLine width line number stack).1,
        (checkLine width line number stack).2) := by
  simp [validate, h, Nat.max_eq_right hwidth]

lemma exists_validate_eq (width : Nat) (stack : Stack) (line : String) (number : Int) :
    ∃ problems, (validate width stack line number).value.1 = .ofProblems number problems :=
  ⟨_, rfl⟩

/-- Lines are validated one after the other. -/
lemma validateFrom_cons (width : Nat) (stack : Stack) (start : Int) (line : String)
    (lines : List String) :
    (validateFrom width stack start (line :: lines)).value.1 =
      (validate width stack line start).value.1 ::
        (validateFrom width (validate width stack line start).value.2 (start + 1) lines).value.1 :=
  rfl

/-- Further lines are validated below the statements that the first ones leave open. -/
lemma validateFrom_append (width : Nat) (stack : Stack) (start : Int) (front back : List String) :
    let before := (validateFrom width stack start front).value
    let after := (validateFrom width before.2 (start + front.length) back).value
    (validateFrom width stack start (front ++ back)).value = (before.1 ++ after.1, after.2) := by
  induction front generalizing stack start with
  | nil => simp [validateFrom, pure]
  | cons line front ih =>
    have hshift : start + 1 + front.length = start + (front.length + 1 : Nat) := by omega
    have hrest := ih (validate width stack line start).value.2 (start + 1)
    rw [hshift] at hrest
    have hcons : ∀ lines : List String, (validateFrom width stack start (line :: lines)).value =
        ((validate width stack line start).value.1 ::
          (validateFrom width (validate width stack line start).value.2 (start + 1) lines).value.1,
        (validateFrom width (validate width stack line start).value.2 (start + 1) lines).value.2) :=
      fun _ => rfl
    simp only [List.cons_append, hcons, hrest, List.length_cons]

/-- Every verdict is one on a line below the statements that the lines before it leave open. -/
lemma mem_validateFrom_iff {width : Nat} {stack : Stack} {start : Int} {lines : List String}
    {v : Verdict} :
    v ∈ (validateFrom width stack start lines).value.1 ↔
      ∃ front line back, lines = front ++ line :: back ∧
        v = (validate width (validateFrom width stack start front).value.2 line
          (start + front.length)).value.1 := by
  constructor
  · intro h
    induction lines generalizing stack start with
    | nil => exact absurd h List.not_mem_nil
    | cons line lines ih =>
      rw [validateFrom_cons] at h
      rcases List.mem_cons.mp h with rfl | h
      · exact ⟨[], line, lines, rfl, by simp [validateFrom, pure]⟩
      · obtain ⟨front, other, back, rfl, rfl⟩ := ih h
        refine ⟨line :: front, other, back, rfl, ?_⟩
        have hshift : start + 1 + front.length = start + (front.length + 1 : Nat) := by omega
        rw [List.length_cons, ← hshift]
        rfl
  · rintro ⟨front, line, back, rfl, rfl⟩
    rw [validateFrom_append, validateFrom_cons]
    exact List.mem_append_right _ List.mem_cons_self

end BlockScript.Grammar
