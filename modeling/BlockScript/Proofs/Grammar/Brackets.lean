import BlockScript.Proofs.Grammar.Concerns
import BlockScript.Proofs.Grammar.Stack
import BlockScript.Proofs.Sentence.Basic
import Mathlib.Combinatorics.Enumerative.DyckWord

/-!
# Bracket pairs

Reading from left to right, a closing bracket is the partner of the last opening bracket that has none
yet. The check of a line counts the open brackets and keeps the column of one of them; it finds
exactly the closing brackets that are left without a partner, and the leftmost of such opening
brackets (`checkBrackets_exact`). So the brackets of each kind form a Dyck word on a line without
errors.
-/

namespace BlockScript.Grammar

/-! ### Pairing -/

/-- The columns of the brackets that have no partner, as far as a text has been read: the closing ones
in order, and the opening ones, the last of them first. -/
structure Pairing where
  closers : List Nat
  openers : List Nat

namespace Pairing

/-- Reads a character at a column. An opening bracket waits; a closing one is the partner of the last that
waits, if any does. -/
def step (pair : Char × Char) (p : Pairing) (c : Char × Nat) : Pairing :=
  if c.1 = pair.1 then { p with openers := c.2 :: p.openers }
  else if c.1 = pair.2 then
    match p.openers with
    | [] => { p with closers := p.closers ++ [c.2] }
    | _ :: openers => { p with openers }
  else p

/-- The brackets of a text that have no partner in it. Columns count from one. -/
def ofText (pair : Char × Char) (text : List Char) : Pairing :=
  (text.zipIdx 1).foldl (step pair) ⟨[], []⟩

/-- What is to be said about them: each closing bracket, and the leftmost opening one. -/
def problems (pair : Char × Char) (p : Pairing) : List (Problem × Nat) :=
  p.closers.map (.unmatchedCloser pair.2, ·) ++ p.openers.min?.toList.map (.unclosedOpener pair.1, ·)

/-- What a counting reader knows: how many opening brackets wait in front of a column, and where the
first of them stands. -/
structure Tracks (p : Pairing) (column depth outermost : Nat) : Prop where
  depth : p.openers.length = depth
  before : ∀ k ∈ p.openers, k < column
  descending : p.openers.Pairwise (· > ·)
  outermost : ∀ k ∈ p.openers.getLast?, k = outermost

namespace Tracks

variable {p : Pairing} {column depth outermost : Nat}

lemma later (h : p.Tracks column depth outermost) : p.Tracks (column + 1) depth outermost where
  depth := h.depth
  before k hk := Nat.lt_succ_of_lt (h.before k hk)
  descending := h.descending
  outermost := h.outermost

/-- An opening bracket waits. If no other one does, it is the first. -/
lemma opening (h : p.Tracks column depth outermost) :
    Tracks ⟨p.closers, column :: p.openers⟩ (column + 1) (depth + 1)
      (if depth = 0 then column else outermost) where
  depth := by simp [h.depth]
  before := by
    intro k hk
    rcases List.mem_cons.mp hk with rfl | hk
    · exact Nat.lt_succ_self k
    · exact Nat.lt_succ_of_lt (h.before k hk)
  descending := List.pairwise_cons.mpr ⟨h.before, h.descending⟩
  outermost := by
    intro k hk
    cases hopeners : p.openers with
    | nil =>
      have hdepth : depth = 0 := by simp [← h.depth, hopeners]
      simp [hopeners] at hk
      simp [hdepth, hk]
    | cons a openers =>
      have hdepth : depth ≠ 0 := by simp [← h.depth, hopeners]
      simp only [hopeners, List.getLast?_cons_cons] at hk
      rw [if_neg hdepth]
      apply h.outermost
      rw [hopeners]
      exact hk

/-- A closing bracket is the partner of the last one that waits. -/
lemma closing {a : Nat} {closers openers : List Nat}
    (h : Tracks ⟨closers, a :: openers⟩ column depth outermost) :
    Tracks ⟨closers, openers⟩ (column + 1) (depth - 1) outermost where
  depth := by simp [← h.depth]
  before k hk := Nat.lt_succ_of_lt (h.before k (List.mem_cons_of_mem a hk))
  descending := (List.pairwise_cons.mp h.descending).2
  outermost := by
    intro k hk
    apply h.outermost
    rw [List.getLast?_cons, Option.mem_def.mp hk]
    rfl

/-- The opening bracket that is kept is the leftmost one. -/
lemma min?_openers (h : p.Tracks column depth outermost) :
    p.openers.min? = if depth = 0 then none else some outermost := by
  cases hlast : p.openers.getLast? with
  | none =>
    have hnil : p.openers = [] := List.getLast?_eq_none_iff.mp hlast
    simp [← h.depth, hnil]
  | some k =>
    obtain ⟨front, hfront⟩ := List.getLast?_eq_some_iff.mp hlast
    have hdepth : depth ≠ 0 := by simp [← h.depth, hfront]
    rw [if_neg hdepth, ← h.outermost k hlast, List.min?_eq_some_iff, hfront]
    constructor
    · simp
    · intro a ha
      have hdescending := h.descending
      rw [hfront] at hdescending
      rcases List.mem_append.mp ha with ha | ha
      · exact Nat.le_of_lt ((List.pairwise_append.mp hdescending).2.2 a ha k (by simp))
      · simp [List.mem_singleton.mp ha]

end Tracks

end Pairing

/-- The check of one kind finds what pairing leaves over. -/
lemma bracketProblems_eq {pair : Char × Char} {column depth outermost : Nat} {p : Pairing}
    (h : p.Tracks column depth outermost) (cs : List Char) :
    p.closers.map (Problem.unmatchedCloser pair.2, ·) ++
        bracketProblems pair.1 pair.2 column depth outermost cs =
      ((cs.zipIdx column).foldl (Pairing.step pair) p).problems pair := by
  induction cs generalizing p column depth outermost with
  | nil =>
    simp only [List.zipIdx_nil, List.foldl_nil, Pairing.problems, bracketProblems, h.min?_openers]
    by_cases hdepth : depth = 0 <;> simp [hdepth]
  | cons c cs ih =>
    rw [bracketProblems, List.zipIdx_cons, List.foldl_cons, Pairing.step]
    by_cases hopening : c = pair.1
    · simp only [if_pos hopening]
      exact ih h.opening
    · simp only [if_neg hopening]
      by_cases hclosing : c = pair.2
      · simp only [if_pos hclosing]
        obtain ⟨closers, openers⟩ := p
        cases openers with
        | nil =>
          have hdepth : depth = 0 := h.depth.symm
          subst hdepth
          have hlater : Pairing.Tracks ⟨closers ++ [column], []⟩ (column + 1) 0 outermost :=
            ⟨rfl, by simp, .nil, by simp⟩
          rw [if_pos rfl, ← ih hlater]
          simp
        | cons a openers =>
          have hdepth : depth ≠ 0 := by simp [← h.depth]
          rw [if_neg hdepth]
          exact ih h.closing
      · simp only [if_neg hclosing]
        exact ih h.later

/-- The check of a line finds what pairing leaves over of each kind. -/
lemma checkBrackets_eq (text : List Char) :
    checkBrackets text = bracketPairs.flatMap fun pair => (Pairing.ofText pair text).problems pair := by
  unfold checkBrackets
  congr 1
  funext pair
  have htracks : Pairing.Tracks ⟨[], []⟩ 1 0 0 := ⟨rfl, by simp, .nil, by simp⟩
  exact bracketProblems_eq htracks text

/-! ### Lines without errors -/

/-- The brackets of a line are checked, however it starts. -/
lemma mem_checkLine {width : Nat} {stack : Stack} {line : String} {number : Int}
    {p : Problem × Nat} (h : p ∈ checkBrackets (Text.expandTabs width line)) :
    p ∈ (checkLine width line number stack).1 := by
  unfold checkLine
  dsimp only
  split
  next => exact List.mem_append_left _ h
  next =>
    split
    next => exact List.mem_append_left _ h
    next => exact List.mem_append_left _ h

/-- Each kind of bracket is balanced on a line without errors. -/
lemma balanced_of_valid {width : Nat} (hwidth : 1 ≤ width) {stack : Stack} {line : String}
    {number : Int} (h : (validate width stack line number).value.1.valid = true)
    {pair : Char × Char} (hpair : pair ∈ bracketPairs) :
    Balanced pair (Text.expandTabs width line) := by
  cases hblank : Text.allBlank line with
  | true =>
    have hplain : ∀ p ∈ bracketPairs, Text.isBlank p.1 = false ∧ Text.isBlank p.2 = false := by
      decide
    have hall : ∀ c ∈ Text.expandTabs width line, Text.isBlank c = true :=
      List.all_eq_true.mp (Text.all_isBlank_expandTabsFrom hblank)
    refine .of_free (fun hmem => ?_) (fun hmem => ?_)
    · exact absurd (hall _ hmem) (by simp [(hplain pair hpair).1])
    · exact absurd (hall _ hmem) (by simp [(hplain pair hpair).2])
  | false =>
    rw [validate_of_not_allBlank hblank hwidth] at h
    have hnone : checkBrackets (Text.expandTabs width line) = [] := by
      refine List.eq_nil_iff_forall_not_mem.mpr fun p hp => ?_
      have hseverity := Problem.severity_of_brackets (concern_of_mem_checkBrackets hp)
      have herror := Verdict.valid_ofProblems.mp h p (mem_checkLine hp)
      rw [Diagnostic.isError, Diagnostic.severity, hseverity] at herror
      cases herror
    exact checkBrackets_eq_nil_iff.mp hnone pair hpair

/-! ### Dyck words -/

/-- A bracket as a step up or down. -/
def dyckStep? (pair : Char × Char) (c : Char) : Option DyckStep :=
  if c = pair.1 then some .U else if c = pair.2 then some .D else none

/-- The depth grows by the opening brackets and falls by the closing ones. -/
lemma count_of_depthAfter? {pair : Char × Char} {depth final : Nat} {cs : List Char}
    (h : depthAfter? pair.1 pair.2 depth cs = some final) :
    depth + (cs.filterMap (dyckStep? pair)).count .U =
      final + (cs.filterMap (dyckStep? pair)).count .D := by
  induction cs generalizing depth with
  | nil =>
    simp only [depthAfter?, Option.some.injEq] at h
    simp [h]
  | cons c cs ih =>
    rw [depthAfter?] at h
    by_cases hopening : c = pair.1
    · rw [if_pos hopening] at h
      have hstep : dyckStep? pair c = some .U := by simp [dyckStep?, hopening]
      rw [List.filterMap_cons_some hstep]
      simp only [List.count_cons_self, List.count_cons_of_ne (by decide : DyckStep.U ≠ .D)]
      have := ih h
      omega
    · rw [if_neg hopening] at h
      by_cases hclosing : c = pair.2
      · rw [if_pos hclosing] at h
        have hstep : dyckStep? pair c = some .D := by rw [dyckStep?, if_neg hopening, if_pos hclosing]
        split at h
        next => cases h
        next hdepth =>
          rw [List.filterMap_cons_some hstep]
          simp only [List.count_cons_self, List.count_cons_of_ne (by decide : DyckStep.D ≠ .U)]
          have := ih h
          omega
      · rw [if_neg hclosing] at h
        have hstep : dyckStep? pair c = none := by simp [dyckStep?, hopening, hclosing]
        rw [List.filterMap_cons_none hstep]
        exact ih h

/-- The brackets of a balanced text form a Dyck word. -/
lemma exists_dyckWord {pair : Char × Char} {cs : List Char} (h : Balanced pair cs) :
    ∃ w : DyckWord, w.toList = cs.filterMap (dyckStep? pair) := by
  refine ⟨⟨cs.filterMap (dyckStep? pair), ?_, ?_⟩, rfl⟩
  · have hcount := count_of_depthAfter? h
    omega
  · intro i
    -- the first steps are those of some front of the text, behind which the depth is not negative
    obtain ⟨front, back, rfl, hfront, -⟩ := List.filterMap_eq_append_iff.mp
      (List.take_append_drop i (cs.filterMap (dyckStep? pair))).symm
    rw [Balanced, depthAfter?_append, Option.bind_eq_some_iff] at h
    obtain ⟨depth, hdepth, -⟩ := h
    have hcount := count_of_depthAfter? hdepth
    rw [← hfront]
    omega

/-- The check of a line finds each closing bracket that has no partner and the leftmost opening bracket
that has none, kind by kind. On a line without errors the brackets of each kind form a Dyck word. -/
theorem checkBrackets_exact :
    (∀ text : List Char, checkBrackets text = bracketPairs.flatMap fun pair =>
      (Pairing.ofText pair text).closers.map (Problem.unmatchedCloser pair.2, ·) ++
        (Pairing.ofText pair text).openers.min?.toList.map (Problem.unclosedOpener pair.1, ·)) ∧
      ∀ (width : Nat) (stack : Stack) (line : String) (number : Int),
        (validate width stack line number).value.1.valid = true →
        ∀ pair ∈ bracketPairs, ∃ w : DyckWord,
          w.toList = (Text.expandTabs (max 1 width) line).filterMap (dyckStep? pair) := by
  constructor
  · exact checkBrackets_eq
  · intro width stack line number hvalid pair hpair
    have hmax : validate width stack line number = validate (max 1 width) stack line number := by
      simp [validate]
    rw [hmax] at hvalid
    exact exists_dyckWord (balanced_of_valid (Nat.le_max_left 1 width) hvalid hpair)

/-- A text with brackets of all kinds left over, and a line with nested ones. -/
theorem checkBrackets_exact_nested :
    let text := "\x7d(()) ([\x7b\x7b\x7d".toList
    let line := ":: set[x] // text % \x7bfilter\x7d(blur(2px))"
    checkBrackets text = [(.unmatchedCloser '\x7d', 1), (.unclosedOpener '\x7b', 9),
      (.unclosedOpener '[', 8), (.unclosedOpener '(', 7)] ∧
      (validate 2 [] line 1).value.1.valid = true ∧ ('(', ')') ∈ bracketPairs ∧
      ∃ w : DyckWord, w.toList = [.U, .U, .D, .D] := by
  intro text line
  obtain ⟨hproblems, hlines⟩ := checkBrackets_exact
  have hvalid : (validate 2 [] line 1).value.1.valid = true := by decide +kernel
  have hpair : ('(', ')') ∈ bracketPairs := by decide
  have hsteps : (Text.expandTabs 2 line).filterMap (dyckStep? ('(', ')')) = [.U, .U, .D, .D] := by
    decide +kernel
  refine ⟨?_, hvalid, hpair, ?_⟩
  · rw [hproblems text]
    decide +kernel
  · rw [← hsteps]
    exact hlines 2 [] line 1 hvalid _ hpair

end BlockScript.Grammar
