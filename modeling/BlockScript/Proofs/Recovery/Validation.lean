import BlockScript.Compilation
import BlockScript.Proofs.Grammar.Stack
import BlockScript.Proofs.Recovery.Closure

/-!
# Validation after recovery

A block is validated once as it is written and once with the skipped lines blanked. The two runs agree
on the open statements at every depth at which the next line that is not skipped may stand
(`Recovery.Aligned`), so that line, which has no errors in the first run, has none in the second
(`Recovery.validateLines_blank`).
-/

namespace BlockScript

open Grammar Forest

/-! ### Two runs -/

namespace Recovery

/-- Whether every statement that is deeper than `d` and comes before any other is on a skipped line. -/
def Shadowed (skipped : List Int) (d : Nat) (rest : List Statement) : Prop :=
  ∀ s ∈ rest.takeWhile (deeper Statement.depth d), s.line ∈ skipped

/-- Whether two stacks agree for the statements to come: at every depth they hold the same open
statements above it, or whatever comes next at that depth is on a skipped line. -/
def Aligned (skipped : List Int) (rest : List Statement) (stack left : Stack) : Prop :=
  ∀ e, (stack.closeTo e).Covers (left.closeTo e) ∨ ∃ d < e, Shadowed skipped d rest

variable {skipped : List Int} {width : Nat} {number : Int} {line : String} {rest : List Statement}
  {stack left : Stack}

/-- A skipped line that leaves the stack alone changes nothing. -/
lemma Aligned.skip {front : List Statement} (h : Aligned skipped (front ++ rest) stack left)
    (hclosed : NestClosed Statement.depth (·.line ∈ skipped) (front ++ rest))
    (hfront : ∀ s ∈ front, s.line ∈ skipped) : Aligned skipped rest stack left := by
  intro e
  rcases h e with hcovers | ⟨d, hd, hshadowed⟩
  · exact .inl hcovers
  · exact .inr ⟨d, hd, hclosed.shadow hfront hshadowed⟩

/-- A statement on a skipped line may be entered in the first run only: what is deeper is on skipped
lines too. -/
lemma Aligned.skipSpan {span : Span} (h : Aligned skipped rest stack left)
    (hbelow : Shadowed skipped (span.depth width) rest) :
    Aligned skipped rest (checkSpan width span stack).2 left := by
  intro e
  by_cases he : e ≤ span.depth width
  · rcases h e with hcovers | hshadowed
    · obtain ⟨f, counted, hstack, hdepth, hcounted⟩ := checkSpan_snd width span stack
      have hclose := hcounted.closeTo e
      rw [Stack.closeTo_closeTo he] at hclose
      rw [hstack, Stack.closeTo_cons, if_pos (by omega)]
      exact .inl (hclose.trans hcovers)
    · exact .inr hshadowed
  · exact .inr ⟨span.depth width, by omega, hbelow⟩

/-- A line that is skipped keeps the stacks aligned. -/
lemma Aligned.skipLine (hwidth : 1 ≤ width) (hnumber : number ∈ skipped)
    (hclosed : NestClosed Statement.depth (·.line ∈ skipped)
      (Statement.ofLine width number line ++ rest))
    (h : Aligned skipped (Statement.ofLine width number line ++ rest) stack left) :
    Aligned skipped rest (validate width stack line number).value.2 left := by
  have hline : ∀ s ∈ Statement.ofLine width number line, s.line ∈ skipped := by
    intro s hs
    rwa [Statement.line_of_mem_ofLine hs]
  have hrest := h.skip hclosed hline
  cases hblank : Text.allBlank line with
  | true =>
    rw [validate_of_allBlank hblank]
    exact hrest
  | false =>
    rw [validate_of_not_allBlank hblank hwidth]
    rcases checkLine_cases width line number with hjunk | ⟨span, others, hsplit, hcheck⟩
    · rw [(hjunk stack).1]
      exact hrest
    · rw [hsplit] at hline hclosed
      rw [hcheck]
      have hothers : ∀ s ∈ others, s.line ∈ skipped :=
        fun s hs => hline s (List.mem_cons_of_mem _ hs)
      have hbelow := hclosed.2.shadow hothers (hclosed.1 (hline _ List.mem_cons_self))
      rw [Statement.depth_ofSpan hwidth] at hbelow
      exact hrest.skipSpan hbelow

/-- A line that is not skipped and has no errors in the first run has none in the second. -/
lemma Aligned.keepLine (hwidth : 1 ≤ width) (hnumber : number ∉ skipped)
    (hvalid : (validate width stack line number).value.1.valid = true)
    (h : Aligned skipped (Statement.ofLine width number line ++ rest) stack left) :
    (validate width left line number).value.1.valid = true ∧
      Aligned skipped rest (validate width stack line number).value.2
        (validate width left line number).value.2 := by
  cases hblank : Text.allBlank line with
  | true =>
    rw [Statement.ofLine_of_allBlank hblank] at h
    rw [validate_of_allBlank hblank, validate_of_allBlank hblank]
    exact ⟨rfl, h⟩
  | false =>
    rw [validate_of_not_allBlank hblank hwidth] at hvalid ⊢
    rw [validate_of_not_allBlank hblank hwidth]
    have hproblems := Verdict.valid_ofProblems.mp hvalid
    rcases checkLine_cases width line number with hjunk | ⟨span, others, hsplit, hcheck⟩
    · obtain ⟨column, hcolumn⟩ := (hjunk stack).2
      exact Bool.noConfusion (hproblems _ hcolumn)
    · rw [hcheck] at hproblems ⊢
      rw [hcheck]
      have hcovers : Stack.Covers (stack.closeTo (span.depth width))
          (left.closeTo (span.depth width)) := by
        rcases h (span.depth width) with hcovers | ⟨d, hd, hshadowed⟩
        · exact hcovers
        · -- the statement is not deeper than any that hides what follows, for it is not skipped
          have hfirst : Statement.ofSpan width span ∈ Statement.ofLine width number line := by
            rw [hsplit]
            exact List.mem_cons_self
          refine absurd (hshadowed (Statement.ofSpan width span) ?_) ?_
          · rw [hsplit, List.cons_append, List.takeWhile_cons_of_pos]
            · exact List.mem_cons_self
            · rwa [deeper_iff, Statement.depth_ofSpan hwidth]
          · rwa [Statement.line_of_mem_ofLine hfirst]
      obtain ⟨hsubset, hstacks⟩ := checkSpan_of_covers hcovers
      refine ⟨Verdict.valid_ofProblems.mpr fun p hp => hproblems p ?_, fun e => ?_⟩
      · rcases List.mem_append.mp hp with hp | hp
        · exact List.mem_append_left _ hp
        · exact List.mem_append_right _ (hsubset hp)
      · exact .inl (hstacks.closeTo e)

/-- While the stacks of the two runs are aligned, the second run finds no errors. -/
lemma valid_of_aligned (hwidth : 1 ≤ width) {start : Int} {lines : List String}
    (hclosed : NestClosed Statement.depth (·.line ∈ skipped)
      (Statement.ofLinesFrom width start lines))
    (hbad : ∀ v ∈ (validateFrom width stack start lines).value.1, v.valid = false →
      v.line ∈ skipped)
    (h : Aligned skipped (Statement.ofLinesFrom width start lines) stack left) :
    ∀ v ∈ (validateFrom width left start (blankFrom start skipped lines)).value.1,
      v.valid = true := by
  induction lines generalizing start stack left with
  | nil =>
    intro v hv
    exact absurd hv List.not_mem_nil
  | cons line lines ih =>
    rw [validateFrom_cons] at hbad
    obtain ⟨hfirst, hbad⟩ := List.forall_mem_cons.mp hbad
    rw [Statement.ofLinesFrom] at hclosed h
    rw [blankFrom, validateFrom_cons, List.forall_mem_cons]
    by_cases hstart : start ∈ skipped
    · rw [if_pos hstart, validate_of_allBlank rfl]
      exact ⟨rfl, ih hclosed.of_append hbad (h.skipLine hwidth hstart hclosed)⟩
    · have hvalid : (validate width stack line start).value.1.valid = true := by
        by_contra hinvalid
        exact hstart (hfirst (Bool.eq_false_iff.mpr hinvalid))
      obtain ⟨hleft, hrest⟩ := h.keepLine hwidth hstart hvalid
      rw [if_neg hstart]
      exact ⟨hleft, ih hclosed.of_append hbad hrest⟩

lemma Aligned.refl (skipped : List Int) (rest : List Statement) (stack : Stack) :
    Aligned skipped rest stack stack :=
  fun e => .inl (.refl (stack.closeTo e))

/-- Once the bad lines and everything nested below them are blanked, no line has errors. -/
theorem validateLines_blank {width : Nat} (hwidth : 1 ≤ width) (source : List String) :
    let bad := Compilation.badLines (validateLines width source 1).value.1
    let blanked := blank (skippedLines (.ofLines width source) bad) source
    ∀ v ∈ (validateLines width blanked 1).value.1, v.valid = true := by
  intro bad blanked
  refine valid_of_aligned hwidth (nestClosed_skippedLines width source bad) ?_ (.refl _ _ [])
  intro v hv hinvalid
  apply subset_skippedLines width source bad
  exact List.mem_map_of_mem (List.mem_filter.mpr ⟨hv, by rw [hinvalid]; rfl⟩)

/-- Two lines are bad, the second of them because of a branch below the first; the conditional and its
last statement are left. -/
theorem validateLines_blank_else :
    let source := [":: if{hover} // text", "  :^: set // text %", "    :^: else // text",
      "  :^: else // text", "  :^: set // text % \x7bcolor\x7d(red)"]
    let bad := Compilation.badLines (validateLines 2 source 1).value.1
    let skipped := skippedLines (.ofLines 2 source) bad
    bad = [2, 4] ∧ skipped = [3, 2, 4] ∧
      ∀ v ∈ (validateLines 2 (blank skipped source) 1).value.1, v.valid = true := by
  intro source bad skipped
  have hbad : bad = [2, 4] := by decide +kernel
  have hskipped : skipped = [3, 2, 4] := by decide +kernel
  exact ⟨hbad, hskipped, validateLines_blank (by decide) source⟩

end Recovery

end BlockScript
