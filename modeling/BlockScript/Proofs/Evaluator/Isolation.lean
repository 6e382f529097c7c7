import BlockScript.Proofs.Evaluator.Calls

/-!
# Isolation of blocks

What an evaluator answers for a block is what it would answer if no calls had been made for other blocks
(`Evaluator.answers_isolated`), although all blocks share its cache: calls for other blocks drop no
answer of the block but those that have expired.
-/

namespace BlockScript.Evaluator

variable {v w : Evaluator} {call : Call} {calls : List Call} {now later : Double}
  {block expression : String} {context : Context} {times : List Double}

/-- Whether two evaluators cannot be told apart at a block at some times. -/
structure Agree (block : String) (times : List Double) (v w : Evaluator) : Prop where
  left : v.WellFormed
  right : w.WellFormed
  lifetimes : v.lifetimes block = w.lifetimes block
  overlay : v.overlay block = w.overlay block
  known : ∀ now ∈ times, ∀ expression, v.known now block expression = w.known now block expression

lemma Agree.refl (h : v.WellFormed) (block : String) (times : List Double) :
    Agree block times v v :=
  ⟨h, h, rfl, rfl, fun _ _ _ => rfl⟩

section

variable [Searcher]

namespace Agree

lemma decided (h : Agree block times v w) :
    v.decided context block expression = w.decided context block expression :=
  decided_congr h.overlay context expression

lemma reply (h : Agree block times v w) (hnow : now ∈ times) :
    v.reply now expression context block = w.reply now expression context block := by
  simp only [Evaluator.reply, storable, h.known now hnow, h.decided, h.lifetimes]

lemma kept? (h : Agree block times v w) :
    v.kept? now later expression context block = w.kept? now later expression context block := by
  simp only [Evaluator.kept?, h.decided, h.lifetimes]

/-- A call for another block does not show. -/
lemma after_of_ne (h : Agree block (readings (call :: calls)) v w)
    (hclock : Forward (readings (call :: calls))) (hne : block ≠ call.block) :
    Agree block (readings calls) (v.after call) w where
  left := (h.left.after call).1
  right := h.right
  lifetimes := ((h.left.after call).2 block).trans h.lifetimes
  overlay := (overlay_after_of_ne hne).trans h.overlay
  known later hlater expression := by
    have hmem : later ∈ readings (call :: calls) := by
      rw [readings_cons]
      exact List.mem_append_right _ hlater
    have hsame := known_after_of_ne h.left hne
      (hclock.ge_of_mem hlater) expression
    exact hsame.trans (h.known later hmem expression)

/-- A call for the block keeps the evaluators alike. -/
lemma after (h : Agree block (readings (call :: calls)) v w)
    (hclock : Forward (readings (call :: calls))) (hblock : call.block = block) :
    Agree block (readings calls) (v.after call) (w.after call) where
  left := (h.left.after call).1
  right := (h.right.after call).1
  lifetimes := by rw [(h.left.after call).2, (h.right.after call).2, h.lifetimes]
  overlay := overlay_after_congr h.overlay call
  known later hlater expression := by
    have hmem : later ∈ readings (call :: calls) := by
      rw [readings_cons]
      exact List.mem_append_right _ hlater
    have hknown := h.known later hmem expression
    subst hblock
    cases call with
    | evaluate m asked context block =>
      have hge : ∀ t ∈ m.readings, later.ge t = true := hclock.ge_of_mem hlater
      by_cases hkey : expression = asked
      · subst hkey
        have hnow : v.known m.asked block expression = w.known m.asked block expression :=
          h.known m.asked List.mem_cons_self expression
        have hkept : v.kept? m.stored later expression context block =
          w.kept? m.stored later expression context block := h.kept?
        show (v.evaluate m expression context block).state.known later block expression =
          (w.evaluate m expression context block).state.known later block expression
        rw [known_evaluate_self h.left hge, known_evaluate_self h.right hge, hnow, hkept]
        exact congrArg _ hknown
      · have hne : (block, expression) ≠ (block, asked) := fun heq => hkey (congrArg Prod.snd heq)
        show (v.evaluate m asked context block).state.known later block expression =
          (w.evaluate m asked context block).state.known later block expression
        rw [known_evaluate_of_ne h.left hge hne, known_evaluate_of_ne h.right hge hne]
        exact hknown
    | update block flags =>
      have hoverlay : v.overlay block = w.overlay block := h.overlay
      rw [known_after_update h.left, known_after_update h.right, hoverlay, hknown]
    | forget block =>
      rw [Evaluator.after, Evaluator.after, known_forget h.left, known_forget h.right, hknown]

lemma answered? (h : Agree block (readings (call :: calls)) v w) (hblock : call.block = block) :
    v.answered? call = w.answered? call := by
  subst hblock
  cases call with
  | evaluate m expression context block =>
    have hreply : v.reply m.asked expression context block =
      w.reply m.asked expression context block := h.reply List.mem_cons_self
    rw [answered?_evaluate, answered?_evaluate, hreply]
  | update block flags => rfl
  | forget block => rfl

/-- Dropping the calls for other blocks does not show. -/
lemma filter_answers (h : Agree block (readings calls) v w) (hclock : Forward (readings calls)) :
    (answers v calls).filter (·.block == block) =
      answers w (calls.filter (·.block == block)) := by
  induction calls generalizing v w with
  | nil => rfl
  | cons call calls ih =>
    rw [answers, List.filter_append, filter_answered?]
    by_cases hblock : call.block = block
    · rw [if_pos hblock, List.filter_cons_of_pos (by simpa using hblock), answers,
        h.answered? hblock, ih (h.after hclock hblock) hclock.tail]
    · rw [if_neg hblock, List.filter_cons_of_neg (by simpa using hblock),
        ih (h.after_of_ne hclock (Ne.symm hblock)) hclock.tail, List.nil_append]

end Agree

/-- Leaving out the calls for other blocks changes nothing of what the evaluations for a block give. -/
theorem answers_isolated (h : v.WellFormed) (hclock : Forward (readings calls)) (block : String) :
    (answers v calls).filter (·.block == block) = answers v (calls.filter (·.block == block)) :=
  (Agree.refl h block (readings calls)).filter_answers hclock

end

section

open scoped Pattern

/-- The answer kept for the menu outlives what happens to the page at the same time. -/
theorem answers_isolated_menu :
    let hovered := { Context.default with interaction := ⟨true, false, false⟩ }
    let v := Evaluator.start (some (.start .default (.ofInt 0)))
    let calls : List Call := [.evaluate (.at (.ofInt 7)) "theme.light" .default "menu",
      .evaluate ⟨.ofInt 8, .ofInt 8, .ofInt 9⟩ "hover" hovered "page",
      .update "page" [("hover", false)],
      .evaluate (.at (.ofInt 9)) "theme.light" { Context.default with theme := "dark" } "menu",
      .forget "page",
      .evaluate (.at (.ofInt 70)) "theme.light" { Context.default with theme := "dark" } "menu"]
    Forward (readings calls) ∧
      (answers v calls).filter (·.block == "menu") =
        answers v (calls.filter (·.block == "menu")) ∧
      ((answers v calls).filter (·.block == "menu")).map (·.answer) =
        [.ok true, .ok true, .ok false] := by
  intro hovered v calls
  have hclock : Forward (readings calls) := by decide +kernel
  refine ⟨hclock, answers_isolated (wellFormed_start _ _) hclock "menu", ?_⟩
  decide +kernel

end

end BlockScript.Evaluator
