import BlockScript.Proofs.Evaluator.Answers

/-!
# Gates

As long as an evaluator is asked in one context only, asking changes no later answer
(`Evaluator.answer_evaluate_again`). So a row of conditions comes to what the answers before it say,
each at the moment at which it is asked for (`Evaluator.answer_evaluateAll`). Over time an answer changes
only if one lapses in the cache that was found in another context (`Evaluator.answer_of_not_lapses`).
-/

namespace BlockScript

/-! ### Verdicts -/

namespace Condition

/-- What a condition comes to if expressions are answered by `ask`. -/
def verdict (ask : String → Except EvaluationError Bool) (c : Condition) :
    Except EvaluationError Bool :=
  match c.kind with
  | .label => .ok true
  | .whenTrue => ask c.expression
  | .whenFalse => (ask c.expression).map (!·)

/-- What some conditions come to if expressions are answered by `ask`, which may answer the conditions
at different places in different ways; those after one that does not hold are left alone. -/
def verdictAll : (ask : Nat → String → Except EvaluationError Bool) → List Condition →
    Except EvaluationError Bool
  | _, [] => .ok true
  | ask, c :: cs =>
    match c.verdict (ask 0) with
    | .ok true => verdictAll (fun k => ask (k + 1)) cs
    | other => other

variable {ask ask' : Nat → String → Except EvaluationError Bool} {cs ds : List Condition}

/-- Only the answers at the places of the conditions count. -/
lemma verdictAll_congr (h : ∀ k < cs.length, ask k = ask' k) : verdictAll ask cs = verdictAll ask' cs := by
  induction cs generalizing ask ask' with
  | nil => rfl
  | cons c cs ih =>
    have hrest := @ih (fun k => ask (k + 1)) (fun k => ask' (k + 1)) fun k hk =>
      h (k + 1) (Nat.succ_lt_succ hk)
    rw [verdictAll, verdictAll, h 0 (Nat.succ_pos _), hrest]

lemma verdictAll_append (ask : Nat → String → Except EvaluationError Bool) (cs ds : List Condition) :
    verdictAll ask (cs ++ ds) =
      match verdictAll ask cs with
      | .ok true => verdictAll (fun k => ask (k + cs.length)) ds
      | other => other := by
  induction cs generalizing ask with
  | nil => rfl
  | cons c cs ih =>
    have hplace : ∀ k, k + cs.length + 1 = k + (c :: cs).length := fun _ => rfl
    rw [List.cons_append, verdictAll, verdictAll, ih]
    simp only [hplace]
    cases c.verdict (ask 0) with
    | error e => rfl
    | ok pass => cases pass <;> rfl

lemma verdictAll_append_eq_true :
    verdictAll ask (cs ++ ds) = .ok true ↔
      verdictAll ask cs = .ok true ∧ verdictAll (fun k => ask (k + cs.length)) ds = .ok true := by
  rw [verdictAll_append]
  cases verdictAll ask cs with
  | error e => simp
  | ok pass => cases pass <;> simp

end Condition

namespace Evaluator

/-- The readings of the clock while some conditions are evaluated. -/
def gateReadings : (Nat → Moment) → List Condition → List Double
  | _, [] => []
  | moments, _ :: cs => (moments 0).readings ++ gateReadings (fun k => moments (k + 1)) cs

lemma mem_gateReadings {moments : Nat → Moment} {conditions : List Condition} {t : Double} :
    t ∈ gateReadings moments conditions ↔ ∃ k < conditions.length, t ∈ (moments k).readings := by
  induction conditions generalizing moments with
  | nil => simp [gateReadings]
  | cons c cs ih =>
    rw [gateReadings, List.mem_append, ih, List.length_cons]
    constructor
    · rintro (h | ⟨k, hk, h⟩)
      · exact ⟨0, Nat.succ_pos _, h⟩
      · exact ⟨k + 1, Nat.succ_lt_succ hk, h⟩
    · rintro ⟨k, hk, h⟩
      cases k with
      | zero => exact .inl h
      | succ k => exact .inr ⟨k, Nat.lt_of_succ_lt_succ hk, h⟩

lemma gateReadings_append (moments : Nat → Moment) (cs ds : List Condition) :
    gateReadings moments (cs ++ ds) =
      gateReadings moments cs ++ gateReadings (fun k => moments (k + cs.length)) ds := by
  induction cs generalizing moments with
  | nil => rfl
  | cons c cs ih =>
    have hplace : ∀ k, k + cs.length + 1 = k + (c :: cs).length := fun _ => rfl
    rw [List.cons_append, gateReadings, gateReadings, ih, List.append_assoc]
    simp only [hplace]

variable [Searcher] {v w u : Evaluator} {m : Moment} {times : List Double}
  {block expression : String} {context : Context}

/-! ### Asking in one context -/

/-- Asking in a context changes no later answer in it: what is put into the cache is what would be
found again. -/
lemma answer_evaluate_again (h : v.WellFormed) {m' : Moment}
    (hlater : ∀ t ∈ m.readings, m'.asked.ge t = true) (asked expression : String)
    (context : Context) (block : String) :
    ((v.evaluate m asked context block).state.evaluate m' expression context block).answer =
      (v.evaluate m' expression context block).answer := by
  have hasked := hlater _ m.asked_mem_readings
  have hfound : (v.evaluate m asked context block).state.found context block expression =
      v.found context block expression := by
    have hlifetimes := (h.evaluate m asked context block).2 block
    have hoverlay : (v.evaluate m asked context block).state.overlay block = v.overlay block := by
      rw [overlay, overlays_evaluate]
      rfl
    rw [found, found, decided_congr hoverlay, storable, storable, hlifetimes]
  rw [answer_evaluate, answer_evaluate, hfound]
  by_cases hkey : expression = asked
  · subst hkey
    rw [known_evaluate_self h hlater]
    split_ifs with hnow
    · rw [known_eq_none_of_later h hasked hnow]
      cases hkept : v.kept? m.stored m'.asked expression context block with
      | some value => exact (found_of_kept? hkept).symm
      | none => rfl
    · rfl
  · rw [known_evaluate_of_ne h hlater fun heq => hkey (congrArg Prod.snd heq)]

/-- Whether one evaluator answers in a context as another does once some times have passed. -/
structure AnswersAs (context : Context) (block : String) (times : List Double) (v w : Evaluator) :
    Prop where
  wellFormed : w.WellFormed
  answer : ∀ m, (∀ t ∈ times, m.asked.ge t = true) → ∀ expression,
    (w.evaluate m expression context block).answer = (v.evaluate m expression context block).answer

namespace AnswersAs

lemma refl (h : v.WellFormed) : AnswersAs context block times v v :=
  ⟨h, fun _ _ _ => rfl⟩

lemma trans {times' : List Double} (hvw : AnswersAs context block times v w)
    (hwu : AnswersAs context block times' w u) : AnswersAs context block (times ++ times') v u where
  wellFormed := hwu.wellFormed
  answer m hlater expression := by
    rw [List.forall_mem_append] at hlater
    exact (hwu.answer m hlater.2 expression).trans (hvw.answer m hlater.1 expression)

lemma mono {times' : List Double} (h : AnswersAs context block times v w) (hsub : times ⊆ times') :
    AnswersAs context block times' v w :=
  ⟨h.wellFormed, fun m hlater => h.answer m fun t ht => hlater t (hsub ht)⟩

end AnswersAs

lemma answersAs_evaluateCondition (h : v.WellFormed) (m : Moment) (c : Condition)
    (context : Context) (block : String) :
    AnswersAs context block m.readings v (v.evaluateCondition m c context block).state := by
  have hasked : AnswersAs context block m.readings v
      (v.evaluate m c.expression context block).state :=
    ⟨(h.evaluate m c.expression context block).1, fun _ hlater expression =>
      answer_evaluate_again h hlater c.expression expression context block⟩
  unfold evaluateCondition
  split
  · exact .refl h
  · exact hasked
  · exact hasked

lemma answersAs_evaluateAll (h : v.WellFormed) (moments : Nat → Moment) (context : Context)
    (block : String) (conditions : List Condition) :
    AnswersAs context block (gateReadings moments conditions) v
      (v.evaluateAll context block moments conditions).state := by
  induction conditions generalizing v moments with
  | nil => exact .refl h
  | cons c cs ih =>
    have hfirst := answersAs_evaluateCondition h (moments 0) c context block
    rw [evaluateAll, gateReadings]
    split
    · exact hfirst.trans (ih hfirst.wellFormed _)
    · exact hfirst.mono (List.subset_append_left _ _)

/-- Conditions come to what the answers say that there are before they are asked for. -/
theorem answer_evaluateAll (h : v.WellFormed) {moments : Nat → Moment} {conditions : List Condition}
    (hclock : Forward (gateReadings moments conditions))
    (context : Context) (block : String) :
    (v.evaluateAll context block moments conditions).answer =
      Condition.verdictAll (fun k e => (v.evaluate (moments k) e context block).answer)
        conditions := by
  induction conditions generalizing v moments with
  | nil => rfl
  | cons c cs ih =>
    obtain ⟨-, hrest, hlater⟩ := List.pairwise_append.mp hclock
    have hfirst := answersAs_evaluateCondition h (moments 0) c context block
    have hverdict : (v.evaluateCondition (moments 0) c context block).answer =
        c.verdict fun e => (v.evaluate (moments 0) e context block).answer := by
      unfold evaluateCondition Condition.verdict
      cases c.kind <;> rfl
    -- the other conditions are asked for later, so the first one has changed none of their answers
    have hsame : ∀ k < cs.length,
        (fun e => ((v.evaluateCondition (moments 0) c context block).state.evaluate
          (moments (k + 1)) e context block).answer) =
        fun e => (v.evaluate (moments (k + 1)) e context block).answer := by
      intro k hk
      funext e
      refine hfirst.answer _ (fun t ht => hlater t ht _ ?_) e
      exact mem_gateReadings.mpr ⟨k, hk, Moment.asked_mem_readings _⟩
    have hrest := (ih hfirst.wellFormed hrest).trans (Condition.verdictAll_congr hsame)
    rw [evaluateAll, Condition.verdictAll, ← hverdict]
    cases hanswer : (v.evaluateCondition (moments 0) c context block).answer with
    | error e => exact hanswer
    | ok pass =>
      cases pass with
      | true => exact hrest
      | false => exact hanswer

/-! ### Answers over time -/

/-- Whether an answer that is not right any more lapses between two times: it is in the cache at the
first and not at the second, and the expression is decided to be something else. -/
def Lapses (first second : Double) (context : Context) (block expression : String) (v : Evaluator) :
    Prop :=
  ∃ value r, v.known first block expression = some value ∧
    v.known second block expression = none ∧ v.decided context block expression = .ok r ∧
    r.value ≠ value

/-- If no wrong answer lapses, an expression has one answer, as long as it has any. -/
lemma answer_of_not_lapses (h : v.WellFormed) {first second : Moment}
    (hlater : second.asked.ge first.asked = true)
    (hlapses : ¬ v.Lapses first.asked second.asked context block expression)
    {value : Bool} (hsecond : (v.evaluate second expression context block).answer = .ok value) :
    (v.evaluate first expression context block).answer = .ok value := by
  rw [answer_evaluate] at hsecond ⊢
  cases hknown : v.known second.asked block expression with
  | some other =>
    rw [known_of_later h hlater hknown]
    rw [hknown] at hsecond
    exact hsecond
  | none =>
    rw [hknown] at hsecond
    cases hfirst : v.known first.asked block expression with
    | none => exact hsecond
    | some other =>
      have hdecided := decided_of_found hsecond
      cases hr : v.decided context block expression with
      | error e => simp [hr, Except.map] at hdecided
      | ok r =>
        have hvalue : r.value = value := by simpa [hr, Except.map] using hdecided
        by_contra hne
        refine hlapses ⟨other, r, hfirst, hknown, hr, fun heq => hne ?_⟩
        rw [← hvalue, heq]

end Evaluator

end BlockScript
