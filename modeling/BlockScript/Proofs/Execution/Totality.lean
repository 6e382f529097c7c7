import BlockScript.Proofs.Execution.Exclusion
import BlockScript.Proofs.Expression.Failures

/-!
# Answers and runs that come about

An evaluator answers every expression but for two kinds: those that come to a search that breaks down,
and, where answers are kept, those that have no topic (`Evaluator.answer_eq_error_iff`). A run whose gates
are not of these kinds gives every instruction a fate, unless a handler brings it down
(`Execution.exists_answer_run`), and whatever else is wrong with an expression only makes it false.
-/

namespace BlockScript

lemma Evaluator.storable_eq_error_iff {v : Evaluator} {block expression : String}
    {error : EvaluationError} :
    v.storable block expression = .error error ↔
      ∃ number, error = .number number ∧ (v.lifetimes block).isSome = true ∧
        Expression.topicOf expression = .error number := by
  unfold storable
  split
  next hkept =>
    cases Expression.topicOf expression <;> simp [Except.map, Except.mapError, hkept, eq_comm]
  next hkept => simp [hkept]

namespace Evaluator

/-- Whether evaluators fail on the same expressions at a block. -/
structure Alike (block : String) (v w : Evaluator) : Prop where
  overlay : w.overlay block = v.overlay block
  lifetimes : w.lifetimes block = v.lifetimes block

lemma Alike.refl (block : String) (v : Evaluator) : Alike block v v :=
  ⟨rfl, rfl⟩

lemma Alike.trans {u v w : Evaluator} {block : String} (hvw : Alike block v w)
    (hwu : Alike block w u) : Alike block v u :=
  ⟨hwu.overlay.trans hvw.overlay, hwu.lifetimes.trans hvw.lifetimes⟩

end Evaluator

section

variable [Searcher]

namespace Evaluator

variable {v w : Evaluator} {m : Moment} {moments : Nat → Moment} {block expression : String} {context : Context}
  {error : EvaluationError}

/-- How an evaluator that has no answer to an expression can fail to find one. -/
inductive Fails (context : Context) (block expression : String) (v : Evaluator) :
    EvaluationError → Prop
  | broken {name : String}
      (h : Expression.BreaksDown (v.effective context block).facts expression name) :
      Fails context block expression v (.breakdown name)
  | unfiled {error : NumberError} (hkept : (v.lifetimes block).isSome = true)
      (htopic : Expression.topicOf expression = .error error) :
      Fails context block expression v (.number error)

lemma fails_iff :
    v.Fails context block expression error ↔
      (∃ name, error = .breakdown name ∧
        Expression.BreaksDown (v.effective context block).facts expression name) ∨
      ∃ number, error = .number number ∧ (v.lifetimes block).isSome = true ∧
        Expression.topicOf expression = .error number := by
  constructor
  · rintro (hbreaks | ⟨hkept, htopic⟩)
    · exact .inl ⟨_, rfl, hbreaks⟩
    · exact .inr ⟨_, rfl, hkept, htopic⟩
  · rintro (⟨name, rfl, hbreaks⟩ | ⟨number, rfl, hkept, htopic⟩)
    · exact .broken hbreaks
    · exact .unfiled hkept htopic

/-- Where no search breaks down and, if answers are kept, there is a topic, an evaluator does not fail. -/
lemma not_fails
    (hbreaks : ∀ name, ¬ Expression.BreaksDown (v.effective context block).facts expression name)
    (htopic : (v.lifetimes block).isSome = true → ∃ topic, Expression.topicOf expression = .ok topic) :
    ∀ error, ¬ v.Fails context block expression error := by
  rintro error (h | ⟨hkept, herror⟩)
  · exact hbreaks _ h
  · obtain ⟨topic, hok⟩ := htopic hkept
    simp [hok] at herror

/-! ### Single answers -/

lemma not_breaksDown_of_topic {error : NumberError}
    (h : Expression.topicOf expression = .error error) (facts : Entries Value) (name : String) :
    ¬ Expression.BreaksDown facts expression name := by
  rintro ⟨e, _, _, _, hread, -⟩
  simp [Expression.topicOf, hread, Except.map] at h

lemma found_eq_error_iff :
    v.found context block expression = .error error ↔ v.Fails context block expression error := by
  have hdecided := @Expression.decide_eq_error_iff _ (v.effective context block).facts expression
  rw [found, decided]
  constructor
  · intro h
    cases hr : Expression.decide (v.effective context block).facts expression with
    | error e =>
      obtain ⟨name, rfl, hbreaks⟩ := hdecided.mp hr
      obtain rfl : EvaluationError.breakdown name = error := by simpa [hr] using h
      exact .broken hbreaks
    | ok r =>
      rw [hr] at h
      cases hstored : v.storable block expression with
      | ok _ => simp [hstored, Except.map] at h
      | error e =>
        obtain rfl : e = error := by simpa [hstored, Except.map] using h
        obtain ⟨number, rfl, hkept, htopic⟩ := storable_eq_error_iff.mp hstored
        exact .unfiled hkept htopic
  · rintro (hbreaks | ⟨hkept, htopic⟩)
    · rw [hdecided.mpr ⟨_, rfl, hbreaks⟩]
    · cases hr : Expression.decide (v.effective context block).facts expression with
      | error e =>
        obtain ⟨name, -, hbreaks⟩ := hdecided.mp hr
        exact absurd hbreaks (not_breaksDown_of_topic htopic _ name)
      | ok r =>
        rw [storable_eq_error_iff.mpr ⟨_, rfl, hkept, htopic⟩]
        rfl

/-- An expression that has no answer in the cache is answered unless the evaluator fails on it. -/
theorem answer_eq_error_iff :
    (v.evaluate m expression context block).answer = .error error ↔
      v.known m.asked block expression = none ∧ v.Fails context block expression error := by
  rw [answer_evaluate]
  cases v.known m.asked block expression <;> simp [found_eq_error_iff]

lemma exists_answer_evaluate (m : Moment) (h : ∀ error, ¬ v.Fails context block expression error) :
    ∃ value, (v.evaluate m expression context block).answer = .ok value := by
  cases hanswer : (v.evaluate m expression context block).answer with
  | ok value => exact ⟨value, rfl⟩
  | error e => exact absurd (answer_eq_error_iff.mp hanswer).2 (h e)

/-- Unless the evaluator fails, an expression with something wrong about it is false. -/
theorem answer_of_defective (h : ∀ error, ¬ v.Fails context block expression error)
    (hknown : v.known m.asked block expression = none)
    (hdefect : Expression.Defective (v.effective context block).facts expression) :
    (v.evaluate m expression context block).answer = .ok false := by
  obtain ⟨log, hlog⟩ := Expression.decide_of_defective hdefect
  obtain ⟨value, hvalue⟩ := exists_answer_evaluate m h
  rw [hvalue]
  rw [answer_evaluate, hknown] at hvalue
  have hdecided := decided_of_found hvalue
  rw [decided, hlog] at hdecided
  exact hdecided.symm

/-! ### What fails does not change -/

lemma Alike.fails (h : Alike block v w) (hfails : w.Fails context block expression error) :
    v.Fails context block expression error := by
  have heffective : w.effective context block = v.effective context block := by
    rw [effective_eq, effective_eq, h.overlay]
  cases hfails with
  | broken hbreaks => exact .broken (heffective ▸ hbreaks)
  | unfiled hkept htopic => exact .unfiled (h.lifetimes ▸ hkept) htopic

lemma alike_evaluate (m : Moment) (expression : String) (context : Context) (block : String)
    (v : Evaluator) : Alike block v (v.evaluate m expression context block).state where
  overlay := by rw [overlay, overlays_evaluate, overlay]
  lifetimes := by
    cases hc : v.cacheFor block with
    | none =>
      rw [evaluate_of_cacheFor_none hc]
      cases v.decided context block expression <;> rfl
    | some c =>
      obtain ⟨hcache, -⟩ := cacheFor_eq_some_iff.mp hc
      rw [evaluate_of_cacheFor_some hc, lifetimes_of_cache hcache]
      cases v.known m.asked block expression with
      | some value => rw [lifetimes_of_cache rfl, Cache.lifetimes_get]
      | none =>
        cases v.decided context block expression with
        | error e => rw [lifetimes_of_cache rfl, Cache.lifetimes_get]
        | ok r => rw [lifetimes_of_cache rfl, Cache.lifetimes_set, Cache.lifetimes_get]

/-- Whether an evaluator fails on none of the expressions that some conditions ask for. -/
def FailsOnNone (context : Context) (block : String) (v : Evaluator) (conditions : List Condition) :
    Prop :=
  ∀ c ∈ conditions, c.kind ≠ .label → ∀ error, ¬ v.Fails context block c.expression error

lemma FailsOnNone.of_alike {conditions : List Condition}
    (h : v.FailsOnNone context block conditions) (hw : Alike block v w) :
    w.FailsOnNone context block conditions :=
  fun c hc hkind error hfails => h c hc hkind error (hw.fails hfails)

lemma alike_evaluateCondition (m : Moment) (c : Condition) (context : Context) (block : String)
    (v : Evaluator) : Alike block v (v.evaluateCondition m c context block).state := by
  unfold evaluateCondition
  cases c.kind with
  | label => exact .refl block v
  | whenTrue => exact alike_evaluate m c.expression context block v
  | whenFalse => exact alike_evaluate m c.expression context block v

lemma exists_answer_evaluateCondition (m : Moment) {c : Condition}
    (h : c.kind ≠ .label → ∀ error, ¬ v.Fails context block c.expression error) :
    ∃ pass, (v.evaluateCondition m c context block).answer = .ok pass := by
  unfold evaluateCondition
  cases hkind : c.kind with
  | label => exact ⟨true, rfl⟩
  | whenTrue => exact exists_answer_evaluate m (h (by simp [hkind]))
  | whenFalse =>
    obtain ⟨value, hvalue⟩ := exists_answer_evaluate m (h (by simp [hkind]))
    exact ⟨!value, by simp only [hvalue, Except.map]⟩

lemma alike_evaluateAll (moments : Nat → Moment) (context : Context) (block : String)
    (conditions : List Condition) (v : Evaluator) :
    Alike block v (v.evaluateAll context block moments conditions).state := by
  induction conditions generalizing v moments with
  | nil => exact .refl block v
  | cons c cs ih =>
    have hfirst := alike_evaluateCondition (moments 0) c context block v
    rw [evaluateAll]
    split
    · exact hfirst.trans (ih _ _)
    · exact hfirst

lemma exists_answer_evaluateAll (moments : Nat → Moment) {conditions : List Condition}
    (h : v.FailsOnNone context block conditions) :
    ∃ pass, (v.evaluateAll context block moments conditions).answer = .ok pass := by
  induction conditions generalizing v moments with
  | nil => exact ⟨true, rfl⟩
  | cons c cs ih =>
    obtain ⟨pass, hpass⟩ := exists_answer_evaluateCondition (moments 0) (h c List.mem_cons_self)
    rw [evaluateAll]
    cases pass with
    | false => exact ⟨false, by simp only [hpass]⟩
    | true =>
      have hrest := FailsOnNone.of_alike (fun d hd => h d (List.mem_cons_of_mem c hd))
        (alike_evaluateCondition (moments 0) c context block v)
      obtain ⟨passes, hpasses⟩ := ih (fun k => moments (k + 1)) hrest
      exact ⟨passes, by simp only [hpass, hpasses]⟩

end Evaluator

namespace Execution

variable {handlers : Handlers} {context : Context} {block : String} {timing : Timing}
  {moments : Nat → Moment} {is : List Instruction} {i : Instruction} {v : Evaluator}

/-! ### Whole runs -/

lemma exists_answer_runOne (handlers : Handlers) (moments : Nat → Moment)
    (h : v.FailsOnNone context block i.conditions) :
    (∃ fate, (runOne handlers context block moments i v).answer = .ok fate) ∨
      ∃ name, (handlers.find i.bucket i context).reply.Escapes name ∧
        (runOne handlers context block moments i v).answer = .error (.handler name) := by
  obtain ⟨pass, hpass⟩ := Evaluator.exists_answer_evaluateAll moments h
  unfold runOne
  cases pass with
  | false => exact .inl ⟨.skipped, by simp only [hpass]⟩
  | true =>
    cases hdone : carryOut handlers context i with
    | ok done => exact .inl ⟨done.value, by simp only [hpass]⟩
    | error name =>
      exact .inr ⟨name, carryOut_eq_error_iff.mp hdone, by simp only [hpass]⟩

lemma exists_answer_runFrom (handlers : Handlers) (timing : Timing) (n : Nat)
    (h : ∀ i ∈ is, v.FailsOnNone context block i.conditions) :
    (∃ results, (runFrom handlers context block timing n is v).answer = .ok results ∧
        results.map (·.1) = is.map (·.id)) ∨
      ∃ i ∈ is, ∃ name, (handlers.find i.bucket i context).reply.Escapes name ∧
        (runFrom handlers context block timing n is v).answer = .error (.handler name) := by
  induction is generalizing n v with
  | nil => exact .inl ⟨[], rfl, rfl⟩
  | cons i is ih =>
    rcases exists_answer_runOne handlers (timing.gates n) (h i List.mem_cons_self) with
      ⟨fate, hfate⟩ | ⟨name, hescapes, hanswer⟩
    · have halike : v.Alike block (runOne handlers context block (timing.gates n) i v).state := by
        rw [state_runOne]
        exact Evaluator.alike_evaluateAll _ context block i.conditions v
      rw [(runFrom_cons_of_ok hfate).2]
      rcases ih (n + 1) fun j hj => (h j (List.mem_cons_of_mem i hj)).of_alike halike with
        ⟨results, hresults, hids⟩ | ⟨j, hj, name, hescapes, hanswer⟩
      · exact .inl ⟨(i.id, fate) :: results, by rw [hresults]; rfl, by simp [hids]⟩
      · exact .inr ⟨j, List.mem_cons_of_mem i hj, name, hescapes, by rw [hanswer]; rfl⟩
    · exact .inr ⟨i, List.mem_cons_self, name, hescapes, (runFrom_cons_of_error hanswer).2⟩

/-- A run on whose gates the evaluator does not fail gives every instruction a fate, unless something gets
out of a handler. -/
theorem exists_answer_run (h : ∀ i ∈ is, v.FailsOnNone context block i.conditions) :
    (∃ e, (run handlers context block timing is v).answer = .ok e ∧
        e.results.map (·.1) = is.map (·.id)) ∨
      ∃ i ∈ is, ∃ name, (handlers.find i.bucket i context).reply.Escapes name ∧
        (run handlers context block timing is v).answer = .error (.handler name) := by
  rcases exists_answer_runFrom handlers timing 0 h with
    ⟨results, hresults, hids⟩ | ⟨i, hi, name, hescapes, hanswer⟩
  · exact .inl ⟨⟨results⟩, by simp only [run, hresults], hids⟩
  · exact .inr ⟨i, hi, name, hescapes, by simp only [run, hanswer]⟩

/-- An evaluator fails on two kinds of expressions only, any other that is defective is false, and a run
whose gates are of neither kind gives every instruction a fate; only what gets out of a handler can keep it
from that. -/
theorem totality (m : Moment) (context : Context) (block : String) (v : Evaluator) :
    (∀ expression error, (v.evaluate m expression context block).answer = .error error ↔
        v.known m.asked block expression = none ∧
          ((∃ name, error = .breakdown name ∧
              Expression.BreaksDown (v.effective context block).facts expression name) ∨
            ∃ number, error = .number number ∧ (v.lifetimes block).isSome = true ∧
              Expression.topicOf expression = .error number)) ∧
      (∀ expression, v.known m.asked block expression = none →
        Expression.Defective (v.effective context block).facts expression →
        ((v.lifetimes block).isSome = true → ∃ topic, Expression.topicOf expression = .ok topic) →
        (v.evaluate m expression context block).answer = .ok false) ∧
      ∀ handlers timing is,
        (∀ i ∈ is, ∀ c ∈ i.conditions, c.kind ≠ .label →
          (∀ name, ¬ Expression.BreaksDown (v.effective context block).facts c.expression name) ∧
            ((v.lifetimes block).isSome = true →
              ∃ topic, Expression.topicOf c.expression = .ok topic)) →
        (∃ e, (run handlers context block timing is v).answer = .ok e ∧
            e.results.map (·.1) = is.map (·.id)) ∨
          ∃ i ∈ is, ∃ name, (handlers.find i.bucket i context).reply.Escapes name ∧
            (run handlers context block timing is v).answer = .error (.handler name) := by
  refine ⟨fun expression error => ?_, fun expression hknown hdefect htopic => ?_,
    fun handlers timing is h => ?_⟩
  · rw [Evaluator.answer_eq_error_iff, Evaluator.fails_iff]
  · refine Evaluator.answer_of_defective (Evaluator.not_fails ?_ htopic) hknown hdefect
    -- what is defective is decided, so no search in it breaks down
    obtain ⟨log, hlog⟩ := Expression.decide_of_defective hdefect
    intro name hbreaks
    simp [Expression.decide_eq_error_iff.mpr ⟨name, rfl, hbreaks⟩] at hlog
  · exact exists_answer_run fun i hi c hc hkind =>
      Evaluator.not_fails (h i hi c hc hkind).1 (h i hi c hc hkind).2

end Execution

end

namespace Execution

open scoped Pattern

/-- A pattern that is none is false, and the instruction behind it is skipped. -/
theorem totality_unclosed_group :
    let v := Evaluator.start (some (.start .default (.ofInt 0)))
    let i : Instruction := {
      id := "menu-set-2", bucket := .visual, subject := none,
      target := ⟨"text", some "text", none, none, .content⟩, effect := none, outcome := none,
      conditions := [⟨.whenTrue, "hour ~ (", 1⟩], origin := none, children := [] }
    (v.evaluate (.at (.ofInt 1)) "hour ~ (" .default "menu").answer = .ok false ∧
      ∃ e, (run .default .default "menu" ⟨fun _ _ => .at (.ofInt 1), "0.00"⟩ [i] v).answer = .ok e ∧
        e.results.map (·.1) = ["menu-set-2"] := by
  intro v i
  obtain ⟨-, hfalse, hrun⟩ := totality (.at (.ofInt 1)) .default "menu" v
  have htopic : Expression.topicOf "hour ~ (" = .ok .time := by decide +kernel
  have hread : Expression.read "hour ~ (" = .ok ⟨"hour", .search "(" "("⟩ := by decide +kernel
  have hvalue : Expression.value? ⟨"hour", .search "(" "("⟩ (v.effective .default "menu").facts =
      some (.scalar (.int 0)) := by rfl
  have hpattern : Searcher.search "(" (Value.scalar (.int 0)).named =
      .error (.invalid "malformed pattern") := by decide +kernel
  have hgate : ∀ name,
      ¬ Expression.BreaksDown (v.effective .default "menu").facts "hour ~ (" name := by
    rintro name ⟨e, pattern, spelling, w, he, hquestion, hw, hbroken⟩
    obtain rfl := Except.ok.inj (hread.symm.trans he)
    obtain ⟨rfl, -⟩ := Question.search.inj hquestion
    obtain rfl := Option.some.inj (hvalue.symm.trans hw)
    rw [hpattern] at hbroken
    simp at hbroken
  refine ⟨hfalse "hour ~ (" (by decide +kernel) (.pattern hread rfl hvalue hpattern)
    fun _ => ⟨_, htopic⟩, ?_⟩
  have hgates : ∀ j ∈ [i], ∀ c ∈ j.conditions, c.kind ≠ .label →
      (∀ name,
        ¬ Expression.BreaksDown (v.effective .default "menu").facts c.expression name) ∧
        ((v.lifetimes "menu").isSome = true →
          ∃ topic, Expression.topicOf c.expression = .ok topic) := by
    rintro j hj c hc -
    obtain rfl := List.mem_singleton.mp hj
    obtain rfl := List.mem_singleton.mp hc
    exact ⟨hgate, fun _ => ⟨_, htopic⟩⟩
  rcases hrun .default ⟨fun _ _ => .at (.ofInt 1), "0.00"⟩ [i] hgates with
    hdone | ⟨j, hj, name, hescapes, -⟩
  · exact hdone
  · obtain rfl := List.mem_singleton.mp hj
    cases hescapes

/-- A pattern with too many repetitions has no answer, and a run ends there. -/
theorem evaluate_uncounted_repetitions :
    let expression := "hour ~ a\x7b99999999999\x7d"
    let i (id : String) (conditions : List Condition) : Instruction := {
      id := id, bucket := .visual, subject := none,
      target := ⟨"text", some "text", none, none, .content⟩, effect := none, outcome := none,
      conditions := conditions, origin := none, children := [] }
    let broken : EvaluationError := .breakdown "the repetition number is too large"
    ((Evaluator.start none).evaluate (.at (.ofInt 1)) expression .default "menu").answer =
        .error broken ∧
      (run .default .default "menu" ⟨fun _ _ => .at (.ofInt 1), "0.00"⟩
        [i "menu-set-2" [⟨.whenTrue, expression, 1⟩], i "menu-set-3" []] (.start none)).answer.map
          (·.results) = .error (.gate broken) := by
  decide +kernel

end Execution

end BlockScript
