import BlockScript.Proofs.Evaluator.Calls
import Mathlib.Data.List.Induction

/-!
# Staleness of answers

An evaluator with a cache may answer for a context that has gone, but only for so long as the answers
on the topic stay good, and never for interactions that have gone. If the context of a block does not
change, the cache does not show (`Evaluator.evaluate_afterAll`), but for expressions without a topic:
these cannot be stored, and the evaluation fails where one without a cache gives an answer
(`Evaluator.evaluate_afterAll_of_error`).
-/

namespace BlockScript.Evaluator

/-! ### Evaluations -/

/-- Whether an expression has been evaluated for a block at a moment, and the block has not been
forgotten since. -/
def EvaluatedAt (m : Moment) (expression : String) (context : Context) (block : String)
    (calls : List Call) : Prop :=
  ∃ earlier since, calls = earlier ++ .evaluate m expression context block :: since ∧
    .forget block ∉ since

lemma EvaluatedAt.concat {m : Moment} {expression block : String} {context : Context}
    {calls : List Call} {call : Call} (h : EvaluatedAt m expression context block calls)
    (hcall : call ≠ .forget block) : EvaluatedAt m expression context block (calls ++ [call]) := by
  obtain ⟨earlier, since, rfl, hsince⟩ := h
  refine ⟨earlier, since ++ [call], by simp, fun hmem => ?_⟩
  rcases List.mem_append.mp hmem with hmem | hmem
  · exact hsince hmem
  · exact hcall (List.mem_singleton.mp hmem).symm

section

variable [Searcher] {v w : Evaluator} {call : Call} {calls : List Call} {l : Lifetimes} {m p : Moment}
  {created later : Double} {block expression : String} {context : Context}

/-! ### Evaluators without a cache -/

/-- Where no answers are kept, each is decided anew. -/
lemma answer_of_lifetimes_none (h : v.lifetimes block = none) :
    (v.evaluate m expression context block).answer =
      (v.decided context block expression).map (·.value) := by
  have hcache : v.cacheFor block = none := Option.map_eq_none_iff.mp h
  rw [evaluate_of_cacheFor_none hcache]
  cases v.decided context block expression <;> rfl

lemma WellFormed.afterAll (h : v.WellFormed) (calls : List Call) :
    (v.afterAll calls).WellFormed ∧
      ∀ block, (v.afterAll calls).lifetimes block = v.lifetimes block := by
  induction calls generalizing v with
  | nil => exact ⟨h, fun _ => rfl⟩
  | cons call calls ih =>
    obtain ⟨hwf, hlifetimes⟩ := h.after call
    obtain ⟨hwf', hlifetimes'⟩ := ih hwf
    exact ⟨hwf', fun block => (hlifetimes' block).trans (hlifetimes block)⟩

lemma overlay_afterAll_congr (h : v.overlay block = w.overlay block) (calls : List Call) :
    (v.afterAll calls).overlay block = (w.afterAll calls).overlay block := by
  induction calls generalizing v w with
  | nil => exact h
  | cons call calls ih => exact ih (overlay_after_congr h call)

/-- What an evaluator without a cache answers after some calls. -/
lemma answer_without_cache (calls : List Call) (m : Moment) (expression : String)
    (context : Context) (block : String) (cache : Option Cache) :
    (((start none).afterAll calls).evaluate m expression context block).answer =
      (((start cache).afterAll calls).decided context block expression).map (·.value) := by
  have hwf : (start none).WellFormed := by simp [WellFormed, start]
  have hnone : ((start none).afterAll calls).lifetimes block = none := by
    rw [(hwf.afterAll calls).2]
    simp [lifetimes, cacheFor, start]
  have hstart : (start none).overlay block = (start cache).overlay block := rfl
  rw [answer_of_lifetimes_none hnone,
    decided_congr (overlay_afterAll_congr hstart calls) context expression]

/-! ### Where answers come from -/

/-- An answer that is there after a call has either been there before, and would be found as well as
before, or has just been found. -/
lemma known_after_cases (h : v.WellFormed) (hlater : ∀ t ∈ call.readings, later.ge t = true)
    {value : Bool} (hvalue : (v.after call).known later block expression = some value) :
    v.known later block expression = some value ∧ call ≠ .forget block ∧
        (∀ context, (v.after call).decided context block expression =
          v.decided context block expression) ∨
      ∃ m context, call = .evaluate m expression context block ∧
        v.kept? m.stored later expression context block = some value ∧
        (v.after call).decided context block expression = v.decided context block expression := by
  by_cases hblock : block = call.block
  · cases call with
    | evaluate m asked context other =>
      obtain rfl : block = other := hblock
      have hge : ∀ t ∈ m.readings, later.ge t = true := hlater
      have hdecided : ∀ seen, (v.after (.evaluate m asked context block)).decided seen block
          expression = v.decided seen block expression :=
        fun seen => decided_congr (overlay_after _ v) seen expression
      by_cases hkey : expression = asked
      · subst hkey
        rw [after, known_evaluate_self h hge] at hvalue
        split at hvalue
        · exact .inr ⟨m, context, rfl, hvalue, hdecided context⟩
        · exact .inl ⟨hvalue, by simp, hdecided⟩
      · rw [after, known_evaluate_of_ne h hge fun heq => hkey (congrArg Prod.snd heq)] at hvalue
        exact .inl ⟨hvalue, by simp, hdecided⟩
    | update other flags =>
      obtain rfl : block = other := hblock
      rw [known_after_update h, Option.ite_none_left_eq_some] at hvalue
      obtain ⟨hkept, hvalue⟩ := hvalue
      refine .inl ⟨hvalue, by simp, fun context => ?_⟩
      cases ho : recorded flags (v.overlay block) with
      | error e =>
        refine decided_congr ((overlay_after (.update block flags) v).trans ?_) context expression
        simp only [Call.overlay, Call.block, ho]
      | ok o =>
        -- the answer has been kept, so the expression is not about what has been set
        obtain ⟨topic, htopic⟩ := exists_topic_of_known h hvalue
        refine decided_of_topic htopic (fun heq => hkept ⟨?_, rfl, heq ▸ htopic⟩) context block _ v
        rw [ho]
        rfl
    | forget other =>
      obtain rfl : block = other := hblock
      rw [after, known_forget h, if_pos rfl] at hvalue
      exact absurd hvalue (by simp)
  · rw [known_after_of_ne h hblock hlater] at hvalue
    refine .inl ⟨hvalue, ?_, fun context => ?_⟩
    · rintro rfl
      exact hblock rfl
    · exact decided_congr (overlay_after_of_ne hblock) context expression

/-- An answer in the cache has been found by an evaluation that is not too long ago, and would be found
in the context of that still. -/
lemma known_afterAll (hlater : ∀ t ∈ readings calls, later.ge t = true) {value : Bool}
    (h : ((start (some (.start l created))).afterAll calls).known later block expression =
      some value) :
    ∃ context p topic r, EvaluatedAt p expression context block calls ∧
      Expression.topicOf expression = .ok topic ∧ later.ge (p.stored + l.of topic) = false ∧
      ((start (some (.start l created))).afterAll calls).decided context block expression = .ok r ∧
      r.value = value := by
  induction calls using List.reverseRecOn with
  | nil =>
    rw [known_eq] at h
    obtain ⟨c, hc, hanswer⟩ := Option.bind_eq_some_iff.mp h
    obtain ⟨hcache, -⟩ := cacheFor_eq_some_iff.mp hc
    obtain rfl : Cache.start l created = c := Option.some.inj hcache
    simp [Cache.answer?, Cache.get, Cache.start] at hanswer
  | append_singleton calls call ih =>
    have hwf := (wellFormed_start l created).afterAll calls
    rw [readings, List.flatMap_append, List.forall_mem_append, List.flatMap_singleton] at hlater
    obtain ⟨hcalls, hcall⟩ := hlater
    rw [afterAll_concat] at h ⊢
    rcases known_after_cases hwf.1 hcall h with
      ⟨hvalue, hforget, hdecided⟩ | ⟨p, context, rfl, hkept, hdecided⟩
    · obtain ⟨context, p, topic, r, hat, htopic, hgood, hr, hvalue⟩ := ih hcalls hvalue
      exact ⟨context, p, topic, r, hat.concat hforget, htopic, hgood,
        (hdecided context).trans hr, hvalue⟩
    · obtain ⟨l', r, topic, hl, hr, htopic, hgood, hvalue⟩ := kept?_eq_some_iff.mp hkept
      rw [hwf.2 block, lifetimes_of_cache rfl, Option.ite_none_left_eq_some] at hl
      obtain rfl : l = l' := Option.some.inj hl.2
      exact ⟨context, p, topic, r, ⟨calls, [], rfl, List.not_mem_nil⟩, htopic, hgood,
        hdecided.trans hr, hvalue⟩

/-! ### Answers during a run -/

/-- What an evaluator with a cache answers is what one without a cache answers in the same context, or in
one that was given for the block so short a time ago that the answer to the expression is still good. If
the context has not changed since, both give the same answer or fail in the same way. -/
theorem evaluate_afterAll (hclock : ∀ t ∈ created :: readings calls, m.asked.ge t = true)
    (expression : String) (context : Context) (block : String) :
    let cached := (start (some (.start l created))).afterAll calls
    let bare := (start none).afterAll calls
    (∀ value, (cached.evaluate m expression context block).answer = .ok value →
      ∃ seen, (bare.evaluate m expression seen block).answer = .ok value ∧
        (seen = context ∨ ∃ p topic, EvaluatedAt p expression seen block calls ∧
          Expression.topicOf expression = .ok topic ∧
          (m.asked.lt (p.stored + l.of topic) = true ∨ (p.stored + l.of topic).isNaN = true))) ∧
      (∀ topic, Expression.topicOf expression = .ok topic →
        (∀ p seen, EvaluatedAt p expression seen block calls → seen = context) →
        (cached.evaluate m expression context block).answer =
          (bare.evaluate m expression context block).answer) := by
  intro cached bare
  have hbare : ∀ seen, (bare.evaluate m expression seen block).answer =
      (cached.decided seen block expression).map (·.value) :=
    fun seen => answer_without_cache calls m expression seen block _
  obtain ⟨hcreated, hreadings⟩ := List.forall_mem_cons.mp hclock
  rw [answer_evaluate]
  cases hknown : cached.known m.asked block expression with
  | some value =>
    -- the answer is in the cache, so that an earlier evaluation has found it
    obtain ⟨seen, p, topic, r, hat, htopic, hgood, hr, rfl⟩ := known_afterAll hreadings hknown
    have hseen : (bare.evaluate m expression seen block).answer = .ok r.value := by
      rw [hbare, hr]
      rfl
    constructor
    · rintro value ⟨rfl⟩
      have hnow := Double.ge_self_of_ge_left hcreated
      exact ⟨seen, hseen, .inr ⟨p, topic, hat, htopic, Double.lt_or_isNaN hnow hgood⟩⟩
    · intro _ _ hsame
      rw [← hsame p seen hat, hseen]
  | none =>
    constructor
    · intro value hvalue
      refine ⟨context, ?_, .inl rfl⟩
      rw [hbare]
      exact decided_of_found hvalue
    · intro topic htopic _
      rw [hbare]
      exact found_of_topic htopic

end

section

open scoped Pattern

/-- The answer that was found in the light is given in the dark for a minute. -/
theorem evaluate_afterAll_dark :
    let dark := { Context.default with theme := "dark" }
    let calls : List Call :=
      [.evaluate (.at (.ofInt 7)) "theme.light" .default "menu", .update "menu" [("hover", true)]]
    let cached := (start (some (.start .default (.ofInt 0)))).afterAll calls
    let bare := (start none).afterAll calls
    (∀ t ∈ .ofInt 0 :: readings calls, (Double.ofInt 9).ge t = true) ∧
      (bare.evaluate (.at (.ofInt 9)) "theme.light" dark "menu").answer = .ok false ∧
      (cached.evaluate (.at (.ofInt 9)) "theme.light" dark "menu").answer = .ok true ∧
      ∃ seen, (bare.evaluate (.at (.ofInt 9)) "theme.light" seen "menu").answer = .ok true ∧
        (seen = dark ∨ ∃ p topic, EvaluatedAt p "theme.light" seen "menu" calls ∧
          Expression.topicOf "theme.light" = .ok topic ∧
          ((Double.ofInt 9).lt (p.stored + Lifetimes.default.of topic) = true ∨
            (p.stored + Lifetimes.default.of topic).isNaN = true)) := by
  intro dark calls cached bare
  have hclock : ∀ t ∈ .ofInt 0 :: readings calls, (Double.ofInt 9).ge t = true := by decide +kernel
  have hanswer : (cached.evaluate (.at (.ofInt 9)) "theme.light" dark "menu").answer = .ok true := by
    decide +kernel
  have hbare : (bare.evaluate (.at (.ofInt 9)) "theme.light" dark "menu").answer = .ok false := by
    decide +kernel
  exact ⟨hclock, hbare, hanswer,
    (evaluate_afterAll hclock "theme.light" dark "menu").1 true hanswer⟩

end

section

variable [Searcher] {calls : List Call} {l : Lifetimes} {m : Moment} {created : Double}
  {expression block : String}

lemma exists_decided_of_error {error : NumberError}
    (herror : Expression.topicOf expression = .error error) (context : Context) (block : String)
    (v : Evaluator) : ∃ log, v.decided context block expression = .ok ⟨false, log⟩ := by
  unfold Expression.topicOf at herror
  cases hread : Expression.read expression with
  | error e => exact ⟨_, by rw [decided, Expression.decide, hread]; rfl⟩
  | ok e => simp [hread, Except.map] at herror

/-- An expression without a topic is never answered for a block if there is a cache, though it counts as
false if there is none. -/
theorem evaluate_afterAll_of_error (hclock : ∀ t ∈ readings calls, m.asked.ge t = true)
    {error : NumberError} (herror : Expression.topicOf expression = .error error)
    (context : Context) (hblock : block ≠ "") :
    (((start (some (.start l created))).afterAll calls).evaluate m expression context
        block).answer = .error (.number error) ∧
      (((start none).afterAll calls).evaluate m expression context block).answer = .ok false := by
  have hstart : (start (some (.start l created))).lifetimes block = some l := by
    rw [lifetimes_of_cache rfl, if_neg hblock]
    rfl
  have hlifetimes := (((wellFormed_start l created).afterAll calls).2 block).trans hstart
  obtain ⟨log, hdecided⟩ := exists_decided_of_error herror context block
    ((start (some (.start l created))).afterAll calls)
  rw [answer_without_cache calls m expression context block (some (.start l created)), hdecided,
    answer_evaluate, found, hdecided]
  refine ⟨?_, rfl⟩
  cases hknown : ((start (some (.start l created))).afterAll calls).known m.asked block
    expression with
  | some value =>
    obtain ⟨_, _, topic, _, _, htopic, _⟩ := known_afterAll hclock hknown
    simp [herror] at htopic
  | none => simp [storable, hlifetimes, herror, Except.map, Except.mapError]

end

section

open scoped Pattern

/-- A number of too many digits makes the difference. -/
theorem evaluate_long_number :
    let expression := "hour > " ++ String.ofList (List.replicate 4301 '9')
    ((start (some (.start .default (.ofInt 0)))).evaluate (.at (.ofInt 1)) expression .default
        "menu").answer = .error (.number (.tooManyDigits 4301)) ∧
      ((start none).evaluate (.at (.ofInt 1)) expression .default "menu").answer = .ok false := by
  intro expression
  have herror : Expression.topicOf expression = .error (.tooManyDigits 4301) :=
    Expression.topicOf_long (by decide)
  have hclock : ∀ t ∈ readings [], (Double.ofInt 1).ge t = true := by simp [readings]
  exact evaluate_afterAll_of_error (m := .at (.ofInt 1)) hclock herror .default (by decide)

end

end BlockScript.Evaluator
