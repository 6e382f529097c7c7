import BlockScript.Proofs.Evaluator.Answers

/-!
# Calls of an evaluator

A host asks an evaluator for answers, tells it about interactions, and makes it forget blocks, in any
order. One call leaves what concerns the other blocks as it is (`Evaluator.overlay_after_of_ne`,
`Evaluator.known_after_of_ne`).
-/

namespace BlockScript.Evaluator

/-- A call that a host makes. Only evaluations read the clock. -/
inductive Call
  | evaluate (m : Moment) (expression : String) (context : Context) (block : String)
  | update (block : String) (flags : Entries Bool)
  | forget (block : String)

namespace Call

/-- The block that a call is made for. -/
def block : Call → String
  | evaluate _ _ _ block => block
  | update block _ => block
  | forget block => block

/-- The readings of the clock during a call. -/
def readings : Call → List Double
  | evaluate m _ _ _ => m.readings
  | update _ _ => []
  | forget _ => []

end Call

/-- The readings of the clock during some calls. -/
def readings (calls : List Call) : List Double :=
  calls.flatMap (·.readings)

variable {v : Evaluator} {call : Call} {calls : List Call} {now later : Double} {block : String}

/-! ### Readings -/

lemma readings_cons (call : Call) (calls : List Call) :
    readings (call :: calls) = call.readings ++ readings calls :=
  List.flatMap_cons

lemma Forward.tail (h : Forward (readings (call :: calls))) : Forward (readings calls) := by
  rw [readings_cons] at h
  exact (List.pairwise_append.mp h).2.1

/-- The readings after a call are not earlier than those during it. -/
lemma Forward.ge_of_mem (h : Forward (readings (call :: calls))) (hlater : later ∈ readings calls) :
    ∀ now ∈ call.readings, later.ge now = true := by
  rw [readings_cons] at h
  exact fun now hnow => (List.pairwise_append.mp h).2.2 now hnow later hlater

/-! ### Runs -/

variable [Searcher]

/-- The evaluator after a call. A call about interactions that do not exist changes nothing. -/
def after (v : Evaluator) : Call → Evaluator
  | .evaluate m expression context block => (v.evaluate m expression context block).state
  | .update block flags =>
    match v.update block flags with
    | .ok w => w
    | .error _ => v
  | .forget block => v.forget block

/-- The evaluator after some calls. -/
def afterAll (v : Evaluator) (calls : List Call) : Evaluator :=
  calls.foldl after v

lemma afterAll_concat (v : Evaluator) (calls : List Call) (call : Call) :
    v.afterAll (calls ++ [call]) = (v.afterAll calls).after call := by
  rw [afterAll, List.foldl_append]
  rfl

/-! ### Single calls -/

lemma WellFormed.after (h : v.WellFormed) (call : Call) :
    (v.after call).WellFormed ∧ ∀ block, (v.after call).lifetimes block = v.lifetimes block := by
  cases call with
  | evaluate m expression context block => exact h.evaluate m expression context block
  | update block flags =>
    rw [Evaluator.after]
    split
    next w hw => exact h.update hw
    next => exact ⟨h, fun _ => rfl⟩
  | forget block => exact h.forget block

/-- What is known about the interactions at a block after a call for it depends on what was known
there before. -/
def Call.overlay (o : Overlay) : Call → Overlay
  | .evaluate _ _ _ _ => o
  | .update _ flags =>
    match recorded flags o with
    | .ok o => o
    | .error _ => o
  | .forget _ => .none

lemma overlay_after (call : Call) (v : Evaluator) :
    (v.after call).overlay call.block = call.overlay (v.overlay call.block) := by
  cases call with
  | evaluate m expression context block =>
    rw [after, overlay, overlays_evaluate]
    rfl
  | update block flags =>
    rw [after, Call.overlay, Call.block, update_eq]
    cases recorded flags (v.overlay block) with
    | error e => rfl
    | ok o => simp [Except.map, overlay]
  | forget block =>
    rw [after, Call.block, overlay_forget, if_pos rfl]
    rfl

lemma overlay_after_of_ne (hne : block ≠ call.block) :
    (v.after call).overlay block = v.overlay block := by
  cases call with
  | evaluate m expression context other =>
    rw [after, overlay, overlays_evaluate]
    rfl
  | update other flags =>
    rw [after]
    split
    next w hw => exact overlay_of_update hw hne
    next => rfl
  | forget other =>
    rw [after, overlay_forget]
    exact if_neg hne

/-- Interactions that are set drop the answers about interactions, those that do not exist none. -/
lemma known_after_update (h : v.WellFormed) (now : Double) (changed : String) (flags : Entries Bool)
    (block expression : String) :
    (v.after (.update changed flags)).known now block expression =
      if (recorded flags (v.overlay changed)).isOk = true ∧ block = changed ∧
        Expression.topicOf expression = .ok .interaction then none
      else v.known now block expression := by
  rw [after]
  cases hw : v.update changed flags with
  | ok w =>
    obtain ⟨o, ho, -⟩ := update_eq_ok_iff.mp hw
    simp [known_of_update h hw, ho, Except.isOk, Except.toBool]
  | error e =>
    rw [update_eq] at hw
    cases ho : recorded flags (v.overlay changed) with
    | ok o => simp [ho, Except.map] at hw
    | error e => simp [Except.isOk, Except.toBool]

lemma known_after_of_ne (h : v.WellFormed) (hne : block ≠ call.block)
    (hlater : ∀ now ∈ call.readings, later.ge now = true) (expression : String) :
    (v.after call).known later block expression = v.known later block expression := by
  cases call with
  | evaluate m asked context other =>
    refine known_evaluate_of_ne h hlater (fun heq => hne ?_) context
    exact congrArg Prod.fst heq
  | update other flags =>
    rw [known_after_update h]
    exact if_neg fun heq => hne heq.2.1
  | forget other =>
    rw [after, known_forget h]
    exact if_neg hne

/-- Calls do the same to what is known about interactions, whatever is in the cache. -/
lemma overlay_after_congr {w : Evaluator} (h : v.overlay block = w.overlay block) (call : Call) :
    (v.after call).overlay block = (w.after call).overlay block := by
  by_cases hblock : block = call.block
  · subst hblock
    rw [overlay_after, overlay_after, h]
  · rw [overlay_after_of_ne hblock, overlay_after_of_ne hblock, h]

/-! ### Replies -/

/-- What an evaluation gives: the block it was made for, the answer, and the messages. -/
structure Answered where
  block : String
  answer : Except EvaluationError Bool
  log : List LogEntry

/-- What a call gives, if it is an evaluation. -/
def answered? (v : Evaluator) : Call → Option Answered
  | .evaluate m expression context block =>
    let r := v.evaluate m expression context block
    some ⟨block, r.answer, r.log⟩
  | .update _ _ => none
  | .forget _ => none

lemma answered?_evaluate (m : Moment) (expression : String) (context : Context) (block : String)
    (v : Evaluator) :
    v.answered? (.evaluate m expression context block) =
      some ⟨block, (v.reply m.asked expression context block).1,
        (v.reply m.asked expression context block).2⟩ := by
  rw [← reply_evaluate]
  rfl

/-- What is given is given for the block of the call. -/
lemma filter_answered? (v : Evaluator) (call : Call) (block : String) :
    (v.answered? call).toList.filter (·.block == block) =
      if call.block = block then (v.answered? call).toList else [] := by
  cases call with
  | evaluate m expression context other =>
    by_cases h : other = block <;> simp [answered?, Call.block, h]
  | update other flags => simp [answered?]
  | forget other => simp [answered?]

/-- What the evaluations among some calls give. -/
def answers : Evaluator → List Call → List Answered
  | _, [] => []
  | v, call :: calls => (v.answered? call).toList ++ answers (v.after call) calls

end BlockScript.Evaluator
