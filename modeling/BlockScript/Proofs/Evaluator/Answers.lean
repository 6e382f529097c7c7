import BlockScript.Proofs.Cache.Answers
import BlockScript.Proofs.Entries
import BlockScript.Proofs.Expression.Topics

/-!
# Answers of an evaluator

What an evaluator answers depends on the answers that its cache has, on what it knows about the
interactions at a block, and on the lifetimes of answers (`Evaluator.reply_evaluate`). Each operation is
described by what it does to these: of the cached answers, for example, an evaluation changes at most
the one to its own block and expression (`Evaluator.known_evaluate_self`,
`Evaluator.known_evaluate_of_ne`).
-/

namespace BlockScript

lemma Topic.name_injective : Function.Injective Topic.name := by
  intro a b
  cases a <;> cases b <;> decide

/-! ### The clock -/

/-- The readings of the clock, in their order. One that is not made counts as if it had been. -/
def Moment.readings (m : Moment) : List Double :=
  [m.asked, m.stored, m.swept]

lemma Moment.asked_mem_readings (m : Moment) : m.asked ∈ m.readings := by
  simp [readings]

lemma Moment.swept_mem_readings (m : Moment) : m.swept ∈ m.readings := by
  simp [readings]

namespace Evaluator

/-- Whether a clock with these readings never goes back. -/
def Forward (times : List Double) : Prop :=
  times.Pairwise fun now later => later.ge now = true

instance (times : List Double) : Decidable (Forward times) :=
  inferInstanceAs (Decidable (times.Pairwise _))

variable {v w : Evaluator} {m : Moment} {now later : Double} {block changed expression : String}
  {context : Context}

/-! ### What can be seen of an evaluator -/

/-- Whether the cache, if there is one, is well-formed. -/
def WellFormed (v : Evaluator) : Prop :=
  ∀ c ∈ v.cache, c.WellFormed

lemma wellFormed_start (lifetimes : Lifetimes) (now : Double) :
    (start (some (.start lifetimes now))).WellFormed := by
  intro c hc
  rw [← Option.some.inj hc]
  exact Cache.wellFormed_start lifetimes now

/-- The cache that is used for a block. -/
def cacheFor (block : String) (v : Evaluator) : Option Cache :=
  if block = "" then none else v.cache

/-- The answer that is in the cache at a time. -/
def known (now : Double) (block expression : String) (v : Evaluator) : Option Bool :=
  (v.lookUp now block expression).2

/-- How long answers stay good, if they are kept for a block. -/
def lifetimes (block : String) (v : Evaluator) : Option Lifetimes :=
  (v.cacheFor block).map (·.lifetimes)

/-- What is known about the interactions at a block. -/
def overlay (block : String) (v : Evaluator) : Overlay :=
  (v.overlays.get? block).getD .none

lemma effective_eq (context : Context) (block : String) (v : Evaluator) :
    v.effective context block = context.override (v.overlay block) := by
  unfold effective overlay
  cases v.overlays.get? block <;> rfl

/-- Whether the answer to an expression can be kept: if there is a cache for it, it must have a topic. -/
def storable (block expression : String) (v : Evaluator) : Except EvaluationError Unit :=
  if (v.lifetimes block).isSome then
    ((Expression.topicOf expression).map fun _ => ()).mapError .number
  else .ok ()

lemma cacheFor_eq_some_iff {c : Cache} :
    v.cacheFor block = some c ↔ v.cache = some c ∧ block ≠ "" := by
  simp [cacheFor, and_comm]

lemma known_eq (now : Double) (block expression : String) (v : Evaluator) :
    v.known now block expression = (v.cacheFor block).bind (·.answer? now block expression) := by
  unfold known lookUp cacheFor
  cases v.cache with
  | none => simp
  | some c =>
    by_cases hblock : block = ""
    · simp [hblock]
    · simp only [if_neg hblock]
      rfl

lemma lifetimes_of_cache {c : Cache} (h : v.cache = some c) (block : String) :
    v.lifetimes block = if block = "" then none else some c.lifetimes := by
  rw [lifetimes, cacheFor, h]
  split <;> rfl

lemma known_of_cache {c : Cache} (h : v.cache = some c) (now : Double) (block expression : String) :
    v.known now block expression =
      if block = "" then none else c.answer? now block expression := by
  rw [known_eq, cacheFor, h]
  split <;> rfl

/-- An answer that is still good was good all the time. -/
lemma known_of_later (h : v.WellFormed) (hlater : later.ge now = true) {value : Bool}
    (hvalue : v.known later block expression = some value) :
    v.known now block expression = some value := by
  rw [known_eq] at hvalue ⊢
  obtain ⟨c, hc, hanswer⟩ := Option.bind_eq_some_iff.mp hvalue
  have hwf := h c (cacheFor_eq_some_iff.mp hc).1
  rw [hc, Option.bind_some]
  exact Cache.answer?_of_later hwf hlater hanswer

lemma known_eq_none_of_later (h : v.WellFormed) (hlater : later.ge now = true)
    (hnow : v.known now block expression = none) : v.known later block expression = none := by
  by_contra hsome
  obtain ⟨value, hvalue⟩ := Option.ne_none_iff_exists'.mp hsome
  rw [known_of_later h hlater hvalue] at hnow
  exact absurd hnow (by simp)

/-- Only expressions that have a topic have answers in the cache. -/
lemma exists_topic_of_known (h : v.WellFormed) {value : Bool}
    (hvalue : v.known now block expression = some value) :
    ∃ topic, Expression.topicOf expression = .ok topic := by
  rw [known_eq] at hvalue
  obtain ⟨c, hc, hanswer⟩ := Option.bind_eq_some_iff.mp hvalue
  have hwf := h c (cacheFor_eq_some_iff.mp hc).1
  obtain ⟨e, he, hkey, -⟩ := (Cache.answer?_eq_some_iff hwf).mp hanswer
  obtain ⟨-, rfl⟩ := Prod.mk.inj hkey
  exact ⟨e.topic, hwf.topics e he⟩

/-! ### Deciding -/

section

variable [Searcher]

/-- What an expression is decided to be, whatever is in the cache. -/
def decided (context : Context) (block expression : String) (v : Evaluator) :
    Except EvaluationError (Logged Bool) :=
  Expression.decide (v.effective context block).facts expression

lemma decided_congr (h : v.overlay block = w.overlay block) (context : Context)
    (expression : String) :
    v.decided context block expression = w.decided context block expression := by
  rw [decided, decided, effective_eq, effective_eq, h]

/-- Expressions on other topics do not see interactions. -/
lemma decided_of_topic {topic : Topic} (htopic : Expression.topicOf expression = .ok topic)
    (hother : topic ≠ .interaction) (context : Context) (block : String) (v w : Evaluator) :
    v.decided context block expression = w.decided context block expression := by
  rw [decided, decided, effective_eq, effective_eq]
  exact Expression.decide_override htopic hother context _ _

/-- The answer to an expression that has none in the cache. -/
def found (context : Context) (block expression : String) (v : Evaluator) :
    Except EvaluationError Bool :=
  match v.decided context block expression with
  | .error e => .error e
  | .ok r => (v.storable block expression).map fun _ => r.value

/-- The answer to an expression, and what is reported on the way. -/
def reply (now : Double) (expression : String) (context : Context) (block : String) (v : Evaluator) :
    Except EvaluationError Bool × List LogEntry :=
  match v.known now block expression with
  | some value => (.ok value, [])
  | none =>
    match v.decided context block expression with
    | .error e => (.error e, [])
    | .ok r => ((v.storable block expression).map fun _ => r.value, r.log)

/-- The answer that is there later if an expression is evaluated now without one. -/
def kept? (now later : Double) (expression : String) (context : Context) (block : String)
    (v : Evaluator) : Option Bool :=
  match v.lifetimes block, v.decided context block expression, Expression.topicOf expression with
  | some l, .ok r, .ok topic => if later.ge (now + l.of topic) then none else some r.value
  | _, _, _ => none

lemma kept?_eq_some_iff {value : Bool} :
    v.kept? now later expression context block = some value ↔
      ∃ l r topic, v.lifetimes block = some l ∧ v.decided context block expression = .ok r ∧
        Expression.topicOf expression = .ok topic ∧
        later.ge (now + l.of topic) = false ∧ r.value = value := by
  unfold kept?
  cases v.lifetimes block <;> cases v.decided context block expression <;>
    cases Expression.topicOf expression <;> simp

/-- What is found is what is decided. -/
lemma decided_of_found {value : Bool} (h : v.found context block expression = .ok value) :
    (v.decided context block expression).map (·.value) = .ok value := by
  unfold found at h
  cases hr : v.decided context block expression with
  | error e => simp [hr] at h
  | ok r =>
    rw [hr] at h
    cases hstorable : v.storable block expression with
    | error e => simp [hstorable, Except.map] at h
    | ok _ => simpa [hstorable, Except.map] using h

/-- An expression with a topic is found as it is decided. -/
lemma found_of_topic {topic : Topic} (htopic : Expression.topicOf expression = .ok topic) :
    v.found context block expression = (v.decided context block expression).map (·.value) := by
  have hstorable : v.storable block expression = .ok () := by
    rw [storable, htopic]
    split <;> rfl
  rw [found, hstorable]
  cases v.decided context block expression <;> rfl

lemma found_of_kept? {value : Bool}
    (h : v.kept? now later expression context block = some value) :
    v.found context block expression = .ok value := by
  obtain ⟨l, r, topic, -, hr, htopic, -, rfl⟩ := kept?_eq_some_iff.mp h
  rw [found_of_topic htopic, hr]
  rfl

/-! ### Evaluating -/

/-- An evaluation without a cache decides the expression. -/
lemma evaluate_of_cacheFor_none (h : v.cacheFor block = none) :
    v.evaluate m expression context block =
      match v.decided context block expression with
      | .error e => ⟨.error e, [], v⟩
      | .ok r => ⟨.ok r.value, r.log, v⟩ := by
  have hlookUp : v.lookUp m.asked block expression = (v, none) := by
    unfold lookUp
    cases hc : v.cache with
    | none => rfl
    | some c => simp_all [cacheFor]
  have hremember : ∀ value,
      v.remember m.stored m.swept block expression value = (v, .ok ()) := by
    intro value
    unfold remember
    cases hc : v.cache with
    | none => rfl
    | some c => simp_all [cacheFor]
  simp only [evaluate, hlookUp, decided]
  cases Expression.decide (v.effective context block).facts expression with
  | error e => rfl
  | ok r => simp only [hremember]; rfl

/-- An evaluation with a cache looks the expression up there, and decides it if there is no answer. -/
lemma evaluate_of_cacheFor_some {c : Cache} (h : v.cacheFor block = some c) :
    let looked := (c.get m.asked block expression).1
    v.evaluate m expression context block =
      match v.known m.asked block expression with
      | some value => ⟨.ok value, [], { v with cache := some looked }⟩
      | none =>
        match v.decided context block expression with
        | .error e => ⟨.error e, [], { v with cache := some looked }⟩
        | .ok r =>
          ⟨(v.storable block expression).map fun _ => r.value, r.log,
            { v with cache := some (looked.set m.stored m.swept block expression r.value).1 }⟩ := by
  intro looked
  obtain ⟨hcache, hblock⟩ := cacheFor_eq_some_iff.mp h
  have hlookUp : v.lookUp m.asked block expression =
      ({ v with cache := some looked }, c.answer? m.asked block expression) := by
    simp only [lookUp, hcache, if_neg hblock]
    rfl
  have hknown : v.known m.asked block expression = c.answer? m.asked block expression := by
    rw [known, hlookUp]
  rw [hknown]
  simp only [evaluate, hlookUp]
  cases c.answer? m.asked block expression with
  | some value => rfl
  | none =>
    have heffective : effective { v with cache := some looked } context block =
      v.effective context block := rfl
    simp only [heffective, decided]
    cases Expression.decide (v.effective context block).facts expression with
    | error e => rfl
    | ok r =>
      have hstored : (looked.set m.stored m.swept block expression r.value).2 =
          (Expression.topicOf expression).map fun _ => () := by
        unfold Cache.set
        cases Expression.topicOf expression <;> rfl
      simp only [remember, if_neg hblock, hstored, storable, lifetimes, h, Option.map_some,
        Option.isSome_some, if_true]

/-- What is replied depends on the clock only when the cache is asked. -/
theorem reply_evaluate (m : Moment) (expression : String) (context : Context) (block : String)
    (v : Evaluator) :
    ((v.evaluate m expression context block).answer, (v.evaluate m expression context block).log) =
      v.reply m.asked expression context block := by
  unfold reply
  cases hc : v.cacheFor block with
  | none =>
    have hknown : v.known m.asked block expression = none := by
      rw [known_eq, hc, Option.bind_none]
    rw [evaluate_of_cacheFor_none hc, hknown]
    cases v.decided context block expression with
    | error e => rfl
    | ok r => simp [storable, lifetimes, hc, Except.map]
  | some c =>
    rw [evaluate_of_cacheFor_some hc]
    cases v.known m.asked block expression with
    | some value => rfl
    | none => cases v.decided context block expression <;> rfl

/-- An evaluation drops expired answers, and stores what it has decided. -/
lemma exists_state_evaluate (h : v.WellFormed) {c : Cache} (hc : v.cacheFor block = some c)
    (m : Moment) (expression : String) (context : Context) :
    ∃ left, Cache.DropsExpired m.asked c left ∧ left.WellFormed ∧
      ((v.evaluate m expression context block).state = { v with cache := some left } ∧
          (v.known m.asked block expression = none →
            ∀ r, v.decided context block expression ≠ .ok r) ∨
        v.known m.asked block expression = none ∧
          ∃ r, v.decided context block expression = .ok r ∧
            (v.evaluate m expression context block).state =
              { v with cache := some (left.set m.stored m.swept block expression r.value).1 }) := by
  have hwf := h c (cacheFor_eq_some_iff.mp hc).1
  have hdrop := Cache.dropsExpired_get hwf m.asked block expression
  refine ⟨_, hdrop, hwf.of_sublist hdrop.sublist, ?_⟩
  rw [evaluate_of_cacheFor_some hc]
  cases v.known m.asked block expression with
  | some value => exact .inl ⟨rfl, by simp⟩
  | none =>
    cases v.decided context block expression with
    | error e => exact .inl ⟨rfl, by simp⟩
    | ok r => exact .inr ⟨rfl, r, rfl, rfl⟩

/-- An answer that is in the cache is given, any other is found. -/
lemma answer_evaluate (m : Moment) (expression : String) (context : Context) (block : String)
    (v : Evaluator) :
    (v.evaluate m expression context block).answer =
      match v.known m.asked block expression with
      | some value => .ok value
      | none => v.found context block expression := by
  have hreply := congrArg Prod.fst (reply_evaluate m expression context block v)
  refine hreply.trans ?_
  unfold reply found
  cases v.known m.asked block expression with
  | some value => rfl
  | none => cases v.decided context block expression <;> rfl

@[simp] lemma overlays_evaluate (m : Moment) (expression : String) (context : Context)
    (block : String) (v : Evaluator) :
    (v.evaluate m expression context block).state.overlays = v.overlays := by
  cases hc : v.cacheFor block with
  | none =>
    rw [evaluate_of_cacheFor_none hc]
    cases v.decided context block expression <;> rfl
  | some c =>
    rw [evaluate_of_cacheFor_some hc]
    cases v.known m.asked block expression <;> cases v.decided context block expression <;> rfl

lemma WellFormed.evaluate (h : v.WellFormed) (m : Moment) (expression : String)
    (context : Context) (evaluated : String) :
    (v.evaluate m expression context evaluated).state.WellFormed ∧
      ∀ block, (v.evaluate m expression context evaluated).state.lifetimes block =
        v.lifetimes block := by
  cases hc : v.cacheFor evaluated with
  | none =>
    rw [evaluate_of_cacheFor_none hc]
    cases v.decided context evaluated expression <;> exact ⟨h, fun _ => rfl⟩
  | some c =>
    obtain ⟨hcache, -⟩ := cacheFor_eq_some_iff.mp hc
    obtain ⟨left, hdrop, hleft, ⟨hstate, -⟩ | ⟨-, r, -, hstate⟩⟩ :=
      exists_state_evaluate h hc m expression context
    · rw [hstate]
      refine ⟨fun d hd => Option.some.inj hd ▸ hleft, fun block => ?_⟩
      rw [lifetimes_of_cache hcache, lifetimes_of_cache rfl, hdrop.lifetimes]
    · rw [hstate]
      have hset := hleft.set m.stored m.swept evaluated expression r.value
      refine ⟨fun d hd => Option.some.inj hd ▸ hset, fun block => ?_⟩
      rw [lifetimes_of_cache hcache, lifetimes_of_cache rfl, Cache.lifetimes_set, hdrop.lifetimes]

lemma known_evaluate_of_ne (h : v.WellFormed) (hlater : ∀ t ∈ m.readings, later.ge t = true)
    {evaluated asked : String} (hne : (block, expression) ≠ (evaluated, asked)) (context : Context) :
    (v.evaluate m asked context evaluated).state.known later block expression =
      v.known later block expression := by
  cases hc : v.cacheFor evaluated with
  | none =>
    rw [evaluate_of_cacheFor_none hc]
    cases v.decided context evaluated asked <;> rfl
  | some c =>
    obtain ⟨hcache, -⟩ := cacheFor_eq_some_iff.mp hc
    obtain ⟨left, hdrop, hleft, ⟨hstate, -⟩ | ⟨-, r, -, hstate⟩⟩ :=
      exists_state_evaluate h hc m asked context
    · rw [hstate, known_of_cache hcache, known_of_cache rfl,
        hdrop.answer?_eq (h c hcache) (hlater _ m.asked_mem_readings)]
    · rw [hstate, known_of_cache hcache, known_of_cache rfl,
        Cache.answer?_set_of_ne hleft (hlater _ m.swept_mem_readings) hne,
        hdrop.answer?_eq (h c hcache) (hlater _ m.asked_mem_readings)]

/-- If there is an answer, it is the same afterwards; otherwise there may be one now. -/
lemma known_evaluate_self (h : v.WellFormed) (hlater : ∀ t ∈ m.readings, later.ge t = true)
    (block expression : String) (context : Context) :
    (v.evaluate m expression context block).state.known later block expression =
      if v.known m.asked block expression = none then
        v.kept? m.stored later expression context block
      else v.known later block expression := by
  have hasked := hlater _ m.asked_mem_readings
  have hnone := @known_eq_none_of_later v m.asked later block expression h hasked
  cases hc : v.cacheFor block with
  | none =>
    have hknown : v.known later block expression = none := by rw [known_eq, hc, Option.bind_none]
    rw [evaluate_of_cacheFor_none hc, hknown, kept?, lifetimes, hc]
    cases v.decided context block expression <;> simp [hknown]
  | some c =>
    obtain ⟨hcache, hblock⟩ := cacheFor_eq_some_iff.mp hc
    have hwf := h c hcache
    obtain ⟨left, hdrop, hleft, ⟨hstate, hundecided⟩ | ⟨hnow, r, hr, hstate⟩⟩ :=
      exists_state_evaluate h hc m expression context
    · rw [hstate, known_of_cache rfl, hdrop.answer?_eq hwf hasked, ← known_of_cache hcache]
      split
      next hnow =>
        rw [hnone hnow, kept?, lifetimes, hc]
        cases hr : v.decided context block expression with
        | error e => rfl
        | ok r => exact absurd hr (hundecided hnow r)
      next => rfl
    · rw [hstate, known_of_cache rfl, if_neg hblock, if_pos hnow]
      cases htopic : Expression.topicOf expression with
      | ok topic =>
        rw [Cache.answer?_set_self hleft htopic, hdrop.lifetimes]
        simp [kept?, lifetimes, hc, hr, htopic]
      | error error =>
        have hanswer : c.answer? later block expression = none := by
          rw [← hnone hnow, known_of_cache hcache, if_neg hblock]
        rw [Cache.set_of_error htopic, (Cache.dropsExpired_sweep m.stored m.swept left).answer?_eq
          hleft (hlater _ m.swept_mem_readings), hdrop.answer?_eq hwf hasked, hanswer]
        simp [kept?, lifetimes, hc, hr, htopic]

end

/-! ### Interactions -/

/-- What is known about interactions once some are set, if they exist. -/
def recorded (flags : Entries Bool) (o : Overlay) : Except UnknownFlags Overlay :=
  let unknown := (flags.map (·.1)).filter (!Overlay.names.contains ·)
  if unknown ≠ [] then .error ⟨unknown.mergeSort⟩
  else .ok (flags.foldl (fun o (name, value) => o.set name value) o)

lemma wellFormed_map_cache {drop : Cache → Cache}
    (h : ∀ c ∈ v.cache, (drop c).WellFormed ∧ (drop c).lifetimes = c.lifetimes)
    (overlays : Entries Overlay) :
    WellFormed ⟨v.cache.map drop, overlays⟩ ∧
      ∀ block, lifetimes block ⟨v.cache.map drop, overlays⟩ = v.lifetimes block := by
  cases hc : v.cache with
  | none => exact ⟨by simp [WellFormed], fun block => by simp [lifetimes, cacheFor, hc]⟩
  | some c =>
    obtain ⟨hwf, hlifetimes⟩ := h c hc
    refine ⟨fun d hd => Option.some.inj hd ▸ hwf, fun block => ?_⟩
    rw [lifetimes_of_cache hc, lifetimes_of_cache (Option.map_some _ _), hlifetimes]

/-- Dropping answers in the cache drops them. -/
lemma known_of_map_cache {drop : Cache → Cache} {p : Prop} [Decidable p]
    (h : ∀ c ∈ v.cache, (drop c).answer? now block expression =
      if p then none else c.answer? now block expression) (overlays : Entries Overlay) :
    known now block expression ⟨v.cache.map drop, overlays⟩ =
      if p then none else v.known now block expression := by
  cases hc : v.cache with
  | none => simp [known_eq, cacheFor, hc]
  | some c =>
    rw [known_of_cache hc, known_of_cache (Option.map_some _ _), h c hc]
    split <;> simp

lemma update_eq (block : String) (flags : Entries Bool) (v : Evaluator) :
    v.update block flags = (recorded flags (v.overlay block)).map fun o =>
      ⟨v.cache.map fun c => (c.invalidate block Topic.interaction.name).1,
        v.overlays.put block o⟩ := by
  simp only [update, recorded, overlay]
  split <;> rfl

lemma update_eq_ok_iff {flags : Entries Bool} :
    v.update block flags = .ok w ↔
      ∃ o, recorded flags (v.overlay block) = .ok o ∧
        w = ⟨v.cache.map fun c => (c.invalidate block Topic.interaction.name).1,
          v.overlays.put block o⟩ := by
  rw [update_eq]
  cases recorded flags (v.overlay block) <;> simp [Except.map, eq_comm]

lemma overlay_of_update {flags : Entries Bool}
    (h : v.update changed flags = .ok w) (hne : block ≠ changed) :
    w.overlay block = v.overlay block := by
  obtain ⟨o, -, rfl⟩ := update_eq_ok_iff.mp h
  rw [overlay, Entries.get?_put, if_neg (Ne.symm hne)]
  rfl

lemma WellFormed.update (hv : v.WellFormed) {flags : Entries Bool}
    (h : v.update changed flags = .ok w) :
    w.WellFormed ∧ ∀ block, w.lifetimes block = v.lifetimes block := by
  obtain ⟨o, -, rfl⟩ := update_eq_ok_iff.mp h
  exact wellFormed_map_cache (fun c hc => ⟨(hv c hc).drop _, rfl⟩) _

/-- Interactions that are set drop the answers to expressions about interactions. -/
lemma known_of_update (hv : v.WellFormed) {flags : Entries Bool}
    (h : v.update changed flags = .ok w) (now : Double) (block expression : String) :
    w.known now block expression =
      if block = changed ∧ Expression.topicOf expression = .ok .interaction then none
      else v.known now block expression := by
  obtain ⟨o, -, rfl⟩ := update_eq_ok_iff.mp h
  apply known_of_map_cache
  intro c hc
  rw [Cache.answer?_invalidate (hv c hc)]
  congr 2
  cases Expression.topicOf expression with
  | error error => simp [Except.map]
  | ok topic => simp [Except.map, Topic.name_injective.eq_iff]

lemma overlay_forget (forgotten block : String) (v : Evaluator) :
    (v.forget forgotten).overlay block = if block = forgotten then .none else v.overlay block := by
  rw [overlay, forget, Entries.get?_filter_ne]
  split <;> rfl

lemma WellFormed.forget (h : v.WellFormed) (forgotten : String) :
    (v.forget forgotten).WellFormed ∧
      ∀ block, (v.forget forgotten).lifetimes block = v.lifetimes block :=
  wellFormed_map_cache (fun c hc => ⟨(h c hc).drop _, rfl⟩) _

lemma known_forget (h : v.WellFormed) (now : Double) (forgotten block expression : String) :
    (v.forget forgotten).known now block expression =
      if block = forgotten then none else v.known now block expression := by
  apply known_of_map_cache
  intro c hc
  exact Cache.answer?_forgetBlock (h c hc) forgotten

end Evaluator

end BlockScript
