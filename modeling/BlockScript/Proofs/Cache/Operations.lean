import BlockScript.Proofs.Cache.Answers
import Mathlib.Data.List.Induction

/-!
# Operations on a cache

Answers are stored, asked for and dropped in any order. A cache that drops what has expired, when it is
asked, when it sweeps and when it is told to, gives the answers of one that drops nothing by itself; it
gives the answer that was stored last, unless that was dropped or has expired (`Cache.get_afterAll`).
-/

namespace BlockScript.Cache

/-- An operation on a cache. Those that look at what has expired read the clock; storing an answer reads
it once more for the sweep. -/
inductive Operation
  | set (now swept : Double) (block expression : String) (value : Bool)
  | get (now : Double) (block expression : String)
  | contains (now : Double) (block expression : String)
  /-- Drops the answers of a block, those on one topic if its name is given. -/
  | invalidate (block : String) (topic? : Option String)
  | forgetBlock (block : String)
  | purgeExpired (now : Double)
  | clear

/-- The readings of the clock during an operation. -/
def Operation.readings : Operation → List Double
  | set now swept _ _ _ => [now, swept]
  | get now _ _ => [now]
  | contains now _ _ => [now]
  | purgeExpired now => [now]
  | invalidate _ _ => []
  | forgetBlock _ => []
  | clear => []

/-- The readings of the clock during some operations. -/
def readings (ops : List Operation) : List Double :=
  ops.flatMap (·.readings)

/-- The cache after an operation. -/
def after (c : Cache) : Operation → Cache
  | .set now swept block expression value => (c.set now swept block expression value).1
  | .get now block expression => (c.get now block expression).1
  | .contains now block expression => (c.contains now block expression).1
  | .invalidate block none => (c.forgetBlock block).1
  | .invalidate block (some topic) => (c.invalidate block topic).1
  | .forgetBlock block => (c.forgetBlock block).1
  | .purgeExpired now => (c.purgeExpired now).1
  | .clear => c.clear

/-- The cache after some operations. -/
def afterAll (c : Cache) (ops : List Operation) : Cache :=
  ops.foldl after c

/-- What an operation would leave if nothing were dropped for having expired. -/
def hoard (c : Cache) : Operation → Cache
  | .set now _ block expression value =>
    match Expression.topicOf expression with
    | .ok topic =>
      let e : CacheEntry := ⟨block, expression, value, topic, now + c.lifetimes.of topic⟩
      { c with entries := place e c.entries }
    | .error _ => c
  | .get _ _ _ => c
  | .contains _ _ _ => c
  | .purgeExpired _ => c
  | .invalidate block topic? => c.after (.invalidate block topic?)
  | .forgetBlock block => c.after (.forgetBlock block)
  | .clear => c.clear

/-- What some operations would leave if nothing were dropped for having expired. -/
def hoardAll (c : Cache) (ops : List Operation) : Cache :=
  ops.foldl hoard c

variable {c : Cache} {op : Operation} {ops : List Operation} {l : Lifetimes}
  {created now swept later t : Double} {block expression : String} {value : Bool}

lemma readings_concat (ops : List Operation) (op : Operation) :
    readings (ops ++ [op]) = readings ops ++ op.readings := by
  simp [readings]

lemma afterAll_concat (c : Cache) (ops : List Operation) (op : Operation) :
    c.afterAll (ops ++ [op]) = (c.afterAll ops).after op := by
  simp [afterAll]

lemma hoardAll_concat (c : Cache) (ops : List Operation) (op : Operation) :
    c.hoardAll (ops ++ [op]) = (c.hoardAll ops).hoard op := by
  simp [hoardAll]

/-! ### Single operations -/

/-- The answer that is given later if an operation comes after which it was `answer?`. -/
def Operation.effect (l : Lifetimes) (later : Double) (block expression : String)
    (answer? : Option Bool) : Operation → Option Bool
  | set now _ stored asked value =>
    if (block, expression) = (stored, asked) then
      match Expression.topicOf expression with
      | .ok topic => if later.ge (now + l.of topic) then none else some value
      | .error _ => none
    else answer?
  | get _ _ _ => answer?
  | contains _ _ _ => answer?
  | purgeExpired _ => answer?
  | invalidate dropped none => if block = dropped then none else answer?
  | invalidate dropped (some topic) =>
    if block = dropped ∧ (Expression.topicOf expression).map (·.name) = .ok topic then none
    else answer?
  | forgetBlock dropped => if block = dropped then none else answer?
  | clear => none

/-- An expression without a topic has no answer. -/
lemma answer?_of_error (h : c.WellFormed) {error : NumberError}
    (htopic : Expression.topicOf expression = .error error) :
    c.answer? later block expression = none := by
  cases hanswer : c.answer? later block expression with
  | none => rfl
  | some value =>
    obtain ⟨e, he, hkey, -⟩ := (answer?_eq_some_iff h).mp hanswer
    obtain ⟨rfl, rfl⟩ := Prod.mk.inj hkey
    simp [h.topics e he] at htopic

lemma WellFormed.after (h : c.WellFormed) (op : Operation) :
    (c.after op).WellFormed ∧ (c.after op).lifetimes = c.lifetimes := by
  cases op with
  | set now swept block expression value =>
    exact ⟨h.set now swept block expression value, lifetimes_set ..⟩
  | get now block expression =>
    have hdrop := dropsExpired_get h now block expression
    exact ⟨h.of_sublist hdrop.sublist, hdrop.lifetimes⟩
  | contains now block expression =>
    have hdrop := dropsExpired_get h now block expression
    exact ⟨h.of_sublist hdrop.sublist, hdrop.lifetimes⟩
  | invalidate block topic? => cases topic? <;> exact ⟨h.drop _, rfl⟩
  | forgetBlock block => exact ⟨h.drop _, rfl⟩
  | purgeExpired now => exact ⟨h.of_sublist (dropsExpired_purgeExpired now c).sublist, rfl⟩
  | clear => exact ⟨h.of_sublist (List.nil_sublist _), rfl⟩

theorem answer?_after (h : c.WellFormed) (hlater : ∀ now ∈ op.readings, later.ge now = true)
    (block expression : String) :
    (c.after op).answer? later block expression =
      op.effect c.lifetimes later block expression (c.answer? later block expression) := by
  cases op with
  | set now swept stored asked value =>
    have hge := hlater swept (by simp [Operation.readings])
    rw [Operation.effect]
    split
    next hkey =>
      obtain ⟨rfl, rfl⟩ := Prod.mk.inj hkey
      cases htopic : Expression.topicOf expression with
      | ok topic => exact answer?_set_self h htopic now swept later block value
      | error error => exact answer?_of_error (h.set now swept block expression value) htopic
    next hkey => exact answer?_set_of_ne h hge hkey now value
  | get now asked expression' =>
    have hge := hlater now List.mem_cons_self
    exact (dropsExpired_get h now asked expression').answer?_eq h hge block expression
  | contains now asked expression' =>
    have hge := hlater now List.mem_cons_self
    exact (dropsExpired_get h now asked expression').answer?_eq h hge block expression
  | invalidate dropped topic? =>
    cases topic? with
    | none => exact answer?_forgetBlock h dropped
    | some topic => exact answer?_invalidate h dropped topic
  | forgetBlock dropped => exact answer?_forgetBlock h dropped
  | purgeExpired now =>
    have hge := hlater now List.mem_cons_self
    exact (dropsExpired_purgeExpired now c).answer?_eq h hge block expression
  | clear => rfl

/-! ### Dropping nothing that has expired -/

lemma sweep_of_not_due (h : now.ge c.nextSweep = false) (swept : Double) :
    c.sweep now swept = c := by
  rw [sweep, h]
  rfl

/-- A cache that never sweeps. -/
def unswept (c : Cache) : Cache :=
  { c with nextSweep := .nan }

lemma sweep_unswept (now swept : Double) (c : Cache) : c.unswept.sweep now swept = c.unswept :=
  sweep_of_not_due (Double.ge_eq_false_of_isNaN rfl) swept

/-- Answers and well-formedness depend on the entries alone. -/
lemma answer?_congr {d : Cache} (h : c.entries = d.entries) :
    c.answer? later block expression = d.answer? later block expression := by
  unfold answer? get
  rw [h]
  cases d.entries.find? (·.isFor block expression) with
  | none => rfl
  | some e => cases hexpired : e.hasExpired later <;> simp [hexpired]

lemma WellFormed.congr {d : Cache} (h : c.WellFormed) (hd : d.entries = c.entries) : d.WellFormed :=
  h.of_sublist (hd ▸ List.Sublist.refl _)

/-- Storing without a sweep is storing in a cache that never sweeps. -/
lemma entries_hoard_set (now swept : Double) (block expression : String) (value : Bool)
    (c : Cache) :
    (c.hoard (.set now swept block expression value)).entries =
      (c.unswept.set now swept block expression value).1.entries := by
  cases htopic : Expression.topicOf expression with
  | ok topic =>
    rw [set_of_topicOf htopic, sweep_unswept]
    simp [hoard, htopic, unswept]
  | error error =>
    rw [set_of_error htopic, sweep_unswept]
    simp [hoard, htopic, unswept]

lemma WellFormed.hoard (h : c.WellFormed) (op : Operation) :
    (c.hoard op).WellFormed ∧ (c.hoard op).lifetimes = c.lifetimes := by
  cases op with
  | set now swept block expression value =>
    have hunswept : c.unswept.WellFormed := h.congr rfl
    refine ⟨(hunswept.set now swept block expression value).congr (entries_hoard_set ..), ?_⟩
    rw [Cache.hoard]
    split <;> rfl
  | get now block expression => exact ⟨h, rfl⟩
  | contains now block expression => exact ⟨h, rfl⟩
  | invalidate block topic? => exact h.after (.invalidate block topic?)
  | forgetBlock block => exact h.after (.forgetBlock block)
  | purgeExpired now => exact ⟨h, rfl⟩
  | clear => exact h.after .clear

theorem answer?_hoard (h : c.WellFormed) (hlater : ∀ now ∈ op.readings, later.ge now = true)
    (block expression : String) :
    (c.hoard op).answer? later block expression =
      op.effect c.lifetimes later block expression (c.answer? later block expression) := by
  cases op with
  | set now swept stored asked value =>
    have hunswept : c.unswept.WellFormed := h.congr rfl
    have hentries : c.unswept.entries = c.entries := rfl
    rw [answer?_congr (entries_hoard_set now swept stored asked value c), ← answer?_congr hentries]
    exact answer?_after hunswept hlater block expression
  | get now asked expression' => rfl
  | contains now asked expression' => rfl
  | purgeExpired now => rfl
  | invalidate dropped topic? => exact answer?_after h hlater block expression
  | forgetBlock dropped => exact answer?_after h hlater block expression
  | clear => rfl

/-! ### Runs -/

lemma WellFormed.afterAll (h : c.WellFormed) (ops : List Operation) :
    (c.afterAll ops).WellFormed ∧ (c.afterAll ops).lifetimes = c.lifetimes := by
  induction ops using List.reverseRecOn with
  | nil => exact ⟨h, rfl⟩
  | append_singleton ops op ih =>
    rw [afterAll_concat]
    obtain ⟨hwf, hlifetimes⟩ := ih.1.after op
    exact ⟨hwf, hlifetimes.trans ih.2⟩

lemma WellFormed.hoardAll (h : c.WellFormed) (ops : List Operation) :
    (c.hoardAll ops).WellFormed ∧ (c.hoardAll ops).lifetimes = c.lifetimes := by
  induction ops using List.reverseRecOn with
  | nil => exact ⟨h, rfl⟩
  | append_singleton ops op ih =>
    rw [hoardAll_concat]
    obtain ⟨hwf, hlifetimes⟩ := ih.1.hoard op
    exact ⟨hwf, hlifetimes.trans ih.2⟩

/-- Nobody sees when expired answers are dropped. -/
theorem answer?_afterAll (h : c.WellFormed) (hlater : ∀ t ∈ readings ops, later.ge t = true)
    (block expression : String) :
    (c.afterAll ops).answer? later block expression =
      (c.hoardAll ops).answer? later block expression := by
  induction ops using List.reverseRecOn with
  | nil => rfl
  | append_singleton ops op ih =>
    rw [readings_concat, List.forall_mem_append] at hlater
    obtain ⟨hafter, hlifetimes⟩ := h.afterAll ops
    obtain ⟨hhoard, hlifetimes'⟩ := h.hoardAll ops
    rw [afterAll_concat, hoardAll_concat, answer?_after hafter hlater.2,
      answer?_hoard hhoard hlater.2, hlifetimes, hlifetimes', ih hlater.1]

/-! ### The answer that was stored last -/

/-- Whether an operation neither stores an answer to an expression for a block nor drops it. -/
def Operation.Keeps (block expression : String) : Operation → Prop
  | set _ _ stored asked _ => (block, expression) ≠ (stored, asked)
  | get _ _ _ => True
  | contains _ _ _ => True
  | purgeExpired _ => True
  | invalidate dropped none => block ≠ dropped
  | invalidate dropped (some topic) =>
    ¬(block = dropped ∧ (Expression.topicOf expression).map (·.name) = .ok topic)
  | forgetBlock dropped => block ≠ dropped
  | clear => False

/-- Whether the answer to an expression that was stored last for a block was stored at a time, and has
not been dropped on purpose since. -/
def StoredAt (t : Double) (value : Bool) (block expression : String) (ops : List Operation) : Prop :=
  ∃ swept earlier since, ops = earlier ++ .set t swept block expression value :: since ∧
    ∀ op ∈ since, op.Keeps block expression

lemma Operation.effect_of_keeps (h : op.Keeps block expression) (l : Lifetimes) (later : Double)
    (answer? : Option Bool) : op.effect l later block expression answer? = answer? := by
  cases op with
  | set now swept stored asked value => exact if_neg h
  | get now asked expression' => rfl
  | contains now asked expression' => rfl
  | purgeExpired now => rfl
  | invalidate dropped topic? =>
    cases topic? with
    | none => exact if_neg h
    | some topic => exact if_neg h
  | forgetBlock dropped => exact if_neg h
  | clear => exact h.elim

/-- What drops an answer, and does not store one, leaves none. -/
lemma Operation.effect_of_not_keeps (h : ¬op.Keeps block expression)
    (hset : ∀ t swept value, op ≠ .set t swept block expression value) (l : Lifetimes)
    (later : Double) (answer? : Option Bool) :
    op.effect l later block expression answer? = none := by
  cases op with
  | set now swept stored asked value =>
    obtain ⟨rfl, rfl⟩ := Prod.mk.inj (not_not.mp h)
    exact (hset now swept value rfl).elim
  | get now asked expression' => exact (h trivial).elim
  | contains now asked expression' => exact (h trivial).elim
  | purgeExpired now => exact (h trivial).elim
  | invalidate dropped topic? =>
    cases topic? with
    | none => exact if_pos (not_not.mp h)
    | some topic => exact if_pos (not_not.mp h)
  | forgetBlock dropped => exact if_pos (not_not.mp h)
  | clear => rfl

lemma not_storedAt_nil : ¬StoredAt t value block expression [] := by
  rintro ⟨swept, earlier, since, h, -⟩
  simp at h

lemma storedAt_concat :
    StoredAt t value block expression (ops ++ [op]) ↔
      (∃ swept, op = .set t swept block expression value) ∨
        op.Keeps block expression ∧ StoredAt t value block expression ops := by
  constructor
  · rintro ⟨swept, earlier, since, hops, hsince⟩
    rcases List.eq_nil_or_concat since with rfl | ⟨front, last, rfl⟩
    · obtain ⟨-, hlast⟩ := List.append_inj' hops rfl
      exact .inl ⟨swept, List.singleton_inj.mp hlast⟩
    · rw [List.concat_eq_append] at hops hsince
      rw [← List.cons_append, ← List.append_assoc] at hops
      obtain ⟨rfl, hlast⟩ := List.append_inj' hops rfl
      obtain rfl : op = last := List.singleton_inj.mp hlast
      rw [List.forall_mem_append] at hsince
      exact .inr ⟨hsince.2 op (by simp), swept, earlier, front, rfl, hsince.1⟩
  · rintro (⟨swept, rfl⟩ | ⟨hkeeps, swept, earlier, since, rfl, hsince⟩)
    · exact ⟨swept, ops, [], rfl, by simp⟩
    · refine ⟨swept, earlier, since ++ [op], by simp, ?_⟩
      rw [List.forall_mem_append]
      exact ⟨hsince, by simpa using hkeeps⟩

lemma StoredAt.mem_readings (h : StoredAt t value block expression ops) : t ∈ readings ops := by
  obtain ⟨swept, earlier, since, rfl, -⟩ := h
  simp [readings, Operation.readings]

/-- An answer is the one stored last, while that is good. -/
theorem answer?_afterAll_eq_some_iff (hlater : ∀ t ∈ readings ops, later.ge t = true) :
    ((start l created).afterAll ops).answer? later block expression = some value ↔
      ∃ t topic, StoredAt t value block expression ops ∧
        Expression.topicOf expression = .ok topic ∧ later.ge (t + l.of topic) = false := by
  have hstart := wellFormed_start l created
  induction ops using List.reverseRecOn with
  | nil =>
    constructor
    · intro h
      simp [answer?, get, start, afterAll] at h
    · rintro ⟨t, topic, hstored, -⟩
      exact (not_storedAt_nil hstored).elim
  | append_singleton ops op ih =>
    rw [readings_concat, List.forall_mem_append] at hlater
    obtain ⟨hwf, hlifetimes⟩ := hstart.afterAll ops
    rw [afterAll_concat, answer?_after hwf hlater.2, hlifetimes]
    by_cases hkeeps : op.Keeps block expression
    · have hne : ∀ t, ¬∃ swept, op = .set t swept block expression value := by
        rintro t ⟨swept, rfl⟩
        exact hkeeps rfl
      rw [Operation.effect_of_keeps hkeeps]
      simp only [storedAt_concat, hne, hkeeps, false_or, true_and]
      exact ih hlater.1
    -- what does not keep the answer drops it or stores another one in its place
    · simp only [storedAt_concat, hkeeps, false_and, or_false]
      by_cases hset : ∀ t swept value, op ≠ .set t swept block expression value
      · simp [Operation.effect_of_not_keeps hkeeps hset, hset]
      · simp only [ne_eq, not_forall, not_not] at hset
        obtain ⟨t, swept, stored, rfl⟩ := hset
        have hl : (start l created).lifetimes = l := rfl
        cases htopic : Expression.topicOf expression with
        | ok topic => simp [Operation.effect, htopic, hl, and_comm]
        | error error => simp [Operation.effect, htopic]

/-- A cache gives the answer to an expression that was stored last for a block, unless that has been
dropped on purpose or is not good any more; an answer whose time is not a number stays good. That it
drops what has expired, at whatever time, is never seen. -/
theorem get_afterAll (hclock : ∀ t ∈ readings ops, now.ge t = true) (block expression : String) :
    let c := (start l created).afterAll ops
    let hoarded := (start l created).hoardAll ops
    (∀ value, (c.get now block expression).2 = some value ↔
        ∃ t topic, StoredAt t value block expression ops ∧
          Expression.topicOf expression = .ok topic ∧
          (now.lt (t + l.of topic) = true ∨ (t + l.of topic).isNaN = true)) ∧
      (c.get now block expression).2 = (hoarded.get now block expression).2 ∧
      (c.contains now block expression).2 = (hoarded.contains now block expression).2 := by
  intro c hoarded
  have hsame : (c.get now block expression).2 = (hoarded.get now block expression).2 :=
    answer?_afterAll (wellFormed_start l created) hclock block expression
  refine ⟨fun value => ?_, hsame, congrArg Option.isSome hsame⟩
  rw [← answer?, answer?_afterAll_eq_some_iff hclock]
  refine exists_congr fun t => exists_congr fun topic => and_congr_right fun hstored => ?_
  have hnow := Double.ge_self_of_ge_left (hclock t hstored.mem_readings)
  rw [Double.ge_eq_false_iff hnow]

/-- The answer that was given at the click is dropped with all others about interactions, the one about
the theme stays. -/
theorem get_afterAll_menu :
    let ops : List Operation := [
      .set (.ofInt 0) (.ofInt 0) "menu" "theme.dark" false,
      .set (.ofInt 1) (.ofInt 2) "menu" "click" true,
      .purgeExpired (.ofInt 2),
      .set (.ofInt 3) (.ofInt 3) "menu" "theme.dark" true,
      .invalidate "menu" (some "interaction"),
      .contains (.ofInt 60) "menu" "click"]
    (∀ t ∈ readings ops, (Double.ofInt 62).ge t = true) ∧
      (((start .default (.ofInt 0)).afterAll ops).get (.ofInt 62) "menu" "theme.dark").2 = some true ∧
      ∃ t topic, StoredAt t true "menu" "theme.dark" ops ∧
        Expression.topicOf "theme.dark" = .ok topic ∧
        ((Double.ofInt 62).lt (t + Lifetimes.default.of topic) = true ∨
          (t + Lifetimes.default.of topic).isNaN = true) := by
  intro ops
  have hclock : ∀ t ∈ readings ops, (Double.ofInt 62).ge t = true := by decide +kernel
  have hget : (((start .default (.ofInt 0)).afterAll ops).get (.ofInt 62) "menu" "theme.dark").2 =
      some true := by decide +kernel
  exact ⟨hclock, hget, ((get_afterAll hclock "menu" "theme.dark").1 true).mp hget⟩

/-- An answer that is to stay good for no number of seconds stays good for ever. -/
theorem get_afterAll_nan :
    let l := { Lifetimes.default with interaction := .nan }
    let ops : List Operation := [.set (.ofInt 0) (.ofInt 0) "menu" "hover" true]
    (((start l (.ofInt 0)).afterAll ops).get (.ofInt 7) "menu" "hover").2 = some true ∧
      ¬∃ t topic, StoredAt t true "menu" "hover" ops ∧
        Expression.topicOf "hover" = .ok topic ∧ (Double.ofInt 7).lt (t + l.of topic) = true := by
  intro l ops
  refine ⟨by decide +kernel, ?_⟩
  rintro ⟨t, topic, hstored, htopic, hgood⟩
  obtain rfl : t = .ofInt 0 := by
    simpa [ops, readings, Operation.readings] using hstored.mem_readings
  have hhover : Expression.topicOf "hover" = .ok .interaction := by decide +kernel
  obtain rfl : .interaction = topic := Except.ok.inj (hhover.symm.trans htopic)
  have hbad : (Double.ofInt 7).lt (.ofInt 0 + .nan) = false := by decide +kernel
  exact absurd (hgood.symm.trans hbad) (by decide)

end BlockScript.Cache
