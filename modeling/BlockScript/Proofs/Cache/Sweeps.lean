import BlockScript.Proofs.Cache.Operations
import BlockScript.Proofs.Evaluator.Calls
import BlockScript.Proofs.Number.Rounding

/-!
# Sweeps

A cache sweeps out what has expired only when an answer is stored, and then not more often than the
shortest lifetime. If the clock stands still during each operation, all the same no entry is left,
whenever an answer is stored, that had expired longer ago than that (`Cache.geDifference_set`): since the
last time at which all entries were good the clock has not gone further. If it goes on while an answer is
stored, the next sweep is put off from the later time, and the answer itself may expire before that.
-/

namespace BlockScript

open Evaluator (Forward)

/-! ### The shortest lifetime -/

/-- The lesser of two numbers, the first one if they are equal. -/
def Double.lesser (x y : Double) : Double :=
  if y.lt x then y else x

lemma Double.ge_lesser {x y : Double} (hx : x.ge x = true) (hy : y.ge y = true) :
    x.ge (x.lesser y) = true ∧ y.ge (x.lesser y) = true := by
  rw [lesser]
  by_cases hlt : y.lt x = true
  · have hge := (ge_eq_false_iff hy).mpr (.inl hlt)
    rw [if_pos hlt]
    exact ⟨ge_of_not_ge hy hx hge, hy⟩
  · rw [if_neg hlt]
    refine ⟨hx, ?_⟩
    by_contra hge
    rcases (ge_eq_false_iff hy).mp (eq_false_of_ne_true hge) with hlt' | hnan
    · exact hlt hlt'
    · rw [ge_eq_false_of_isNaN hnan] at hx
      exact absurd hx (by decide)

lemma Double.ge_foldl_lesser {xs : List Double} {m : Double} (hm : m.ge m = true)
    (hxs : ∀ x ∈ xs, x.ge x = true) :
    ∀ x ∈ m :: xs, x.ge (xs.foldl lesser m) = true := by
  induction xs generalizing m with
  | nil => simpa using hm
  | cons y ys ih =>
    obtain ⟨hy, hys⟩ := List.forall_mem_cons.mp hxs
    obtain ⟨hmless, hyless⟩ := ge_lesser hm hy
    have hrest := ih (ge_self_of_ge_right hmless) hys
    obtain ⟨hless, hys⟩ := List.forall_mem_cons.mp hrest
    rw [List.foldl_cons, List.forall_mem_cons, List.forall_mem_cons]
    exact ⟨ge_trans hmless hless, ge_trans hyless hless, hys⟩

lemma Double.foldl_lesser_mem (xs : List Double) (m : Double) :
    xs.foldl lesser m ∈ m :: xs := by
  induction xs generalizing m with
  | nil => simp
  | cons y ys ih =>
    have hless : m.lesser y = m ∨ m.lesser y = y := by
      rw [lesser]
      split <;> simp
    rw [List.foldl_cons]
    rcases List.mem_cons.mp (ih (m.lesser y)) with h | h
    · rw [h]
      rcases hless with h | h <;> simp [h]
    · exact List.mem_cons_of_mem m (List.mem_cons_of_mem y h)

namespace Lifetimes

lemma shortest_eq (l : Lifetimes) :
    l.shortest = (Topic.all.map l.of).foldl Double.lesser l.interaction :=
  rfl

/-- The shortest lifetime is that of some topic. -/
lemma exists_shortest (l : Lifetimes) : ∃ topic, l.shortest = l.of topic := by
  have hmem := Double.foldl_lesser_mem (Topic.all.map l.of) l.interaction
  rw [← shortest_eq] at hmem
  rcases List.mem_cons.mp hmem with h | h
  · exact ⟨.interaction, h⟩
  · obtain ⟨topic, -, h⟩ := List.mem_map.mp h
    exact ⟨topic, h.symm⟩

lemma ge_shortest {l : Lifetimes} (h : ∀ topic, (l.of topic).ge (.ofInt 0) = true) (topic : Topic) :
    (l.of topic).ge l.shortest = true := by
  have hself : ∀ topic, (l.of topic).ge (l.of topic) = true :=
    fun topic => Double.ge_self_of_ge_left (h topic)
  rw [shortest_eq]
  refine Double.ge_foldl_lesser (hself .interaction) ?_ _ (List.mem_cons_of_mem _ ?_)
  · simpa using fun topic _ => hself topic
  · exact List.mem_map_of_mem (by cases topic <;> decide)

lemma shortest_ge_zero {l : Lifetimes} (h : ∀ topic, (l.of topic).ge (.ofInt 0) = true) :
    l.shortest.ge (.ofInt 0) = true := by
  obtain ⟨topic, htopic⟩ := l.exists_shortest
  rw [htopic]
  exact h topic

end Lifetimes

namespace Cache

variable {c : Cache} {op : Operation} {ops : List Operation} {l : Lifetimes}
  {created now swept p t : Double}

/-! ### The time at which all was good -/

/-- Whether an entry was stored by one of some operations that ended at a time, and was good when that
began. -/
def StoredUntil (l : Lifetimes) (ops : List Operation) (p : Double) (e : CacheEntry) : Prop :=
  ∃ t, .set t p e.block e.expression e.value ∈ ops ∧ e.expires = t + l.of e.topic ∧
    e.expires.ge t = true

/-- Whether no entry had expired at a time, unless it was stored until then, and the next sweep is due
one shortest lifetime later. -/
structure GoodAt (ops : List Operation) (p : Double) (c : Cache) : Prop where
  due : c.nextSweep = p + c.lifetimes.shortest
  good : ∀ e ∈ c.entries, e.expires.ge p = true ∨ StoredUntil c.lifetimes ops p e

/-- What an entry was good at is a number, so it expires at a number. -/
lemma GoodAt.ge_self (h : c.GoodAt ops p) {e : CacheEntry} (he : e ∈ c.entries) :
    e.expires.ge e.expires = true := by
  rcases h.good e he with hgood | ⟨t, -, -, hgood⟩
  · exact Double.ge_self_of_ge_left hgood
  · exact Double.ge_self_of_ge_left hgood

lemma GoodAt.of_sublist {left : Cache} (h : c.GoodAt ops p)
    (hentries : left.entries.Sublist c.entries) (hsweep : left.nextSweep = c.nextSweep)
    (hlifetimes : left.lifetimes = c.lifetimes) : left.GoodAt ops p where
  due := by rw [hsweep, hlifetimes, h.due]
  good e he := hlifetimes ▸ h.good e (hentries.subset he)

lemma GoodAt.concat (h : c.GoodAt ops p) (op : Operation) : c.GoodAt (ops ++ [op]) p where
  due := h.due
  good e he := (h.good e he).imp_right fun ⟨t, hmem, hgood⟩ =>
    ⟨t, List.mem_append_left _ hmem, hgood⟩

/-- Sweeping leaves what is good. -/
lemma GoodAt.expires_ge_of_mem_purgeExpired (h : c.GoodAt ops p) (hnow : now.ge now = true)
    {e : CacheEntry} (he : e ∈ (c.purgeExpired now).1.entries) : e.expires.ge now = true := by
  obtain ⟨he, hgood⟩ := mem_drop.mp he
  exact Double.ge_of_not_ge hnow (h.ge_self he) hgood

lemma GoodAt.purgeExpired (h : c.GoodAt ops p) (hnow : now.ge now = true) :
    (c.purgeExpired now).1.GoodAt ops now where
  due := rfl
  good _ he := .inl (h.expires_ge_of_mem_purgeExpired hnow he)

/-- The time at which all was good once an answer has been stored. -/
def sweptAt (now swept p : Double) (c : Cache) : Double :=
  if now.ge c.nextSweep then swept else p

lemma GoodAt.sweep (h : c.GoodAt ops p) (hswept : swept.ge swept = true) (now : Double) :
    (c.sweep now swept).GoodAt ops (c.sweptAt now swept p) := by
  rw [Cache.sweep, sweptAt]
  split
  · exact h.purgeExpired hswept
  · exact h

/-- What is stored is good when that begins. -/
lemma GoodAt.set (h : c.GoodAt ops p) (hwf : c.WellFormed) (hnow : now.IsFinite)
    (hlater : now.ge p = true) (hswept : swept.ge now = true)
    (hpositive : ∀ topic, (c.lifetimes.of topic).ge (.ofInt 0) = true)
    (block expression : String) (value : Bool) :
    (c.set now swept block expression value).1.GoodAt
      (ops ++ [.set now swept block expression value]) (c.sweptAt now swept p) := by
  have hsweep := (h.sweep (Double.ge_self_of_ge_left hswept) now).concat
    (.set now swept block expression value)
  cases htopic : Expression.topicOf expression with
  | error error =>
    rw [set_of_error htopic]
    exact hsweep
  | ok topic =>
    rw [set_of_topicOf htopic]
    refine ⟨hsweep.due, fun e he => ?_⟩
    have hdistinct := (hwf.of_sublist (dropsExpired_sweep now swept c).sublist).distinct
    rcases (mem_place hdistinct).mp he with rfl | ⟨he, -⟩
    · have hstored := hnow.add_ge_self (hpositive topic)
      have hlifetimes := (dropsExpired_sweep now swept c).lifetimes
      rw [sweptAt]
      split
      · exact .inr ⟨now, by simp, by rw [hlifetimes], hstored⟩
      · exact .inl (Double.ge_trans hstored hlater)
    · exact hsweep.good e he

lemma goodAt_start (l : Lifetimes) (created : Double) : (start l created).GoodAt [] created where
  due := rfl
  good _ he := absurd he List.not_mem_nil

lemma nextSweep_get (now : Double) (block expression : String) (c : Cache) :
    (c.get now block expression).1.nextSweep = c.nextSweep := by
  unfold get
  split
  · rfl
  · split <;> rfl

lemma GoodAt.get (h : c.GoodAt ops p) (hwf : c.WellFormed) (now : Double)
    (block expression : String) : (c.get now block expression).1.GoodAt ops p :=
  h.of_sublist (dropsExpired_get hwf now block expression).sublist (nextSweep_get ..)
    (lifetimes_get ..)

/-- Each operation moves the time at which all was good to one of its own or leaves it. -/
lemma GoodAt.after (h : c.GoodAt ops p) (hwf : c.WellFormed) (hclock : Forward (p :: op.readings))
    (hfinite : ∀ t ∈ op.readings, t.IsFinite)
    (hpositive : ∀ topic, (c.lifetimes.of topic).ge (.ofInt 0) = true) :
    ∃ q ∈ p :: op.readings, (c.after op).GoodAt (ops ++ [op]) q := by
  have hkeep := h.concat op
  obtain ⟨hlater, hforward⟩ := List.pairwise_cons.mp hclock
  cases op with
  | set now swept block expression value =>
    have hswept : swept.ge now = true := List.rel_of_pairwise_cons hforward (by simp)
    refine ⟨_, ?_, h.set hwf (hfinite now (by simp [Operation.readings]))
      (hlater now (by simp [Operation.readings])) hswept hpositive block expression value⟩
    rw [sweptAt]
    split <;> simp [Operation.readings]
  | get now block expression => exact ⟨p, List.mem_cons_self, hkeep.get hwf now block expression⟩
  | contains now block expression =>
    exact ⟨p, List.mem_cons_self, hkeep.get hwf now block expression⟩
  | invalidate block topic? =>
    cases topic? with
    | none => exact ⟨p, List.mem_cons_self, hkeep.of_sublist List.filter_sublist rfl rfl⟩
    | some topic => exact ⟨p, List.mem_cons_self, hkeep.of_sublist List.filter_sublist rfl rfl⟩
  | forgetBlock block =>
    exact ⟨p, List.mem_cons_self, hkeep.of_sublist List.filter_sublist rfl rfl⟩
  | purgeExpired now =>
    have hself := Double.ge_self_of_ge_left (hlater now (by simp [Operation.readings]))
    exact ⟨now, by simp [Operation.readings], hkeep.purgeExpired hself⟩
  | clear => exact ⟨p, List.mem_cons_self, hkeep.of_sublist (List.nil_sublist _) rfl rfl⟩

/-- In a run, all was good at some reading of the clock. -/
lemma exists_goodAt_afterAll (hclock : Forward (created :: readings ops))
    (hfinite : ∀ t ∈ created :: readings ops, t.IsFinite)
    (hpositive : ∀ topic, (l.of topic).ge (.ofInt 0) = true) :
    ∃ p ∈ created :: readings ops, ((start l created).afterAll ops).GoodAt ops p := by
  induction ops using List.reverseRecOn with
  | nil => exact ⟨created, List.mem_cons_self, goodAt_start l created⟩
  | append_singleton ops op ih =>
    rw [readings_concat, ← List.cons_append] at hclock hfinite ⊢
    obtain ⟨hbefore, hduring, hafter⟩ := List.pairwise_append.mp hclock
    rw [List.forall_mem_append] at hfinite
    obtain ⟨p, hp, hgood⟩ := ih hbefore hfinite.1
    obtain ⟨hwf, hlifetimes⟩ := (wellFormed_start l created).afterAll ops
    have hop : Forward (p :: op.readings) := List.pairwise_cons.mpr ⟨hafter p hp, hduring⟩
    obtain ⟨q, hq, hgood⟩ := hgood.after hwf hop hfinite.2 (hlifetimes ▸ hpositive)
    rw [afterAll_concat]
    refine ⟨q, List.mem_append.mpr ?_, hgood⟩
    rcases List.mem_cons.mp hq with rfl | hq
    · exact .inl hp
    · exact .inr hq

/-- As long as no sweep is due, the clock has gone no further than the shortest lifetime since all was
good. -/
lemma GoodAt.le_of_not_due (h : c.GoodAt ops p) (hdue : now.ge c.nextSweep = false)
    (hp : p.IsFinite) (hnow : now.IsFinite) (hfinite : c.lifetimes.shortest.IsFinite) :
    now.signedUnits ≤ p.signedUnits + c.lifetimes.shortest.signedUnits := by
  -- otherwise the deadline, which is the rounded sum, would have passed
  by_contra hle
  rw [h.due, hp.ge_add hfinite hnow.isNaN (by omega)] at hdue
  exact Bool.noConfusion hdue

/-- What is left when a sweep may have been made has expired no longer ago than the shortest lifetime, or
it was stored, and had expired, when all was good, and that is no longer ago. -/
lemma GoodAt.of_mem_sweep (h : c.GoodAt ops p) (hp : p.IsFinite) (hnow : now.IsFinite)
    (hswept : swept.ge now = true) (hshortest : c.lifetimes.shortest.ge (.ofInt 0) = true)
    {e : CacheEntry} (he : e ∈ (c.sweep now swept).entries) :
    e.expires.GeDifference now c.lifetimes.shortest ∨
      StoredUntil c.lifetimes ops p e ∧ p.ge e.expires = true ∧
        p.GeDifference now c.lifetimes.shortest := by
  rw [Cache.sweep] at he
  split at he
  next =>
    have hge := h.expires_ge_of_mem_purgeExpired (Double.ge_self_of_ge_left hswept) he
    exact .inl (hnow.geDifference_of_ge hshortest (Double.ge_trans hge hswept))
  next hdue =>
    have hself : p.ge p = true :=
      Double.ge_iff.mpr ⟨_, _, hp.place?, hp.place?, by simp [Double.Place.compare_self]⟩
    have hsince : p.GeDifference now c.lifetimes.shortest :=
      hnow.geDifference hp hshortest (h.le_of_not_due (eq_false_of_ne_true hdue) hp hnow) hself
    cases hge : e.expires.ge p with
    | true => exact .inl (.of_ge hge hsince)
    | false =>
      have hstored := (h.good e he).resolve_left (by simp [hge])
      exact .inr ⟨hstored, Double.ge_of_not_ge (h.ge_self he) hself hge, hsince⟩

lemma GoodAt.of_mem_set (h : c.GoodAt ops p) (hwf : c.WellFormed) (hp : p.IsFinite)
    (hnow : now.IsFinite) (hswept : swept.ge now = true)
    (hpositive : ∀ topic, (c.lifetimes.of topic).ge (.ofInt 0) = true) {block expression : String}
    {value : Bool} {e : CacheEntry}
    (he : e ∈ (c.set now swept block expression value).1.entries) :
    e.expires.GeDifference now c.lifetimes.shortest ∨
      StoredUntil c.lifetimes ops p e ∧ p.ge e.expires = true ∧
        p.GeDifference now c.lifetimes.shortest := by
  have hshortest := Lifetimes.shortest_ge_zero hpositive
  cases htopic : Expression.topicOf expression with
  | error error =>
    rw [set_of_error htopic] at he
    exact h.of_mem_sweep hp hnow hswept hshortest he
  | ok topic =>
    rw [set_of_topicOf htopic] at he
    have hdistinct := (hwf.of_sublist (dropsExpired_sweep now swept c).sublist).distinct
    rcases (mem_place hdistinct).mp he with rfl | ⟨he, -⟩
    · exact .inl (hnow.geDifference_of_ge hshortest (hnow.add_ge_self (hpositive topic)))
    · exact h.of_mem_sweep hp hnow hswept hshortest he

/-- Whether the clock stands still during an operation. -/
def Operation.AtOnce : Operation → Prop
  | set now swept _ _ _ => swept = now
  | _ => True

/-- Right after an answer has been stored, if lifetimes are not negative, no entry is left that expired
longer ago than the shortest lifetime, but for entries that expired while they were being stored, and
the storing of which ended no longer ago than that. If the clock stands still during each operation,
there are no such entries. -/
theorem geDifference_set (hclock : Forward (created :: readings ops ++ [now, swept]))
    (hfinite : ∀ t ∈ created :: readings ops ++ [now], t.IsFinite)
    (hpositive : ∀ topic, (l.of topic).ge (.ofInt 0) = true)
    (block expression : String) (value : Bool) :
    let left := (((start l created).afterAll ops).set now swept block expression value).1
    (∃ topic, l.shortest = l.of topic) ∧ (∀ topic, (l.of topic).ge l.shortest = true) ∧
      ((∀ op ∈ ops, op.AtOnce) → ∀ e ∈ left.entries, e.expires.GeDifference now l.shortest) ∧
      ∀ e ∈ left.entries, e.expires.GeDifference now l.shortest ∨
        ∃ t s, .set t s e.block e.expression e.value ∈ ops ∧ e.expires = t + l.of e.topic ∧
          e.expires.ge t = true ∧ s.ge e.expires = true ∧ s.GeDifference now l.shortest := by
  intro left
  obtain ⟨hbefore, hset, -⟩ := List.pairwise_append.mp hclock
  obtain ⟨hfinite, hnow⟩ := List.forall_mem_append.mp hfinite
  have hswept : swept.ge now = true := List.rel_of_pairwise_cons hset (by simp)
  obtain ⟨p, hp, hgood⟩ := exists_goodAt_afterAll hbefore hfinite hpositive
  obtain ⟨hwf, hlifetimes⟩ := (wellFormed_start l created).afterAll ops
  have hl : ((start l created).afterAll ops).lifetimes = l := hlifetimes
  have hall : ∀ e ∈ left.entries, e.expires.GeDifference now l.shortest ∨
      StoredUntil l ops p e ∧ p.ge e.expires = true ∧ p.GeDifference now l.shortest := by
    intro e he
    have hmem := hgood.of_mem_set hwf (hfinite p hp) (hnow now (by simp)) hswept (by rwa [hl]) he
    rwa [hl] at hmem
  refine ⟨l.exists_shortest, Lifetimes.ge_shortest hpositive, fun honce e he => ?_, fun e he => ?_⟩
  · rcases hall e he with hgood | ⟨⟨t, hmem, -, hge⟩, -, hsince⟩
    · exact hgood
    · obtain rfl : p = t := honce _ hmem
      exact .of_ge hge hsince
  · exact (hall e he).imp_right fun ⟨⟨t, hmem, hexpires, hge⟩, hexpired, hsince⟩ =>
      ⟨t, p, hmem, hexpires, hge, hexpired, hsince⟩

/-- The answer about the hover expired at two, a second before another one is stored; the one about the
theme is good still. -/
theorem geDifference_set_theme :
    let ops : List Operation := [
      .set (.ofInt 0) (.ofInt 0) "menu" "theme.dark" true,
      .set (.ofInt 1) (.ofInt 1) "menu" "hover" true,
      .get (.ofInt 2) "menu" "click"]
    Forward (.ofInt 0 :: readings ops ++ [.ofInt 3, .ofInt 3]) ∧
      (∀ t ∈ .ofInt 0 :: readings ops ++ [.ofInt 3], t.IsFinite) ∧
      (∀ topic, (Lifetimes.default.of topic).ge (.ofInt 0) = true) ∧ (∀ op ∈ ops, op.AtOnce) ∧
      ∀ e ∈ (((start .default (.ofInt 0)).afterAll ops).set (.ofInt 3) (.ofInt 3) "menu" "focus"
          false).1.entries,
        e.expires.GeDifference (.ofInt 3) Lifetimes.default.shortest := by
  intro ops
  have hclock : Forward (.ofInt 0 :: readings ops ++ [.ofInt 3, .ofInt 3]) := by decide +kernel
  have hfinite : ∀ t ∈ .ofInt 0 :: readings ops ++ [.ofInt 3], t.IsFinite := by decide +kernel
  have hpositive : ∀ topic, (Lifetimes.default.of topic).ge (.ofInt 0) = true := by
    intro topic
    cases topic <;> decide +kernel
  have honce : ∀ op ∈ ops, op.AtOnce := by simp [ops, Operation.AtOnce]
  exact ⟨hclock, hfinite, hpositive, honce,
    (geDifference_set hclock hfinite hpositive "menu" "focus" false).2.2.1 honce⟩

/-- The answer about the hover is stored from ten to twenty and has expired at eleven, long before the
next one is stored; and an answer that is good for an infinite time is not old at an infinite time, but
infinities have no difference. -/
theorem not_geDifference_set :
    let ops : List Operation := [.set (.ofInt 10) (.ofInt 20) "menu" "hover" true]
    let endless : Double := .infinity false
    let l : Lifetimes := ⟨endless, endless, endless, endless⟩
    (Forward (.ofInt 0 :: readings ops ++ [.ofInt 20, .ofInt 20]) ∧
        ∃ e ∈ (((start .default (.ofInt 0)).afterAll ops).set (.ofInt 20) (.ofInt 20) "menu" "focus"
            false).1.entries,
          ¬ e.expires.GeDifference (.ofInt 20) Lifetimes.default.shortest) ∧
      Forward [.ofInt 1000, endless, endless] ∧
        ∃ e ∈ ((start l (.ofInt 1000)).set endless endless "menu" "hover" true).1.entries,
          ¬ e.expires.GeDifference endless l.shortest := by
  decide +kernel

end Cache

end BlockScript
