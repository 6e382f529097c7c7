import BlockScript.Cache
import BlockScript.Proofs.Number.Order
import Mathlib.Data.List.Nodup

/-!
# Answers of a cache

What can be seen of a cache is the answer that it gives to an expression at a time. Dropping expired
entries changes no answer from then on (`Cache.DropsExpired.answer?_eq`), whoever drops them; storing an
answer changes only the answer to its own block and expression, until it expires (`Cache.answer?_set_self`,
`Cache.answer?_set_of_ne`).
-/

namespace BlockScript

/-! ### Entries -/

namespace CacheEntry

/-- What an entry is found by. -/
def key (e : CacheEntry) : String × String :=
  (e.block, e.expression)

lemma isFor_iff {e : CacheEntry} {block expression : String} :
    e.isFor block expression = true ↔ e.key = (block, expression) := by
  simp [isFor, key]

/-- What has not expired later had not expired before. -/
lemma hasExpired_of_later {e : CacheEntry} {now later : Double} (hlater : later.ge now = true)
    (h : e.hasExpired later = false) : e.hasExpired now = false := by
  by_contra hnow
  have hexpired : e.hasExpired later = true := Double.ge_trans hlater (eq_true_of_ne_false hnow)
  rw [hexpired] at h
  exact Bool.noConfusion h

end CacheEntry

namespace Cache

variable {c left : Cache} {now later swept : Double} {block expression : String} {e f : CacheEntry}

/-- Whether there is at most one entry for a block and an expression, and each entry is kept under the
topic of its expression. -/
structure WellFormed (c : Cache) : Prop where
  distinct : (c.entries.map CacheEntry.key).Nodup
  topics : ∀ e ∈ c.entries, Expression.topicOf e.expression = .ok e.topic

/-- The answer that a cache gives at a time. -/
def answer? (now : Double) (block expression : String) (c : Cache) : Option Bool :=
  (c.get now block expression).2

lemma WellFormed.of_sublist (h : c.WellFormed) (hleft : left.entries.Sublist c.entries) :
    left.WellFormed where
  distinct := h.distinct.sublist (hleft.map _)
  topics e he := h.topics e (hleft.subset he)

lemma wellFormed_start (lifetimes : Lifetimes) (now : Double) : (start lifetimes now).WellFormed where
  distinct := List.nodup_nil
  topics _ he := absurd he List.not_mem_nil

lemma WellFormed.eq_of_key (h : c.WellFormed) (he : e ∈ c.entries) (hf : f ∈ c.entries)
    (hkey : e.key = f.key) : e = f :=
  List.inj_on_of_nodup_map h.distinct he hf hkey

lemma WellFormed.find?_isFor (h : c.WellFormed) :
    c.entries.find? (·.isFor block expression) = some e ↔
      e ∈ c.entries ∧ e.key = (block, expression) := by
  constructor
  · intro hfind
    exact ⟨List.mem_of_find?_eq_some hfind, CacheEntry.isFor_iff.mp (List.find?_some hfind)⟩
  · rintro ⟨he, hkey⟩
    cases hfind : c.entries.find? (·.isFor block expression) with
    | none =>
      have hnone := List.find?_eq_none.mp hfind e he
      exact absurd (CacheEntry.isFor_iff.mpr hkey) hnone
    | some f =>
      have hf := CacheEntry.isFor_iff.mp (List.find?_some hfind)
      rw [h.eq_of_key (List.mem_of_find?_eq_some hfind) he (hf.trans hkey.symm)]

/-- An answer is the value of an entry that has not expired. -/
lemma answer?_eq_some_iff (h : c.WellFormed) {value : Bool} :
    c.answer? now block expression = some value ↔
      ∃ e ∈ c.entries, e.key = (block, expression) ∧ e.hasExpired now = false ∧ e.value = value := by
  unfold answer? get
  cases hfind : c.entries.find? (·.isFor block expression) with
  | none =>
    constructor
    · simp
    · rintro ⟨e, he, hkey, -⟩
      rw [h.find?_isFor.mpr ⟨he, hkey⟩] at hfind
      simp at hfind
  | some f =>
    obtain ⟨hf, hfkey⟩ := h.find?_isFor.mp hfind
    constructor
    · intro hvalue
      cases hexpired : f.hasExpired now with
      | true => simp [hexpired] at hvalue
      | false => exact ⟨f, hf, hfkey, hexpired, by simpa [hexpired] using hvalue⟩
    · rintro ⟨e, he, hkey, hexpired, rfl⟩
      rw [← h.eq_of_key hf he (hfkey.trans hkey.symm)] at hexpired ⊢
      simp [hexpired]

/-- An answer that is still good was good all the time. -/
lemma answer?_of_later (h : c.WellFormed) (hlater : later.ge now = true) {value : Bool}
    (hvalue : c.answer? later block expression = some value) :
    c.answer? now block expression = some value := by
  obtain ⟨e, he, hkey, hexpired, rfl⟩ := (answer?_eq_some_iff h).mp hvalue
  have hgood := CacheEntry.hasExpired_of_later hlater hexpired
  exact (answer?_eq_some_iff h).mpr ⟨e, he, hkey, hgood, rfl⟩

/-! ### Dropping entries -/

@[simp] lemma mem_drop {p : CacheEntry → Bool} :
    e ∈ (c.drop p).1.entries ↔ e ∈ c.entries ∧ p e = false := by
  simp [drop]

lemma WellFormed.drop (h : c.WellFormed) (p : CacheEntry → Bool) : (c.drop p).1.WellFormed :=
  h.of_sublist List.filter_sublist

/-- Whether one cache is left of another when some entries are dropped that have expired. -/
structure DropsExpired (now : Double) (c left : Cache) : Prop where
  sublist : left.entries.Sublist c.entries
  good : ∀ e ∈ c.entries, e.hasExpired now = false → e ∈ left.entries
  lifetimes : left.lifetimes = c.lifetimes

lemma DropsExpired.refl (now : Double) (c : Cache) : DropsExpired now c c :=
  ⟨List.Sublist.refl _, fun _ he _ => he, rfl⟩

/-- From then on nobody sees that expired entries have been dropped. -/
lemma DropsExpired.answer?_eq (hdrop : DropsExpired now c left) (h : c.WellFormed)
    (hlater : later.ge now = true) (block expression : String) :
    left.answer? later block expression = c.answer? later block expression := by
  ext value
  rw [answer?_eq_some_iff (h.of_sublist hdrop.sublist), answer?_eq_some_iff h]
  constructor
  · rintro ⟨e, he, hrest⟩
    exact ⟨e, hdrop.sublist.subset he, hrest⟩
  · rintro ⟨e, he, hkey, hexpired, hvalue⟩
    have hgood := CacheEntry.hasExpired_of_later hlater hexpired
    exact ⟨e, hdrop.good e he hgood, hkey, hexpired, hvalue⟩

lemma dropsExpired_get (h : c.WellFormed) (now : Double) (block expression : String) :
    DropsExpired now c (c.get now block expression).1 := by
  unfold get
  split
  next => exact .refl now c
  next e hfind =>
    split
    next hexpired =>
      obtain ⟨he, hkey⟩ := h.find?_isFor.mp hfind
      refine ⟨List.filter_sublist, fun f hf hgood => ?_, rfl⟩
      rw [mem_drop]
      refine ⟨hf, ?_⟩
      by_contra hfor
      have hfkey := CacheEntry.isFor_iff.mp (eq_true_of_ne_false hfor)
      rw [h.eq_of_key hf he (hfkey.trans hkey.symm), hexpired] at hgood
      exact Bool.noConfusion hgood
    next => exact .refl now c

lemma dropsExpired_purgeExpired (now : Double) (c : Cache) :
    DropsExpired now c (c.purgeExpired now).1 :=
  ⟨List.filter_sublist, fun _ he hgood => mem_drop.mpr ⟨he, hgood⟩, rfl⟩

lemma dropsExpired_sweep (now swept : Double) (c : Cache) :
    DropsExpired swept c (c.sweep now swept) := by
  unfold sweep
  split
  · exact dropsExpired_purgeExpired swept c
  · exact .refl swept c

/-- Dropping the entries of some keys takes away their answers and no others. -/
lemma answer?_drop (h : c.WellFormed) {p : CacheEntry → Bool} {q : Prop} [Decidable q]
    (hp : ∀ e ∈ c.entries, e.key = (block, expression) → (p e = true ↔ q)) (now : Double) :
    (c.drop p).1.answer? now block expression =
      if q then none else c.answer? now block expression := by
  ext value
  rw [answer?_eq_some_iff (h.drop p)]
  by_cases hq : q
  · rw [if_pos hq]
    constructor
    · rintro ⟨e, he, hkey, -⟩
      obtain ⟨he, hkept⟩ := mem_drop.mp he
      rw [(hp e he hkey).mpr hq] at hkept
      exact Bool.noConfusion hkept
    · simp
  · rw [if_neg hq, answer?_eq_some_iff h]
    constructor
    · rintro ⟨e, he, hrest⟩
      exact ⟨e, (mem_drop.mp he).1, hrest⟩
    · rintro ⟨e, he, hkey, hrest⟩
      have hkept : p e = false := by
        by_contra hdropped
        exact hq ((hp e he hkey).mp (eq_true_of_ne_false hdropped))
      exact ⟨e, mem_drop.mpr ⟨he, hkept⟩, hkey, hrest⟩

lemma answer?_forgetBlock (h : c.WellFormed) (forgotten : String) :
    (c.forgetBlock forgotten).1.answer? now block expression =
      if block = forgotten then none else c.answer? now block expression := by
  refine answer?_drop h (fun e _ hkey => ?_) now
  obtain ⟨rfl, rfl⟩ := Prod.mk.inj hkey
  exact beq_iff_eq

/-- Dropping the answers on a topic leaves those to expressions on other topics. -/
lemma answer?_invalidate (h : c.WellFormed) (changed topic : String) :
    (c.invalidate changed topic).1.answer? now block expression =
      if block = changed ∧ (Expression.topicOf expression).map (·.name) = .ok topic then none
      else c.answer? now block expression := by
  refine answer?_drop h (fun e he hkey => ?_) now
  obtain ⟨rfl, rfl⟩ := Prod.mk.inj hkey
  simp [h.topics e he, Except.map]

/-! ### Storing answers -/

lemma mem_place {entries : List CacheEntry} (hnodup : (entries.map CacheEntry.key).Nodup) :
    f ∈ place e entries ↔ f = e ∨ f ∈ entries ∧ f.key ≠ e.key := by
  induction entries with
  | nil => simp [place]
  | cons g entries ih =>
    obtain ⟨hg, hnodup⟩ := List.nodup_cons.mp hnodup
    rw [place]
    split
    next hfor =>
      have hkey : g.key = e.key := CacheEntry.isFor_iff.mp hfor
      have hrest : ∀ f ∈ entries, f.key ≠ e.key := by
        rintro f hf heq
        exact hg (hkey.trans heq.symm ▸ List.mem_map_of_mem hf)
      constructor
      · intro hf
        rcases List.mem_cons.mp hf with rfl | hf
        · exact .inl rfl
        · exact .inr ⟨List.mem_cons_of_mem g hf, hrest f hf⟩
      · rintro (rfl | ⟨hf, hne⟩)
        · exact List.mem_cons_self
        · rcases List.mem_cons.mp hf with rfl | hf
          · exact absurd hkey hne
          · exact List.mem_cons_of_mem e hf
    next hfor =>
      have hkey : g.key ≠ e.key := fun heq => hfor (CacheEntry.isFor_iff.mpr heq)
      rw [List.mem_cons, List.mem_cons, ih hnodup]
      constructor
      · rintro (rfl | rfl | ⟨hf, hne⟩)
        · exact .inr ⟨.inl rfl, hkey⟩
        · exact .inl rfl
        · exact .inr ⟨.inr hf, hne⟩
      · rintro (rfl | ⟨rfl | hf, hne⟩)
        · exact .inr (.inl rfl)
        · exact .inl rfl
        · exact .inr (.inr ⟨hf, hne⟩)

lemma nodup_place {entries : List CacheEntry} (hnodup : (entries.map CacheEntry.key).Nodup)
    (e : CacheEntry) : ((place e entries).map CacheEntry.key).Nodup := by
  induction entries with
  | nil => simp [place]
  | cons g entries ih =>
    obtain ⟨hg, hrest⟩ := List.nodup_cons.mp hnodup
    rw [place]
    split
    next hfor =>
      have hkey : g.key = e.key := CacheEntry.isFor_iff.mp hfor
      rw [List.map_cons, List.nodup_cons, ← hkey]
      exact ⟨hg, hrest⟩
    next hfor =>
      rw [List.map_cons, List.nodup_cons]
      refine ⟨fun hmem => ?_, ih hrest⟩
      obtain ⟨f, hf, hkey⟩ := List.mem_map.mp hmem
      rcases (mem_place hrest).mp hf with rfl | ⟨hf, -⟩
      · exact hfor (CacheEntry.isFor_iff.mpr hkey.symm)
      · exact hg (hkey ▸ List.mem_map_of_mem hf)

/-- Storing an answer sweeps, and then puts an entry in its place. -/
lemma set_of_topicOf {topic : Topic} (htopic : Expression.topicOf expression = .ok topic)
    (now swept : Double) (block : String) (value : Bool) (c : Cache) :
    (c.set now swept block expression value).1 = { c.sweep now swept with
      entries := place ⟨block, expression, value, topic, now + c.lifetimes.of topic⟩
        (c.sweep now swept).entries } := by
  simp only [set, htopic, (dropsExpired_sweep now swept c).lifetimes]

lemma set_of_error {error : NumberError} (htopic : Expression.topicOf expression = .error error)
    (now swept : Double) (block : String) (value : Bool) (c : Cache) :
    c.set now swept block expression value = (c.sweep now swept, .error error) := by
  rw [set, htopic]

lemma lifetimes_set (now swept : Double) (block expression : String) (value : Bool) (c : Cache) :
    (c.set now swept block expression value).1.lifetimes = c.lifetimes := by
  rw [← (dropsExpired_sweep now swept c).lifetimes]
  unfold set
  split <;> rfl

lemma lifetimes_get (now : Double) (block expression : String) (c : Cache) :
    (c.get now block expression).1.lifetimes = c.lifetimes := by
  unfold get
  split
  · rfl
  · split <;> rfl

lemma WellFormed.set (h : c.WellFormed) (now swept : Double) (block expression : String)
    (value : Bool) : (c.set now swept block expression value).1.WellFormed := by
  have hsweep := h.of_sublist (dropsExpired_sweep now swept c).sublist
  cases htopic : Expression.topicOf expression with
  | error error =>
    rw [set_of_error htopic]
    exact hsweep
  | ok topic =>
    rw [set_of_topicOf htopic]
    refine ⟨nodup_place hsweep.distinct _, fun e he => ?_⟩
    rcases (mem_place hsweep.distinct).mp he with rfl | ⟨he, -⟩
    · exact htopic
    · exact hsweep.topics e he

/-- An answer that is stored is given until it expires. -/
lemma answer?_set_self (h : c.WellFormed) {topic : Topic}
    (htopic : Expression.topicOf expression = .ok topic) (now swept later : Double) (block : String)
    (value : Bool) :
    (c.set now swept block expression value).1.answer? later block expression =
      if later.ge (now + c.lifetimes.of topic) then none else some value := by
  have hsweep := h.of_sublist (dropsExpired_sweep now swept c).sublist
  ext other
  rw [answer?_eq_some_iff (h.set now swept block expression value), set_of_topicOf htopic]
  constructor
  · rintro ⟨e, he, hkey, hgood, rfl⟩
    rcases (mem_place hsweep.distinct).mp he with rfl | ⟨-, hne⟩
    · have hgood : later.ge (now + c.lifetimes.of topic) = false := hgood
      simp [hgood]
    · exact absurd hkey hne
  · intro hother
    rw [Option.ite_none_left_eq_some] at hother
    obtain ⟨hgood, hvalue⟩ := hother
    refine ⟨_, (mem_place hsweep.distinct).mpr (.inl rfl), rfl, ?_, Option.some.inj hvalue⟩
    exact eq_false_of_ne_true hgood

/-- Storing an answer leaves all others, as they are seen after the sweep. -/
lemma answer?_set_of_ne (h : c.WellFormed) (hlater : later.ge swept = true) {stored asked : String}
    (hne : (block, expression) ≠ (stored, asked)) (now : Double) (value : Bool) :
    (c.set now swept stored asked value).1.answer? later block expression =
      c.answer? later block expression := by
  have hdrop := dropsExpired_sweep now swept c
  have hsweep := h.of_sublist hdrop.sublist
  rw [← hdrop.answer?_eq h hlater]
  cases htopic : Expression.topicOf asked with
  | error error => rw [set_of_error htopic]
  | ok topic =>
    ext other
    rw [answer?_eq_some_iff (h.set now swept stored asked value), answer?_eq_some_iff hsweep,
      set_of_topicOf htopic]
    constructor
    · rintro ⟨e, he, hkey, hrest⟩
      rcases (mem_place hsweep.distinct).mp he with rfl | ⟨he, -⟩
      · exact absurd hkey.symm hne
      · exact ⟨e, he, hkey, hrest⟩
    · rintro ⟨e, he, hkey, hrest⟩
      refine ⟨e, (mem_place hsweep.distinct).mpr (.inr ⟨he, ?_⟩), hkey, hrest⟩
      rw [hkey]
      exact hne

end Cache

end BlockScript
