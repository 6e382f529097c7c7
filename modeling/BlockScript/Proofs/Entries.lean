import BlockScript.Entries
import Mathlib.Data.List.Induction
import Mathlib.Data.List.Nodup
import Mathlib.Tactic.Common

/-!
# Looking up entries

`Entries.get?` after `put` and `update`. Each operation keeps names distinct, and with distinct names
the later values win. Names stand in the order in which they are first set.
-/

namespace BlockScript

/-! ### First occurrences -/

section FirstOccurrences

variable {α : Type} [DecidableEq α]

lemma nodup_eraseDups : (l : List α) → l.eraseDups.Nodup
  | [] => List.nodup_nil
  | a :: l => by
    rw [List.eraseDups_cons, List.nodup_cons, List.mem_eraseDups]
    exact ⟨by simp, nodup_eraseDups _⟩
termination_by l => l.length
decreasing_by
  have := List.length_filter_le (fun b => !b == a) l
  simp only [List.length_cons]; omega

lemma eraseDups_concat (l : List α) (a : α) :
    (l ++ [a]).eraseDups = if a ∈ l then l.eraseDups else l.eraseDups ++ [a] := by
  rw [List.eraseDups_append]
  split
  next h => simp [List.removeAll, h]
  next h => simp [List.removeAll, h, List.eraseDups_cons]

lemma eraseDups_of_nodup {l : List α} (h : l.Nodup) : l.eraseDups = l := by
  induction l using List.reverseRecOn with
  | nil => rfl
  | append_singleton l a ih =>
    obtain ⟨hl, -, hdisjoint⟩ := List.nodup_append.mp h
    rw [eraseDups_concat, if_neg (fun ha => hdisjoint a ha a (by simp) rfl), ih hl]

lemma eraseDups_eraseDups_append (l r : List α) :
    (l.eraseDups ++ r).eraseDups = (l ++ r).eraseDups := by
  have hsame : r.removeAll l.eraseDups = r.removeAll l := by simp [List.removeAll]
  rw [List.eraseDups_append, List.eraseDups_append, eraseDups_of_nodup (nodup_eraseDups l), hsame]

/-- Without its repetitions a list is in the order in which its members first occur. -/
lemma pairwise_idxOf_eraseDups (l : List α) :
    l.eraseDups.Pairwise fun a b => l.idxOf a < l.idxOf b := by
  induction l using List.reverseRecOn with
  | nil => exact List.Pairwise.nil
  | append_singleton l c ih =>
    have hkeep : l.eraseDups.Pairwise fun a b => (l ++ [c]).idxOf a < (l ++ [c]).idxOf b := by
      refine ih.imp_of_mem fun {a b} ha hb hlt => ?_
      rw [List.idxOf_append_of_mem (List.mem_eraseDups.mp ha),
        List.idxOf_append_of_mem (List.mem_eraseDups.mp hb)]
      exact hlt
    rw [eraseDups_concat]
    split
    next => exact hkeep
    next hc =>
      refine List.pairwise_append.mpr ⟨hkeep, List.pairwise_singleton _ _, fun a ha b hb => ?_⟩
      have hmem := List.mem_eraseDups.mp ha
      rw [List.mem_singleton.mp hb, List.idxOf_append_of_mem hmem, List.idxOf_append_of_notMem hc]
      have := List.idxOf_lt_length_of_mem hmem
      omega

end FirstOccurrences

namespace Entries

variable {α : Type} {es more : Entries α} {name n : String} {value v : α}

/-- Whether no name is set twice. -/
def Distinct (es : Entries α) : Prop :=
  (es.map (·.1)).Nodup

@[simp] lemma get?_nil : get? ([] : Entries α) n = none := rfl

lemma get?_cons : get? ((name, value) :: es) n = if name = n then some value else get? es n := by
  by_cases h : name = n <;> simp [get?, h]

@[simp] lemma get?_put : get? (put name value es) n = if name = n then some value else get? es n := by
  induction es with
  | nil => rw [put, get?_cons, get?_nil]
  | cons e es ih =>
    obtain ⟨m, w⟩ := e
    rw [put]
    split
    next h =>
      subst h
      rw [get?_cons, get?_cons]
      split <;> rfl
    next h =>
      rw [get?_cons, get?_cons, ih]
      split
      next hm => rw [if_neg (fun hn => h (hm.trans hn.symm))]
      next => rfl

lemma get?_eq_none_of_not_mem (h : n ∉ es.map (·.1)) : get? es n = none := by
  induction es with
  | nil => rfl
  | cons e es ih =>
    obtain ⟨m, w⟩ := e
    rw [List.map_cons, List.mem_cons, not_or] at h
    rw [get?_cons, if_neg (Ne.symm h.1), ih h.2]

/-- Dropping what is set under other names. -/
lemma get?_filter {p : String → Bool} (h : p n = true) (es : Entries α) :
    get? (es.filter (p ·.1)) n = get? es n := by
  induction es with
  | nil => rfl
  | cons e es ih =>
    obtain ⟨m, w⟩ := e
    rw [List.filter_cons, get?_cons]
    split
    next => rw [get?_cons, ih]
    next hm =>
      rw [ih, if_neg]
      rintro rfl
      exact hm h

/-- Dropping what is set under a name. -/
lemma get?_filter_ne (es : Entries α) (name n : String) :
    get? (es.filter (·.1 != name)) n = if n = name then none else get? es n := by
  split
  next h =>
    apply get?_eq_none_of_not_mem
    simp [h]
  next h => exact get?_filter (p := (· != name)) (by simp [h]) es

/-- Later values win. -/
lemma get?_update (h : more.Distinct) : get? (update es more) n = (get? more n).or (get? es n) := by
  induction more generalizing es with
  | nil => rfl
  | cons e more ih =>
    obtain ⟨m, w⟩ := e
    obtain ⟨hm, hmore⟩ := List.nodup_cons.mp h
    change get? (update (put m w es) more) n = _
    rw [ih hmore, get?_put, get?_cons]
    split
    next hmn => rw [get?_eq_none_of_not_mem (hmn ▸ hm)]; rfl
    next => rfl

lemma get?_update_of_not_mem (h : n ∉ more.map (·.1)) : get? (update es more) n = get? es n := by
  induction more generalizing es with
  | nil => rfl
  | cons e more ih =>
    rw [List.map_cons, List.mem_cons, not_or] at h
    change get? (update (put e.1 e.2 es) more) n = _
    rw [ih h.2, get?_put, if_neg (Ne.symm h.1)]

/-- The last value that is set is the one that is found. -/
lemma get?_ofPairs_of_last {front back : List (String × α)} (h : name ∉ back.map (·.1)) :
    get? (ofPairs (front ++ (name, value) :: back)) name = some value := by
  rw [ofPairs, update, List.foldl_append]
  change get? (update (put name value (update [] front)) back) name = _
  rw [get?_update_of_not_mem h, get?_put, if_pos rfl]

/-! ### Names and values -/

lemma map_fst_put (es : Entries α) :
    (put name value es).map (·.1) =
      if name ∈ es.map (·.1) then es.map (·.1) else es.map (·.1) ++ [name] := by
  induction es with
  | nil => rfl
  | cons e es ih =>
    obtain ⟨m, w⟩ := e
    rw [put]
    by_cases h : m = name
    · simp [h]
    · rw [if_neg h, List.map_cons, ih]
      simp only [List.map_cons, List.mem_cons, Ne.symm h, false_or]
      split <;> rfl

lemma Distinct.put (h : es.Distinct) : (put name value es).Distinct := by
  rw [Distinct, map_fst_put]
  split
  next => exact h
  next hname => exact List.nodup_append_comm.mp (List.nodup_cons.mpr ⟨hname, h⟩)

lemma put_ne_nil (name : String) (value : α) (es : Entries α) : put name value es ≠ [] := by
  fun_cases put name value es <;> exact List.cons_ne_nil _ _

lemma update_ne_nil (h : es ≠ []) : update es more ≠ [] := by
  induction more generalizing es with
  | nil => exact h
  | cons e more ih => exact ih (put_ne_nil e.1 e.2 es)

lemma Distinct.update (h : es.Distinct) : (update es more).Distinct := by
  induction more generalizing es with
  | nil => exact h
  | cons e more ih => exact ih h.put

/-- New names are added behind the old ones, each where it is first set. -/
lemma map_fst_update (h : es.Distinct) (more : Entries α) :
    (es.update more).map (·.1) = (es.map (·.1) ++ more.map (·.1)).eraseDups := by
  induction more generalizing es with
  | nil =>
    rw [List.map_nil, List.append_nil, eraseDups_of_nodup h]
    rfl
  | cons e more ih =>
    have hput : (es.put e.1 e.2).map (·.1) = (es.map (·.1) ++ [e.1]).eraseDups := by
      rw [map_fst_put, eraseDups_concat, eraseDups_of_nodup h]
    calc ((es.put e.1 e.2).update more).map (·.1)
        = ((es.put e.1 e.2).map (·.1) ++ more.map (·.1)).eraseDups := ih h.put
      _ = (es.map (·.1) ++ [e.1] ++ more.map (·.1)).eraseDups := by
        rw [hput, eraseDups_eraseDups_append]
      _ = (es.map (·.1) ++ (e :: more).map (·.1)).eraseDups := by
        rw [List.append_assoc, List.singleton_append, List.map_cons]

lemma distinct_ofPairs (pairs : List (String × α)) : (ofPairs pairs).Distinct :=
  Distinct.update List.nodup_nil

lemma mem_values_put (h : v ∈ (put name value es).map (·.2)) : v = value ∨ v ∈ es.map (·.2) := by
  induction es with
  | nil => simpa [Entries.put] using h
  | cons e es ih =>
    obtain ⟨m, w⟩ := e
    rw [Entries.put] at h
    split at h
    · rcases List.mem_cons.mp h with h | h
      · exact .inl h
      · exact .inr (List.mem_cons_of_mem _ h)
    · rcases List.mem_cons.mp h with h | h
      · exact .inr (h ▸ List.mem_cons_self)
      · exact (ih h).imp_right (List.mem_cons_of_mem _)

lemma mem_values_update (h : v ∈ (update es more).map (·.2)) :
    v ∈ more.map (·.2) ∨ v ∈ es.map (·.2) := by
  induction more generalizing es with
  | nil => exact .inr h
  | cons e more ih =>
    rcases ih h with h | h
    · exact .inl (List.mem_cons_of_mem _ h)
    · rcases mem_values_put h with rfl | h
      · exact .inl List.mem_cons_self
      · exact .inr h

lemma mem_values_ofPairs {pairs : List (String × α)} (h : v ∈ (ofPairs pairs).map (·.2)) :
    v ∈ pairs.map (·.2) := by
  simpa using mem_values_update h

lemma put_of_not_mem (h : name ∉ es.map (·.1)) (value : α) :
    put name value es = es ++ [(name, value)] := by
  induction es with
  | nil => rfl
  | cons e es ih =>
    obtain ⟨m, w⟩ := e
    rw [List.map_cons, List.mem_cons, not_or] at h
    rw [put, if_neg (Ne.symm h.1), ih h.2, List.cons_append]

lemma update_of_distinct (h : Distinct (es ++ more)) : update es more = es ++ more := by
  induction more generalizing es with
  | nil => rw [List.append_nil]; rfl
  | cons e more ih =>
    obtain ⟨m, w⟩ := e
    have hput : put m w es = es ++ [(m, w)] := by
      refine put_of_not_mem (fun hm => ?_) w
      rw [Distinct, List.map_append, List.map_cons] at h
      exact List.disjoint_of_nodup_append h hm List.mem_cons_self
    change update (put m w es) more = _
    rw [List.append_cons] at h ⊢
    rw [hput, ih h]

/-- Pairs with distinct names are entries already. -/
lemma ofPairs_of_distinct (h : es.Distinct) : ofPairs es = es :=
  update_of_distinct h

end Entries

end BlockScript
