import BlockScript.Proofs.Optimization.Consolidation

/-!
# Optimized lists

A list of instructions is optimized if every instruction sets something, no two of them can be merged,
and the buckets are in order. Optimization makes such a list of every list and leaves it alone from then
on (`Optimization.optimize_optimize`); it changes every other list (`Optimization.optimize_eq_self_iff`).
-/

namespace BlockScript.Optimization

open Instruction

variable {is merged : List Instruction} {i : Instruction}

/-- What optimization leaves. -/
structure Optimized (is : List Instruction) : Prop where
  live : ∀ i ∈ is, i.isLive = true
  /-- No two instructions can be merged. -/
  keys : (is.map (·.mergeKey)).Nodup
  order : is.Pairwise fun a b => a.bucket ≤ b.bucket

/-! ### Sorting by bucket -/

lemma bucket_le_trans (a b c : Instruction) (hab : decide (a.bucket ≤ b.bucket) = true)
    (hbc : decide (b.bucket ≤ c.bucket) = true) : decide (a.bucket ≤ c.bucket) = true :=
  decide_eq_true (Int.le_trans (of_decide_eq_true hab) (of_decide_eq_true hbc))

lemma bucket_le_total (a b : Instruction) :
    (decide (a.bucket ≤ b.bucket) || decide (b.bucket ≤ a.bucket)) = true := by
  simpa using Int.le_total a.bucket b.bucket

lemma perm_sortByBucket (is : List Instruction) : (sortByBucket is).Perm is :=
  List.mergeSort_perm is _

lemma pairwise_sortByBucket (is : List Instruction) :
    (sortByBucket is).Pairwise fun a b => a.bucket ≤ b.bucket :=
  (List.pairwise_mergeSort bucket_le_trans bucket_le_total is).imp of_decide_eq_true

/-- Sorting leaves the instructions of one bucket in their order. -/
lemma filter_sortByBucket (bucket : Bucket) (is : List Instruction) :
    (sortByBucket is).filter (·.bucket = bucket) = is.filter (·.bucket = bucket) := by
  have hsublist : (is.filter (·.bucket = bucket)).Sublist (sortByBucket is) := by
    refine List.sublist_mergeSort bucket_le_trans bucket_le_total ?_ List.filter_sublist
    refine List.pairwise_of_forall_mem_list fun i hi j hj => ?_
    have hib := of_decide_eq_true (List.mem_filter.mp hi).2
    have hjb := of_decide_eq_true (List.mem_filter.mp hj).2
    simp [hib, hjb]
  have hfilter := hsublist.filter (·.bucket = bucket)
  rw [List.filter_filter] at hfilter
  simp only [Bool.and_self] at hfilter
  have hperm := (perm_sortByBucket is).filter (·.bucket = bucket)
  exact (hfilter.eq_of_length hperm.length_eq.symm).symm

/-! ### The passes on optimized lists -/

lemma absorb_of_not_mem (h : i.mergeKey ∉ merged.map (·.mergeKey)) :
    absorb i merged = merged ++ [i] := by
  rcases absorb_cases i merged with ⟨-, habsorb⟩ | ⟨front, head, back, rfl, hkey, -⟩
  · exact habsorb
  · exact absurd (List.mem_map.mpr ⟨head, by simp, hkey⟩) h

/-- Where no two instructions share a key, nothing is merged. -/
lemma consolidate_of_nodup (h : (is.map (·.mergeKey)).Nodup) : consolidate is = is := by
  induction is using List.reverseRecOn with
  | nil => rfl
  | append_singleton is i ih =>
    rw [List.map_append, List.map_singleton, List.nodup_append] at h
    obtain ⟨hinit, -, hdisjoint⟩ := h
    have hnew : i.mergeKey ∉ is.map (·.mergeKey) := fun hmem =>
      hdisjoint _ hmem _ (List.mem_singleton_self _) rfl
    rw [consolidate_concat, ih hinit, absorb_of_not_mem hnew]

lemma sortByBucket_of_pairwise (h : is.Pairwise fun a b => a.bucket ≤ b.bucket) :
    sortByBucket is = is :=
  List.mergeSort_of_pairwise (h.imp fun hle => decide_eq_true hle)

/-! ### What the passes establish -/

lemma live_absorb (hmerged : ∀ m ∈ merged, m.isLive = true) (hi : i.isLive = true) :
    ∀ m ∈ absorb i merged, m.isLive = true := by
  rcases absorb_cases i merged with ⟨-, habsorb⟩ | ⟨front, head, back, rfl, -, habsorb⟩
  · rw [habsorb, List.forall_mem_append, List.forall_mem_singleton]
    exact ⟨hmerged, hi⟩
  · rw [List.forall_mem_append, List.forall_mem_cons] at hmerged
    obtain ⟨hfront, hhead, hback⟩ := hmerged
    rw [habsorb, List.forall_mem_append, List.forall_mem_cons]
    exact ⟨hfront, isLive_setParameters hhead _, hback⟩

lemma nodup_absorb (h : (merged.map (·.mergeKey)).Nodup) (i : Instruction) :
    ((absorb i merged).map (·.mergeKey)).Nodup := by
  rcases absorb_cases i merged with ⟨hnew, habsorb⟩ | ⟨front, head, back, rfl, -, habsorb⟩
  · rw [habsorb, List.map_append, List.map_singleton, ← List.concat_eq_append]
    exact h.concat hnew
  · rw [habsorb]
    simpa using h

lemma live_consolidate (h : ∀ i ∈ is, i.isLive = true) : ∀ m ∈ consolidate is, m.isLive = true := by
  induction is using List.reverseRecOn with
  | nil => exact h
  | append_singleton is i ih =>
    rw [List.forall_mem_append, List.forall_mem_singleton] at h
    rw [consolidate_concat]
    exact live_absorb (ih h.1) h.2

lemma nodup_consolidate (is : List Instruction) : ((consolidate is).map (·.mergeKey)).Nodup := by
  induction is using List.reverseRecOn with
  | nil => exact List.nodup_nil
  | append_singleton is i ih =>
    rw [consolidate_concat]
    exact nodup_absorb ih i

/-- Every list is optimized once it has gone through all passes. -/
theorem optimized_optimize (is : List Instruction) : Optimized (optimize is) := by
  have hperm := perm_sortByBucket (consolidate (is.filter (·.isLive)))
  refine ⟨fun i hi => ?_, ?_, pairwise_sortByBucket _⟩
  · exact live_consolidate (fun j hj => (List.mem_filter.mp hj).2) i (hperm.mem_iff.mp hi)
  · exact (hperm.map _).nodup_iff.mpr (nodup_consolidate _)

/-! ### Optimizing again -/

/-- An optimized list stays as it is, and the report says so. -/
lemma Optimized.optimizeWithReport_eq (h : Optimized is) :
    optimizeWithReport is = (is, ⟨is.length, 0, 0, is.length⟩) := by
  have hlive : is.filter (·.isLive) = is := List.filter_eq_self.mpr h.live
  simp only [optimizeWithReport, hlive, consolidate_of_nodup h.keys, sortByBucket_of_pairwise h.order,
    Nat.sub_self]

/-- The lists that optimization leaves alone are the optimized ones. -/
theorem optimize_eq_self_iff : optimize is = is ↔ Optimized is := by
  constructor
  · intro h
    rw [← h]
    exact optimized_optimize is
  · intro h
    exact congrArg Prod.fst h.optimizeWithReport_eq

/-- Optimization gives an optimized list, and optimizing that again changes nothing: no instruction is
removed, and none is merged into another. -/
theorem optimize_optimize (is : List Instruction) :
    Optimized (optimize is) ∧ optimize (optimize is) = optimize is ∧
      optimizeWithReport (optimize is) =
        (optimize is, ⟨(optimize is).length, 0, 0, (optimize is).length⟩) :=
  ⟨optimized_optimize is, optimize_eq_self_iff.mpr (optimized_optimize is),
    (optimized_optimize is).optimizeWithReport_eq⟩

end BlockScript.Optimization
