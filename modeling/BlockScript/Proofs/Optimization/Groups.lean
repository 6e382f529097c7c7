import BlockScript.Proofs.Optimization.NormalForm
import Mathlib.Data.List.Permutation

/-!
# What optimization makes of a list

Of the instructions that set something, those with one merge key become one instruction, at the place
of the first of them. The result is sorted by bucket, and inside a bucket nothing changes place. The
report accounts for every instruction (`Optimization.optimizeWithReport_groups`).
-/

namespace BlockScript.Optimization

open Instruction

variable {is : List Instruction}

/-- A list in the order of the buckets; inside a bucket nothing changes place. -/
structure StablySorted (is sorted : List Instruction) : Prop where
  perm : sorted.Perm is
  order : sorted.Pairwise fun a b => a.bucket ≤ b.bucket
  stable : ∀ bucket : Bucket, sorted.filter (·.bucket = bucket) = is.filter (·.bucket = bucket)

lemma stablySorted_sortByBucket (is : List Instruction) : StablySorted is (sortByBucket is) :=
  ⟨perm_sortByBucket is, pairwise_sortByBucket is, fun bucket => filter_sortByBucket bucket is⟩

/-- The instructions that set something. -/
def setting (is : List Instruction) : List Instruction :=
  is.filter (!·.parameters.isEmpty)

lemma filter_isLive (is : List Instruction) : is.filter (·.isLive) = setting is := by
  refine List.filter_congr fun i _ => ?_
  rw [Bool.eq_iff_iff, isLive_iff, Bool.not_eq_true', List.isEmpty_eq_false_iff]

/-- The groups, one by one under their keys. -/
lemma Grouped.forall₂ {merged : List Instruction} (h : Grouped is merged) :
    List.Forall₂ (fun key m => Merges (sharing key is) m) (is.map (·.mergeKey)).eraseDups merged := by
  rw [← h.keys, List.forall₂_map_left_iff, List.forall₂_same]
  exact fun m hm => (h.merges m hm).2

/-- Merging makes no instructions. -/
lemma Grouped.length_le {merged : List Instruction} (h : Grouped is merged) :
    merged.length ≤ is.length := by
  have hsubset : merged.map (·.mergeKey) ⊆ is.map (·.mergeKey) := fun key => (h.mem_keys key).mp
  have hnodup : (merged.map (·.mergeKey)).Nodup := h.keys ▸ nodup_eraseDups _
  simpa using (List.subperm_of_subset hnodup hsubset).length_le

/-- Optimization makes one instruction for each merge key, in the order in which the keys first occur:
the first instruction with the key, with all parameters that one of them sets, each at its last value.
The list is then sorted by bucket, and the report counts what became of the instructions. -/
theorem optimizeWithReport_groups (is : List Instruction)
    (hdistinct : ∀ i ∈ is, i.parameters.Distinct) :
    let optimized := (optimizeWithReport is).1
    let report := (optimizeWithReport is).2
    ∃ groups,
      List.Forall₂ (fun key m => Merges (sharing key (setting is)) m)
        ((setting is).map (·.mergeKey)).eraseDups groups ∧
      StablySorted groups optimized ∧
      report.before = is.length ∧ report.after = optimized.length ∧
      report.removed + (setting is).length = is.length ∧
      report.merged + groups.length = (setting is).length ∧
      report.removed + report.merged + report.after = report.before := by
  intro optimized report
  have hlive : ∀ i ∈ setting is, i.isLive = true := by
    rw [← filter_isLive]
    exact fun i hi => (List.mem_filter.mp hi).2
  have hgrouped : Grouped (setting is) (consolidate (setting is)) :=
    grouped_consolidate hlive fun i hi => hdistinct i (List.mem_of_mem_filter hi)
  have hsorted := stablySorted_sortByBucket (consolidate (setting is))
  have hoptimized : optimizeWithReport is =
      (sortByBucket (consolidate (setting is)),
        ⟨is.length, is.length - (setting is).length,
          (setting is).length - (consolidate (setting is)).length,
          (consolidate (setting is)).length⟩) := by
    rw [optimizeWithReport, filter_isLive]
  have hsetting : (setting is).length ≤ is.length := List.length_filter_le _ _
  have hmerged := hgrouped.length_le
  refine ⟨consolidate (setting is), hgrouped.forall₂, ?_, ?_⟩
  · simpa only [optimized, hoptimized] using hsorted
  · simp only [report, optimized, hoptimized, hsorted.perm.length_eq, true_and]
    omega

/-- An instruction for the background of a block. -/
private def background (id : String) (bucket : Bucket) (effect : String)
    (parameters : Entries Scalar) : Instruction where
  id := id
  bucket := bucket
  subject := some "background"
  target := ⟨"content", some "content", none, none, .block⟩
  effect := some ⟨effect, parameters⟩
  outcome := none
  conditions := []
  origin := none
  children := []

/-- Two styles become one before the layout, and what sets nothing is gone. -/
theorem optimizeWithReport_groups_background :
    let is := [background "spread" .layout "width" [("width", .int 3)],
      background "paint" .visual "color" [("color", .text "red")],
      background "rest" .visual "color" [],
      background "blur" .visual "color" [("blur", .int 2), ("color", .text "blue")]]
    (∀ i ∈ is, i.parameters.Distinct) ∧
      optimizeWithReport is =
        ([background "paint" .visual "color" [("color", .text "blue"), ("blur", .int 2)],
          background "spread" .layout "width" [("width", .int 3)]], ⟨4, 1, 1, 2⟩) ∧
      ∃ groups,
        List.Forall₂ (fun key m => Merges (sharing key (setting is)) m)
          ((setting is).map (·.mergeKey)).eraseDups groups ∧
        StablySorted groups (optimizeWithReport is).1 := by
  intro is
  have hdistinct : ∀ i ∈ is, i.parameters.Distinct := by
    simp [is, background, Instruction.parameters, Entries.Distinct]
  obtain ⟨groups, hgroups, hsorted, -⟩ := optimizeWithReport_groups is hdistinct
  exact ⟨hdistinct, by cbv, groups, hgroups, hsorted⟩

end BlockScript.Optimization
