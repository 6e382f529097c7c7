import BlockScript.Instruction.Optimization
import BlockScript.Proofs.Entries
import Mathlib.Data.List.Induction

/-!
# Consolidation

Consolidating makes one instruction of all that share a merge key: the first of them, with every
parameter that one of them sets, at its last value. These instructions come in the order in which the
keys first occur (`Optimization.grouped_consolidate`).
-/

namespace BlockScript

open Instruction

/-! ### Merging -/

namespace Instruction

@[simp] lemma mergeKey_setParameters (i : Instruction) (more : Entries Scalar) :
    (i.setParameters more).mergeKey = i.mergeKey := by
  unfold mergeKey setParameters
  cases i.effect <;> rfl

lemma parameters_setParameters {i : Instruction} (h : i.isLive = true) (more : Entries Scalar) :
    (i.setParameters more).parameters = i.parameters.update more := by
  cases heffect : i.effect with
  | none => simp [isLive, heffect] at h
  | some effect => simp [parameters, setParameters, heffect]

lemma isLive_iff {i : Instruction} : i.isLive = true ↔ i.parameters ≠ [] := by
  cases heffect : i.effect <;> simp [isLive, parameters, heffect]

lemma isLive_setParameters {i : Instruction} (h : i.isLive = true) (more : Entries Scalar) :
    (i.setParameters more).isLive = true := by
  rw [isLive_iff, parameters_setParameters h]
  exact Entries.update_ne_nil (isLive_iff.mp h)

/-- An instruction with other parameters. -/
def withParameters (i : Instruction) (parameters : Entries Scalar) : Instruction :=
  { i with effect := i.effect.map fun e => ⟨e.name, parameters⟩ }

lemma withParameters_self (i : Instruction) : i.withParameters i.parameters = i := by
  obtain ⟨id, bucket, subject, target, effect, outcome, conditions, origin, children⟩ := i
  cases effect <;> rfl

/-- Setting parameters changes nothing else. -/
lemma setParameters_withParameters (i : Instruction) (es more : Entries Scalar) :
    (i.withParameters es).setParameters more = i.withParameters (es.update more) := by
  unfold setParameters withParameters
  cases i.effect <;> rfl

end Instruction

namespace Optimization

variable {is merged group : List Instruction} {i m : Instruction} {name : String}

/-- An instruction is merged into the one with its key, or it is new. -/
lemma absorb_cases (i : Instruction) (merged : List Instruction) :
    (i.mergeKey ∉ merged.map (·.mergeKey) ∧ absorb i merged = merged ++ [i]) ∨
      ∃ front head back, merged = front ++ head :: back ∧ head.mergeKey = i.mergeKey ∧
        absorb i merged = front ++ head.setParameters i.parameters :: back := by
  induction merged with
  | nil => exact .inl ⟨List.not_mem_nil, rfl⟩
  | cons m merged ih =>
    unfold absorb
    split
    next hkey => exact .inr ⟨[], m, merged, rfl, hkey, rfl⟩
    next hkey =>
      rcases ih with ⟨hnew, habsorb⟩ | ⟨front, head, back, rfl, hhead, habsorb⟩
      · refine .inl ⟨?_, by rw [habsorb, List.cons_append]⟩
        rw [List.map_cons, List.mem_cons, not_or]
        exact ⟨Ne.symm hkey, hnew⟩
      · exact .inr ⟨m :: front, head, back, rfl, hhead, by rw [habsorb, List.cons_append]⟩

/-- The last value that some instructions give a parameter. -/
def lastValue? (name : String) (is : List Instruction) : Option Scalar :=
  (is.filterMap (·.parameters.get? name)).getLast?

lemma lastValue?_concat :
    lastValue? name (is ++ [i]) = (i.parameters.get? name).or (lastValue? name is) := by
  rw [lastValue?, List.filterMap_append, List.getLast?_append]
  cases h : i.parameters.get? name <;> simp [h, lastValue?]

/-- The instructions with a merge key. -/
def sharing (key : MergeKey) (is : List Instruction) : List Instruction :=
  is.filter (·.mergeKey = key)

lemma sharing_concat_self : sharing i.mergeKey (is ++ [i]) = sharing i.mergeKey is ++ [i] := by
  simp [sharing]

lemma sharing_concat_of_ne {key : MergeKey} (h : i.mergeKey ≠ key) :
    sharing key (is ++ [i]) = sharing key is := by
  simp [sharing, h]

lemma sharing_eq_nil {key : MergeKey} (h : key ∉ is.map (·.mergeKey)) : sharing key is = [] := by
  rw [sharing, List.filter_eq_nil_iff]
  intro j hj hkey
  exact h (List.mem_map.mpr ⟨j, hj, of_decide_eq_true hkey⟩)

/-! ### Groups -/

/-- The names that some instructions set, each where it is first set. -/
def parameterNames (is : List Instruction) : List String :=
  (is.flatMap (·.parameters.map (·.1))).eraseDups

/-- Some instructions made one: the first of them, with all parameters that they set. -/
structure Merges (group : List Instruction) (m : Instruction) : Prop where
  first : ∃ first, group.head? = some first ∧ m = first.withParameters m.parameters
  names : m.parameters.map (·.1) = parameterNames group
  /-- The last value wins. -/
  value : ∀ name, m.parameters.get? name = lastValue? name group

lemma merges_singleton (h : i.parameters.Distinct) : Merges [i] i where
  first := ⟨i, rfl, i.withParameters_self.symm⟩
  names := by simp [parameterNames, eraseDups_of_nodup h]
  value name := by simp [lastValue?]

lemma Merges.distinct (h : Merges group m) : m.parameters.Distinct := by
  rw [Entries.Distinct, h.names]
  exact nodup_eraseDups _

/-- One more instruction in the group. -/
lemma Merges.concat (h : Merges group m) (hlive : m.isLive = true)
    (hdistinct : i.parameters.Distinct) :
    Merges (group ++ [i]) (m.setParameters i.parameters) := by
  have hparameters := parameters_setParameters hlive i.parameters
  obtain ⟨first, hfirst, heq⟩ := h.first
  refine ⟨⟨first, ?_, ?_⟩, ?_, fun name => ?_⟩
  · rw [List.head?_append, hfirst, Option.some_or]
  · rw [hparameters, ← setParameters_withParameters, ← heq]
  · rw [hparameters, Entries.map_fst_update h.distinct, h.names, parameterNames, parameterNames,
      eraseDups_eraseDups_append, List.flatMap_append, List.flatMap_singleton]
  · rw [hparameters, Entries.get?_update hdistinct, h.value, lastValue?_concat]

/-- A list with one instruction for every group of instructions that share a merge key. -/
structure Grouped (is merged : List Instruction) : Prop where
  /-- The keys are in the order in which they first occur. -/
  keys : merged.map (·.mergeKey) = (is.map (·.mergeKey)).eraseDups
  merges : ∀ m ∈ merged, m.isLive = true ∧ Merges (sharing m.mergeKey is) m

lemma Grouped.mem_keys (h : Grouped is merged) (key : MergeKey) :
    key ∈ merged.map (·.mergeKey) ↔ key ∈ is.map (·.mergeKey) := by
  rw [h.keys, List.mem_eraseDups]

/-- An instruction with a new key begins a group. -/
lemma Grouped.append (h : Grouped is merged) (hlive : i.isLive = true)
    (hdistinct : i.parameters.Distinct) (hnew : i.mergeKey ∉ merged.map (·.mergeKey)) :
    Grouped (is ++ [i]) (merged ++ [i]) := by
  have hfresh : i.mergeKey ∉ is.map (·.mergeKey) := fun hmem => hnew ((h.mem_keys _).mpr hmem)
  constructor
  · rw [List.map_append, List.map_append, List.map_singleton, eraseDups_concat, if_neg hfresh,
      h.keys]
  · intro m hm
    rcases List.mem_append.mp hm with hm | hm
    · have hne : i.mergeKey ≠ m.mergeKey := fun heq => hnew (heq ▸ List.mem_map_of_mem hm)
      rw [sharing_concat_of_ne hne]
      exact h.merges m hm
    · rw [List.mem_singleton.mp hm, sharing_concat_self, sharing_eq_nil hfresh, List.nil_append]
      exact ⟨hlive, merges_singleton hdistinct⟩

/-- Any other instruction joins the group with its key. -/
lemma Grouped.merge {front back : List Instruction} {head : Instruction}
    (h : Grouped is (front ++ head :: back)) (hkey : head.mergeKey = i.mergeKey)
    (hdistinct : i.parameters.Distinct) :
    Grouped (is ++ [i]) (front ++ head.setParameters i.parameters :: back) := by
  have hmem : head ∈ front ++ head :: back := by simp
  have hold : i.mergeKey ∈ is.map (·.mergeKey) :=
    hkey ▸ (h.mem_keys _).mp (List.mem_map_of_mem hmem)
  have hnodup : ((front ++ head :: back).map (·.mergeKey)).Nodup := h.keys ▸ nodup_eraseDups _
  rw [List.map_append, List.map_cons, List.nodup_middle, ← List.map_append] at hnodup
  constructor
  · have hconcat : ((is ++ [i]).map (·.mergeKey)).eraseDups = (is.map (·.mergeKey)).eraseDups := by
      rw [List.map_append, List.map_singleton, eraseDups_concat, if_pos hold]
    rw [hconcat, ← h.keys]
    simp
  · have hother : ∀ m ∈ front ++ back,
        m.isLive = true ∧ Merges (sharing m.mergeKey (is ++ [i])) m := by
      intro m hm
      have hne : i.mergeKey ≠ m.mergeKey := by
        rw [← hkey]
        exact fun heq => (List.nodup_cons.mp hnodup).1 (heq ▸ List.mem_map_of_mem hm)
      rw [sharing_concat_of_ne hne]
      exact h.merges m (by grind)
    have hhead : (head.setParameters i.parameters).isLive = true ∧
        Merges (sharing (head.setParameters i.parameters).mergeKey (is ++ [i]))
          (head.setParameters i.parameters) := by
      obtain ⟨hlive, hmerges⟩ := h.merges head hmem
      rw [hkey] at hmerges
      rw [mergeKey_setParameters, hkey, sharing_concat_self]
      exact ⟨isLive_setParameters hlive _, hmerges.concat hlive hdistinct⟩
    rw [List.forall_mem_append] at hother
    rw [List.forall_mem_append, List.forall_mem_cons]
    exact ⟨hother.1, hhead, hother.2⟩

/-- One more instruction. -/
lemma Grouped.absorb (h : Grouped is merged) (hlive : i.isLive = true)
    (hdistinct : i.parameters.Distinct) : Grouped (is ++ [i]) (absorb i merged) := by
  rcases absorb_cases i merged with ⟨hnew, habsorb⟩ | ⟨front, head, back, rfl, hkey, habsorb⟩
  · rw [habsorb]
    exact h.append hlive hdistinct hnew
  · rw [habsorb]
    exact h.merge hkey hdistinct

lemma consolidate_concat (is : List Instruction) (i : Instruction) :
    consolidate (is ++ [i]) = absorb i (consolidate is) := by
  rw [consolidate, List.foldl_append]
  rfl

/-- Consolidation makes one instruction of every group. -/
theorem grouped_consolidate (hlive : ∀ i ∈ is, i.isLive = true)
    (hdistinct : ∀ i ∈ is, i.parameters.Distinct) : Grouped is (consolidate is) := by
  induction is using List.reverseRecOn with
  | nil => exact ⟨rfl, by simp [consolidate]⟩
  | append_singleton is i ih =>
    rw [List.forall_mem_append, List.forall_mem_singleton] at hlive hdistinct
    rw [consolidate_concat]
    exact (ih hlive.1 hdistinct.1).absorb hlive.2 hdistinct.2

/-! ### What is kept -/

/-- What consolidation makes of a list of instructions. -/
structure Consolidated (is merged : List Instruction) : Prop where
  mem_keys : ∀ key, key ∈ merged.map (·.mergeKey) ↔ key ∈ is.map (·.mergeKey)
  /-- The keys are in the order in which they first occur. -/
  order : (merged.map (·.mergeKey)).Pairwise fun a b =>
    (is.map (·.mergeKey)).idxOf a < (is.map (·.mergeKey)).idxOf b
  live : ∀ m ∈ merged, m.isLive = true
  /-- The last value wins. -/
  value : ∀ m ∈ merged, ∀ name, m.parameters.get? name = lastValue? name (sharing m.mergeKey is)

/-- Consolidation keeps one instruction for every key. -/
theorem consolidated_consolidate (hlive : ∀ i ∈ is, i.isLive = true)
    (hdistinct : ∀ i ∈ is, i.parameters.Distinct) : Consolidated is (consolidate is) := by
  have h := grouped_consolidate hlive hdistinct
  refine ⟨h.mem_keys, ?_, fun m hm => (h.merges m hm).1, fun m hm => (h.merges m hm).2.value⟩
  rw [h.keys]
  exact pairwise_idxOf_eraseDups _

end Optimization

end BlockScript
