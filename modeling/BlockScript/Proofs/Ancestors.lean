import BlockScript.Proofs.Nesting
import Mathlib.Data.List.Induction

/-!
# Ancestors as a stack

The items that are open after some items, innermost first, are the last of these items and its
ancestors. So the ancestors of every node of a forest can be read off in one pass over the items
(`Forest.lineages_nodes`, `Forest.openAfter_eq`).
-/

namespace BlockScript.Forest

variable {α : Type} {depth : α → Nat}

/-! ### Open items -/

/-- Those of some open items that are above depth `d`. -/
def above (depth : α → Nat) (d : Nat) (stack : List α) : List α :=
  stack.dropWhile (d ≤ depth ·)

/-- The items that are open once some items have followed. -/
def openAfter (depth : α → Nat) (stack : List α) : List α → List α
  | [] => stack
  | a :: items => openAfter depth (a :: above depth (depth a) stack) items

/-- Each of some items with the items that are open above it. -/
def lineages (depth : α → Nat) (stack : List α) : List α → List (α × List α)
  | [] => []
  | a :: items =>
    (a, above depth (depth a) stack) :: lineages depth (a :: above depth (depth a) stack) items

lemma above_cons {d : Nat} {a : α} (stack : List α) :
    above depth d (a :: stack) = if d ≤ depth a then above depth d stack else a :: stack := by
  simp [above, List.dropWhile_cons]

lemma above_above {d e : Nat} (h : d ≤ e) (stack : List α) :
    above depth d (above depth e stack) = above depth d stack := by
  induction stack with
  | nil => rfl
  | cons a stack ih =>
    rw [above_cons]
    split
    next he => rw [ih, above_cons, if_pos (h.trans he)]
    next => rfl

lemma openAfter_append (stack front back : List α) :
    openAfter depth stack (front ++ back) = openAfter depth (openAfter depth stack front) back := by
  induction front generalizing stack with
  | nil => rfl
  | cons a front ih => exact ih _

lemma lineages_append (stack front back : List α) :
    lineages depth stack (front ++ back) =
      lineages depth stack front ++ lineages depth (openAfter depth stack front) back := by
  induction front generalizing stack with
  | nil => rfl
  | cons a front ih =>
    rw [List.cons_append, lineages, ih, lineages, openAfter, List.cons_append]

lemma map_fst_lineages (stack items : List α) :
    (lineages depth stack items).map (·.1) = items := by
  induction items generalizing stack with
  | nil => rfl
  | cons a items ih => rw [lineages, List.map_cons, ih]

/-- Items that are all as deep as `d` close nothing above it. -/
lemma above_openAfter {d : Nat} {items : List α} (h : ∀ a ∈ items, d ≤ depth a) (stack : List α) :
    above depth d (openAfter depth stack items) = above depth d stack := by
  induction items generalizing stack with
  | nil => rfl
  | cons a items ih =>
    obtain ⟨ha, hitems⟩ := List.forall_mem_cons.mp h
    rw [openAfter, ih hitems, above_cons, if_pos ha, above_above ha]

/-- Only the last items can be open, and those that were open before. -/
lemma openAfter_sublist (stack items : List α) :
    (openAfter depth stack items).Sublist (items.reverse ++ stack) := by
  induction items generalizing stack with
  | nil => exact List.Sublist.refl stack
  | cons a items ih =>
    have habove : (above depth (depth a) stack).Sublist stack := (List.dropWhile_suffix _).sublist
    have htop := (List.Sublist.refl items.reverse).append (habove.cons_cons a)
    simpa [openAfter] using (ih _).trans htop

lemma mem_of_mem_openAfter {items : List α} {a : α} (h : a ∈ openAfter depth [] items) :
    a ∈ items := by
  simpa using (openAfter_sublist [] items).subset h

lemma openAfter_concat (front : List α) (a : α) :
    openAfter depth [] (front ++ [a]) = a :: above depth (depth a) (openAfter depth [] front) :=
  openAfter_append [] front [a]

lemma lineages_concat (front : List α) (a : α) :
    lineages depth [] (front ++ [a]) =
      lineages depth [] front ++ [(a, above depth (depth a) (openAfter depth [] front))] :=
  lineages_append [] front [a]

lemma mem_of_mem_above {d : Nat} {items : List α} {a : α}
    (h : a ∈ above depth d (openAfter depth [] items)) : a ∈ items :=
  mem_of_mem_openAfter ((List.dropWhile_suffix _).subset h)

lemma nodup_above {items : List α} (h : items.Nodup) (d : Nat) :
    (above depth d (openAfter depth [] items)).Nodup := by
  have hopen : (openAfter depth [] items).Sublist _ := openAfter_sublist [] items
  rw [List.append_nil] at hopen
  have hreverse : items.reverse.Nodup := List.pairwise_reverse.mpr (h.imp Ne.symm)
  exact (hreverse.sublist hopen).sublist (List.dropWhile_suffix _).sublist

/-- What is above an item depends on the items before it alone. -/
lemma exists_front_of_mem_lineages {items : List α} {p : α × List α}
    (h : p ∈ lineages depth [] items) :
    ∃ front back, items = front ++ p.1 :: back ∧
      p.2 = above depth (depth p.1) (openAfter depth [] front) := by
  induction items using List.reverseRecOn with
  | nil => exact absurd h List.not_mem_nil
  | append_singleton items a ih =>
    rw [lineages_concat, List.mem_append, List.mem_singleton] at h
    rcases h with h | rfl
    · obtain ⟨front, back, hitems, habove⟩ := ih h
      exact ⟨front, back ++ [a], by rw [hitems, List.append_assoc, List.cons_append], habove⟩
    · exact ⟨items, [], rfl, rfl⟩

/-- Only items can be above items. -/
lemma mem_of_mem_lineages {items : List α} {p : α × List α} (h : p ∈ lineages depth [] items) :
    ∀ a ∈ p.2, a ∈ items := by
  obtain ⟨front, back, hitems, habove⟩ := exists_front_of_mem_lineages h
  intro a ha
  rw [habove] at ha
  exact hitems ▸ List.mem_append_left _ (mem_of_mem_above ha)

/-! ### Nodes -/

/-- The nodes of a forest below some items are the lineages. -/
lemma lineages_nodesBelow {items : List α} (ancestors : List α)
    (h : ∀ a ∈ items, above depth (depth a) ancestors = ancestors) :
    ((ofList depth items).nodesBelow ancestors).map (fun n => (n.item, n.ancestors)) =
      lineages depth ancestors items := by
  induction items using nesting_induction depth generalizing ancestors with
  | nil => rfl
  | cons a items below beside =>
    obtain ⟨ha, hitems⟩ := List.forall_mem_cons.mp h
    have hsplit : items = items.takeWhile (deeper depth (depth a)) ++
        items.dropWhile (deeper depth (depth a)) := List.takeWhile_append_dropWhile.symm
    have hbelow := below (a :: ancestors) fun b hb => by
      have hdeep := deeper_iff.mp (List.mem_takeWhile_imp hb)
      rw [above_cons, if_neg (by omega)]
    have hbeside := beside ancestors fun b hb => hitems b ((List.dropWhile_suffix _).subset hb)
    rw [ofList_cons, nodesBelow, List.map_cons, List.map_append, hbelow, hbeside, lineages, ha]
    conv_rhs => rw [hsplit, lineages_append]
    congr 2
    -- what comes beside `a` closes `a` and everything below it
    cases hrest : items.dropWhile (deeper depth (depth a)) with
    | nil => rfl
    | cons b rest =>
      have hshallow : depth b ≤ depth a :=
        depth_le_of_head?_dropWhile (show _ = some b by rw [hrest]; rfl)
      have hclosed : above depth (depth b)
          (openAfter depth (a :: ancestors) (items.takeWhile (deeper depth (depth a)))) =
            above depth (depth b) ancestors := by
        rw [above_openAfter, above_cons, if_pos hshallow]
        intro c hc
        have hdeep := deeper_iff.mp (List.mem_takeWhile_imp hc)
        omega
      rw [lineages, lineages, hclosed]

/-- Every node of a forest hangs below the items that are open above it. -/
theorem lineages_nodes (items : List α) :
    (ofList depth items).nodes.map (fun n => (n.item, n.ancestors)) = lineages depth [] items :=
  lineages_nodesBelow [] fun _ _ => rfl

/-- The items that are open after all items are the last of them and its ancestors. -/
theorem openAfter_eq (items : List α) :
    openAfter depth [] items =
      ((ofList depth items).nodes.getLast?.map fun n => n.item :: n.ancestors).getD [] := by
  have hlast : ((ofList depth items).nodes.getLast?.map fun n => n.item :: n.ancestors) =
      (lineages depth [] items).getLast?.map fun p => p.1 :: p.2 := by
    rw [← lineages_nodes, List.getLast?_map, Option.map_map]
    rfl
  rw [hlast]
  cases items using List.reverseRecOn with
  | nil => rfl
  | append_singleton front a =>
    rw [openAfter_concat, lineages_concat, List.getLast?_concat]
    rfl

end BlockScript.Forest
