import BlockScript.Forest
import Mathlib.Data.List.TakeWhile
import Mathlib.Tactic.Common

/-!
# Nesting by depth

The forest of a list is given by one equation, `Forest.ofList_cons`: the first item is a root, the
deeper items right behind it make up the forest below it, and the others the forest beside it. The
principle `Forest.nesting_induction` follows these two parts.

A set of items is `NestClosed` when it holds everything below its members. Dropping such a set from a
list prunes the forest, and what is left keeps its place in the nesting.
-/

namespace BlockScript.Forest

variable {α : Type} {depth : α → Nat}

/-! ### Deeper items -/

/-- Whether an item is nested deeper than `d`. -/
def deeper (depth : α → Nat) (d : Nat) (b : α) : Bool :=
  d < depth b

@[simp] lemma deeper_iff {d : Nat} {b : α} : deeper depth d b = true ↔ d < depth b := by
  simp [deeper]

lemma takeWhile_takeWhile_deeper {d e : Nat} (h : d ≤ e) (items : List α) :
    (items.takeWhile (deeper depth d)).takeWhile (deeper depth e) =
      items.takeWhile (deeper depth e) := by
  induction items with
  | nil => rfl
  | cons b items ih =>
    by_cases he : e < depth b
    · have hd : d < depth b := by omega
      simp [he, hd, ih]
    · by_cases hd : d < depth b <;> simp [he, hd]

lemma dropWhile_takeWhile_deeper {d e : Nat} (h : d ≤ e) (items : List α) :
    (items.takeWhile (deeper depth d)).dropWhile (deeper depth e) =
      (items.dropWhile (deeper depth e)).takeWhile (deeper depth d) := by
  induction items with
  | nil => rfl
  | cons b items ih =>
    by_cases he : e < depth b
    · have hd : d < depth b := by omega
      simp [he, hd, ih]
    · by_cases hd : d < depth b <;> simp [he, hd]

lemma dropWhile_dropWhile_deeper {d e : Nat} (h : d ≤ e) (items : List α) :
    (items.dropWhile (deeper depth e)).dropWhile (deeper depth d) =
      items.dropWhile (deeper depth d) := by
  induction items with
  | nil => rfl
  | cons b items ih =>
    by_cases he : e < depth b
    · have hd : d < depth b := by omega
      simp [he, hd, ih]
    · simp [he]

lemma depth_le_of_head?_dropWhile {d : Nat} {items : List α} {b : α}
    (hb : b ∈ (items.dropWhile (deeper depth d)).head?) : depth b ≤ d := by
  have hstop := List.head?_dropWhile_not (deeper depth d) items
  rw [Option.mem_def.mp hb] at hstop
  simpa [deeper] using hstop

/-! ### The equation of a forest -/

@[simp] lemma ofList_nil : ofList depth ([] : List α) = nil := rfl

lemma push_eq (a : α) (f : Forest α) :
    push depth a f = tree a (f.spanRoots (deeper depth (depth a))).1
      (f.spanRoots (deeper depth (depth a))).2 := rfl

private lemma ofList_cons_of_spanRoots {a : α} {items : List α}
    (h : (ofList depth items).spanRoots (deeper depth (depth a)) =
      (ofList depth (items.takeWhile (deeper depth (depth a))),
        ofList depth (items.dropWhile (deeper depth (depth a))))) :
    ofList depth (a :: items) =
      tree a (ofList depth (items.takeWhile (deeper depth (depth a))))
        (ofList depth (items.dropWhile (deeper depth (depth a)))) := by
  change push depth a (ofList depth items) = _
  rw [push_eq, h]

/-- The trees whose roots are deeper than `d` are those of the items deeper than `d`. -/
lemma spanRoots_ofList (d : Nat) (items : List α) :
    (ofList depth items).spanRoots (deeper depth d) =
      (ofList depth (items.takeWhile (deeper depth d)),
        ofList depth (items.dropWhile (deeper depth d))) := by
  match items with
  | [] => rfl
  | b :: items =>
    rw [ofList_cons_of_spanRoots (spanRoots_ofList (depth b) items)]
    by_cases hb : d < depth b
    · have hle : d ≤ depth b := by omega
      -- the items below `b` come before all others that are deeper than `d`
      have hshort : (items.takeWhile (deeper depth d)).length ≤ items.length :=
        (List.takeWhile_prefix _).length_le
      have hbelow := ofList_cons_of_spanRoots (a := b)
        (spanRoots_ofList (depth b) (items.takeWhile (deeper depth d)))
      rw [takeWhile_takeWhile_deeper hle, dropWhile_takeWhile_deeper hle] at hbelow
      simp only [spanRoots, deeper_iff, hb, if_true, List.takeWhile_cons_of_pos,
        List.dropWhile_cons_of_pos, hbelow]
      rw [spanRoots_ofList d (items.dropWhile (deeper depth (depth b))),
        dropWhile_dropWhile_deeper hle]
    · simp only [spanRoots, deeper_iff, hb, if_false, not_false_eq_true,
        List.takeWhile_cons_of_neg, List.dropWhile_cons_of_neg, ofList_nil]
      rw [ofList_cons_of_spanRoots (spanRoots_ofList (depth b) items)]
termination_by items.length
decreasing_by
  all_goals simp only [List.length_cons]
  · omega
  · omega
  · have := List.length_dropWhile_le (deeper depth (depth b)) items
    omega

lemma ofList_cons (a : α) (items : List α) :
    ofList depth (a :: items) =
      tree a (ofList depth (items.takeWhile (deeper depth (depth a))))
        (ofList depth (items.dropWhile (deeper depth (depth a)))) :=
  ofList_cons_of_spanRoots (spanRoots_ofList (depth a) items)

/-- Induction along the nesting: what holds of the items below the first one and of the items beside
it holds of all. -/
lemma nesting_induction (depth : α → Nat) {motive : List α → Prop} (nil : motive [])
    (cons : ∀ a items, motive (items.takeWhile (deeper depth (depth a))) →
      motive (items.dropWhile (deeper depth (depth a))) → motive (a :: items)) :
    ∀ items, motive items
  | [] => nil
  | a :: items =>
    cons a items (nesting_induction depth nil cons _) (nesting_induction depth nil cons _)
termination_by items => items.length
decreasing_by
  · have := (List.takeWhile_prefix (l := items) (deeper depth (depth a))).length_le
    simp only [List.length_cons]; omega
  · have := List.length_dropWhile_le (deeper depth (depth a)) items
    simp only [List.length_cons]; omega

/-- Walking a forest gives back the list that it was made of. -/
@[simp] lemma walk_ofList (items : List α) : (ofList depth items).walk = items := by
  induction items using nesting_induction depth with
  | nil => rfl
  | cons a items below beside =>
    rw [ofList_cons, walk, below, beside, List.takeWhile_append_dropWhile]

/-! ### Closed sets of items -/

/-- Whether a set holds, with each of the items, everything that is nested below it. -/
def NestClosed (depth : α → Nat) (p : α → Prop) : List α → Prop
  | [] => True
  | a :: items =>
    (p a → ∀ b ∈ items.takeWhile (deeper depth (depth a)), p b) ∧ NestClosed depth p items

variable {p : α → Prop}

lemma NestClosed.dropWhile (q : α → Bool) {items : List α} (h : NestClosed depth p items) :
    NestClosed depth p (items.dropWhile q) := by
  induction items with
  | nil => exact h
  | cons a items ih =>
    by_cases ha : q a
    · rw [List.dropWhile_cons_of_pos ha]
      exact ih h.2
    · rwa [List.dropWhile_cons_of_neg ha]

lemma NestClosed.of_append {front back : List α} (h : NestClosed depth p (front ++ back)) :
    NestClosed depth p back := by
  induction front with
  | nil => exact h
  | cons a front ih => exact ih h.2

lemma NestClosed.takeWhile (q : α → Bool) {items : List α} (h : NestClosed depth p items) :
    NestClosed depth p (items.takeWhile q) := by
  induction items with
  | nil => exact h
  | cons a items ih =>
    by_cases ha : q a
    · rw [List.takeWhile_cons_of_pos ha]
      refine ⟨fun hp b hb => h.1 hp b ?_, ih h.2⟩
      rw [← List.takeWhile_append_dropWhile (p := q) (l := items), List.takeWhile_append]
      split
      · exact List.mem_append_left _ ((List.takeWhile_prefix _).subset hb)
      · exact hb
    · rw [List.takeWhile_cons_of_neg ha]
      trivial

lemma NestClosed.congr {q : α → Prop} {items : List α} (hpq : ∀ a ∈ items, p a ↔ q a)
    (h : NestClosed depth p items) : NestClosed depth q items := by
  induction items with
  | nil => exact h
  | cons a items ih =>
    have hmem : ∀ b ∈ items, p b ↔ q b := fun b hb => hpq b (List.mem_cons_of_mem a hb)
    refine ⟨fun ha b hb => ?_, ih hmem h.2⟩
    exact (hmem b ((List.takeWhile_prefix _).subset hb)).mp
      (h.1 ((hpq a List.mem_cons_self).mpr ha) b hb)

/-- Nothing behind `back`'s first item is nested below the items in front of it. -/
lemma NestClosed.append {front back : List α} (hfront : NestClosed depth p front)
    (hback : NestClosed depth p back)
    (hhead : ∀ a ∈ front, ∀ b ∈ back.head?, depth b ≤ depth a) :
    NestClosed depth p (front ++ back) := by
  induction front with
  | nil => exact hback
  | cons a front ih =>
    rw [List.cons_append]
    refine ⟨fun ha b hb => hfront.1 ha b ?_,
      ih hfront.2 fun c hc => hhead c (List.mem_cons_of_mem a hc)⟩
    have hstop : back.takeWhile (deeper depth (depth a)) = [] := by
      cases back with
      | nil => rfl
      | cons c back => simpa using hhead a List.mem_cons_self c rfl
    rw [List.takeWhile_append, hstop, List.append_nil] at hb
    split at hb
    next hall => rwa [List.IsPrefix.eq_of_length (List.takeWhile_prefix _) hall]
    next => exact hb

/-- What is nested under a depth stays so behind some items of a closed set. -/
lemma NestClosed.shadow {d : Nat} {front back : List α}
    (h : NestClosed depth p (front ++ back)) (hfront : ∀ a ∈ front, p a)
    (hd : ∀ b ∈ (front ++ back).takeWhile (deeper depth d), p b) :
    ∀ b ∈ back.takeWhile (deeper depth d), p b := by
  induction front with
  | nil => exact hd
  | cons a front ih =>
    apply ih h.2 (fun b hb => hfront b (List.mem_cons_of_mem a hb))
    intro b hb
    by_cases ha : d < depth a
    · apply hd
      rw [List.cons_append, List.takeWhile_cons_of_pos (deeper_iff.mpr ha)]
      exact List.mem_cons_of_mem a hb
    · -- `a` is in the set itself, and what is deeper than `d` is deeper than `a`
      apply h.1 (hfront a List.mem_cons_self) b
      rw [← takeWhile_takeWhile_deeper (Nat.le_of_not_lt ha)] at hb
      exact (List.takeWhile_prefix _).subset hb

/-! ### Pruning -/

/-- Drops the trees whose roots are not kept. -/
def prune (keep : α → Bool) : Forest α → Forest α
  | nil => nil
  | tree a below rest =>
    if keep a then tree a (prune keep below) (prune keep rest) else prune keep rest

variable {keep : α → Bool}

/-- What is kept of the items right behind a dropped one: nothing that is nested below it. -/
lemma filter_eq_of_dropped {a : α} {items : List α}
    (h : NestClosed depth (fun b => keep b = false) (a :: items)) (ha : keep a = false) :
    items.filter keep = (items.dropWhile (deeper depth (depth a))).filter keep := by
  have hnone : (items.takeWhile (deeper depth (depth a))).filter keep = [] := by
    simpa using h.1 ha
  conv_lhs => rw [← List.takeWhile_append_dropWhile (p := deeper depth (depth a)) (l := items)]
  rw [List.filter_append, hnone, List.nil_append]

/-- If the first item is not deeper than `d`, neither is the first one that is kept. -/
lemma takeWhile_filter_eq_nil {items : List α}
    (h : NestClosed depth (fun b => keep b = false) items) {d : Nat}
    (hd : ∀ b ∈ items.head?, depth b ≤ d) :
    (items.filter keep).takeWhile (deeper depth d) = [] := by
  induction items using nesting_induction depth generalizing d with
  | nil => rfl
  | cons a items _ beside =>
    have had : depth a ≤ d := hd a rfl
    cases ha : keep a with
    | true => simp [ha, had]
    | false =>
      rw [List.filter_cons_of_neg (by simp [ha]), filter_eq_of_dropped h ha]
      apply beside (h.2.dropWhile _)
      intro b hb
      exact (depth_le_of_head?_dropWhile hb).trans had

/-- Dropping a closed set cuts the list at the same place. -/
lemma takeWhile_filter_deeper {items : List α}
    (h : NestClosed depth (fun b => keep b = false) items) (d : Nat) :
    (items.filter keep).takeWhile (deeper depth d) =
        (items.takeWhile (deeper depth d)).filter keep ∧
      (items.filter keep).dropWhile (deeper depth d) =
        (items.dropWhile (deeper depth d)).filter keep := by
  have hrest : ((items.dropWhile (deeper depth d)).filter keep).takeWhile (deeper depth d) = [] := by
    apply takeWhile_filter_eq_nil (h.dropWhile _)
    exact fun b hb => depth_le_of_head?_dropWhile hb
  have hdeep : ∀ b ∈ (items.takeWhile (deeper depth d)).filter keep, deeper depth d b = true :=
    fun b hb => List.mem_takeWhile_imp (List.mem_filter.mp hb).1
  have hsplit : items.filter keep = (items.takeWhile (deeper depth d)).filter keep ++
      (items.dropWhile (deeper depth d)).filter keep := by
    rw [← List.filter_append, List.takeWhile_append_dropWhile]
  rw [hsplit, List.takeWhile_append_of_pos hdeep, List.dropWhile_append_of_pos hdeep, hrest]
  refine ⟨List.append_nil _, ?_⟩
  have hwhole := List.takeWhile_append_dropWhile (p := deeper depth d)
    (l := (items.dropWhile (deeper depth d)).filter keep)
  rwa [hrest, List.nil_append] at hwhole

/-- Dropping a closed set prunes the forest. -/
lemma ofList_filter {items : List α} (h : NestClosed depth (fun b => keep b = false) items) :
    ofList depth (items.filter keep) = prune keep (ofList depth items) := by
  induction items using nesting_induction depth with
  | nil => rfl
  | cons a items below beside =>
    have hbeside := beside (h.2.dropWhile _)
    rw [ofList_cons, prune]
    cases ha : keep a with
    | true =>
      obtain ⟨htake, hdrop⟩ := takeWhile_filter_deeper h.2 (depth a)
      rw [List.filter_cons_of_pos ha, ofList_cons, htake, hdrop, below (h.2.takeWhile _), hbeside]
      rfl
    | false =>
      rw [List.filter_cons_of_neg (by simp [ha]), filter_eq_of_dropped h ha, hbeside]
      rfl

/-! ### Nodes -/

lemma map_item_nodesBelow (ancestors : List α) (f : Forest α) :
    (f.nodesBelow ancestors).map (·.item) = f.walk := by
  match f with
  | nil => rfl
  | tree a below rest =>
    simp only [nodesBelow, walk, List.map_cons, List.map_append,
      map_item_nodesBelow (a :: ancestors) below, map_item_nodesBelow ancestors rest]

lemma item_mem_walk {ancestors : List α} {f : Forest α} {n : Node α}
    (h : n ∈ f.nodesBelow ancestors) : n.item ∈ f.walk :=
  map_item_nodesBelow ancestors f ▸ List.mem_map_of_mem h

lemma exists_root_node (ancestors : List α) {f : Forest α} {a : α} (h : a ∈ f.roots) :
    ∃ n ∈ f.nodesBelow ancestors, n.item = a ∧ n.ancestors = ancestors := by
  match f with
  | nil => cases h
  | tree b below rest =>
    rw [nodesBelow]
    rcases List.mem_cons.mp h with rfl | h
    · exact ⟨_, List.mem_cons_self, rfl, rfl⟩
    · obtain ⟨n, hn, hitem⟩ := exists_root_node ancestors h
      exact ⟨n, List.mem_cons_of_mem _ (List.mem_append_right _ hn), hitem⟩

/-- The children of a node have nodes right below it. -/
lemma exists_child_node {ancestors : List α} {f : Forest α} {n : Node α}
    (h : n ∈ f.nodesBelow ancestors) {a : α} (ha : a ∈ n.children) :
    ∃ m ∈ f.nodesBelow ancestors, m.item = a ∧ m.ancestors = n.item :: n.ancestors := by
  match f with
  | nil => cases h
  | tree b below rest =>
    rw [nodesBelow] at h ⊢
    rcases List.mem_cons.mp h with rfl | h
    · obtain ⟨m, hm, hitem⟩ := exists_root_node (b :: ancestors) ha
      exact ⟨m, List.mem_cons_of_mem _ (List.mem_append_left _ hm), hitem⟩
    · rcases List.mem_append.mp h with h | h
      · obtain ⟨m, hm, hitem⟩ := exists_child_node h ha
        exact ⟨m, List.mem_cons_of_mem _ (List.mem_append_left _ hm), hitem⟩
      · obtain ⟨m, hm, hitem⟩ := exists_child_node h ha
        exact ⟨m, List.mem_cons_of_mem _ (List.mem_append_right _ hm), hitem⟩

/-- What is nested right below something is below the node of that. -/
lemma exists_parent {ancestors : List α} {f : Forest α} {n : Node α}
    (h : n ∈ f.nodesBelow ancestors) :
    n.ancestors = ancestors ∨
      ∃ parent ∈ f.nodesBelow ancestors, n.ancestors = parent.item :: parent.ancestors := by
  match f with
  | nil => simp [nodesBelow] at h
  | tree a below rest =>
    rw [nodesBelow, List.mem_cons, List.mem_append] at h
    rw [nodesBelow]
    rcases h with rfl | h | h
    · exact .inl rfl
    · rcases exists_parent h with hroot | ⟨parent, hparent, heq⟩
      · exact .inr ⟨_, List.mem_cons_self, hroot⟩
      · exact .inr ⟨parent, List.mem_cons_of_mem _ (List.mem_append_left _ hparent), heq⟩
    · rcases exists_parent h with hroot | ⟨parent, hparent, heq⟩
      · exact .inl hroot
      · exact .inr ⟨parent, List.mem_cons_of_mem _ (List.mem_append_right _ hparent), heq⟩

/-- What is above a node has a node of its own, with the same things above it. -/
lemma exists_ancestor {f : Forest α} {n : Node α} (hn : n ∈ f.nodes) {inner outer : List α} {a : α}
    (h : n.ancestors = inner ++ a :: outer) : ∃ m ∈ f.nodes, m.item = a ∧ m.ancestors = outer := by
  induction inner generalizing n with
  | nil =>
    rcases exists_parent hn with hroot | ⟨parent, hparent, hancestors⟩
    · simp [hroot] at h
    · rw [hancestors, List.nil_append, List.cons.injEq] at h
      exact ⟨parent, hparent, h⟩
  | cons b inner ih =>
    rcases exists_parent hn with hroot | ⟨parent, hparent, hancestors⟩
    · simp [hroot] at h
    · rw [hancestors, List.cons_append, List.cons.injEq] at h
      exact ih hparent h.2

/-- The nodes of a forest hang below what it hangs below. -/
lemma suffix_ancestors {above : List α} {f : Forest α} {n : Node α} (h : n ∈ f.nodesBelow above) :
    above <:+ n.ancestors := by
  match f with
  | nil => exact absurd h List.not_mem_nil
  | tree a below rest =>
    rw [nodesBelow, List.mem_cons, List.mem_append] at h
    rcases h with rfl | h | h
    · exact List.suffix_rfl
    · exact (List.suffix_cons a above).trans (suffix_ancestors h)
    · exact suffix_ancestors h

/-- The nodes of a forest and what they hang below are items of it, or what the forest hangs below. -/
lemma forall_ancestors {above : List α} {f : Forest α}
    (habove : ∀ a ∈ above, p a) (hf : ∀ a ∈ f.walk, p a) :
    ∀ n ∈ f.nodesBelow above, ∀ a ∈ n.item :: n.ancestors, p a := by
  match f with
  | .nil => simp [nodesBelow]
  | .tree a below rest =>
    rw [walk, List.forall_mem_cons, List.forall_mem_append] at hf
    obtain ⟨ha, hbelow, hrest⟩ := hf
    have hroot := List.forall_mem_cons.mpr ⟨ha, habove⟩
    rw [nodesBelow, List.forall_mem_cons, List.forall_mem_append]
    exact ⟨hroot, forall_ancestors hroot hbelow, forall_ancestors habove hrest⟩

/-! ### Subtrees -/

/-- All items, each with the forest below it, in walking order. -/
def subtrees : Forest α → List (α × Forest α)
  | nil => []
  | tree a below rest => (a, below) :: (subtrees below ++ subtrees rest)

lemma map_fst_subtrees (f : Forest α) : f.subtrees.map (·.1) = f.walk := by
  match f with
  | nil => rfl
  | tree a below rest =>
    simp only [subtrees, walk, List.map_cons, List.map_append, map_fst_subtrees below,
      map_fst_subtrees rest]

/-- What is in the forest below an item has a node below this item. -/
lemma exists_node_of_mem_subtrees {ancestors : List α} {f : Forest α} {t : α × Forest α}
    (ht : t ∈ f.subtrees) {b : α} (hb : b ∈ t.2.walk) :
    ∃ n ∈ f.nodesBelow ancestors, n.item = b ∧ t.1 ∈ n.ancestors := by
  match f with
  | nil => exact absurd ht List.not_mem_nil
  | tree a below rest =>
    rw [subtrees, List.mem_cons, List.mem_append] at ht
    rw [nodesBelow]
    rcases ht with rfl | ht | ht
    · rw [← map_item_nodesBelow (a :: ancestors)] at hb
      obtain ⟨n, hn, hitem⟩ := List.mem_map.mp hb
      refine ⟨n, List.mem_cons_of_mem _ (List.mem_append_left _ hn), hitem, ?_⟩
      apply (suffix_ancestors hn).subset
      exact List.mem_cons_self
    · obtain ⟨n, hn, hbelow⟩ := exists_node_of_mem_subtrees ht hb
      exact ⟨n, List.mem_cons_of_mem _ (List.mem_append_left _ hn), hbelow⟩
    · obtain ⟨n, hn, hbelow⟩ := exists_node_of_mem_subtrees ht hb
      exact ⟨n, List.mem_cons_of_mem _ (List.mem_append_right _ hn), hbelow⟩

/-- With an item, a closed set holds the nodes below it. -/
lemma NestClosed.of_mem_ancestors {items above : List α} (h : NestClosed depth p items) {n : Node α}
    (hn : n ∈ (ofList depth items).nodesBelow above) {a : α} (ha : a ∈ n.ancestors) :
    a ∈ above ∨ (p a → p n.item) := by
  induction items using nesting_induction depth generalizing above with
  | nil => exact absurd hn List.not_mem_nil
  | cons b items below beside =>
    rw [ofList_cons, nodesBelow, List.mem_cons, List.mem_append] at hn
    rcases hn with rfl | hn | hn
    · exact .inl ha
    · rcases below (h.2.takeWhile _) hn with hmem | hclosed
      · rcases List.mem_cons.mp hmem with rfl | habove
        · have hitem := item_mem_walk hn
          rw [walk_ofList] at hitem
          exact .inr fun hp => h.1 hp _ hitem
        · exact .inl habove
      · exact .inr hclosed
    · exact beside (h.2.dropWhile _) hn

lemma roots_prune (f : Forest α) : (f.prune keep).roots = f.roots.filter keep := by
  match f with
  | nil => rfl
  | tree a below rest =>
    cases ha : keep a <;> simp [prune, roots, ha, roots_prune rest]

/-- A node without the children that are not kept. -/
def Node.prune (keep : α → Bool) (n : Node α) : Node α :=
  { n with children := n.children.filter keep }

/-- The nodes of a pruned forest are those that are kept: with their ancestors, and with the children
that are kept. -/
lemma nodesBelow_prune {items : List α} (h : NestClosed depth (fun b => keep b = false) items)
    (ancestors : List α) :
    ((ofList depth items).prune keep).nodesBelow ancestors =
      (((ofList depth items).nodesBelow ancestors).filter (keep ·.item)).map (·.prune keep) := by
  induction items using nesting_induction depth generalizing ancestors with
  | nil => rfl
  | cons a items below beside =>
    have hbeside := beside (h.2.dropWhile _) ancestors
    rw [ofList_cons, prune, nodesBelow]
    cases ha : keep a with
    | true =>
      have hbelow := below (h.2.takeWhile _) (a :: ancestors)
      simp [nodesBelow, ha, hbelow, hbeside, roots_prune, Node.prune]
    | false =>
      have hnone : ((ofList depth (items.takeWhile (deeper depth (depth a)))).nodesBelow
          (a :: ancestors)).filter (keep ·.item) = [] := by
        apply List.filter_eq_nil_iff.mpr
        intro n hn
        have hitem := List.mem_map_of_mem (f := Node.item) hn
        rw [map_item_nodesBelow, walk_ofList] at hitem
        simp [h.1 ha _ hitem]
      simp [ha, hnone, hbeside]

end BlockScript.Forest
