import BlockScript.Proofs.Ancestors
import BlockScript.Proofs.Token.Spans

/-!
# Parents

The parent of an item is the nearest item before it that is less deep, and the children of an item
are the items with this parent (`Forest.head?_ancestors_eq_some_iff`, `Forest.children_eq`). So the
statements of a block form a forest that is walked in the order of the source
(`Block.linked_ofLines`).
-/

namespace BlockScript

namespace Forest

variable {α : Type} {depth index : α → Nat}

/-! ### Walking -/

lemma size_eq_length_walk (f : Forest α) : f.size = f.walk.length := by
  match f with
  | nil => rfl
  | tree a below rest =>
    rw [size, walk, List.length_cons, List.length_append, size_eq_length_walk below,
      size_eq_length_walk rest]
    omega

/-- A stack is visited from its top, tree by tree. -/
lemma visit_append (f : Forest α) (stack : List (α × Forest α)) :
    visit (f.trees ++ stack) = f.walk ++ visit stack := by
  match f with
  | nil => rfl
  | tree a below rest =>
    rw [trees, List.cons_append, visit, visit_append below, visit_append rest, walk,
      List.cons_append, List.append_assoc]

lemma visit_trees (f : Forest α) : visit f.trees = f.walk := by
  simpa [visit] using visit_append f []

/-! ### The stack of open items -/

/-- On a stack that gets less deep from the top, all items above a depth are less deep. -/
lemma depth_lt_of_mem_above {d : Nat} {stack : List α}
    (hstack : stack.Pairwise fun a b => depth b < depth a) {b : α} (h : b ∈ above depth d stack) :
    depth b < d := by
  induction stack with
  | nil => exact absurd h List.not_mem_nil
  | cons a stack ih =>
    rw [List.pairwise_cons] at hstack
    rw [above_cons] at h
    split at h
    next => exact ih hstack.2 h
    next ha =>
      rcases List.mem_cons.mp h with rfl | h
      · omega
      · have := hstack.1 b h
        omega

/-- Open items get less deep from the innermost one. -/
lemma pairwise_depth_openAfter (items : List α) :
    (openAfter depth [] items).Pairwise fun a b => depth b < depth a := by
  induction items using List.reverseRecOn with
  | nil => exact .nil
  | append_singleton front a ih =>
    rw [openAfter_concat, List.pairwise_cons]
    exact ⟨fun b hb => depth_lt_of_mem_above ih hb, ih.sublist (List.dropWhile_suffix _).sublist⟩

/-- The innermost item above a depth is the last one that is less deep. -/
lemma head?_above (d : Nat) (items : List α) :
    (above depth d (openAfter depth [] items)).head? = items.reverse.find? (depth · < d) := by
  induction items using List.reverseRecOn generalizing d with
  | nil => rfl
  | append_singleton front a ih =>
    rw [openAfter_concat, above_cons, List.reverse_concat, List.find?_cons]
    split
    next ha => rw [above_above ha, ih, decide_eq_false (by omega)]
    next ha => rw [decide_eq_true (by omega), List.head?_cons]

/-! ### Parents -/

/-- Whether `p` is the nearest of some items before `a` that is less deep. -/
def IsParent (depth index : α → Nat) (items : List α) (p a : α) : Prop :=
  p ∈ items ∧ index p < index a ∧ depth p < depth a ∧
    ∀ b ∈ items, index p < index b → index b < index a → depth a ≤ depth b

section Parents

variable {items : List α} {n : Node α}

/-- A node lies below the items that are open after those before it. -/
lemma exists_front (h : n ∈ (ofList depth items).nodes) :
    ∃ front back, items = front ++ n.item :: back ∧
      n.ancestors = above depth (depth n.item) (openAfter depth [] front) :=
  exists_front_of_mem_lineages (lineages_nodes items ▸ List.mem_map_of_mem h)

lemma mem_front_iff {front back : List α} {a b : α}
    (hindex : (front ++ a :: back).Pairwise (index · < index ·)) :
    b ∈ front ↔ b ∈ front ++ a :: back ∧ index b < index a := by
  obtain ⟨-, hback, hacross⟩ := List.pairwise_append.mp hindex
  rw [List.pairwise_cons] at hback
  constructor
  · intro hb
    exact ⟨List.mem_append_left _ hb, hacross b hb a List.mem_cons_self⟩
  · rintro ⟨hb, hlt⟩
    rcases List.mem_append.mp hb with hb | hb
    · exact hb
    · rcases List.mem_cons.mp hb with rfl | hb
      · exact absurd hlt (Nat.lt_irrefl _)
      · exact absurd (hback.1 b hb) (Nat.lt_asymm hlt)

lemma head?_ancestors_eq_some_iff (hindex : items.Pairwise (index · < index ·))
    (hn : n ∈ (ofList depth items).nodes) {p : α} :
    n.ancestors.head? = some p ↔ IsParent depth index items p n.item := by
  obtain ⟨front, back, rfl, hancestors⟩ := exists_front hn
  have hfront : front.reverse.Pairwise (index · > index ·) :=
    List.pairwise_reverse.mpr (List.pairwise_append.mp hindex).1
  rw [hancestors, head?_above, List.find?_eq_some_iff_append]
  constructor
  · rintro ⟨hdepth, after, before, hsplit, hafter⟩
    have hp : p ∈ front := List.mem_reverse.mp (hsplit ▸ List.mem_append_right _ List.mem_cons_self)
    obtain ⟨hmem, hlt⟩ := (mem_front_iff hindex).mp hp
    refine ⟨hmem, hlt, by simpa using hdepth, fun b hb hpb hbn => ?_⟩
    have hbfront := List.mem_reverse.mpr ((mem_front_iff hindex).mpr ⟨hb, hbn⟩)
    rw [hsplit, List.pairwise_append, List.pairwise_cons] at hfront
    rw [hsplit, List.mem_append, List.mem_cons] at hbfront
    rcases hbfront with hb | rfl | hb
    · simpa using hafter b hb
    · exact absurd hpb (Nat.lt_irrefl _)
    · exact absurd (hfront.2.1.1 b hb) (Nat.lt_asymm hpb)
  · rintro ⟨hmem, hlt, hdepth, hbetween⟩
    have hp : p ∈ front.reverse := List.mem_reverse.mpr ((mem_front_iff hindex).mpr ⟨hmem, hlt⟩)
    obtain ⟨after, before, hsplit⟩ := List.append_of_mem hp
    refine ⟨by simpa using hdepth, after, before, hsplit, fun b hb => ?_⟩
    have hbfront : b ∈ front := List.mem_reverse.mp (hsplit ▸ List.mem_append_left _ hb)
    obtain ⟨hbmem, hbn⟩ := (mem_front_iff hindex).mp hbfront
    rw [hsplit] at hfront
    have hpb := (List.pairwise_append.mp hfront).2.2 b hb p List.mem_cons_self
    simpa using hbetween b hbmem hpb hbn

/-- A root is a node with no item before it that is less deep. -/
lemma ancestors_eq_nil_iff (hindex : items.Pairwise (index · < index ·))
    (hn : n ∈ (ofList depth items).nodes) :
    n.ancestors = [] ↔ ∀ a ∈ items, index a < index n.item → depth n.item ≤ depth a := by
  obtain ⟨front, back, rfl, hancestors⟩ := exists_front hn
  have hroot : n.ancestors = [] ↔ ∀ a ∈ front, depth n.item ≤ depth a := by
    rw [← List.head?_eq_none_iff, hancestors, head?_above, List.find?_eq_none]
    simp
  rw [hroot]
  constructor
  · exact fun h a ha hlt => h a ((mem_front_iff hindex).mpr ⟨ha, hlt⟩)
  · intro h a ha
    obtain ⟨hmem, hlt⟩ := (mem_front_iff hindex).mp ha
    exact h a hmem hlt

/-- From a node outward, positions and depths decrease. -/
lemma pairwise_ancestors (hindex : items.Pairwise (index · < index ·))
    (hn : n ∈ (ofList depth items).nodes) :
    (n.item :: n.ancestors).Pairwise fun a b => index b < index a ∧ depth b < depth a := by
  obtain ⟨front, back, rfl, hancestors⟩ := exists_front hn
  rw [hancestors, ← openAfter_concat]
  have hsublist : (openAfter depth [] (front ++ [n.item])).Sublist _ := openAfter_sublist _ _
  rw [List.append_nil] at hsublist
  have hinit : (front ++ [n.item]).Pairwise (index · < index ·) :=
    hindex.sublist (List.Sublist.append (.refl front) (List.singleton_sublist.mpr List.mem_cons_self))
  exact ((List.pairwise_reverse.mpr hinit).sublist hsublist).and (pairwise_depth_openAfter _)

end Parents

/-- What is right above a node is what the forest hangs below, or an item of the forest. -/
lemma head?_ancestors_cases {ancestors : List α} {f : Forest α} {n : Node α}
    (h : n ∈ f.nodesBelow ancestors) :
    n.ancestors.head? = ancestors.head? ∨ ∃ p ∈ f.walk, n.ancestors.head? = some p := by
  rcases exists_parent h with heq | ⟨parent, hparent, heq⟩
  · exact .inl (by rw [heq])
  · exact .inr ⟨parent.item, item_mem_walk hparent, by rw [heq, List.head?_cons]⟩

/-- A node has its place above it as its parent. -/
lemma exists_node_parent {f : Forest α} {n : Node α} (hn : n ∈ f.nodes) {p : α}
    (hp : n.ancestors.head? = some p) :
    ∃ m ∈ f.nodes, m.item = p ∧ n.ancestors = p :: m.ancestors := by
  obtain ⟨outer, houter⟩ := List.head?_eq_some_iff.mp hp
  obtain ⟨m, hm, hitem, hancestors⟩ := exists_ancestor hn (houter.trans (List.nil_append _).symm)
  exact ⟨m, hm, hitem, by rw [houter, hancestors]⟩

/-! ### Children -/

section Children

variable [DecidableEq α]

/-- The items of those nodes whose nearest ancestor is `p`. -/
def childrenOf (p : Option α) (nodes : List (Node α)) : List α :=
  (nodes.filter (·.ancestors.head? = p)).map (·.item)

lemma childrenOf_append (p : Option α) (front back : List (Node α)) :
    childrenOf p (front ++ back) = childrenOf p front ++ childrenOf p back := by
  rw [childrenOf, List.filter_append, List.map_append, childrenOf, childrenOf]

lemma childrenOf_cons (p : Option α) (n : Node α) (nodes : List (Node α)) :
    childrenOf p (n :: nodes) =
      if n.ancestors.head? = p then n.item :: childrenOf p nodes else childrenOf p nodes := by
  by_cases hp : n.ancestors.head? = p <;> simp [childrenOf, hp]

lemma childrenOf_eq_nil {p : Option α} {ancestors : List α} {f : Forest α}
    (hp : p ≠ ancestors.head?) (hf : ∀ a ∈ f.walk, p ≠ some a) :
    childrenOf p (f.nodesBelow ancestors) = [] := by
  rw [childrenOf, List.map_eq_nil_iff, List.filter_eq_nil_iff]
  intro n hn
  rw [decide_eq_true_iff]
  rintro rfl
  rcases head?_ancestors_cases hn with h | ⟨a, ha, h⟩
  · exact hp h
  · exact hf a ha h

/-- The roots of a forest are the children of what it hangs below. -/
lemma childrenOf_head? {ancestors : List α} {f : Forest α}
    (h : ∀ a ∈ ancestors.head?, a ∉ f.walk) :
    childrenOf ancestors.head? (f.nodesBelow ancestors) = f.roots := by
  match f with
  | nil => rfl
  | tree a below rest =>
    have hwalk : ∀ b ∈ ancestors.head?, b ≠ a ∧ b ∉ below.walk ∧ b ∉ rest.walk := by
      simpa [walk, not_or] using h
    have hbelow : childrenOf ancestors.head? (below.nodesBelow (a :: ancestors)) = [] := by
      refine childrenOf_eq_nil (fun heq => ?_) fun b hb heq => ?_
      · exact (hwalk a heq).1 rfl
      · exact (hwalk b heq).2.1 hb
    rw [nodesBelow, childrenOf_cons, if_pos rfl, childrenOf_append, hbelow, List.nil_append,
      childrenOf_head? fun b hb => (hwalk b hb).2.2, roots]

lemma childrenOf_none (f : Forest α) : childrenOf none f.nodes = f.roots := by
  change childrenOf ([] : List α).head? f.nodes = f.roots
  exact childrenOf_head? (by simp)

/-- The children of a node are the items whose parent it is. -/
lemma children_eq {ancestors : List α} {f : Forest α} (hnodup : f.walk.Nodup)
    (h : ∀ a ∈ ancestors.head?, a ∉ f.walk) {n : Node α} (hn : n ∈ f.nodesBelow ancestors) :
    n.children = childrenOf (some n.item) (f.nodesBelow ancestors) := by
  have houter : ancestors.head? ≠ some n.item := fun heq => h _ heq (item_mem_walk hn)
  match f with
  | nil => exact absurd hn List.not_mem_nil
  | tree a below rest =>
    rw [walk, List.nodup_cons, List.nodup_append] at hnodup
    obtain ⟨ha, hbelow, hrest, hdisjoint⟩ := hnodup
    rw [List.mem_append, not_or] at ha
    have hunder : ∀ b ∈ (a :: ancestors).head?, b ∉ below.walk := by simpa using ha.1
    have hbeside : ∀ b ∈ ancestors.head?, b ∉ rest.walk := fun b hb hmem =>
      h b hb (List.mem_cons_of_mem a (List.mem_append_right _ hmem))
    rw [nodesBelow, List.mem_cons, List.mem_append] at hn
    rw [nodesBelow, childrenOf_cons, if_neg houter, childrenOf_append]
    rcases hn with rfl | hn | hn
    · -- what is right below `a` are the roots below it
      have hnone : childrenOf (some a) (rest.nodesBelow ancestors) = [] :=
        childrenOf_eq_nil houter.symm fun b hb heq => ha.2 (Option.some.inj heq ▸ hb)
      rw [hnone, List.append_nil]
      exact (childrenOf_head? hunder).symm
    · have hmem := item_mem_walk hn
      have hnone : childrenOf (some n.item) (rest.nodesBelow ancestors) = [] :=
        childrenOf_eq_nil houter.symm fun b hb heq =>
          hdisjoint _ hmem b hb (Option.some.inj heq)
      rw [hnone, List.append_nil]
      exact children_eq hbelow hunder hn
    · have hmem := item_mem_walk hn
      have hnone : childrenOf (some n.item) (below.nodesBelow (a :: ancestors)) = [] := by
        refine childrenOf_eq_nil (fun heq => ?_) fun b hb heq => ?_
        · exact ha.2 (Option.some.inj heq ▸ hmem)
        · exact hdisjoint b hb _ hmem (Option.some.inj heq).symm
      rw [hnone, List.nil_append]
      exact children_eq hrest hbeside hn

end Children

end Forest

/-! ### The order of the source -/

namespace Statement

/-- Whether a statement is written before another one. -/
def Precedes (s t : Statement) : Prop :=
  s.line < t.line ∨ s.line = t.line ∧ s.column < t.column

lemma pairwise_column_ofLine (width : Nat) (line : Int) (text : String) :
    (ofLine width line text).Pairwise (·.column < ·.column) := by
  rw [ofLine, List.pairwise_map]
  have hopeners := (Token.pairwise_start_scanFrom line 0 (Text.expandTabs width text)).sublist
    (Span.sublist_opener_split _)
  exact (List.pairwise_map.mp hopeners).imp fun h => Nat.succ_lt_succ h

lemma pairwise_precedes_ofLinesFrom (width : Nat) (start : Int) (lines : List String) :
    (ofLinesFrom width start lines).Pairwise Precedes := by
  induction lines generalizing start with
  | nil => exact .nil
  | cons text rest ih =>
    refine List.pairwise_append.mpr ⟨?_, ih (start + 1), fun s hs t ht => .inl ?_⟩
    · refine (pairwise_column_ofLine width start text).imp_of_mem fun hs ht hlt => .inr ⟨?_, hlt⟩
      rw [line_of_mem_ofLine hs, line_of_mem_ofLine ht]
    · rw [line_of_mem_ofLine hs]
      exact Int.lt_of_add_one_le (le_line_of_mem_ofLinesFrom ht)

end Statement

/-! ### Blocks -/

namespace Block

/-- What the links of a block are: they follow the order of the source. -/
structure Linked (b : Block) : Prop where
  order : b.statements.Pairwise Statement.Precedes
  nodes : b.indexed.nodes.map (·.item) = b.statements.zipIdx
  visit : Forest.visit b.indexed.trees = b.statements.zipIdx
  size : b.indexed.size = b.statements.length
  /-- One pass finds all ancestors, with the statements that are still open on a stack. -/
  stack : b.indexed.nodes.map (fun n => (n.item, n.ancestors)) =
    Forest.lineages (·.1.depth) [] b.statements.zipIdx
  parent : ∀ n ∈ b.indexed.nodes, ∀ p, n.ancestors.head? = some p ↔
    Forest.IsParent (·.1.depth) (·.2) b.statements.zipIdx p n.item
  /-- A node is a root if no statement before it is less deep. -/
  isRoot : ∀ n ∈ b.indexed.nodes, n.ancestors = [] ↔
    ∀ a ∈ b.statements.zipIdx, a.2 < n.item.2 → n.item.1.depth ≤ a.1.depth
  roots : b.indexed.roots = Forest.childrenOf none b.indexed.nodes
  children : ∀ n ∈ b.indexed.nodes, n.children = Forest.childrenOf (some n.item) b.indexed.nodes
  /-- The ancestors of a node are its parent and the ancestors of that. -/
  ancestors : ∀ n ∈ b.indexed.nodes, ∀ p, n.ancestors.head? = some p →
    ∃ m ∈ b.indexed.nodes, m.item = p ∧ n.ancestors = p :: m.ancestors
  decreasing : ∀ n ∈ b.indexed.nodes, (n.item :: n.ancestors).Pairwise fun a c =>
    c.2 < a.2 ∧ c.1.depth < a.1.depth

lemma pairwise_zipIdx (b : Block) : b.statements.zipIdx.Pairwise (·.2 < ·.2) := by
  have hpositions : (b.statements.zipIdx.map (·.2)).Pairwise (· < ·) := by
    rw [List.zipIdx_map_snd]
    exact List.pairwise_lt_range'
  exact List.pairwise_map.mp hpositions

lemma walk_indexed (b : Block) : b.indexed.walk = b.statements.zipIdx :=
  Forest.walk_ofList _

/-- The statements of some lines form a forest in the order of the source. Each hangs below the
nearest one before it that is less deep. -/
theorem linked_ofLines (width : Nat) (lines : List String) : (ofLines width lines).Linked := by
  set b := ofLines width lines
  have hindex := b.pairwise_zipIdx
  have hnodup : b.indexed.walk.Nodup := by
    rw [walk_indexed]
    exact hindex.imp fun hlt heq => Nat.ne_of_lt hlt (congrArg Prod.snd heq)
  exact {
    order := Statement.pairwise_precedes_ofLinesFrom width 1 lines
    nodes := (Forest.map_item_nodesBelow [] _).trans b.walk_indexed
    visit := (Forest.visit_trees _).trans b.walk_indexed
    size := by rw [Forest.size_eq_length_walk, walk_indexed, List.length_zipIdx]
    stack := Forest.lineages_nodes _
    parent := fun n hn p => Forest.head?_ancestors_eq_some_iff hindex hn
    isRoot := fun n hn => Forest.ancestors_eq_nil_iff hindex hn
    roots := (Forest.childrenOf_none b.indexed).symm
    children := fun n hn => Forest.children_eq hnodup (by simp) hn
    ancestors := fun n hn p hp => Forest.exists_node_parent hn hp
    decreasing := fun n hn => Forest.pairwise_ancestors hindex hn }

end Block

end BlockScript
