import BlockScript.Proofs.Lines
import BlockScript.Proofs.Nesting
import Mathlib.Order.Bounds.Defs

/-!
# Skipped lines

One walk over the forest finds everything that has to be skipped: with a line, all lines on which
something is nested below its statements. The walk may add a line only before it gets there, because
statements stand in the order of their lines. It adds no line without need, so what it comes to is the
least set of lines that is closed in this way (`Recovery.skippedLines_isLeast`).
-/

namespace BlockScript.Recovery

open Forest

variable {skipped : List Int}

private lemma mem_foldr_insert {x : Int} {lines : List Int} :
    x ∈ lines.foldr List.insert skipped ↔ x ∈ lines ∨ x ∈ skipped := by
  induction lines with
  | nil => simp
  | cons line lines ih => simp [ih, or_assoc]

/-- The lines skipped once a statement has been visited, if it has `below` nested below it. -/
def visit (s : Statement) (below : List Statement) (skipped : List Int) : List Int :=
  if s.line ∈ skipped then (below.map (·.line)).foldr List.insert skipped else skipped

private lemma mem_visit {x : Int} {s : Statement} {below : List Statement} :
    x ∈ visit s below skipped ↔ x ∈ skipped ∨ s.line ∈ skipped ∧ ∃ b ∈ below, b.line = x := by
  unfold visit
  split
  next h => simp [mem_foldr_insert, h, or_comm]
  next h => simp [h]

private lemma spread_ofList_cons (s : Statement) (items : List Statement) :
    spread skipped (ofList Statement.depth (s :: items)) =
      spread
        (spread (visit s (items.takeWhile (deeper Statement.depth s.depth)) skipped)
          (ofList Statement.depth (items.takeWhile (deeper Statement.depth s.depth))))
        (ofList Statement.depth (items.dropWhile (deeper Statement.depth s.depth))) := by
  rw [ofList_cons, spread, walk_ofList]
  rfl

lemma subset_spread (items : List Statement) :
    skipped ⊆ spread skipped (ofList Statement.depth items) := by
  induction items using nesting_induction Statement.depth generalizing skipped with
  | nil => exact List.Subset.refl _
  | cons s items below beside =>
    rw [spread_ofList_cons]
    exact fun x hx => beside (below (mem_visit.mpr (.inl hx)))

/-- A walk adds no line that lies before the statements it visits. -/
lemma mem_of_mem_spread {items : List Statement} (hsorted : items.Pairwise (·.line ≤ ·.line))
    {x : Int} (hx : ∀ s ∈ items, x ≤ s.line)
    (h : x ∈ spread skipped (ofList Statement.depth items)) : x ∈ skipped := by
  induction items using nesting_induction Statement.depth generalizing skipped with
  | nil => exact h
  | cons s items below beside =>
    obtain ⟨hle, hsorted⟩ := List.pairwise_cons.mp hsorted
    have htake := (List.takeWhile_prefix (l := items) (deeper Statement.depth s.depth)).sublist
    have hdrop := (List.dropWhile_suffix (l := items) (deeper Statement.depth s.depth)).sublist
    have hitems : ∀ b ∈ items, x ≤ b.line := fun b hb => hx b (List.mem_cons_of_mem s hb)
    rw [spread_ofList_cons] at h
    have hbelow := beside (hsorted.sublist hdrop) (fun b hb => hitems b (hdrop.subset hb)) h
    have hvisit := below (hsorted.sublist htake) (fun b hb => hitems b (htake.subset hb)) hbelow
    rcases mem_visit.mp hvisit with hin | ⟨hs, b, hb, rfl⟩
    · exact hin
    · -- `b` stands below `s` and not before it, so it shares its line
      have hline : b.line = s.line :=
        Int.le_antisymm (hx s List.mem_cons_self) (hle b (htake.subset hb))
      rwa [hline]

/-- After the walk, everything below a statement on a skipped line is on skipped lines. -/
lemma nestClosed_spread {items : List Statement} (hsorted : items.Pairwise (·.line ≤ ·.line)) :
    NestClosed Statement.depth (·.line ∈ spread skipped (ofList Statement.depth items)) items := by
  induction items using nesting_induction Statement.depth generalizing skipped with
  | nil => trivial
  | cons s items below beside =>
    obtain ⟨hle, hsorted⟩ := List.pairwise_cons.mp hsorted
    have htake := (List.takeWhile_prefix (l := items) (deeper Statement.depth s.depth)).sublist
    have hdrop := (List.dropWhile_suffix (l := items) (deeper Statement.depth s.depth)).sublist
    rw [spread_ofList_cons]
    refine ⟨fun hs b hb => ?_, ?_⟩
    · have hbeside := mem_of_mem_spread (hsorted.sublist hdrop)
        (fun b hb => hle b (hdrop.subset hb)) hs
      have hbelow := mem_of_mem_spread (hsorted.sublist htake)
        (fun b hb => hle b (htake.subset hb)) hbeside
      have hskipped : s.line ∈ skipped := by
        rcases mem_visit.mp hbelow with hin | ⟨hin, -⟩ <;> exact hin
      exact subset_spread _ (subset_spread _ (mem_visit.mpr (.inr ⟨hskipped, b, hb, rfl⟩)))
    · have happend : items = items.takeWhile (deeper Statement.depth s.depth) ++
          items.dropWhile (deeper Statement.depth s.depth) :=
        List.takeWhile_append_dropWhile.symm
      have hcross := (List.pairwise_append.mp (happend ▸ hsorted)).2.2
      conv_rhs => rw [happend]
      apply NestClosed.append _ (beside (hsorted.sublist hdrop))
      · intro a ha b hb
        have hdeep := deeper_iff.mp (List.mem_takeWhile_imp ha)
        exact (depth_le_of_head?_dropWhile hb).trans hdeep.le
      · -- the walk over what is beside adds no line of a statement below
        refine (below (hsorted.sublist htake)).congr fun a ha => ⟨fun h => subset_spread _ h, ?_⟩
        exact mem_of_mem_spread (hsorted.sublist hdrop) fun b hb => hcross a ha b hb

/-! ### The walk as a loop -/

/-- A walk visits each statement once, with the lines that have been skipped before it gets there. -/
lemma spread_eq_foldl (skipped : List Int) (f : Forest Statement) :
    spread skipped f = f.subtrees.foldl (fun lines t => visit t.1 t.2.walk lines) skipped := by
  match f with
  | nil => rfl
  | tree s below rest =>
    show spread (spread (visit s below.walk skipped) below) rest = _
    rw [spread_eq_foldl _ rest, spread_eq_foldl _ below, subtrees, List.foldl_cons,
      List.foldl_append]

/-- Whether a set of lines holds, with the line of a statement, those of all statements below it. -/
def ClosedBelow (f : Forest Statement) (lines : Set Int) : Prop :=
  ∀ n ∈ f.nodes, ∀ a ∈ n.ancestors, a.line ∈ lines → n.item.line ∈ lines

/-- Within a closed set of lines, visiting a statement adds no line that is not in it. -/
lemma visit_within {f : Forest Statement} {lines : Set Int} (hclosed : ClosedBelow f lines)
    {t : Statement × Forest Statement} (ht : t ∈ f.subtrees) (hskipped : ∀ x ∈ skipped, x ∈ lines) :
    ∀ x ∈ visit t.1 t.2.walk skipped, x ∈ lines := by
  intro x hx
  rcases mem_visit.mp hx with hin | ⟨hline, b, hb, rfl⟩
  · exact hskipped x hin
  · obtain ⟨n, hn, rfl, habove⟩ := exists_node_of_mem_subtrees ht hb
    apply hclosed n hn t.1 habove
    exact hskipped _ hline

lemma spread_within {f : Forest Statement} {lines : Set Int} (hclosed : ClosedBelow f lines)
    (hskipped : ∀ x ∈ skipped, x ∈ lines) : ∀ x ∈ spread skipped f, x ∈ lines := by
  rw [spread_eq_foldl]
  apply List.foldlRecOn (motive := fun found => ∀ x ∈ found, x ∈ lines) _ _ hskipped
  intro found hfound t ht
  exact visit_within hclosed ht hfound

/-! ### Blocks -/

variable (width : Nat) (source : List String) (bad : List Int)

lemma subset_skippedLines : bad ⊆ skippedLines (.ofLines width source) bad :=
  subset_spread _

/-- With a line, all lines are skipped on which something is nested below its statements. -/
lemma nestClosed_skippedLines :
    NestClosed Statement.depth (·.line ∈ skippedLines (.ofLines width source) bad)
      (Block.ofLines width source).statements :=
  nestClosed_spread (Statement.pairwise_line_ofLinesFrom width 1 source)

lemma closedBelow_skippedLines :
    ClosedBelow (Block.ofLines width source).forest
      {line | line ∈ skippedLines (.ofLines width source) bad} := by
  intro n hn a ha hline
  rcases (nestClosed_skippedLines width source bad).of_mem_ancestors hn ha with hroot | hclosed
  · exact absurd hroot List.not_mem_nil
  · exact hclosed hline

/-- The lines that go with some bad lines are found in one pass over the statements, in the order of
the source, and are the least set of lines that holds the bad ones and, with the line of a statement,
those of all statements below it. -/
theorem skippedLines_isLeast :
    let block := Block.ofLines width source
    block.forest.subtrees.map (·.1) = block.statements ∧
      skippedLines block bad =
        block.forest.subtrees.foldl (fun lines t => visit t.1 t.2.walk lines) bad ∧
      IsLeast {lines : Set Int | (∀ line ∈ bad, line ∈ lines) ∧ ClosedBelow block.forest lines}
        {line | line ∈ skippedLines block bad} := by
  intro block
  refine ⟨(map_fst_subtrees _).trans (walk_ofList _), spread_eq_foldl bad _, ⟨?_, ?_⟩, ?_⟩
  · exact subset_skippedLines width source bad
  · exact closedBelow_skippedLines width source bad
  · intro lines hlines
    exact spread_within hlines.2 hlines.1

-- The second statement of line 2 is a root, but its line goes with line 1, and line 3 with it.
example : skippedLines (.ofLines 2 [":: hide // text", "  :^: hide // text :: hide // content",
    "  :^: hide // element", ":: hide // text"]) [1] = [3, 2, 1] := by
  decide +kernel

end BlockScript.Recovery
