import BlockScript.Proofs.Digits
import BlockScript.Proofs.Recovery.Closure

/-!
# Extraction after recovery

Blanking the skipped lines prunes the forest of a block, so every node that is left keeps its ancestors
and its instruction. Extraction then gives what it gave before, without the instructions of the skipped
lines (`Recovery.extraction_blank`).
-/

namespace BlockScript

/-! ### Instructions of skipped lines -/

namespace Instruction

/-- Whether an instruction comes from one of some lines. -/
def standsOn (lines : List Int) (i : Instruction) : Bool :=
  i.origin.any (·.line ∈ lines)

/-- Whether `left` is `whole`, except that it may list fewer children. -/
structure Trimmed (left whole : Instruction) : Prop where
  children : left.children.Sublist whole.children
  eq : left = { whole with children := left.children }

end Instruction

/-! ### Single nodes -/

namespace Forest.Node

variable {block : String} {n : Node Statement}

lemma standsOn_of_instruction? {i : Instruction} (h : n.instruction? block = .ok (some i))
    (lines : List Int) : i.standsOn lines = decide (n.item.line ∈ lines) := by
  obtain ⟨_, keyword, target, _, hi⟩ := instruction?_eq_some_iff.mp h
  obtain ⟨_, _, _, _, rfl⟩ := Statement.instruction_ok_iff.mp hi
  rfl

/-- Pruning a node only trims its instruction. -/
lemma instruction?_prune (keep : Statement → Bool) {o : Option Instruction}
    (h : n.instruction? block = .ok o) :
    ∃ left, (n.prune keep).instruction? block = .ok left ∧
      Option.Rel Instruction.Trimmed left o := by
  cases o with
  | none =>
    have hrejected := instruction?_eq_none_iff.mp h
    exact ⟨none, instruction?_eq_none_iff.mpr hrejected, .none⟩
  | some i =>
    obtain ⟨husable, keyword, target, hs, hi⟩ := instruction?_eq_some_iff.mp h
    obtain ⟨selector, hselector, effect, heffect, rfl⟩ := Statement.instruction_ok_iff.mp hi
    refine ⟨some _, instruction?_eq_some_iff.mpr ⟨husable, keyword, target, hs,
      Statement.instruction_ok_iff.mpr ⟨selector, hselector, effect, heffect, rfl⟩⟩, .some ?_⟩
    exact ⟨List.filter_sublist.filterMap _, rfl⟩

end Forest.Node

/-! ### Nodes of a forest -/

namespace Extraction

/-- Without the nodes of some lines, the instructions of the others are left. -/
lemma gather_prune {block : String} (lines : List Int) {nodes : List (Forest.Node Statement)}
    {whole : List Instruction} (h : gather block nodes = .ok whole) :
    ∃ left, gather block
        ((nodes.filter (·.item.line ∉ lines)).map (·.prune (·.line ∉ lines))) = .ok left ∧
      List.Forall₂ Instruction.Trimmed left (whole.filter (!·.standsOn lines)) := by
  induction nodes generalizing whole with
  | nil =>
    cases h
    exact ⟨[], rfl, .nil⟩
  | cons n nodes ih =>
    obtain ⟨o, ho, others, hothers, rfl⟩ := gather_cons_ok_iff.mp h
    obtain ⟨left, hleft, htrimmed⟩ := ih hothers
    by_cases hline : n.item.line ∈ lines
    · refine ⟨left, ?_, ?_⟩
      · rwa [List.filter_cons_of_neg (by simpa using hline)]
      · cases o with
        | none => exact htrimmed
        | some i =>
          have hi : i.standsOn lines = true := by
            simp [Forest.Node.standsOn_of_instruction? ho, hline]
          rwa [Option.toList_some, List.singleton_append, List.filter_cons_of_neg (by simp [hi])]
    · obtain ⟨first, hfirst, hrel⟩ := Forest.Node.instruction?_prune (·.line ∉ lines) ho
      refine ⟨first.toList ++ left, ?_, ?_⟩
      · rw [List.filter_cons_of_pos (by simpa using hline), List.map_cons, gather_cons, hfirst, hleft]
        rfl
      · cases hrel with
        | none => exact htrimmed
        | some hrel =>
          have hi := Forest.Node.standsOn_of_instruction? ho lines
          rw [decide_eq_false hline] at hi
          rw [Option.toList_some, Option.toList_some, List.singleton_append, List.singleton_append,
            List.filter_cons_of_pos (by simp [hi])]
          exact .cons hrel htrimmed

end Extraction

/-! ### Blocks -/

namespace Recovery

/-- The nodes that are left of a block keep their ancestors, and the children that are left. -/
lemma nodes_blank (width : Nat) (source : List String) (bad : List Int) :
    let skipped := skippedLines (.ofLines width source) bad
    (Block.ofLines width (blank skipped source)).forest.nodes =
      ((Block.ofLines width source).forest.nodes.filter (·.item.line ∉ skipped)).map
        (·.prune (·.line ∉ skipped)) := by
  intro skipped
  have hclosed : Forest.NestClosed Statement.depth (fun s => decide (s.line ∉ skipped) = false)
      (Block.ofLines width source).statements :=
    (nestClosed_skippedLines width source bad).congr fun s _ => by simp [skipped]
  rw [Block.forest, Block.statements_blank, Forest.ofList_filter hclosed, Forest.nodes,
    Forest.nodesBelow_prune hclosed]
  rfl

/-- Blanking the skipped lines of a block leaves every other statement where it is in the nesting, and
extraction gives the same instructions for the other statements as before, in the same order. -/
theorem extraction_blank {width : Nat} (hwidth : 1 ≤ width) {source : List String}
    (hdigits : ∀ line ∈ source, DigitsFit line.toList) (bad : List Int) (id : String) :
    let skipped := skippedLines (.ofLines width source) bad
    let whole := Block.ofLines width source
    let blanked := Block.ofLines width (blank skipped source)
    blanked.forest.nodes =
        (whole.forest.nodes.filter (·.item.line ∉ skipped)).map (·.prune (·.line ∉ skipped)) ∧
      ∃ before after, Extraction.ofBlock id whole = .ok before ∧
        Extraction.ofBlock id blanked = .ok after ∧
        List.Forall₂ Instruction.Trimmed after.instructions
          (before.instructions.filter (!·.standsOn skipped)) := by
  intro skipped whole blanked
  have hnodes := nodes_blank width source bad
  obtain ⟨before, hbefore⟩ := Extraction.exists_ofBlock id whole fun s hs =>
    Statement.numbersFit_of_mem_ofLinesFrom hwidth hdigits hs
  obtain ⟨lefts, hlefts, htrimmed⟩ :=
    Extraction.gather_prune skipped (Extraction.gather_of_ofBlock hbefore)
  rw [← hnodes, ← Extraction.map_instructions_ofBlock] at hlefts
  obtain ⟨after, hafter, rfl⟩ := map_ok_iff.mp hlefts
  exact ⟨hnodes, before, after, hbefore, hafter, htrimmed⟩

/-- A bad line goes with the line nested below it; the conditional around them and its other statement
stay as they are. -/
theorem extraction_blank_nested :
    let source := [":: if{hover} // text", "  :^: set // text %", "    :^: set // text",
      "  :^: set // text % {color}(red)"]
    let whole := Block.ofLines 2 source
    let blanked := Block.ofLines 2 (blank [3, 2] source)
    (∀ line ∈ source, DigitsFit line.toList) ∧ skippedLines whole [2] = [3, 2] ∧
      ∃ before after, Extraction.ofBlock "menu" whole = .ok before ∧
        Extraction.ofBlock "menu" blanked = .ok after ∧
        List.Forall₂ Instruction.Trimmed after.instructions
          (before.instructions.filter (!·.standsOn [3, 2])) := by
  intro source whole blanked
  have hlength : ∀ line ∈ source, line.toList.length ≤ digitLimit := by decide
  have hdigits : ∀ line ∈ source, DigitsFit line.toList :=
    fun line hline => .of_length_le (hlength line hline)
  have hskipped : skippedLines whole [2] = [3, 2] := by decide +kernel
  have hwidth : 1 ≤ 2 := by decide
  have hblank := (extraction_blank hwidth hdigits [2] "menu").2
  rw [hskipped] at hblank
  exact ⟨hdigits, hskipped, hblank⟩

end Recovery

end BlockScript
