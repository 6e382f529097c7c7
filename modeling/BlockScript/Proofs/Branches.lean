import BlockScript.Grammar.Validator
import BlockScript.Proofs.Extraction
import Mathlib.Data.List.Induction

/-!
# Branches and gates

The gates of an instruction belong to the conditionals around its statement, outermost first. A branch
that negates turns over the nearest gate that must still hold (`Extraction.gates_of_negating_branch`):
that of its own conditional, unless another such branch lies between the two.
-/

namespace BlockScript

/-! ### Negating gates -/

namespace Condition

/-- What must not hold instead of what a condition says. -/
def negated (c : Condition) : Condition :=
  ⟨.whenFalse, c.expression, c.line⟩

/-- The expression of a condition and the line that it comes from. -/
def origin (c : Condition) : String × Int :=
  (c.expression, c.line)

/-- Whether some gates are others with the last one that must hold turned over, if there is one. -/
inductive NegatesLast : List Condition → List Condition → Prop
  | none {gates : List Condition} (h : ∀ c ∈ gates, c.kind = .whenFalse) : NegatesLast gates gates
  | last {far near : List Condition} {c : Condition} (hc : c.kind = .whenTrue)
      (h : ∀ d ∈ near, d.kind = .whenFalse) :
      NegatesLast (far ++ c :: near) (far ++ c.negated :: near)

def negateLast (cs : List Condition) : List Condition :=
  (negateFirst cs.reverse).reverse

lemma negateLast_concat (cs : List Condition) (c : Condition) :
    negateLast (cs ++ [c]) =
      if c.kind = .whenTrue then cs ++ [c.negated] else negateLast cs ++ [c] := by
  unfold negateLast
  rw [List.reverse_append, List.reverse_singleton, List.singleton_append, negateFirst]
  split <;> simp [negated]

lemma filter_negateFirst (cs : List Condition) :
    (negateFirst cs).filter (·.isGate) = negateFirst (cs.filter (·.isGate)) := by
  induction cs with
  | nil => rfl
  | cons c cs ih =>
    by_cases hc : c.kind = .whenTrue
    · simp [negateFirst, hc, isGate]
    · cases hgate : c.isGate <;> simp [negateFirst, hc, hgate, ih]

lemma map_origin_negateFirst (cs : List Condition) :
    (negateFirst cs).map origin = cs.map origin := by
  induction cs with
  | nil => rfl
  | cons c cs ih =>
    rw [negateFirst]
    split
    · rfl
    · rw [List.map_cons, List.map_cons, ih]

lemma map_origin_negateLast (cs : List Condition) : (negateLast cs).map origin = cs.map origin := by
  rw [negateLast, List.map_reverse, map_origin_negateFirst, List.map_reverse, List.reverse_reverse]

lemma kind_of_isGate {c : Condition} (h : c.isGate = true) (hc : c.kind ≠ .whenTrue) :
    c.kind = .whenFalse := by
  cases hkind : c.kind with
  | whenTrue => exact absurd hkind hc
  | whenFalse => rfl
  | label => simp [isGate, hkind] at h

lemma NegatesLast.concat {gates turned : List Condition} (h : NegatesLast gates turned)
    {c : Condition} (hc : c.kind = .whenFalse) : NegatesLast (gates ++ [c]) (turned ++ [c]) := by
  have hconcat : ∀ {cs : List Condition}, (∀ d ∈ cs, d.kind = .whenFalse) →
      ∀ d ∈ cs ++ [c], d.kind = .whenFalse := by
    intro cs hcs d hd
    rcases List.mem_append.mp hd with hd | hd
    · exact hcs d hd
    · rwa [List.mem_singleton.mp hd]
  cases h with
  | none hall => exact .none (hconcat hall)
  | last hlast hnear =>
    rw [List.append_assoc, List.append_assoc, List.cons_append, List.cons_append]
    exact .last hlast (hconcat hnear)

lemma negatesLast_negateLast {gates : List Condition} (h : ∀ c ∈ gates, c.isGate = true) :
    NegatesLast gates (negateLast gates) := by
  induction gates using List.reverseRecOn with
  | nil => exact .none (by simp)
  | append_singleton gates c ih =>
    rw [negateLast_concat]
    split
    next hc => exact .last hc (by simp)
    next hc =>
      have hinit := ih fun d hd => h d (List.mem_append_left _ hd)
      exact hinit.concat (kind_of_isGate (h c (by simp)) hc)

end Condition

/-! ### Inherited gates -/

/-- Whether a statement is a branch that is taken when the condition fails. -/
def Statement.negates (s : Statement) : Bool :=
  s.label?.any Keyword.isNegating

/-- The gate that a statement contributes. -/
def Statement.ownGate? (s : Statement) : Option Condition :=
  s.gate?.map fun expression => ⟨.whenTrue, expression, s.line⟩

lemma Statement.kind_of_ownGate? {s : Statement} {c : Condition} (h : s.ownGate? = some c) :
    c.kind = .whenTrue := by
  obtain ⟨expression, _, rfl⟩ := Option.map_eq_some_iff.mp h
  rfl

lemma Statement.gate?_of_label? {s : Statement} {label : String} (h : s.label? = some label) :
    s.gate? = none := by
  obtain ⟨hkeyword, hbranch⟩ := Option.filter_eq_some_iff.mp h
  have hother : s.keyword ≠ some Keyword.conditional := by
    rw [hkeyword]
    rintro ⟨rfl⟩
    revert hbranch
    decide
  rw [gate?, if_neg hother]

namespace Extraction

/-- The gates under a row of nested statements, innermost first. -/
def inheritedGates (nested : List Statement) : List Condition :=
  (inheritedConditions nested).filter (·.isGate)

lemma inheritedGates_cons_of_negates {s : Statement} (h : s.negates = true)
    (outer : List Statement) :
    inheritedGates (s :: outer) = Condition.negateLast (inheritedGates outer) := by
  obtain ⟨label, hlabel, hnegating⟩ := (Option.any_eq_true _ _).mp h
  have hgate := Statement.gate?_of_label? hlabel
  have hconditions : inheritedConditions (s :: outer) =
      Condition.negateLast (inheritedConditions outer) ++ [⟨.label, label, s.line⟩] := by
    simp [inheritedConditions, Condition.ofStatement, Condition.negateLast, hlabel, hgate, hnegating]
  rw [inheritedGates, hconditions, List.filter_append, Condition.negateLast, List.filter_reverse,
    Condition.filter_negateFirst, List.filter_reverse]
  exact List.append_nil _

/-- A statement that is no negating branch adds its own gate, if it has one. -/
lemma inheritedGates_cons_of_not_negates {s : Statement} (h : s.negates = false)
    (outer : List Statement) :
    inheritedGates (s :: outer) = inheritedGates outer ++ s.ownGate?.toList := by
  cases hlabel : s.label? with
  | none =>
    have hconditions : inheritedConditions (s :: outer) =
        inheritedConditions outer ++ s.ownGate?.toList := by
      simp [inheritedConditions, Condition.ofStatement, Statement.ownGate?, hlabel]
    rw [inheritedGates, hconditions, List.filter_append]
    cases hown : s.ownGate? with
    | none => rfl
    | some c =>
      obtain ⟨expression, _, rfl⟩ := Option.map_eq_some_iff.mp hown
      rfl
  | some label =>
    have hgate := Statement.gate?_of_label? hlabel
    have hnegating : Keyword.isNegating label = false := by
      simpa [Statement.negates, hlabel] using h
    simp [inheritedGates, inheritedConditions, Condition.ofStatement, Statement.ownGate?, hlabel,
      hgate, hnegating, Condition.isGate]

/-- Gates belong to the statements that contribute them, outermost first. -/
lemma map_origin_inheritedGates (nested : List Statement) :
    (inheritedGates nested).map (·.origin) =
      (nested.reverse.filterMap (·.ownGate?)).map (·.origin) := by
  induction nested with
  | nil => rfl
  | cons s outer ih =>
    rw [List.reverse_cons, List.filterMap_append, List.map_append, ← ih]
    cases hs : s.negates with
    | true =>
      obtain ⟨label, hlabel, -⟩ := (Option.any_eq_true _ _).mp hs
      have hown : s.ownGate? = none := by
        rw [Statement.ownGate?, Statement.gate?_of_label? hlabel, Option.map_none]
      rw [inheritedGates_cons_of_negates hs, Condition.map_origin_negateLast]
      simp [hown]
    | false =>
      rw [inheritedGates_cons_of_not_negates hs, List.map_append]
      cases hown : s.ownGate? <;> simp [hown]

/-- The gate of the nearest conditional, under the statements nested in it: it is negated if one of
them is a negating branch. -/
lemma inheritedGates_append {inner : List Statement} {g : Statement} {c : Condition}
    (hg : g.ownGate? = some c) (hinner : ∀ t ∈ inner, t.ownGate? = none) (outer : List Statement) :
    (∀ t ∈ inner, t.negates = false) ∧
        inheritedGates (inner ++ g :: outer) = inheritedGates outer ++ [c] ∨
      (∃ t ∈ inner, t.negates = true) ∧
        ∃ others, inheritedGates (inner ++ g :: outer) = others ++ [c.negated] := by
  induction inner with
  | nil =>
    have hg' : g.negates = false := by
      by_contra hnegates
      obtain ⟨label, hlabel, -⟩ := (Option.any_eq_true _ _).mp (eq_true_of_ne_false hnegates)
      simp [Statement.ownGate?, Statement.gate?_of_label? hlabel] at hg
    refine .inl ⟨by simp, ?_⟩
    rw [List.nil_append, inheritedGates_cons_of_not_negates hg', hg, Option.toList_some]
  | cons t inner ih =>
    obtain ⟨ht, hinner⟩ := List.forall_mem_cons.mp hinner
    have hc := Statement.kind_of_ownGate? hg
    rw [List.cons_append, List.forall_mem_cons, List.exists_mem_cons_iff]
    cases htn : t.negates with
    | true =>
      rw [inheritedGates_cons_of_negates htn]
      refine .inr ⟨.inl rfl, ?_⟩
      rcases ih hinner with ⟨-, hgates⟩ | ⟨-, others, hgates⟩
      · exact ⟨inheritedGates outer, by rw [hgates, Condition.negateLast_concat, if_pos hc]⟩
      · exact ⟨Condition.negateLast others, by
          rw [hgates, Condition.negateLast_concat, if_neg (by simp [Condition.negated])]⟩
    | false =>
      rw [inheritedGates_cons_of_not_negates htn, ht, Option.toList_none, List.append_nil]
      rcases ih hinner with ⟨hnone, hgates⟩ | ⟨hsome, hgates⟩
      · exact .inl ⟨⟨rfl, hnone⟩, hgates⟩
      · exact .inr ⟨.inr hsome, hgates⟩

/-- What a branch that negates does below a conditional. If it is the first one to do so, it turns over
the gate of the conditional; otherwise it leaves that gate alone. -/
lemma negateLast_inheritedGates {inner : List Statement} {g : Statement} {c : Condition}
    (hg : g.ownGate? = some c) (hinner : ∀ t ∈ inner, t.ownGate? = none) (outer : List Statement) :
    ((∀ t ∈ inner, t.negates = false) → ∃ others,
        inheritedGates (inner ++ g :: outer) = others ++ [c] ∧
          Condition.negateLast (inheritedGates (inner ++ g :: outer)) = others ++ [c.negated]) ∧
      ((∃ t ∈ inner, t.negates = true) → ∃ others turned,
        inheritedGates (inner ++ g :: outer) = others ++ [c.negated] ∧
          Condition.negateLast (inheritedGates (inner ++ g :: outer)) = turned ++ [c.negated] ∧
          Condition.NegatesLast others turned) := by
  rcases inheritedGates_append hg hinner outer with ⟨hnone, hgates⟩ | ⟨hsome, others, hgates⟩
  · refine ⟨fun _ => ⟨inheritedGates outer, hgates, ?_⟩, fun ⟨t, ht, hnegating⟩ => ?_⟩
    · rw [hgates, Condition.negateLast_concat, if_pos (Statement.kind_of_ownGate? hg)]
    · rw [hnone t ht] at hnegating
      exact Bool.noConfusion hnegating
  · refine ⟨fun hnone => ?_, fun _ => ⟨others, Condition.negateLast others, hgates, ?_, ?_⟩⟩
    · obtain ⟨t, ht, hnegating⟩ := hsome
      rw [hnone t ht] at hnegating
      exact Bool.noConfusion hnegating
    · rw [hgates, Condition.negateLast_concat, if_neg (by simp [Condition.negated])]
    · refine Condition.negatesLast_negateLast fun d hd => ?_
      have hmem : d ∈ inheritedGates (inner ++ g :: outer) := by
        rw [hgates]
        exact List.mem_append_left _ hd
      exact (List.mem_filter.mp hmem).2

end Extraction

/-! ### Gates of instructions -/

lemma Forest.Node.conditions_of_instruction? {block : String} {n : Node Statement} {i : Instruction}
    (h : n.instruction? block = .ok (some i)) :
    i.conditions = Extraction.inheritedConditions (n.item :: n.ancestors) := by
  obtain ⟨_, _, _, _, hi⟩ := instruction?_eq_some_iff.mp h
  obtain ⟨_, _, _, _, rfl⟩ := Statement.instruction_ok_iff.mp hi
  rfl

lemma Forest.Node.gates_of_instruction? {block : String} {n : Node Statement} {i : Instruction}
    (h : n.instruction? block = .ok (some i)) :
    i.gates = Extraction.inheritedGates (n.item :: n.ancestors) := by
  rw [Instruction.gates, conditions_of_instruction? h]
  rfl

/-- The node right above one that has an instruction has an instruction, too. -/
lemma Extraction.exists_parent_instruction {id : String} {block : Block} {e : Extraction}
    (he : ofBlock id block = .ok e) {n : Forest.Node Statement} (hn : n ∈ block.forest.nodes)
    {i : Instruction} (hi : n.instruction? id = .ok (some i)) (hne : n.ancestors ≠ []) :
    ∃ parent ∈ block.forest.nodes, n.ancestors = parent.item :: parent.ancestors ∧
      ∃ j ∈ e.instructions, parent.instruction? id = .ok (some j) := by
  have hgather := gather_of_ofBlock he
  rcases Forest.exists_parent hn with hroot | ⟨parent, hparent, hancestors⟩
  · exact absurd hroot hne
  · refine ⟨parent, hparent, hancestors, ?_⟩
    obtain ⟨o, ho⟩ := exists_instruction?_of_gather hgather hparent
    cases o with
    | some j => exact ⟨j, (mem_of_gather hgather).mpr ⟨parent, hparent, ho⟩, ho⟩
    | none =>
      have husable := (Forest.Node.instruction?_eq_some_iff.mp hi).1
      rw [List.all_cons, hancestors, Forest.Node.instruction?_eq_none_iff.mp ho] at husable
      simp at husable

/-- The gates of an instruction of a negating branch and those of the instruction right above belong to
the same conditionals, and they differ in one: the nearest that must still hold is turned over. If the
nearest conditional has a gate, then that is the one, unless another negating branch lies between. -/
theorem Extraction.gates_of_negating_branch {id : String} {block : Block} {e : Extraction}
    (he : ofBlock id block = .ok e) {i : Instruction} (hi : i ∈ e.instructions) :
    ∃ n ∈ block.forest.nodes, n.instruction? id = .ok (some i) ∧
      ∀ inner g outer, n.item.negates = true → n.ancestors = inner ++ g :: outer →
        g.keyword = some Keyword.conditional →
        (∀ t ∈ inner, t.keyword ≠ some Keyword.conditional) →
        ∃ parent ∈ block.forest.nodes, n.ancestors = parent.item :: parent.ancestors ∧
        ∃ j ∈ e.instructions, parent.instruction? id = .ok (some j) ∧
          let enclosing := n.ancestors.reverse.filterMap (·.ownGate?)
          i.gates.map (·.origin) = enclosing.map (·.origin) ∧
          j.gates.map (·.origin) = enclosing.map (·.origin) ∧
          Condition.NegatesLast j.gates i.gates ∧
          ∀ c, g.ownGate? = some c →
            ((∀ t ∈ inner, t.negates = false) →
              ∃ others, j.gates = others ++ [c] ∧ i.gates = others ++ [c.negated]) ∧
            ((∃ t ∈ inner, t.negates = true) →
              ∃ others turned, j.gates = others ++ [c.negated] ∧ i.gates = turned ++ [c.negated] ∧
                Condition.NegatesLast others turned) := by
  have hgather := gather_of_ofBlock he
  obtain ⟨n, hn, hni⟩ := (mem_of_gather hgather).mp hi
  refine ⟨n, hn, hni, fun inner g outer hnegates hancestors _ hinner => ?_⟩
  have hne : n.ancestors ≠ [] := by simp [hancestors]
  obtain ⟨parent, hparent, habove, j, hj, hnj⟩ := exists_parent_instruction he hn hni hne
  refine ⟨parent, hparent, habove, j, hj, hnj, ?_⟩
  have hjgates : j.gates = inheritedGates n.ancestors := by
    rw [Forest.Node.gates_of_instruction? hnj, habove]
  have higates : i.gates = Condition.negateLast j.gates := by
    rw [Forest.Node.gates_of_instruction? hni, inheritedGates_cons_of_negates hnegates, hjgates]
  have horigin : j.gates.map (·.origin) =
      (n.ancestors.reverse.filterMap (·.ownGate?)).map (·.origin) := by
    rw [hjgates, map_origin_inheritedGates]
  refine ⟨?_, horigin, ?_, fun c hc => ?_⟩
  · rw [higates, ← horigin, Condition.map_origin_negateLast]
  · rw [higates]
    exact Condition.negatesLast_negateLast fun c hc => (List.mem_filter.mp hc).2
  · have hown : ∀ t ∈ inner, t.ownGate? = none := fun t ht => by
      rw [Statement.ownGate?, Statement.gate?, if_neg (hinner t ht), Option.map_none]
    rw [higates, hjgates, hancestors]
    exact negateLast_inheritedGates hc hown outer

/-- The branch right below a conditional negates it. -/
theorem Extraction.gates_of_else_branch :
    let block := Block.ofLines 2 [":: if\x7ba\x7d // text", "  :^: else // text"]
    ∃ e i j, ofBlock "menu" block = .ok e ∧ i ∈ e.instructions ∧ j ∈ e.instructions ∧
      i.gates = [⟨.whenFalse, "a", 1⟩] ∧ Condition.NegatesLast j.gates i.gates := by
  intro block
  have hgates : (ofBlock "menu" block).map (·.instructions.map (·.gates)) =
      .ok [[⟨.whenTrue, "a", 1⟩], [⟨.whenFalse, "a", 1⟩]] := by decide +kernel
  have hnodes : ∀ n ∈ block.forest.nodes,
      n.item.negates = true ∧ n.ancestors.map (·.keyword) = [some Keyword.conditional] ∨
        (n.instruction? "menu").map (·.map (·.gates)) = .ok (some [⟨.whenTrue, "a", 1⟩]) := by
    decide +kernel
  obtain ⟨e, he, hmap⟩ := map_ok_iff.mp hgates
  have hlast : [⟨.whenFalse, "a", 1⟩] ∈ e.instructions.map (·.gates) := by simp [hmap]
  obtain ⟨i, hi, higates⟩ := List.mem_map.mp hlast
  obtain ⟨n, hn, hni, hall⟩ := gates_of_negating_branch he hi
  rcases hnodes n hn with ⟨hnegates, hancestors⟩ | hother
  · obtain ⟨g, _, hg, hkeyword, hnil⟩ := List.map_eq_cons_iff.mp hancestors
    rw [List.map_eq_nil_iff.mp hnil] at hg
    obtain ⟨_, _, _, j, hj, _, _, _, hturned, _⟩ := hall [] g [] hnegates hg hkeyword (by simp)
    exact ⟨e, i, j, he, hi, hj, higates, hturned⟩
  · rw [hni] at hother
    simp [Except.map, higates] at hother

/-- A branch below another one negates a conditional that is not its own: the fourth statement turns over
the gate of the first, for that of the second is turned over already. -/
theorem Extraction.gates_of_nested_branches :
    let lines := [":: if\x7ba\x7d // text", "  :^: if\x7bb\x7d // text", "    :^: false // text",
      "      :^: false // text"]
    let block := Block.ofLines 2 lines
    (Grammar.validateLines 2 lines 1).value.1.all (·.valid) = true ∧
      block.forest.nodes.map (fun n => (n.item.keyword, n.ancestors.map (·.line))) =
        [(some "if", []), (some "if", [1]), (some "false", [2, 1]), (some "false", [3, 2, 1])] ∧
      (ofBlock "menu" block).map (·.instructions.map (·.gates)) =
        .ok [[⟨.whenTrue, "a", 1⟩], [⟨.whenTrue, "a", 1⟩, ⟨.whenTrue, "b", 2⟩],
          [⟨.whenTrue, "a", 1⟩, ⟨.whenFalse, "b", 2⟩],
          [⟨.whenFalse, "a", 1⟩, ⟨.whenFalse, "b", 2⟩]] := by
  decide +kernel

end BlockScript
