import BlockScript.Proofs.Branches
import BlockScript.Proofs.Extraction.Classes

/-!
# Inheritance along paths

The path of a statement leads from the outermost statement around it down to itself. What an
instruction inherits is read off that path: the gates are those of its conditionals, the labels those of
its branches, and the scope is the narrowest one of its targets (`Extraction.inherits_ofBlock`).
-/

namespace BlockScript

/-- The statements around a statement, the outermost first, and the statement itself. -/
def Forest.Node.path (n : Node Statement) : List Statement :=
  (n.item :: n.ancestors).reverse

/-! ### Scopes -/

/-- How wide the kind reaches that the target of a statement selects. -/
def Statement.kindScope (s : Statement) : Scope :=
  (Selector.kindOf ((s.target.map (·.function)).getD "")).2

namespace Scope

/-- Whether a scope is the narrowest of some. -/
structure IsNarrowest (scope : Scope) (scopes : List Scope) : Prop where
  mem : scope ∈ scopes
  rank_le : ∀ other ∈ scopes, other.rank ≤ scope.rank

lemma isNarrowest_singleton (scope : Scope) : scope.IsNarrowest [scope] :=
  ⟨List.mem_singleton_self scope, fun other h => by rw [List.mem_singleton.mp h]⟩

lemma IsNarrowest.narrower {scope : Scope} {scopes : List Scope} (h : scope.IsNarrowest scopes)
    (own : Scope) : (scope.narrower own).IsNarrowest (own :: scopes) := by
  unfold Scope.narrower
  split
  next hlt => exact ⟨List.mem_cons_of_mem own h.mem, List.forall_mem_cons.mpr ⟨hlt.le, h.rank_le⟩⟩
  next hle =>
    refine ⟨List.mem_cons_self, List.forall_mem_cons.mpr ⟨le_rfl, fun other hother => ?_⟩⟩
    exact (h.rank_le other hother).trans (Nat.le_of_not_lt hle)

end Scope

namespace Extraction

lemma isNarrowest_inheritedScope (s : Statement) (outer : List Statement) :
    ∃ scope, inheritedScope (s :: outer) = some scope ∧
      scope.IsNarrowest ((s :: outer).map (·.kindScope)) := by
  induction outer generalizing s with
  | nil => exact ⟨s.kindScope, rfl, Scope.isNarrowest_singleton _⟩
  | cons t outer ih =>
    obtain ⟨scope, hscope, hnarrowest⟩ := ih t
    refine ⟨scope.narrower s.kindScope, ?_, hnarrowest.narrower s.kindScope⟩
    rw [inheritedScope, hscope]
    rfl

end Extraction

/-! ### Labels -/

/-- The label that a statement contributes. -/
def Statement.ownLabel? (s : Statement) : Option Condition :=
  s.label?.map fun label => ⟨.label, label, s.line⟩

namespace Condition

def isLabel (c : Condition) : Bool :=
  c.kind == .label

lemma filter_isLabel_negateFirst (cs : List Condition) :
    (negateFirst cs).filter (·.isLabel) = cs.filter (·.isLabel) := by
  induction cs with
  | nil => rfl
  | cons c cs ih =>
    rw [negateFirst]
    split
    next hc => simp [isLabel, hc]
    next => rw [List.filter_cons, List.filter_cons, ih]

lemma filter_isLabel_negateLast (cs : List Condition) :
    (negateLast cs).filter (·.isLabel) = cs.filter (·.isLabel) := by
  rw [negateLast, List.filter_reverse, filter_isLabel_negateFirst, List.filter_reverse,
    List.reverse_reverse]

end Condition

namespace Extraction

lemma filter_isLabel_ofStatement (inherited : List Condition) (s : Statement) :
    (Condition.ofStatement inherited s).filter (·.isLabel) =
      inherited.filter (·.isLabel) ++ s.ownLabel?.toList := by
  unfold Condition.ofStatement
  cases hlabel : s.label? with
  | none =>
    have hown : (s.gate?.map fun e => (⟨.whenTrue, e, s.line⟩ : Condition)).toList.filter
        (·.isLabel) = [] := by
      cases s.gate? <;> rfl
    simp only [Statement.ownLabel?, hlabel, List.filter_append, hown, Option.map_none,
      Option.toList_none]
  | some label =>
    have hturned : (if Keyword.isNegating label then Condition.negateLast inherited
        else inherited).filter (·.isLabel) = inherited.filter (·.isLabel) := by
      split
      · exact Condition.filter_isLabel_negateLast inherited
      · rfl
    simp only [Statement.gate?_of_label? hlabel, Option.map_none, Option.toList_none,
      List.append_nil, List.filter_append, Statement.ownLabel?, hlabel]
    exact congrArg (· ++ [_]) hturned

/-- Labels belong to the branches that contribute them, outermost first. -/
lemma filter_isLabel_inheritedConditions (nested : List Statement) :
    (inheritedConditions nested).filter (·.isLabel) = nested.reverse.filterMap (·.ownLabel?) := by
  induction nested with
  | nil => rfl
  | cons s outer ih =>
    rw [List.reverse_cons, List.filterMap_append, ← ih, inheritedConditions,
      filter_isLabel_ofStatement]
    cases hs : s.ownLabel? <;> simp [hs]

end Extraction

/-! ### Instructions -/

/-- What an instruction inherits along the path of its statement. -/
structure Instruction.InheritsAlong (i : Instruction) (n : Forest.Node Statement) : Prop where
  origin : i.ComesFrom n.item
  /-- One gate for each conditional with a condition, in the order of the path. -/
  gates : i.gates.map (·.origin) = n.path.filterMap fun s => s.gate?.map (·, s.line)
  /-- One label for each branch, in the order of the path. -/
  labels : i.conditions.filter (·.isLabel) = n.path.filterMap (·.ownLabel?)
  scope : i.target.scope.IsNarrowest (n.path.map (·.kindScope))

lemma Forest.Node.scope_of_instruction? {block : String} {n : Node Statement} {i : Instruction}
    (h : n.instruction? block = .ok (some i)) :
    Extraction.inheritedScope (n.item :: n.ancestors) = some i.target.scope := by
  obtain ⟨-, _, _, husable, hi⟩ := instruction?_eq_some_iff.mp h
  rw [Extraction.inheritedScope, (Statement.inherited_of_instruction husable hi).1]

lemma Forest.Node.inheritsAlong_of_instruction? {block : String} {n : Node Statement}
    {i : Instruction} (h : n.instruction? block = .ok (some i)) : i.InheritsAlong n where
  origin := by
    obtain ⟨-, _, _, husable, hi⟩ := instruction?_eq_some_iff.mp h
    exact (Statement.comesFrom_of_instruction husable hi).1
  gates := by
    rw [gates_of_instruction? h, Extraction.map_origin_inheritedGates, List.map_filterMap]
    refine List.filterMap_congr fun s _ => ?_
    rw [Statement.ownGate?, Option.map_map]
    rfl
  labels := by
    rw [conditions_of_instruction? h, Extraction.filter_isLabel_inheritedConditions]
    rfl
  scope := by
    obtain ⟨scope, hscope, hmem, hle⟩ := Extraction.isNarrowest_inheritedScope n.item n.ancestors
    obtain rfl := Option.some.inj (hscope.symm.trans (scope_of_instruction? h))
    rw [path, List.map_reverse]
    exact ⟨List.mem_reverse.mpr hmem, fun other hother => hle other (List.mem_reverse.mp hother)⟩

/-- The instructions of a block inherit what is on the paths of their statements, and nothing else. -/
theorem Extraction.inherits_ofBlock {id : String} {block : Block} {e : Extraction}
    (h : ofBlock id block = .ok e) :
    List.Forall₂ (fun n i => i.InheritsAlong n) (block.forest.nodes.filter (·.isEmitted))
      e.instructions :=
  (forall₂_emitted_of_gather (gather_of_ofBlock h)).imp fun _ _ hi =>
    Forest.Node.inheritsAlong_of_instruction? hi

/-- A conditional with a branch that negates it and another conditional below that. -/
theorem Extraction.inherits_menu :
    let block := Block.ofLines 2 [":: if\x7ba\x7d // text", "  :^: else // element",
      "    :^: if\x7bb\x7d // content"]
    ∃ e, ofBlock "menu" block = .ok e ∧
      List.Forall₂ (fun n i => i.InheritsAlong n) (block.forest.nodes.filter (·.isEmitted))
        e.instructions ∧
      e.instructions.map (fun i => (i.gates.map (·.origin), i.target.scope)) =
        [([("a", 1)], .content), ([("a", 1)], .element), ([("a", 1), ("b", 3)], .element)] := by
  intro block
  have hfound : (ofBlock "menu" block).map
        (·.instructions.map fun i => (i.gates.map (·.origin), i.target.scope)) =
      .ok [([("a", 1)], .content), ([("a", 1)], .element), ([("a", 1), ("b", 3)], .element)] := by
    decide +kernel
  obtain ⟨e, he, hinherited⟩ := map_ok_iff.mp hfound
  exact ⟨e, he, inherits_ofBlock he, hinherited⟩

end BlockScript
