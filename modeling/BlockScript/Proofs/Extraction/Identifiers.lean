import BlockScript.Compilation
import BlockScript.Pattern.Searcher
import BlockScript.Proofs.Execution.Exclusion
import BlockScript.Proofs.Extraction.Classes
import BlockScript.Proofs.Optimization.NormalForm
import BlockScript.Proofs.Selectors
import BlockScript.Proofs.Sentence.Processing

/-!
# Ids of instructions

The id of an instruction is put together from its block, its keyword and its line. No part runs into the
next one, so instructions of a block share their id iff their statements stand on one line with one
keyword. Where they do not, an id among children, results and directives names one instruction
(`Extraction.ids_ofBlock`).
-/

namespace BlockScript

open Nat (toDigits)

/-! ### The parts of an id -/

/-- Different numbers are written differently. -/
lemma toString_inj {a b : Int} (ha : 0 ≤ a) (hb : 0 ≤ b) (h : toString a = toString b) : a = b := by
  obtain ⟨m, rfl⟩ := Int.eq_ofNat_of_zero_le ha
  obtain ⟨n, rfl⟩ := Int.eq_ofNat_of_zero_le hb
  have hdigits : toDigits 10 m = toDigits 10 n := by
    rw [← Selector.toList_toString, ← Selector.toList_toString, h]
  rw [← Text.digitsValue_toDigits m, ← Text.digitsValue_toDigits n, hdigits]

lemma hyphen_not_mem_of_isName {cs : List Char} (h : isName cs = true) : '-' ∉ cs := by
  intro hmem
  have hchar := List.all_eq_true.mp (all_isNameChar_of_isName h) '-' hmem
  revert hchar
  decide

namespace Statement

variable {s t : Statement} {block keyword other : String}

lemma keyword_of_mem_ofLine {width : Nat} {line : Int} {text : String}
    (h : s ∈ ofLine width line text) (hkeyword : s.keyword = some keyword) :
    isName keyword.toList = true := by
  obtain ⟨span, hspan, rfl⟩ := List.mem_map.mp h
  rw [keyword_ofSpan] at hkeyword
  have hscan := Span.body_subset_of_mem_split hspan
  cases hbody : span.body with
  | nil =>
    rw [hbody] at hkeyword
    cases hkeyword
  | cons t ts =>
    rw [hbody, Grammar.keywordOf] at hkeyword
    rw [hbody] at hscan
    split at hkeyword
    next hkind =>
      cases hkeyword
      exact isName_of_mem_scan (hscan List.mem_cons_self) hkind
    next => cases hkeyword

/-- A keyword holds no hyphen, so an id tells its keyword and its line. -/
lemma instructionId_inj (hs : 0 ≤ s.line) (ht : 0 ≤ t.line) (hkeyword : isName keyword.toList = true)
    (hother : isName other.toList = true)
    (h : s.instructionId block keyword = t.instructionId block other) :
    s.line = t.line ∧ keyword = other := by
  have hchars : keyword.toList ++ '-' :: (toString s.line).toList =
      other.toList ++ '-' :: (toString t.line).toList := by
    have hlist := congrArg String.toList h
    simpa [instructionId] using hlist
  have hsame : keyword.toList = other.toList := by
    rw [← Lexeme.takeWhile_ne_append (hyphen_not_mem_of_isName hkeyword) (toString s.line).toList,
      hchars, Lexeme.takeWhile_ne_append (hyphen_not_mem_of_isName hother)]
  rw [hsame, List.append_cancel_left_eq, List.cons.injEq] at hchars
  constructor
  · apply toString_inj hs ht
    exact String.toList_injective hchars.2
  · exact String.toList_injective hsame

/-- The id that a statement gives its instruction. -/
def idIn (block : String) (s : Statement) : String :=
  s.instructionId block (s.keyword.getD "")

/-- Statements of a block with a keyword have the same id iff line and keyword are the same. -/
lemma idIn_eq_iff {width : Nat} {lines : List String} (hs : s ∈ ofLines width lines)
    (ht : t ∈ ofLines width lines) (hkeyword : s.keyword = some keyword)
    (hother : t.keyword = some other) :
    s.idIn block = t.idIn block ↔ s.line = t.line ∧ keyword = other := by
  have hline : ∀ u ∈ ofLines width lines, 0 ≤ u.line := by
    intro u hu
    have hle := le_line_of_mem_ofLinesFrom hu
    omega
  have hname : ∀ u ∈ ofLines width lines, ∀ k, u.keyword = some k → isName k.toList = true := by
    intro u hu k hk
    obtain ⟨text, -, line, hu⟩ := exists_mem_ofLine hu
    exact keyword_of_mem_ofLine hu hk
  constructor
  · intro h
    rw [idIn, idIn, hkeyword, hother] at h
    exact instructionId_inj (hline s hs) (hline t ht) (hname s hs _ hkeyword) (hname t ht _ hother) h
  · rintro ⟨hsame, rfl⟩
    rw [idIn, idIn, hkeyword, hother, instructionId, instructionId, hsame]

end Statement

/-! ### The ids of a block -/

/-- The line and the keyword that an instruction comes from. -/
def Instruction.place? (i : Instruction) : Option (Int × String) :=
  i.origin.map fun o => (o.line, o.keyword)

namespace Extraction

variable {id : String} {width : Nat} {lines : List String} {e : Extraction}

/-- The instruction of a node has the id, the line and the keyword of its statement. -/
lemma id_of_instruction? {n : Forest.Node Statement} {i : Instruction}
    (h : n.instruction? id = .ok (some i)) :
    i.id = n.item.idIn id ∧
      ∃ keyword, n.item.keyword = some keyword ∧ i.place? = some (n.item.line, keyword) := by
  obtain ⟨-, keyword, target, husable, hi⟩ := Forest.Node.instruction?_eq_some_iff.mp h
  obtain ⟨hkeyword, -, -⟩ := Statement.usable?_eq_some_iff.mp husable
  obtain ⟨selector, -, effect, -, rfl⟩ := Statement.instruction_ok_iff.mp hi
  constructor
  · rw [Statement.idIn, hkeyword]
    rfl
  · exact ⟨keyword, hkeyword, rfl⟩

lemma map_id_instructions (h : ofBlock id (Block.ofLines width lines) = .ok e) :
    e.instructions.map (·.id) =
      ((Block.ofLines width lines).forest.nodes.filter (·.isEmitted)).map (·.item.idIn id) := by
  have hids : List.Forall₂ (fun n i => n.item.idIn id = i.id)
      ((Block.ofLines width lines).forest.nodes.filter (·.isEmitted)) e.instructions := by
    apply (forall₂_emitted_of_gather (gather_of_ofBlock h)).imp
    intro n i hi
    exact (id_of_instruction? hi).1.symm
  rw [← List.forall₂_map_right_iff, ← List.forall₂_map_left_iff, List.forall₂_eq_eq_eq] at hids
  exact hids.symm

/-- Instructions have the same id iff they come from one line and one keyword. -/
lemma id_eq_iff (h : ofBlock id (Block.ofLines width lines) = .ok e) {i j : Instruction}
    (hi : i ∈ e.instructions) (hj : j ∈ e.instructions) : i.id = j.id ↔ i.place? = j.place? := by
  obtain ⟨m, hm, hmi⟩ := (mem_of_gather (gather_of_ofBlock h)).mp hi
  obtain ⟨n, hn, hnj⟩ := (mem_of_gather (gather_of_ofBlock h)).mp hj
  obtain ⟨hid, keyword, hkeyword, hplace⟩ := id_of_instruction? hmi
  obtain ⟨hid', other, hother, hplace'⟩ := id_of_instruction? hnj
  rw [hid, hid', hplace, hplace', Option.some.injEq, Prod.mk.injEq]
  exact Statement.idIn_eq_iff (item_mem_statements hm) (item_mem_statements hn) hkeyword hother

/-- The ids are distinct iff no line has two emitted statements with one keyword. -/
lemma nodup_ids_iff (h : ofBlock id (Block.ofLines width lines) = .ok e) :
    (e.instructions.map (·.id)).Nodup ↔
      ((Block.ofLines width lines).forest.nodes.filter (·.isEmitted)).Pairwise
        fun m n => m.item.line = n.item.line → m.item.keyword ≠ n.item.keyword := by
  rw [map_id_instructions h, List.Nodup, List.pairwise_map]
  apply List.Pairwise.iff_of_mem
  intro m n hm hn
  have hkeyword : ∀ u ∈ (Block.ofLines width lines).forest.nodes.filter (·.isEmitted),
      ∃ keyword, u.item.keyword = some keyword := by
    intro u hu
    have hemitted := (List.mem_filter.mp hu).2
    rw [Forest.Node.isEmitted, List.all_cons, Bool.and_eq_true] at hemitted
    obtain ⟨found, hfound⟩ := Option.isSome_iff_exists.mp hemitted.1
    exact ⟨found.1, (Statement.usable?_eq_some_iff.mp hfound).1⟩
  obtain ⟨keyword, hm'⟩ := hkeyword m hm
  obtain ⟨other, hn'⟩ := hkeyword n hn
  have hinj : m.item.idIn id = n.item.idIn id ↔ m.item.line = n.item.line ∧ keyword = other :=
    Statement.idIn_eq_iff (item_mem_statements (List.mem_of_mem_filter hm))
      (item_mem_statements (List.mem_of_mem_filter hn)) hm' hn'
  rw [hm', hn', ne_eq, hinj, ne_eq, Option.some.injEq, not_and]

/-- Statements on different lines have different ids. -/
lemma nodup_ids_of_length_le_one (h : ofBlock id (Block.ofLines width lines) = .ok e)
    (hlines : ∀ text ∈ lines, ∀ line, (Statement.ofLine width line text).length ≤ 1) :
    (e.instructions.map (·.id)).Nodup := by
  rw [nodup_ids_iff h]
  apply List.Pairwise.filter
  have hitems : (Block.ofLines width lines).forest.nodes.map (·.item) =
      Statement.ofLines width lines := by
    rw [Forest.nodes, Forest.map_item_nodesBelow, Block.forest, Forest.walk_ofList]
    rfl
  have hlt := Statement.pairwise_lt_ofLinesFrom hlines 1
  rw [← Statement.ofLines, ← hitems, List.pairwise_map] at hlt
  apply hlt.imp
  intro m n hlt heq
  omega

/-- The ids among the children of an instruction are ids of instructions. -/
lemma exists_child (h : ofBlock id (Block.ofLines width lines) = .ok e) {i : Instruction}
    (hi : i ∈ e.instructions) {child : String} (hchild : child ∈ i.children) :
    ∃ j ∈ e.instructions, j.id = child := by
  have hgather := gather_of_ofBlock h
  obtain ⟨n, hn, hni⟩ := (mem_of_gather hgather).mp hi
  obtain ⟨hall, keyword, target, husable, hinstruction⟩ :=
    Forest.Node.instruction?_eq_some_iff.mp hni
  obtain ⟨-, -, hchildren⟩ := Statement.comesFrom_of_instruction husable hinstruction
  rw [hchildren, Statement.childIds, List.mem_filterMap] at hchild
  obtain ⟨c, hc, hid⟩ := hchild
  obtain ⟨found, hfound, rfl⟩ := Option.map_eq_some_iff.mp hid
  obtain ⟨m, hm, rfl, hancestors⟩ := Forest.exists_child_node hn hc
  obtain ⟨o, ho⟩ := exists_instruction?_of_gather hgather hm
  cases o with
  | none =>
    have hnone := Forest.Node.instruction?_eq_none_iff.mp ho
    rw [hancestors, List.all_cons, hall, Statement.isUsable_of_usable? hfound] at hnone
    cases hnone
  | some j =>
    refine ⟨j, (mem_of_gather hgather).mpr ⟨m, hm, ho⟩, ?_⟩
    rw [(id_of_instruction? ho).1, Statement.idIn, (Statement.usable?_eq_some_iff.mp hfound).1]
    rfl

end Extraction

/-! ### The ids of a run -/

/-- Merging gives instructions the ids of earlier ones. -/
lemma Optimization.exists_id_of_mem_consolidate {is : List Instruction} :
    ∀ i ∈ consolidate is, ∃ j ∈ is, j.id = i.id := by
  induction is using List.reverseRecOn with
  | nil => simp [consolidate]
  | append_singleton is new ih =>
    intro i hi
    have hold : ∀ k ∈ consolidate is, k.id = i.id → ∃ j ∈ is ++ [new], j.id = i.id := by
      intro k hk heq
      obtain ⟨j, hj, hid⟩ := ih k hk
      exact ⟨j, List.mem_append_left _ hj, hid.trans heq⟩
    rw [consolidate_concat] at hi
    rcases absorb_cases new (consolidate is) with ⟨-, habsorb⟩ | ⟨front, head, back, heq, -, habsorb⟩
    · rw [habsorb] at hi
      rcases List.mem_append.mp hi with hi | hi
      · exact hold i hi rfl
      · obtain rfl := List.mem_singleton.mp hi
        exact ⟨i, by simp, rfl⟩
    · rw [habsorb, List.mem_append, List.mem_cons] at hi
      rcases hi with hi | rfl | hi
      · exact hold i (by simp [heq, hi]) rfl
      · exact hold head (by simp [heq]) rfl
      · exact hold i (by simp [heq, hi]) rfl

/-- The instructions that are executed have ids of extracted ones. -/
lemma Compilation.exists_id_of_mem_select {optimize : Bool} {is : List Instruction} {i : Instruction}
    (h : i ∈ (select optimize is).1) : ∃ j ∈ is, j.id = i.id := by
  cases optimize with
  | false => exact ⟨i, h, rfl⟩
  | true =>
    have hi := (Optimization.perm_sortByBucket _).mem_iff.mp h
    obtain ⟨j, hj, hid⟩ := Optimization.exists_id_of_mem_consolidate i hi
    exact ⟨j, List.mem_of_mem_filter hj, hid⟩

namespace Execution

variable {context : Context} {block : String} {timing : Timing} {n : Nat} {is : List Instruction}
  {v : Evaluator}

lemma instruction_of_directive? {i : Instruction} {d : Directive}
    (h : Handler.directive? i = some d) : d.instruction = i.id := by
  unfold Handler.directive? at h
  split at h <;> cases h <;> rfl

/-- The directives of the default handlers have the id of their instruction. -/
lemma instruction_of_directives {i : Instruction} {bucket : Bucket} {ds : List Directive}
    (h : (Handlers.default.find bucket i context).reply.directives = .ok ds) :
    ∀ d ∈ ds, d.instruction = i.id := by
  rw [Handlers.find_default] at h
  cases hdirective : Handler.directive? i with
  | none =>
    by_cases hstate : bucket = .state
    · rw [if_pos hstate, Handler.emitState, hdirective] at h
      cases h
    · rw [if_neg hstate, Handler.emitEffect, hdirective] at h
      cases h
  | some own =>
    have hown := instruction_of_directive? hdirective
    intro d hd
    by_cases hstate : bucket = .state
    · rw [if_pos hstate, Handler.emitState, hdirective] at h
      cases h
      rw [List.mem_singleton.mp hd]
      split <;> exact hown
    · rw [if_neg hstate, Handler.emitEffect, hdirective] at h
      cases h
      rw [List.mem_singleton.mp hd]
      exact hown

lemma instruction_of_mem_carryOut {i : Instruction} {done : Logged Fate}
    (h : carryOut .default context i = .ok done) :
    ∀ d ∈ done.value.directives, d.instruction = i.id := by
  unfold carryOut at h
  split at h <;> cases h
  next hreply => exact instruction_of_directives hreply
  next => exact List.forall_mem_nil _

/-- A result has the id of its instruction, and so have its directives. -/
lemma id_of_mem_results [Searcher] {results : List (String × Fate)}
    (h : (runFrom .default context block timing n is v).answer = .ok results) :
    ∀ r ∈ results, ∃ i ∈ is, r.1 = i.id ∧ ∀ d ∈ r.2.directives, d.instruction = i.id := by
  induction is generalizing n v results with
  | nil =>
    cases h
    simp
  | cons i is ih =>
    cases hfirst : (runOne .default context block (timing.gates n) i v).answer with
    | error e =>
      rw [(runFrom_cons_of_error hfirst).2] at h
      cases h
    | ok fate =>
      rw [(runFrom_cons_of_ok hfirst).2] at h
      obtain ⟨rest, hrest, rfl⟩ := map_ok_iff.mp h
      intro r hr
      rcases List.mem_cons.mp hr with rfl | hr
      · refine ⟨i, List.mem_cons_self, rfl, ?_⟩
        rcases runOne_cases hfirst with ⟨-, rfl⟩ | ⟨-, done, hdone, rfl⟩
        · exact List.forall_mem_nil _
        · exact instruction_of_mem_carryOut hdone
      · obtain ⟨j, hj, hid⟩ := ih hrest r hr
        exact ⟨j, List.mem_cons_of_mem i hj, hid⟩

end Execution

/-! ### Ids of instructions -/

namespace Extraction

variable {id : String} {width : Nat} {lines : List String} {e : Extraction}

/-- Instructions of a block share their id iff they come from one line and one keyword. So the ids are
distinct iff no line has two emitted statements with one keyword, as is the case if there is only one
statement on each line. If they are distinct, the id of a child, a result or a directive is that of
exactly one instruction. -/
theorem ids_ofBlock [Searcher] (h : ofBlock id (Block.ofLines width lines) = .ok e) :
    (∀ i ∈ e.instructions, ∀ j ∈ e.instructions, i.id = j.id ↔ i.place? = j.place?) ∧
    ((e.instructions.map (·.id)).Nodup ↔
      ((Block.ofLines width lines).forest.nodes.filter (·.isEmitted)).Pairwise
        fun m n => m.item.line = n.item.line → m.item.keyword ≠ n.item.keyword) ∧
    ((∀ text ∈ lines, ∀ line, (Statement.ofLine width line text).length ≤ 1) →
      (e.instructions.map (·.id)).Nodup) ∧
    ((e.instructions.map (·.id)).Nodup →
      (∀ i ∈ e.instructions, ∀ child ∈ i.children, ∃! j, j ∈ e.instructions ∧ j.id = child) ∧
      ∀ optimize context timing v x,
        (Execution.run .default context id timing
          (Compilation.select optimize e.instructions).1 v).answer = .ok x →
        ∀ r ∈ x.results, ∃! i, i ∈ e.instructions ∧ i.id = r.1 ∧
          ∀ d ∈ r.2.directives, d.instruction = i.id) := by
  refine ⟨fun i hi j hj => id_eq_iff h hi hj, nodup_ids_iff h, nodup_ids_of_length_le_one h, ?_⟩
  intro hnodup
  have hunique : ∀ i ∈ e.instructions, ∀ j ∈ e.instructions, i.id = j.id → i = j := by
    intro i hi j hj
    exact List.inj_on_of_nodup_map hnodup hi hj
  constructor
  · intro i hi child hchild
    obtain ⟨j, hj, rfl⟩ := exists_child h hi hchild
    exact ⟨j, ⟨hj, rfl⟩, fun k hk => hunique k hk.1 j hj hk.2⟩
  · intro optimize context timing v x hrun r hr
    obtain ⟨i, hi, hid, hdirectives⟩ :=
      Execution.id_of_mem_results (Execution.runFrom_of_run hrun) r hr
    obtain ⟨j, hj, hji⟩ := Compilation.exists_id_of_mem_select hi
    refine ⟨j, ⟨hj, hji.trans hid.symm, ?_⟩, ?_⟩
    · intro d hd
      rw [hdirectives d hd, hji]
    · rintro k ⟨hk, hkr, -⟩
      exact hunique k hk j hj (hkr.trans (hid.trans hji.symm))

open scoped Pattern

/-- Two statements with different keywords on the first line, and one below them. -/
theorem ids_ofBlock_menu :
    let lines := [":: reveal // text :: hide // text", "  :^: hide // content"]
    ∃ e, ofBlock "the-menu" (Block.ofLines 2 lines) = .ok e ∧
      e.instructions.map (fun i => (i.id, i.children)) =
        [("the-menu-reveal-1", []), ("the-menu-hide-1", ["the-menu-hide-2"]),
          ("the-menu-hide-2", [])] ∧
      ∀ i ∈ e.instructions, ∀ child ∈ i.children, ∃! j, j ∈ e.instructions ∧ j.id = child := by
  intro lines
  have hfound : (ofBlock "the-menu" (Block.ofLines 2 lines)).map
        (fun e => e.instructions.map fun i => (i.id, i.children)) =
      .ok [("the-menu-reveal-1", []), ("the-menu-hide-1", ["the-menu-hide-2"]),
        ("the-menu-hide-2", [])] := by decide +kernel
  obtain ⟨e, he, hids⟩ := map_ok_iff.mp hfound
  have hnodup : (e.instructions.map (·.id)).Nodup := by
    have hfst : e.instructions.map (·.id) =
        (e.instructions.map fun i => (i.id, i.children)).map (·.1) := by
      rw [List.map_map]
      rfl
    rw [hfst, hids]
    decide
  obtain ⟨-, -, -, hunique⟩ := ids_ofBlock he
  exact ⟨e, he, hids, (hunique hnodup).1⟩

/-- On a line without errors two statements with one keyword have the same id. -/
theorem ids_shared :
    let lines := [":: hide // text :: hide // content"]
    (Grammar.validateLines 2 lines 1).value.1.map (·.errors) = [[]] ∧
      ∃ e, ofBlock "b" (Block.ofLines 2 lines) = .ok e ∧
        e.instructions.map (·.id) = ["b-hide-1", "b-hide-1"] ∧
        ¬ (e.instructions.map (·.id)).Nodup := by
  intro lines
  have hfound : (ofBlock "b" (Block.ofLines 2 lines)).map (fun e => e.instructions.map (·.id)) =
      .ok ["b-hide-1", "b-hide-1"] := by decide +kernel
  obtain ⟨e, he, hids⟩ := map_ok_iff.mp hfound
  refine ⟨by decide +kernel, e, he, hids, ?_⟩
  rw [hids]
  decide

end Extraction

end BlockScript
