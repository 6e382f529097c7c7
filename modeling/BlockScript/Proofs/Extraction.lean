import BlockScript.Instruction.Extraction
import BlockScript.Proofs.Nesting
import Mathlib.Data.List.Forall2
import Mathlib.Data.List.ReduceOption

/-!
# Instructions of nodes

What a statement inherits depends on its ancestors alone. So each node of a forest has its own
instruction, or none if it or one of its ancestors is rejected, and extraction is a map over the nodes
(`Extraction.instructions_ofForest`).
-/

namespace BlockScript

/-! ### Computations that may fail -/

section

variable {ε α β : Type}

/-- A computation in two steps succeeds if both steps do. -/
lemma bind_ok_iff {x : Except ε α} {f : α → Except ε β} {b : β} :
    (x >>= f) = .ok b ↔ ∃ a, x = .ok a ∧ f a = .ok b := by
  cases x <;> simp [bind, Except.bind]

lemma map_ok_iff {x : Except ε α} {f : α → β} {b : β} :
    f <$> x = .ok b ↔ ∃ a, x = .ok a ∧ f a = b := by
  cases x <;> simp [Functor.map, Except.map]

lemma mapError_ok_iff {γ : Type} {x : Except ε α} {f : ε → γ} {a : α} :
    x.mapError f = .ok a ↔ x = .ok a := by
  cases x <;> simp [Except.mapError]

lemma mapError_error_iff {γ : Type} {x : Except ε α} {f : ε → γ} {d : γ} :
    x.mapError f = .error d ↔ ∃ e, x = .error e ∧ f e = d := by
  cases x <;> simp [Except.mapError]

@[simp] lemma pure_ok_iff {a b : α} : (pure a : Except ε α) = .ok b ↔ a = b := by
  simp [pure, Except.pure]

lemma forall₂_of_mapM {f : α → Except ε β} {as : List α} {bs : List β} (h : as.mapM f = .ok bs) :
    List.Forall₂ (fun a b => f a = .ok b) as bs := by
  induction as generalizing bs with
  | nil =>
    cases h
    exact .nil
  | cons a as ih =>
    simp only [List.mapM_cons, bind_ok_iff, pure_ok_iff] at h
    obtain ⟨b, hb, bs, hbs, rfl⟩ := h
    exact .cons hb (ih hbs)

/-- Reading values keeps the names. -/
lemma forall₂_of_mapM_entries {f : α → Except ε β} {es : Entries α} {read : Entries β}
    (h : es.mapM (fun (name, raw) => return (name, ← f raw)) = .ok read) :
    List.Forall₂ (fun e r => r.1 = e.1 ∧ f e.2 = .ok r.2) es read := by
  refine (forall₂_of_mapM h).imp fun e r her => ?_
  obtain ⟨value, hvalue, hr⟩ := bind_ok_iff.mp her
  rw [← pure_ok_iff.mp hr]
  exact ⟨rfl, hvalue⟩

end

/-! ### Inheritance -/

namespace Statement

/-- The scope that a statement hands down. -/
def scopeUnder (parent : Option Scope) (s : Statement) : Scope :=
  let own := (Selector.kindOf ((s.target.map (·.function)).getD "")).2
  (parent.map (·.narrower own)).getD own

/-- Whether a statement gives an instruction if its ancestors do. -/
def isUsable (s : Statement) : Bool :=
  s.usable?.isSome

lemma isUsable_of_usable? {s : Statement} {found : String × TargetZone}
    (h : s.usable? = some found) : s.isUsable = true :=
  Option.isSome_of_eq_some h

lemma usable?_eq_none_iff {s : Statement} : s.usable? = none ↔ s.isUsable = false := by
  rw [isUsable, Option.isSome_eq_false_iff, Option.isNone_iff_eq_none]

end Statement

namespace Extraction

/-- The scope under a row of nested statements, innermost first. -/
def inheritedScope : List Statement → Option Scope
  | [] => none
  | s :: outer => some (s.scopeUnder (inheritedScope outer))

/-- The conditions under a row of nested statements, innermost first. -/
def inheritedConditions : List Statement → List Condition
  | [] => []
  | s :: outer => Condition.ofStatement (inheritedConditions outer) s

end Extraction

/-- The instruction of a node. Statements that are rejected have none, and neither does what is nested
below them. -/
def Forest.Node.instruction? (block : String) (n : Node Statement) :
    Except NumberError (Option Instruction) :=
  match n.item.usable? with
  | none => return none
  | some (keyword, target) =>
    if n.ancestors.all (·.isUsable) then
      some <$> n.item.instruction block (Extraction.inheritedScope n.ancestors)
        (Extraction.inheritedConditions n.ancestors) keyword target n.children
    else return none

/-! ### Single statements -/

namespace Statement

lemma scope_of_normalize {function : String} {argument : Option String} {parent : Option Scope}
    {selector : Selector} (h : Selector.normalize function argument parent = .ok selector) :
    selector.scope = (parent.map (·.narrower (Selector.kindOf function).2)).getD
      (Selector.kindOf function).2 := by
  unfold Selector.normalize at h
  split at h
  next kind own hkind =>
    rw [hkind]
    split at h
    · cases h
      rfl
    · obtain ⟨position, _, hposition⟩ := bind_ok_iff.mp h
      cases position <;> cases hposition <;> rfl

/-- The effect of a statement with its options read. -/
def readEffect? (s : Statement) : Except NumberError (Option Effect) :=
  match s.effect with
  | none => return none
  | some zone => readEffect zone

/-- An instruction is put together from the selector and the effect of its statement. -/
lemma instruction_ok_iff {block : String} {scope : Option Scope} {conditions : List Condition}
    {s : Statement} {keyword : String} {target : TargetZone} {children : List Statement}
    {i : Instruction} :
    s.instruction block scope conditions keyword target children = .ok i ↔
      ∃ selector, Selector.normalize target.function target.argument scope = .ok selector ∧
      ∃ effect, s.readEffect? = .ok effect ∧
        i = {
          id := s.instructionId block keyword
          bucket := Keyword.bucketOf keyword
          subject := s.subject?
          target := selector
          effect := effect
          outcome := s.outcome
          conditions := Condition.ofStatement conditions s
          origin := some ⟨s.line, s.column, s.operator, keyword, s.source, s.depth⟩
          children := children.filterMap fun c =>
            c.usable?.map fun (k, _) => c.instructionId block k } := by
  unfold instruction readEffect?
  cases s.effect with
  | none => simp [map_ok_iff, eq_comm (b := i)]
  | some zone => simp [bind_ok_iff, map_ok_iff, eq_comm (b := i)]

lemma usable?_eq_some_iff {s : Statement} {keyword : String} {target : TargetZone} :
    s.usable? = some (keyword, target) ↔
      s.keyword = some keyword ∧ s.target = some target ∧ target.function ≠ "" := by
  unfold usable?
  cases s.keyword <;> cases s.target <;> simp
  grind

/-- What a usable statement hands down is found in its instruction. -/
lemma inherited_of_instruction {block : String} {scope : Option Scope}
    {conditions : List Condition} {s : Statement} {keyword : String} {target : TargetZone}
    {children : List Statement} {i : Instruction} (hs : s.usable? = some (keyword, target))
    (h : s.instruction block scope conditions keyword target children = .ok i) :
    i.target.scope = s.scopeUnder scope ∧ i.conditions = Condition.ofStatement conditions s := by
  obtain ⟨selector, hselector, effect, _, rfl⟩ := instruction_ok_iff.mp h
  obtain ⟨_, htarget, _⟩ := usable?_eq_some_iff.mp hs
  refine ⟨?_, rfl⟩
  rw [scope_of_normalize hselector, scopeUnder, htarget]
  rfl

end Statement

/-! ### Nodes -/

namespace Forest.Node

variable {block : String} {n : Node Statement}

/-- Whether a node gives an instruction: its statement can be used, and so can all above it. -/
def isEmitted (n : Node Statement) : Bool :=
  (n.item :: n.ancestors).all (·.isUsable)

/-- A node has no instruction if its statement is rejected, or one above it. -/
lemma instruction?_eq_none_iff :
    n.instruction? block = .ok none ↔ (n.item :: n.ancestors).all (·.isUsable) = false := by
  rw [List.all_cons, Statement.isUsable]
  unfold instruction?
  split
  next hs => simp [hs]
  next hs =>
    split
    next hanc => simp [hs, hanc, map_ok_iff]
    next hanc => simp [hs, hanc]

lemma instruction?_eq_some_iff {i : Instruction} :
    n.instruction? block = .ok (some i) ↔
      (n.item :: n.ancestors).all (·.isUsable) = true ∧
      ∃ keyword target, n.item.usable? = some (keyword, target) ∧
        n.item.instruction block (Extraction.inheritedScope n.ancestors)
          (Extraction.inheritedConditions n.ancestors) keyword target n.children = .ok i := by
  rw [List.all_cons, Statement.isUsable]
  unfold instruction?
  split
  next hs => simp [hs]
  next hs =>
    split
    next hanc => simp [hs, hanc, map_ok_iff]
    next hanc => simp [hs, hanc]

end Forest.Node

/-! ### Forests -/

/-- What only some members contribute comes from these. -/
lemma flatMap_ite_eq_flatMap_filter {α β : Type} (p : α → Bool) (g : α → List β) (l : List α) :
    l.flatMap (fun a => if p a then g a else []) = (l.filter p).flatMap g := by
  induction l with
  | nil => rfl
  | cons a l ih => cases ha : p a <;> simp [ha, ih]

namespace Extraction

/-- The instructions of some nodes. -/
def gather (block : String) (nodes : List (Forest.Node Statement)) :
    Except NumberError (List Instruction) :=
  List.reduceOption <$> nodes.mapM (·.instruction? block)

lemma gather_cons (block : String) (n : Forest.Node Statement)
    (nodes : List (Forest.Node Statement)) :
    gather block (n :: nodes) =
      return (← n.instruction? block).toList ++ (← gather block nodes) := by
  simp only [gather, List.mapM_cons, map_bind, bind_map_left, map_pure]
  congr 1
  funext o
  cases o <;> rfl

lemma gather_cons_ok_iff {block : String} {n : Forest.Node Statement}
    {nodes : List (Forest.Node Statement)} {is : List Instruction} :
    gather block (n :: nodes) = .ok is ↔
      ∃ o, n.instruction? block = .ok o ∧
      ∃ others, gather block nodes = .ok others ∧ is = o.toList ++ others := by
  simp only [gather_cons, bind_ok_iff, pure_ok_iff, eq_comm (b := is)]

lemma gather_append (block : String) (nodes more : List (Forest.Node Statement)) :
    gather block (nodes ++ more) =
      return (← gather block nodes) ++ (← gather block more) := by
  simp [gather, List.reduceOption_append]

lemma gather_eq_nil_of_rejected {block : String} {ancestors : List Statement}
    (h : ancestors.all (·.isUsable) = false) (f : Forest Statement) :
    gather block (f.nodesBelow ancestors) = .ok [] := by
  match f with
  | .nil => rfl
  | .tree s below rest =>
    have hnone : Forest.Node.instruction? block ⟨s, below.roots, ancestors⟩ = .ok none := by
      rw [Forest.Node.instruction?_eq_none_iff, List.all_cons, h, Bool.and_false]
    have hinner : (s :: ancestors).all (·.isUsable) = false := by simp [h]
    rw [Forest.nodesBelow, gather_cons, gather_append, hnone, gather_eq_nil_of_rejected hinner below,
      gather_eq_nil_of_rejected h rest]
    rfl

/-- Extraction gives the instructions of all nodes, in walking order. -/
theorem instructions_ofForest (block : String) {ancestors : List Statement}
    (h : ancestors.all (·.isUsable) = true) (f : Forest Statement) :
    (·.instructions) <$>
        ofForest block (inheritedScope ancestors) (inheritedConditions ancestors) f =
      gather block (f.nodesBelow ancestors) := by
  match f with
  | .nil => rfl
  | .tree s below rest =>
    have hrest := instructions_ofForest block h rest
    rw [Forest.nodesBelow, gather_cons, gather_append, ← hrest, ofForest]
    cases hs : s.usable? with
    | none =>
      have hnone : Forest.Node.instruction? block ⟨s, below.roots, ancestors⟩ = .ok none := by
        simp [Forest.Node.instruction?_eq_none_iff, Statement.isUsable, hs]
      have hinner : (s :: ancestors).all (·.isUsable) = false := by
        simp [Statement.isUsable, hs]
      rw [hnone, gather_eq_nil_of_rejected hinner below]
      cases ofForest block (inheritedScope ancestors) (inheritedConditions ancestors) rest <;> rfl
    | some found =>
      obtain ⟨keyword, target⟩ := found
      have hinner : (s :: ancestors).all (·.isUsable) = true := by
        rw [List.all_cons, h, Statement.isUsable, hs]
        rfl
      have hbelow := instructions_ofForest block hinner below
      simp only [Forest.Node.instruction?, hs, h, if_true]
      rw [← hbelow, inheritedScope, inheritedConditions]
      cases hi : s.instruction block (inheritedScope ancestors) (inheritedConditions ancestors)
        keyword target below.roots with
      | error e => rfl
      | ok i =>
        obtain ⟨hscope, hconditions⟩ := Statement.inherited_of_instruction hs hi
        rw [← hscope, ← hconditions]
        simp only [bind, Except.bind]
        cases ofForest block (some i.target.scope) i.conditions below with
        | error e => rfl
        | ok inner =>
          cases ofForest block (inheritedScope ancestors) (inheritedConditions ancestors) rest <;> rfl

/-! ### Blocks -/

/-- The nodes of a block are those of its statements. -/
lemma item_mem_statements {block : Block} {n : Forest.Node Statement}
    (h : n ∈ block.forest.nodes) : n.item ∈ block.statements := by
  have hitem := Forest.item_mem_walk h
  rwa [Block.forest, Forest.walk_ofList] at hitem

/-- Extraction gives one instruction after the other for the nodes of a block. -/
lemma map_instructions_ofBlock (id : String) (block : Block) :
    (·.instructions) <$> ofBlock id block = gather id block.forest.nodes :=
  instructions_ofForest id (List.all_nil (f := Statement.isUsable)) block.forest

lemma gather_of_ofBlock {id : String} {block : Block} {e : Extraction}
    (he : ofBlock id block = .ok e) : gather id block.forest.nodes = .ok e.instructions := by
  rw [← map_instructions_ofBlock, he]
  rfl

lemma mem_of_gather {block : String} {nodes : List (Forest.Node Statement)}
    {is : List Instruction} (h : gather block nodes = .ok is) {i : Instruction} :
    i ∈ is ↔ ∃ n ∈ nodes, n.instruction? block = .ok (some i) := by
  induction nodes generalizing is with
  | nil =>
    cases h
    simp
  | cons n nodes ih =>
    obtain ⟨o, ho, others, hothers, rfl⟩ := gather_cons_ok_iff.mp h
    rw [List.mem_append, ih hothers, Option.mem_toList, List.exists_mem_cons_iff, ho]
    simp

/-- If extraction succeeds, it does so for every node. -/
lemma exists_instruction?_of_gather {block : String} {nodes : List (Forest.Node Statement)}
    {is : List Instruction} (h : gather block nodes = .ok is) {n : Forest.Node Statement}
    (hn : n ∈ nodes) : ∃ o, n.instruction? block = .ok o := by
  induction nodes generalizing is with
  | nil => exact absurd hn List.not_mem_nil
  | cons m nodes ih =>
    obtain ⟨o, ho, others, hothers, -⟩ := gather_cons_ok_iff.mp h
    rcases List.mem_cons.mp hn with rfl | hn
    · exact ⟨o, ho⟩
    · exact ih hothers hn

/-! ### Errors -/

lemma rejections_eq_nil_iff {s : Statement} : s.rejections = [] ↔ s.isUsable = true := by
  unfold Statement.rejections Statement.isUsable Statement.usable?
  cases s.keyword <;> cases s.target <;> simp

/-- Extracting a tree: its root is rejected, or gives an instruction under which the statements below
are extracted; then come the other trees. -/
lemma ofForest_tree_ok {block : String} {scope : Option Scope} {conditions : List Condition}
    {s : Statement} {below rest : Forest Statement} {e : Extraction}
    (h : ofForest block scope conditions (.tree s below rest) = .ok e) :
    ∃ after, ofForest block scope conditions rest = .ok after ∧
      (s.isUsable = false ∧ e = append ⟨[], s.diagnose s.rejections, skipped s below⟩ after ∨
        ∃ keyword target i inner, s.usable? = some (keyword, target) ∧
          s.instruction block scope conditions keyword target below.roots = .ok i ∧
          ofForest block (some i.target.scope) i.conditions below = .ok inner ∧
          e = append (append ⟨[i], [], s.diagnose (s.doubts keyword)⟩ inner) after) := by
  rw [ofForest] at h
  cases hs : s.usable? with
  | none =>
    simp only [hs, bind_ok_iff, pure_ok_iff] at h
    obtain ⟨_, rfl, after, hafter, rfl⟩ := h
    exact ⟨after, hafter, .inl ⟨Statement.usable?_eq_none_iff.mp hs, rfl⟩⟩
  | some found =>
    simp only [hs, bind_ok_iff, pure_ok_iff] at h
    obtain ⟨i, hi, inner, hinner, _, rfl, after, hafter, rfl⟩ := h
    exact ⟨after, hafter, .inr ⟨found.1, found.2, i, inner, rfl, hi, hinner, rfl⟩⟩

/-- Extraction reports an error iff a statement cannot be used. -/
lemma errors_ofForest_iff {block : String} {scope : Option Scope} {conditions : List Condition}
    {f : Forest Statement} {e : Extraction} (h : ofForest block scope conditions f = .ok e) :
    e.errors = [] ↔ ∀ s ∈ f.walk, s.isUsable = true := by
  match f with
  | .nil =>
    cases h
    simp [empty, Forest.walk]
  | .tree s below rest =>
    obtain ⟨after, hafter, hroot⟩ := ofForest_tree_ok h
    have hrest := errors_ofForest_iff hafter
    rw [Forest.walk, List.forall_mem_cons, List.forall_mem_append, ← hrest]
    rcases hroot with ⟨hs, rfl⟩ | ⟨keyword, target, i, inner, hs, -, hinner, rfl⟩
    · have hrejected : s.rejections ≠ [] := by simp [rejections_eq_nil_iff, hs]
      simp [append, Statement.diagnose, hrejected, hs]
    · simp [append, Statement.isUsable, hs, errors_ofForest_iff hinner]

lemma problem_of_mem_doubts {s : Statement} {keyword : String} {p : Problem}
    (h : p ∈ s.doubts keyword) (line parent : Int) : p ≠ .parentRejected line parent := by
  rintro rfl
  simp [Statement.doubts] at h

/-- Without errors, no statement is skipped. -/
lemma not_skipped_of_errors {block : String} {scope : Option Scope} {conditions : List Condition}
    {f : Forest Statement} {e : Extraction} (h : ofForest block scope conditions f = .ok e)
    (herrors : e.errors = []) :
    ∀ w ∈ e.warnings, ∀ line parent, w.problem ≠ .parentRejected line parent := by
  match f with
  | .nil =>
    cases h
    simp [empty]
  | .tree s below rest =>
    obtain ⟨after, hafter, hroot⟩ := ofForest_tree_ok h
    rcases hroot with ⟨hs, rfl⟩ | ⟨keyword, target, i, inner, -, -, hinner, rfl⟩
    · have hrejected := (List.append_eq_nil_iff.mp herrors).1
      rw [Statement.diagnose, List.map_eq_nil_iff, rejections_eq_nil_iff, hs] at hrejected
      cases hrejected
    · obtain ⟨hfirst, hlast⟩ := List.append_eq_nil_iff.mp herrors
      have hbelow := not_skipped_of_errors hinner hfirst
      have hbeside := not_skipped_of_errors hafter hlast
      refine List.forall_mem_append.mpr ⟨List.forall_mem_append.mpr ⟨?_, hbelow⟩, hbeside⟩
      exact List.forall_mem_map.mpr fun p hp => problem_of_mem_doubts hp

/-- The instructions that are gathered are those of the nodes that are emitted. -/
lemma forall₂_emitted_of_gather {block : String} {nodes : List (Forest.Node Statement)}
    {is : List Instruction} (h : gather block nodes = .ok is) :
    List.Forall₂ (fun n i => n.instruction? block = .ok (some i)) (nodes.filter (·.isEmitted)) is := by
  induction nodes generalizing is with
  | nil =>
    cases h
    exact .nil
  | cons n nodes ih =>
    obtain ⟨o, ho, others, hothers, rfl⟩ := gather_cons_ok_iff.mp h
    cases o with
    | none =>
      have hn : n.isEmitted = false := Forest.Node.instruction?_eq_none_iff.mp ho
      rw [List.filter_cons_of_neg (by simp [hn])]
      exact ih hothers
    | some i =>
      have hn : n.isEmitted = true := (Forest.Node.instruction?_eq_some_iff.mp ho).1
      rw [List.filter_cons_of_pos hn]
      exact .cons ho (ih hothers)

/-- If every node has an instruction, these are all instructions that are gathered. -/
lemma forall₂_of_gather {block : String} {nodes : List (Forest.Node Statement)}
    {is : List Instruction}
    (h : gather block nodes = .ok is)
    (husable : ∀ n ∈ nodes, (n.item :: n.ancestors).all (·.isUsable) = true) :
    List.Forall₂ (fun n i => n.instruction? block = .ok (some i)) nodes is := by
  have hall : nodes.filter (·.isEmitted) = nodes := List.filter_eq_self.mpr husable
  have hgathered := forall₂_emitted_of_gather h
  rwa [hall] at hgathered

end Extraction

end BlockScript
