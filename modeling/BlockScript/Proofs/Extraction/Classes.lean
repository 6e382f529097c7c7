import Mathlib.Algebra.GroupWithZero.Nat
import BlockScript.Proofs.Recovery.Accounting

/-!
# The classes of statements

Extraction accounts for every statement once. A statement is emitted if it and all statements above it
can be used, rejected if it is the first on its path that cannot, and skipped if it lies below a rejected
one. Emitted statements have one instruction each, rejected ones an error for each missing part, and
skipped ones a warning (`Extraction.accounts_ofBlock`).
-/

namespace BlockScript

/-! ### Classes -/

namespace Forest.Node

/-- Whether a statement is the first on its path that cannot be used. -/
def isRejected (n : Node Statement) : Bool :=
  n.ancestors.all (·.isUsable) && !n.item.isUsable

/-- Whether a statement lies below one that cannot be used. -/
def isSkipped (n : Node Statement) : Bool :=
  n.ancestors.any (!·.isUsable)

variable {n : Node Statement}

lemma isSkipped_eq_not_all (n : Node Statement) :
    n.isSkipped = !n.ancestors.all (·.isUsable) := by
  rw [isSkipped, List.not_all_eq_any_not]

lemma isEmitted_of_isSkipped (h : n.isSkipped = true) : n.isEmitted = false := by
  rw [isSkipped_eq_not_all, Bool.not_eq_true'] at h
  rw [isEmitted, List.all_cons, h, Bool.and_false]

lemma isEmitted_of_not_isSkipped (h : n.isSkipped = false) : n.isEmitted = n.item.isUsable := by
  rw [isSkipped_eq_not_all, Bool.not_eq_false'] at h
  rw [isEmitted, List.all_cons, h, Bool.and_true]

/-- A statement is in one of the three classes. -/
lemma count_classes (n : Node Statement) :
    [n.isEmitted, n.isRejected, n.isSkipped].count true = 1 := by
  rw [isSkipped_eq_not_all, isEmitted, isRejected, List.all_cons]
  cases n.item.isUsable <;> cases n.ancestors.all (·.isUsable) <;> rfl

/-- A row of nested statements that cannot all be used has an outermost one that cannot. -/
lemma exists_outermost {nested : List Statement} (h : nested.any (!·.isUsable) = true) :
    ∃ inner s outer, nested = inner ++ s :: outer ∧ s.isUsable = false ∧
      outer.all (·.isUsable) = true := by
  induction nested with
  | nil => exact absurd h (by simp)
  | cons s outer ih =>
    cases houter : outer.any (!·.isUsable) with
    | true =>
      obtain ⟨inner, t, rest, rfl, ht, hrest⟩ := ih houter
      exact ⟨s :: inner, t, rest, rfl, ht, hrest⟩
    | false =>
      rw [List.any_cons, houter, Bool.or_false, Bool.not_eq_true'] at h
      refine ⟨[], s, outer, rfl, h, ?_⟩
      rwa [← Bool.not_eq_false', List.not_all_eq_any_not]

/-- The skipped statements are those below a rejected one. -/
lemma isSkipped_iff {f : Forest Statement} (hn : n ∈ f.nodes) :
    n.isSkipped = true ↔ ∃ m ∈ f.nodes, m.isRejected = true ∧
      ∃ inner, n.ancestors = inner ++ m.item :: m.ancestors := by
  constructor
  · intro h
    obtain ⟨inner, s, outer, hancestors, hs, houter⟩ := exists_outermost h
    obtain ⟨m, hm, rfl, rfl⟩ := exists_ancestor hn hancestors
    exact ⟨m, hm, by simp [isRejected, hs, houter], inner, hancestors⟩
  · rintro ⟨m, -, hm, inner, hancestors⟩
    obtain ⟨-, hitem⟩ := (Bool.and_eq_true _ _).mp hm
    rw [isSkipped, hancestors, List.any_append, List.any_cons, hitem, Bool.true_or, Bool.or_true]

/-- Below a statement that cannot be used, all are skipped. -/
lemma isSkipped_of_mem_nodesBelow {above : List Statement} {f : Forest Statement}
    (habove : above.all (·.isUsable) = false) (hn : n ∈ f.nodesBelow above) : n.isSkipped = true := by
  rw [← Bool.not_eq_true', List.not_all_eq_any_not, List.any_eq_true] at habove
  obtain ⟨s, hs, hunusable⟩ := habove
  exact List.any_eq_true.mpr ⟨s, (suffix_ancestors hn).subset hs, hunusable⟩

/-! ### Diagnostics of a statement -/

/-- The errors of a statement: what it lacks, unless it is skipped. -/
def errors (n : Node Statement) : List Diagnostic :=
  if n.isSkipped then [] else n.item.diagnose n.item.rejections

/-- The warning that a statement is skipped because of the one right above it. -/
def skipWarning? (n : Node Statement) : Option Diagnostic :=
  n.ancestors.head?.map fun parent =>
    ⟨.parentRejected n.item.line parent.line, n.item.line, n.item.column⟩

/-- What looks wrong about the statement if it can be used. -/
def doubts (n : Node Statement) : List Diagnostic :=
  n.item.diagnose (n.item.usable?.toList.flatMap fun (keyword, _) => n.item.doubts keyword)

/-- The warnings of a statement: that it is skipped, or else what looks wrong about it. -/
def warnings (n : Node Statement) : List Diagnostic :=
  if n.isSkipped then n.skipWarning?.toList else n.doubts

lemma errors_of_isSkipped (h : n.isSkipped = true) : n.errors = [] :=
  if_pos h

lemma errors_of_not_isSkipped (h : n.isSkipped = false) :
    n.errors = n.item.diagnose n.item.rejections := by
  rw [errors, h]
  rfl

lemma warnings_of_isSkipped (h : n.isSkipped = true) : n.warnings = n.skipWarning?.toList :=
  if_pos h

lemma warnings_of_not_isSkipped (h : n.isSkipped = false) : n.warnings = n.doubts := by
  rw [warnings, h]
  rfl

lemma doubts_of_usable? {keyword : String} {target : TargetZone}
    (h : n.item.usable? = some (keyword, target)) :
    n.doubts = n.item.diagnose (n.item.doubts keyword) := by
  rw [doubts, h]
  simp

lemma doubts_of_not_isUsable (h : n.item.isUsable = false) : n.doubts = [] := by
  rw [doubts, Statement.usable?_eq_none_iff.mpr h]
  rfl

end Forest.Node

namespace Extraction

/-- What is left out below a statement is reported statement by statement. -/
lemma skipped_eq {above : List Statement} (habove : above.all (·.isUsable) = false)
    {parent : Statement} {outer : List Statement} (hparent : above = parent :: outer)
    (f : Forest Statement) : skipped parent f = (f.nodesBelow above).flatMap (·.warnings) := by
  match f with
  | .nil => rfl
  | .tree s below rest =>
    have hinner : (s :: above).all (·.isUsable) = false := by simp [habove]
    have hskipped : Forest.Node.isSkipped ⟨s, below.roots, above⟩ = true := by
      rw [Forest.Node.isSkipped_eq_not_all, habove, Bool.not_false]
    have hroot : Forest.Node.warnings ⟨s, below.roots, above⟩ =
        s.diagnose [.parentRejected s.line parent.line] := by
      rw [Forest.Node.warnings_of_isSkipped hskipped, Forest.Node.skipWarning?, hparent]
      rfl
    rw [Forest.nodesBelow, List.flatMap_cons, List.flatMap_append, hroot, skipped,
      skipped_eq hinner rfl below, skipped_eq habove hparent rest]

lemma errors_eq_nil_of_rejected {above : List Statement} (habove : above.all (·.isUsable) = false)
    (f : Forest Statement) : (f.nodesBelow above).flatMap (·.errors) = [] :=
  List.flatMap_eq_nil_iff.mpr fun _ hn =>
    Forest.Node.errors_of_isSkipped (Forest.Node.isSkipped_of_mem_nodesBelow habove hn)

/-- Extraction reports the errors and the warnings of all statements, in walking order. -/
lemma reports_ofForest {block : String} {scope : Option Scope} {conditions : List Condition}
    {above : List Statement} (habove : above.all (·.isUsable) = true) {f : Forest Statement}
    {e : Extraction} (h : ofForest block scope conditions f = .ok e) :
    e.errors = (f.nodesBelow above).flatMap (·.errors) ∧
      e.warnings = (f.nodesBelow above).flatMap (·.warnings) := by
  match f with
  | .nil =>
    cases h
    exact ⟨rfl, rfl⟩
  | .tree s below rest =>
    obtain ⟨after, hafter, hroot⟩ := ofForest_tree_ok h
    obtain ⟨herrors, hwarnings⟩ := reports_ofForest habove hafter
    have hkept : Forest.Node.isSkipped ⟨s, below.roots, above⟩ = false := by
      rw [Forest.Node.isSkipped_eq_not_all, habove, Bool.not_true]
    simp only [Forest.nodesBelow, List.flatMap_cons, List.flatMap_append, ← herrors, ← hwarnings,
      Forest.Node.errors_of_not_isSkipped hkept, Forest.Node.warnings_of_not_isSkipped hkept]
    rcases hroot with ⟨hs, rfl⟩ | ⟨keyword, target, i, inner, hs, -, hinner, rfl⟩
    · have hrejected : (s :: above).all (·.isUsable) = false := by simp [hs]
      rw [errors_eq_nil_of_rejected hrejected, ← skipped_eq hrejected rfl,
        Forest.Node.doubts_of_not_isUsable hs]
      exact ⟨rfl, rfl⟩
    · have husable := Statement.isUsable_of_usable? hs
      have hall : (s :: above).all (·.isUsable) = true := by simp [habove, husable]
      obtain ⟨hinnerErrors, hinnerWarnings⟩ := reports_ofForest hall hinner
      rw [← hinnerErrors, ← hinnerWarnings, Forest.Node.doubts_of_usable? hs,
        rejections_eq_nil_iff.mpr husable]
      exact ⟨rfl, List.append_assoc _ _ _⟩

lemma reports_ofBlock {id : String} {block : Block} {e : Extraction}
    (h : ofBlock id block = .ok e) :
    e.errors = block.forest.nodes.flatMap (·.errors) ∧
      e.warnings = block.forest.nodes.flatMap (·.warnings) :=
  reports_ofForest (List.all_nil (f := Statement.isUsable)) h

end Extraction

/-! ### Reports by class -/

/-- Whether a diagnostic says that a statement is skipped. -/
def Diagnostic.isSkip (d : Diagnostic) : Bool :=
  match d.problem with
  | .parentRejected .. => true
  | _ => false

namespace Forest.Node

variable {n : Node Statement}

/-- Whether a warning says that a statement is skipped because of the one right above it. -/
def SkippedBy (n : Node Statement) (w : Diagnostic) : Prop :=
  ∃ parent outer, n.ancestors = parent :: outer ∧
    w = ⟨.parentRejected n.item.line parent.line, n.item.line, n.item.column⟩

lemma errors_eq_ite (n : Node Statement) :
    n.errors = if n.isRejected then n.item.diagnose n.item.rejections else [] := by
  rw [errors, isSkipped_eq_not_all, isRejected]
  cases husable : n.item.isUsable with
  | true => simp [Extraction.rejections_eq_nil_iff.mpr husable, Statement.diagnose]
  | false => cases n.ancestors.all (·.isUsable) <;> simp

lemma doubts_eq_ite (n : Node Statement) :
    n.doubts = if n.item.isUsable then n.doubts else [] := by
  cases husable : n.item.isUsable with
  | true => rfl
  | false => exact doubts_of_not_isUsable husable

lemma isSkip_of_mem_doubts {w : Diagnostic} (h : w ∈ n.doubts) : w.isSkip = false := by
  obtain ⟨p, hp, rfl⟩ := List.mem_map.mp h
  obtain ⟨⟨keyword, _⟩, -, hp⟩ := List.mem_flatMap.mp hp
  have hother := Extraction.problem_of_mem_doubts hp
  cases p with
  | parentRejected line parent => exact absurd rfl (hother line parent)
  | _ => rfl

lemma isSkip_of_mem_skipWarning? {w : Diagnostic} (h : w ∈ n.skipWarning?.toList) :
    w.isSkip = true := by
  obtain ⟨_, -, rfl⟩ := Option.map_eq_some_iff.mp (Option.mem_toList.mp h)
  rfl

lemma exists_skippedBy (h : n.isSkipped = true) : ∃ w, n.skipWarning? = some w ∧ n.SkippedBy w := by
  unfold skipWarning? SkippedBy
  cases hancestors : n.ancestors with
  | nil => simp [isSkipped, hancestors] at h
  | cons parent outer => exact ⟨_, rfl, parent, outer, rfl, rfl⟩

lemma filter_isSkip_warnings (n : Node Statement) :
    n.warnings.filter (·.isSkip) = if n.isSkipped then n.skipWarning?.toList else [] := by
  cases h : n.isSkipped with
  | true =>
    rw [warnings_of_isSkipped h]
    exact List.filter_eq_self.mpr fun w hw => isSkip_of_mem_skipWarning? hw
  | false =>
    rw [warnings_of_not_isSkipped h]
    exact List.filter_eq_nil_iff.mpr fun w hw => by simp [isSkip_of_mem_doubts hw]

lemma filter_not_isSkip_warnings (n : Node Statement) :
    n.warnings.filter (!·.isSkip) = if n.isEmitted then n.doubts else [] := by
  cases h : n.isSkipped with
  | true =>
    rw [warnings_of_isSkipped h, isEmitted_of_isSkipped h]
    exact List.filter_eq_nil_iff.mpr fun w hw => by simp [isSkip_of_mem_skipWarning? hw]
  | false =>
    rw [warnings_of_not_isSkipped h, isEmitted_of_not_isSkipped h, ← doubts_eq_ite]
    exact List.filter_eq_self.mpr fun w hw => by simp [isSkip_of_mem_doubts hw]

end Forest.Node

namespace Extraction

variable {id : String} {block : Block} {e : Extraction}

/-- The errors are what rejected statements lack. -/
lemma errors_ofBlock (h : ofBlock id block = .ok e) :
    e.errors = (block.forest.nodes.filter (·.isRejected)).flatMap
      fun n => n.item.diagnose n.item.rejections := by
  rw [(reports_ofBlock h).1, ← flatMap_ite_eq_flatMap_filter]
  exact List.flatMap_congr fun n _ => n.errors_eq_ite

lemma doubts_ofBlock (h : ofBlock id block = .ok e) :
    e.warnings.filter (!·.isSkip) = (block.forest.nodes.filter (·.isEmitted)).flatMap (·.doubts) := by
  rw [(reports_ofBlock h).2, List.filter_flatMap, ← flatMap_ite_eq_flatMap_filter]
  exact List.flatMap_congr fun n _ => n.filter_not_isSkip_warnings

lemma forall₂_skippedBy {nodes : List (Forest.Node Statement)}
    (h : ∀ n ∈ nodes, n.isSkipped = true) :
    List.Forall₂ Forest.Node.SkippedBy nodes (nodes.flatMap (·.skipWarning?.toList)) := by
  induction nodes with
  | nil => exact .nil
  | cons n nodes ih =>
    obtain ⟨hn, hnodes⟩ := List.forall_mem_cons.mp h
    obtain ⟨w, hw, hby⟩ := Forest.Node.exists_skippedBy hn
    rw [List.flatMap_cons, hw]
    exact .cons hby (ih hnodes)

/-- Each skipped statement has one warning that says so. -/
lemma skips_ofBlock (h : ofBlock id block = .ok e) :
    List.Forall₂ Forest.Node.SkippedBy (block.forest.nodes.filter (·.isSkipped))
      (e.warnings.filter (·.isSkip)) := by
  have hskips : e.warnings.filter (·.isSkip) =
      (block.forest.nodes.filter (·.isSkipped)).flatMap (·.skipWarning?.toList) := by
    rw [(reports_ofBlock h).2, List.filter_flatMap, ← flatMap_ite_eq_flatMap_filter]
    exact List.flatMap_congr fun n _ => n.filter_isSkip_warnings
  rw [hskips]
  exact forall₂_skippedBy fun n hn => (List.mem_filter.mp hn).2

end Extraction

/-! ### The nested instructions -/

/-- Whether a node of an instruction lies in its forest as that of a statement does, apart from the
children of the statement that cannot be used. -/
structure Forest.Node.Mirrors (n : Node Statement) (m : Node Instruction) : Prop where
  item : m.item.ComesFrom n.item
  ancestors : List.Forall₂ (fun s i => i.ComesFrom s) n.ancestors m.ancestors
  children : List.Forall₂ (fun s i => i.ComesFrom s) (n.children.filter (·.isUsable)) m.children
  /-- The instruction lists its children. -/
  ids : m.item.children = m.children.map (·.id)

namespace Statement

variable {block : String} {scope : Option Scope} {conditions : List Condition} {s : Statement}
  {keyword : String} {target : TargetZone} {children : List Statement} {i : Instruction}

/-- The ids that an instruction gets for the statements right below its own. -/
def childIds (block : String) (children : List Statement) : List String :=
  children.filterMap fun c => c.usable?.map fun (k, _) => c.instructionId block k

lemma comesFrom_of_instruction (hs : s.usable? = some (keyword, target))
    (h : s.instruction block scope conditions keyword target children = .ok i) :
    i.ComesFrom s ∧ i.id = s.instructionId block keyword ∧ i.children = childIds block children := by
  obtain ⟨hkeyword, -, -⟩ := usable?_eq_some_iff.mp hs
  obtain ⟨_, _, _, _, rfl⟩ := instruction_ok_iff.mp h
  exact ⟨⟨keyword, hkeyword, rfl⟩, rfl, rfl⟩

end Statement

namespace Extraction

/-- The instructions of a forest form a forest as their statements do, of which they are the walk. -/
lemma exists_nested {block : String} {scope : Option Scope} {conditions : List Condition}
    {above : List Statement} (habove : above.all (·.isUsable) = true) {outer : List Instruction}
    (houter : List.Forall₂ (fun s i => i.ComesFrom s) above outer) {f : Forest Statement}
    {e : Extraction} (h : ofForest block scope conditions f = .ok e) :
    ∃ g : Forest Instruction, g.walk = e.instructions ∧
      List.Forall₂ Forest.Node.Mirrors ((f.nodesBelow above).filter (·.isEmitted))
        (g.nodesBelow outer) ∧
      List.Forall₂ (fun s i => i.ComesFrom s) (f.roots.filter (·.isUsable)) g.roots ∧
      Statement.childIds block f.roots = g.roots.map (·.id) := by
  match f with
  | .nil =>
    cases h
    exact ⟨.nil, rfl, .nil, .nil, rfl⟩
  | .tree s below rest =>
    obtain ⟨after, hafter, hroot⟩ := ofForest_tree_ok h
    obtain ⟨beside, hwalk, hnodes, hroots, hids⟩ := exists_nested habove houter hafter
    rw [Forest.nodesBelow, Forest.roots]
    rcases hroot with ⟨hs, rfl⟩ | ⟨keyword, target, i, inner, hs, hi, hinner, rfl⟩
    · have hnone := Statement.usable?_eq_none_iff.mpr hs
      have hn : Forest.Node.isEmitted ⟨s, below.roots, above⟩ = false := by
        simp [Forest.Node.isEmitted, hs]
      have hbelow : (below.nodesBelow (s :: above)).filter (·.isEmitted) = [] := by
        refine List.filter_eq_nil_iff.mpr fun n hn => ?_
        have hskipped := Forest.Node.isSkipped_of_mem_nodesBelow (by simp [hs]) hn
        simp [Forest.Node.isEmitted_of_isSkipped hskipped]
      refine ⟨beside, hwalk, ?_, ?_, ?_⟩
      · rwa [List.filter_cons_of_neg (by simp [hn]), List.filter_append, hbelow, List.nil_append]
      · rwa [List.filter_cons_of_neg (by simp [hs])]
      · rw [← hids, Statement.childIds, List.filterMap_cons_none (by simp [hnone])]
        rfl
    · have husable := Statement.isUsable_of_usable? hs
      have hall : (s :: above).all (·.isUsable) = true := by simp [habove, husable]
      have hn : Forest.Node.isEmitted ⟨s, below.roots, above⟩ = true := hall
      obtain ⟨hfrom, hid, hchildren⟩ := Statement.comesFrom_of_instruction hs hi
      obtain ⟨g, hgwalk, hgnodes, hgroots, hgids⟩ := exists_nested hall (.cons hfrom houter) hinner
      refine ⟨.tree i g beside, ?_, ?_, ?_, ?_⟩
      · rw [Forest.walk, hgwalk, hwalk]
        rfl
      · rw [List.filter_cons_of_pos hn, List.filter_append, Forest.nodesBelow]
        exact .cons ⟨hfrom, houter, hgroots, hchildren.trans hgids⟩ (List.rel_append hgnodes hnodes)
      · rw [List.filter_cons_of_pos husable]
        exact .cons hfrom hroots
      · rw [Forest.roots, List.map_cons, ← hids, hid, Statement.childIds,
          List.filterMap_cons_some (by rw [hs]; rfl)]
        rfl

end Extraction

/-! ### Buckets -/

lemma Keyword.bucketOf_mem_all (name : String) : bucketOf name ∈ Bucket.all := by
  have htable : ∀ k ∈ table, k.bucket ∈ Bucket.all := by decide
  rw [bucketOf, find?]
  cases hfind : table.find? (·.name == Text.lower name) with
  | none => decide
  | some k => exact htable k (List.mem_of_find?_eq_some hfind)

/-- Distinct buckets that hold all of some instructions hold each of them once. -/
lemma sum_length_filter_bucket {buckets : List Bucket} (hbuckets : buckets.Nodup)
    {is : List Instruction} (his : ∀ i ∈ is, i.bucket ∈ buckets) :
    (buckets.map fun b => (is.filter (·.bucket == b)).length).sum = is.length := by
  induction buckets generalizing is with
  | nil =>
    have hnil : is = [] := List.eq_nil_iff_forall_not_mem.mpr fun i hi => List.not_mem_nil (his i hi)
    rw [hnil]
    rfl
  | cons b buckets ih =>
    obtain ⟨hb, hbuckets⟩ := List.nodup_cons.mp hbuckets
    have hrest : ∀ i ∈ is.filter (!·.bucket == b), i.bucket ∈ buckets := fun i hi => by
      obtain ⟨hi, hne⟩ := List.mem_filter.mp hi
      exact (List.mem_cons.mp (his i hi)).resolve_left (by simpa using hne)
    have hsame : ∀ c ∈ buckets,
        (is.filter (!·.bucket == b)).filter (·.bucket == c) = is.filter (·.bucket == c) := by
      intro c hc
      rw [List.filter_filter]
      refine List.filter_congr fun i _ => ?_
      cases hi : i.bucket == c with
      | false => rfl
      | true =>
        have hne : i.bucket ≠ b := by
          rw [beq_iff_eq.mp hi]
          exact fun h => hb (h ▸ hc)
        simp [hne]
    rw [List.map_cons, List.sum_cons, List.length_eq_length_filter_add (l := is) (·.bucket == b),
      ← ih hbuckets hrest, List.map_congr_left fun c hc => congrArg List.length (hsame c hc)]

namespace Extraction

variable {id : String} {block : Block} {e : Extraction}

lemma sum_bucketCount (h : ofBlock id block = .ok e) :
    (Bucket.all.map e.bucketCount).sum = e.instructions.length := by
  refine sum_length_filter_bucket (by decide) fun i hi => ?_
  obtain ⟨n, -, hn⟩ := (mem_of_gather (gather_of_ofBlock h)).mp hi
  obtain ⟨-, keyword, _, -, hinstruction⟩ := Forest.Node.instruction?_eq_some_iff.mp hn
  obtain ⟨_, _, _, _, rfl⟩ := Statement.instruction_ok_iff.mp hinstruction
  exact Keyword.bucketOf_mem_all keyword

/-! ### The account -/

/-- An account of all statements of a block: the class of each, and what extraction gives for it. -/
structure AccountsFor (e : Extraction) (block : Block) : Prop where
  statements : block.forest.nodes.map (·.item) = block.statements
  /-- Every statement is in one class. -/
  classes : ∀ n ∈ block.forest.nodes, [n.isEmitted, n.isRejected, n.isSkipped].count true = 1
  /-- A statement is skipped because of a rejected one above it. -/
  below : ∀ n ∈ block.forest.nodes, n.isSkipped = true ↔
    ∃ m ∈ block.forest.nodes, m.isRejected = true ∧
      ∃ inner, n.ancestors = inner ++ m.item :: m.ancestors
  /-- One instruction for each emitted statement. -/
  instructions : List.Forall₂ (fun n i => i.ComesFrom n.item)
    (block.forest.nodes.filter (·.isEmitted)) e.instructions
  /-- One error for each missing part of a rejected statement. -/
  errors : e.errors = (block.forest.nodes.filter (·.isRejected)).flatMap
    fun n => n.item.diagnose n.item.rejections
  /-- One warning for each skipped statement. -/
  skips : List.Forall₂ Forest.Node.SkippedBy (block.forest.nodes.filter (·.isSkipped))
    (e.warnings.filter (·.isSkip))
  /-- All other warnings are about emitted statements. -/
  doubts : e.warnings.filter (!·.isSkip) =
    (block.forest.nodes.filter (·.isEmitted)).flatMap (·.doubts)
  /-- The instructions are the walk of a forest that has the shape of the emitted statements. -/
  nested : ∃ g : Forest Instruction, g.walk = e.instructions ∧
    List.Forall₂ Forest.Node.Mirrors (block.forest.nodes.filter (·.isEmitted)) g.nodes
  buckets : ∀ b, e.bucketCount b = e.instructions.countP (·.bucket = b)
  total : (Bucket.all.map e.bucketCount).sum = e.instructions.length
  gated : e.gatedCount = e.instructions.countP (·.conditions.any (·.isGate))

/-- Extraction accounts for every statement of a block once. -/
theorem accounts_ofBlock (h : ofBlock id block = .ok e) : e.AccountsFor block where
  statements := by rw [Forest.nodes, Forest.map_item_nodesBelow, Block.forest, Forest.walk_ofList]
  classes n _ := n.count_classes
  below n hn := Forest.Node.isSkipped_iff hn
  instructions := by
    refine (forall₂_emitted_of_gather (gather_of_ofBlock h)).imp fun n i hi => ?_
    obtain ⟨-, _, _, husable, hinstruction⟩ := Forest.Node.instruction?_eq_some_iff.mp hi
    exact (Statement.comesFrom_of_instruction husable hinstruction).1
  errors := errors_ofBlock h
  skips := skips_ofBlock h
  doubts := doubts_ofBlock h
  nested := by
    obtain ⟨g, hwalk, hnodes, -⟩ := exists_nested (List.all_nil (f := Statement.isUsable)) .nil h
    exact ⟨g, hwalk, hnodes⟩
  buckets b := by
    rw [bucketCount, List.countP_eq_length_filter]
    rfl
  total := sum_bucketCount h
  gated := by
    rw [gatedCount, List.countP_eq_length_filter]
    congr 2
    funext i
    rw [Bool.eq_iff_iff, Instruction.gates]
    simp [List.filter_eq_nil_iff]

/-- A statement without keyword between two others: it is rejected, and what is below it is skipped. -/
theorem accounts_menu :
    let block := Block.ofLines 2 [":: set // text", "  :^: // text", "    :^: hide // text",
      "  :^: hide // text"]
    ∃ e, ofBlock "menu" block = .ok e ∧ e.AccountsFor block ∧
      e.instructions.map (·.origin.map (·.line)) = [some 1, some 4] ∧
      e.errors = [⟨.keywordLacking 2, 2, 3⟩] ∧
      e.warnings = [⟨.effectExpected "set", 1, 1⟩, ⟨.parentRejected 3 2, 3, 5⟩] := by
  intro block
  have hfound : (ofBlock "menu" block).map
        (fun e => (e.instructions.map (·.origin.map (·.line)), e.errors, e.warnings)) =
      .ok ([some 1, some 4], [⟨.keywordLacking 2, 2, 3⟩],
        [⟨.effectExpected "set", 1, 1⟩, ⟨.parentRejected 3 2, 3, 5⟩]) := by decide +kernel
  obtain ⟨e, he, hparts⟩ := map_ok_iff.mp hfound
  rw [Prod.mk.injEq, Prod.mk.injEq] at hparts
  exact ⟨e, he, accounts_ofBlock he, hparts⟩

end Extraction

end BlockScript
