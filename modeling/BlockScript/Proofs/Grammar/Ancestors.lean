import BlockScript.Proofs.Ancestors
import BlockScript.Proofs.Grammar.Acceptance
import BlockScript.Proofs.Grammar.Concerns

/-!
# The stack of the validator and the ancestors of statements

Validation keeps its open statements on a stack, reading links every statement to those above it
afterwards. On lines of one statement each the two agree: after any number of lines the stack shows the
last statement and its ancestors (`Grammar.stack_validateLines`), so a branch, an `else` or a nested
statement is reported iff its node in the forest is out of place (`Grammar.reported_iff_ancestors`).
-/

namespace BlockScript

open Forest

/-! ### Lines of one statement -/

namespace Grammar

variable {width : Nat} {number : Int} {line : String}

/-- Whether a line starts, behind its indentation, with `::` or a run of `:^:`, and holds no further
statement operator. -/
def startsOne (width : Nat) (line : String) : Bool :=
  match Token.scan width 0 line with
  | [] => false
  | t :: ts =>
    let rest := if t.kind = .hierarchical then ts.dropWhile (·.kind == .hierarchical) else ts
    t.kind.isOpener &&
      t.start == ((Text.expandTabs width line).takeWhile Text.isBlank).length &&
      rest.all (!·.kind.isOpener)

/-- Whether a line is blank or holds one statement and nothing in front of it. -/
def Simple (width : Nat) (line : String) : Prop :=
  Text.allBlank line = true ∨ startsOne width line = true

instance (width : Nat) (line : String) : Decidable (Simple width line) :=
  inferInstanceAs (Decidable (_ ∨ _))

/-- A line that starts one statement is checked as that statement. -/
lemma checkLine_of_startsOne (h : startsOne width line = true) (number : Int) :
    ∃ span, Statement.ofLine width number line = [Statement.ofSpan width span] ∧
      ∀ stack, checkLine width line number stack =
        (checkBrackets (Text.expandTabs width line) ++ (checkSpan width span stack).1,
          (checkSpan width span stack).2) := by
  unfold startsOne at h
  cases hscan : Token.scan width 0 line with
  | nil => simp [hscan] at h
  | cons t ts =>
    simp only [hscan, Bool.and_eq_true, List.all_eq_true, Bool.not_eq_true', beq_iff_eq] at h
    obtain ⟨⟨hopener, hstart⟩, hrest⟩ := h
    have hsplit : Span.split (Token.scan width number line) =
        [(Span.ofOpener t ts).atLine number] := by
      rw [Token.scan_eq_map 0 number, Span.split_atLine, hscan, Span.split_of_single hopener hrest,
        List.map_singleton]
    refine ⟨_, by rw [Statement.ofLine, hsplit, List.map_singleton], fun stack => ?_⟩
    rw [Token.scan] at hsplit
    have hopen : ((Span.ofOpener t ts).atLine number).opener.start = t.start := by
      rw [Span.atLine, Span.opener_ofOpener]
      rfl
    simp only [checkLine, hsplit]
    rw [if_pos (hopen.trans hstart)]

end Grammar

/-! ### Conditionals -/

/-- The nearest conditional among the ancestors of a statement. -/
def Statement.conditional? (ancestors : List Statement) : Option Statement :=
  ancestors.find? (·.keyword == some Keyword.conditional)

lemma Statement.conditional?_cons (a : Statement) (ancestors : List Statement) :
    conditional? (a :: ancestors) =
      if a.keyword = some Keyword.conditional then some a else conditional? ancestors := by
  unfold conditional?
  rw [List.find?_cons]
  split
  next h => rw [if_pos (beq_iff_eq.mp h)]
  next h => rw [if_neg (beq_eq_false_iff_ne.mp h)]

/-- The number of `else` branches that a conditional has among some statements. -/
def elsesOf (seen : List (Statement × List Statement)) (g : Statement) : Nat :=
  seen.countP fun p => p.1.keyword = some "else" ∧ Statement.conditional? p.2 = some g

lemma elsesOf_concat (seen : List (Statement × List Statement)) (s : Statement)
    (ancestors : List Statement) (g : Statement) :
    elsesOf (seen ++ [(s, ancestors)]) g =
      elsesOf seen g +
        if s.keyword = some "else" ∧ Statement.conditional? ancestors = some g then 1 else 0 := by
  simp [elsesOf, List.countP_append, List.countP_cons]

/-! ### Stacks that show statements -/

namespace Grammar

variable {seen : List (Statement × List Statement)} {stack : Stack} {opened ancestors : List Statement}
  {s : Statement} {opener : Token}

/-- Whether a frame shows a statement, and, if that is a conditional, its `else` branches. -/
structure Frame.Shows (seen : List (Statement × List Statement)) (f : Frame) (s : Statement) :
    Prop where
  depth : f.depth = s.depth
  keyword : f.keyword = s.keyword
  elses : s.keyword = some Keyword.conditional → f.elses = elsesOf seen s

/-- Whether a stack shows some open statements. -/
def Stack.Shows (seen : List (Statement × List Statement)) (stack : Stack)
    (opened : List Statement) : Prop :=
  List.Forall₂ (Frame.Shows seen) stack opened

namespace Stack.Shows

lemma closeTo (h : stack.Shows seen opened) (d : Nat) :
    (stack.closeTo d).Shows seen (above Statement.depth d opened) := by
  induction h with
  | nil => exact .nil
  | cons hf hrest ih =>
    rw [closeTo_cons, above_cons, hf.depth]
    split
    · exact ih
    · exact .cons hf hrest

lemma isEmpty (h : stack.Shows seen opened) : List.isEmpty stack = List.isEmpty opened := by
  cases h <;> rfl

lemma insideConditional (h : stack.Shows seen opened) :
    stack.insideConditional = (Statement.conditional? opened).isSome := by
  induction h with
  | nil => rfl
  | @cons f a _ _ hf _ ih =>
    rw [Statement.conditional?_cons, Stack.insideConditional, List.any_cons, hf.keyword]
    split
    next hif => simp [hif]
    next hif =>
      rw [beq_eq_false_iff_ne.mpr hif, Bool.false_or]
      exact ih

lemma map_eq (h : stack.Shows seen opened) :
    (stack.map fun f => (f.depth, f.keyword)) = opened.map fun s => (s.depth, s.keyword) := by
  induction h with
  | nil => rfl
  | cons hf _ ih => rw [List.map_cons, List.map_cons, hf.depth, hf.keyword, ih]

/-- A further statement that is no `else` of an open one changes nothing. -/
lemma concat (h : stack.Shows seen opened)
    (hs : ∀ g ∈ opened, ¬ (s.keyword = some "else" ∧ Statement.conditional? ancestors = some g)) :
    stack.Shows (seen ++ [(s, ancestors)]) opened := by
  induction h with
  | nil => exact .nil
  | cons hf _ ih =>
    obtain ⟨hfirst, hrest⟩ := List.forall_mem_cons.mp hs
    refine .cons ⟨hf.depth, hf.keyword, fun hif => ?_⟩ (ih hrest)
    rw [hf.elses hif, elsesOf_concat, if_neg hfirst, Nat.add_zero]

/-- Counting an `else` counts it for the nearest conditional. -/
lemma countElse (h : stack.Shows seen opened) (hnodup : opened.Nodup)
    (hs : s.keyword = some "else")
    (hancestors : Statement.conditional? ancestors = Statement.conditional? opened) :
    stack.countElse.1.Shows (seen ++ [(s, ancestors)]) opened ∧
      stack.countElse.2 = (Statement.conditional? opened).map (elsesOf seen · + 1) := by
  induction h with
  | nil => exact ⟨.nil, rfl⟩
  | @cons f a fs opened hf hrest ih =>
    obtain ⟨ha, hnodup⟩ := List.nodup_cons.mp hnodup
    rw [Statement.conditional?_cons] at hancestors ⊢
    unfold Stack.countElse
    rw [hf.keyword]
    split
    next hif =>
      rw [if_pos hif] at hancestors
      refine ⟨.cons ⟨hf.depth, hif.symm ▸ rfl, fun _ => ?_⟩ (concat hrest fun g hg => ?_), ?_⟩
      · rw [elsesOf_concat, if_pos ⟨hs, hancestors⟩, hf.elses hif]
      · rintro ⟨-, hg'⟩
        obtain rfl : a = g := Option.some.inj (hancestors.symm.trans hg')
        exact ha hg
      · rw [Option.map_some, hf.elses hif]
    next hif =>
      rw [if_neg hif] at hancestors
      obtain ⟨hshows, hcount⟩ := ih hnodup hancestors
      exact ⟨.cons ⟨hf.depth, hf.keyword, fun h => absurd h hif⟩ hshows, hcount⟩

/-- Entering a statement puts it on top. -/
lemma enter (h : stack.Shows seen ancestors) (hnodup : ancestors.Nodup) (hs : s ∉ ancestors)
    (hseen : ∀ p ∈ seen, s ∉ p.2) (opener : Token) :
    Stack.Shows (seen ++ [(s, ancestors)]) (enter opener s.depth s.keyword stack).2
      (s :: ancestors) := by
  have htop : Frame.Shows (seen ++ [(s, ancestors)]) ⟨s.depth, s.keyword, 0⟩ s := by
    refine ⟨rfl, rfl, fun _ => ?_⟩
    -- nothing that came before, nor the statement itself, is an `else` below it
    refine (List.countP_eq_zero.mpr fun p hp => ?_).symm
    have hnot : s ∉ p.2 := by
      rcases List.mem_append.mp hp with hp | hp
      · exact hseen p hp
      · obtain rfl := List.mem_singleton.mp hp
        exact hs
    simp only [decide_eq_true_eq, not_and]
    exact fun _ hg => hnot (List.mem_of_find?_eq_some hg)
  have hpush : ∀ {left : Stack}, left.Shows (seen ++ [(s, ancestors)]) ancestors →
      Stack.Shows (seen ++ [(s, ancestors)]) (⟨s.depth, s.keyword, 0⟩ :: left) (s :: ancestors) :=
    fun hleft => .cons htop hleft
  cases hk : s.keyword.filter Keyword.isBranch with
  | none =>
    have helse : s.keyword ≠ some "else" := by
      intro heq
      rw [heq] at hk
      exact absurd hk (by decide)
    simp only [Grammar.enter, hk]
    exact hpush (h.concat fun g _ hg => helse hg.1)
  | some name =>
    have hname : s.keyword = some name := (Option.filter_eq_some_iff.mp hk).1
    by_cases hin : stack.insideConditional = true
    · by_cases helse : name = "else"
      · have helseKeyword : s.keyword = some "else" := helse ▸ hname
        have hcounted := (h.countElse hnodup helseKeyword rfl).1
        simp only [Grammar.enter, hk, hin, helse]
        exact hpush hcounted
      · simp only [Grammar.enter, hk, hin, helse]
        refine hpush (h.concat fun g _ hg => helse ?_)
        exact Option.some.inj (hname.symm.trans hg.1)
    · have hnone : Statement.conditional? ancestors = none := by
        rwa [h.insideConditional, Option.not_isSome_iff_eq_none] at hin
      simp only [Grammar.enter, hk, hin]
      exact hpush (h.concat fun g _ hg => by simp [hnone] at hg)

end Stack.Shows

/-! ### Problems of the hierarchy -/

/-- Whether a problem is about the place of a statement in the hierarchy. -/
def IsHierarchical (p : Problem) : Prop :=
  p = .noParent ∨ (∃ name, p = .branchOutsideConditional name) ∨ p = .secondElse

lemma isError_of_isHierarchical {p : Problem} (h : IsHierarchical p) (line : Int) (column : Nat) :
    (⟨p, line, column⟩ : Diagnostic).isError = true := by
  rcases h with rfl | ⟨name, rfl⟩ | rfl <;> rfl

lemma IsHierarchical.concern {p : Problem} (h : IsHierarchical p) : p.concern = .hierarchy := by
  rcases h with rfl | ⟨name, rfl⟩ | rfl <;> rfl

/-- What entering a statement below a stack that shows its ancestors reports. -/
lemma enter_fst (h : stack.Shows seen ancestors) (hnodup : ancestors.Nodup) (s : Statement)
    (opener : Token) :
    (enter opener s.depth s.keyword stack).1 =
      (if opener.kind = .hierarchical ∧ s.depth > 0 ∧ ancestors = [] then
        [(.noParent, opener.column)] else []) ++
      match s.label?, Statement.conditional? ancestors with
      | none, _ => []
      | some name, none => [(.branchOutsideConditional name, opener.column)]
      | some name, some g =>
        if name = "else" ∧ 0 < elsesOf seen g then [(.secondElse, opener.column)] else [] := by
  have hempty : (List.isEmpty stack = true) = (ancestors = []) := by
    rw [h.isEmpty, List.isEmpty_iff]
  have hinside := h.insideConditional
  rw [Statement.label?]
  cases hk : s.keyword.filter Keyword.isBranch with
  | none => simp only [enter, hk, hempty, List.append_nil]
  | some name =>
    have hname : s.keyword = some name := (Option.filter_eq_some_iff.mp hk).1
    cases hg : Statement.conditional? ancestors with
    | none =>
      rw [hg] at hinside
      simp [enter, hk, hempty, hinside]
    | some g =>
      rw [hg] at hinside
      by_cases helse : name = "else"
      · have helseKeyword : s.keyword = some "else" := helse ▸ hname
        have hcount := (h.countElse hnodup helseKeyword rfl).2
        rw [hg, Option.map_some] at hcount
        simp [enter, hk, hempty, hinside, helse, hcount]
      · simp [enter, hk, hempty, hinside, helse]

/-- Of the problems of a line, those about the hierarchy come from entering its statement. -/
lemma hierarchical_mem_errors {width : Nat} {text : List Char} {span : Span} {line : Int}
    {problem : Problem} (hproblem : IsHierarchical problem) :
    problem ∈ (Verdict.ofProblems line
        (checkBrackets text ++ (checkSpan width span stack).1)).errors.map (·.problem) ↔
      problem ∈ (enter span.opener (span.depth width) (keywordOf span.body)
        (stack.closeTo (span.depth width))).1.map (·.1) := by
  have hconcern := hproblem.concern
  have hbrackets : ∀ c, (problem, c) ∉ checkBrackets text := by
    intro c hc
    cases hconcern.symm.trans (concern_of_mem_checkBrackets hc)
  have hdeclaration : ∀ c, (problem, c) ∉ checkDeclaration span.opener span.body := by
    intro c hc
    cases hconcern.symm.trans (concern_of_mem_checkDeclaration hc)
  have hzones : ∀ c, (problem, c) ∉ checkZones (keywordOf span.body) span.body := by
    intro c hc
    simpa [hconcern] using concern_of_mem_checkZones hc
  have hshallow : problem ≠ .hierarchicalAtDepthZero := by
    rintro rfl
    cases hconcern
  have herror := isError_of_isHierarchical hproblem line
  simp only [Verdict.ofProblems, checkSpan, List.mem_map, List.mem_filter]
  constructor
  · rintro ⟨d, ⟨⟨p, hp, rfl⟩, -⟩, rfl⟩
    refine ⟨p, ?_, rfl⟩
    simp only [List.mem_append] at hp
    rcases hp with hp | ((hp | hp) | hp) | hp
    · exact absurd hp (hbrackets p.2)
    · split at hp
      · exact absurd (congrArg Prod.fst (List.mem_singleton.mp hp)) hshallow
      · exact absurd hp List.not_mem_nil
    · exact absurd hp (hdeclaration p.2)
    · exact absurd hp (hzones p.2)
    · exact hp
  · rintro ⟨p, hp, rfl⟩
    exact ⟨_, ⟨⟨p, List.mem_append_right _ (List.mem_append_right _ hp), rfl⟩, herror p.2⟩, rfl⟩

/-! ### Validating lines of one statement -/

variable {width : Nat} {lines : List String}

/-- A line of one statement is validated as that statement, and a blank line is fine. -/
lemma Simple.cases {line : String} (h : Simple width line) (hwidth : 1 ≤ width) (number : Int) :
    (Statement.ofLine width number line = [] ∧ ∀ stack,
      (validate width stack line number).value = (.ofProblems number [], stack)) ∨
    ∃ span, Statement.ofLine width number line = [Statement.ofSpan width span] ∧ ∀ stack,
      (validate width stack line number).value =
        (.ofProblems number (checkBrackets (Text.expandTabs width line) ++
          (checkSpan width span stack).1), (checkSpan width span stack).2) := by
  cases hblank : Text.allBlank line with
  | true =>
    exact .inl ⟨Statement.ofLine_of_allBlank hblank, fun stack => validate_of_allBlank hblank _ _ _⟩
  | false =>
    have hone : startsOne width line = true := h.resolve_left (by simp [hblank])
    obtain ⟨span, hspan, hcheck⟩ := checkLine_of_startsOne hone number
    refine .inr ⟨span, hspan, fun stack => ?_⟩
    rw [validate_of_not_allBlank hblank hwidth, hcheck]

/-- Lines of one statement each have statements on different lines. -/
lemma pairwise_lt_of_simple (hwidth : 1 ≤ width) (h : ∀ line ∈ lines, Simple width line)
    (start : Int) : (Statement.ofLinesFrom width start lines).Pairwise (·.line < ·.line) := by
  apply Statement.pairwise_lt_ofLinesFrom
  intro line hline number
  rcases (h line hline).cases hwidth number with ⟨hnone, -⟩ | ⟨span, hspan, -⟩
  · simp [hnone]
  · simp [hspan]

lemma nodup_of_simple (hwidth : 1 ≤ width) (h : ∀ line ∈ lines, Simple width line) (start : Int) :
    (Statement.ofLinesFrom width start lines).Nodup :=
  (pairwise_lt_of_simple hwidth h start).imp fun hlt heq => by simp [heq] at hlt

/-- After some lines the stack shows the last statement and its ancestors. -/
lemma shows_validateFrom (hwidth : 1 ≤ width) (start : Int)
    (h : ∀ line ∈ lines, Simple width line) :
    (validateFrom width [] start lines).value.2.Shows
      (lineages Statement.depth [] (Statement.ofLinesFrom width start lines))
      (openAfter Statement.depth [] (Statement.ofLinesFrom width start lines)) := by
  induction lines using List.reverseRecOn with
  | nil => exact .nil
  | append_singleton front line ih =>
    have hfront := ih fun other hother => h other (List.mem_append_left _ hother)
    have hline := h line (List.mem_append_right _ List.mem_cons_self)
    have hitems : Statement.ofLinesFrom width start (front ++ [line]) =
        Statement.ofLinesFrom width start front ++
          Statement.ofLine width (start + front.length) line := by
      rw [Statement.ofLinesFrom_append, Statement.ofLinesFrom, Statement.ofLinesFrom, List.append_nil]
    have hnodup := nodup_of_simple hwidth h start
    have hstack : (validateFrom width [] start (front ++ [line])).value.2 =
        (validate width (validateFrom width [] start front).value.2 line
          (start + front.length)).value.2 := by
      rw [validateFrom_append]
      rfl
    rw [hstack]
    rw [hitems] at hnodup ⊢
    rcases hline.cases hwidth (start + front.length) with ⟨hnone, hvalue⟩ | ⟨span, hspan, hvalue⟩
    · rw [hnone, List.append_nil, hvalue]
      exact hfront
    · rw [hspan] at hnodup ⊢
      have hfresh : Statement.ofSpan width span ∉ Statement.ofLinesFrom width start front := by
        have hdisjoint := (List.nodup_append.mp hnodup).2.2
        exact fun hmem => hdisjoint _ hmem _ List.mem_cons_self rfl
      have hclosed := hfront.closeTo (span.depth width)
      rw [hvalue, openAfter_concat, lineages_concat, Statement.depth_ofSpan hwidth]
      have hentered := hclosed.enter (s := Statement.ofSpan width span)
        (nodup_above (List.nodup_append.mp hnodup).1 _) (fun hmem => hfresh (mem_of_mem_above hmem))
        (fun p hp hmem => hfresh (mem_of_mem_lineages hp _ hmem)) span.opener
      rwa [Statement.keyword_ofSpan, Statement.depth_ofSpan hwidth] at hentered

/-- What comes before, at and after a statement, if all statements are on different lines. -/
lemma lineages_cases {front back : List Statement}
    (h : (front ++ s :: back).Pairwise (·.line < ·.line)) {p : Statement × List Statement}
    (hp : p ∈ lineages Statement.depth [] (front ++ s :: back)) :
    p ∈ lineages Statement.depth [] front ∧ p.1.line < s.line ∨
      p = (s, above Statement.depth s.depth (openAfter Statement.depth [] front)) ∨
        s.line < p.1.line := by
  obtain ⟨-, hback, hfront⟩ := List.pairwise_append.mp h
  rw [lineages_append, lineages, List.mem_append, List.mem_cons] at hp
  rcases hp with hp | rfl | hp
  · have hmem := List.mem_map_of_mem (f := Prod.fst) hp
    rw [map_fst_lineages] at hmem
    exact .inl ⟨hp, hfront _ hmem _ List.mem_cons_self⟩
  · exact .inr (.inl rfl)
  · have hmem := List.mem_map_of_mem (f := Prod.fst) hp
    rw [map_fst_lineages] at hmem
    exact .inr (.inr ((List.pairwise_cons.mp hback).1 _ hmem))

lemma elsesOf_pos_iff {g : Statement} :
    0 < elsesOf seen g ↔
      ∃ p ∈ seen, p.1.keyword = some "else" ∧ Statement.conditional? p.2 = some g := by
  simp [elsesOf, List.countP_pos_iff]

/-- The nodes of lines of one statement each: those of the lines before a statement, its own, and those
of the lines behind it. -/
lemma node_cases {front back : List Statement}
    (h : (front ++ s :: back).Pairwise (·.line < ·.line)) {n : Node Statement}
    (hn : n ∈ (ofList Statement.depth (front ++ s :: back)).nodes) :
    (n.item, n.ancestors) ∈ lineages Statement.depth [] front ∧ n.item.line < s.line ∨
      (n.item = s ∧
        n.ancestors = above Statement.depth s.depth (openAfter Statement.depth [] front)) ∨
      s.line < n.item.line := by
  have hmem := List.mem_map_of_mem (f := fun n : Node Statement => (n.item, n.ancestors)) hn
  rw [lineages_nodes] at hmem
  rcases lineages_cases h hmem with hbefore | hself | hbehind
  · exact .inl hbefore
  · exact .inr (.inl (Prod.mk.inj hself))
  · exact .inr (.inr hbehind)

/-- The nodes that come before a statement are those of the statements in front of it. -/
lemma exists_node_before_iff {front back : List Statement}
    (h : (front ++ s :: back).Pairwise (·.line < ·.line)) {q : Statement × List Statement → Prop} :
    (∃ p ∈ lineages Statement.depth [] front, q p) ↔
      ∃ m ∈ (ofList Statement.depth (front ++ s :: back)).nodes,
        m.item.line < s.line ∧ q (m.item, m.ancestors) := by
  constructor
  · rintro ⟨p, hp, hq⟩
    have hall : p ∈ lineages Statement.depth [] (front ++ s :: back) := by
      rw [lineages_append]
      exact List.mem_append_left _ hp
    rw [← lineages_nodes] at hall
    obtain ⟨m, hm, rfl⟩ := List.mem_map.mp hall
    have hitem := List.mem_map_of_mem (f := Prod.fst) hp
    rw [map_fst_lineages] at hitem
    have hlt := (List.pairwise_append.mp h).2.2 _ hitem s List.mem_cons_self
    exact ⟨m, hm, hlt, hq⟩
  · rintro ⟨m, hm, hlt, hq⟩
    rcases node_cases h hm with ⟨hbefore, -⟩ | ⟨hself, -⟩ | hbehind
    · exact ⟨_, hbefore, hq⟩
    · rw [hself] at hlt
      exact absurd hlt (Int.lt_irrefl _)
    · omega

lemma conditional?_eq_none_iff :
    Statement.conditional? ancestors = none ↔
      ∀ a ∈ ancestors, a.keyword ≠ some Keyword.conditional := by
  simp [Statement.conditional?, List.find?_eq_none]

/-- A statement below the ones that are open is reported iff it is out of place among them. -/
lemma hierarchical_mem_enter_iff (h : stack.Shows seen ancestors) (hnodup : ancestors.Nodup)
    (s : Statement) (opener : Token) :
    let problems := (enter opener s.depth s.keyword stack).1.map (·.1)
    (∀ name, .branchOutsideConditional name ∈ problems ↔
        s.label? = some name ∧ ∀ a ∈ ancestors, a.keyword ≠ some Keyword.conditional) ∧
      (.secondElse ∈ problems ↔ s.keyword = some "else" ∧
        ∃ p ∈ seen, p.1.keyword = some "else" ∧ ∃ g, Statement.conditional? p.2 = some g ∧
          Statement.conditional? ancestors = some g) ∧
      (.noParent ∈ problems ↔ opener.kind = .hierarchical ∧ 0 < s.depth ∧ ancestors = []) := by
  intro problems
  have hproblems : problems = _ := congrArg (List.map (·.1)) (enter_fst h hnodup s opener)
  have helse : s.keyword = some "else" ↔ s.label? = some "else" := by
    rw [Statement.label?, Option.filter_eq_some_iff, iff_self_and]
    exact fun _ => by decide
  have horphan : ∀ p, p ∈ (if opener.kind = .hierarchical ∧ s.depth > 0 ∧ ancestors = [] then
      [(Problem.noParent, opener.column)] else []).map (·.1) ↔
      p = .noParent ∧ opener.kind = .hierarchical ∧ s.depth > 0 ∧ ancestors = [] := by
    intro p
    split
    next hplace => simp [hplace]
    next hplace => simp [hplace]
  simp only [hproblems, ← conditional?_eq_none_iff, List.map_append, List.mem_append, horphan, helse]
  cases s.label? with
  | none => simp
  | some name =>
    cases Statement.conditional? ancestors with
    | none => simp [eq_comm]
    | some g =>
      have hsecond : (∃ p ∈ seen, p.1.keyword = some "else" ∧ ∃ other,
          Statement.conditional? p.2 = some other ∧ some g = some other) ↔ 0 < elsesOf seen g := by
        simp [elsesOf_pos_iff]
      rw [hsecond]
      by_cases hmany : name = "else" ∧ 0 < elsesOf seen g
      · simp [hmany]
      · simp [hmany]

lemma operator_ofSpan (width : Nat) (span : Span) :
    (Statement.ofSpan width span).operator = .hierarchical ↔ span.opener.kind = .hierarchical := by
  change (if span.isHierarchical then Operator.hierarchical else Operator.root) = _ ↔ _
  rw [← beq_iff_eq (a := span.opener.kind), ← Span.isHierarchical]
  split
  next h => simp [h]
  next h => simp [h]

/-- Whether a verdict reports exactly what is wrong with the place of a node among others. -/
structure Verdict.Places (nodes : List (Node Statement)) (v : Verdict) (n : Node Statement) :
    Prop where
  branch : ∀ name, .branchOutsideConditional name ∈ v.errors.map (·.problem) ↔
    n.item.label? = some name ∧ ∀ a ∈ n.ancestors, a.keyword ≠ some Keyword.conditional
  second : .secondElse ∈ v.errors.map (·.problem) ↔
    n.item.keyword = some "else" ∧
      ∃ m ∈ nodes, m.item.line < n.item.line ∧ m.item.keyword = some "else" ∧
        ∃ g, Statement.conditional? m.ancestors = some g ∧
          Statement.conditional? n.ancestors = some g
  orphan : .noParent ∈ v.errors.map (·.problem) ↔
    n.item.operator = .hierarchical ∧ 0 < n.item.depth ∧ n.ancestors = []

/-- A statement that is checked below a stack that shows the ones before it is placed. -/
lemma places_checkSpan (hwidth : 1 ≤ width) {front back : List Statement} {span : Span}
    (hlt : (front ++ Statement.ofSpan width span :: back).Pairwise (·.line < ·.line))
    (hstack : stack.Shows (lineages Statement.depth [] front) (openAfter Statement.depth [] front))
    (text : List Char) (number : Int) {n : Node Statement}
    (hn : n ∈ (ofList Statement.depth (front ++ Statement.ofSpan width span :: back)).nodes)
    (hline : n.item.line = (Statement.ofSpan width span).line) :
    Verdict.Places (ofList Statement.depth (front ++ Statement.ofSpan width span :: back)).nodes
      (.ofProblems number (checkBrackets text ++ (checkSpan width span stack).1)) n := by
  obtain ⟨hitem, hancestors⟩ : n.item = Statement.ofSpan width span ∧ n.ancestors = _ := by
    rcases node_cases hlt hn with ⟨-, hless⟩ | hself | hmore
    · omega
    · exact hself
    · omega
  have hnodup : front.Nodup :=
    (List.pairwise_append.mp hlt).1.imp fun hlt heq => by simp [heq] at hlt
  have hentered : enter span.opener (span.depth width) (keywordOf span.body)
      (stack.closeTo (span.depth width)) =
      enter span.opener (Statement.ofSpan width span).depth (Statement.ofSpan width span).keyword
        (stack.closeTo (Statement.ofSpan width span).depth) := by
    rw [Statement.depth_ofSpan hwidth, Statement.keyword_ofSpan]
  obtain ⟨hbranch, hsecond, horphan⟩ := hierarchical_mem_enter_iff
    (hstack.closeTo (Statement.ofSpan width span).depth) (nodup_above hnodup _)
    (Statement.ofSpan width span) span.opener
  rw [exists_node_before_iff hlt] at hsecond
  constructor
  · intro name
    rw [hierarchical_mem_errors (.inr (.inl ⟨name, rfl⟩)), hentered, hitem, hancestors]
    exact hbranch name
  · rw [hierarchical_mem_errors (.inr (.inr rfl)), hentered, hitem, hancestors]
    exact hsecond
  · rw [hierarchical_mem_errors (.inl rfl), hentered, hitem, hancestors, operator_ofSpan]
    exact horphan

/-- After some lines of one statement each, the stack shows the last statement and its ancestors. -/
lemma stack_of_front (hwidth : 1 ≤ width) (h : ∀ line ∈ lines, Simple width line) :
    ((validateLines width lines 1).value.2.map fun f => (f.depth, f.keyword)) =
      (((Block.ofLines width lines).forest.nodes.getLast?.map
        fun n => n.item :: n.ancestors).getD []).map fun s => (s.depth, s.keyword) := by
  have hopen : openAfter Statement.depth [] (Statement.ofLinesFrom width 1 lines) =
      ((Block.ofLines width lines).forest.nodes.getLast?.map
        fun n => n.item :: n.ancestors).getD [] := openAfter_eq _
  rw [← hopen]
  exact (shows_validateFrom hwidth 1 h).map_eq

/-- On lines of one statement each, the stack of the validator is the chain of ancestors. After some
lines it shows, innermost first, the last statement and its ancestors; and a statement is reported as a
branch outside of a conditional, a second `else` or one without a parent iff its node is one. -/
theorem stack_validateLines (hwidth : 1 ≤ width) (h : ∀ line ∈ lines, Simple width line) :
    let nodes := (Block.ofLines width lines).forest.nodes
    (∀ front back, lines = front ++ back →
      let seen := (Block.ofLines width front).forest.nodes
      (seen.map fun n => (n.item, n.ancestors)) <+: (nodes.map fun n => (n.item, n.ancestors)) ∧
        ((validateLines width front 1).value.2.map fun f => (f.depth, f.keyword)) =
          ((seen.getLast?.map fun n => n.item :: n.ancestors).getD []).map
            fun s => (s.depth, s.keyword)) ∧
      nodes.Pairwise (·.item.line < ·.item.line) ∧
      ∀ v ∈ (validateLines width lines 1).value.1,
        ((∀ n ∈ nodes, n.item.line ≠ v.line) → v.errors = []) ∧
        ∀ n ∈ nodes, n.item.line = v.line → v.Places nodes n := by
  intro nodes
  have hlt := pairwise_lt_of_simple hwidth h 1
  have hwalk : nodes.map (·.item) = Statement.ofLinesFrom width 1 lines :=
    (map_item_nodesBelow [] _).trans (walk_ofList _)
  refine ⟨fun front back hlines => ⟨?_, ?_⟩, ?_, fun v hv => ?_⟩
  · rw [Block.forest, lineages_nodes, show nodes.map _ = _ from lineages_nodes _, hlines]
    simp only [Block.ofLines, Statement.ofLines, Statement.ofLinesFrom_append, lineages_append]
    exact List.prefix_append _ _
  · exact stack_of_front hwidth fun line hline => h line (hlines ▸ List.mem_append_left back hline)
  · rw [← hwalk, List.pairwise_map] at hlt
    exact hlt
  · obtain ⟨front, line, back, hlines, rfl⟩ := mem_validateFrom_iff.mp hv
    have hitems : Statement.ofLinesFrom width 1 lines = Statement.ofLinesFrom width 1 front ++
        (Statement.ofLine width (1 + front.length) line ++
          Statement.ofLinesFrom width (1 + front.length + 1) back) := by
      rw [hlines, Statement.ofLinesFrom_append, Statement.ofLinesFrom]
    rcases (h line (by simp [hlines])).cases hwidth (1 + front.length) with
      ⟨hnone, hvalue⟩ | ⟨span, hspan, hvalue⟩
    · -- no node stands on a blank line
      rw [hvalue]
      refine ⟨fun _ => rfl, fun n hn hline => ?_⟩
      have hitem : n.item ∈ Statement.ofLinesFrom width 1 lines := hwalk ▸ List.mem_map_of_mem hn
      have hnumber : n.item.line = 1 + front.length := hline
      rw [hitems, hnone, List.nil_append, List.mem_append] at hitem
      rcases hitem with hitem | hitem
      · have := Statement.line_lt_of_mem_ofLinesFrom hitem
        omega
      · have := Statement.le_line_of_mem_ofLinesFrom hitem
        omega
    · rw [hspan, List.singleton_append] at hitems
      have hnumber : (Statement.ofSpan width span).line = 1 + front.length :=
        Statement.line_of_mem_ofLine (by rw [hspan]; exact List.mem_cons_self)
      have hforest : nodes = (ofList Statement.depth (Statement.ofLinesFrom width 1 front ++
          Statement.ofSpan width span ::
            Statement.ofLinesFrom width (1 + front.length + 1) back)).nodes := by
        rw [← hitems]
        rfl
      rw [hvalue]
      refine ⟨fun hnever => ?_, fun n hn hline => ?_⟩
      · have hself : Statement.ofSpan width span ∈ nodes.map (·.item) := by
          rw [hwalk, hitems]
          exact List.mem_append_right _ List.mem_cons_self
        obtain ⟨n, hn, hitem⟩ := List.mem_map.mp hself
        exact absurd (hitem ▸ hnumber) (hnever n hn)
      · rw [hforest] at hn ⊢
        rw [hitems] at hlt
        have hshows := shows_validateFrom hwidth 1 fun other hother =>
          h other (hlines ▸ List.mem_append_left (line :: back) hother)
        exact places_checkSpan hwidth hlt hshows _ _ hn (hline.trans hnumber.symm)

/-- A conditional with two `else` branches, something nested below the first one, and a blank line. -/
theorem stack_validateLines_else :
    let lines := [":: if\x7bhover\x7d // text", "  :^: else // text", "", "  :^::^: set // text",
      "  :^: else // text"]
    let nodes := (Block.ofLines 2 lines).forest.nodes
    (∀ line ∈ lines, Simple 2 line) ∧
      ((validateLines 2 lines 1).value.2.map fun f => (f.depth, f.keyword)) =
        [(1, some "else"), (0, some "if")] ∧
      ∀ v ∈ (validateLines 2 lines 1).value.1, ∀ n ∈ nodes, n.item.line = v.line →
        v.Places nodes n := by
  intro lines nodes
  have hsimple : ∀ line ∈ lines, Simple 2 line := by decide +kernel
  obtain ⟨hstack, -, hplaces⟩ := stack_validateLines (by decide) hsimple
  have hchain : ((nodes.getLast?.map fun n => n.item :: n.ancestors).getD []).map
      (fun s => (s.depth, s.keyword)) = [(1, some "else"), (0, some "if")] := by decide +kernel
  have hshown := (hstack lines [] (List.append_nil lines).symm).2
  exact ⟨hsimple, hshown.trans hchain, fun v hv => (hplaces v hv).2⟩

end Grammar

end BlockScript
