import BlockScript.Compilation
import BlockScript.Proofs.Digits
import BlockScript.Proofs.Grammar.Stack
import BlockScript.Proofs.Recovery.Closure

/-!
# Nothing is left out silently

A line can be lost in validation, in recovery or in extraction. Each of them reports what it loses, so
every statement of a block has an instruction or a diagnostic on its line, and so has every line that is
not blank (`Compilation.accountedFor`).
-/

namespace BlockScript

variable {is more : List Instruction} {ds other : List Diagnostic}

/-! ### Accounting -/

/-- Whether an instruction has been made of a statement. -/
def Instruction.ComesFrom (s : Statement) (i : Instruction) : Prop :=
  ∃ keyword, s.keyword = some keyword ∧
    i.origin = some ⟨s.line, s.column, s.operator, keyword, s.source, s.depth⟩

/-- Whether some diagnostic is about a line. -/
def Reported (ds : List Diagnostic) (line : Int) : Prop :=
  ∃ d ∈ ds, d.line = line

/-- Whether a statement has an instruction, or a diagnostic on its line. -/
def Statement.AccountedFor (is : List Instruction) (ds : List Diagnostic) (s : Statement) : Prop :=
  (∃ i ∈ is, i.ComesFrom s) ∨ Reported ds s.line

lemma Reported.mono {line : Int} (h : Reported ds line) (hsubset : ds ⊆ other) :
    Reported other line := by
  obtain ⟨d, hd, hline⟩ := h
  exact ⟨d, hsubset hd, hline⟩

lemma Statement.AccountedFor.mono {s : Statement} (h : s.AccountedFor is ds) (his : is ⊆ more)
    (hds : ds ⊆ other) : s.AccountedFor more other := by
  rcases h with ⟨i, hi, hs⟩ | hreported
  · exact .inl ⟨i, his hi, hs⟩
  · exact .inr (hreported.mono hds)

/-! ### Extraction -/

namespace Extraction

/-- All diagnostics of an extraction. -/
def diagnostics (e : Extraction) : List Diagnostic :=
  e.errors ++ e.warnings

lemma accountedFor_append {a b : Extraction} {s : Statement}
    (h : s.AccountedFor a.instructions a.diagnostics ∨ s.AccountedFor b.instructions b.diagnostics) :
    s.AccountedFor (append a b).instructions (append a b).diagnostics := by
  have hdiagnostics : ∀ d ∈ a.diagnostics ++ b.diagnostics, d ∈ (append a b).diagnostics := by
    intro d hd
    simp only [diagnostics, append, List.mem_append] at hd ⊢
    tauto
  rcases h with h | h
  · exact h.mono (List.subset_append_left _ _) fun d hd =>
      hdiagnostics d (List.mem_append_left _ hd)
  · exact h.mono (List.subset_append_right _ _) fun d hd =>
      hdiagnostics d (List.mem_append_right _ hd)

lemma reported_of_mem_skipped (parent : Statement) {s : Statement} {f : Forest Statement}
    (h : s ∈ f.walk) : Reported (skipped parent f) s.line := by
  match f with
  | .nil => exact absurd h List.not_mem_nil
  | .tree t below rest =>
    rw [Forest.walk, List.mem_cons, List.mem_append] at h
    rw [skipped]
    rcases h with rfl | h | h
    · exact ⟨_, List.mem_append_left _ List.mem_cons_self, rfl⟩
    · exact (reported_of_mem_skipped t h).mono fun d hd =>
        List.mem_append_right _ (List.mem_append_left _ hd)
    · exact (reported_of_mem_skipped parent h).mono fun d hd =>
        List.mem_append_right _ (List.mem_append_right _ hd)

/-- Extraction gives an instruction for every statement, or reports that it does not. -/
lemma accountedFor_ofForest {block : String} {scope : Option Scope} {conditions : List Condition}
    {f : Forest Statement} {e : Extraction} (h : ofForest block scope conditions f = .ok e)
    {s : Statement} (hs : s ∈ f.walk) : s.AccountedFor e.instructions e.diagnostics := by
  match f with
  | .nil => exact absurd hs List.not_mem_nil
  | .tree t below rest =>
    obtain ⟨after, hafter, hroot⟩ := ofForest_tree_ok h
    rw [Forest.walk, List.mem_cons, List.mem_append] at hs
    have hrest : s ∈ rest.walk → s.AccountedFor after.instructions after.diagnostics :=
      accountedFor_ofForest hafter
    rcases hroot with ⟨ht, rfl⟩ | ⟨keyword, target, i, inner, ht, hi, hinner, rfl⟩
    · rcases hs with rfl | hs | hs
      · have hrejected : s.rejections ≠ [] := by simp [rejections_eq_nil_iff, ht]
        obtain ⟨p, hp⟩ := List.exists_mem_of_ne_nil _ hrejected
        have hd : ⟨p, s.line, s.column⟩ ∈ s.diagnose s.rejections := List.mem_map_of_mem hp
        exact accountedFor_append (.inl (.inr ⟨_, List.mem_append_left _ hd, rfl⟩))
      · have hreported := reported_of_mem_skipped t hs
        exact accountedFor_append (.inl (.inr (hreported.mono (List.subset_append_right _ _))))
      · exact accountedFor_append (.inr (hrest hs))
    · rcases hs with rfl | hs | hs
      · obtain ⟨hkeyword, -, -⟩ := Statement.usable?_eq_some_iff.mp ht
        obtain ⟨_, _, _, _, rfl⟩ := Statement.instruction_ok_iff.mp hi
        exact .inl ⟨_, List.mem_append_left _ List.mem_cons_self, keyword, hkeyword, rfl⟩
      · exact accountedFor_append (.inl (accountedFor_append (.inr (accountedFor_ofForest hinner hs))))
      · exact accountedFor_append (.inr (hrest hs))

lemma accountedFor_ofBlock {id : String} {block : Block} {e : Extraction}
    (h : ofBlock id block = .ok e) :
    ∀ s ∈ block.statements, s.AccountedFor e.instructions e.diagnostics := by
  intro s hs
  refine accountedFor_ofForest h ?_
  rwa [Block.forest, Forest.walk_ofList]

end Extraction

/-! ### Validation -/

namespace Grammar

variable {width : Nat} {stack : Stack} {start : Int} {lines : List String}

/-- A line that is not valid has a diagnostic. -/
lemma Verdict.reported_of_invalid {line : Int} {problems : List (Problem × Nat)}
    (h : (ofProblems line problems).valid = false) :
    Reported (ofProblems line problems).diagnostics line := by
  have herrors : (ofProblems line problems).errors ≠ [] := by simpa [valid] using h
  obtain ⟨d, hd⟩ := List.exists_mem_of_ne_nil _ herrors
  have hline : d ∈ problems.map fun p => ⟨p.1, line, p.2⟩ := (List.mem_filter.mp hd).1
  obtain ⟨p, -, rfl⟩ := List.mem_map.mp hline
  exact ⟨_, List.mem_mergeSort.mpr (List.mem_append_left _ hd), rfl⟩

/-- Bad lines have been reported. -/
lemma reported_of_bad {n : Int}
    (h : n ∈ Compilation.badLines (validateFrom width stack start lines).value.1) :
    Reported ((validateFrom width stack start lines).value.1.flatMap (·.diagnostics)) n := by
  obtain ⟨v, hv, rfl⟩ := List.mem_map.mp h
  obtain ⟨hmem, hinvalid⟩ := List.mem_filter.mp hv
  obtain ⟨front, line, back, -, rfl⟩ := mem_validateFrom_iff.mp hmem
  obtain ⟨problems, heq⟩ := exists_validate_eq width
    (validateFrom width stack start front).value.2 line (start + front.length)
  rw [heq] at hmem hinvalid ⊢
  have hreported := Verdict.reported_of_invalid ((Bool.not_eq_true' _).mp hinvalid)
  exact hreported.mono fun d hd => List.mem_flatMap.mpr ⟨_, hmem, hd⟩

/-- A line that is not blank is bad or has a statement. -/
lemma bad_or_exists_statement (hwidth : 1 ≤ width) {k : Nat} {line : String}
    (h : lines[k]? = some line) (hline : Text.allBlank line = false) :
    start + k ∈ Compilation.badLines (validateFrom width stack start lines).value.1 ∨
      ∃ s ∈ Statement.ofLinesFrom width start lines, s.line = start + k := by
  obtain ⟨hk, hget⟩ := List.getElem?_eq_some_iff.mp h
  have hlines : lines = lines.take k ++ line :: lines.drop (k + 1) := by
    rw [← hget, ← List.drop_eq_getElem_cons, List.take_append_drop]
  have hverdict : _ ∈ (validateFrom width stack start lines).value.1 :=
    mem_validateFrom_iff.mpr ⟨lines.take k, line, lines.drop (k + 1), hlines, rfl⟩
  rw [List.length_take_of_le hk.le, validate_of_not_allBlank hline hwidth] at hverdict
  rcases checkLine_cases width line (start + k) with hjunk | ⟨span, others, hsplit, -⟩
  · obtain ⟨column, hcolumn⟩ := (hjunk (validateFrom width stack start (lines.take k)).value.2).2
    refine .inl (List.mem_map.mpr ⟨_, List.mem_filter.mpr ⟨hverdict, ?_⟩, rfl⟩)
    rw [Bool.not_eq_true', ← Bool.not_eq_true, Verdict.valid_ofProblems]
    exact fun hfine => Bool.noConfusion (hfine _ hcolumn)
  · have hfirst : Statement.ofSpan width span ∈ Statement.ofLine width (start + k) line := by
      rw [hsplit]
      exact List.mem_cons_self
    exact .inr ⟨_, Statement.mem_ofLinesFrom_iff.mpr ⟨k, line, h, hfirst⟩,
      Statement.line_of_mem_ofLine hfirst⟩

end Grammar

/-! ### Recovery -/

/-- Recovery takes away the statements of some lines, which are bad or reported. -/
lemma Recovery.exists_skipped (width : Nat) (id : String) (bad : List Int) (source : List String) :
    ∃ skipped : List Int, (Block.ofLines width (ofSource width false id bad source).source).statements =
        (Block.ofLines width source).statements.filter (·.line ∉ skipped) ∧
      ∀ s ∈ (Block.ofLines width source).statements, s.line ∈ skipped →
        s.line ∈ bad ∨ Reported (ofSource width false id bad source).warnings s.line := by
  by_cases hbad : bad.isEmpty = true
  · refine ⟨[], ?_, by simp⟩
    simp [ofSource, hbad]
  · have hsource : ofSource width false id bad source =
        ⟨blank (skippedLines (.ofLines width source) bad) source,
          nestedWarnings bad (skippedLines (.ofLines width source) bad) source, []⟩ := by
      simp [ofSource, hbad]
    rw [hsource]
    refine ⟨_, Block.statements_blank width _ source, fun s hs hskipped => ?_⟩
    by_cases hmem : s.line ∈ bad
    · exact .inl hmem
    · obtain ⟨k, text, hk, hline⟩ := Statement.mem_ofLinesFrom_iff.mp hs
      have hnumber : s.line ∈ lineNumbers source := by
        refine List.mem_map.mpr ⟨k, List.mem_range.mpr (List.getElem?_eq_some_iff.mp hk).1, ?_⟩
        rw [Statement.line_of_mem_ofLine hline]
        omega
      refine .inr ⟨⟨.nestedUnderError s.line, s.line, 1⟩, ?_, rfl⟩
      exact List.mem_map.mpr ⟨s.line, List.mem_filter.mpr ⟨hnumber, by simp [hskipped, hmem]⟩, rfl⟩

/-! ### Compilation -/

namespace Compilation

variable {width : Nat} {id : String} {source : List String} {c : Compilation}

/-- Compiling without optimization accounts for all statements, and for the lines that have none. -/
lemma accountedFor_ofSource (hwidth : 1 ≤ width)
    (h : (ofSource width false false id source).value = .ok c) :
    (∀ s ∈ (Block.ofLines width source).statements, s.AccountedFor c.instructions c.diagnostics) ∧
      ∀ (k : Nat) (line : String), source[k]? = some line → Text.allBlank line = false →
        Reported c.diagnostics (1 + k) ∨
          ∃ s ∈ (Block.ofLines width source).statements, s.line = 1 + k := by
  simp only [ofSource, ofVerdicts] at h
  split at h
  next => exact absurd h (by simp)
  next e he =>
    have hdiagnostics : ∀ d, d ∈ (Grammar.validateLines width source 1).value.1.flatMap (·.diagnostics) ∨
        d ∈ (Recovery.ofSource width false id
          (badLines (Grammar.validateLines width source 1).value.1) source).warnings ∨
        d ∈ e.diagnostics → d ∈ c.diagnostics := by
      intro d hd
      obtain rfl := Except.ok.inj h
      refine List.mem_mergeSort.mpr ?_
      simp only [Extraction.diagnostics, List.mem_append] at hd ⊢
      tauto
    have hinstructions : c.instructions = e.instructions := by rw [← Except.ok.inj h]; rfl
    have hbad : ∀ n ∈ badLines (Grammar.validateLines width source 1).value.1,
        Reported c.diagnostics n :=
      fun n hn => (Grammar.reported_of_bad hn).mono fun d hd => hdiagnostics d (.inl hd)
    obtain ⟨skipped, hstatements, hskipped⟩ := Recovery.exists_skipped width id
      (badLines (Grammar.validateLines width source 1).value.1) source
    constructor
    · intro s hs
      by_cases hline : s.line ∈ skipped
      · rcases hskipped s hs hline with hmem | hreported
        · exact .inr (hbad _ hmem)
        · exact .inr (hreported.mono fun d hd => hdiagnostics d (.inr (.inl hd)))
      · have hkept : s ∈ (Block.ofLines width (Recovery.ofSource width false id
            (badLines (Grammar.validateLines width source 1).value.1) source).source).statements := by
          rw [hstatements]
          exact List.mem_filter.mpr ⟨hs, by simpa using hline⟩
        rw [hinstructions]
        exact (Extraction.accountedFor_ofBlock he s hkept).mono (List.Subset.refl _)
          fun d hd => hdiagnostics d (.inr (.inr hd))
    · intro k line hk hline
      exact (Grammar.bad_or_exists_statement hwidth hk hline).imp_left (hbad _)

/-- Compiling succeeds if all rows of digits can be read. -/
lemma exists_ofSource (hwidth : 1 ≤ width) (hdigits : ∀ line ∈ source, DigitsFit line.toList)
    (id : String) : ∃ c, (ofSource width false false id source).value = .ok c := by
  obtain ⟨skipped, hstatements, -⟩ := Recovery.exists_skipped width id
    (badLines (Grammar.validateLines width source 1).value.1) source
  obtain ⟨e, he⟩ := Extraction.exists_ofBlock id (.ofLines width (Recovery.ofSource width
      false id (badLines (Grammar.validateLines width source 1).value.1) source).source) fun s hs => by
    rw [hstatements] at hs
    exact Statement.numbersFit_of_mem_ofLinesFrom hwidth hdigits (List.mem_filter.mp hs).1
  simp only [ofSource, ofVerdicts, he]
  exact ⟨_, rfl⟩

lemma one_le_of_indentWidth {s : Settings} {w : Int} (h : s.indentWidth = .ok w) : 1 ≤ w := by
  obtain ⟨set, -, hw⟩ := bind_ok_iff.mp h
  rw [← Except.ok.inj hw]
  omega

lemma expandAlias_nil (line : String) : Keyword.expandAlias [] line = line := by
  simp only [Keyword.expandAlias, List.isEmpty_nil, Bool.true_or, if_true]
  split <;> rfl

/-- Without aliases, lines are compiled as they are. -/
lemma value_ofLines {s : Settings} {w : Int} (hstrict : s.strict = .ok false)
    (hwidth : s.indentWidth = .ok w) (haliases : s.aliases = .ok []) (optimize : Bool) (id : String)
    (lines : List String) :
    (ofLines s optimize id lines).value =
      if w > widthLimit ∧ lines ≠ [] then .error .widthTooLarge
      else (ofSource w.toNat false optimize id lines).value.mapError .number := by
  have hprepare : prepare s lines =
      if w > widthLimit ∧ lines ≠ [] then .error .widthTooLarge else .ok (w.toNat, lines) := by
    have hmap : lines.map (Keyword.expandAlias []) = lines :=
      List.map_id'' expandAlias_nil lines
    simp only [prepare, hwidth, haliases, Except.mapError, bind, Except.bind, hmap]
    split <;> rfl
  rw [ofLines, hprepare]
  split
  next h =>
    split at h
    next => simp_all
    next => simp at h
  next h =>
    split at h
    next => simp at h
    next hlimit =>
      cases h
      rw [if_neg hlimit]
      simp only [hstrict]

/-- Nothing is left out silently: in a block that is compiled without aliases, leniently and without
optimization, every statement and every line that is not blank has an instruction, or a diagnostic on
its line. -/
theorem accountedFor {s : Settings} {w : Int} (hstrict : s.strict = .ok false)
    (hwidth : s.indentWidth = .ok w) (haliases : s.aliases = .ok []) (id : String)
    (lines : List String) :
    ((w ≤ widthLimit ∨ lines = []) → (∀ line ∈ lines, DigitsFit line.toList) →
        ∃ c, (ofLines s false id lines).value = .ok c) ∧
      ∀ c, (ofLines s false id lines).value = .ok c →
        (∀ t ∈ (Block.ofLines w.toNat lines).statements,
          t.AccountedFor c.instructions c.diagnostics) ∧
        ∀ (k : Nat) (line : String), lines[k]? = some line → Text.allBlank line = false →
          (∃ i ∈ c.instructions, i.origin.map (·.line) = some (1 + k : Int)) ∨
            Reported c.diagnostics (1 + k) := by
  have hone : 1 ≤ w.toNat := by
    have := one_le_of_indentWidth hwidth
    omega
  rw [value_ofLines hstrict hwidth haliases]
  constructor
  · intro hlimit hdigits
    obtain ⟨c, hc⟩ := exists_ofSource hone hdigits id
    rw [if_neg (by rintro ⟨hlarge, hlines⟩; exact hlimit.elim (by omega) hlines), hc]
    exact ⟨c, rfl⟩
  · intro c hc
    split at hc
    next => exact absurd hc (by simp)
    next =>
      have hsource : (ofSource w.toNat false false id lines).value = .ok c := by
        cases hvalue : (ofSource w.toNat false false id lines).value with
        | error e => simp [hvalue, Except.mapError] at hc
        | ok found => simpa [hvalue, Except.mapError] using hc
      obtain ⟨hstatements, hlines⟩ := accountedFor_ofSource hone hsource
      refine ⟨hstatements, fun k line hk hline => ?_⟩
      rcases hlines k line hk hline with hreported | ⟨t, ht, htline⟩
      · exact .inr hreported
      · rw [← htline]
        rcases hstatements t ht with ⟨i, hi, keyword, -, horigin⟩ | hreported
        · exact .inl ⟨i, hi, by rw [horigin]; rfl⟩
        · exact .inr hreported

/-- A conditional, a bad line with a line nested below it, a line that is no statement, and a statement
that is rejected although it is valid: three of the five have diagnostics only. -/
theorem accountedFor_menu :
    let lines := [":: if\x7bhover\x7d // text", "  :^: set // text %", "    :^: set // text", "???",
      ":: set 5 // text % \x7bcolor\x7d(red)"]
    ∃ c, (ofLines .default false "menu" lines).value = .ok c ∧
      c.instructions.map (·.origin.map (·.line)) = [some 1] ∧
      Reported c.diagnostics 2 ∧ Reported c.diagnostics 3 ∧ Reported c.diagnostics 4 ∧
      Reported c.diagnostics 5 := by
  intro lines
  have hstrict : Settings.default.strict = .ok false := by decide +kernel
  have hwidth : Settings.default.indentWidth = .ok 2 := by decide +kernel
  have haliases : Settings.default.aliases = .ok [] := by decide +kernel
  have hlength : ∀ line ∈ lines, line.toList.length ≤ digitLimit := by decide
  obtain ⟨hexists, hall⟩ := accountedFor hstrict hwidth haliases "menu" lines
  obtain ⟨c, hc⟩ := hexists (.inl (by decide)) fun line hline => .of_length_le (hlength line hline)
  have hlines : (ofLines .default false "menu" lines).value.map
      (·.instructions.map (·.origin.map (·.line))) = .ok [some 1] := by decide +kernel
  rw [hc] at hlines
  have hone : c.instructions.map (·.origin.map (·.line)) = [some 1] := Except.ok.inj hlines
  have hreported : ∀ (k : Nat) (line : String), lines[k]? = some line → Text.allBlank line = false →
      k ≠ 0 → Reported c.diagnostics (1 + k) := by
    intro k line hk hline hzero
    refine ((hall c hc).2 k line hk hline).resolve_left ?_
    rintro ⟨i, hi, horigin⟩
    have hmem := List.mem_map_of_mem (f := fun i : Instruction => i.origin.map (·.line)) hi
    rw [hone, horigin, List.mem_singleton, Option.some.injEq] at hmem
    omega
  exact ⟨c, hc, hone, hreported 1 _ rfl (by decide) (by decide),
    hreported 2 _ rfl (by decide) (by decide), hreported 3 _ rfl (by decide) (by decide),
    hreported 4 _ rfl (by decide) (by decide)⟩

end Compilation

end BlockScript
