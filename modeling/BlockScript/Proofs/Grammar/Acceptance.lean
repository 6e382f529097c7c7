import BlockScript.Proofs.Digits
import BlockScript.Proofs.Grammar.Stack
import Mathlib.Data.List.Forall2

/-!
# Accepted lines

Validation looks for the operators of the first statement of a line, wherever they stand; statements
are read from left to right, and all of them. On lines without errors and unknown keywords the two
agree on a statement iff nothing is left between its declaration and its `//`
(`Statement.isUsable_ofSpan_iff`). So extraction has no errors either, as long as this holds of the first
statement of each line, and the statements that follow on the same line, which validation passes over,
can be used (`Extraction.errors_ofBlock_iff`).
-/

namespace BlockScript

/-! ### Accepted lines -/

namespace Grammar

/-- Whether a problem is neither an error nor an unknown keyword. -/
structure Harmless (p : Problem) : Prop where
  severity : p.severity = .warning
  known : ∀ name, p ≠ .unknownKeyword name

/-- Whether a line has no errors and all keywords that were checked on it are known. -/
structure Verdict.Accepted (v : Verdict) : Prop where
  valid : v.valid = true
  known : ∀ w ∈ v.warnings, ∀ name, w.problem ≠ .unknownKeyword name

lemma Verdict.Accepted.harmless {line : Int} {problems : List (Problem × Nat)}
    (h : (Verdict.ofProblems line problems).Accepted) : ∀ p ∈ problems, Harmless p.1 := by
  intro p hp
  have herror := Verdict.valid_ofProblems.mp h.valid p hp
  have hwarning : p.1.severity = .warning := by
    cases hs : p.1.severity with
    | warning => rfl
    | error => simp [Diagnostic.isError, Diagnostic.severity, hs] at herror
  refine ⟨hwarning, h.known ⟨p.1, line, p.2⟩ ?_⟩
  refine List.mem_filter.mpr ⟨List.mem_map.mpr ⟨p, hp, rfl⟩, ?_⟩
  rw [herror]
  rfl

lemma Verdict.Accepted.of_nil {v : Verdict} (herrors : v.errors = []) (hwarnings : v.warnings = []) :
    v.Accepted :=
  ⟨by rw [Verdict.valid, herrors]; rfl, by simp [hwarnings]⟩

/-- On an accepted line that is not blank, a span comes first, and it has only harmless problems. -/
lemma exists_span_of_accepted {width : Nat} (hwidth : 1 ≤ width) {stack : Stack} {line : String}
    {number : Int} (hblank : Text.allBlank line = false)
    (h : (validate width stack line number).value.1.Accepted) :
    ∃ span others, Span.split (Token.scan width number line) = span :: others ∧
      ∀ p ∈ checkDeclaration span.opener span.body ++ checkZones (keywordOf span.body) span.body,
        Harmless p.1 := by
  rw [validate_of_not_allBlank hblank hwidth] at h
  have hproblems := h.harmless
  rcases checkLine_split width line number with hjunk | ⟨span, others, hsplit, hcheck⟩
  · obtain ⟨column, hcolumn⟩ := (hjunk stack).2
    exact Severity.noConfusion (hproblems _ hcolumn).severity
  · refine ⟨span, others, hsplit, fun p hp => hproblems p ?_⟩
    rw [hcheck, checkSpan]
    simp only [List.mem_append] at hp ⊢
    tauto

/-! ### What a statement that passes has -/

end Grammar

lemma Keyword.needs_target {name : String} (h : isKnown name = true) :
    needs name .target = true := by
  have hall : ∀ k ∈ table, k.requires .target = true := by decide
  obtain ⟨k, hk⟩ := Option.isSome_iff_exists.mp h
  rw [needs, hk, Option.any_some]
  exact hall k (List.mem_of_find?_eq_some hk)

namespace Grammar

variable {opener : Token} {body : List Token}

/-- A declaration that passes starts with a known keyword, and `if` has its block. -/
lemma declaration_of_harmless (h : ∀ p ∈ checkDeclaration opener body, Harmless p.1) :
    ∃ t rest, body = t :: rest ∧ t.kind = .identifier ∧ Keyword.isKnown (Text.lower t.value) = true ∧
      (Text.lower t.value = Keyword.conditional →
        ∃ block more, rest = block :: more ∧ block.kind = .actionBlock) := by
  cases body with
  | nil => exact Severity.noConfusion (h _ List.mem_cons_self).severity
  | cons t rest =>
    rw [checkDeclaration] at h
    by_cases hkind : t.kind = .identifier
    · simp only [hkind, ne_eq, not_true_eq_false, if_false] at h
      refine ⟨t, rest, rfl, hkind, ?_, fun hconditional => ?_⟩
      · by_contra hunknown
        rw [if_neg hunknown] at h
        exact (h _ List.mem_cons_self).known _ rfl
      · by_contra hblock
        refine Severity.noConfusion (h (.conditionalWithoutBlock, t.column) ?_).severity
        refine List.mem_append_right _ ?_
        rw [if_pos]
        · exact List.mem_cons_self
        · refine ⟨hconditional, ?_⟩
          cases rest with
          | nil => rfl
          | cons b more => simpa using fun hb => hblock ⟨b, more, rfl, hb⟩
    · rw [if_pos hkind] at h
      exact Severity.noConfusion (h _ List.mem_cons_self).severity

/-- Zones that pass hold a `//` with an identifier or a string right behind it. -/
lemma target_of_harmless {name : String} (hknown : Keyword.isKnown name = true)
    (h : ∀ p ∈ checkZones (some name) body, Harmless p.1) :
    ∃ r function rest, splitAt? .relation body = some (r, function :: rest) ∧
      (function.kind = .identifier ∨ function.kind = .string) := by
  rw [checkZones] at h
  simp only [List.forall_mem_append] at h
  obtain ⟨⟨⟨-, htarget⟩, -⟩, -⟩ := h
  cases hrelation : splitAt? .relation body with
  | none =>
    simp only [hrelation, checkPresence, Keyword.needs_target hknown, if_true] at htarget
    exact Severity.noConfusion (htarget _ List.mem_cons_self).severity
  | some found =>
    obtain ⟨r, rest⟩ := found
    simp only [hrelation] at htarget
    by_cases hfunction : (rest.head?.any fun t => t.kind == .identifier || t.kind == .string) = true
    · obtain ⟨function, hhead, hkind⟩ := (Option.any_eq_true _ _).mp hfunction
      obtain ⟨more, rfl⟩ := List.head?_eq_some_iff.mp hhead
      exact ⟨r, function, more, rfl, by simpa using hkind⟩
    · rw [if_neg hfunction] at htarget
      exact Severity.noConfusion (htarget _ List.mem_cons_self).severity

end Grammar

/-! ### What is read of it -/

lemma Text.lower_ne_empty {s : String} (h : s ≠ "") : lower s ≠ "" := by
  rw [lower, ne_eq, String.ofList_eq_empty_iff]
  cases hs : s.toList with
  | nil => exact absurd (String.toList_eq_nil_iff.mp hs) h
  | cons c cs =>
    rw [lowerFrom]
    simp only [List.append_eq_nil_iff, not_and]
    intro hlow
    split at hlow
    · exact absurd hlow (List.cons_ne_nil _ _)
    · split at hlow <;> exact absurd hlow (List.cons_ne_nil _ _)

/-- What stands between the keyword of a statement and its first `//`, apart from the block of a
conditional and from variables. -/
def strays (body : List Token) : List Token :=
  let between := (body.drop 1).takeWhile (·.kind ≠ .relation)
  (if Grammar.keywordOf body = some Keyword.conditional then between.drop 1 else between).filter
    (·.kind ≠ .variableBlock)

/-- The token right behind the first `//` of a statement. -/
def functionToken? (body : List Token) : Option Token :=
  (splitAt? .relation body).bind (·.2.head?)

namespace Statement

/-- Behind some variables, the target zone is read iff nothing else stands in front of it. -/
lemma readZone_relation {ts after : List Token} {r : Token} (stops : List TokenKind)
    (h : splitAt? .relation ts = some (r, after)) :
    (readZone .relation stops (ts.dropWhile (·.kind == .variableBlock))).1 =
      if (ts.takeWhile (·.kind ≠ .relation)).filter (·.kind ≠ .variableBlock) = [] then
        some (after.takeWhile (!stops.contains ·.kind))
      else none := by
  induction ts with
  | nil => simp [splitAt?] at h
  | cons t ts ih =>
    rw [splitAt?] at h
    by_cases hrelation : t.kind = .relation
    · rw [if_pos hrelation] at h
      cases h
      simp [readZone, hrelation]
    · rw [if_neg hrelation] at h
      by_cases hvariable : t.kind = .variableBlock
      · simpa [hvariable] using ih h
      · simp [readZone, hrelation, hvariable]

/-- A declaration takes the keyword, the block of a conditional, and the variables behind. -/
lemma readDeclaration_cons {t : Token} (ht : t.kind = .identifier) (ts : List Token) :
    (readDeclaration (t :: ts)).2 =
      (if Text.lower t.value = Keyword.conditional then (readCondition ts).2 else ts).dropWhile
        (·.kind == .variableBlock) := by
  simp only [readDeclaration, if_pos ht]
  split <;> rfl

lemma keyword_ofSpan (width : Nat) (span : Span) :
    (ofSpan width span).keyword = Grammar.keywordOf span.body := by
  change (readDeclaration span.body).1.keyword = _
  cases span.body with
  | nil => rfl
  | cons t ts =>
    rw [readDeclaration, Grammar.keywordOf]
    split <;> rfl

lemma target_ofSpan (width : Nat) (span : Span) :
    (ofSpan width span).target =
      (readZone .relation [.parameter, .trigger] (readDeclaration span.body).2).1.map targetOf :=
  rfl

/-- A target that starts with a function has it. -/
lemma function_targetOf {function : Token} (rest : List Token)
    (hkind : function.kind = .identifier ∨ function.kind = .string) (hvalue : function.value ≠ "") :
    (targetOf (function :: rest)).function ≠ "" := by
  rcases hkind with hkind | hkind
  · simpa [targetOf, readFunction, hkind] using Text.lower_ne_empty hvalue
  · simpa [targetOf, readFunction, hkind] using hvalue

/-- Up to its `//`, what a statement that passes holds behind its declaration are the strays and the
variables among them. -/
lemma readDeclaration_of_harmless {opener t : Token} {ts after : List Token} {r : Token}
    (h : ∀ p ∈ Grammar.checkDeclaration opener (t :: ts), Grammar.Harmless p.1)
    (hrelation : splitAt? .relation (t :: ts) = some (r, after)) :
    ∃ left, (readDeclaration (t :: ts)).2 = left.dropWhile (·.kind == .variableBlock) ∧
      splitAt? .relation left = some (r, after) ∧
      strays (t :: ts) = (left.takeWhile (·.kind ≠ .relation)).filter (·.kind ≠ .variableBlock) := by
  obtain ⟨_, _, hbody, hkind, -, hblock⟩ := Grammar.declaration_of_harmless h
  cases hbody
  rw [splitAt?, if_neg (by simp [hkind])] at hrelation
  rw [readDeclaration_cons hkind]
  by_cases hconditional : Text.lower t.value = Keyword.conditional
  · obtain ⟨block, more, rfl, hkindBlock⟩ := hblock hconditional
    rw [splitAt?, if_neg (by simp [hkindBlock])] at hrelation
    refine ⟨more, ?_, hrelation, ?_⟩
    · rw [if_pos hconditional, readCondition, if_pos hkindBlock]
    · simp [strays, Grammar.keywordOf, hkind, hconditional, hkindBlock]
  · refine ⟨ts, by rw [if_neg hconditional], hrelation, ?_⟩
    simp [strays, Grammar.keywordOf, hkind, hconditional]

/-- A statement that passes, and whose function is not the empty string, can be used iff its target
stands right behind its declaration. -/
theorem isUsable_ofSpan_iff (width : Nat) {span : Span}
    (h : ∀ p ∈ Grammar.checkDeclaration span.opener span.body ++
      Grammar.checkZones (Grammar.keywordOf span.body) span.body, Grammar.Harmless p.1)
    (hfunction : ∀ t ∈ functionToken? span.body, t.value ≠ "") :
    (ofSpan width span).isUsable = true ↔ strays span.body = [] := by
  obtain ⟨hdeclaration, hzones⟩ := List.forall_mem_append.mp h
  obtain ⟨t, ts, hbody, hkind, hknown, -⟩ := Grammar.declaration_of_harmless hdeclaration
  have hkeyword : Grammar.keywordOf span.body = some (Text.lower t.value) := by
    rw [hbody, Grammar.keywordOf, if_pos hkind]
  rw [hkeyword] at hzones
  obtain ⟨r, function, rest, hrelation, hkinds⟩ := Grammar.target_of_harmless hknown hzones
  have hvalue : function.value ≠ "" := hfunction function (by simp [functionToken?, hrelation])
  -- the `//` that validation has found is the first one behind the declaration, too
  have htarget : (ofSpan width span).target =
      if strays span.body = [] then
        some (targetOf (function :: rest.takeWhile
          (!([.parameter, .trigger] : List TokenKind).contains ·.kind)))
      else none := by
    rw [hbody] at hdeclaration hrelation
    obtain ⟨left, hleft, hsplit, hstrays⟩ := readDeclaration_of_harmless hdeclaration hrelation
    rw [target_ofSpan, hbody, hleft, readZone_relation _ hsplit, hstrays]
    split
    · rcases hkinds with hkinds | hkinds <;> simp [hkinds]
    · rfl
  constructor
  · intro husable
    obtain ⟨⟨keyword, target⟩, hsome⟩ := Option.isSome_iff_exists.mp husable
    by_contra hstrays
    rw [if_neg hstrays] at htarget
    exact Option.some_ne_none _ ((usable?_eq_some_iff.mp hsome).2.1.symm.trans htarget)
  · intro hstrays
    rw [if_pos hstrays] at htarget
    have hsome := usable?_eq_some_iff.mpr ⟨(keyword_ofSpan width span).trans hkeyword, htarget,
      function_targetOf _ hkinds hvalue⟩
    exact Option.isSome_iff_exists.mpr ⟨_, hsome⟩

end Statement

/-! ### Lines -/

/-- The spans of every line, of lines numbered from `start`. -/
def Span.ofLinesFrom (width : Nat) (start : Int) : List String → List (List Span)
  | [] => []
  | text :: rest => split (Token.scan width start text) :: ofLinesFrom width (start + 1) rest

/-- Whether the target of the first statement of a line stands right behind its declaration, and the
other statements of the line have a keyword and a target. -/
structure Complete (width : Nat) (spans : List Span) : Prop where
  first : ∀ s ∈ spans.head?, strays s.body = []
  others : ∀ s ∈ spans.tail, (Statement.ofSpan width s).isUsable = true

instance (width : Nat) (spans : List Span) : Decidable (Complete width spans) :=
  decidable_of_iff ((∀ s ∈ spans.head?, strays s.body = []) ∧
    ∀ s ∈ spans.tail, (Statement.ofSpan width s).isUsable = true)
    ⟨fun h => ⟨h.1, h.2⟩, fun h => ⟨h.first, h.others⟩⟩

/-- On accepted lines, all statements can be used iff every line is complete. -/
lemma Statement.forall_isUsable_iff {width : Nat} (hwidth : 1 ≤ width) {stack : Grammar.Stack}
    {start : Int} {lines : List String}
    (haccepted : ∀ v ∈ (Grammar.validateFrom width stack start lines).value.1, v.Accepted)
    (hfunction : ∀ spans ∈ Span.ofLinesFrom width start lines, ∀ s ∈ spans.head?,
      ∀ t ∈ functionToken? s.body, t.value ≠ "") :
    (∀ s ∈ ofLinesFrom width start lines, s.isUsable = true) ↔
      ∀ spans ∈ Span.ofLinesFrom width start lines, Complete width spans := by
  induction lines generalizing stack start with
  | nil => simp [ofLinesFrom, Span.ofLinesFrom]
  | cons line lines ih =>
    rw [Grammar.validateFrom_cons, List.forall_mem_cons] at haccepted
    rw [Span.ofLinesFrom, List.forall_mem_cons] at hfunction
    rw [ofLinesFrom, Span.ofLinesFrom, List.forall_mem_append, List.forall_mem_cons,
      ih haccepted.2 hfunction.2]
    refine and_congr_left fun _ => ?_
    cases hblank : Text.allBlank line with
    | true =>
      have hnone : ofLine width start line = [] := ofLine_of_allBlank hblank
      rw [hnone]
      rw [ofLine, List.map_eq_nil_iff] at hnone
      rw [hnone]
      exact ⟨fun _ => ⟨by simp, by simp⟩, by simp⟩
    | false =>
      obtain ⟨span, others, hsplit, hharmless⟩ :=
        Grammar.exists_span_of_accepted hwidth hblank haccepted.1
      have hfirst := hfunction.1
      rw [hsplit] at hfirst
      rw [ofLine, hsplit, List.map_cons, List.forall_mem_cons, List.forall_mem_map,
        isUsable_ofSpan_iff width hharmless (hfirst span rfl)]
      exact ⟨fun h => ⟨by simpa using h.1, h.2⟩, fun h => ⟨h.first span rfl, h.others⟩⟩

/-! ### Blocks -/

namespace Extraction

/-- Extraction of lines that are accepted, whose numbers can be read, and whose targets are not empty
strings, reports an error iff a line is not complete. Otherwise every statement has its keyword, its
function and its instruction, and none is skipped. -/
theorem errors_ofBlock_iff {width : Nat} (hwidth : 1 ≤ width) {lines : List String}
    (haccepted : ∀ v ∈ (Grammar.validateLines width lines 1).value.1, v.Accepted)
    (hdigits : ∀ line ∈ lines, DigitsFit line.toList)
    (hfunction : ∀ spans ∈ Span.ofLinesFrom width 1 lines, ∀ s ∈ spans.head?,
      ∀ t ∈ functionToken? s.body, t.value ≠ "") (id : String) :
    ∃ e, ofBlock id (.ofLines width lines) = .ok e ∧
      (e.errors = [] ↔ ∀ spans ∈ Span.ofLinesFrom width 1 lines, Complete width spans) ∧
      (e.errors = [] →
        (∀ s ∈ Statement.ofLines width lines, ∃ keyword target, s.keyword = some keyword ∧
          s.target = some target ∧ target.function ≠ "") ∧
        List.Forall₂ (fun n i => n.instruction? id = .ok (some i))
          (Block.ofLines width lines).forest.nodes e.instructions ∧
        ∀ w ∈ e.warnings, ∀ line parent, w.problem ≠ .parentRejected line parent) := by
  obtain ⟨e, he⟩ := exists_ofBlock id (.ofLines width lines) fun s hs =>
    Statement.numbersFit_of_mem_ofLinesFrom hwidth hdigits hs
  have hwalk : (Block.ofLines width lines).forest.walk = Statement.ofLines width lines :=
    Forest.walk_ofList _
  have herrors := errors_ofForest_iff he
  refine ⟨e, he, ?_, fun hnone => ⟨?_, ?_, not_skipped_of_errors he hnone⟩⟩
  · rw [herrors, hwalk]
    exact Statement.forall_isUsable_iff hwidth haccepted hfunction
  · intro s hs
    rw [herrors, hwalk] at hnone
    obtain ⟨⟨keyword, target⟩, hsome⟩ := Option.isSome_iff_exists.mp (hnone s hs)
    exact ⟨keyword, target, Statement.usable?_eq_some_iff.mp hsome⟩
  · refine forall₂_of_gather (gather_of_ofBlock he) fun n hn => List.all_eq_true.mpr ?_
    exact Forest.forall_ancestors (by simp) (herrors.mp hnone) n hn

/-- A conditional with a variable and a further statement on its line, and below it a string for a
target: everything is extracted. -/
theorem errors_ofBlock_variable :
    let lines := [":: if\x7bhover\x7d[card] // text :: reveal // line",
      "  :^: set // \"page\" % \x7bcolor\x7d(red)"]
    (∀ v ∈ (Grammar.validateLines 2 lines 1).value.1, v.Accepted) ∧
      (∀ line ∈ lines, DigitsFit line.toList) ∧
      (∀ spans ∈ Span.ofLinesFrom 2 1 lines, ∀ s ∈ spans.head?,
        ∀ t ∈ functionToken? s.body, t.value ≠ "") ∧
      ∃ e, ofBlock "menu" (.ofLines 2 lines) = .ok e ∧ e.errors = [] ∧
        List.Forall₂ (fun n i => n.instruction? "menu" = .ok (some i))
          (Block.ofLines 2 lines).forest.nodes e.instructions := by
  intro lines
  have hempty : ∀ v ∈ (Grammar.validateLines 2 lines 1).value.1, v.errors = [] ∧ v.warnings = [] := by
    decide +kernel
  have haccepted : ∀ v ∈ (Grammar.validateLines 2 lines 1).value.1, v.Accepted :=
    fun v hv => .of_nil (hempty v hv).1 (hempty v hv).2
  have hlength : ∀ line ∈ lines, line.toList.length ≤ digitLimit := by decide
  have hdigits : ∀ line ∈ lines, DigitsFit line.toList :=
    fun line hline => .of_length_le (hlength line hline)
  have hfunction : ∀ spans ∈ Span.ofLinesFrom 2 1 lines, ∀ s ∈ spans.head?,
      ∀ t ∈ functionToken? s.body, t.value ≠ "" := by
    decide +kernel
  have hcomplete : ∀ spans ∈ Span.ofLinesFrom 2 1 lines, Complete 2 spans := by decide +kernel
  obtain ⟨e, he, herrors, hextracted⟩ :=
    errors_ofBlock_iff (by decide) haccepted hdigits hfunction "menu"
  have hnone := herrors.mpr hcomplete
  exact ⟨haccepted, hdigits, hfunction, e, he, hnone, (hextracted hnone).2.1⟩

/-- A number in front of the target and a further statement without a target are accepted, but nothing
can be extracted from the two statements. -/
theorem errors_ofBlock_stray :
    let stray := [":: set 5 // text % \x7bcolor\x7d(red)"]
    let further := [":: hide // text :: reveal"]
    (∀ v ∈ (Grammar.validateLines 2 stray 1).value.1, v.Accepted) ∧
      (fun e => (e.instructions, e.errors)) <$> ofBlock "menu" (.ofLines 2 stray) =
        .ok ([], [⟨.targetLacking 1, 1, 1⟩]) ∧
      (∀ v ∈ (Grammar.validateLines 2 further 1).value.1, v.Accepted) ∧
      (·.errors) <$> ofBlock "menu" (.ofLines 2 further) = .ok [⟨.targetLacking 1, 1, 17⟩] := by
  intro stray further
  have hstray : ∀ v ∈ (Grammar.validateLines 2 stray 1).value.1, v.errors = [] ∧ v.warnings = [] := by
    decide +kernel
  have hfurther : ∀ v ∈ (Grammar.validateLines 2 further 1).value.1,
      v.errors = [] ∧ v.warnings = [] := by
    decide +kernel
  refine ⟨fun v hv => .of_nil (hstray v hv).1 (hstray v hv).2, by decide +kernel, ?_,
    by decide +kernel⟩
  exact fun v hv => .of_nil (hfurther v hv).1 (hfurther v hv).2

end Extraction

end BlockScript
