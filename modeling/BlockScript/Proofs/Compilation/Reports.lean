import BlockScript.Proofs.Extraction.Classes
import BlockScript.Proofs.Sentence.Argument

/-!
# Compilation reports

Compiling a block ends in one of two ways. Either a statement that is left after recovery has a row of
digits that is too long to be read, and compilation fails on the first such row; or it gives a result
whose diagnostics are all those that validation, recovery and extraction have found
(`Compilation.reports_or_overflows`).
-/

namespace BlockScript

/-! ### Errors and warnings -/

namespace Statement

lemma severity_of_mem_rejections {s : Statement} {p : Problem} (h : p ∈ s.rejections) :
    p.severity = .error := by
  simp only [rejections, List.mem_append] at h
  rcases h with h | h <;> split at h <;> simp_all [Problem.severity]

lemma severity_of_mem_doubts {s : Statement} {keyword : String} {p : Problem}
    (h : p ∈ s.doubts keyword) : p.severity = .warning := by
  simp only [doubts, List.mem_append] at h
  rcases h with ((h | h) | h) | h <;> split at h <;> simp_all [Problem.severity]

end Statement

namespace Forest.Node

variable {n : Node Statement} {d : Diagnostic}

lemma isError_of_mem_errors (h : d ∈ n.errors) : d.isError = true := by
  unfold errors at h
  split at h
  next => exact absurd h List.not_mem_nil
  next =>
    obtain ⟨p, hp, rfl⟩ := List.mem_map.mp h
    exact beq_iff_eq.mpr (Statement.severity_of_mem_rejections hp)

lemma isError_of_mem_warnings (h : d ∈ n.warnings) : d.isError = false := by
  unfold warnings at h
  split at h
  next =>
    obtain ⟨_, -, rfl⟩ := Option.map_eq_some_iff.mp (Option.mem_toList.mp h)
    rfl
  next =>
    obtain ⟨p, hp, rfl⟩ := List.mem_map.mp h
    obtain ⟨_, -, hp⟩ := List.mem_flatMap.mp hp
    exact beq_eq_false_iff_ne.mpr (by simp [Diagnostic.severity, Statement.severity_of_mem_doubts hp])

end Forest.Node

namespace Recovery

lemma isError_of_mem_warnings {width : Nat} {strict : Bool} {id : String} {bad : List Int}
    {source : List String} {d : Diagnostic} (h : d ∈ (ofSource width strict id bad source).warnings) :
    d.isError = false := by
  unfold ofSource at h
  split at h
  next => exact absurd h List.not_mem_nil
  next =>
    split at h
    next => exact absurd h List.not_mem_nil
    next =>
      obtain ⟨_, -, rfl⟩ := List.mem_map.mp h
      rfl

end Recovery

namespace Grammar

/-- A line is valid iff none of its diagnostics is an error. -/
lemma valid_iff_of_mem_validateFrom {width : Nat} {stack : Stack} {start : Int} {lines : List String}
    {v : Verdict} (h : v ∈ (validateFrom width stack start lines).value.1) :
    v.valid = true ↔ ∀ d ∈ v.diagnostics, d.isError = false := by
  obtain ⟨front, line, back, -, rfl⟩ := mem_validateFrom_iff.mp h
  obtain ⟨problems, heq⟩ := exists_validate_eq width (validateFrom width stack start front).value.2
    line (start + front.length)
  rw [heq, Verdict.valid_ofProblems]
  simp only [Verdict.diagnostics, Diagnostic.sort, List.mem_mergeSort, Verdict.ofProblems]
  constructor
  · intro hall d hd
    rcases List.mem_append.mp hd with hd | hd
    · obtain ⟨p, hp, rfl⟩ := List.mem_map.mp (List.mem_filter.mp hd).1
      exact hall p hp
    · simpa using (List.mem_filter.mp hd).2
  · intro hall p hp
    have hd : (⟨p.1, start + front.length, p.2⟩ : Diagnostic) ∈
        problems.map fun p => ⟨p.1, start + front.length, p.2⟩ := List.mem_map_of_mem hp
    cases herror : (⟨p.1, start + front.length, p.2⟩ : Diagnostic).isError with
    | false => rfl
    | true =>
      rw [← hall _ (List.mem_append_left _ (List.mem_filter.mpr ⟨hd, herror⟩)), herror]

end Grammar

/-! ### Results -/

namespace Compilation

/-- The verdicts on the lines of a block. -/
def verdicts (width : Nat) (source : List String) : List Grammar.Verdict :=
  (Grammar.validateLines width source 1).value.1

/-- What is left of the lines of a block after the bad ones have been dealt with. -/
def recovery (width : Nat) (strict : Bool) (id : String) (source : List String) : Recovery :=
  .ofSource width strict id (badLines (verdicts width source)) source

/-- The statements that are extracted, in their forest. -/
def nodes (width : Nat) (r : Recovery) : List (Forest.Node Statement) :=
  (Block.ofLines width r.source).forest.nodes

/-- The rows of digits that are read when a block is compiled. -/
def numerals (nodes : List (Forest.Node Statement)) : List (List Char) :=
  (nodes.filter (·.isEmitted)).flatMap (·.item.numerals)

/-- Whether a compilation holds everything that validation, recovery and extraction have to say. -/
structure Reports (c : Compilation) (verdicts : List Grammar.Verdict) (r : Recovery)
    (nodes : List (Forest.Node Statement)) : Prop where
  diagnostics : c.diagnostics.Perm (verdicts.flatMap (·.diagnostics) ++ r.warnings ++
    nodes.flatMap (·.errors) ++ nodes.flatMap (·.warnings))
  /-- The result is valid iff all lines are, and all statements that are left can be used. -/
  valid : c.valid = true ↔
    (∀ v ∈ verdicts, v.valid = true) ∧ ∀ n ∈ nodes, n.item.isUsable = true

variable {width : Nat} {strict optimize : Bool} {id : String} {source : List String}
  {c : Compilation}

lemma valid_iff : c.valid = true ↔ ∀ d ∈ c.diagnostics, d.isError = false := by
  simp [valid, errors, List.filter_eq_nil_iff]

/-- Compiling fails as reading the rows of digits of the statements does. -/
lemma readsRows_ofSource :
    ReadsRows (numerals (nodes width (recovery width strict id source)))
      (ofSource width strict optimize id source).value := by
  intro e
  rw [numerals, nodes, ← Extraction.readsRows_ofBlock id]
  simp only [ofSource, ofVerdicts, recovery, verdicts]
  split
  next _ herror => simp [herror]
  next _ hok => simp [hok]

lemma exists_extraction (h : (ofSource width strict optimize id source).value = .ok c) :
    ∃ e, Extraction.ofBlock id (.ofLines width (recovery width strict id source).source) = .ok e ∧
      c.diagnostics.Perm ((verdicts width source).flatMap (·.diagnostics) ++
        (recovery width strict id source).warnings ++ e.errors ++ e.warnings) := by
  simp only [ofSource, ofVerdicts] at h
  split at h
  next => exact absurd h (by simp)
  next e he =>
    obtain rfl := Except.ok.inj h
    exact ⟨e, he, List.mergeSort_perm _ _⟩

/-- What compiles holds all diagnostics of all stages. -/
lemma reports_ofSource (h : (ofSource width strict optimize id source).value = .ok c) :
    c.Reports (verdicts width source) (recovery width strict id source)
      (nodes width (recovery width strict id source)) := by
  obtain ⟨e, he, hdiagnostics⟩ := exists_extraction h
  obtain ⟨herrors, hwarnings⟩ := Extraction.reports_ofBlock he
  have husable : (∀ n ∈ nodes width (recovery width strict id source), n.item.isUsable = true) ↔
      e.errors = [] := by
    rw [Extraction.errors_ofForest_iff he, ← Forest.map_item_nodesBelow [], List.forall_mem_map]
    rfl
  refine ⟨by rwa [nodes, ← herrors, ← hwarnings], ?_⟩
  rw [husable, valid_iff]
  constructor
  · intro hall
    refine ⟨fun v hv => (Grammar.valid_iff_of_mem_validateFrom hv).mpr fun d hd => ?_,
      List.eq_nil_iff_forall_not_mem.mpr fun d hd => ?_⟩
    · refine hall d (hdiagnostics.mem_iff.mpr ?_)
      have hmem : d ∈ (verdicts width source).flatMap (·.diagnostics) :=
        List.mem_flatMap.mpr ⟨v, hv, hd⟩
      simp [hmem]
    · have hfine := hall d (hdiagnostics.mem_iff.mpr (by simp [hd]))
      rw [herrors] at hd
      obtain ⟨n, -, hn⟩ := List.mem_flatMap.mp hd
      rw [Forest.Node.isError_of_mem_errors hn] at hfine
      cases hfine
  · rintro ⟨hverdicts, hnone⟩ d hd
    rw [hdiagnostics.mem_iff, hnone, List.append_nil, List.mem_append, List.mem_append] at hd
    rcases hd with (hd | hd) | hd
    · obtain ⟨v, hv, hd⟩ := List.mem_flatMap.mp hd
      exact (Grammar.valid_iff_of_mem_validateFrom hv).mp (hverdicts v hv) d hd
    · exact Recovery.isError_of_mem_warnings hd
    · rw [hwarnings] at hd
      obtain ⟨n, -, hn⟩ := List.mem_flatMap.mp hd
      exact Forest.Node.isError_of_mem_warnings hn

/-! ### Blocks with default settings -/

lemma value_ofLines_default (optimize : Bool) (id : String) (lines : List String) :
    (ofLines .default optimize id lines).value =
      (ofSource 2 false optimize id lines).value.mapError .number := by
  have hstrict : Settings.default.strict = .ok false := by decide +kernel
  have hwidth : Settings.default.indentWidth = .ok 2 := by decide +kernel
  have haliases : Settings.default.aliases = .ok [] := by decide +kernel
  rw [value_ofLines hstrict hwidth haliases, if_neg fun hlimit => absurd hlimit.1 (by decide)]
  rfl

/-- With the default settings every block, optimized or not, is compiled to a result with all
diagnostics of all stages, unless a statement has a row of digits that is too long to be read. -/
theorem reports_or_overflows (optimize : Bool) (id : String) (lines : List String) :
    let r := recovery 2 false id lines
    (∀ e, (ofLines .default optimize id lines).value = .error e ↔
      ∃ row, (numerals (nodes 2 r)).find? (digitLimit < ·.length) = some row ∧
        e = .number (.tooManyDigits row.length)) ∧
    ((∀ line ∈ lines, DigitsFit line.toList) →
      ∃ c, (ofLines .default optimize id lines).value = .ok c) ∧
    ∀ c, (ofLines .default optimize id lines).value = .ok c →
      c.Reports (verdicts 2 lines) r (nodes 2 r) := by
  intro r
  have hreads : ∀ optimize,
      ReadsRows (numerals (nodes 2 r)) (ofSource 2 false optimize id lines).value :=
    fun _ => readsRows_ofSource
  rw [value_ofLines_default]
  refine ⟨fun e => ?_, fun hdigits => ?_, fun c hc => reports_ofSource (mapError_ok_iff.mp hc)⟩
  · rw [mapError_error_iff]
    constructor
    · rintro ⟨failure, hfailure, rfl⟩
      obtain ⟨row, hrow, rfl⟩ := Option.map_eq_some_iff.mp ((hreads optimize failure).mp hfailure)
      exact ⟨row, hrow, rfl⟩
    · rintro ⟨row, hrow, rfl⟩
      have hoverflow : overflow? (numerals (nodes 2 r)) = some (.tooManyDigits row.length) :=
        Option.map_eq_some_iff.mpr ⟨row, hrow, rfl⟩
      exact ⟨_, (hreads optimize _).mpr hoverflow, rfl⟩
  · have hrows := (hreads false).exists_ok_iff.mp (exists_ofSource (by decide) hdigits id)
    obtain ⟨c, hc⟩ := (hreads optimize).exists_ok_iff.mpr hrows
    exact ⟨c, mapError_ok_iff.mpr hc⟩

/-- A number that can be read, and a statement that validation accepts but extraction rejects. -/
theorem reports_menu :
    let lines := [":: hide // text[12]", ":: set 5 // text % \x7bcolor\x7d(red)"]
    ∃ c, (ofLines .default true "menu" lines).value = .ok c ∧
      c.diagnostics = [⟨.targetLacking 2, 2, 1⟩] ∧ c.valid = false := by
  intro lines
  have hlength : ∀ line ∈ lines, line.toList.length ≤ digitLimit := by decide
  have hfound : (verdicts 2 lines).flatMap (·.diagnostics) ++
        (recovery 2 false "menu" lines).warnings ++
        (nodes 2 (recovery 2 false "menu" lines)).flatMap (·.errors) ++
        (nodes 2 (recovery 2 false "menu" lines)).flatMap (·.warnings) =
      [⟨.targetLacking 2, 2, 1⟩] := by
    decide +kernel
  have hrejected : ¬ ∀ n ∈ nodes 2 (recovery 2 false "menu" lines), n.item.isUsable = true := by
    decide +kernel
  obtain ⟨-, hfit, hreports⟩ := reports_or_overflows true "menu" lines
  obtain ⟨c, hc⟩ := hfit fun line hline => .of_length_le (hlength line hline)
  obtain ⟨hdiagnostics, hvalid⟩ := hreports c hc
  rw [hfound, List.perm_singleton] at hdiagnostics
  exact ⟨c, hc, hdiagnostics, Bool.eq_false_iff.mpr fun h => hrejected (hvalid.mp h).2⟩

/-- A number as an argument makes the whole block fail if it is too long. -/
lemma value_hideLine {digits : List Char} (h : isNumeral digits = true)
    (hlong : digitLimit < digits.length) (optimize : Bool) (id : String) :
    (ofLines .default optimize id [hideLine digits]).value =
      .error (.number (.tooManyDigits digits.length)) := by
  obtain ⟨s, hline, husable, hnumerals⟩ := Statement.exists_ofLines_hideLine h 2
  have hrecovery : recovery 2 false id [hideLine digits] = ⟨[hideLine digits], [], []⟩ := by
    rw [recovery, verdicts, Grammar.validateLines_hideLine h (by decide)]
    rfl
  have hnodes : nodes 2 (recovery 2 false id [hideLine digits]) = [⟨s, [], []⟩] := by
    rw [hrecovery, nodes, Block.ofLines, hline]
    rfl
  have hrows : numerals (nodes 2 (recovery 2 false id [hideLine digits])) = [digits] := by
    simp [hnodes, numerals, Forest.Node.isEmitted, husable, hnumerals]
  rw [value_ofLines_default, mapError_error_iff]
  refine ⟨.tooManyDigits digits.length, (readsRows_ofSource _).mpr ?_, rfl⟩
  rw [hrows, overflow?]
  simp [hlong]

/-- One line with an argument of 4301 digits: there is no result and no diagnostic. -/
theorem value_long_argument :
    (ofLines .default true "b"
        [":: hide // text[" ++ String.ofList (List.replicate 4301 '9') ++ "]"]).value =
      .error (.number (.tooManyDigits 4301)) := by
  have hlong : digitLimit < (List.replicate 4301 '9').length := by
    rw [List.length_replicate]
    decide
  have hvalue := value_hideLine (isNumeral_replicate (by decide)) hlong true "b"
  rwa [List.length_replicate] at hvalue

end Compilation

end BlockScript
