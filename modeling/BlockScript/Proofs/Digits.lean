import BlockScript.Proofs.Entries
import BlockScript.Proofs.Lines
import BlockScript.Proofs.Numerals
import BlockScript.Proofs.Token.Spans

/-!
# Rows of digits

Whatever a statement reads as a number is a row of digits in its line. So extraction succeeds on lines
in which no row of digits is too long to be read.
-/

namespace BlockScript

/-- Whether every row of digits in a text is short enough to be read. -/
def DigitsFit (cs : List Char) : Prop :=
  ∀ ds, ds <:+: cs → (∀ d ∈ ds, Text.isDigit d = true) → ds.length ≤ digitLimit

lemma DigitsFit.mono {cs ds : List Char} (h : DigitsFit cs) (hds : ds <:+: cs) : DigitsFit ds :=
  fun row hrow => h row (hrow.trans hds)

lemma DigitsFit.of_length_le {cs : List Char} (h : cs.length ≤ digitLimit) : DigitsFit cs :=
  fun _ hrow _ => hrow.length_le.trans h

/-! ### Tabs -/

namespace Text

lemma infix_of_replicate_append {n : Nat} {ds cs : List Char}
    (hds : ∀ d ∈ ds, isDigit d = true) (h : ds <:+: List.replicate n ' ' ++ cs) : ds <:+: cs := by
  induction n with
  | zero => exact h
  | succ n ih =>
    rcases List.infix_cons_iff.mp h with h | h
    · cases ds with
      | nil => exact List.nil_infix
      | cons d ds =>
        obtain ⟨rfl, -⟩ := List.cons_prefix_cons.mp h
        exact absurd (hds ' ' List.mem_cons_self) (by decide)
    · exact ih h

/-- Each character stays as it is, but a tab becomes spaces, at least one. -/
lemma expandTabsFrom_cons {width : Nat} (hwidth : 1 ≤ width) (column : Nat) (c : Char)
    (cs : List Char) :
    ∃ next, expandTabsFrom width column (c :: cs) = c :: expandTabsFrom width next cs ∨
      ∃ n, expandTabsFrom width column (c :: cs) =
        List.replicate (n + 1) ' ' ++ expandTabsFrom width next cs := by
  by_cases htab : c = '\t'
  · subst htab
    have hgap : width - column % width = (width - column % width - 1) + 1 := by
      have := Nat.mod_lt column hwidth
      omega
    refine ⟨column + (width - column % width), .inr ⟨width - column % width - 1, ?_⟩⟩
    rw [expandTabsFrom, if_neg (by omega), ← hgap]
  · rw [expandTabsFrom.eq_3 width column c cs htab]
    split
    · exact ⟨0, .inl rfl⟩
    · exact ⟨column + 1, .inl rfl⟩

lemma prefix_of_expandTabsFrom {width : Nat} (hwidth : 1 ≤ width) {column : Nat}
    {ds cs : List Char} (hds : ∀ d ∈ ds, isDigit d = true)
    (h : ds <+: expandTabsFrom width column cs) : ds <+: cs := by
  match ds, cs with
  | [], _ => exact List.nil_prefix
  | d :: ds, [] => simp [expandTabsFrom] at h
  | d :: ds, c :: cs =>
    obtain ⟨next, heq | ⟨n, heq⟩⟩ := expandTabsFrom_cons hwidth column c cs
    · rw [heq] at h
      obtain ⟨rfl, htail⟩ := List.cons_prefix_cons.mp h
      have hrest := fun b hb => hds b (List.mem_cons_of_mem d hb)
      exact List.cons_prefix_cons.mpr ⟨rfl, prefix_of_expandTabsFrom hwidth hrest htail⟩
    · rw [heq, List.replicate_succ, List.cons_append] at h
      obtain ⟨rfl, -⟩ := List.cons_prefix_cons.mp h
      exact absurd (hds ' ' List.mem_cons_self) (by decide)

/-- The rows of digits of a line are not made longer by expanding its tabs. -/
lemma infix_of_expandTabsFrom {width : Nat} (hwidth : 1 ≤ width) {column : Nat}
    {ds cs : List Char} (hds : ∀ d ∈ ds, isDigit d = true)
    (h : ds <:+: expandTabsFrom width column cs) : ds <:+: cs := by
  induction cs generalizing column with
  | nil => exact h
  | cons c cs ih =>
    obtain ⟨next, heq | ⟨n, heq⟩⟩ := expandTabsFrom_cons hwidth column c cs
    · rcases List.infix_cons_iff.mp (heq ▸ h) with hfront | hrest
      · exact (prefix_of_expandTabsFrom hwidth hds (heq ▸ hfront)).isInfix
      · exact List.infix_cons (ih hrest)
    · exact List.infix_cons (ih (infix_of_replicate_append hds (heq ▸ h)))

end Text

lemma DigitsFit.expandTabs {width : Nat} (hwidth : 1 ≤ width) {line : String}
    (h : DigitsFit line.toList) : DigitsFit (Text.expandTabs width line) :=
  fun ds hds hdigits => h ds (Text.infix_of_expandTabsFrom hwidth hdigits hds) hdigits

/-! ### Tokens -/

lemma Token.value_infix_of_mem_scanFrom {line : Int} {offset : Nat} {cs : List Char} {t : Token}
    (h : t ∈ scanFrom line offset cs) : t.value.toList <:+: cs := by
  fun_induction scanFrom line offset cs with
  | case1 => simp at h
  | case2 offset c cs l hl ih =>
    rcases List.mem_cons.mp h with rfl | h
    · simpa using (Lexeme.next_of_first?_eq_some hl).infix_value
    · exact List.infix_cons ((ih h).trans (List.drop_suffix _ _).isInfix)
  | case3 offset c cs _ ih => exact List.infix_cons (ih h)

lemma Text.trim_infix (s : String) : (trim s).toList <:+: s.toList := by
  rw [trim, String.toList_ofList]
  exact (prefix_of_trimRight _).isInfix.trans (List.dropWhile_suffix _).isInfix

namespace Statement

/-! ### What statements read -/

lemma subset_readFunction {ts rest : List Token} {function : String}
    (h : readFunction ts = some (function, rest)) : rest ⊆ ts := by
  induction ts with
  | nil => simp [readFunction] at h
  | cons t ts ih =>
    rw [readFunction] at h
    split at h
    · cases h
      exact List.subset_cons_self _ _
    · split at h
      · cases h
        exact List.subset_cons_self _ _
      · exact fun x hx => List.mem_cons_of_mem t (ih h hx)

lemma mem_of_splitAt? {kind : TokenKind} {ts rest : List Token} {t : Token}
    (h : splitAt? kind ts = some (t, rest)) : t ∈ ts ∧ t.kind = kind := by
  induction ts with
  | nil => simp [splitAt?] at h
  | cons o ts ih =>
    rw [splitAt?] at h
    split at h
    next hkind =>
      cases h
      exact ⟨List.mem_cons_self, hkind⟩
    next => exact (ih h).imp_left (List.mem_cons_of_mem o)

lemma argument_targetOf {zone : List Token} {argument : String}
    (h : (targetOf zone).argument = some argument) :
    ∃ t ∈ zone, t.kind = .variableBlock ∧ Text.trim t.value = argument := by
  unfold targetOf at h
  split at h
  next => simp at h
  next function rest hfunction =>
    obtain ⟨⟨t, after⟩, hsplit, rfl⟩ := Option.map_eq_some_iff.mp h
    obtain ⟨ht, hkind⟩ := mem_of_splitAt? hsplit
    exact ⟨t, subset_readFunction hfunction ht, hkind, rfl⟩

lemma option_of_mem_readActions {ts : List Token} {name option : String}
    (h : (name, some option) ∈ readActions ts) : ∃ t ∈ ts, Text.trim t.value = option := by
  fun_induction readActions ts with
  | case1 => simp at h
  | case2 t _ => simp at h
  | case3 t _ o rest _ ih =>
    rcases List.mem_cons.mp h with h | h
    · cases h
      exact ⟨o, by simp, rfl⟩
    · obtain ⟨u, hu, rfl⟩ := ih h
      exact ⟨u, by simp [hu], rfl⟩
  | case4 t _ o rest _ ih =>
    rcases List.mem_cons.mp h with h | h
    · simp at h
    · obtain ⟨u, hu, rfl⟩ := ih h
      exact ⟨u, List.mem_cons_of_mem t hu, rfl⟩
  | case5 t ts _ ih =>
    obtain ⟨u, hu, rfl⟩ := ih h
    exact ⟨u, List.mem_cons_of_mem t hu, rfl⟩

lemma option_effectOf {zone : List Token} {option : String}
    (h : option ∈ (effectOf zone).parameters.map (·.2)) :
    ∃ t ∈ zone, Text.trim t.value = option := by
  obtain ⟨⟨name, _⟩, hpair, rfl⟩ := List.mem_map.mp (Entries.mem_values_ofPairs h)
  obtain ⟨⟨action, found⟩, haction, hfound⟩ := List.mem_filterMap.mp hpair
  obtain ⟨_, hsome, hname⟩ := Option.map_eq_some_iff.mp hfound
  cases hname
  exact option_of_mem_readActions (hsome ▸ haction)

/-- The tokens of the target zone of a span. -/
def targetZone? (span : Span) : Option (List Token) :=
  (readZone .relation [.parameter, .trigger] (readDeclaration span.body).2).1

/-- The tokens of the effect zone of a span. -/
def effectZone? (span : Span) : Option (List Token) :=
  let target := readZone .relation [.parameter, .trigger] (readDeclaration span.body).2
  (readZone .parameter [.trigger] target.2).1

lemma subset_targetZone? {span : Span} {zone : List Token} (h : targetZone? span = some zone) :
    zone ⊆ span.body :=
  List.Subset.trans ((subset_readZone _ _ _).1 zone h) (subset_readDeclaration span.body)

lemma subset_effectZone? {span : Span} {zone : List Token} (h : effectZone? span = some zone) :
    zone ⊆ span.body := by
  have htarget := (subset_readZone .relation [.parameter, .trigger] (readDeclaration span.body).2).2
  have hrest := List.Subset.trans htarget (subset_readDeclaration span.body)
  exact List.Subset.trans ((subset_readZone .parameter [.trigger] _).1 zone h) hrest

/-- The zones of a statement are read from the tokens of its span. -/
lemma zones_ofSpan (width : Nat) (span : Span) :
    (∀ z ∈ (ofSpan width span).target, ∃ zone ⊆ span.body, targetOf zone = z) ∧
      ∀ z ∈ (ofSpan width span).effect, ∃ zone ⊆ span.body, effectOf zone = z := by
  constructor
  · rintro z hz
    obtain ⟨zone, hzone, rfl⟩ := Option.map_eq_some_iff.mp hz
    exact ⟨zone, subset_targetZone? hzone, rfl⟩
  · rintro z hz
    obtain ⟨zone, hzone, rfl⟩ := Option.map_eq_some_iff.mp hz
    exact ⟨zone, subset_effectZone? hzone, rfl⟩

/-- Whether the numbers of a statement, in its argument and its options, can be read. -/
structure NumbersFit (s : Statement) : Prop where
  argument : ∀ z ∈ s.target, ∀ a ∈ z.argument, DigitsFit a.toList
  options : ∀ z ∈ s.effect, ∀ o ∈ z.parameters.map (·.2), DigitsFit o.toList

lemma numbersFit_of_mem_ofLine {width : Nat} (hwidth : 1 ≤ width) {line : Int} {text : String}
    (hdigits : DigitsFit text.toList) {s : Statement} (h : s ∈ ofLine width line text) :
    s.NumbersFit := by
  obtain ⟨span, hspan, rfl⟩ := List.mem_map.mp h
  have hvalue : ∀ t ∈ span.body, DigitsFit (Text.trim t.value).toList := by
    intro t ht
    have hscan := Token.value_infix_of_mem_scanFrom (Span.body_subset_of_mem_split hspan ht)
    exact (hdigits.expandTabs hwidth).mono ((Text.trim_infix t.value).trans hscan)
  obtain ⟨htarget, heffect⟩ := zones_ofSpan width span
  constructor
  · intro z hz a ha
    obtain ⟨zone, hzone, rfl⟩ := htarget z hz
    obtain ⟨t, ht, -, rfl⟩ := argument_targetOf ha
    exact hvalue t (hzone ht)
  · intro z hz o ho
    obtain ⟨zone, hzone, rfl⟩ := heffect z hz
    obtain ⟨t, ht, rfl⟩ := option_effectOf ho
    exact hvalue t (hzone ht)

lemma numbersFit_of_mem_ofLinesFrom {width : Nat} (hwidth : 1 ≤ width) {start : Int}
    {lines : List String} (hdigits : ∀ text ∈ lines, DigitsFit text.toList) {s : Statement}
    (h : s ∈ ofLinesFrom width start lines) : s.NumbersFit := by
  obtain ⟨text, htext, line, hline⟩ := exists_mem_ofLine h
  exact numbersFit_of_mem_ofLine hwidth (hdigits text htext) hline

end Statement

/-! ### Rows that are read -/

lemma DigitsFit.length_le {cs ds : List Char} (h : DigitsFit cs) (hds : ds <:+: cs)
    (hnumeral : isNumeral ds = true) : ds.length ≤ digitLimit :=
  h ds hds (isDigit_of_isNumeral hnumeral)

namespace Selector

lemma infix_of_rangeDigits? {cs first last : List Char} (h : rangeDigits? cs = some (first, last)) :
    (first <:+: cs ∧ ∀ d ∈ first, Text.isDigit d = true) ∧ last <:+: cs ∧ isNumeral last = true := by
  simp only [rangeDigits?] at h
  split at h
  next rest hrest =>
    split at h
    next hlast =>
      cases h
      have hsuffix := List.dropWhile_suffix (l := cs) Text.isDigit
      rw [hrest] at hsuffix
      rw [Bool.and_eq_true] at hlast
      exact ⟨⟨(List.takeWhile_prefix _).isInfix, fun d hd => List.mem_takeWhile_imp hd⟩,
        ((List.suffix_cons _ _).trans hsuffix).isInfix, hlast.2⟩
    next => simp at h
  next => simp at h

lemma length_le_of_mem_numerals {argument : String} (h : DigitsFit argument.toList) :
    ∀ row ∈ numerals argument, row.length ≤ digitLimit := by
  simp only [numerals]
  split
  next hnumeral => exact List.forall_mem_singleton.mpr (h.length_le List.infix_rfl hnumeral)
  next =>
    split
    next first last hrange =>
      obtain ⟨⟨hfirst, hdigits⟩, hlast, hnumeral⟩ := infix_of_rangeDigits? hrange
      exact List.forall_mem_cons.mpr ⟨h first hfirst hdigits,
        List.forall_mem_singleton.mpr (h.length_le hlast hnumeral)⟩
    next => exact List.forall_mem_nil _

end Selector

lemma length_le_of_mem_optionNumerals {raw : String} (h : DigitsFit raw.toList) :
    ∀ row ∈ optionNumerals raw, row.length ≤ digitLimit := by
  have hdrop : dropLineFeed raw.toList <:+: raw.toList := by
    unfold dropLineFeed
    split
    · exact (List.dropLast_prefix _).isInfix
    · exact List.infix_rfl
  intro row hrow
  obtain ⟨hmem, hnumeral⟩ := List.mem_filter.mp hrow
  obtain rfl := List.mem_singleton.mp hmem
  exact h.length_le hdrop hnumeral

/-- The rows that are read in a statement are short enough if its numbers can be read. -/
lemma Statement.NumbersFit.length_le {s : Statement} (h : s.NumbersFit) :
    ∀ row ∈ s.numerals, row.length ≤ digitLimit := by
  refine List.forall_mem_append.mpr ⟨fun row hrow => ?_, fun row hrow => ?_⟩
  · obtain ⟨argument, hargument, hrow⟩ := List.mem_flatMap.mp hrow
    obtain ⟨z, hz, ha⟩ := Option.bind_eq_some_iff.mp (Option.mem_toList.mp hargument)
    exact Selector.length_le_of_mem_numerals (h.argument z hz argument ha) row hrow
  · obtain ⟨zone, hzone, hrow⟩ := List.mem_flatMap.mp hrow
    unfold effectNumerals at hrow
    split at hrow
    next =>
      obtain ⟨p, hp, hrow⟩ := List.mem_flatMap.mp hrow
      have hfits := h.options zone (Option.mem_toList.mp hzone) p.2 (List.mem_map_of_mem hp)
      exact length_le_of_mem_optionNumerals hfits row hrow
    next => exact absurd hrow List.not_mem_nil

/-! ### Extraction -/

lemma Statement.exists_instruction (block : String) (scope : Option Scope)
    (conditions : List Condition) {s : Statement} (keyword : String) {target : TargetZone}
    (children : List Statement) (h : s.NumbersFit) (htarget : s.target = some target) :
    ∃ i, s.instruction block scope conditions keyword target children = .ok i :=
  (readsRows_instruction block scope conditions keyword children htarget).exists_ok_iff.mpr h.length_le

/-- Extraction succeeds if the numbers of all statements can be read. -/
lemma Extraction.exists_ofBlock (id : String) (block : Block)
    (h : ∀ s ∈ block.statements, s.NumbersFit) : ∃ e, ofBlock id block = .ok e := by
  refine (readsRows_ofBlock id block).exists_ok_iff.mpr fun row hrow => ?_
  obtain ⟨n, hn, hrow⟩ := List.mem_flatMap.mp hrow
  exact (h n.item (item_mem_statements (List.mem_filter.mp hn).1)).length_le row hrow

end BlockScript
