import BlockScript.Proofs.Grammar.Spans
import BlockScript.Proofs.Text
import BlockScript.Recovery
import Mathlib.Data.List.TakeWhile

/-!
# Statements of numbered lines

Every statement carries the number of its line, so the statements of a block stand in the order of
their lines, and blanking lines removes exactly the statements that stand on them.
-/

namespace BlockScript

/-! ### Blank lines -/

lemma Lexeme.first?_of_isBlank {c : Char} (h : Text.isBlank c = true) (cs : List Char) :
    first? (c :: cs) = none := by
  have hcode := Text.toNat_of_isBlank h
  have hdigit := Text.isDigit_of_isBlank h
  have hne : ∀ d : Char, 0x20 < d.toNat → d.toNat < 0x85 → c ≠ d := by
    rintro d _ _ rfl
    omega
  have hident : startsIdentifier c = false := by
    have hupper : c.isUpper = false := (Bool.decide_and _ _).trans
      (Text.not_between_of_isBlank h 'A'.val 'Z'.val (by decide) (by decide))
    have hlower : c.isLower = false :=
      Text.not_between_of_isBlank h 'a'.val 'z'.val (by decide) (by decide)
    have hunderscore : (c == '_') = false := beq_eq_false_iff_ne.mpr (hne '_' (by decide) (by decide))
    change (c.isUpper || c.isLower || c == '_') = false
    rw [hupper, hlower, hunderscore]
    rfl
  simp [first?, forms, symbol?, block?, enclosed?, number?, identifier?, hdigit, hident, hne,
    List.cons_prefix_cons, (hne _ _ _).symm]

/-- Blanks alone make no tokens. -/
lemma Token.scanFrom_of_allBlank {line : Int} {offset : Nat} {cs : List Char}
    (h : cs.all Text.isBlank = true) : scanFrom line offset cs = [] := by
  induction cs generalizing offset with
  | nil => simp [scanFrom]
  | cons c cs ih =>
    rw [List.all_cons, Bool.and_eq_true] at h
    rw [scanFrom, Lexeme.first?_of_isBlank h.1]
    exact ih h.2

lemma Text.all_isBlank_expandTabsFrom {width column : Nat} {cs : List Char}
    (h : cs.all isBlank = true) : (expandTabsFrom width column cs).all isBlank = true := by
  have hspace : isBlank ' ' = true := by decide
  fun_induction expandTabsFrom width column cs with
  | case1 => rfl
  | case2 column cs hwidth ih =>
    rw [List.all_cons, Bool.and_eq_true] at h
    exact ih h.2
  | case3 column cs hwidth gap ih =>
    rw [List.all_cons, Bool.and_eq_true] at h
    rw [List.all_append, List.all_replicate, hspace, ih h.2]
    simp
  | case4 column c cs _ hend ih =>
    rw [List.all_cons, Bool.and_eq_true] at h
    rw [List.all_cons, h.1, ih h.2]
    rfl
  | case5 column c cs _ hend ih =>
    rw [List.all_cons, Bool.and_eq_true] at h
    rw [List.all_cons, h.1, ih h.2]
    rfl

/-! ### Tokens -/

lemma Token.line_of_mem_scanFrom {line : Int} {offset : Nat} {cs : List Char} {t : Token}
    (h : t ∈ scanFrom line offset cs) : t.line = line := by
  fun_induction scanFrom line offset cs with
  | case1 => simp at h
  | case2 offset c cs l _ ih =>
    rcases List.mem_cons.mp h with rfl | h
    · rfl
    · exact ih h
  | case3 offset c cs _ ih => exact ih h

/-- Where tokens stand and what they are does not depend on the number of the line. -/
lemma Token.scanFrom_eq_map (base line : Int) (offset : Nat) (cs : List Char) :
    scanFrom line offset cs = (scanFrom base offset cs).map (Token.atLine line) := by
  fun_induction scanFrom base offset cs with
  | case1 => simp [scanFrom]
  | case2 offset c cs l hl ih =>
    rw [scanFrom, hl]
    simp only [ih, List.map_cons, atLine]
  | case3 offset c cs hnone ih =>
    rw [scanFrom, hnone]
    exact ih

lemma Token.scan_eq_map {width : Nat} (base line : Int) (text : String) :
    scan width line text = (scan width base text).map (Token.atLine line) :=
  scanFrom_eq_map base line 0 _

namespace Statement

/-! ### What is read of a span -/

lemma subset_readCondition (ts : List Token) : (readCondition ts).2 ⊆ ts := by
  cases ts with
  | nil => exact List.Subset.refl _
  | cons t ts =>
    rw [readCondition]
    split
    · exact List.subset_cons_self t ts
    · exact List.Subset.refl _

lemma subset_readDeclaration (ts : List Token) : (readDeclaration ts).2 ⊆ ts := by
  cases ts with
  | nil => exact List.Subset.refl _
  | cons t ts =>
    rw [readDeclaration]
    split
    next =>
      refine fun x hx => List.mem_cons_of_mem t ?_
      have hx := (List.dropWhile_suffix _).subset hx
      split at hx
      · exact subset_readCondition ts hx
      · exact hx
    next => exact List.Subset.refl _

lemma subset_readZone (kind : TokenKind) (stops : List TokenKind) (ts : List Token) :
    (∀ zone ∈ (readZone kind stops ts).1, zone ⊆ ts) ∧ (readZone kind stops ts).2 ⊆ ts := by
  cases ts with
  | nil => exact ⟨by simp [readZone], List.Subset.refl _⟩
  | cons t ts =>
    rw [readZone]
    split
    next =>
      refine ⟨?_, fun x hx => List.mem_cons_of_mem t ((List.dropWhile_suffix _).subset hx)⟩
      rintro _ ⟨⟩
      exact fun x hx => List.mem_cons_of_mem t ((List.takeWhile_prefix _).subset hx)
    next => exact ⟨by simp, List.Subset.refl _⟩

/-! ### Line numbers and depths -/

lemma depth_ofSpan {width : Nat} (hwidth : 1 ≤ width) (span : Span) :
    (ofSpan width span).depth = span.depth width := by
  rw [ofSpan, Nat.max_eq_right hwidth]

lemma line_of_mem_ofLine {width : Nat} {line : Int} {text : String} {s : Statement}
    (h : s ∈ ofLine width line text) : s.line = line := by
  obtain ⟨span, hspan, rfl⟩ := List.mem_map.mp h
  exact Token.line_of_mem_scanFrom (Span.opener_of_mem_split hspan)

lemma ofLinesFrom_append (width : Nat) (start : Int) (front back : List String) :
    ofLinesFrom width start (front ++ back) =
      ofLinesFrom width start front ++ ofLinesFrom width (start + front.length) back := by
  induction front generalizing start with
  | nil => simp [ofLinesFrom]
  | cons text front ih =>
    have hshift : start + 1 + front.length = start + (front.length + 1 : Nat) := by omega
    rw [List.cons_append, ofLinesFrom, ih, ofLinesFrom, List.append_assoc, List.length_cons, hshift]

/-- The statements of a block are those of its lines. -/
lemma mem_ofLinesFrom_iff {width : Nat} {start : Int} {lines : List String} {s : Statement} :
    s ∈ ofLinesFrom width start lines ↔
      ∃ (k : Nat) (text : String), lines[k]? = some text ∧ s ∈ ofLine width (start + k) text := by
  induction lines generalizing start with
  | nil => simp [ofLinesFrom]
  | cons text rest ih =>
    rw [ofLinesFrom, List.mem_append, ih]
    have hshift : ∀ k : Nat, start + 1 + k = start + (k + 1 : Nat) := by omega
    constructor
    · rintro (h | ⟨k, other, hk, h⟩)
      · exact ⟨0, text, rfl, by rwa [Int.natCast_zero, Int.add_zero]⟩
      · exact ⟨k + 1, other, by rwa [List.getElem?_cons_succ], by rwa [← hshift]⟩
    · rintro ⟨k, other, hk, h⟩
      cases k with
      | zero =>
        obtain rfl : text = other := by simpa using hk
        exact .inl (by rwa [Int.natCast_zero, Int.add_zero] at h)
      | succ k => exact .inr ⟨k, other, by rwa [List.getElem?_cons_succ] at hk, by rwa [hshift]⟩

lemma exists_mem_ofLine {width : Nat} {start : Int} {lines : List String} {s : Statement}
    (h : s ∈ ofLinesFrom width start lines) :
    ∃ text ∈ lines, ∃ line, s ∈ ofLine width line text := by
  obtain ⟨k, text, hk, hs⟩ := mem_ofLinesFrom_iff.mp h
  exact ⟨text, List.mem_of_getElem? hk, start + k, hs⟩

lemma le_line_of_mem_ofLinesFrom {width : Nat} {start : Int} {lines : List String} {s : Statement}
    (h : s ∈ ofLinesFrom width start lines) : start ≤ s.line := by
  obtain ⟨k, text, -, hs⟩ := mem_ofLinesFrom_iff.mp h
  rw [line_of_mem_ofLine hs]
  omega

lemma line_lt_of_mem_ofLinesFrom {width : Nat} {start : Int} {lines : List String} {s : Statement}
    (h : s ∈ ofLinesFrom width start lines) : s.line < start + lines.length := by
  obtain ⟨k, text, hk, hs⟩ := mem_ofLinesFrom_iff.mp h
  have hlength := (List.getElem?_eq_some_iff.mp hk).1
  rw [line_of_mem_ofLine hs]
  omega

/-- Statements are in the order of their lines. -/
lemma pairwise_line_ofLinesFrom (width : Nat) (start : Int) (lines : List String) :
    (ofLinesFrom width start lines).Pairwise (·.line ≤ ·.line) := by
  induction lines generalizing start with
  | nil => exact .nil
  | cons text rest ih =>
    refine List.pairwise_append.mpr ⟨?_, ih (start + 1), ?_⟩
    · refine List.pairwise_of_forall_mem_list fun s hs t ht => ?_
      exact Int.le_of_eq ((line_of_mem_ofLine hs).trans (line_of_mem_ofLine ht).symm)
    · intro s hs t ht
      have := line_of_mem_ofLine hs
      have := le_line_of_mem_ofLinesFrom ht
      omega

/-- On lines of one statement at most, each statement has its own line. -/
lemma pairwise_lt_ofLinesFrom {width : Nat} {lines : List String}
    (h : ∀ text ∈ lines, ∀ line, (ofLine width line text).length ≤ 1) (start : Int) :
    (ofLinesFrom width start lines).Pairwise (·.line < ·.line) := by
  induction lines generalizing start with
  | nil => exact .nil
  | cons text rest ih =>
    obtain ⟨htext, hrest⟩ := List.forall_mem_cons.mp h
    refine List.pairwise_append.mpr ⟨?_, ih hrest (start + 1), fun s hs t ht => ?_⟩
    · have hlength := htext start
      cases hline : ofLine width start text with
      | nil => exact .nil
      | cons s more =>
        rw [hline, List.length_cons] at hlength
        have hmore : more = [] := List.length_eq_zero_iff.mp (by omega)
        rw [hmore]
        exact List.pairwise_singleton _ s
    · have hs := line_of_mem_ofLine hs
      have ht := le_line_of_mem_ofLinesFrom ht
      omega

/-! ### Blanked lines -/

lemma ofLine_of_allBlank {width : Nat} {line : Int} {text : String}
    (h : Text.allBlank text = true) : ofLine width line text = [] := by
  rw [ofLine, Token.scan, Text.expandTabs,
    Token.scanFrom_of_allBlank (Text.all_isBlank_expandTabsFrom h), Span.split, List.map_nil]

/-- Blanking takes away the statements of the skipped lines. -/
lemma ofLinesFrom_blankFrom (width : Nat) (start : Int) (skipped : List Int)
    (lines : List String) :
    ofLinesFrom width start (Recovery.blankFrom start skipped lines) =
      (ofLinesFrom width start lines).filter (·.line ∉ skipped) := by
  induction lines generalizing start with
  | nil => rfl
  | cons text rest ih =>
    rw [Recovery.blankFrom, ofLinesFrom, ofLinesFrom, List.filter_append, ih]
    congr 1
    by_cases hstart : start ∈ skipped
    · rw [if_pos hstart, ofLine_of_allBlank (by rfl), eq_comm, List.filter_eq_nil_iff]
      intro s hs
      simp [line_of_mem_ofLine hs, hstart]
    · rw [if_neg hstart, eq_comm, List.filter_eq_self]
      intro s hs
      simp [line_of_mem_ofLine hs, hstart]

end Statement

/-- The statements that are left of a block when lines are blanked. -/
lemma Block.statements_blank (width : Nat) (skipped : List Int) (source : List String) :
    (Block.ofLines width (Recovery.blank skipped source)).statements =
      (Block.ofLines width source).statements.filter (·.line ∉ skipped) :=
  Statement.ofLinesFrom_blankFrom width 1 skipped source

end BlockScript
