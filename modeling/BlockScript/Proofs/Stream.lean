import BlockScript.Block
import BlockScript.Proofs.Token.Spans

/-!
# Streams of lines

What is read of a statement stops at the end of its line (`Statement.Stream.readStatement_append`).
So a stream of lines is read line by line (`Statement.Stream.readAll_append`), and the statements of
a block can be had from its lines alone (`Block.ofTokens_ofLines`).
-/

namespace BlockScript

namespace Statement.Stream

variable {line : Int} {p : TokenKind → Bool} {q : Token → Bool} {body rest : List Token} {t : Token}

/-! ### The end of a statement -/

/-- Whether a statement on a line ends in front of some tokens: at the end of the line, or at the
next operator. -/
def Ends (line : Int) (rest : List Token) : Prop :=
  ∀ t ∈ rest.head?, t.isOn line = true → t.kind.isOpener = true

/-- Whether tokens stand on a line and open no statement. -/
def Body (line : Int) (body : List Token) : Prop :=
  ∀ t ∈ body, t.isOn line = true ∧ t.kind.isOpener = false

lemma Body.mono {part : List Token} (h : Body line body) (hpart : part ⊆ body) : Body line part :=
  fun t ht => h t (hpart ht)

lemma Body.of_cons (h : Body line (t :: body)) : t.isOn line = true ∧ Body line body :=
  ⟨(h t List.mem_cons_self).1, h.mono (List.subset_cons_self t body)⟩

/-- A test that no statement operator passes ends with the statement. -/
lemma Ends.not_taken (h : Ends line rest) (hp : ∀ k, k.isOpener = true → p k = false) :
    ∀ t ∈ rest.head?, (t.isOn line && p t.kind) = false := by
  intro t ht
  cases hline : t.isOn line with
  | false => rfl
  | true => exact hp t.kind (h t ht hline)

lemma beq_eq_false_of_isOpener {kind : TokenKind} (hkind : kind.isOpener = false) (k : TokenKind)
    (hk : k.isOpener = true) : (k == kind) = false := by
  rw [beq_eq_false_iff_ne]
  rintro rfl
  rw [hkind] at hk
  cases hk

/-- What is taken of a line, up to the first token that fails the test. -/
lemma takeOn_append (hbody : ∀ t ∈ body, (t.isOn line && p t.kind) = q t)
    (hrest : ∀ t ∈ rest.head?, (t.isOn line && p t.kind) = false) :
    takeOn line p (body ++ rest) = body.takeWhile q ∧
      dropOn line p (body ++ rest) = body.dropWhile q ++ rest := by
  unfold takeOn dropOn
  induction body with
  | nil =>
    cases rest with
    | nil => exact ⟨rfl, rfl⟩
    | cons t rest => simp [hrest t rfl]
  | cons t body ih =>
    obtain ⟨ht, hbody⟩ := List.forall_mem_cons.mp hbody
    obtain ⟨htake, hdrop⟩ := ih hbody
    rw [List.cons_append, List.takeWhile_cons, List.dropWhile_cons, ht, htake, hdrop]
    cases hq : q t <;> simp [hq]

lemma next?_of_ends (h : Ends line rest) (hp : ∀ k, k.isOpener = true → p k = false) :
    next? line p rest = none := by
  cases rest with
  | nil => rfl
  | cons t rest => rw [next?, h.not_taken hp t rfl, if_neg Bool.false_ne_true]

lemma next?_cons (h : t.isOn line = true) (ts : List Token) :
    next? line p (t :: ts) = if p t.kind = true then some (t, ts) else none := by
  rw [next?, h, Bool.true_and]

/-! ### Zones -/

lemma readCondition_append (hbody : Body line body) (hrest : Ends line rest) :
    readCondition line (body ++ rest) =
      ((Statement.readCondition body).1, (Statement.readCondition body).2 ++ rest) := by
  cases body with
  | nil =>
    rw [List.nil_append, readCondition, next?_of_ends hrest (beq_eq_false_of_isOpener rfl)]
    rfl
  | cons t body =>
    have ht := (hbody t List.mem_cons_self).1
    rw [readCondition, List.cons_append, next?_cons ht, Statement.readCondition]
    by_cases hkind : t.kind = .actionBlock <;> simp [hkind]

/-- The subjects of a declaration are the variable blocks at the head of what is left of it. -/
lemma takeOn_subjects (hbody : Body line body) (hrest : Ends line rest) :
    takeOn line (· == .variableBlock) (body ++ rest) = body.takeWhile (·.kind == .variableBlock) ∧
      dropOn line (· == .variableBlock) (body ++ rest) =
        body.dropWhile (·.kind == .variableBlock) ++ rest := by
  refine takeOn_append (fun t ht => ?_) (hrest.not_taken (beq_eq_false_of_isOpener rfl))
  rw [(hbody t ht).1, Bool.true_and]

lemma readDeclaration_append (hbody : Body line body) (hrest : Ends line rest) :
    readDeclaration line (body ++ rest) =
      ((Statement.readDeclaration body).1, (Statement.readDeclaration body).2 ++ rest) := by
  cases body with
  | nil =>
    rw [List.nil_append, readDeclaration, next?_of_ends hrest (beq_eq_false_of_isOpener rfl)]
    rfl
  | cons t body =>
    obtain ⟨ht, hbody⟩ := hbody.of_cons
    rw [readDeclaration, List.cons_append, next?_cons ht, Statement.readDeclaration]
    by_cases hkind : t.kind = .identifier
    · by_cases hkeyword : Text.lower t.value = Keyword.conditional
      · obtain ⟨htake, hdrop⟩ := takeOn_subjects (hbody.mono (subset_readCondition body)) hrest
        simp only [hkind, hkeyword, beq_self_eq_true, if_true, readCondition_append hbody hrest,
          htake, hdrop]
      · obtain ⟨htake, hdrop⟩ := takeOn_subjects hbody hrest
        simp only [hkind, hkeyword, beq_self_eq_true, if_true, if_false, htake, hdrop]
    · simp [hkind]

/-- A zone stops at the next statement, as the spans do. -/
lemma readZone_append (kind : TokenKind) (hkind : kind.isOpener = false) (stops : List TokenKind)
    (hbody : Body line body) (hrest : Ends line rest) :
    readZone line kind stops (body ++ rest) =
      ((Statement.readZone kind stops body).1, (Statement.readZone kind stops body).2 ++ rest) := by
  cases body with
  | nil =>
    rw [List.nil_append, readZone, next?_of_ends hrest (beq_eq_false_of_isOpener hkind)]
    rfl
  | cons t body =>
    obtain ⟨ht, hbody⟩ := hbody.of_cons
    rw [readZone, List.cons_append, next?_cons ht, Statement.readZone]
    by_cases hkind : t.kind = kind
    · have hwithin : ∀ u ∈ body, (u.isOn line && (!u.kind.isOpener && !stops.contains u.kind)) =
          !stops.contains u.kind := by
        intro u hu
        obtain ⟨hline, hopener⟩ := hbody u hu
        rw [hline, hopener]
        rfl
      have hstop : ∀ k, k.isOpener = true → (!k.isOpener && !stops.contains k) = false := by
        intro k hk
        rw [hk]
        rfl
      obtain ⟨htake, hdrop⟩ := takeOn_append hwithin (hrest.not_taken hstop)
      simp only [hkind, beq_self_eq_true, if_true, htake, hdrop]
    · simp [hkind]

/-- An outcome is the first token of its zone; what is left is on the line of the statement. -/
lemma readOutcome_append (hbody : Body line body) (hrest : Ends line rest) :
    ∃ left, Body line left ∧ readOutcome line (body ++ rest) =
      ((Statement.readZone .trigger [] body).1.bind fun zone =>
        zone.head?.map fun t => Text.trim t.value, left ++ rest) := by
  have hopener : ∀ k : TokenKind, k.isOpener = true → (!k.isOpener) = false := by simp
  cases body with
  | nil =>
    refine ⟨[], hbody, ?_⟩
    rw [List.nil_append, readOutcome, next?_of_ends hrest (beq_eq_false_of_isOpener rfl)]
    rfl
  | cons t body =>
    obtain ⟨ht, htail⟩ := hbody.of_cons
    rw [readOutcome, List.cons_append, next?_cons ht, Statement.readZone]
    by_cases hkind : t.kind = .trigger
    · cases body with
      | nil =>
        refine ⟨[], htail, ?_⟩
        simp [hkind, next?_of_ends hrest hopener]
      | cons u body =>
        obtain ⟨hline, hkind'⟩ := htail u List.mem_cons_self
        refine ⟨body, htail.of_cons.2, ?_⟩
        simp [hkind, hkind', next?_cons hline]
    · exact ⟨t :: body, hbody, by simp [hkind]⟩

/-! ### Statements -/

variable {own : List Token}

/-- The operators of a statement are those of its span. -/
lemma readRun_append (hown : ∀ u ∈ own, u.isOn t.line = true)
    (hrest : ∀ u ∈ rest.head?, u.isOn t.line = false) :
    readRun t (own ++ rest) =
      ((Span.ofOpener t own).chain - 1, Span.afterOpener t own ++ rest) := by
  unfold readRun Span.ofOpener Span.afterOpener
  by_cases hkind : t.kind = .hierarchical
  · have hrun : ∀ u ∈ own, (u.isOn t.line && u.kind == .hierarchical) = (u.kind == .hierarchical) := by
      intro u hu
      rw [hown u hu, Bool.true_and]
    have hstop : ∀ u ∈ rest.head?, (u.isOn t.line && u.kind == .hierarchical) = false := by
      intro u hu
      rw [hrest u hu, Bool.false_and]
    obtain ⟨htake, hdrop⟩ := takeOn_append (p := (· == .hierarchical)) hrun hstop
    simp [hkind, htake, hdrop]
  · simp [hkind]

/-- What is left of a statement is skipped. -/
lemma skip_append (hbody : Body line body) (hrest : Ends line rest) :
    dropOn line (!·.isOpener) (body ++ rest) = rest := by
  have hall : ∀ t ∈ body, (t.isOn line && !t.kind.isOpener) = true := by
    intro t ht
    obtain ⟨hline, hopener⟩ := hbody t ht
    rw [hline, hopener]
    rfl
  rw [(takeOn_append hall (hrest.not_taken (by simp))).2]
  simp

/-- A statement is read up to the end of its line or the next operator on it, and no further. -/
theorem readStatement_append (width : Nat) (hown : ∀ u ∈ own, u.isOn t.line = true)
    (hrest : ∀ u ∈ rest.head?, u.isOn t.line = false) :
    readStatement width t (own ++ rest) =
      (ofSpan width (Span.ofOpener t own), own.drop (Span.ofOpener t own).tailLength ++ rest) := by
  have hsplit : Span.afterOpener t own =
      (Span.ofOpener t own).body ++ own.drop (Span.ofOpener t own).tailLength := by
    rw [Span.body_ofOpener, Span.drop_tailLength, List.takeWhile_append_dropWhile]
  have hbody : Body t.line (Span.ofOpener t own).body := by
    intro u hu
    refine ⟨hown u (Span.body_subset_ofOpener t own hu), ?_⟩
    rw [Span.body_ofOpener] at hu
    simpa using List.mem_takeWhile_imp hu
  have hends : Ends t.line (own.drop (Span.ofOpener t own).tailLength ++ rest) := by
    intro u hu hline
    cases hback : own.drop (Span.ofOpener t own).tailLength with
    | nil =>
      rw [hback, List.nil_append] at hu
      rw [hrest u hu] at hline
      cases hline
    | cons v back =>
      rw [hback] at hu
      obtain rfl : v = u := by simpa using hu
      rw [Span.drop_tailLength] at hback
      have hstop := List.head?_dropWhile_not (!·.kind.isOpener) (Span.afterOpener t own)
      rw [hback] at hstop
      simpa using hstop
  unfold readStatement
  dsimp only
  rw [readRun_append hown hrest, hsplit, List.append_assoc]
  generalize own.drop (Span.ofOpener t own).tailLength ++ rest = back at hends ⊢
  have hdeclaration := hbody.mono (subset_readDeclaration _)
  have htarget := hdeclaration.mono (subset_readZone .relation [.parameter, .trigger] _).2
  have heffect := htarget.mono (subset_readZone .parameter [.trigger] _).2
  obtain ⟨left, hleft, houtcome⟩ := readOutcome_append heffect hends
  simp only [readDeclaration_append hbody hends, readZone_append .relation rfl _ hdeclaration hends,
    readZone_append .parameter rfl _ htarget hends, houtcome, skip_append hleft hends, ofSpan,
    Span.isHierarchical, Span.opener_ofOpener, beq_iff_eq, Span.depth_ofOpener]

/-! ### Lines -/

/-- What stands on a line is read as the spans of that line are. -/
theorem readAll_append (width : Nat) (hown : ∀ u ∈ own, u.isOn line = true)
    (hrest : ∀ u ∈ rest.head?, u.isOn line = false) :
    readAll width (own ++ rest) = (Span.split own).map (ofSpan width) ++ readAll width rest := by
  fun_induction Span.split own with
  | case1 => rfl
  | case2 t ts hopener span ih =>
    obtain ⟨ht, hts⟩ := List.forall_mem_cons.mp hown
    obtain ⟨hmark, hline⟩ := Bool.and_eq_true_iff.mp ht
    obtain rfl : t.line = line := by simpa using hline
    rw [List.cons_append, readAll, if_neg (by simpa using hmark), if_pos hopener]
    dsimp only
    rw [readStatement_append width hts hrest, ih fun u hu => hts u (List.mem_of_mem_drop hu),
      List.map_cons, List.cons_append]
  | case3 t ts hopener ih =>
    obtain ⟨ht, hts⟩ := List.forall_mem_cons.mp hown
    obtain ⟨hmark, -⟩ := Bool.and_eq_true_iff.mp ht
    rw [List.cons_append, readAll, if_neg (by simpa using hmark), if_neg hopener, ih hts]

/-- A line holds no end mark. -/
lemma isOn_of_mem_scan {width : Nat} {text : String} (h : t ∈ Token.scan width line text) :
    t.isOn line = true := by
  have hkinds : ∀ kind ∈ TokenPattern.all.map (·.1), kind ≠ .endOfInput := by decide
  obtain ⟨pattern, hpattern, -, -⟩ := (Token.next_of_mem_scanFrom List.drop_zero h).exists_text
  have hkind := hkinds t.kind (List.mem_map_of_mem hpattern)
  simp [Token.isOn, hkind, Token.line_of_mem_scanFrom h]

lemma isOn_of_mem_scanLines {width : Nat} {start : Int} {lines : List String}
    (hline : line < start) (h : t ∈ Token.scanLines width start lines) : t.isOn line = false := by
  induction lines generalizing start with
  | nil => exact absurd h List.not_mem_nil
  | cons text lines ih =>
    rcases List.mem_append.mp h with h | h
    · have hne : t.line ≠ line := by
        rw [Token.line_of_mem_scanFrom h]
        omega
      simp [Token.isOn, hne]
    · exact ih (by omega) h

/-- The stream of some lines is read line by line. -/
theorem readAll_scanLines (width : Nat) (start last : Int) (lines : List String) :
    readAll width (Token.scanLines width start lines ++ [Token.endMark last 0]) =
      ofLinesFrom width start lines := by
  induction lines generalizing start with
  | nil => simp [Token.scanLines, readAll, Token.endMark, ofLinesFrom]
  | cons text lines ih =>
    have hrest : ∀ u ∈ (Token.scanLines width (start + 1) lines ++ [Token.endMark last 0]).head?,
        u.isOn start = false := by
      intro u hu
      rcases List.mem_append.mp (List.mem_of_mem_head? hu) with hu | hu
      · exact isOn_of_mem_scanLines (Int.lt_succ start) hu
      · rw [List.mem_singleton.mp hu]
        rfl
    rw [Token.scanLines, List.append_assoc, readAll_append width (fun u => isOn_of_mem_scan) hrest, ih]
    rfl

end Statement.Stream

/-- Reading the stream of a block's lines gives the statements of its lines. -/
theorem Block.ofTokens_ofLines (width : Nat) (lines : List String) :
    ofTokens width (Token.ofLines width 1 lines) = ofLines width lines := by
  rw [ofTokens, Token.ofLines, Statement.Stream.readAll_scanLines, ofLines, Statement.ofLines]

end BlockScript
