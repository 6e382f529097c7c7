import BlockScript.Proofs.Token.Shapes

/-!
# Scanning spelled tokens

The tokens of a block, spelled one after the other, are scanned as the same tokens again
(`Token.ofLine_sourceBetween`). A blank stands where something stood between two tokens; where nothing
did, the first one does not go on with the second, since it did not do so in the block.
-/

namespace BlockScript

namespace Token

variable {line : Int} {cs : List Char} {tokens : List Token} {t a b : Token}

lemma toList_source (t : Token) : t.source.toList = t.shape.chars :=
  String.toList_ofList

/-! ### Single tokens -/

lemma Scans.exists_pattern (h : Scans line cs tokens) (ht : t ∈ tokens) :
    ∃ p, (t.kind, p) ∈ TokenPattern.all ∧ p t.value.toList (t.textIn cs) := by
  obtain ⟨p, hp, htext, -⟩ := (h.next t ht).exists_text
  exact ⟨p, hp, htext⟩

/-- A token is legible unless it is a string that holds a double quote. -/
lemma Scans.legible (h : Scans line cs tokens) (ht : t ∈ tokens)
    (hquote : t.kind = .string → '"' ∉ t.value.toList) : t.shape.Legible := by
  rcases h.text t ht with htext | ⟨hkind, -⟩
  · obtain ⟨p, hp, hvalue⟩ := h.exists_pattern ht
    exact ⟨p, hp, by rwa [htext, toList_source] at hvalue⟩
  · have hp : (t.kind, TokenPattern.quoted '"') ∈ TokenPattern.all := by
      simp [hkind, TokenPattern.all]
    have hchars : t.shape.chars = '"' :: (t.value.toList ++ ['"']) := by
      simp [Shape.chars, shape, hkind, TokenKind.delimiters]
    exact ⟨_, hp, hquote hkind, hchars⟩

/-! ### Neighbours -/

/-- Whether a token ends in front of another one, unless something stands between the two. -/
def EndsAt (a b : Token) : Prop :=
  a.apart b = false → a.kind.EndsBefore b.source.toList

/-- No token of a line goes on with a later one. -/
lemma Scans.endsAt (h : Scans line cs tokens) (ha : a ∈ tokens) (hb : b ∈ tokens)
    (hab : a.stop ≤ b.start) : a.EndsAt b := by
  intro hclose
  have hstart : b.start = a.stop := by
    simp only [apart, Bool.or_eq_false_iff, decide_eq_false_iff_not] at hclose
    omega
  intro c hc
  rcases h.text b hb with htext | ⟨hkind, -⟩
  · have hlegible : b.shape.Legible := by
      obtain ⟨p, hp, hvalue⟩ := h.exists_pattern hb
      exact ⟨p, hp, by rwa [htext, toList_source] at hvalue⟩
    have hnext := h.next a ha
    refine hnext.goesOn_eq_false ?_ ?_
    · have := (h.bounds a ha).1
      have := (h.bounds b hb).1
      rw [← htext, textIn, List.head?_take, if_neg (by omega), hstart] at hc
      rwa [List.drop_drop, Nat.add_sub_cancel' (by omega)]
    · exact hlegible.head?_ne c (toList_source b ▸ hc)
  · have hquote : c = '"' := by
      have : b.source.toList.head? = some '"' := by simp [source, hkind, TokenKind.delimiters]
      rw [this] at hc
      exact (Option.some.inj hc).symm
    rw [hquote]
    cases a.kind <;> rfl

/-- Each token of a block stands on a line of its own number, and is scanned there. -/
lemma exists_of_mem_scanLines {width : Nat} {start : Int} {lines : List String}
    (h : t ∈ scanLines width start lines) :
    ∃ line text, start ≤ line ∧ t.line = line ∧ t ∈ scan width line text := by
  induction lines generalizing start with
  | nil => exact absurd h List.not_mem_nil
  | cons text lines ih =>
    rcases List.mem_append.mp h with h | h
    · exact ⟨start, text, Int.le_refl start, line_of_mem_scanFrom h, h⟩
    · obtain ⟨line, text, hline, ht⟩ := ih h
      exact ⟨line, text, by omega, ht⟩

lemma pairwise_endsAt_scanLines (width : Nat) (start : Int) (lines : List String) :
    (scanLines width start lines).Pairwise EndsAt := by
  induction lines generalizing start with
  | nil => exact .nil
  | cons text lines ih =>
    have hscans := scans_scanFrom start (Text.expandTabs width text)
    refine List.pairwise_append.mpr ⟨?_, ih (start + 1), ?_⟩
    · exact hscans.order.imp_of_mem fun ha hb hab => hscans.endsAt ha hb hab
    · intro a ha b hb hclose
      -- tokens of two lines stand apart
      obtain ⟨line, -, hstart, hline, -⟩ := exists_of_mem_scanLines hb
      have ha : a.line = start := line_of_mem_scanFrom ha
      simp only [apart, Bool.or_eq_false_iff, decide_eq_false_iff_not] at hclose
      omega

/-! ### Rows of tokens -/

lemma untabbed_source_of_mem_scan {width : Nat} {text : String} (h : t ∈ scan width line text) :
    '\t' ∉ t.source.toList := by
  have hvalue : '\t' ∉ t.value.toList := fun htab =>
    Text.untabbed_expandTabs width text ((value_infix_of_mem_scanFrom h).subset htab)
  rw [source]
  cases t.kind <;> simpa [TokenKind.delimiters] using hvalue

/-- What follows a token is read as the tokens it spells, and the token does not go on with it. -/
lemma reads_sourceAfter {tokens : List Token} (hlegible : ∀ u ∈ tokens, u.shape.Legible)
    (hends : (t :: tokens).Pairwise EndsAt) :
    Reads (sourceAfter t tokens).toList (tokens.map shape) ∧
      t.kind.EndsBefore (sourceAfter t tokens).toList := by
  induction tokens generalizing t with
  | nil => exact ⟨Reads.nil, t.kind.endsBefore_nil⟩
  | cons u tokens ih =>
    obtain ⟨hu, hlegible⟩ := List.forall_mem_cons.mp hlegible
    obtain ⟨ht, hends⟩ := List.pairwise_cons.mp hends
    obtain ⟨hreads, hbefore⟩ := ih hlegible hends
    have hkind : u.kind ≠ .endOfInput := hu.kind_ne
    have hrow := Reads.cons hu hbefore hreads
    rw [sourceAfter, if_neg hkind, String.toList_append, String.toList_append, toList_source]
    cases happart : t.apart u with
    | true => exact ⟨hrow.blank, t.kind.endsBefore_blank _⟩
    | false =>
      show Reads (u.shape.chars ++ _) _ ∧ t.kind.EndsBefore (u.shape.chars ++ _)
      refine ⟨hrow, fun c hc => ht u List.mem_cons_self happart c ?_⟩
      rw [toList_source]
      rwa [List.head?_append_of_ne_nil _ hu.chars_ne_nil] at hc

lemma reads_sourceOf {tokens : List Token} (hlegible : ∀ u ∈ tokens, u.shape.Legible)
    (hends : tokens.Pairwise EndsAt) : Reads (sourceOf tokens).toList (tokens.map shape) := by
  cases tokens with
  | nil => exact Reads.nil
  | cons t tokens =>
    obtain ⟨ht, hrest⟩ := List.forall_mem_cons.mp hlegible
    obtain ⟨hreads, hbefore⟩ := reads_sourceAfter hrest hends
    have hkind : t.kind ≠ .endOfInput := ht.kind_ne
    rw [sourceOf, if_neg hkind, String.toList_append, toList_source]
    exact hreads.cons ht hbefore

lemma untabbed_sourceAfter {tokens : List Token} (h : ∀ u ∈ tokens, '\t' ∉ u.source.toList) :
    '\t' ∉ (sourceAfter t tokens).toList := by
  induction tokens generalizing t with
  | nil => exact List.not_mem_nil
  | cons u tokens ih =>
    obtain ⟨hu, hrest⟩ := List.forall_mem_cons.mp h
    rw [sourceAfter]
    split
    · exact List.not_mem_nil
    · rw [String.toList_append, String.toList_append, List.mem_append, List.mem_append, not_or, not_or]
      refine ⟨⟨?_, hu⟩, ih hrest⟩
      split <;> decide

lemma untabbed_sourceOf {tokens : List Token} (h : ∀ u ∈ tokens, '\t' ∉ u.source.toList) :
    '\t' ∉ (sourceOf tokens).toList := by
  cases tokens with
  | nil => exact List.not_mem_nil
  | cons t tokens =>
    obtain ⟨ht, hrest⟩ := List.forall_mem_cons.mp h
    rw [sourceOf]
    split
    · exact List.not_mem_nil
    · rw [String.toList_append, List.mem_append, not_or]
      exact ⟨ht, untabbed_sourceAfter hrest⟩

/-- Nothing is spelled from an end mark on. -/
lemma sourceAfter_append_mark {mark : Token} (hmark : mark.kind = .endOfInput) (tokens : List Token) :
    sourceAfter t (tokens ++ [mark]) = sourceAfter t tokens := by
  induction tokens generalizing t with
  | nil => simp [sourceAfter, hmark]
  | cons u tokens ih => rw [List.cons_append, sourceAfter, sourceAfter, ih]

lemma sourceOf_append_mark {mark : Token} (hmark : mark.kind = .endOfInput) (tokens : List Token) :
    sourceOf (tokens ++ [mark]) = sourceOf tokens := by
  cases tokens with
  | nil => simp [sourceOf, hmark]
  | cons t tokens => rw [List.cons_append, sourceOf, sourceOf, sourceAfter_append_mark hmark]

/-! ### Ranges -/

/-- The tokens from one position to another, both included. -/
def between (tokens : List Token) (first last : Int) : List Token :=
  (tokens.take (last.toNat + 1)).drop first.toNat

/-- A range of a block's tokens holds tokens of its lines, and the end mark at most behind them. -/
lemma between_concat (own : List Token) (mark : Token) (first last : Int) :
    ∃ part marks, between (own ++ [mark]) first last = part ++ marks ∧ part.Sublist own ∧
      (marks = [] ∨ marks = [mark]) := by
  refine ⟨between own first last, _, by rw [between, between, List.take_append, List.drop_append],
    (List.drop_sublist _ _).trans (List.take_sublist _ _), ?_⟩
  rcases last.toNat + 1 - own.length with _ | n
  · exact .inl (by simp)
  · rcases first.toNat - (own.take (last.toNat + 1)).length with _ | m
    · exact .inr (by simp)
    · exact .inl (by simp)

lemma sourceOf_append_marks {mark : Token} (hmark : mark.kind = .endOfInput) {tokens marks : List Token}
    (hmarks : marks = [] ∨ marks = [mark]) : sourceOf (tokens ++ marks) = sourceOf tokens := by
  rcases hmarks with rfl | rfl
  · rw [List.append_nil]
  · exact sourceOf_append_mark hmark tokens

/-- The spelling of a range of a block's tokens is scanned as the tokens of this range, without the end
mark. Strings must not hold the quotes that they are spelled with. -/
theorem ofLine_sourceBetween {width : Nat} {start first last : Int} {lines : List String}
    (hfirst : 0 ≤ first) (hlast : first ≤ last) (hlength : last < (ofLines width start lines).length)
    (hquote : ∀ t ∈ between (ofLines width start lines) first last,
      t.kind = .string → '"' ∉ t.value.toList) (width' : Nat) (line : Int) :
    ∃ tokens offset,
      ofLine width' line (sourceBetween (ofLines width start lines) first last) =
        tokens ++ [endMark line offset] ∧
      tokens.map shape = ((between (ofLines width start lines) first last).filter
        (·.kind ≠ .endOfInput)).map shape := by
  have hsource : sourceBetween (ofLines width start lines) first last =
      sourceOf (between (ofLines width start lines) first last) := by
    rw [sourceBetween, if_neg (by omega)]
    rfl
  obtain ⟨part, marks, hbetween, hpart, hmarks⟩ := between_concat (scanLines width start lines)
    (endMark (max start (start + lines.length - 1)) 0) first last
  rw [← ofLines] at hbetween
  rw [hbetween] at hquote ⊢
  rw [hsource, hbetween, sourceOf_append_marks rfl hmarks]
  have hscanned : ∀ t ∈ part, ∃ text, t ∈ scan width t.line text := by
    intro t ht
    obtain ⟨line, text, -, hline, ht⟩ := exists_of_mem_scanLines (hpart.subset ht)
    exact ⟨text, hline ▸ ht⟩
  have hlegible : ∀ t ∈ part, t.shape.Legible := by
    intro t ht
    obtain ⟨text, hscan⟩ := hscanned t ht
    exact (scans_scanFrom t.line _).legible hscan (hquote t (List.mem_append_left marks ht))
  have huntabbed : '\t' ∉ (sourceOf part).toList := untabbed_sourceOf fun t ht => by
    obtain ⟨text, hscan⟩ := hscanned t ht
    exact untabbed_source_of_mem_scan hscan
  have hends := (pairwise_endsAt_scanLines width start lines).sublist hpart
  refine ⟨scan width' line (sourceOf part), _, rfl, ?_⟩
  have hfilter : (part ++ marks).filter (·.kind ≠ .endOfInput) = part := by
    have hown : ∀ t ∈ part, decide (t.kind ≠ .endOfInput) = true :=
      fun t ht => decide_eq_true (hlegible t ht).kind_ne
    rw [List.filter_append, List.filter_eq_self.mpr hown]
    rcases hmarks with rfl | rfl <;> simp [endMark]
  rw [hfilter, scan, Text.expandTabs_of_untabbed huntabbed]
  exact reads_sourceOf hlegible hends line 0

/-- From the second token of a line with a tab on to the end mark: a number stands right behind a block,
a point and a space are lost, and single quotes become double ones. -/
theorem ofLine_sourceBetween_lines :
    let tokens := ofLines 2 1 ["\t:: blur\x7ba b\x7d12.x'tall'", ":^:::7 // [k]"]
    sourceBetween tokens 1 10 = "blur\x7ba b\x7d12 x\"tall\" :^:::7 // [k]" ∧
      (0 : Int) ≤ 1 ∧ (1 : Int) ≤ 11 ∧ (11 : Int) < tokens.length ∧
      (∀ t ∈ between tokens 1 11, t.kind = .string → '"' ∉ t.value.toList) ∧
      ∃ scanned offset, ofLine 2 1 (sourceBetween tokens 1 11) = scanned ++ [endMark 1 offset] ∧
        scanned.map shape =
          ((between tokens 1 11).filter (·.kind ≠ .endOfInput)).map shape := by
  intro tokens
  have hquote : ∀ t ∈ between tokens 1 11, t.kind = .string → '"' ∉ t.value.toList := by
    decide +kernel
  have hlength : (11 : Int) < tokens.length := by decide +kernel
  exact ⟨by decide +kernel, by decide, by decide, hlength, hquote,
    ofLine_sourceBetween (by decide) (by decide) hlength hquote 2 1⟩

end Token

end BlockScript
