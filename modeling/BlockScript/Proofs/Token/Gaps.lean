import BlockScript.Proofs.Grammar.Spans
import BlockScript.Proofs.Token.Shapes

/-!
# Gaps

How wide the gaps of a line are does not matter for what its tokens are. A text with one space for each
run of spaces (`Text.squeeze`) has the same tokens, up to their places and to the spaces in blocks
(`Token.map_outline_scanFrom`), and the column at which tabs are expanded makes a difference in the
width of gaps only (`Text.squeeze_expandTabsFrom`).
-/

namespace BlockScript

/-! ### Runs of spaces -/

namespace Text

/-- Puts a character in front of a text, unless this would be a second space. -/
def push (c : Char) (cs : List Char) : List Char :=
  if c = ' ' ∧ cs.head? = some ' ' then cs else c :: cs

/-- A text with one space for each run of spaces. -/
def squeeze : List Char → List Char
  | [] => []
  | c :: cs => push c (squeeze cs)

variable {c d : Char} {cs front rest : List Char}

lemma push_of_ne (h : c ≠ ' ') (cs : List Char) : push c cs = c :: cs :=
  if_neg fun hc => h hc.1

lemma head?_push (c : Char) (cs : List Char) : (push c cs).head? = some c := by
  unfold push
  split
  next h => rw [h.2, h.1]
  next => rfl

lemma push_push_space (cs : List Char) : push ' ' (push ' ' cs) = push ' ' cs :=
  if_pos ⟨rfl, head?_push ' ' cs⟩

lemma mem_push : d ∈ push c cs ↔ d = c ∨ d ∈ cs := by
  unfold push
  split
  next h =>
    have hmem : c ∈ cs := h.1 ▸ List.mem_of_head? h.2
    constructor
    · exact .inr
    · rintro (rfl | hd)
      · exact hmem
      · exact hd
  next => exact List.mem_cons

lemma head?_squeeze (cs : List Char) : (squeeze cs).head? = cs.head? := by
  cases cs with
  | nil => rfl
  | cons c cs => exact head?_push c (squeeze cs)

lemma exists_squeeze_cons (c : Char) (cs : List Char) : ∃ ds, squeeze (c :: cs) = c :: ds :=
  List.head?_eq_some_iff.mp (head?_squeeze (c :: cs))

lemma mem_squeeze : d ∈ squeeze cs ↔ d ∈ cs := by
  induction cs with
  | nil => rfl
  | cons c cs ih => rw [squeeze, mem_push, ih, List.mem_cons]

lemma isEmpty_squeeze (cs : List Char) : (squeeze cs).isEmpty = cs.isEmpty := by
  cases cs with
  | nil => rfl
  | cons c cs =>
    obtain ⟨ds, hds⟩ := exists_squeeze_cons c cs
    rw [hds]
    rfl

lemma squeeze_cons_of_ne (h : c ≠ ' ') (cs : List Char) : squeeze (c :: cs) = c :: squeeze cs :=
  push_of_ne h _

/-- A text without spaces stays as it is in front of any other. -/
lemma squeeze_append (h : ' ' ∉ front) (rest : List Char) :
    squeeze (front ++ rest) = front ++ squeeze rest := by
  induction front with
  | nil => rfl
  | cons c front ih =>
    rw [List.mem_cons, not_or] at h
    rw [List.cons_append, squeeze_cons_of_ne (Ne.symm h.1), ih h.2, List.cons_append]

/-- Runs of spaces end at other characters. -/
lemma squeeze_append_cons (h : d ≠ ' ') (front rest : List Char) :
    squeeze (front ++ d :: rest) = squeeze front ++ d :: squeeze rest := by
  induction front with
  | nil => exact squeeze_cons_of_ne h rest
  | cons c front ih =>
    rw [List.cons_append, squeeze, ih, squeeze, push, push]
    cases hfront : squeeze front with
    | nil => simp [h]
    | cons e es =>
      by_cases hspaces : c = ' ' ∧ e = ' '
      · simp [hspaces]
      · simp [hspaces]

lemma takeWhile_squeeze {p : Char → Bool} (h : p ' ' = false) (cs : List Char) :
    (squeeze cs).takeWhile p = cs.takeWhile p ∧
      (squeeze cs).dropWhile p = squeeze (cs.dropWhile p) := by
  induction cs with
  | nil => exact ⟨rfl, rfl⟩
  | cons c cs ih =>
    cases hc : p c with
    | true =>
      have hne : c ≠ ' ' := by
        rintro rfl
        rw [h] at hc
        cases hc
      rw [squeeze_cons_of_ne hne, List.takeWhile_cons, List.dropWhile_cons, hc]
      simp [hc, ih]
    | false =>
      obtain ⟨ds, hds⟩ := exists_squeeze_cons c cs
      rw [hds, List.takeWhile_cons, List.dropWhile_cons, List.takeWhile_cons, List.dropWhile_cons]
      simp [hc, hds]

lemma squeeze_replicate_append (n : Nat) (rest : List Char) :
    squeeze (List.replicate (n + 1) ' ' ++ rest) = push ' ' (squeeze rest) := by
  induction n with
  | zero => rfl
  | succ n ih => rw [List.replicate_succ, List.cons_append, squeeze, ih, push_push_space]

lemma exists_gap {width : Nat} (hwidth : 1 ≤ width) (column : Nat) :
    ∃ n, width - column % width = n + 1 := by
  have hlt := Nat.mod_lt column hwidth
  exact ⟨width - column % width - 1, by omega⟩

/-- Where a text starts makes its tabs wider or narrower, and nothing else. -/
lemma squeeze_expandTabsFrom {width : Nat} (hwidth : 1 ≤ width) (a b : Nat) (cs : List Char) :
    squeeze (expandTabsFrom width a cs) = squeeze (expandTabsFrom width b cs) := by
  fun_induction expandTabsFrom width a cs generalizing b with
  | case1 => rfl
  | case2 column cs hzero ih => omega
  | case3 column cs hzero gap ih =>
    obtain ⟨m, hm⟩ := exists_gap hwidth column
    obtain ⟨n, hn⟩ := exists_gap hwidth b
    rw [expandTabsFrom, if_neg hzero]
    simp only [gap, hm, hn, squeeze_replicate_append]
    rw [← hm, ih (b + (n + 1))]
  | case4 column c cs htab hend ih =>
    rw [expandTabsFrom.eq_3 _ _ _ _ htab, if_pos hend]
  | case5 column c cs htab hend ih =>
    rw [expandTabsFrom.eq_3 _ _ _ _ htab, if_neg hend, squeeze, squeeze, ih (b + 1)]

/-- What starts with a text without spaces still does so with one space for each run. -/
lemma prefix_squeeze (h : ' ' ∉ front) (cs : List Char) : front <+: squeeze cs ↔ front <+: cs := by
  induction front generalizing cs with
  | nil => simp
  | cons d front ih =>
    rw [List.mem_cons, not_or] at h
    cases cs with
    | nil => rfl
    | cons c cs =>
      by_cases hc : c = ' '
      · obtain ⟨ds, hds⟩ := exists_squeeze_cons c cs
        rw [hds, List.cons_prefix_cons, List.cons_prefix_cons]
        simp [hc, Ne.symm h.1]
      · rw [squeeze_cons_of_ne hc, List.cons_prefix_cons, List.cons_prefix_cons, ih h.2]

/-- Whether a text has neither tabs nor line ends. -/
def Plain (cs : List Char) : Prop :=
  ∀ c ∈ cs, c ≠ '\t' ∧ c ≠ '\n' ∧ c ≠ '\r'

/-- A plain text stays as it is and moves what follows it. -/
lemma expandTabsFrom_append (h : Plain front)
    (width column : Nat) (rest : List Char) :
    expandTabsFrom width column (front ++ rest) =
      front ++ expandTabsFrom width (column + front.length) rest := by
  induction front generalizing column with
  | nil => rfl
  | cons c front ih =>
    obtain ⟨⟨htab, hfeed, hreturn⟩, hfront⟩ := List.forall_mem_cons.mp h
    rw [List.cons_append, expandTabsFrom.eq_3 _ _ _ _ htab, if_neg (by simp [hfeed, hreturn]),
      ih hfront, List.length_cons, List.cons_append, Nat.add_assoc, Nat.add_comm 1]

/-- A token that ends before a text ends before it with its tabs expanded. -/
lemma endsBefore_expandTabsFrom {kind : TokenKind} {width : Nat} (hwidth : 1 ≤ width)
    (h : kind.EndsBefore rest) (column : Nat) :
    kind.EndsBefore (expandTabsFrom width column rest) := by
  cases rest with
  | nil => exact kind.endsBefore_nil
  | cons c rest =>
    by_cases htab : c = '\t'
    · obtain ⟨n, hn⟩ := exists_gap hwidth column
      rw [htab, expandTabsFrom, if_neg (by omega)]
      simp only [hn, List.replicate_succ, List.cons_append]
      exact kind.endsBefore_blank _
    · rw [expandTabsFrom.eq_3 _ _ _ _ htab]
      split
      · exact h
      · exact h

end Text

/-! ### Lexemes -/

namespace Lexeme

open Text

/-- Whether a lexeme of a text is, up to spaces in its value, the one with the runs of spaces made
narrow. -/
structure Agrees (cs : List Char) (l l' : Lexeme) : Prop where
  kind : l'.kind = l.kind
  value : l.kind = .identifier → l'.value = l.value
  isEmpty : l'.value.isEmpty = l.value.isEmpty
  rest : (squeeze cs).drop l'.size = squeeze (cs.drop l.size)

/-- Whether a form takes no notice of how wide gaps are. -/
def IgnoresWidth (form : List Char → Option Lexeme) : Prop :=
  ∀ cs, Option.Rel (Agrees cs) (form cs) (form (squeeze cs))

variable {opening closing : Char} {kind : TokenKind} {form : List Char → Option Lexeme}

/-- A form whose lexemes hold no spaces finds the same ones. -/
lemma IgnoresWidth.of_eq (heq : ∀ cs, form (squeeze cs) = form cs)
    (hspace : ∀ cs l, form cs = some l → ' ' ∉ cs.take l.size ∧ l.size ≤ cs.length) :
    IgnoresWidth form := by
  intro cs
  rw [heq]
  cases hl : form cs with
  | none => exact .none
  | some l =>
    obtain ⟨htext, hsize⟩ := hspace cs l hl
    refine .some ⟨rfl, fun _ => rfl, rfl, ?_⟩
    have hsplit := squeeze_append htext (cs.drop l.size)
    rw [List.take_append_drop] at hsplit
    rw [hsplit, List.drop_left' (List.length_take_of_le hsize)]

lemma ignoresWidth_symbol? {spelling : String} (h : ' ' ∉ spelling.toList) (kind : TokenKind) :
    IgnoresWidth (symbol? spelling kind) := by
  apply IgnoresWidth.of_eq
  · intro cs
    have hstart : spelling.toList.isPrefixOf (squeeze cs) = spelling.toList.isPrefixOf cs := by
      rw [Bool.eq_iff_iff, List.isPrefixOf_iff_prefix, List.isPrefixOf_iff_prefix, prefix_squeeze h]
    rw [symbol?, symbol?, hstart]
  · intro cs l hl
    have hmatches := ((recognizes_symbol? spelling kind cs).1 l hl).2
    refine ⟨?_, hmatches.size_le⟩
    rw [hmatches.text.2]
    exact h

lemma ignoresWidth_number? : IgnoresWidth number? := by
  apply IgnoresWidth.of_eq
  · intro cs
    obtain ⟨hwhole, hrest⟩ := takeWhile_squeeze (p := isDigit) (by decide) cs
    rw [number?, number?, hwhole, hrest]
    -- only what stands behind a point matters
    cases cs.dropWhile isDigit with
    | nil => rfl
    | cons c rest =>
      by_cases hc : c = '.'
      · rw [hc, squeeze_cons_of_ne (by decide)]
        simp only [(takeWhile_squeeze (p := isDigit) (by decide) rest).1]
      · obtain ⟨ds, hds⟩ := exists_squeeze_cons c rest
        simp [hds, hc]
  · intro cs l hl
    have hmatches := ((recognizes_number? cs).1 l hl).2
    refine ⟨?_, hmatches.size_le⟩
    obtain ⟨-, whole, -, hwhole, htext⟩ := hmatches.text
    have hdigits : ∀ ds : List Char, (∀ d ∈ ds, isDigit d = true) → ' ' ∉ ds :=
      fun ds hds hmem => absurd (hds ' ' hmem) (by decide)
    rcases htext with htext | ⟨fraction, -, hfraction, htext⟩
    · rw [htext]
      exact hdigits whole hwhole
    · rw [htext]
      simp [hdigits whole hwhole, hdigits fraction hfraction]

lemma ignoresWidth_identifier? : IgnoresWidth identifier? := by
  apply IgnoresWidth.of_eq
  · intro cs
    cases cs with
    | nil => rfl
    | cons c cs =>
      by_cases hc : c = ' '
      · obtain ⟨ds, hds⟩ := exists_squeeze_cons c cs
        have hstart : startsIdentifier c = false := by rw [hc]; decide
        rw [hds]
        simp [identifier?, hstart]
      · have hname := (takeWhile_squeeze (p := continuesIdentifier) (by decide) cs).1
        rw [squeeze_cons_of_ne hc, identifier?, identifier?, hname]
  · intro cs l hl
    have hmatches := ((recognizes_identifier? cs).1 l hl).2
    refine ⟨?_, hmatches.size_le⟩
    obtain ⟨-, c, name, hc, hname, htext⟩ := hmatches.text
    rw [htext, List.mem_cons, not_or]
    constructor
    · rintro rfl
      exact absurd hc (by decide)
    · exact fun hmem => absurd (hname ' ' hmem) (by decide)

lemma enclosed?_of_not_mem {cs : List Char} (h : closing ∉ cs) :
    enclosed? opening closing kind (opening :: cs) = none := by
  rw [Option.eq_none_iff_forall_ne_some]
  intro l hl
  obtain ⟨inner, rest, heq, -⟩ := enclosed?_eq_some_iff.mp hl
  rw [(List.cons.inj heq).2] at h
  simp at h

/-- Between delimiters there may be runs of spaces. -/
lemma ignoresWidth_enclosed? (hopening : opening ≠ ' ') (hclosing : closing ≠ ' ')
    (hkind : kind ≠ .identifier) : IgnoresWidth (enclosed? opening closing kind) := by
  intro cs
  cases cs with
  | nil => exact .none
  | cons c cs =>
    by_cases hc : c = opening
    · rw [hc, squeeze_cons_of_ne hopening]
      by_cases hmem : closing ∈ cs
      · obtain ⟨inner, rest, rfl, hinner⟩ := List.eq_append_cons_of_mem hmem
        have hnarrow : closing ∉ squeeze inner := fun h => hinner (mem_squeeze.mp h)
        rw [squeeze_append_cons hclosing, enclosed?_eq_some_iff.mpr ⟨inner, rest, rfl, hinner, rfl⟩,
          enclosed?_eq_some_iff.mpr ⟨squeeze inner, squeeze rest, rfl, hnarrow, rfl⟩]
        refine .some ⟨rfl, fun h => absurd h hkind, isEmpty_squeeze inner, ?_⟩
        rw [squeeze_cons_of_ne hopening, squeeze_append_cons hclosing]
        simp
      · rw [enclosed?_of_not_mem hmem, enclosed?_of_not_mem (mem_squeeze.not.mpr hmem)]
        exact .none
    · obtain ⟨ds, hds⟩ := exists_squeeze_cons c cs
      rw [hds, enclosed?_of_ne hc, enclosed?_of_ne hc]
      exact .none

/-- Spaces alone make a block non-empty, however many they are. -/
lemma ignoresWidth_block? (hopening : opening ≠ ' ') (hclosing : closing ≠ ' ')
    (hkind : kind ≠ .identifier) : IgnoresWidth (block? opening closing kind) := by
  intro cs
  have hrel := ignoresWidth_enclosed? hopening hclosing hkind cs
  rw [block?, block?]
  generalize enclosed? opening closing kind cs = a,
    enclosed? opening closing kind (squeeze cs) = b at hrel
  cases hrel with
  | none => exact .none
  | some hagrees =>
    rw [Option.filter_some, Option.filter_some, hagrees.isEmpty]
    split
    · exact .some hagrees
    · exact .none

lemma ignoresWidth_findSome? {forms : List (List Char → Option Lexeme)}
    (h : ∀ form ∈ forms, IgnoresWidth form) : IgnoresWidth fun cs => forms.findSome? (· cs) := by
  intro cs
  induction forms with
  | nil => exact .none
  | cons form forms ih =>
    obtain ⟨hform, hforms⟩ := List.forall_mem_cons.mp h
    have hrel := hform cs
    simp only [List.findSome?_cons]
    generalize form cs = a, form (squeeze cs) = b at hrel
    cases hrel with
    | none => exact ih hforms
    | some hagrees => exact .some hagrees

/-- What stands at the start of a text does not depend on how wide the gaps are. -/
theorem ignoresWidth_first? : IgnoresWidth first? := by
  apply ignoresWidth_findSome?
  simp only [forms, List.forall_mem_cons, List.not_mem_nil, false_implies, implies_true, and_true]
  refine ⟨?_, ?_, ?_, ?_, ?_, ?_, ?_, ?_, ?_, ?_, ignoresWidth_number?, ignoresWidth_identifier?⟩
  iterate 5 exact ignoresWidth_symbol? (by decide) _
  iterate 3 exact ignoresWidth_block? (by decide) (by decide) (by decide)
  iterate 2 exact ignoresWidth_enclosed? (by decide) (by decide) (by decide)

end Lexeme

/-! ### Tokens -/

namespace Token

open Text

/-- What a token is, without its place; of its value only a name is kept. -/
def outline (t : Token) : Token :=
  ⟨t.kind, if t.kind = .identifier then t.value else "", 0, 0, 0⟩

@[simp] lemma kind_outline (t : Token) : t.outline.kind = t.kind := rfl

lemma value_outline {t : Token} (h : t.kind = .identifier) : t.outline.value = t.value :=
  if_pos h

variable {cs cs' : List Char}

/-- The tokens of a text are those of the text with narrow gaps. -/
lemma map_outline_scanFrom (line line' : Int) (offset offset' : Nat) (cs : List Char) :
    (scanFrom line offset cs).map outline = (scanFrom line' offset' (squeeze cs)).map outline := by
  fun_induction scanFrom line offset cs generalizing offset' with
  | case1 => simp [squeeze, scanFrom]
  | case2 offset c cs l hl ih =>
    have hsize := (Lexeme.next_of_first?_eq_some hl).size_pos
    have hrel := Lexeme.ignoresWidth_first? (c :: cs)
    rw [hl] at hrel
    cases hl' : Lexeme.first? (squeeze (c :: cs)) with
    | none =>
      rw [hl'] at hrel
      cases hrel
    | some l' =>
      rw [hl'] at hrel
      cases hrel with
      | some hagrees =>
        rw [scanFrom_of_some hl', List.map_cons, List.map_cons, hagrees.rest, List.drop_cons hsize,
          ih (offset' + l'.size)]
        by_cases hkind : l.kind = .identifier
        · simp [outline, hagrees.kind, hagrees.value hkind]
        · simp [outline, hagrees.kind, hkind]
  | case3 offset c cs hnone ih =>
    have hrel := Lexeme.ignoresWidth_first? (c :: cs)
    rw [hnone] at hrel
    rw [squeeze, push] at hrel ⊢
    split at hrel
    next hspaces => rw [if_pos hspaces, ih offset']
    next hspaces =>
      rw [if_neg hspaces]
      cases hnone' : Lexeme.first? (c :: squeeze cs) with
      | none => rw [scanFrom, hnone', ih (offset' + 1)]
      | some l' =>
        rw [hnone'] at hrel
        cases hrel

/-- Texts that differ in the width of their gaps have the same tokens. -/
theorem map_outline_congr (h : squeeze cs = squeeze cs') (line line' : Int) (offset offset' : Nat) :
    (scanFrom line offset cs).map outline = (scanFrom line' offset' cs').map outline := by
  have hcs := map_outline_scanFrom line line offset offset cs
  have hcs' := map_outline_scanFrom line' line offset' offset cs'
  rw [hcs, hcs', h]

/-- What the tokens of a line are, in their order. -/
def outlines (width : Nat) (cs : List Char) : List Token :=
  (scanFrom 0 0 (expandTabsFrom width 0 cs)).map outline

variable {width : Nat}

lemma map_outline_scan (width : Nat) (line : Int) (text : String) :
    (scan width line text).map outline = outlines width text.toList :=
  map_outline_congr rfl line 0 0 0

/-- A part of a line has the same tokens wherever it stands. -/
lemma outlines_eq (hwidth : 1 ≤ width) (column offset : Nat) (cs : List Char) :
    (scanFrom 0 offset (expandTabsFrom width column cs)).map outline = outlines width cs :=
  map_outline_congr (squeeze_expandTabsFrom hwidth column 0 cs) 0 0 offset 0

lemma map_outline_spaces (n offset : Nat) (cs : List Char) :
    (scanFrom 0 offset (List.replicate n ' ' ++ cs)).map outline =
      (scanFrom 0 0 cs).map outline := by
  induction n generalizing offset with
  | zero => exact map_outline_congr rfl 0 0 offset 0
  | succ n ih =>
    rw [List.replicate_succ, List.cons_append, scanFrom, Lexeme.first?_of_isBlank (by decide)]
    exact ih (offset + 1)

lemma outlines_blanks (hwidth : 1 ≤ width) {blanks : List Char}
    (h : ∀ c ∈ blanks, isBlank c = true) (rest : List Char) :
    outlines width (blanks ++ rest) = outlines width rest := by
  induction blanks with
  | nil => rfl
  | cons c blanks ih =>
    obtain ⟨hc, hblanks⟩ := List.forall_mem_cons.mp h
    rw [← ih hblanks, List.cons_append, outlines]
    by_cases htab : c = '\t'
    · rw [htab, expandTabsFrom, if_neg (by omega)]
      simp only [map_outline_spaces]
      exact outlines_eq hwidth _ 0 _
    · rw [expandTabsFrom.eq_3 _ _ _ _ htab]
      split
      · rw [scanFrom, Lexeme.first?_of_isBlank hc]
        exact outlines_eq hwidth _ _ _
      · rw [scanFrom, Lexeme.first?_of_isBlank hc]
        exact outlines_eq hwidth _ _ _

/-- A spelled token at the start of a line that does not go on with what follows. -/
lemma outlines_chars (hwidth : 1 ≤ width) {s : Shape} (hs : s.Legible)
    (hplain : Plain s.chars) {rest : List Char}
    (hrest : s.kind.EndsBefore rest) :
    outlines width (s.chars ++ rest) =
      outline ⟨s.kind, s.value, 0, 0, 0⟩ :: outlines width rest := by
  rw [outlines, expandTabsFrom_append hplain,
    scanFrom_chars hs (endsBefore_expandTabsFrom hwidth hrest _), List.map_cons,
    outlines_eq hwidth]
  rfl

end Token

end BlockScript
