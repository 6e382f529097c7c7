import BlockScript.Token.Scan
import Mathlib.Data.List.TakeWhile
import Mathlib.Tactic.Common

/-!
# Token patterns

What the tokens of each kind look like, without regard to how they are found. A text starts with the
token of the first pattern that has a match there, and this match is the longest
(`Lexeme.next_of_first?_eq_some`); without a token no pattern has a match
(`Lexeme.fails_of_first?_eq_none`).
-/

namespace BlockScript

/-- A stretch of items that pass a test ends at the first one that does not. -/
lemma span_append {α : Type} {q : α → Bool} {front rest : List α} (h : ∀ a ∈ front, q a = true)
    (hstop : ∀ a ∈ rest.head?, q a = false) :
    (front ++ rest).takeWhile q = front ∧ (front ++ rest).dropWhile q = rest := by
  rw [List.takeWhile_append_of_pos h, List.dropWhile_append_of_pos h]
  cases rest with
  | nil => exact ⟨List.append_nil _, rfl⟩
  | cons a rest =>
    have ha := hstop a rfl
    rw [List.takeWhile_cons_of_neg (by simp [ha]), List.dropWhile_cons_of_neg (by simp [ha])]
    exact ⟨List.append_nil _, rfl⟩

/-- Values, each with a text that spells it. -/
abbrev TokenPattern := List Char → List Char → Prop

namespace TokenPattern

/-- An operator stands for itself. -/
def operator (spelling : String) : TokenPattern := fun value text =>
  value = spelling.toList ∧ text = spelling.toList

/-- A bracketed block ends at the first closing bracket, and is not empty. -/
def block (opening closing : Char) : TokenPattern := fun value text =>
  value ≠ [] ∧ closing ∉ value ∧ text = opening :: (value ++ [closing])

/-- A string ends at the next quote. -/
def quoted (quote : Char) : TokenPattern := fun value text =>
  quote ∉ value ∧ text = quote :: (value ++ [quote])

/-- Digits, and a point with more digits if both are there. -/
def numeral : TokenPattern := fun value text =>
  value = text ∧ ∃ whole ≠ [], (∀ d ∈ whole, Text.isDigit d = true) ∧
    (text = whole ∨
      ∃ fraction ≠ [], (∀ d ∈ fraction, Text.isDigit d = true) ∧ text = whole ++ '.' :: fraction)

/-- A letter or an underscore, and more letters, digits and underscores. -/
def identifier : TokenPattern := fun value text =>
  value = text ∧ ∃ c cs, Lexeme.startsIdentifier c = true ∧
    (∀ d ∈ cs, Lexeme.continuesIdentifier d = true) ∧ text = c :: cs

/-- The patterns of all tokens, in order of precedence. -/
def all : List (TokenKind × TokenPattern) := [
  (.hierarchical, operator ":^:"),
  (.root, operator "::"),
  (.relation, operator "//"),
  (.parameter, operator "%"),
  (.trigger, operator "->"),
  (.actionBlock, block '\x7b' '\x7d'),
  (.variableBlock, block '[' ']'),
  (.optionBlock, block '(' ')'),
  (.string, quoted '"'),
  (.string, quoted '\''),
  (.number, numeral),
  (.identifier, identifier)]

/-- Whether a text starts with nothing that the pattern has. -/
def Fails (p : TokenPattern) (cs : List Char) : Prop :=
  ∀ value text, p value text → ¬ text <+: cs

/-- Whether the longest match at the start of a text takes `size` characters and spells `value`. -/
structure Matches (p : TokenPattern) (cs value : List Char) (size : Nat) : Prop where
  size_le : size ≤ cs.length
  text : p value (cs.take size)
  longest : ∀ value' text, p value' text → text <+: cs → text.length ≤ size

/-- The match of the first pattern that has one. -/
def Next (cs : List Char) (kind : TokenKind) (value : List Char) (size : Nat) : Prop :=
  ∃ before p after, all = before ++ (kind, p) :: after ∧ (∀ q ∈ before, q.2.Fails cs) ∧
    p.Matches cs value size

variable {p : TokenPattern} {value text : List Char}

lemma Matches.of_append (rest : List Char) (h : p value text)
    (hlongest : ∀ value' text', p value' text' → text' <+: text ++ rest → text'.length ≤ text.length) :
    p.Matches (text ++ rest) value text.length := by
  refine ⟨?_, ?_, hlongest⟩
  · rw [List.length_append]
    omega
  · rwa [List.take_left]

end TokenPattern

namespace Lexeme

open TokenPattern

/-- Whether a form finds the matches of a pattern. -/
def Recognizes (form : List Char → Option Lexeme) (kind : TokenKind) (p : TokenPattern) : Prop :=
  ∀ cs, (∀ l, form cs = some l → l.kind = kind ∧ p.Matches cs l.value l.size) ∧
    (∀ value text, p value text → text <+: cs → form cs ≠ none)

/-! ### Operators -/

lemma symbol?_eq_some_iff {spelling : String} {kind : TokenKind} {cs : List Char} {l : Lexeme} :
    symbol? spelling kind cs = some l ↔
      spelling.toList <+: cs ∧ l = ⟨kind, spelling.toList, spelling.length⟩ := by
  rw [symbol?, Option.ite_none_right_eq_some, List.isPrefixOf_iff_prefix, Option.some.injEq, eq_comm]

lemma recognizes_symbol? (spelling : String) (kind : TokenKind) :
    Recognizes (symbol? spelling kind) kind (operator spelling) := by
  refine fun cs => ⟨fun l hl => ?_, ?_⟩
  · obtain ⟨⟨rest, rfl⟩, rfl⟩ := symbol?_eq_some_iff.mp hl
    refine ⟨rfl, Matches.of_append _ ⟨rfl, rfl⟩ ?_⟩
    rintro _ _ ⟨-, rfl⟩ -
    exact le_rfl
  · rintro _ _ ⟨-, rfl⟩ hstart
    rw [symbol?_eq_some_iff.mpr ⟨hstart, rfl⟩]
    exact Option.some_ne_none _

/-! ### Blocks and strings -/

lemma takeWhile_ne_append {closing : Char} {inner : List Char} (h : closing ∉ inner)
    (rest : List Char) : (inner ++ closing :: rest).takeWhile (· ≠ closing) = inner := by
  have hall : ∀ c ∈ inner, decide (c ≠ closing) = true :=
    fun c hc => decide_eq_true fun heq => h (heq ▸ hc)
  exact (span_append hall (by simp)).1

lemma enclosed?_eq_some_iff {opening closing : Char} {kind : TokenKind} {cs : List Char}
    {l : Lexeme} : enclosed? opening closing kind cs = some l ↔
      ∃ inner rest, cs = opening :: (inner ++ closing :: rest) ∧ closing ∉ inner ∧
        l = ⟨kind, inner, inner.length + 2⟩ := by
  constructor
  · intro h
    cases cs with
    | nil => simp [enclosed?] at h
    | cons c cs =>
      simp only [enclosed?, Option.ite_none_right_eq_some, Option.some.injEq] at h
      obtain ⟨⟨rfl, hlength⟩, rfl⟩ := h
      have hsplit := List.takeWhile_append_dropWhile (p := (· ≠ closing)) (l := cs)
      cases hrest : cs.dropWhile (· ≠ closing) with
      | nil =>
        rw [hrest, List.append_nil] at hsplit
        rw [hsplit] at hlength
        exact absurd hlength (lt_irrefl _)
      | cons d rest =>
        have hstop := List.head?_dropWhile_not (· ≠ closing) cs
        rw [hrest] at hstop
        obtain rfl : d = closing := by simpa using hstop
        refine ⟨cs.takeWhile (· ≠ d), rest, ?_, fun hmem => ?_, rfl⟩
        · rw [← hrest, hsplit]
        · simpa using List.mem_takeWhile_imp hmem
  · rintro ⟨inner, rest, rfl, hinner, rfl⟩
    simp only [enclosed?, takeWhile_ne_append hinner]
    simp

/-- What stands between two brackets is determined by where the first closing one is. -/
lemma inner_unique {closing : Char} {inner inner' rest : List Char} (h : closing ∉ inner)
    (h' : closing ∉ inner') (hstart : inner' ++ [closing] <+: inner ++ closing :: rest) :
    inner' = inner := by
  obtain ⟨rest', heq⟩ := hstart
  rw [List.append_assoc, List.singleton_append] at heq
  rw [← takeWhile_ne_append h' rest', heq, takeWhile_ne_append h]

lemma matches_enclosed {p : TokenPattern} {opening closing : Char} {inner : List Char}
    (hclosing : ∀ value text, p value text → closing ∉ value ∧ text = opening :: (value ++ [closing]))
    (h : p inner (opening :: (inner ++ [closing]))) (rest : List Char) :
    p.Matches (opening :: (inner ++ closing :: rest)) inner (inner.length + 2) := by
  have hlongest : ∀ value text, p value text → text <+: opening :: (inner ++ closing :: rest) →
      text.length ≤ inner.length + 2 := by
    intro value text hp hstart
    obtain ⟨hvalue, rfl⟩ := hclosing value text hp
    rw [inner_unique (hclosing _ _ h).1 hvalue (List.cons_prefix_cons.mp hstart).2]
    simp
  have hmatches := Matches.of_append rest h
  simp only [List.cons_append, List.append_assoc, List.nil_append, List.length_cons,
    List.length_append, List.length_nil] at hmatches
  exact hmatches hlongest

lemma recognizes_block? (opening closing : Char) (kind : TokenKind) :
    Recognizes (block? opening closing kind) kind (block opening closing) := by
  refine fun cs => ⟨fun l hl => ?_, ?_⟩
  · obtain ⟨henclosed, hne⟩ := Option.filter_eq_some_iff.mp hl
    obtain ⟨inner, rest, rfl, hinner, rfl⟩ := enclosed?_eq_some_iff.mp henclosed
    have hne : inner ≠ [] := by simpa using hne
    exact ⟨rfl, matches_enclosed (fun _ _ h => h.2) ⟨hne, hinner, rfl⟩ rest⟩
  · rintro value _ ⟨hne, hvalue, rfl⟩ ⟨rest, rfl⟩
    have henclosed : enclosed? opening closing kind (opening :: (value ++ closing :: rest)) =
        some ⟨kind, value, value.length + 2⟩ :=
      enclosed?_eq_some_iff.mpr ⟨value, rest, rfl, hvalue, rfl⟩
    simp [block?, henclosed, hne]

lemma recognizes_enclosed? (quote : Char) (kind : TokenKind) :
    Recognizes (enclosed? quote quote kind) kind (quoted quote) := by
  refine fun cs => ⟨fun l hl => ?_, ?_⟩
  · obtain ⟨inner, rest, rfl, hinner, rfl⟩ := enclosed?_eq_some_iff.mp hl
    exact ⟨rfl, matches_enclosed (fun _ _ h => h) ⟨hinner, rfl⟩ rest⟩
  · rintro value _ ⟨hvalue, rfl⟩ ⟨rest, rfl⟩
    have henclosed : enclosed? quote quote kind (quote :: (value ++ quote :: rest)) =
        some ⟨kind, value, value.length + 2⟩ :=
      enclosed?_eq_some_iff.mpr ⟨value, rest, rfl, hvalue, rfl⟩
    simp [henclosed]

/-! ### Names and numbers -/

lemma length_le_of_leading {q : Char → Bool} {text front rest : List Char}
    (h : ∀ c ∈ text, q c = true) (hfront : ∀ c ∈ front, q c = true)
    (hstop : ∀ c ∈ rest.head?, q c = false) (hstart : text <+: front ++ rest) :
    text.length ≤ front.length := by
  obtain ⟨others, heq⟩ := hstart
  rw [← (span_append hfront hstop).1, ← heq, List.takeWhile_append_of_pos h, List.length_append]
  omega

lemma head?_dropWhile (q : Char → Bool) (cs : List Char) :
    ∀ c ∈ (cs.dropWhile q).head?, q c = false := by
  intro c hc
  have hstop := List.head?_dropWhile_not q cs
  rwa [Option.mem_def.mp hc] at hstop

lemma recognizes_identifier? : Recognizes identifier? .identifier identifier := by
  refine fun cs => ⟨fun l hl => ?_, ?_⟩
  · cases cs with
    | nil => simp [identifier?] at hl
    | cons c cs =>
      simp only [identifier?, Option.ite_none_right_eq_some, Option.some.injEq] at hl
      obtain ⟨hc, rfl⟩ := hl
      have hname : ∀ d ∈ cs.takeWhile continuesIdentifier, continuesIdentifier d = true :=
        fun d hd => List.mem_takeWhile_imp hd
      have hsplit : c :: cs = c :: cs.takeWhile continuesIdentifier ++
          cs.dropWhile continuesIdentifier := by
        rw [List.cons_append, List.takeWhile_append_dropWhile]
      refine ⟨rfl, ?_⟩
      conv => arg 2; rw [hsplit]
      refine Matches.of_append _ ⟨rfl, c, _, hc, hname, rfl⟩ ?_
      rintro _ _ ⟨rfl, d, ds, -, hds, rfl⟩ hstart
      exact Nat.succ_le_succ (length_le_of_leading hds hname (head?_dropWhile _ _)
        (List.cons_prefix_cons.mp hstart).2)
  · rintro _ _ ⟨rfl, c, name, hc, -, rfl⟩ ⟨rest, rfl⟩
    simp [identifier?, hc]

/-- A number without a fraction. -/
lemma number?_whole {whole rest : List Char} (hne : whole ≠ [])
    (hwhole : ∀ d ∈ whole, Text.isDigit d = true) (hstop : ∀ c ∈ rest.head?, Text.isDigit c = false)
    (hpoint : ∀ others, rest = '.' :: others → others.takeWhile Text.isDigit = []) :
    number? (whole ++ rest) = some ⟨.number, whole, whole.length⟩ := by
  obtain ⟨htake, hdrop⟩ := span_append hwhole hstop
  simp only [number?, htake, hdrop]
  cases rest with
  | nil => simp [hne]
  | cons c others =>
    by_cases hc : c = '.'
    · subst hc
      simp [hpoint others rfl, hne]
    · simp [hc, hne]

/-- A number with a fraction. -/
lemma number?_decimal {whole fraction rest : List Char} (hne : whole ≠ [])
    (hwhole : ∀ d ∈ whole, Text.isDigit d = true) (hfne : fraction ≠ [])
    (hfraction : ∀ d ∈ fraction, Text.isDigit d = true)
    (hstop : ∀ c ∈ rest.head?, Text.isDigit c = false) :
    number? (whole ++ '.' :: (fraction ++ rest)) =
      some ⟨.number, whole ++ '.' :: fraction, (whole ++ '.' :: fraction).length⟩ := by
  have hpoint : ∀ c ∈ ('.' :: (fraction ++ rest)).head?, Text.isDigit c = false := by
    rintro c ⟨⟩
    decide
  obtain ⟨htake, hdrop⟩ := span_append hwhole hpoint
  simp [number?, htake, hdrop, (span_append hfraction hstop).1, hne, hfne]

lemma matches_whole {whole rest : List Char} (hne : whole ≠ [])
    (hwhole : ∀ d ∈ whole, Text.isDigit d = true) (hstop : ∀ c ∈ rest.head?, Text.isDigit c = false)
    (hpoint : ∀ others, rest = '.' :: others → others.takeWhile Text.isDigit = []) :
    numeral.Matches (whole ++ rest) whole whole.length := by
  refine Matches.of_append _ ⟨rfl, whole, hne, hwhole, .inl rfl⟩ ?_
  rintro _ _ ⟨rfl, whole', -, hwhole', rfl | ⟨fraction, hfne, hfraction, rfl⟩⟩ hstart
  · exact length_le_of_leading hwhole' hwhole hstop hstart
  · -- a point with digits behind it would be right behind the whole part
    obtain ⟨others, heq⟩ := hstart
    have hdot : ∀ c ∈ ('.' :: (fraction ++ others)).head?, Text.isDigit c = false := by
      rintro c ⟨⟩
      decide
    rw [List.append_assoc, List.cons_append] at heq
    have hrest : '.' :: (fraction ++ others) = rest := by
      rw [← (span_append hwhole' hdot).2, heq, (span_append hwhole hstop).2]
    have hnil := hpoint _ hrest.symm
    rw [List.takeWhile_append_of_pos hfraction] at hnil
    exact absurd (List.append_eq_nil_iff.mp hnil).1 hfne

lemma matches_decimal {whole fraction rest : List Char} (hne : whole ≠ [])
    (hwhole : ∀ d ∈ whole, Text.isDigit d = true) (hfne : fraction ≠ [])
    (hfraction : ∀ d ∈ fraction, Text.isDigit d = true)
    (hstop : ∀ c ∈ rest.head?, Text.isDigit c = false) :
    numeral.Matches (whole ++ '.' :: fraction ++ rest) (whole ++ '.' :: fraction)
      (whole ++ '.' :: fraction).length := by
  have hdot : ∀ others : List Char, ∀ c ∈ ('.' :: others).head?, Text.isDigit c = false := by
    rintro others c ⟨⟩
    decide
  refine Matches.of_append _ ⟨rfl, whole, hne, hwhole, .inr ⟨fraction, hfne, hfraction, rfl⟩⟩ ?_
  rintro _ _ ⟨rfl, whole', -, hwhole', rfl | ⟨fraction', -, hfraction', rfl⟩⟩ hstart
  · rw [List.append_assoc] at hstart
    have := length_le_of_leading hwhole' hwhole (hdot _) hstart
    rw [List.length_append]
    omega
  · obtain ⟨others, heq⟩ := hstart
    rw [List.append_assoc, List.append_assoc, List.cons_append, List.cons_append] at heq
    obtain ⟨htake', hdrop'⟩ := span_append hwhole' (hdot (fraction' ++ others))
    obtain ⟨htake, hdrop⟩ := span_append hwhole (hdot (fraction ++ rest))
    obtain rfl : whole' = whole := by rw [← htake', heq, htake]
    have hrest : fraction' ++ others = fraction ++ rest := by
      rw [heq, hdrop] at hdrop'
      exact (List.cons.inj hdrop').2.symm
    have := length_le_of_leading hfraction' hfraction hstop ⟨others, hrest⟩
    simp only [List.length_append, List.length_cons]
    omega

lemma recognizes_number? : Recognizes number? .number numeral := by
  refine fun cs => ⟨fun l hl => ?_, ?_⟩
  · have hwhole : ∀ d ∈ cs.takeWhile Text.isDigit, Text.isDigit d = true :=
      fun d hd => List.mem_takeWhile_imp hd
    have hne : cs.takeWhile Text.isDigit ≠ [] := by
      intro hnil
      simp [number?, hnil] at hl
    have hstop := head?_dropWhile Text.isDigit cs
    rw [← List.takeWhile_append_dropWhile (p := Text.isDigit) (l := cs)] at hl ⊢
    generalize cs.takeWhile Text.isDigit = whole at *
    generalize cs.dropWhile Text.isDigit = rest at *
    by_cases hpoint : ∀ others, rest = '.' :: others → others.takeWhile Text.isDigit = []
    · rw [number?_whole hne hwhole hstop hpoint] at hl
      cases hl
      exact ⟨rfl, matches_whole hne hwhole hstop hpoint⟩
    · push Not at hpoint
      obtain ⟨others, rfl, hfne⟩ := hpoint
      have hfraction : ∀ d ∈ others.takeWhile Text.isDigit, Text.isDigit d = true :=
        fun d hd => List.mem_takeWhile_imp hd
      have hend := head?_dropWhile Text.isDigit others
      rw [← List.takeWhile_append_dropWhile (p := Text.isDigit) (l := others)] at hl ⊢
      rw [number?_decimal hne hwhole hfne hfraction hend] at hl
      cases hl
      have hmatches := matches_decimal hne hwhole hfne hfraction hend
      rw [List.append_assoc, List.cons_append] at hmatches
      exact ⟨rfl, hmatches⟩
  · rintro text _ ⟨rfl, whole, hne, hwhole, htext⟩ ⟨rest, rfl⟩ hnone
    have hlead : ∃ others, text ++ rest = whole ++ others := by
      rcases htext with rfl | ⟨fraction, -, -, rfl⟩
      · exact ⟨rest, rfl⟩
      · exact ⟨'.' :: (fraction ++ rest), by simp⟩
    obtain ⟨others, heq⟩ := hlead
    simp [number?, heq, List.takeWhile_append_of_pos hwhole, hne] at hnone

/-! ### The first match -/

lemma recognizes_forms :
    List.Forall₂ (fun form q => Recognizes form q.1 q.2) forms TokenPattern.all := by
  simp only [forms, TokenPattern.all, List.forall₂_cons, List.Forall₂.nil, and_true]
  exact ⟨recognizes_symbol? _ _, recognizes_symbol? _ _, recognizes_symbol? _ _,
    recognizes_symbol? _ _, recognizes_symbol? _ _, recognizes_block? _ _ _, recognizes_block? _ _ _,
    recognizes_block? _ _ _, recognizes_enclosed? _ _, recognizes_enclosed? _ _,
    recognizes_number?, recognizes_identifier?⟩

/-- Forms that are tried one after the other find the first pattern that has a match. -/
lemma findSome?_of_recognizes {forms : List (List Char → Option Lexeme)}
    {qs : List (TokenKind × TokenPattern)} {cs : List Char}
    (h : List.Forall₂ (fun form q => Recognizes form q.1 q.2) forms qs) :
    (∀ l, forms.findSome? (· cs) = some l → ∃ before p after, qs = before ++ (l.kind, p) :: after ∧
        (∀ q ∈ before, q.2.Fails cs) ∧ p.Matches cs l.value l.size) ∧
      (forms.findSome? (· cs) = none → ∀ q ∈ qs, q.2.Fails cs) := by
  induction h with
  | nil => exact ⟨by simp, by simp⟩
  | @cons form q forms qs hform _ ih =>
    cases hcs : form cs with
    | none =>
      have hfails : q.2.Fails cs := fun value text hp hstart =>
        (hform cs).2 value text hp hstart hcs
      rw [List.findSome?_cons, hcs]
      refine ⟨fun l hl => ?_, fun hnone => List.forall_mem_cons.mpr ⟨hfails, ih.2 hnone⟩⟩
      obtain ⟨before, p, after, rfl, hbefore, hmatches⟩ := ih.1 l hl
      exact ⟨q :: before, p, after, rfl, List.forall_mem_cons.mpr ⟨hfails, hbefore⟩, hmatches⟩
    | some l' =>
      rw [List.findSome?_cons, hcs]
      refine ⟨fun l hl => ?_, by simp⟩
      obtain rfl : l' = l := Option.some.inj hl
      obtain ⟨hkind, hmatches⟩ := (hform cs).1 l' hcs
      exact ⟨[], q.2, qs, by rw [hkind]; rfl, by simp, hmatches⟩

variable {cs : List Char} {l : Lexeme}

/-- A lexeme is the match of the first pattern that has one. -/
theorem next_of_first?_eq_some (h : first? cs = some l) : Next cs l.kind l.value l.size :=
  (findSome?_of_recognizes recognizes_forms).1 l h

/-- Without a lexeme no pattern has a match. -/
theorem fails_of_first?_eq_none (h : first? cs = none) : ∀ q ∈ TokenPattern.all, q.2.Fails cs :=
  (findSome?_of_recognizes recognizes_forms).2 h

end Lexeme

end BlockScript
