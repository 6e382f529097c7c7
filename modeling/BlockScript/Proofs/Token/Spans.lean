import BlockScript.Proofs.Lines
import BlockScript.Proofs.Token.Patterns
import BlockScript.Token.Source
import Mathlib.Data.List.Pairwise

/-!
# Spans of tokens

The tokens of a line stand in it one after the other, without overlap. At each of them the first
pattern that has a match there has this match, and between them no pattern has one
(`Token.scans_ofLine`). So nothing that can be read is passed over.
-/

namespace BlockScript

/-! ### The texts of patterns -/

namespace TokenPattern

variable {kind : TokenKind} {p : TokenPattern} {cs value text : List Char} {size : Nat}

/-- The text of a token is its value with the delimiters of its kind; a string may have single quotes
instead. -/
lemma text_eq (hp : (kind, p) ∈ all) (h : p value text) :
    text = kind.delimiters.1 ++ value ++ kind.delimiters.2 ∨
      kind = .string ∧ text = '\'' :: (value ++ ['\'']) := by
  simp only [all, List.mem_cons, Prod.mk.injEq, List.not_mem_nil, or_false] at hp
  rcases hp with h' | h' | h' | h' | h' | h' | h' | h' | h' | h' | h' | h' <;> obtain ⟨rfl, rfl⟩ := h'
  iterate 5
    obtain ⟨rfl, rfl⟩ := h
    exact .inl (by simp [TokenKind.delimiters])
  iterate 3
    obtain ⟨-, -, rfl⟩ := h
    exact .inl rfl
  · obtain ⟨-, rfl⟩ := h
    exact .inl rfl
  · obtain ⟨-, rfl⟩ := h
    exact .inr ⟨rfl, rfl⟩
  iterate 2
    obtain ⟨rfl, -⟩ := h
    exact .inl (by simp [TokenKind.delimiters])

/-- No token is empty. -/
lemma text_ne_nil (hp : (kind, p) ∈ all) (h : p value text) : text ≠ [] := by
  rintro rfl
  have hnone : Lexeme.first? [] = none := rfl
  exact Lexeme.fails_of_first?_eq_none hnone (kind, p) hp value [] h List.nil_prefix

lemma Next.exists_text (h : Next cs kind value size) :
    ∃ p, (kind, p) ∈ all ∧ p value (cs.take size) ∧ size ≤ cs.length := by
  obtain ⟨before, p, after, hall, -, hmatches⟩ := h
  exact ⟨p, by simp [hall], hmatches.text, hmatches.size_le⟩

lemma Next.size_pos (h : Next cs kind value size) : 0 < size := by
  obtain ⟨p, hp, htext, -⟩ := h.exists_text
  refine Nat.pos_of_ne_zero ?_
  rintro rfl
  exact text_ne_nil hp htext List.take_zero

/-- The value of a token stands in the text. -/
lemma Next.infix_value (h : Next cs kind value size) : value <:+: cs := by
  obtain ⟨p, hp, htext, -⟩ := h.exists_text
  have hvalue : value <:+: cs.take size := by
    rcases text_eq hp htext with heq | ⟨-, heq⟩
    · exact heq ▸ List.infix_append _ _ _
    · exact heq ▸ List.infix_append ['\''] value ['\'']
  exact hvalue.trans (List.take_prefix _ _).isInfix

end TokenPattern

namespace Token

open TokenPattern

variable {line : Int} {offset : Nat} {whole cs : List Char} {t : Token}

/-- The characters of a line that a token takes. -/
def textIn (t : Token) (cs : List Char) : List Char :=
  (cs.drop t.start).take (t.stop - t.start)

/-- What the tokens of a line are. -/
structure Scans (line : Int) (cs : List Char) (tokens : List Token) : Prop where
  line : ∀ t ∈ tokens, t.line = line ∧ t.column = t.start + 1
  bounds : ∀ t ∈ tokens, t.start < t.stop ∧ t.stop ≤ cs.length
  order : tokens.Pairwise fun a b => a.stop ≤ b.start
  /-- A token is spelled by its value and its delimiters; single quotes are restored as double ones. -/
  text : ∀ t ∈ tokens, t.textIn cs = t.source.toList ∨
    t.kind = .string ∧ t.textIn cs = '\'' :: (t.value.toList ++ ['\''])
  next : ∀ t ∈ tokens, Next (cs.drop t.start) t.kind t.value.toList (t.stop - t.start)
  /-- No pattern has a match at a character outside of all tokens. -/
  passed : ∀ k < cs.length, (∀ t ∈ tokens, ¬ (t.start ≤ k ∧ k < t.stop)) →
    ∀ q ∈ TokenPattern.all, q.2.Fails (cs.drop k)

lemma scanFrom_of_some {l : Lexeme} (h : Lexeme.first? cs = some l) (line : Int) (offset : Nat) :
    scanFrom line offset cs = ⟨l.kind, String.ofList l.value, line, offset, offset + l.size⟩ ::
      scanFrom line (offset + l.size) (cs.drop l.size) := by
  have hsize := (Lexeme.next_of_first?_eq_some h).size_pos
  cases cs with
  | nil => cases h
  | cons c cs => rw [scanFrom, h, List.drop_cons hsize]

/-- Each token is the first match where it stands. -/
lemma next_of_mem_scanFrom (hcs : whole.drop offset = cs) (h : t ∈ scanFrom line offset cs) :
    Next (whole.drop t.start) t.kind t.value.toList (t.stop - t.start) := by
  fun_induction scanFrom line offset cs with
  | case1 => simp at h
  | case2 offset c cs l hl ih =>
    have hsize := (Lexeme.next_of_first?_eq_some hl).size_pos
    rcases List.mem_cons.mp h with rfl | h
    · simpa [hcs] using Lexeme.next_of_first?_eq_some hl
    · refine ih ?_ h
      rw [← List.drop_drop, hcs, List.drop_cons hsize]
  | case3 offset c cs _ ih =>
    refine ih ?_ h
    rw [← List.drop_drop, hcs, List.drop_one, List.tail_cons]

/-- Tokens stand in the order of the line, take at least one character each and do not overlap. -/
lemma pairwise_scanFrom (line : Int) (offset : Nat) (cs : List Char) :
    (∀ t ∈ scanFrom line offset cs, offset ≤ t.start ∧ t.start < t.stop) ∧
      (scanFrom line offset cs).Pairwise (·.stop ≤ ·.start) := by
  fun_induction scanFrom line offset cs with
  | case1 => simp
  | case2 offset c cs l hl ih =>
    have hsize := (Lexeme.next_of_first?_eq_some hl).size_pos
    refine ⟨List.forall_mem_cons.mpr ⟨⟨le_rfl, Nat.lt_add_of_pos_right hsize⟩, fun t ht => ?_⟩,
      List.pairwise_cons.mpr ⟨fun t ht => (ih.1 t ht).1, ih.2⟩⟩
    exact ⟨le_trans (Nat.le_add_right _ _) (ih.1 t ht).1, (ih.1 t ht).2⟩
  | case3 offset c cs _ ih =>
    exact ⟨fun t ht => ⟨le_trans (Nat.le_add_right _ _) (ih.1 t ht).1, (ih.1 t ht).2⟩, ih.2⟩

lemma pairwise_start_scanFrom (line : Int) (offset : Nat) (cs : List Char) :
    (scanFrom line offset cs).Pairwise (·.start < ·.start) := by
  obtain ⟨hspans, horder⟩ := pairwise_scanFrom line offset cs
  refine horder.imp_of_mem fun {t u} ht _ hle => ?_
  have := (hspans t ht).2
  omega

/-- Where no token stands there is no match. -/
lemma fails_of_passed (hcs : whole.drop offset = cs) {k : Nat} (hk : offset ≤ k)
    (hlength : k < whole.length)
    (h : ∀ t ∈ scanFrom line offset cs, ¬ (t.start ≤ k ∧ k < t.stop)) :
    ∀ q ∈ TokenPattern.all, q.2.Fails (whole.drop k) := by
  fun_induction scanFrom line offset cs with
  | case1 =>
    rw [List.drop_eq_nil_iff] at hcs
    omega
  | case2 offset c cs l hl ih =>
    have hsize := (Lexeme.next_of_first?_eq_some hl).size_pos
    rw [List.forall_mem_cons] at h
    refine ih ?_ ?_ h.2
    · rw [← List.drop_drop, hcs, List.drop_cons hsize]
    · by_contra hbefore
      exact h.1 ⟨hk, Nat.lt_of_not_le hbefore⟩
  | case3 offset c cs hnone ih =>
    rcases Nat.eq_or_lt_of_le hk with rfl | hafter
    · rw [hcs]
      exact Lexeme.fails_of_first?_eq_none hnone
    · refine ih ?_ hafter h
      rw [← List.drop_drop, hcs, List.drop_one, List.tail_cons]

lemma scans_scanFrom (line : Int) (cs : List Char) : Scans line cs (scanFrom line 0 cs) where
  line t ht := ⟨line_of_mem_scanFrom ht, rfl⟩
  bounds t ht := by
    have hspan := ((pairwise_scanFrom line 0 cs).1 t ht).2
    obtain ⟨p, -, -, hle⟩ := (next_of_mem_scanFrom List.drop_zero ht).exists_text
    rw [List.length_drop] at hle
    omega
  order := (pairwise_scanFrom line 0 cs).2
  text t ht := by
    obtain ⟨p, hp, htext, -⟩ := (next_of_mem_scanFrom List.drop_zero ht).exists_text
    simpa [source, textIn] using text_eq hp htext
  next t ht := next_of_mem_scanFrom List.drop_zero ht
  passed k hk h := fails_of_passed List.drop_zero (Nat.zero_le k) hk h

/-- No two tokens share a character. -/
lemma Scans.eq_of_mem {tokens : List Token} (h : Scans line cs tokens) {k : Nat} {t u : Token}
    (ht : t ∈ tokens) (hu : u ∈ tokens) (htk : t.start ≤ k ∧ k < t.stop)
    (huk : u.start ≤ k ∧ k < u.stop) : t = u := by
  let R : Token → Token → Prop := fun a b =>
    a.start ≤ k ∧ k < a.stop → b.start ≤ k ∧ k < b.stop → a = b
  have hforward : tokens.Pairwise R := h.order.imp fun {a b} hab ha hb => by omega
  have hbackward : tokens.Pairwise (flip R) := h.order.imp fun {a b} hab hb ha => by omega
  exact hforward.forall_of_forall_of_flip (fun _ _ _ _ => rfl) hbackward ht hu htk huk

/-- A text that is spelled by some pattern alone does not go unread. -/
lemma Scans.existsUnique {tokens : List Token} (h : Scans line cs tokens) {k : Nat} {c : Char}
    (hc : cs[k]? = some c) {kind : TokenKind} {p : TokenPattern} {value : List Char}
    (hp : (kind, p) ∈ TokenPattern.all) (hvalue : p value [c]) :
    ∃! t, t ∈ tokens ∧ t.start ≤ k ∧ k < t.stop := by
  obtain ⟨hk, hget⟩ := List.getElem?_eq_some_iff.mp hc
  have hexists : ∃ t ∈ tokens, t.start ≤ k ∧ k < t.stop := by
    by_contra hnone
    push Not at hnone
    have hfails := h.passed k hk fun t ht hspan => absurd hspan.2 (Nat.not_lt.mpr (hnone t ht hspan.1))
    refine hfails (kind, p) hp value [c] hvalue ?_
    rw [List.drop_eq_getElem_cons hk, hget]
    exact List.cons_prefix_cons.mpr ⟨rfl, List.nil_prefix⟩
  obtain ⟨t, ht, hspan⟩ := hexists
  exact ⟨t, ⟨ht, hspan⟩, fun u hu => h.eq_of_mem hu.1 ht hu.2 hspan⟩

/-- Letters, digits, underscores and percent signs are tokens or start one. -/
lemma exists_pattern {c : Char}
    (h : c.isAlpha = true ∨ Text.isDigit c = true ∨ c = '_' ∨ c = '%') :
    ∃ kind p, (kind, p) ∈ TokenPattern.all ∧ p [c] [c] := by
  rcases h with h | h | rfl | rfl
  · refine ⟨.identifier, identifier, by simp [TokenPattern.all], rfl, c, [], ?_, by simp, rfl⟩
    rw [Lexeme.startsIdentifier, h, Bool.true_or]
  · exact ⟨.number, numeral, by simp [TokenPattern.all], rfl, [c], by simp, by simpa using h, .inl rfl⟩
  · exact ⟨.identifier, identifier, by simp [TokenPattern.all], rfl, '_', [], rfl, by simp, rfl⟩
  · exact ⟨.parameter, operator "%", by simp [TokenPattern.all], rfl, rfl⟩

/-- A line is scanned into tokens, followed by the end mark. Every letter, digit, underscore and
percent sign stands in exactly one of them. -/
theorem scans_ofLine (width : Nat) (line : Int) (text : String) :
    let cs := Text.expandTabs width text
    ∃ tokens, ofLine width line text = tokens ++ [endMark line cs.length] ∧ Scans line cs tokens ∧
      ∀ (k : Nat) (c : Char), cs[k]? = some c →
        c.isAlpha = true ∨ Text.isDigit c = true ∨ c = '_' ∨ c = '%' →
        ∃! t, t ∈ tokens ∧ t.start ≤ k ∧ k < t.stop := by
  intro cs
  have hscans := scans_scanFrom line cs
  refine ⟨scan width line text, rfl, hscans, fun k c hc hclass => ?_⟩
  obtain ⟨kind, p, hp, hvalue⟩ := exists_pattern hclass
  exact hscans.existsUnique hc hp hvalue

end Token

end BlockScript
