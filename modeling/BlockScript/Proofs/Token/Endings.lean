import BlockScript.Proofs.Sentence.Basic
import BlockScript.Proofs.Token.Spans

/-!
# Where tokens end

A text that a pattern has is read as one token of its kind, unless it goes on with what follows
(`Lexeme.first?_append`). Only names and numbers go on, and no token of a line goes on with the
character behind it (`TokenPattern.Next.goesOn_eq_false`).
-/

namespace BlockScript

namespace TokenKind

/-- Whether a token may go on with a character that stands right behind it. -/
def goesOn : TokenKind → Char → Bool
  | .number, c => Text.isDigit c || c == '.'
  | .identifier, c => Lexeme.continuesIdentifier c
  | _, _ => false

/-- Whether a token that stands in front of a text ends there. -/
def EndsBefore (kind : TokenKind) (rest : List Char) : Prop :=
  ∀ c ∈ rest.head?, kind.goesOn c = false

lemma endsBefore_nil (kind : TokenKind) : kind.EndsBefore [] := by
  rintro c ⟨⟩

lemma endsBefore_blank (kind : TokenKind) (rest : List Char) : kind.EndsBefore (' ' :: rest) := by
  rintro c ⟨⟩
  cases kind <;> rfl

end TokenKind

/-! ### Characters that start tokens -/

lemma toNat_of_startsIdentifier {c : Char} (h : Lexeme.startsIdentifier c = true) :
    0x41 ≤ c.toNat ∧ c.toNat ≤ 0x5a ∨ c.toNat = 0x5f ∨ 0x61 ≤ c.toNat ∧ c.toNat ≤ 0x7a := by
  rcases (Bool.or_eq_true _ _).mp h with h | h
  · rcases (Bool.or_eq_true _ _).mp h with hupper | hlower
    · obtain ⟨hlo, hhi⟩ : c.val ≥ 'A'.val ∧ c.val ≤ 'Z'.val := of_decide_eq_true hupper
      exact .inl ⟨UInt32.le_iff_toNat_le.mp hlo, UInt32.le_iff_toNat_le.mp hhi⟩
    · obtain ⟨hlo, hhi⟩ := (Bool.and_eq_true _ _).mp hlower
      exact .inr (.inr ⟨UInt32.le_iff_toNat_le.mp (of_decide_eq_true hlo),
        UInt32.le_iff_toNat_le.mp (of_decide_eq_true hhi)⟩)
  · rw [beq_iff_eq.mp h]
    exact .inr (.inl rfl)

lemma isDigit_of_startsIdentifier {c : Char} (h : Lexeme.startsIdentifier c = true) :
    Text.isDigit c = false := by
  have hcode := toNat_of_startsIdentifier h
  have hascii : c.isDigit = false := by
    rw [Char.isDigit, Bool.and_eq_false_iff, decide_eq_false_iff_not, decide_eq_false_iff_not]
    refine .inr fun hupper => ?_
    have : c.toNat ≤ 0x39 := UInt32.le_iff_toNat_le.mp hupper
    omega
  have hlarge : ¬ c.toNat ≥ 0x80 := by omega
  simp [Text.isDigit, hascii, hlarge]

namespace Lexeme

open TokenPattern

/-- The characters that operators, blocks and strings start with. -/
def marks : List Char :=
  [':', '/', '%', '-', '\x7b', '[', '(', '"', '\'']

/-- What starts with none of them can only be a number or a name. -/
lemma first?_of_not_mark {c : Char} (h : c ∉ marks) (cs : List Char) :
    first? (c :: cs) = [number?, identifier?].findSome? (· (c :: cs)) := by
  simp only [marks, List.mem_cons, List.not_mem_nil, or_false, not_or] at h
  obtain ⟨hcolon, hslash, hpercent, hminus, hbrace, hbracket, hparen, hquote, hsingle⟩ := h
  simp [first?, forms, symbol?, block?, enclosed?, List.cons_prefix_cons, Ne.symm hcolon,
    Ne.symm hslash, Ne.symm hpercent, Ne.symm hminus, hbrace, hbracket, hparen, hquote, hsingle]

lemma first?_of_number? {d : Char} {cs : List Char} {l : Lexeme} (hd : Text.isDigit d = true)
    (h : number? (d :: cs) = some l) : first? (d :: cs) = some l := by
  have hmark : d ∉ marks := by
    have hplain : marks.all (!Text.isDigit ·) = true := by decide
    intro hmem
    simpa [hd] using List.all_eq_true.mp hplain d hmem
  rw [first?_of_not_mark hmark, List.findSome?_cons, h]

lemma first?_of_identifier? {c : Char} {cs : List Char} {l : Lexeme}
    (hc : startsIdentifier c = true) (h : identifier? (c :: cs) = some l) :
    first? (c :: cs) = some l := by
  have hmark : c ∉ marks := by
    have hplain : marks.all (!startsIdentifier ·) = true := by decide
    intro hmem
    simpa [hc] using List.all_eq_true.mp hplain c hmem
  have hnumber : number? (c :: cs) = none := by
    simp [number?, isDigit_of_startsIdentifier hc]
  rw [first?_of_not_mark hmark, List.findSome?_cons, hnumber, List.findSome?_cons, h]

/-- A block ends at the first closing bracket. -/
lemma block?_append {opening closing : Char} (kind : TokenKind) {inner : List Char}
    (hne : inner ≠ []) (h : closing ∉ inner) (rest : List Char) :
    block? opening closing kind (opening :: (inner ++ closing :: rest)) =
      some ⟨kind, inner, inner.length + 2⟩ := by
  rw [block?, enclosed?_eq_some_iff.mpr ⟨inner, rest, rfl, h, rfl⟩, Option.filter_some, if_pos]
  simpa using hne

lemma enclosed?_of_ne {opening c : Char} (h : c ≠ opening) (closing : Char) (kind : TokenKind)
    (cs : List Char) : enclosed? opening closing kind (c :: cs) = none := by
  simp [enclosed?, h]

lemma block?_of_ne {opening c : Char} (h : c ≠ opening) (closing : Char) (kind : TokenKind)
    (cs : List Char) : block? opening closing kind (c :: cs) = none := by
  rw [block?, enclosed?_of_ne h, Option.filter_none]

lemma enclosed?_append {quote : Char} (kind : TokenKind) {inner : List Char} (h : quote ∉ inner)
    (rest : List Char) : enclosed? quote quote kind (quote :: (inner ++ quote :: rest)) =
      some ⟨kind, inner, inner.length + 2⟩ :=
  enclosed?_eq_some_iff.mpr ⟨inner, rest, rfl, h, rfl⟩

lemma first?_numeral {value text rest : List Char} (h : numeral value text)
    (hrest : TokenKind.number.EndsBefore rest) :
    first? (text ++ rest) = some ⟨.number, value, text.length⟩ := by
  obtain ⟨rfl, whole, hne, hwhole, htext⟩ := h
  have hstop : ∀ c ∈ rest.head?, Text.isDigit c = false := fun c hc =>
    (Bool.or_eq_false_iff.mp (hrest c hc)).1
  have hpoint : ∀ others, rest = '.' :: others → others.takeWhile Text.isDigit = [] := by
    rintro others rfl
    exact absurd (hrest '.' rfl) (by decide)
  obtain ⟨d, whole, rfl⟩ := List.exists_cons_of_ne_nil hne
  have hd := hwhole d List.mem_cons_self
  rcases htext with rfl | ⟨fraction, hfne, hfraction, rfl⟩
  · exact first?_of_number? hd (number?_whole hne hwhole hstop hpoint)
  · rw [List.append_assoc, List.cons_append, List.cons_append]
    exact first?_of_number? hd (number?_decimal hne hwhole hfne hfraction hstop)

lemma first?_identifier {value text rest : List Char} (h : identifier value text)
    (hrest : TokenKind.identifier.EndsBefore rest) :
    first? (text ++ rest) = some ⟨.identifier, value, text.length⟩ := by
  obtain ⟨rfl, c, cs, hc, hcs, rfl⟩ := h
  rw [List.cons_append]
  refine first?_of_identifier? hc ?_
  simp only [identifier?, hc, if_true, (span_append hcs hrest).1]

/-- A text that a pattern has is read as a token, with what stands behind it left. -/
theorem first?_append {kind : TokenKind} {p : TokenPattern} {value text rest : List Char}
    (hp : (kind, p) ∈ TokenPattern.all) (h : p value text) (hrest : kind.EndsBefore rest) :
    first? (text ++ rest) = some ⟨kind, value, text.length⟩ := by
  simp only [TokenPattern.all, List.mem_cons, Prod.mk.injEq, List.not_mem_nil, or_false] at hp
  rcases hp with hp | hp | hp | hp | hp | hp | hp | hp | hp | hp | hp | hp <;> obtain ⟨rfl, rfl⟩ := hp
  iterate 5
    obtain ⟨rfl, rfl⟩ := h
    rfl
  iterate 3
    obtain ⟨hne, hclosing, rfl⟩ := h
    simp [first?, forms, symbol?, block?_append _ hne hclosing, block?_of_ne]
  iterate 2
    obtain ⟨hquote, rfl⟩ := h
    simp [first?, forms, symbol?, block?_of_ne, enclosed?_of_ne, enclosed?_append _ hquote]
  · exact first?_numeral h hrest
  · exact first?_identifier h hrest

end Lexeme

/-! ### Behind a token -/

namespace TokenPattern

variable {kind : TokenKind} {p : TokenPattern} {cs value : List Char} {size : Nat} {c : Char}

/-- The longest match does not go on. -/
lemma Matches.not_concat (h : p.Matches cs value size) (hc : c ∈ (cs.drop size).head?)
    (value' : List Char) : ¬ p value' (cs.take size ++ [c]) := by
  intro hp
  obtain ⟨rest, hrest⟩ := List.head?_eq_some_iff.mp (Option.mem_def.mp hc)
  have hstart : cs.take size ++ [c] <+: cs := by
    refine ⟨rest, ?_⟩
    rw [List.append_assoc, List.singleton_append, ← hrest, List.take_append_drop]
  have hlength := h.longest value' _ hp hstart
  have hsize := h.size_le
  rw [List.length_append, List.length_take, List.length_singleton] at hlength
  omega

lemma numeral_concat {text : List Char} (h : numeral value text) (hc : Text.isDigit c = true) :
    numeral (text ++ [c]) (text ++ [c]) := by
  obtain ⟨-, whole, hne, hwhole, htext⟩ := h
  refine ⟨rfl, ?_⟩
  rcases htext with rfl | ⟨fraction, -, hfraction, rfl⟩
  · exact ⟨text ++ [c], by simp, List.forall_mem_append.mpr ⟨hwhole, by simpa using hc⟩, .inl rfl⟩
  · refine ⟨whole, hne, hwhole, .inr ⟨fraction ++ [c], by simp, ?_, by simp⟩⟩
    exact List.forall_mem_append.mpr ⟨hfraction, by simpa using hc⟩

lemma identifier_concat {text : List Char} (h : identifier value text)
    (hc : Lexeme.continuesIdentifier c = true) : identifier (text ++ [c]) (text ++ [c]) := by
  obtain ⟨-, d, ds, hd, hds, rfl⟩ := h
  exact ⟨rfl, d, ds ++ [c], hd, List.forall_mem_append.mpr ⟨hds, by simpa using hc⟩, rfl⟩

/-- A token of a text does not go on with what stands behind it, unless that is a point. -/
theorem Next.goesOn_eq_false (h : Next cs kind value size) (hc : c ∈ (cs.drop size).head?)
    (hpoint : c ≠ '.') : kind.goesOn c = false := by
  obtain ⟨before, p, after, hall, -, hmatches⟩ := h
  have hp : (kind, p) ∈ all := by simp [hall]
  by_contra hgoes
  rw [Bool.not_eq_false] at hgoes
  cases kind with
  | number =>
    obtain rfl : p = numeral := by simpa [all] using hp
    have hdigit : Text.isDigit c = true := by simpa [TokenKind.goesOn, hpoint] using hgoes
    exact hmatches.not_concat hc _ (numeral_concat hmatches.text hdigit)
  | identifier =>
    obtain rfl : p = identifier := by simpa [all] using hp
    exact hmatches.not_concat hc _ (identifier_concat hmatches.text hgoes)
  | _ => cases hgoes

end TokenPattern

/-! ### Spelled tokens -/

namespace Shape

/-- Whether a pattern has the spelling of a token. -/
def Legible (s : Shape) : Prop :=
  ∃ p, (s.kind, p) ∈ TokenPattern.all ∧ p s.value.toList s.chars

variable {s : Shape} {rest : List Char}

lemma Legible.first? (h : s.Legible) (hrest : s.kind.EndsBefore rest) :
    Lexeme.first? (s.chars ++ rest) = some ⟨s.kind, s.value.toList, s.chars.length⟩ := by
  obtain ⟨p, hp, htext⟩ := h
  exact Lexeme.first?_append hp htext hrest

lemma Legible.chars_ne_nil (h : s.Legible) : s.chars ≠ [] := by
  obtain ⟨p, hp, htext⟩ := h
  exact TokenPattern.text_ne_nil hp htext

lemma Legible.kind_ne (h : s.Legible) : s.kind ≠ .endOfInput := by
  obtain ⟨p, hp, -⟩ := h
  rintro heq
  rw [heq] at hp
  simp [TokenPattern.all] at hp

/-- No token starts with a point. -/
lemma Legible.head?_ne (h : s.Legible) : ∀ c ∈ s.chars.head?, c ≠ '.' := by
  rintro c hc rfl
  obtain ⟨cs, hcs⟩ := List.head?_eq_some_iff.mp (Option.mem_def.mp hc)
  have hfirst := h.first? s.kind.endsBefore_nil
  rw [List.append_nil, hcs, Lexeme.first?_of_not_mark (by decide)] at hfirst
  have hplain : Text.isDigit '.' = false ∧ Lexeme.startsIdentifier '.' = false := by decide
  simp [Lexeme.number?, Lexeme.identifier?, hplain] at hfirst

/-- What is neither a name nor a number starts with a mark. -/
lemma Legible.head?_mem_marks (h : s.Legible) (hname : s.kind ≠ .identifier)
    (hnumber : s.kind ≠ .number) : ∀ c ∈ s.chars.head?, c ∈ Lexeme.marks := by
  intro c hc
  by_contra hmark
  obtain ⟨cs, hcs⟩ := List.head?_eq_some_iff.mp (Option.mem_def.mp hc)
  have hfirst := h.first? s.kind.endsBefore_nil
  rw [List.append_nil, hcs, Lexeme.first?_of_not_mark hmark] at hfirst
  obtain ⟨form, hform, hl⟩ := List.exists_of_findSome?_eq_some hfirst
  rcases List.mem_pair.mp hform with rfl | rfl
  · exact hnumber ((Lexeme.recognizes_number? _).1 _ hl).1
  · exact hname ((Lexeme.recognizes_identifier? _).1 _ hl).1

/-- Neither names nor numbers go on with it. -/
lemma Legible.endsBefore (h : s.Legible) (hname : s.kind ≠ .identifier) (hnumber : s.kind ≠ .number)
    (kind : TokenKind) (rest : List Char) : kind.EndsBefore (s.chars ++ rest) := by
  have hmarks : Lexeme.marks.all (!kind.goesOn ·) = true := by
    cases kind <;> decide
  intro c hc
  rw [List.head?_append_of_ne_nil _ h.chars_ne_nil] at hc
  simpa using List.all_eq_true.mp hmarks c (h.head?_mem_marks hname hnumber c hc)

lemma legible_name {v : String} (h : TokenPattern.identifier v.toList v.toList) :
    Legible ⟨.identifier, v⟩ :=
  ⟨.identifier, by simp [TokenPattern.all], by simpa [chars, TokenKind.delimiters] using h⟩

/-- A block may hold everything but its own closing bracket. -/
lemma legible_block {kind : TokenKind} {opening closing : Char} {v : String}
    (hp : (kind, TokenPattern.block opening closing) ∈ TokenPattern.all)
    (hkind : kind.delimiters = ([opening], [closing])) (hne : v ≠ "") (h : closing ∉ v.toList) :
    Legible ⟨kind, v⟩ :=
  ⟨_, hp, mt String.toList_eq_nil_iff.mp hne, h, by simp [chars, hkind]⟩

lemma legible_operator {kind : TokenKind} {spelling : String}
    (hp : (kind, TokenPattern.operator spelling) ∈ TokenPattern.all)
    (hkind : kind.delimiters = ([], [])) : Legible ⟨kind, spelling⟩ :=
  ⟨_, hp, rfl, by simp [chars, hkind]⟩

end Shape

end BlockScript
