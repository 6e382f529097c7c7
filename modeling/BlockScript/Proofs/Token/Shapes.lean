import BlockScript.Proofs.Token.Endings

/-!
# Shapes of tokens

What the tokens of a text are, wherever the text stands (`Reads`): a text that is put together from
spelled tokens is read as these tokens, if none of them goes on with the next one.
-/

namespace BlockScript

/-! ### Tabs -/

lemma Text.expandTabs_of_untabbed {line : String} (h : '\t' ∉ line.toList) (width : Nat) :
    expandTabs width line = line.toList := by
  have hall : ∀ cs column, '\t' ∉ cs → expandTabsFrom width column cs = cs := by
    intro cs
    induction cs with
    | nil => exact fun _ _ => rfl
    | cons c cs ih =>
      intro column hcs
      rw [List.mem_cons, not_or] at hcs
      rw [expandTabsFrom.eq_3 width column c cs (Ne.symm hcs.1), ih 0 hcs.2, ih (column + 1) hcs.2,
        ite_self]
  exact hall _ 0 h

lemma Text.untabbed_expandTabs (width : Nat) (line : String) : '\t' ∉ expandTabs width line := by
  have hall : ∀ cs column, '\t' ∉ expandTabsFrom width column cs := by
    intro cs column
    fun_induction expandTabsFrom width column cs with
    | case1 => exact List.not_mem_nil
    | case2 column cs hwidth ih => exact ih
    | case3 column cs hwidth gap ih =>
      simp only [List.mem_append, not_or]
      exact ⟨fun htab => absurd (List.eq_of_mem_replicate htab) (by decide), ih⟩
    | case4 column c cs hc hend ih | case5 column c cs hc hend ih =>
      simp only [List.mem_cons, not_or]
      exact ⟨Ne.symm hc, ih⟩
  exact hall _ 0

/-! ### Tokens -/

namespace Token

def shape (t : Token) : Shape :=
  ⟨t.kind, t.value⟩

lemma of_shape {t : Token} {kind : TokenKind} {value : String} (h : t.shape = ⟨kind, value⟩) :
    t.kind = kind ∧ t.value = value :=
  ⟨congrArg Shape.kind h, congrArg Shape.value h⟩

lemma scanFrom_chars {s : Shape} (h : s.Legible) {rest : List Char} (hrest : s.kind.EndsBefore rest)
    (line : Int) (offset : Nat) :
    scanFrom line offset (s.chars ++ rest) =
      ⟨s.kind, s.value, line, offset, offset + s.chars.length⟩ ::
        scanFrom line (offset + s.chars.length) rest := by
  rw [scanFrom_of_some (h.first? hrest), List.drop_left, String.ofList_toList]

end Token

/-- Whether the tokens of a text have some shapes, wherever the text stands. -/
def Reads (cs : List Char) (shapes : List Shape) : Prop :=
  ∀ line offset, (Token.scanFrom line offset cs).map Token.shape = shapes

namespace Reads

variable {rest : List Char} {shapes : List Shape}

lemma nil : Reads [] [] := by
  intro line offset
  rw [Token.scanFrom, List.map_nil]

lemma blank (h : Reads rest shapes) : Reads (' ' :: rest) shapes := by
  intro line offset
  rw [Token.scanFrom, Lexeme.first?_of_isBlank (by decide)]
  exact h line (offset + 1)

lemma cons {s : Shape} (hs : s.Legible) (hrest : s.kind.EndsBefore rest) (h : Reads rest shapes) :
    Reads (s.chars ++ rest) (s :: shapes) := by
  intro line offset
  rw [Token.scanFrom_chars hs hrest, List.map_cons, h]
  rfl

/-- A block of a variable ends at its bracket, however long it is. -/
lemma variableBlock {inner : List Char} (hne : inner ≠ []) (hclosing : ']' ∉ inner)
    (h : Reads rest shapes) :
    Reads ('[' :: (inner ++ ']' :: rest)) (⟨.variableBlock, String.ofList inner⟩ :: shapes) := by
  have hp : (TokenKind.variableBlock, TokenPattern.block '[' ']') ∈ TokenPattern.all := by
    simp [TokenPattern.all]
  have hlegible : Shape.Legible ⟨.variableBlock, String.ofList inner⟩ :=
    Shape.legible_block hp rfl (by simpa using hne) (by simpa using hclosing)
  have hreads := cons hlegible (fun _ _ => rfl) h
  simpa [Shape.chars, TokenKind.delimiters] using hreads

/-- A word in which only the first piece is a name. -/
lemma word {word : List Shape} (hword : ∀ s ∈ word, s.Legible)
    (hnames : ∀ s ∈ word.tail, s.kind ≠ .identifier ∧ s.kind ≠ .number)
    (hrest : ∀ kind : TokenKind, kind.EndsBefore rest) (h : Reads rest shapes) :
    Reads (word.flatMap Shape.chars ++ rest) (word ++ shapes) := by
  induction word with
  | nil => exact h
  | cons s word ih =>
    obtain ⟨hs, hword⟩ := List.forall_mem_cons.mp hword
    rw [List.flatMap_cons, List.append_assoc, List.cons_append]
    refine cons hs ?_ (ih hword fun t ht => hnames t (List.mem_of_mem_tail ht))
    -- behind a piece stands the next one of the word, which is no name, or what follows the word
    cases word with
    | nil => exact hrest s.kind
    | cons t word =>
      obtain ⟨hname, hnumber⟩ := hnames t List.mem_cons_self
      rw [List.flatMap_cons, List.append_assoc]
      exact (hword t List.mem_cons_self).endsBefore hname hnumber _ _

/-- Words with a blank in front of each. -/
lemma words {words : List (List Shape)} (hwords : ∀ word ∈ words, ∀ s ∈ word, s.Legible)
    (hnames : ∀ word ∈ words, ∀ s ∈ word.tail, s.kind ≠ .identifier ∧ s.kind ≠ .number) :
    Reads (words.flatMap fun word => ' ' :: word.flatMap Shape.chars) words.flatten := by
  induction words with
  | nil => exact nil
  | cons first words ih =>
    obtain ⟨hfirst, hwords⟩ := List.forall_mem_cons.mp hwords
    obtain ⟨hname, hnames⟩ := List.forall_mem_cons.mp hnames
    rw [List.flatMap_cons, List.flatten_cons, List.cons_append]
    refine (word hfirst hname (fun kind => ?_) (ih hwords hnames)).blank
    cases words with
    | nil => exact kind.endsBefore_nil
    | cons second words => exact kind.endsBefore_blank _

end Reads

/-! ### Rows of tokens -/

section

variable {kind : TokenKind} {ts : List Token} {shapes : List Shape} {p : TokenKind → Prop}

lemma splitAt?_append {t : Token} {front : List Token} (hfront : ∀ u ∈ front, u.kind ≠ kind)
    (ht : t.kind = kind) (back : List Token) :
    splitAt? kind (front ++ t :: back) = some (t, back) := by
  induction front with
  | nil => rw [List.nil_append, splitAt?, if_pos ht]
  | cons u front ih =>
    obtain ⟨hu, hfront⟩ := List.forall_mem_cons.mp hfront
    rw [List.cons_append, splitAt?, if_neg hu, ih hfront]

lemma splitAt?_of_forall_ne (h : ∀ t ∈ ts, t.kind ≠ kind) : splitAt? kind ts = none := by
  induction ts with
  | nil => rfl
  | cons t ts ih =>
    obtain ⟨ht, hts⟩ := List.forall_mem_cons.mp h
    rw [splitAt?, if_neg ht, ih hts]

lemma forall_kind_of_map_shape (h : ts.map Token.shape = shapes)
    (hp : ∀ shape ∈ shapes, p shape.kind) : ∀ t ∈ ts, p t.kind := by
  subst h
  exact fun t ht => hp t.shape (List.mem_map_of_mem ht)

lemma kind_head?_of_map_shape (h : ts.map Token.shape = shapes)
    (hp : ∀ shape ∈ shapes.head?, p shape.kind) : ∀ t ∈ ts.head?, p t.kind := by
  subst h
  intro t ht
  rw [List.head?_map] at hp
  exact hp t.shape (Option.mem_map_of_mem _ ht)

/-- Tokens of one kind. -/
lemma of_map_shape {values : List String} (h : ts.map Token.shape = values.map (⟨kind, ·⟩)) :
    (∀ t ∈ ts, t.kind = kind) ∧ ts.map (·.value) = values := by
  induction values generalizing ts with
  | nil => simp [List.map_eq_nil_iff.mp h]
  | cons v values ih =>
    obtain ⟨t, ts, rfl, ht, hts⟩ := List.map_eq_cons_iff.mp h
    obtain ⟨hkind, hvalues⟩ := ih hts
    have htkind : t.kind = kind := congrArg Shape.kind ht
    have htvalue : t.value = v := congrArg Shape.value ht
    exact ⟨List.forall_mem_cons.mpr ⟨htkind, hkind⟩, by rw [List.map_cons, hvalues, htvalue]⟩

lemma map_trim_of_map_shape {values : List String}
    (h : ts.map Token.shape = values.map (⟨kind, ·⟩)) (htrim : ∀ v ∈ values, Text.trim v = v) :
    ts.map (fun t => Text.trim t.value) = values := by
  have hvalues := (of_map_shape h).2
  calc ts.map (fun t => Text.trim t.value) = (ts.map (·.value)).map Text.trim := by
        rw [List.map_map]; rfl
    _ = values := by rw [hvalues, List.map_congr_left htrim, List.map_id']

/-- Whether tokens are the blocks of some actions, each with its option right behind it. -/
inductive Paired : List Token → List (String × String) → Prop
  | nil : Paired [] []
  | cons {a o : Token} {ts : List Token} {ps : List (String × String)} (ha : a.kind = .actionBlock)
      (ho : o.kind = .optionBlock) (h : Paired ts ps) :
      Paired (a :: o :: ts) ((a.value, o.value) :: ps)

lemma paired_of_map_shape {ps : List (String × String)} (h : ts.map Token.shape =
    ps.flatMap fun (action, option) => [⟨.actionBlock, action⟩, ⟨.optionBlock, option⟩]) :
    Paired ts ps := by
  induction ps generalizing ts with
  | nil => exact List.map_eq_nil_iff.mp h ▸ .nil
  | cons p ps ih =>
    rw [List.flatMap_cons, List.cons_append, List.cons_append, List.nil_append] at h
    obtain ⟨a, _, rfl, ha, hrest⟩ := List.map_eq_cons_iff.mp h
    obtain ⟨o, ts, rfl, ho, hts⟩ := List.map_eq_cons_iff.mp hrest
    have hp : p = (a.value, o.value) :=
      Prod.ext (congrArg Shape.value ha).symm (congrArg Shape.value ho).symm
    exact hp ▸ .cons (congrArg Shape.kind ha) (congrArg Shape.kind ho) (ih hts)

end

end BlockScript
