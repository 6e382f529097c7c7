import BlockScript.Proofs.Token.Shapes

/-!
# Scanning sentences

The tokens of a well-formed sentence are its words, piece by piece (`Sentence.exists_row`): no block
ends before its own bracket, and no name goes on into what follows it.
-/

namespace BlockScript

/-! ### Names -/

lemma toNat_of_isNameStart {c : Char} (h : isNameStart c = true) :
    0x61 ≤ c.toNat ∧ c.toNat ≤ 0x7a ∨ c.toNat = 0x5f := by
  rw [isNameStart, Bool.or_eq_true, beq_iff_eq] at h
  rcases h with h | rfl
  · obtain ⟨hlower, hupper⟩ := (Bool.and_eq_true _ _).mp h
    exact .inl ⟨UInt32.le_iff_toNat_le.mp (of_decide_eq_true hlower),
      UInt32.le_iff_toNat_le.mp (of_decide_eq_true hupper)⟩
  · exact .inr rfl

lemma toNat_of_isNameChar {c : Char} (h : isNameChar c = true) :
    0x30 ≤ c.toNat ∧ c.toNat < 0x41 ∨ 0x5a < c.toNat ∧ c.toNat < 0x80 := by
  rw [isNameChar, Bool.or_eq_true] at h
  rcases h with h | h
  · have := toNat_of_isNameStart h
    omega
  · simp only [Char.isDigit, Bool.and_eq_true, decide_eq_true_eq] at h
    have := UInt32.le_iff_toNat_le.mp h.1
    have hupper := UInt32.le_iff_toNat_le.mp h.2
    exact .inl ⟨this, lt_of_le_of_lt hupper (by decide)⟩

lemma all_isNameChar_of_isName {cs : List Char} (h : isName cs = true) :
    cs.all isNameChar = true := by
  cases cs with
  | nil => rfl
  | cons c cs =>
    rw [isName, Bool.and_eq_true] at h
    rw [List.all_cons, h.2, Bool.and_true, isNameChar, h.1, Bool.true_or]

/-- In the ASCII range each character has a lower case of its own. -/
lemma Text.lowerFrom_of_ascii {cs : List Char} (h : ∀ c ∈ cs, c.toNat < 0x80) (before : List Char) :
    lowerFrom before cs = cs.map lowerChar := by
  induction cs generalizing before with
  | nil => rfl
  | cons c cs ih =>
    obtain ⟨hc, hcs⟩ := List.forall_mem_cons.mp h
    have hsigma : c ≠ 'Σ' := by
      rintro rfl
      exact absurd hc (by decide)
    have hdotted : c ≠ 'İ' := by
      rintro rfl
      exact absurd hc (by decide)
    rw [lowerFrom, ih hcs]
    simp [hsigma, hdotted]

/-- Names are in lower case. -/
lemma Text.lower_of_isName {s : String} (h : isName s.toList = true) : lower s = s := by
  have hchar : ∀ c ∈ s.toList, c.toNat < 0x80 ∧ lowerChar c = c := by
    intro c hc
    have hcode := toNat_of_isNameChar (List.all_eq_true.mp (all_isNameChar_of_isName h) c hc)
    have hupper : ¬ (c.val ≥ 'A'.val ∧ c.val ≤ 'Z'.val) := by
      rintro ⟨hlo, hhi⟩
      have : 0x41 ≤ c.toNat := UInt32.le_iff_toNat_le.mp hlo
      have : c.toNat ≤ 0x5a := UInt32.le_iff_toNat_le.mp hhi
      omega
    have hascii : c.toNat < 0x80 := by omega
    refine ⟨hascii, ?_⟩
    rw [lowerChar, if_pos hascii]
    exact dif_neg hupper
  have hsame : s.toList.map lowerChar = s.toList := by
    rw [List.map_congr_left fun c hc => (hchar c hc).2, List.map_id']
  rw [lower, lowerFrom_of_ascii fun c hc => (hchar c hc).1, hsame, String.ofList_toList]

lemma Keyword.isName_of_mem_table {name : String} (h : name ∈ table.map (·.name)) :
    isName name.toList = true := by
  have hall : ∀ k ∈ table, isName k.name.toList = true := by decide +kernel
  obtain ⟨k, hk, rfl⟩ := List.mem_map.mp h
  exact hall k hk

lemma isAlpha_of_isLower {c : Char} (h : c.isLower = true) : c.isAlpha = true :=
  (Bool.or_eq_true _ _).mpr (.inr h)

lemma startsIdentifier_of_isNameStart {c : Char} (h : isNameStart c = true) :
    Lexeme.startsIdentifier c = true := by
  simp only [isNameStart, Bool.or_eq_true] at h
  rcases h with h | h
  · simp [Lexeme.startsIdentifier, isAlpha_of_isLower h]
  · simp [Lexeme.startsIdentifier, h]

lemma continuesIdentifier_of_isNameChar {c : Char} (h : isNameChar c = true) :
    Lexeme.continuesIdentifier c = true := by
  simp only [isNameChar, isNameStart, Bool.or_eq_true] at h
  rcases h with (h | h) | h
  · simp [Lexeme.continuesIdentifier, Char.isAlphanum, isAlpha_of_isLower h]
  · simp [Lexeme.continuesIdentifier, h]
  · simp [Lexeme.continuesIdentifier, Char.isAlphanum, h]

lemma identifier_of_isName {cs : List Char} (h : isName cs = true) :
    TokenPattern.identifier cs cs := by
  cases cs with
  | nil => cases h
  | cons c cs =>
    rw [isName, Bool.and_eq_true] at h
    refine ⟨rfl, c, cs, startsIdentifier_of_isNameStart h.1, fun d hd => ?_, rfl⟩
    exact continuesIdentifier_of_isNameChar (List.all_eq_true.mp h.2 d hd)

lemma toNat_of_continuesIdentifier {c : Char} (h : Lexeme.continuesIdentifier c = true) :
    c.toNat < 0x80 := by
  simp only [Lexeme.continuesIdentifier, Char.isAlphanum, Bool.or_eq_true] at h
  rcases h with (h | h) | h
  · have := toNat_of_startsIdentifier (c := c) (by simp [Lexeme.startsIdentifier, h])
    omega
  · have hname : isNameChar c = true := by simp [isNameChar, h]
    have := toNat_of_isNameChar hname
    omega
  · rw [beq_iff_eq.mp h]
    decide

/-- An identifier in lower case is a name. -/
lemma isName_lower {v : String} (h : TokenPattern.identifier v.toList v.toList) :
    isName (Text.lower v).toList = true := by
  have hascii : ∀ n < 0x80,
      (Lexeme.startsIdentifier (Char.ofNat n) → isNameStart (Text.lowerChar (Char.ofNat n))) ∧
      (Lexeme.continuesIdentifier (Char.ofNat n) → isNameChar (Text.lowerChar (Char.ofNat n))) := by
    decide +kernel
  have hchar : ∀ c, c.toNat < 0x80 → (Lexeme.startsIdentifier c → isNameStart (Text.lowerChar c)) ∧
      (Lexeme.continuesIdentifier c → isNameChar (Text.lowerChar c)) := by
    intro c hc
    simpa using hascii c.toNat hc
  obtain ⟨-, c, cs, hc, hcs, hv⟩ := h
  have hstart := toNat_of_startsIdentifier hc
  have hall : ∀ d ∈ v.toList, d.toNat < 0x80 := by
    rw [hv]
    refine List.forall_mem_cons.mpr ⟨by omega, fun d hd => toNat_of_continuesIdentifier (hcs d hd)⟩
  rw [Text.lower, String.toList_ofList, Text.lowerFrom_of_ascii hall, hv, List.map_cons, isName,
    Bool.and_eq_true, List.all_eq_true]
  refine ⟨(hchar c (by omega)).1 hc, List.forall_mem_map.mpr fun d hd => ?_⟩
  exact (hchar d (toNat_of_continuesIdentifier (hcs d hd))).2 (hcs d hd)

/-! ### Shapes -/

/-- Whether a text may stand in a block that ends at `delimiter`. -/
structure Piece (delimiter : Char) (s : String) : Prop where
  nonempty : s ≠ ""
  trimmed : Text.trim s = s
  untabbed : '\t' ∉ s.toList
  closing : delimiter ∉ s.toList

instance (delimiter : Char) (s : String) : Decidable (Piece delimiter s) :=
  decidable_of_iff (s ≠ "" ∧ Text.trim s = s ∧ '\t' ∉ s.toList ∧ delimiter ∉ s.toList)
    ⟨fun ⟨hne, htrim, htab, hclosing⟩ => ⟨hne, htrim, htab, hclosing⟩,
      fun h => ⟨h.nonempty, h.trimmed, h.untabbed, h.closing⟩⟩

lemma Inner.piece {pair : Char × Char} {s : String} (h : Inner pair s) : Piece pair.2 s :=
  ⟨h.nonempty, h.trimmed, h.untabbed, h.closing⟩

namespace Shape

/-- Whether a token can be written into a line, such that it is read there. -/
structure Writable (s : Shape) : Prop where
  legible : s.Legible
  untabbed : '\t' ∉ s.chars

variable {s : Shape}

lemma writable_name {v : String} (h : isName v.toList = true) : Writable ⟨.identifier, v⟩ := by
  refine ⟨legible_name (identifier_of_isName h), ?_⟩
  have hall := List.all_eq_true.mp (all_isNameChar_of_isName h)
  simpa [chars, TokenKind.delimiters] using fun htab => absurd (hall _ htab) (by decide)

lemma writable_action {v : String} (h : Piece '\x7d' v) : Writable ⟨.actionBlock, v⟩ :=
  ⟨legible_block (by simp [TokenPattern.all]) rfl h.nonempty h.closing,
    by simpa [chars, TokenKind.delimiters] using h.untabbed⟩

lemma writable_subject {v : String} (h : Piece ']' v) : Writable ⟨.variableBlock, v⟩ :=
  ⟨legible_block (by simp [TokenPattern.all]) rfl h.nonempty h.closing,
    by simpa [chars, TokenKind.delimiters] using h.untabbed⟩

lemma writable_option {v : String} (h : Piece ')' v) : Writable ⟨.optionBlock, v⟩ :=
  ⟨legible_block (by simp [TokenPattern.all]) rfl h.nonempty h.closing,
    by simpa [chars, TokenKind.delimiters] using h.untabbed⟩

lemma writable_relation : Writable ⟨.relation, "//"⟩ :=
  ⟨legible_operator (by simp [TokenPattern.all]) rfl, by decide⟩

lemma writable_parameter : Writable ⟨.parameter, "%"⟩ :=
  ⟨legible_operator (by simp [TokenPattern.all]) rfl, by decide⟩

lemma writable_trigger : Writable ⟨.trigger, "->"⟩ :=
  ⟨legible_operator (by simp [TokenPattern.all]) rfl, by decide⟩

/-- Whether a piece of a sentence may stand where it does. -/
inductive Sound : Shape → Prop
  | name {s : String} (h : isName s.toList = true) : Sound ⟨.identifier, s⟩
  | action {s : String} (h : Inner ('\x7b', '\x7d') s) : Sound ⟨.actionBlock, s⟩
  | subject {s : String} (h : Inner ('[', ']') s) : Sound ⟨.variableBlock, s⟩
  | option {s : String} (h : Inner ('(', ')') s) : Sound ⟨.optionBlock, s⟩
  | relation : Sound ⟨.relation, "//"⟩
  | parameter : Sound ⟨.parameter, "%"⟩
  | trigger : Sound ⟨.trigger, "->"⟩

lemma Sound.writable (h : s.Sound) : s.Writable := by
  cases h with
  | name hv => exact writable_name hv
  | action hv => exact writable_action hv.piece
  | subject hv => exact writable_subject hv.piece
  | option hv => exact writable_option hv.piece
  | relation => exact writable_relation
  | parameter => exact writable_parameter
  | trigger => exact writable_trigger

end Shape

/-! ### Sentences -/

namespace Sentence

variable {w : Sentence}

lemma forall_mem_words {p : List Shape → Prop} :
    (∀ word ∈ w.words, p word) ↔
      p (⟨.identifier, w.keyword⟩ :: w.subjects.map (⟨.variableBlock, ·⟩)) ∧
      p [⟨.relation, "//"⟩] ∧
      p (⟨.identifier, w.function⟩ :: w.argument.toList.map (⟨.variableBlock, ·⟩)) ∧
      p [⟨.parameter, "%"⟩] ∧
      (∀ pair ∈ w.pairs, p [⟨.actionBlock, pair.1⟩, ⟨.optionBlock, pair.2⟩]) ∧
      ∀ outcome ∈ w.outcome, p [⟨.trigger, "->"⟩] ∧ p [⟨.actionBlock, outcome⟩] := by
  simp only [words, List.forall_mem_cons, List.forall_mem_append, List.forall_mem_map,
    List.forall_mem_flatMap, Option.mem_toList, Option.mem_def, List.not_mem_nil, false_implies,
    implies_true, and_true]

lemma WellFormed.sound (h : w.WellFormed) : ∀ word ∈ w.words, ∀ s ∈ word, s.Sound := by
  have hsubject : ∀ subjects : List String, (∀ v ∈ subjects, Inner ('[', ']') v) →
      ∀ s ∈ subjects.map (⟨.variableBlock, ·⟩), Shape.Sound s :=
    fun _ hsubjects => List.forall_mem_map.mpr fun v hv => .subject (hsubjects v hv)
  refine forall_mem_words.mpr ⟨?keyword, ?relation, ?target, ?parameter, ?effect, ?output⟩
  case keyword =>
    exact List.forall_mem_cons.mpr
      ⟨.name (Keyword.isName_of_mem_table h.keyword), hsubject _ h.subjects⟩
  case relation => simpa using .relation
  case target =>
    refine List.forall_mem_cons.mpr ⟨.name h.function, hsubject _ fun v hv => ?_⟩
    exact h.argument v (Option.mem_toList.mp hv)
  case parameter => simpa using .parameter
  case effect =>
    intro pair hpair
    simpa using ⟨.action (h.actions pair hpair), .option (h.options pair hpair)⟩
  case output =>
    intro outcome houtcome
    simpa using ⟨.trigger, .action (h.outcome outcome houtcome)⟩

/-- Names stand at the start of words only. -/
lemma not_name_of_mem_tail (w : Sentence) :
    ∀ word ∈ w.words, ∀ s ∈ word.tail, s.kind ≠ .identifier ∧ s.kind ≠ .number := by
  refine forall_mem_words.mpr ⟨?_, ?_, ?_, ?_, ?_, ?_⟩ <;> simp

lemma WellFormed.untabbed (h : w.WellFormed) : '\t' ∉ w.chars := by
  simp only [chars, List.mem_cons, List.mem_flatMap, not_or, not_exists, not_and]
  refine ⟨by decide, by decide, fun word hword => ⟨by decide, fun s hs => ?_⟩⟩
  exact (h.sound word hword s hs).writable.untabbed

lemma WellFormed.expandTabs_line (h : w.WellFormed) (width : Nat) :
    Text.expandTabs width w.line = w.chars := by
  have htext : w.line.toList = w.chars := String.toList_ofList
  rw [Text.expandTabs_of_untabbed (htext ▸ h.untabbed), htext]

/-- The tokens of a sentence behind its operator, part by part. -/
structure Row (w : Sentence) where
  keyword : Token
  subjects : List Token
  relation : Token
  function : Token
  argument : List Token
  parameter : Token
  pairs : List Token
  output : List Token
  keyword_shape : keyword.shape = ⟨.identifier, w.keyword⟩
  subjects_shape : subjects.map Token.shape = w.subjects.map (⟨.variableBlock, ·⟩)
  relation_kind : relation.kind = .relation
  function_shape : function.shape = ⟨.identifier, w.function⟩
  argument_shape : argument.map Token.shape = w.argument.toList.map (⟨.variableBlock, ·⟩)
  parameter_kind : parameter.kind = .parameter
  pairs_shape : pairs.map Token.shape =
    w.pairs.flatMap fun (action, option) => [⟨.actionBlock, action⟩, ⟨.optionBlock, option⟩]
  output_shape : output.map Token.shape =
    w.outcome.toList.flatMap fun outcome => [⟨.trigger, "->"⟩, ⟨.actionBlock, outcome⟩]
  relation_start : relation.start < parameter.start
  output_start : ∀ t ∈ output, parameter.start < t.start

def Row.body (r : w.Row) : List Token :=
  r.keyword :: (r.subjects ++ r.relation :: r.function ::
    (r.argument ++ r.parameter :: (r.pairs ++ r.output)))

/-- A well-formed sentence is scanned as its operator and its parts. -/
theorem exists_row (h : w.WellFormed) (width : Nat) (line : Int) :
    ∃ r : w.Row, Token.scan width line w.line = ⟨.root, "::", line, 0, 2⟩ :: r.body := by
  have hlegible : ∀ word ∈ w.words, ∀ s ∈ word, s.Legible :=
    fun word hword s hs => (h.sound word hword s hs).writable.legible
  have hreads := Reads.words hlegible w.not_name_of_mem_tail line 2
  have hscan : Token.scan width line w.line = ⟨.root, "::", line, 0, 2⟩ ::
      Token.scanFrom line 2 (w.words.flatMap fun word => ' ' :: word.flatMap Shape.chars) := by
    rw [Token.scan, h.expandTabs_line, chars, Token.scanFrom]
    rfl
  have horder := Token.pairwise_start_scanFrom line 2
    (w.words.flatMap fun word => ' ' :: word.flatMap Shape.chars)
  rw [hscan]
  generalize Token.scanFrom line 2 _ = ts at hreads horder ⊢
  simp only [words, List.flatten_cons, List.flatten_append, List.cons_append, List.nil_append,
    List.map_eq_cons_iff, List.map_eq_append_iff] at hreads
  obtain ⟨keyword, _, rfl, hkeyword, subjects, _, rfl, hsubjects, relation, _, rfl, hrelation,
    function, _, rfl, hfunction, argument, _, rfl, hargument, parameter, _, rfl, hparameter,
    pairs, output, rfl, hpairs, houtput⟩ := hreads
  have hbehind := (List.pairwise_append.mp (List.pairwise_cons.mp horder).2).2.1
  obtain ⟨hrelation_start, hbehind⟩ := List.pairwise_cons.mp hbehind
  have hbehind := (List.pairwise_append.mp (List.pairwise_cons.mp hbehind).2).2.1
  obtain ⟨hparameter_start, -⟩ := List.pairwise_cons.mp hbehind
  refine ⟨{
    keyword, subjects, relation, function, argument, parameter, pairs, output
    keyword_shape := hkeyword
    subjects_shape := hsubjects
    relation_kind := congrArg Shape.kind hrelation
    function_shape := hfunction
    argument_shape := hargument
    parameter_kind := congrArg Shape.kind hparameter
    pairs_shape := by rw [hpairs, List.flatMap_def]
    output_shape := by rw [houtput]; cases w.outcome <;> rfl
    relation_start := hrelation_start parameter (by simp)
    output_start := fun t ht => hparameter_start t (List.mem_append_right pairs ht) }, rfl⟩

end Sentence

end BlockScript
