import BlockScript.Proofs.Sentence.Validation

/-!
# Numbers as arguments

The line `:: hide // text[digits]` is valid however many digits there are, and all of them are read as
one number.
-/

namespace BlockScript

variable {digits : List Char}

/-! ### The line -/

/-- The characters behind the operator, word by word. -/
def hideWords (digits : List Char) : List Char :=
  ' ' :: ("hide".toList ++ ' ' :: ("//".toList ++ ' ' :: ("text".toList ++ '[' :: (digits ++ [']']))))

/-- The line `:: hide // text[digits]`. -/
def hideLine (digits : List Char) : String :=
  ":: hide // text[" ++ String.ofList digits ++ "]"

lemma toList_hideLine (digits : List Char) :
    (hideLine digits).toList = ':' :: ':' :: hideWords digits := by
  change (":: hide // text[" ++ String.ofList digits ++ "]").toList = _
  rw [String.toList_append, String.toList_append, String.toList_ofList]
  simp [hideWords]

lemma expandTabs_hideLine (h : isNumeral digits = true) (width : Nat) :
    Text.expandTabs width (hideLine digits) = ':' :: ':' :: hideWords digits := by
  rw [Text.expandTabs_of_untabbed, toList_hideLine]
  have htab : '\t' ∉ digits := not_mem_of_isNumeral h (by decide)
  simp [toList_hideLine, hideWords, htab]

/-! ### Tokens -/

lemma reads_hideWords (h : isNumeral digits = true) :
    Reads (hideWords digits) [⟨.identifier, "hide"⟩, ⟨.relation, "//"⟩, ⟨.identifier, "text"⟩,
      ⟨.variableBlock, String.ofList digits⟩] := by
  have hchars : (Shape.mk .identifier "hide").chars = "hide".toList ∧
      (Shape.mk .relation "//").chars = "//".toList ∧
      (Shape.mk .identifier "text").chars = "text".toList := by decide
  have hkeyword : isName "hide".toList = true := by decide
  have hfunction : isName "text".toList = true := by decide
  have hblock := Reads.nil.variableBlock (ne_nil_of_isNumeral h)
    (not_mem_of_isNumeral h (c := ']') (by decide))
  have htarget := hblock.cons (Shape.writable_name hfunction).legible (by rintro c ⟨⟩; decide)
  have hrelation := htarget.blank.cons Shape.writable_relation.legible (fun _ _ => rfl)
  have hall := hrelation.blank.cons (Shape.writable_name hkeyword).legible
    (TokenKind.endsBefore_blank _ _)
  rw [hchars.1, hchars.2.1, hchars.2.2] at hall
  exact hall.blank

/-- The tokens of the line behind its operator. -/
structure HideTokens (digits : List Char) where
  keyword : Token
  relation : Token
  function : Token
  argument : Token
  keyword_shape : keyword.shape = ⟨.identifier, "hide"⟩
  relation_shape : relation.shape = ⟨.relation, "//"⟩
  function_shape : function.shape = ⟨.identifier, "text"⟩
  argument_shape : argument.shape = ⟨.variableBlock, String.ofList digits⟩

/-- The line as one span. -/
def HideTokens.span (ts : HideTokens digits) (line : Int) : Span :=
  ⟨⟨.root, "::", line, 0, 2⟩, 0, [ts.keyword, ts.relation, ts.function, ts.argument]⟩

lemma exists_hideTokens (h : isNumeral digits = true) (width : Nat) (line : Int) :
    ∃ ts : HideTokens digits,
      Span.split (Token.scan width line (hideLine digits)) = [ts.span line] := by
  have hscan : Token.scan width line (hideLine digits) =
      ⟨.root, "::", line, 0, 2⟩ :: Token.scanFrom line 2 (hideWords digits) := by
    rw [Token.scan, expandTabs_hideLine h, Token.scanFrom]
    rfl
  have hshapes := reads_hideWords h line 2
  rw [hscan]
  generalize Token.scanFrom line 2 (hideWords digits) = tokens at hshapes ⊢
  simp only [List.map_eq_cons_iff, List.map_eq_nil_iff] at hshapes
  obtain ⟨k, _, rfl, hk, r, _, rfl, hr, f, _, rfl, hf, a, _, rfl, ha, rfl⟩ := hshapes
  refine ⟨⟨k, r, f, a, hk, hr, hf, ha⟩, ?_⟩
  have hplain : ∀ t ∈ [k, r, f, a], t.kind.isOpener = false := by
    simp [(Token.of_shape hk).1, (Token.of_shape hr).1, (Token.of_shape hf).1, (Token.of_shape ha).1,
      TokenKind.isOpener]
  have hall : [k, r, f, a].takeWhile (!·.kind.isOpener) = [k, r, f, a] :=
    List.takeWhile_eq_self_iff.mpr fun t ht => by rw [hplain t ht]; rfl
  have hrest : ∀ u ∈ Span.afterOpener ⟨.root, "::", line, 0, 2⟩ [k, r, f, a],
      u.kind.isOpener = false := hplain
  rw [Span.split_of_single rfl hrest, Span.ofOpener, hall]
  rfl

/-! ### Validation -/

namespace Grammar

lemma checkBrackets_hideWords (h : isNumeral digits = true) :
    checkBrackets (':' :: ':' :: hideWords digits) = [] := by
  refine checkBrackets_eq_nil_iff.mpr fun pair hpair => ?_
  have hplain : ∀ p ∈ bracketPairs, Text.isDigit p.1 = false ∧ Text.isDigit p.2 = false ∧
      Balanced p ":: hide // text".toList := by decide +kernel
  obtain ⟨hopening, hclosing, hfront⟩ := hplain pair hpair
  have hdigits := not_mem_of_isNumeral h hopening
  have hdigits' := not_mem_of_isNumeral h hclosing
  have hchars : ':' :: ':' :: hideWords digits =
      ":: hide // text".toList ++ ('[' :: (digits ++ [']'])) := by simp [hideWords]
  rw [hchars]
  refine hfront.append ?_
  by_cases heq : pair = ('[', ']')
  · subst heq
    exact .enclose hdigits hdigits' (by decide)
  · have hapart : ∀ p ∈ bracketPairs, p ≠ ('[', ']') → Balanced p ['['] ∧ Balanced p [']'] := by
      decide
    obtain ⟨hopen, hclose⟩ := hapart pair hpair heq
    exact hopen.append ((Balanced.of_free hdigits hdigits').append hclose)

lemma checkSpan_hideTokens (ts : HideTokens digits) (width : Nat) (line : Int) (stack : Stack) :
    (checkSpan width (ts.span line) stack).1 = [] := by
  obtain ⟨hkeyword, hname⟩ := Token.of_shape ts.keyword_shape
  have hrelation := (Token.of_shape ts.relation_shape).1
  have hfunction := (Token.of_shape ts.function_shape).1
  have hargument := (Token.of_shape ts.argument_shape).1
  have hlower : Text.lower "hide" = "hide" := by decide +kernel
  have hknown : Keyword.isKnown "hide" = true := by decide +kernel
  have hbranch : (some "hide").filter Keyword.isBranch = none := by decide
  have hneeds : Keyword.needs "hide" .effect = false ∧ Keyword.needs "hide" .output = false := by
    decide +kernel
  simp [checkSpan, HideTokens.span, Span.isHierarchical, keywordOf, checkDeclaration, checkZones,
    splitAt?, checkPresence, checkOrder, enter, hkeyword, hname, hrelation, hfunction, hargument,
    hlower, hknown, hbranch, hneeds, Keyword.conditional]

/-- The line is valid, whatever the number. -/
lemma validateLines_hideLine (h : isNumeral digits = true) {width : Nat} (hwidth : 1 ≤ width)
    (start : Int) :
    (validateLines width [hideLine digits] start).value.1 = [⟨start, [], []⟩] := by
  obtain ⟨ts, hts⟩ := exists_hideTokens h width start
  have hblank : Text.allBlank (hideLine digits) = false := by
    rw [Text.allBlank, toList_hideLine, List.all_cons]
    rfl
  have hindent : ((':' :: ':' :: hideWords digits).takeWhile Text.isBlank).length = 0 := by
    rw [List.takeWhile_cons_of_neg (by decide)]
    rfl
  rw [Token.scan, expandTabs_hideLine h] at hts
  have hproblems : (checkLine width (hideLine digits) start []).1 = [] := by
    simp only [checkLine, expandTabs_hideLine h, hts, hindent, HideTokens.span, if_true]
    rw [checkBrackets_hideWords h, ← HideTokens.span, checkSpan_hideTokens, List.append_nil]
  rw [validateLines, validateFrom_cons, validate_of_not_allBlank hblank hwidth, hproblems]
  rfl

end Grammar

/-! ### The statement -/

namespace Statement

lemma ofSpan_hideTokens (ts : HideTokens digits) (h : isNumeral digits = true) (width : Nat)
    (line : Int) :
    (ofSpan width (ts.span line)).isUsable = true ∧
      (ofSpan width (ts.span line)).numerals = [digits] := by
  obtain ⟨hkeyword, hname⟩ := Token.of_shape ts.keyword_shape
  have hrelation := (Token.of_shape ts.relation_shape).1
  obtain ⟨hfunction, htext⟩ := Token.of_shape ts.function_shape
  obtain ⟨hargument, hdigits⟩ := Token.of_shape ts.argument_shape
  have hlower : Text.lower "hide" = "hide" ∧ Text.lower "text" = "text" := by decide +kernel
  simp [ofSpan, HideTokens.span, readDeclaration, readZone, targetOf, readFunction, splitAt?, isUsable,
    usable?, numerals, Selector.numerals, hkeyword, hname, hrelation, hfunction, htext, hargument,
    hdigits, hlower, trim_of_isNumeral h, h, Keyword.conditional]

/-- The line has one statement, in which the number is read. -/
lemma exists_ofLines_hideLine (h : isNumeral digits = true) (width : Nat) :
    ∃ s : Statement, ofLines width [hideLine digits] = [s] ∧ s.isUsable = true ∧
      s.numerals = [digits] := by
  obtain ⟨ts, hts⟩ := exists_hideTokens h width 1
  refine ⟨ofSpan width (ts.span 1), ?_, ofSpan_hideTokens ts h width 1⟩
  rw [ofLines, ofLinesFrom, ofLine, hts]
  rfl

end Statement

end BlockScript
