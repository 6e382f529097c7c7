import BlockScript.Alias
import BlockScript.Block
import BlockScript.Proofs.Grammar.Acceptance
import BlockScript.Proofs.Sentence.Scanning
import BlockScript.Proofs.Token.Gaps

/-!
# How far aliases reach

An alias is replaced in the text of a line, before the line is read. The text is looked at from its
start: behind blanks there must be statement operators that touch each other, and behind them and more
blanks an identifier (`Keyword.reachesKeyword`). Statements are read from tokens, so on the same line
there may be more keywords than this one. Replacing never makes, removes or moves a statement; it
resolves the first keyword of the lines that it reaches and no other (`Keyword.keywords_expandAlias`).
-/

namespace BlockScript

/-! ### The heads of spans -/

namespace Span

/-- The operator and the keyword of a span. -/
def head (s : Span) : Operator × Option String :=
  (if s.isHierarchical then .hierarchical else .root, Grammar.keywordOf s.body)

/-- The operators and the keywords of a line's tokens. -/
def heads (ts : List Token) : List (Operator × Option String) :=
  (split ts).map head

variable {t u : Token} {ts : List Token}

lemma head_ofOpener (t : Token) (ts : List Token) :
    (ofOpener t ts).head = (if t.kind = .hierarchical then .hierarchical else .root,
      Grammar.keywordOf ((afterOpener t ts).takeWhile (!·.kind.isOpener))) := by
  rw [head, isHierarchical, opener_ofOpener, body_ofOpener]
  simp only [beq_iff_eq]

lemma heads_skip (ht : t.kind.isOpener = false) (ts : List Token) : heads (t :: ts) = heads ts := by
  rw [heads, split_skip ht, heads]

lemma heads_cons (ht : t.kind.isOpener = true) (ts : List Token) :
    heads (t :: ts) = (ofOpener t ts).head :: heads (afterOpener t ts) := by
  rw [heads, split_cons ht, List.map_cons, heads]

lemma keywordOf_map_outline (ts : List Token) :
    Grammar.keywordOf (ts.map Token.outline) = Grammar.keywordOf ts := by
  cases ts with
  | nil => rfl
  | cons t ts =>
    rw [List.map_cons, Grammar.keywordOf, Grammar.keywordOf, Token.kind_outline]
    split
    next ht => rw [Token.value_outline ht]
    next => rfl

/-- Only names matter, and of all other tokens their kinds. -/
lemma heads_map_outline (ts : List Token) : heads (ts.map Token.outline) = heads ts := by
  rw [heads, split_map Token.kind_outline, List.map_map, heads]
  apply List.map_congr_left
  intro s _
  exact Prod.ext rfl (keywordOf_map_outline s.body)

lemma afterOpener_cons (h : ¬ (t.kind = .hierarchical ∧ u.kind = .hierarchical)) (ts : List Token) :
    afterOpener t (u :: ts) = u :: ts := by
  unfold afterOpener
  split
  next ht => rw [List.dropWhile_cons_of_neg (by simpa using fun hu => h ⟨ht, hu⟩)]
  next => rfl

lemma afterOpener_cons_run (ht : t.kind = .hierarchical) (hu : u.kind = .hierarchical)
    (ts : List Token) : afterOpener t (u :: ts) = afterOpener u ts := by
  rw [afterOpener, if_pos ht, List.dropWhile_cons_of_pos (by simp [hu]), afterOpener, if_pos hu]

/-- Of statement operators that stand next to each other, the last statement gets the keyword behind
them; the ones before it have none. -/
lemma exists_heads_run {run : List Token} (hrun : ∀ t ∈ run, t.kind.isOpener = true)
    (hne : run ≠ []) :
    ∃ front operator, (∀ h ∈ front, h.2 = none) ∧
      ∀ (name : Token) (rest : List Token), name.kind = .identifier →
        heads (run ++ name :: rest) =
          front ++ (operator, some (Text.lower name.value)) :: heads rest := by
  induction run with
  | nil => exact absurd rfl hne
  | cons t run ih =>
    obtain ⟨ht, hrun⟩ := List.forall_mem_cons.mp hrun
    cases run with
    | nil =>
      refine ⟨[], if t.kind = .hierarchical then .hierarchical else .root, by simp, ?_⟩
      intro name rest hname
      have hopener : name.kind.isOpener = false := by rw [hname]; rfl
      have hafter : afterOpener t (name :: rest) = name :: rest :=
        afterOpener_cons (by simp [hname]) rest
      rw [List.singleton_append, heads_cons ht, head_ofOpener, hafter, heads_skip hopener,
        List.takeWhile_cons_of_pos (by simp [hopener]), Grammar.keywordOf, if_pos hname,
        List.nil_append]
    | cons u run =>
      obtain ⟨front, operator, hfront, hheads⟩ := ih hrun (List.cons_ne_nil u run)
      have hu : u.kind.isOpener = true := hrun u List.mem_cons_self
      by_cases hboth : t.kind = .hierarchical ∧ u.kind = .hierarchical
      · -- the two operators make one statement
        refine ⟨front, operator, hfront, fun name rest hname => ?_⟩
        rw [← hheads name rest hname, List.cons_append, List.cons_append, heads_cons ht,
          heads_cons hu, head_ofOpener, head_ofOpener, afterOpener_cons_run hboth.1 hboth.2, hboth.1,
          hboth.2]
      · refine ⟨(if t.kind = .hierarchical then .hierarchical else .root, none) :: front, operator,
          List.forall_mem_cons.mpr ⟨rfl, hfront⟩, fun name rest hname => ?_⟩
        rw [List.cons_append, List.cons_append, List.cons_append, ← hheads name rest hname,
          List.cons_append, heads_cons ht, head_ofOpener, afterOpener_cons hboth,
          List.takeWhile_cons_of_neg (by simp [hu]), Grammar.keywordOf]

end Span

namespace Statement

/-- The operators and keywords of a line are those of its tokens, up to the width of gaps. -/
lemma map_head_ofLine (width : Nat) (line : Int) (text : String) :
    (ofLine width line text).map (fun s => (s.operator, s.keyword)) =
      Span.heads (Token.outlines width text.toList) := by
  rw [← Token.map_outline_scan width line text, Span.heads_map_outline, ofLine, List.map_map,
    Span.heads]
  apply List.map_congr_left
  intro span _
  exact Prod.ext rfl (keyword_ofSpan width span)

lemma map_operator_ofLine (width : Nat) (line : Int) (text : String) :
    (ofLine width line text).map (·.operator) =
      (Span.heads (Token.outlines width text.toList)).map (·.1) := by
  rw [← map_head_ofLine width line text, List.map_map]
  rfl

lemma map_keyword_ofLine (width : Nat) (line : Int) (text : String) :
    (ofLine width line text).map (·.keyword) =
      (Span.heads (Token.outlines width text.toList)).map (·.2) := by
  rw [← map_head_ofLine width line text, List.map_map]
  rfl

end Statement

/-! ### Canonical keywords -/

namespace Keyword

variable {aliases : Entries String} {name : String}

lemma isName_of_isKnown (hlower : Text.lower name = name) (h : isKnown name = true) :
    isName name.toList = true := by
  obtain ⟨k, hk⟩ := Option.isSome_iff_exists.mp h
  have heq : k.name = name := by
    have := List.find?_some hk
    rwa [hlower, beq_iff_eq] at this
  exact isName_of_mem_table (heq ▸ List.mem_map_of_mem (List.mem_of_find?_eq_some hk))

lemma lower_get? (haliases : ∀ p ∈ aliases, Text.lower p.2 = p.2)
    (hlower : Text.lower name = name) :
    Text.lower ((aliases.get? name).getD name) = (aliases.get? name).getD name := by
  cases hget : aliases.get? name with
  | none => exact hlower
  | some canonical =>
    obtain ⟨p, hp, rfl⟩ := Option.map_eq_some_iff.mp hget
    exact haliases p (List.mem_of_find?_eq_some hp)

/-- Resolving an alias and taking it to lower case can be done in any order. -/
lemma lower_resolveAlias (haliases : ∀ p ∈ aliases, Text.lower p.2 = p.2)
    (hname : TokenPattern.identifier name.toList name.toList) :
    Text.lower (resolveAlias aliases name) = resolveAlias aliases (Text.lower name) := by
  have hlower := Text.lower_of_isName (isName_lower hname)
  have hcanonical := lower_get? haliases hlower
  simp only [resolveAlias, hlower]
  split
  · exact hcanonical
  · rfl

lemma identifier_resolveAlias (haliases : ∀ p ∈ aliases, Text.lower p.2 = p.2)
    (hname : TokenPattern.identifier name.toList name.toList) :
    TokenPattern.identifier (resolveAlias aliases name).toList (resolveAlias aliases name).toList := by
  have hlower := Text.lower_of_isName (isName_lower hname)
  simp only [resolveAlias]
  split
  next hknown => exact identifier_of_isName (isName_of_isKnown (lower_get? haliases hlower) hknown)
  next => exact hname

/-! ### The keyword within reach -/

/-- Whether a line has a keyword where aliases are looked for: behind statement operators that touch
each other at the start of the line, with blanks before and after them. -/
def reachesKeyword (line : String) : Bool :=
  let (openers, rest) := spanOpeners (line.toList.dropWhile Text.isBlank)
  !openers.isEmpty && (Lexeme.identifier? (rest.dropWhile Text.isBlank)).isSome

/-- Whether a text is read as statement operators alone, whatever follows it. -/
def Leads (width : Nat) (front : List Char) : Prop :=
  ∃ run : List Token, run ≠ [] ∧ (∀ t ∈ run, t.kind.isOpener = true) ∧
    ∀ rest, Token.outlines width (front ++ rest) = run ++ Token.outlines width rest

lemma spanOpeners_append (cs : List Char) : (spanOpeners cs).1 ++ (spanOpeners cs).2 = cs := by
  fun_induction spanOpeners cs with
  | case1 cs openers rest hspan ih => simpa [hspan] using ih
  | case2 cs openers rest hspan ih => simpa [hspan] using ih
  | case3 cs => rfl

variable {width : Nat}

lemma outlines_operator (hwidth : 1 ≤ width) (o : Operator) :
    ∃ t : Token, t.kind.isOpener = true ∧ ∀ rest,
      Token.outlines width (o.spelling.toList ++ rest) = t :: Token.outlines width rest := by
  cases o with
  | root =>
    have hlegible : Shape.Legible ⟨.root, "::"⟩ :=
      Shape.legible_operator (by simp [TokenPattern.all]) rfl
    have hplain : Text.Plain (Shape.chars ⟨.root, "::"⟩) := by
      simp [Text.Plain, Shape.chars, TokenKind.delimiters]
    exact ⟨_, rfl, fun rest => Token.outlines_chars hwidth hlegible hplain fun _ _ => rfl⟩
  | hierarchical =>
    have hlegible : Shape.Legible ⟨.hierarchical, ":^:"⟩ :=
      Shape.legible_operator (by simp [TokenPattern.all]) rfl
    have hplain : Text.Plain (Shape.chars ⟨.hierarchical, ":^:"⟩) := by
      simp [Text.Plain, Shape.chars, TokenKind.delimiters]
    exact ⟨_, rfl, fun rest => Token.outlines_chars hwidth hlegible hplain fun _ _ => rfl⟩

lemma Leads.operator {front : List Char} (hwidth : 1 ≤ width) (o : Operator)
    (h : front = [] ∨ Leads width front) : Leads width (o.spelling.toList ++ front) := by
  obtain ⟨t, ht, houtlines⟩ := outlines_operator hwidth o
  rcases h with rfl | ⟨run, -, hrun, hfront⟩
  · refine ⟨[t], List.cons_ne_nil t [], by simpa using ht, fun rest => ?_⟩
    rw [List.append_nil, houtlines, List.singleton_append]
  · refine ⟨t :: run, List.cons_ne_nil t run, List.forall_mem_cons.mpr ⟨ht, hrun⟩, fun rest => ?_⟩
    rw [List.append_assoc, houtlines, hfront, List.cons_append]

lemma leads_spanOpeners (hwidth : 1 ≤ width) (cs : List Char) :
    (spanOpeners cs).1 = [] ∨ Leads width (spanOpeners cs).1 := by
  fun_induction spanOpeners cs with
  | case1 cs openers rest hspan ih =>
    rw [hspan] at ih
    exact .inr (Leads.operator hwidth .hierarchical ih)
  | case2 cs openers rest hspan ih =>
    rw [hspan] at ih
    exact .inr (Leads.operator hwidth .root ih)
  | case3 cs => exact .inl rfl

/-- Blanks around operators are passed over. -/
lemma Leads.blanks {blanks front gap : List Char} (hwidth : 1 ≤ width)
    (hblanks : ∀ c ∈ blanks, Text.isBlank c = true) (h : Leads width front)
    (hgap : ∀ c ∈ gap, Text.isBlank c = true) : Leads width (blanks ++ front ++ gap) := by
  obtain ⟨run, hne, hrun, hfront⟩ := h
  refine ⟨run, hne, hrun, fun rest => ?_⟩
  rw [List.append_assoc, List.append_assoc, Token.outlines_blanks hwidth hblanks, hfront,
    Token.outlines_blanks hwidth hgap]

/-- What follows an identifier does not belong to it. -/
lemma identifier?_parts {cs : List Char} {l : Lexeme} (h : Lexeme.identifier? cs = some l) :
    TokenPattern.identifier l.value l.value ∧ TokenKind.identifier.EndsBefore (cs.drop l.size) ∧
      cs = l.value ++ cs.drop l.size := by
  obtain ⟨-, hmatches⟩ := (Lexeme.recognizes_identifier? cs).1 l h
  have hvalue : l.value = cs.take l.size := hmatches.text.1
  refine ⟨?_, fun c hc => ?_, ?_⟩
  · have htext := hmatches.text
    rwa [← hvalue] at htext
  · by_contra hgoes
    rw [Bool.not_eq_false] at hgoes
    exact hmatches.not_concat hc _ (TokenPattern.identifier_concat hmatches.text hgoes)
  · rw [hvalue, List.take_append_drop]

/-- A line with a keyword within reach, part by part. -/
lemma exists_parts (hwidth : 1 ≤ width) {line : String} (h : reachesKeyword line = true) :
    ∃ (front : List Char) (name : String) (tail : List Char), Leads width front ∧
      TokenPattern.identifier name.toList name.toList ∧ TokenKind.identifier.EndsBefore tail ∧
      line.toList = front ++ (name.toList ++ tail) ∧
      ∀ aliases, expandAlias aliases line = if aliases.isEmpty then line else
        String.ofList (front ++ ((resolveAlias aliases name).toList ++ tail)) := by
  cases hspan : spanOpeners (line.toList.dropWhile Text.isBlank) with
  | mk openers rest =>
    simp only [reachesKeyword, hspan, Bool.and_eq_true, Bool.not_eq_true',
      List.isEmpty_eq_false_iff] at h
    obtain ⟨hopeners, hsome⟩ := h
    obtain ⟨l, hl⟩ := Option.isSome_iff_exists.mp hsome
    obtain ⟨hname, htail, hrest⟩ := identifier?_parts hl
    have hblank (cs : List Char) : ∀ c ∈ cs.takeWhile Text.isBlank, Text.isBlank c = true :=
      fun c hc => List.mem_takeWhile_imp hc
    have hleads : Leads width openers := by
      have := leads_spanOpeners hwidth (line.toList.dropWhile Text.isBlank)
      rw [hspan] at this
      exact this.resolve_left hopeners
    refine ⟨_, String.ofList l.value, (rest.dropWhile Text.isBlank).drop l.size,
      hleads.blanks hwidth (hblank line.toList) (hblank rest), ?_, htail, ?_, ?_⟩
    · rwa [String.toList_ofList]
    · have hcs := spanOpeners_append (line.toList.dropWhile Text.isBlank)
      rw [hspan] at hcs
      rw [String.toList_ofList, ← hrest, List.append_assoc, List.takeWhile_append_dropWhile,
        List.append_assoc, hcs, List.takeWhile_append_dropWhile]
    · intro aliases
      simp only [expandAlias, hspan, hl]
      by_cases haliases : aliases.isEmpty
      · simp [haliases]
      · simp [haliases, hopeners]

lemma expandAlias_of_not_reachesKeyword {line : String} (h : reachesKeyword line = false)
    (aliases : Entries String) : expandAlias aliases line = line := by
  cases hspan : spanOpeners (line.toList.dropWhile Text.isBlank) with
  | mk openers rest =>
    simp only [reachesKeyword, hspan, Bool.and_eq_false_iff, Bool.not_eq_false',
      Option.isSome_eq_false_iff] at h
    simp only [expandAlias, hspan]
    split
    next => rfl
    next l hl =>
      have hopeners : openers.isEmpty = true := by simpa [hl] using h
      rw [hopeners, Bool.or_true, if_pos rfl]

/-! ### Lines -/

lemma outlines_name (hwidth : 1 ≤ width) {name : String} {tail : List Char}
    (hname : TokenPattern.identifier name.toList name.toList)
    (htail : TokenKind.identifier.EndsBefore tail) :
    ∃ t : Token, t.kind = .identifier ∧ t.value = name ∧
      Token.outlines width (name.toList ++ tail) = t :: Token.outlines width tail := by
  have hchars : Shape.chars ⟨.identifier, name⟩ = name.toList := by
    simp [Shape.chars, TokenKind.delimiters]
  have hplain : Text.Plain name.toList := by
    obtain ⟨-, d, ds, hd, hds, hvalue⟩ := hname
    have hletters : ∀ c ∈ name.toList, Lexeme.startsIdentifier c = true ∨
        Lexeme.continuesIdentifier c = true := by
      rw [hvalue]
      exact List.forall_mem_cons.mpr ⟨.inl hd, fun c hc => .inr (hds c hc)⟩
    intro c hc
    refine ⟨?_, ?_, ?_⟩ <;> rintro rfl <;> exact absurd (hletters _ hc) (by decide)
  have houtlines := Token.outlines_chars hwidth (Shape.legible_name hname)
    (hchars ▸ hplain) htail
  rw [hchars] at houtlines
  exact ⟨_, rfl, Token.value_outline rfl, houtlines⟩

/-- What a line says that starts with operators and a keyword. -/
lemma Leads.exists_heads {front : List Char} (hwidth : 1 ≤ width) (h : Leads width front) :
    ∃ nones operator, (∀ h ∈ nones, h.2 = none) ∧ ∀ (name : String) (tail : List Char),
      TokenPattern.identifier name.toList name.toList → TokenKind.identifier.EndsBefore tail →
      Span.heads (Token.outlines width (front ++ (name.toList ++ tail))) =
        nones ++ (operator, some (Text.lower name)) :: Span.heads (Token.outlines width tail) := by
  obtain ⟨run, hne, hrun, hfront⟩ := h
  obtain ⟨nones, operator, hnones, hheads⟩ := Span.exists_heads_run hrun hne
  refine ⟨nones, operator, hnones, fun name tail hname htail => ?_⟩
  obtain ⟨t, hkind, hvalue, houtlines⟩ := outlines_name hwidth hname htail
  rw [hfront, houtlines, hheads t _ hkind, hvalue]

/-- Resolves the first of some keywords and leaves the others alone. -/
def resolveFirst (aliases : Entries String) : List (Option String) → List (Option String)
  | [] => []
  | none :: keywords => none :: resolveFirst aliases keywords
  | some name :: keywords => some (resolveAlias aliases name) :: keywords

lemma resolveFirst_append (aliases : Entries String) {nones : List (Option String)}
    (h : ∀ k ∈ nones, k = none) (name : String) (keywords : List (Option String)) :
    resolveFirst aliases (nones ++ some name :: keywords) =
      nones ++ some (resolveAlias aliases name) :: keywords := by
  induction nones with
  | nil => rfl
  | cons k nones ih =>
    obtain ⟨rfl, hnones⟩ := List.forall_mem_cons.mp h
    rw [List.cons_append, resolveFirst, ih hnones, List.cons_append]

/-- The keywords that the statements of a line have. -/
def ofLine (width : Nat) (text : String) : List (Option String) :=
  (Statement.ofLine width 1 text).map (·.keyword)

/-- The keywords that the statements of a line have when aliases are expanded. -/
def expanded (aliases : Entries String) (width : Nat) (text : String) : List (Option String) :=
  if reachesKeyword text then resolveFirst aliases (ofLine width text) else ofLine width text

section

variable {aliases : Entries String} (hwidth : 1 ≤ width)
  (haliases : ∀ p ∈ aliases, Text.lower p.2 = p.2)
include hwidth haliases

/-- Expanding aliases changes at most the first keyword of a line. -/
lemma exists_heads_expandAlias {text : String} (h : reachesKeyword text = true) :
    ∃ nones operator name rest, (∀ h ∈ nones, h.2 = none) ∧
      Span.heads (Token.outlines width text.toList) = nones ++ (operator, some name) :: rest ∧
      Span.heads (Token.outlines width (expandAlias aliases text).toList) =
        nones ++ (operator, some (resolveAlias aliases name)) :: rest := by
  obtain ⟨front, name, tail, hleads, hname, htail, htext, hexpand⟩ := exists_parts hwidth h
  obtain ⟨nones, operator, hnones, hheads⟩ := hleads.exists_heads hwidth
  refine ⟨nones, operator, Text.lower name, Span.heads (Token.outlines width tail), hnones, ?_, ?_⟩
  · rw [htext, hheads name tail hname htail]
  · rw [hexpand aliases, ← lower_resolveAlias haliases hname]
    split
    next hempty =>
      have hsame : Text.lower (resolveAlias aliases name) = Text.lower name := by
        rw [lower_resolveAlias haliases hname, List.isEmpty_iff.mp hempty]
        simp [resolveAlias, Text.lower_of_isName (isName_lower hname)]
      rw [htext, hheads name tail hname htail, hsame]
    next =>
      rw [String.toList_ofList,
        hheads _ tail (identifier_resolveAlias haliases hname) htail]

lemma map_operator_expandAlias (line : Int) (text : String) :
    (Statement.ofLine width line (expandAlias aliases text)).map (·.operator) =
      (Statement.ofLine width line text).map (·.operator) := by
  cases hreached : reachesKeyword text with
  | false => rw [expandAlias_of_not_reachesKeyword hreached]
  | true =>
    obtain ⟨nones, operator, name, rest, -, hwritten, hexpanded⟩ :=
      exists_heads_expandAlias hwidth haliases hreached
    rw [Statement.map_operator_ofLine, Statement.map_operator_ofLine, hwritten, hexpanded]
    simp

lemma map_keyword_expandAlias (line : Int) (text : String) :
    (Statement.ofLine width line (expandAlias aliases text)).map (·.keyword) =
      expanded aliases width text := by
  cases hreached : reachesKeyword text with
  | false =>
    rw [expandAlias_of_not_reachesKeyword hreached, expanded, hreached, ofLine,
      Statement.map_keyword_ofLine, Statement.map_keyword_ofLine]
    rfl
  | true =>
    obtain ⟨nones, operator, name, rest, hnones, hwritten, hexpanded⟩ :=
      exists_heads_expandAlias hwidth haliases hreached
    have hkeywords : ∀ k ∈ nones.map (·.2), k = none := by
      intro k hk
      obtain ⟨h, hh, rfl⟩ := List.mem_map.mp hk
      exact hnones h hh
    rw [expanded, hreached, if_pos rfl, ofLine, Statement.map_keyword_ofLine,
      Statement.map_keyword_ofLine, hwritten, hexpanded, List.map_append, List.map_append,
      List.map_cons, List.map_cons, resolveFirst_append aliases hkeywords]

/-- The statements of a line, without the words they are made of. -/
lemma map_place_expandAlias (line : Int) (text : String) :
    (Statement.ofLine width line (expandAlias aliases text)).map (fun s => (s.line, s.operator)) =
      (Statement.ofLine width line text).map (fun s => (s.line, s.operator)) := by
  have hplace (text : String) : (Statement.ofLine width line text).map (fun s => (s.line, s.operator)) =
      ((Statement.ofLine width line text).map (·.operator)).map (line, ·) := by
    rw [List.map_map]
    apply List.map_congr_left
    intro s hs
    rw [Function.comp_apply, Statement.line_of_mem_ofLine hs]
  rw [hplace, hplace, map_operator_expandAlias hwidth haliases]

end

/-! ### Blocks -/

/-- The keywords of a line that the expansion of aliases does not come to: all but the first one if
there is one within reach, and else all. -/
def missed (width : Nat) (text : String) : List String :=
  if reachesKeyword text then ((ofLine width text).filterMap id).tail
  else (ofLine width text).filterMap id

variable {aliases : Entries String}

lemma length_resolveFirst (keywords : List (Option String)) :
    (resolveFirst aliases keywords).length = keywords.length := by
  fun_induction resolveFirst aliases keywords with
  | case1 => rfl
  | case2 keywords ih => rw [List.length_cons, List.length_cons, ih]
  | case3 => rfl

lemma map_resolveAlias_eq_self_iff (keywords : List (Option String)) :
    keywords = keywords.map (Option.map (resolveAlias aliases)) ↔
      ∀ k ∈ keywords.filterMap id, resolveAlias aliases k = k := by
  induction keywords with
  | nil => simp
  | cons k keywords ih =>
    cases k with
    | none => simp [ih]
    | some k =>
      have hkeep : (some k :: keywords).filterMap id = k :: keywords.filterMap id := rfl
      rw [List.map_cons, Option.map_some, List.cons.injEq, Option.some.injEq, ih, eq_comm, hkeep,
        List.forall_mem_cons]

lemma resolveFirst_eq_map_iff (keywords : List (Option String)) :
    resolveFirst aliases keywords = keywords.map (Option.map (resolveAlias aliases)) ↔
      ∀ k ∈ (keywords.filterMap id).tail, resolveAlias aliases k = k := by
  fun_induction resolveFirst aliases keywords with
  | case1 => simp
  | case2 keywords ih => simp [ih]
  | case3 keywords k => simp [map_resolveAlias_eq_self_iff]

/-- All keywords of a line are resolved exactly if those that are missed need not be. -/
lemma expanded_eq_map_iff (width : Nat) (text : String) :
    expanded aliases width text = (ofLine width text).map (Option.map (resolveAlias aliases)) ↔
      ∀ k ∈ missed width text, resolveAlias aliases k = k := by
  rw [expanded, missed]
  split
  · exact resolveFirst_eq_map_iff _
  · exact map_resolveAlias_eq_self_iff _

/-- Rows of pieces with as many items are equal piece by piece. -/
lemma flatMap_eq_flatMap_iff {α β : Type} {f g : α → List β} {items : List α}
    (h : ∀ a ∈ items, (f a).length = (g a).length) :
    items.flatMap f = items.flatMap g ↔ ∀ a ∈ items, f a = g a := by
  induction items with
  | nil => simp
  | cons a items ih =>
    obtain ⟨ha, hitems⟩ := List.forall_mem_cons.mp h
    rw [List.flatMap_cons, List.flatMap_cons, List.forall_mem_cons, ← ih hitems]
    constructor
    · exact fun heq => List.append_inj heq ha
    · rintro ⟨hfirst, hrest⟩
      rw [hfirst, hrest]

lemma map_keyword_ofLinesFrom (width : Nat) (start : Int) (lines : List String) :
    (Statement.ofLinesFrom width start lines).map (·.keyword) = lines.flatMap (ofLine width) := by
  induction lines generalizing start with
  | nil => rfl
  | cons text lines ih =>
    rw [Statement.ofLinesFrom, List.map_append, ih, List.flatMap_cons, ofLine,
      Statement.map_keyword_ofLine, Statement.map_keyword_ofLine]

lemma length_expanded (width : Nat) (text : String) :
    (expanded aliases width text).length = (ofLine width text).length := by
  rw [expanded]
  split
  · exact length_resolveFirst _
  · rfl

lemma map_place_ofLinesFrom {width : Nat} (hwidth : 1 ≤ width)
    (haliases : ∀ p ∈ aliases, Text.lower p.2 = p.2) (start : Int) (lines : List String) :
    (Statement.ofLinesFrom width start (lines.map (expandAlias aliases))).map
        (fun s => (s.line, s.operator)) =
      (Statement.ofLinesFrom width start lines).map (fun s => (s.line, s.operator)) := by
  induction lines generalizing start with
  | nil => rfl
  | cons text lines ih =>
    rw [List.map_cons, Statement.ofLinesFrom, Statement.ofLinesFrom, List.map_append,
      List.map_append, ih, map_place_expandAlias hwidth haliases]

/-- Expanding aliases leaves every statement where it is and resolves the first keyword of each line
that has one within reach. So all keywords of a block are resolved exactly if none of the keywords that
are missed is an alias of a known one. -/
theorem keywords_expandAlias {width : Nat} (hwidth : 1 ≤ width)
    (haliases : ∀ p ∈ aliases, Text.lower p.2 = p.2) (lines : List String) :
    let written := (Block.ofLines width lines).statements
    let read := (Block.ofLines width (lines.map (expandAlias aliases))).statements
    read.map (fun s => (s.line, s.operator)) = written.map (fun s => (s.line, s.operator)) ∧
      read.map (·.keyword) = lines.flatMap (expanded aliases width) ∧
      (read.map (·.keyword) = written.map (fun s => s.keyword.map (resolveAlias aliases)) ↔
        ∀ text ∈ lines, ∀ k ∈ missed width text, resolveAlias aliases k = k) := by
  intro written read
  have hwritten : written.map (·.keyword) = lines.flatMap (ofLine width) :=
    map_keyword_ofLinesFrom width 1 lines
  have hread : read.map (·.keyword) = lines.flatMap (expanded aliases width) := by
    have hlines : ∀ text, ofLine width (expandAlias aliases text) = expanded aliases width text :=
      map_keyword_expandAlias hwidth haliases 1
    calc read.map (·.keyword)
        = (lines.map (expandAlias aliases)).flatMap (ofLine width) :=
          map_keyword_ofLinesFrom width 1 _
      _ = lines.flatMap (expanded aliases width) := by
          rw [List.flatMap_map]
          simp only [hlines]
  have hresolved : written.map (fun s => s.keyword.map (resolveAlias aliases)) =
      lines.flatMap fun text => (ofLine width text).map (Option.map (resolveAlias aliases)) := by
    calc written.map (fun s => s.keyword.map (resolveAlias aliases))
        = (written.map (·.keyword)).map (Option.map (resolveAlias aliases)) := by
          rw [List.map_map]
          rfl
      _ = _ := by rw [hwritten, List.map_flatMap]
  refine ⟨map_place_ofLinesFrom hwidth haliases 1 lines, hread, ?_⟩
  rw [hread, hresolved, flatMap_eq_flatMap_iff fun text _ => by rw [length_expanded, List.length_map]]
  simp only [expanded_eq_map_iff]

theorem keywords_expandAlias_grow :
    let aliases : Entries String := [("grow", "resize")]
    let lines := [":: Grow // x", "\t:^::^:grow", ":: [x]"]
    let written := (Block.ofLines 2 lines).statements
    let read := (Block.ofLines 2 (lines.map (expandAlias aliases))).statements
    1 ≤ 2 ∧ (∀ p ∈ aliases, Text.lower p.2 = p.2) ∧
      (∀ text ∈ lines, ∀ k ∈ missed 2 text, resolveAlias aliases k = k) ∧
      read.map (fun s => (s.line, s.operator)) = written.map (fun s => (s.line, s.operator)) ∧
      written.map (fun s => s.keyword.map (resolveAlias aliases)) =
        [some "resize", some "resize", none] ∧
      read.map (·.keyword) = [some "resize", some "resize", none] := by
  intro aliases lines written read
  have haliases : ∀ p ∈ aliases, Text.lower p.2 = p.2 := by
    intro p hp
    rw [List.mem_singleton.mp hp]
    exact Text.lower_of_isName (by decide)
  have hmissed : ∀ text ∈ lines, ∀ k ∈ missed 2 text, resolveAlias aliases k = k := by
    decide +kernel
  have hresolved : written.map (fun s => s.keyword.map (resolveAlias aliases)) =
      [some "resize", some "resize", none] := by decide +kernel
  obtain ⟨hplaces, -, hiff⟩ := keywords_expandAlias (show 1 ≤ 2 by decide) haliases lines
  exact ⟨by decide, haliases, hmissed, hplaces, hresolved, (hiff.mpr hmissed).trans hresolved⟩

/-- Behind operators with a gap between them an alias stays, although the keyword is read there. -/
theorem keywords_behind_gap :
    let aliases : Entries String := [("grow", "resize")]
    let lines := [":: grow", ":^: :^: grow"]
    let written := (Block.ofLines 2 lines).statements
    let read := (Block.ofLines 2 (lines.map (expandAlias aliases))).statements
    (∀ p ∈ aliases, Text.lower p.1 = p.1 ∧ Text.lower p.2 = p.2) ∧
      read.map (·.keyword) = [some "resize", some "grow"] ∧
      written.map (fun s => s.keyword.map (resolveAlias aliases)) =
        [some "resize", some "resize"] := by
  decide +kernel

end Keyword

end BlockScript
