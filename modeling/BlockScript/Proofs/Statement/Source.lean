import BlockScript.Proofs.Statement.Words

/-!
# Spelled statements

The line that a well-formed statement is spelled with is read as this one statement
(`Statement.statements_source`): its zones are read off its words, one after the other.
-/

namespace BlockScript

namespace Statement

variable {s : Statement} {ts rest : List Token}

/-! ### Zones -/

/-- A zone reaches up to the first token that stops it. -/
lemma readZone_append {kind : TokenKind} {stops : List TokenKind} {t : Token} {zone rest : List Token}
    (ht : t.kind = kind) (hzone : ∀ u ∈ zone, u.kind ∉ stops)
    (hrest : ∀ u ∈ rest.head?, u.kind ∈ stops) :
    readZone kind stops (t :: (zone ++ rest)) = (some zone, rest) := by
  have hall : ∀ u ∈ zone, (!stops.contains u.kind) = true := by
    intro u hu
    simpa using hzone u hu
  have hstop : ∀ u ∈ rest.head?, (!stops.contains u.kind) = false := by
    intro u hu
    simpa using hrest u hu
  obtain ⟨htake, hdrop⟩ := span_append hall hstop
  rw [readZone, if_pos ht, htake, hdrop]

/-- A zone without its operator is left out. -/
lemma readZone_of_ne {kind : TokenKind} {stops : List TokenKind} (h : ∀ t ∈ ts.head?, t.kind ≠ kind) :
    readZone kind stops ts = (none, ts) := by
  cases ts with
  | nil => rfl
  | cons t ts => rw [readZone, if_neg (h t rfl)]

lemma readCondition_of_ne (h : ∀ t ∈ ts.head?, t.kind ≠ .actionBlock) :
    readCondition ts = (none, ts) := by
  cases ts with
  | nil => rfl
  | cons t ts => rw [readCondition, if_neg (h t rfl)]

lemma readActions_of_paired {ts : List Token} {ps : List (String × String)} (h : Paired ts ps)
    (htrim : ∀ p ∈ ps, Text.trim p.1 = p.1 ∧ Text.trim p.2 = p.2) :
    readActions ts = ps.map fun (action, option) => (action, some option) := by
  induction h with
  | nil => rfl
  | cons ha ho _ ih =>
    obtain ⟨hp, hps⟩ := List.forall_mem_cons.mp htrim
    rw [readActions, if_pos ha]
    simp only [ho, if_true]
    rw [ih hps, hp.1, hp.2, List.map_cons]

lemma readDeclaration_append (h : s.WellFormed) (hts : ts.map Token.shape = s.declaration)
    (hrest : ∀ t ∈ rest.head?, t.kind ≠ .actionBlock ∧ t.kind ≠ .variableBlock) :
    readDeclaration (ts ++ rest) = (⟨s.keyword, s.condition, s.subjects⟩, rest) := by
  obtain ⟨name, hname, hkeyword⟩ := h.keyword
  rw [declaration, hname] at hts
  obtain ⟨k, _, rfl, hk, hblocks⟩ := List.map_eq_cons_iff.mp hts
  obtain ⟨conditions, subjects, rfl, hconditions, hsubjects⟩ := List.map_eq_append_iff.mp hblocks
  obtain ⟨hkind, hvalue⟩ := Token.of_shape hk
  have hvariable := (of_map_shape hsubjects).1
  have htrim := map_trim_of_map_shape hsubjects fun v hv => (h.subjects v hv).trimmed
  have hcondition : (if name = Keyword.conditional then
      readCondition (conditions ++ (subjects ++ rest))
      else (none, conditions ++ (subjects ++ rest))) = (s.condition, subjects ++ rest) := by
    cases hc : s.condition with
    | none =>
      -- no block of a condition stands at the head of what follows
      have hhead : ∀ t ∈ (subjects ++ rest).head?, t.kind ≠ .actionBlock := by
        cases subjects with
        | nil => exact fun t ht => (hrest t ht).1
        | cons t subjects =>
          rintro _ ⟨⟩
          simp [hvariable t List.mem_cons_self]
      rw [hc] at hconditions
      rw [List.map_eq_nil_iff.mp hconditions, List.nil_append, readCondition_of_ne hhead, ite_self]
    | some c =>
      obtain ⟨hconditional, hpiece⟩ := h.condition c hc
      rw [hc] at hconditions
      obtain ⟨t, others, rfl, ht, hothers⟩ := List.map_eq_cons_iff.mp hconditions
      obtain ⟨htkind, htvalue⟩ := Token.of_shape ht
      rw [List.map_eq_nil_iff.mp hothers, if_pos (Option.some.inj (hname.symm.trans hconditional)),
        List.cons_append, readCondition, if_pos htkind, htvalue, hpiece.trimmed, List.nil_append]
  have hspan : (subjects ++ rest).takeWhile (·.kind == .variableBlock) = subjects ∧
      (subjects ++ rest).dropWhile (·.kind == .variableBlock) = rest :=
    span_append (fun t ht => by simp [hvariable t ht]) (fun t ht => by simp [(hrest t ht).2])
  rw [List.cons_append, List.append_assoc, readDeclaration, if_pos hkind, hvalue,
    Option.getD_some, Text.lower_of_isName hkeyword]
  simp only [hcondition, hspan.1, hspan.2, htrim, hname]

/-- A target zone names its function and its argument. -/
lemma targetOf_of_map_shape {z : TargetZone} (h : z.WellFormed)
    (hts : ts.map Token.shape =
      ⟨.identifier, z.function⟩ :: z.argument.toList.map (⟨.variableBlock, ·⟩)) :
    ∃ raw, targetOf ts = ⟨z.function, z.argument, raw⟩ := by
  obtain ⟨f, arguments, rfl, hf, harguments⟩ := List.map_eq_cons_iff.mp hts
  obtain ⟨hkind, hvalue⟩ := Token.of_shape hf
  refine ⟨Token.sourceOf (f :: arguments), ?_⟩
  rw [targetOf, readFunction, if_pos hkind, hvalue, Text.lower_of_isName h.function]
  dsimp only
  cases hz : z.argument with
  | none =>
    rw [hz] at harguments
    rw [List.map_eq_nil_iff.mp harguments]
    rfl
  | some argument =>
    rw [hz] at harguments
    obtain ⟨t, others, rfl, ht, -⟩ := List.map_eq_cons_iff.mp harguments
    obtain ⟨htkind, htvalue⟩ := Token.of_shape ht
    rw [splitAt?, if_pos htkind]
    simp only [Option.map_some, htvalue, (h.argument argument hz).trimmed]

lemma readZone_target {target : Option TargetZone} (h : ∀ z ∈ target, z.WellFormed)
    (hts : ts.map Token.shape = (target.toList.flatMap TargetZone.words).flatten)
    (hrest : ∀ t ∈ rest.head?, t.kind ∈ [TokenKind.parameter, .trigger]) :
    ∃ zone, readZone .relation [.parameter, .trigger] (ts ++ rest) = (zone, rest) ∧
      (zone.map targetOf).map (fun z => (z.function, z.argument)) =
        target.map fun z => (z.function, z.argument) := by
  cases target with
  | none =>
    rw [List.map_eq_nil_iff.mp hts, List.nil_append]
    refine ⟨none, readZone_of_ne fun t ht => ?_, rfl⟩
    rcases List.mem_pair.mp (hrest t ht) with hkind | hkind <;> simp [hkind]
  | some z =>
    obtain ⟨t, zone, rfl, ht, hzone⟩ := List.map_eq_cons_iff.mp hts
    obtain ⟨raw, hraw⟩ := targetOf_of_map_shape (h z rfl) (by simpa using hzone)
    have hinside : ∀ u ∈ zone, u.kind ∉ [TokenKind.parameter, .trigger] :=
      forall_kind_of_map_shape (p := (· ∉ [TokenKind.parameter, .trigger])) hzone (by simp)
    refine ⟨some zone, readZone_append (Token.of_shape ht).1 hinside hrest, ?_⟩
    simp [hraw]

/-- An effect zone holds the action and the parameters. -/
lemma effectOf_of_map_shape {z : EffectZone} (h : z.WellFormed)
    (hts : ts.map Token.shape = z.actions.flatten) : effectOf ts = z := by
  obtain ⟨action, parameters⟩ := z
  cases parameters with
  | nil =>
    cases action with
    | none =>
      rw [List.map_eq_nil_iff.mp hts]
      rfl
    | some action =>
      obtain ⟨t, others, rfl, ht, hothers⟩ := List.map_eq_cons_iff.mp hts
      obtain ⟨hkind, hvalue⟩ := Token.of_shape ht
      rw [List.map_eq_nil_iff.mp hothers, effectOf, readActions, if_pos hkind, hvalue,
        (h.action action rfl).trimmed]
      rfl
  | cons p ps =>
    have hpaired : Paired ts (p :: ps) := paired_of_map_shape hts
    have hactions := readActions_of_paired hpaired fun q hq =>
      ⟨(h.names q hq).trimmed, (h.options q hq).trimmed⟩
    have hpairs : ((p :: ps).map fun q => (q.1, some q.2)).filterMap
        (fun q => q.2.map (q.1, ·)) = p :: ps := by
      rw [List.filterMap_map]
      exact List.filterMap_some
    have hfirst : action = some p.1 := h.first p rfl
    simp only [effectOf, hactions, hpairs, Entries.ofPairs_of_distinct h.distinct, hfirst]
    rfl

lemma readZone_effect {effect : Option EffectZone} (h : ∀ z ∈ effect, z.WellFormed)
    (hts : ts.map Token.shape = (effect.toList.flatMap EffectZone.words).flatten)
    (hrest : ∀ t ∈ rest.head?, t.kind ∈ [TokenKind.trigger]) :
    ∃ zone, readZone .parameter [.trigger] (ts ++ rest) = (zone, rest) ∧
      zone.map effectOf = effect := by
  cases effect with
  | none =>
    rw [List.map_eq_nil_iff.mp hts, List.nil_append]
    exact ⟨none, readZone_of_ne fun t ht => by simp [List.mem_singleton.mp (hrest t ht)], rfl⟩
  | some z =>
    obtain ⟨t, zone, rfl, ht, hzone⟩ := List.map_eq_cons_iff.mp hts
    have hactions : zone.map Token.shape = z.actions.flatten := by simpa using hzone
    have hinside : ∀ u ∈ zone, u.kind ∉ [TokenKind.trigger] := by
      refine forall_kind_of_map_shape (p := (· ∉ [TokenKind.trigger])) hactions fun shape hshape => ?_
      obtain ⟨word, hword, hshape⟩ := List.mem_flatten.mp hshape
      rcases z.kind_of_mem_actions word hword shape hshape with hkind | hkind <;> simp [hkind]
    refine ⟨some zone, readZone_append (Token.of_shape ht).1 hinside hrest, ?_⟩
    rw [Option.map_some, effectOf_of_map_shape (h z rfl) hactions]

lemma readZone_output {outcome : Option String} (h : ∀ o ∈ outcome, Piece '\x7d' o)
    (hts : ts.map Token.shape = (outcome.toList.flatMap outcomeWords).flatten) :
    ((readZone .trigger [] ts).1.bind fun zone => zone.head?.map fun t => Text.trim t.value) =
      outcome := by
  cases outcome with
  | none =>
    rw [List.map_eq_nil_iff.mp hts]
    rfl
  | some o =>
    obtain ⟨t, zone, rfl, ht, hzone⟩ := List.map_eq_cons_iff.mp hts
    obtain ⟨block, others, rfl, hblock, hothers⟩ := List.map_eq_cons_iff.mp hzone
    obtain ⟨-, hvalue⟩ := Token.of_shape hblock
    simp [readZone, (Token.of_shape ht).1, hvalue, (h o rfl).trimmed]

/-! ### Lines -/

/-- The tokens of a spelled statement are its operator and its words. -/
lemma exists_scan_source (h : s.WellFormed) (width : Nat) (line : Int) :
    ∃ opener body, Token.scan width line s.source = opener :: body ∧
      opener.kind = s.operator.kind ∧ body.map Token.shape = s.words.flatten := by
  have hlegible : ∀ word ∈ s.words, ∀ shape ∈ word, shape.Legible :=
    fun word hword shape hshape => (h.writable word hword shape hshape).legible
  have hends : s.operator.kind.EndsBefore (spaced s.words) := by
    cases s.operator <;> exact fun _ _ => rfl
  have hbody := Reads.words hlegible fun word hword => (s.kind_of_mem_words word hword).1
  have hreads : Reads (s.operator.spelling.toList ++ spaced s.words)
      (⟨s.operator.kind, s.operator.spelling⟩ :: s.words.flatten) := by
    rw [← s.operator.chars_shape]
    exact Reads.cons s.operator.writable.legible hends hbody
  rw [← h.toList_source, ← Text.expandTabs_of_untabbed h.untabbed_source width] at hreads
  obtain ⟨opener, body, hscan, hopener, hshapes⟩ := List.map_eq_cons_iff.mp (hreads line 0)
  exact ⟨opener, body, hscan, (Token.of_shape hopener).1, hshapes⟩

/-- A spelled statement is one span. -/
lemma exists_split_source (h : s.WellFormed) (width : Nat) (line : Int) :
    ∃ span, Span.split (Token.scan width line s.source) = [span] ∧
      span.isHierarchical = (s.operator == .hierarchical) ∧
      span.body.map Token.shape = s.words.flatten := by
  obtain ⟨opener, body, hscan, hkind, hbody⟩ := exists_scan_source h width line
  have hplain : ∀ t ∈ body, t.kind.isOpener = false := by
    refine forall_kind_of_map_shape (p := (·.isOpener = false)) hbody fun shape hshape => ?_
    obtain ⟨word, hword, hshape⟩ := List.mem_flatten.mp hshape
    exact (s.kind_of_mem_words word hword).2 shape hshape
  have hopener : opener.kind.isOpener = true := by
    rw [hkind]
    cases s.operator <;> rfl
  have hafter : Span.afterOpener opener body = body := by
    unfold Span.afterOpener
    split
    next =>
      cases body with
      | nil => rfl
      | cons t body =>
        refine List.dropWhile_cons_of_neg fun hkind => ?_
        have ht := hplain t List.mem_cons_self
        rw [beq_iff_eq.mp hkind] at ht
        cases ht
    next => rfl
  refine ⟨Span.ofOpener opener body, ?_, ?_, ?_⟩
  · rw [hscan, Span.split_of_single hopener (by rwa [hafter])]
  · rw [Span.isHierarchical, Span.opener_ofOpener, hkind]
    cases s.operator <;> rfl
  · have hall : body.takeWhile (!·.kind.isOpener) = body :=
      List.takeWhile_eq_self_iff.mpr fun t ht => by rw [hplain t ht]; rfl
    rw [Span.body_ofOpener, hafter, hall, hbody]

/-- The zones are read off the words, one after the other. -/
lemma agrees_ofSpan (h : s.WellFormed) {span : Span}
    (hoperator : span.isHierarchical = (s.operator == .hierarchical))
    (hbody : span.body.map Token.shape = s.words.flatten) (width : Nat) :
    (ofSpan width span).Agrees s := by
  rw [words, List.flatten_cons, List.flatten_append, List.flatten_append] at hbody
  obtain ⟨declaration, _, hspan, hdeclaration, hzones⟩ := List.map_eq_append_iff.mp hbody
  have hhead := kind_head?_of_map_shape (p := fun kind => kind ≠ .actionBlock ∧ kind ≠ .variableBlock)
    hzones (by cases s.target <;> cases s.effect <;> cases s.outcome <;>
      simp [TargetZone.words, EffectZone.words, outcomeWords])
  obtain ⟨target, _, rfl, htarget, hzones⟩ := List.map_eq_append_iff.mp hzones
  have hparameter := kind_head?_of_map_shape (p := (· ∈ [TokenKind.parameter, .trigger])) hzones
    (by cases s.effect <;> cases s.outcome <;> simp [EffectZone.words, outcomeWords])
  obtain ⟨effect, output, rfl, heffect, houtput⟩ := List.map_eq_append_iff.mp hzones
  have htrigger := kind_head?_of_map_shape (p := (· ∈ [TokenKind.trigger])) houtput
    (by cases s.outcome <;> simp [outcomeWords])
  have hdeclaration := readDeclaration_append h hdeclaration hhead
  obtain ⟨targetZone, htarget, hfunction⟩ := readZone_target h.target htarget hparameter
  obtain ⟨effectZone, heffect, hactions⟩ := readZone_effect h.effect heffect htrigger
  have houtcome := readZone_output h.outcome houtput
  have hkeyword : (ofSpan width span).keyword = s.keyword := by
    simp only [ofSpan, hspan, hdeclaration]
  refine ⟨?_, hkeyword, ?_, by rw [label?, hkeyword]; rfl, ?_, ?_, ?_, ?_⟩
  · simp only [ofSpan, hoperator]
    cases s.operator <;> rfl
  all_goals simp only [ofSpan, hspan, hdeclaration, htarget, heffect]
  · exact hfunction
  · exact hactions
  · exact houtcome

/-- A spelled statement is read as one statement that says the same. -/
lemma exists_ofLine_source (h : s.WellFormed) (width : Nat) (line : Int) :
    ∃ t, ofLine width line s.source = [t] ∧ t.Agrees s := by
  obtain ⟨span, hsplit, hoperator, hbody⟩ := exists_split_source h width line
  exact ⟨ofSpan width span, by rw [ofLine, hsplit, List.map_singleton],
    agrees_ofSpan h hoperator hbody width⟩

/-- The spelling of a statement depends on what it says only. -/
lemma Agrees.source_eq {t : Statement} (h : t.Agrees s) : t.source = s.source := by
  have htarget : (t.target.map fun z => ["//", TargetZone.source z]) =
      s.target.map fun z => ["//", TargetZone.source z] := by
    have hsource := congrArg
      (Option.map fun p => ["//", TargetZone.source ⟨p.1, p.2, ""⟩]) h.target
    rwa [Option.map_map, Option.map_map] at hsource
  have hdeclaration : t.declarationSource = s.declarationSource := by
    rw [declarationSource, declarationSource, h.keyword, h.condition, h.subjects]
  rw [source, source, h.operator, hdeclaration, htarget, h.effect, h.outcome]

/-- Statements that are spelled the same say the same. -/
lemma agrees_of_source_eq {u : Statement} (hs : s.WellFormed) (hu : u.WellFormed)
    (h : u.source = s.source) : u.Agrees s := by
  obtain ⟨t, hline, ht⟩ := exists_ofLine_source hs 1 1
  obtain ⟨t', hline', ht'⟩ := exists_ofLine_source hu 1 1
  rw [h, hline] at hline'
  obtain rfl : t = t' := by simpa using hline'
  exact ht'.symm.trans ht

/-- The block of the line that a statement is spelled with. -/
lemma exists_ofLines_source (h : s.WellFormed) (width : Nat) :
    ∃ t, (Block.ofLines width [s.source]).statements = [t] ∧ t.Agrees s := by
  obtain ⟨t, hline, ht⟩ := exists_ofLine_source h width 1
  refine ⟨t, ?_, ht⟩
  rw [Block.ofLines, ofLines, ofLinesFrom, hline]
  rfl

/-- The line that a well-formed statement is spelled with has one statement, which says the same and
is spelled the same. No other statement is spelled with this line, unless it says the same too. -/
theorem statements_source (h : s.WellFormed) (width : Nat) :
    ∃ t, (Block.ofLines width [s.source]).statements = [t] ∧ t.Agrees s ∧ t.source = s.source ∧
      ∀ u : Statement, u.WellFormed → u.source = s.source → u.Agrees s := by
  obtain ⟨t, ht, hagrees⟩ := exists_ofLines_source h width
  exact ⟨t, ht, hagrees, hagrees.source_eq, fun u hu => agrees_of_source_eq h hu⟩

/-- Operators, quotes and the other brackets stand in the blocks of a conditional with all zones. -/
theorem statements_source_conditional :
    let s : Statement := {
      operator := .hierarchical, keyword := some "if", condition := some "a -> b // (:: \x7b"
      subjects := ["x", "(y"], target := some ⟨"text", some "'% [1", ""⟩
      effect := some ⟨some "color", [("color", "#ff(0"), ("b\x7b]", ":^: \"c")]⟩
      outcome := some "done -> [1]", depth := 0, line := 0, column := 0 }
    s.source = ":^: if\x7ba -> b // (:: \x7b\x7d[x][(y] // text['% [1] " ++
        "% \x7bcolor\x7d(#ff(0) \x7bb\x7b]\x7d(:^: \"c) -> \x7bdone -> [1]\x7d" ∧
      s.WellFormed ∧
      ∃ t, (Block.ofLines 2 [s.source]).statements = [t] ∧ t.Agrees s ∧ t.source = s.source ∧
        ∀ u : Statement, u.WellFormed → u.source = s.source → u.Agrees s := by
  intro s
  have hs : s.WellFormed := by
    refine ⟨⟨"if", rfl, by decide⟩, ?_, ?_, ?_, ?_, ?_⟩
    · rintro _ ⟨⟩
      exact ⟨rfl, by decide +kernel⟩
    · decide +kernel
    · rintro _ ⟨⟩
      refine ⟨by decide, ?_⟩
      rintro _ ⟨⟩
      decide +kernel
    · rintro _ ⟨⟩
      refine ⟨by simp [Entries.Distinct], by decide +kernel, by decide +kernel, ?_, ?_⟩
      · rintro _ ⟨⟩
        rfl
      · rintro _ ⟨⟩
        decide +kernel
    · rintro _ ⟨⟩
      decide +kernel
  exact ⟨by decide +kernel, hs, statements_source hs 2⟩

end Statement

end BlockScript
