import BlockScript.Preset
import BlockScript.Proofs.Grammar.Brackets
import BlockScript.Proofs.Token.Source

/-!
# Options with brackets

On an accepted line each option has a closing bracket that matches its opening one, if brackets are
counted as validation counts them. What is stored of the option ends at its first closing bracket
nonetheless, so an option is stored as a whole iff there are no brackets in it
(`Statement.option_cut`).
-/

namespace BlockScript

/-! ### Matching brackets -/

section

variable {pair : Char × Char} {cs : List Char}

/-- Where the brackets open in front of a text are closed in it, there is one that closes the last of
them. -/
lemma exists_closing {opening closing : Char} {inner outer final : Nat} (hfinal : final ≤ outer)
    (h : depthAfter? opening closing (outer + 1 + inner) cs = some final) :
    ∃ whole rest, cs = whole ++ closing :: rest ∧ depthAfter? opening closing inner whole = some 0 := by
  -- `inner` counts the brackets that were opened since; the partner is met when there are none
  induction cs generalizing inner with
  | nil =>
    simp only [depthAfter?, Option.some.injEq] at h
    omega
  | cons c cs ih =>
    rw [depthAfter?] at h
    split at h
    next hopening =>
      rw [Nat.add_assoc] at h
      obtain ⟨whole, rest, rfl, hwhole⟩ := ih h
      exact ⟨c :: whole, rest, rfl, by rw [depthAfter?, if_pos hopening, hwhole]⟩
    next hopening =>
      split at h
      next hclosing =>
        rw [if_neg (by omega)] at h
        cases inner with
        | zero => exact ⟨[], cs, by rw [hclosing]; rfl, rfl⟩
        | succ inner =>
          obtain ⟨whole, rest, rfl, hwhole⟩ := ih h
          refine ⟨c :: whole, rest, rfl, ?_⟩
          rw [depthAfter?, if_neg hopening, if_pos hclosing, if_neg (Nat.succ_ne_zero inner)]
          exact hwhole
      next hclosing =>
        obtain ⟨whole, rest, rfl, hwhole⟩ := ih h
        exact ⟨c :: whole, rest, rfl, by rw [depthAfter?, if_neg hopening, if_neg hclosing, hwhole]⟩

/-- An opening bracket in a balanced text has its partner. -/
lemma Balanced.exists_partner {front : List Char} (h : Balanced pair (front ++ pair.1 :: cs)) :
    ∃ whole rest, cs = whole ++ pair.2 :: rest ∧ Balanced pair whole := by
  rw [Balanced, depthAfter?_append, Option.bind_eq_some_iff] at h
  obtain ⟨depth, -, h⟩ := h
  rw [depthAfter?, if_pos rfl] at h
  exact exists_closing (Nat.zero_le depth) h

lemma depthAfter?_eq_none {opening closing : Char} (hopening : opening ∉ cs) (hclosing : closing ∈ cs) :
    depthAfter? opening closing 0 cs = none := by
  induction cs with
  | nil => cases hclosing
  | cons c cs ih =>
    rw [List.mem_cons, not_or] at hopening
    rw [depthAfter?, if_neg (Ne.symm hopening.1)]
    split
    next => rfl
    next hne => exact ih hopening.2 ((List.mem_cons.mp hclosing).resolve_left (Ne.symm hne))

/-- A balanced text has closing brackets iff it has opening ones. -/
lemma Balanced.closing_mem_iff (h : Balanced pair cs) : pair.2 ∈ cs ↔ pair.1 ∈ cs := by
  constructor
  · intro hclosing
    by_contra hopening
    rw [Balanced, depthAfter?_eq_none hopening hclosing] at h
    cases h
  · intro hopening
    obtain ⟨front, back, rfl⟩ := List.append_of_mem hopening
    obtain ⟨whole, rest, rfl, -⟩ := h.exists_partner
    simp

/-- Up to the first closing bracket, what follows a text with its closing bracket does not matter. -/
lemma takeWhile_closing (closing : Char) (whole rest : List Char) :
    (whole ++ closing :: rest).takeWhile (· ≠ closing) = whole.takeWhile (· ≠ closing) := by
  induction whole with
  | nil => simp
  | cons c whole ih => rw [List.cons_append, List.takeWhile_cons, List.takeWhile_cons, ih]

/-- A balanced text is cut at its first closing bracket iff there are brackets in it, which trimming does
not hide. -/
lemma Balanced.trim_takeWhile_eq_iff (h : Balanced pair cs) (hclosing : Text.isBlank pair.2 = false) :
    Text.trim (String.ofList (cs.takeWhile (· ≠ pair.2))) = Text.trim (String.ofList cs) ↔
      pair.1 ∉ cs := by
  constructor
  · intro htrim hopening
    have hmem : pair.2 ∈ (String.ofList cs).toList := by
      rw [String.toList_ofList]
      exact h.closing_mem_iff.mpr hopening
    rw [← Text.mem_trim_iff hclosing, ← htrim, Text.mem_trim_iff hclosing, String.toList_ofList] at hmem
    simpa using List.mem_takeWhile_imp hmem
  · intro hopening
    rw [← takeWhile_closing pair.2 cs [],
      Lexeme.takeWhile_ne_append (mt h.closing_mem_iff.mp hopening)]

end

/-! ### Stored options -/

namespace Statement

lemma readActions_cons_of_ne {t : Token} (h : t.kind ≠ .actionBlock) (ts : List Token) :
    readActions (t :: ts) = readActions ts := by
  cases ts with
  | nil => rw [readActions.eq_2, if_neg h, readActions]
  | cons u ts => rw [readActions, if_neg h]

/-- An action is never the option of the action in front of it. -/
lemma readActions_append {front back : List Token} {t : Token} (ht : t.kind = .actionBlock) :
    readActions (front ++ t :: back) = readActions front ++ readActions (t :: back) := by
  fun_induction readActions front with
  | case1 => rfl
  | case2 u hu =>
    rw [List.singleton_append, List.singleton_append, readActions.eq_3, if_pos hu,
      if_neg (by rw [ht]; decide)]
  | case3 u hu o rest ho ih =>
    rw [List.cons_append, List.cons_append, readActions, if_pos hu, if_pos ho, ih, List.cons_append]
  | case4 u hu o rest ho ih =>
    rw [List.cons_append, List.cons_append, readActions, if_pos hu, if_neg ho, ← List.cons_append,
      ih, List.cons_append]
  | case5 u ts hu ih => rw [List.cons_append, readActions_cons_of_ne hu, ih]

/-- The last option of an action is the one that is stored. -/
lemma get?_effectOf {front back : List Token} {a o : Token} (ha : a.kind = .actionBlock)
    (ho : o.kind = .optionBlock)
    (hlast : ∀ p ∈ readActions back, p.2.isSome → p.1 ≠ Text.trim a.value) :
    (effectOf (front ++ a :: o :: back)).parameters.get? (Text.trim a.value) =
      some (Text.trim o.value) := by
  have hpair : readActions (a :: o :: back) =
      (Text.trim a.value, some (Text.trim o.value)) :: readActions back := by
    rw [readActions, if_pos ha, if_pos ho]
  let pairs (zone : List Token) : List (String × String) :=
    (readActions zone).filterMap fun p => p.2.map (p.1, ·)
  have hpairs : pairs (front ++ a :: o :: back) =
      pairs front ++ (Text.trim a.value, Text.trim o.value) :: pairs back := by
    simp only [pairs, readActions_append ha, hpair, List.filterMap_append, List.filterMap_cons,
      Option.map_some]
  have hback : Text.trim a.value ∉ (pairs back).map (·.1) := by
    intro hmem
    obtain ⟨q, hq, hname⟩ := List.mem_map.mp hmem
    obtain ⟨p, hp, hsome⟩ := List.mem_filterMap.mp hq
    obtain ⟨option, hoption, rfl⟩ := Option.map_eq_some_iff.mp hsome
    exact hlast p hp (by rw [hoption]; rfl) hname
  change Entries.get? (Entries.ofPairs (pairs (front ++ a :: o :: back))) _ = _
  rw [hpairs, Entries.get?_ofPairs_of_last hback]

/-- The value of an option ends at its first closing bracket. The matching one comes later if there are
brackets in between. -/
lemma exists_matching {width : Nat} (hwidth : 1 ≤ width) {stack : Grammar.Stack} {text : String}
    {number : Int} (hvalid : (Grammar.validate width stack text number).value.1.valid = true)
    {o : Token} (hscan : o ∈ Token.scan width number text) (ho : o.kind = .optionBlock) :
    ∃ whole rest, (Text.expandTabs width text).drop o.start = '(' :: (whole ++ ')' :: rest) ∧
      Balanced ('(', ')') whole ∧ o.value.toList = whole.takeWhile (· ≠ ')') := by
  obtain ⟨p, hp, hvalue⟩ := (Token.scans_scanFrom number _).exists_pattern hscan
  obtain rfl : p = .block '(' ')' := by simpa [ho, TokenPattern.all] using hp
  obtain ⟨-, hclosing, htext⟩ := hvalue
  set cs := Text.expandTabs width text
  set after := (cs.drop o.start).drop (o.stop - o.start)
  have hdrop : cs.drop o.start = '(' :: (o.value.toList ++ ')' :: after) := by
    rw [← List.take_append_drop (o.stop - o.start) (cs.drop o.start), ← Token.textIn, htext,
      List.cons_append, List.append_assoc]
    rfl
  have hpair : ('(', ')') ∈ Grammar.bracketPairs := by decide
  have hbalanced := Grammar.balanced_of_valid hwidth hvalid hpair
  rw [← List.take_append_drop o.start (Text.expandTabs width text), hdrop] at hbalanced
  obtain ⟨whole, rest, hwhole, hinner⟩ := hbalanced.exists_partner
  refine ⟨whole, rest, by rw [hdrop, hwhole], hinner, ?_⟩
  rw [← takeWhile_closing ')' whole rest, ← hwhole, Lexeme.takeWhile_ne_append hclosing]

/-- Of an option on a line without errors, what stands up to its first closing bracket is stored. This is
all of it iff there are no brackets in it. -/
theorem option_cut {width : Nat} (hwidth : 1 ≤ width) {stack : Grammar.Stack} {text : String}
    {number : Int} (hvalid : (Grammar.validate width stack text number).value.1.valid = true)
    {span : Span} (hspan : span ∈ Span.split (Token.scan width number text))
    {front back : List Token} {a o : Token}
    (hzone : effectZone? span = some (front ++ a :: o :: back)) (ha : a.kind = .actionBlock)
    (ho : o.kind = .optionBlock)
    (hlast : ∀ p ∈ readActions back, p.2.isSome → p.1 ≠ Text.trim a.value) :
    ∃ whole rest, (Text.expandTabs width text).drop o.start = '(' :: (whole ++ ')' :: rest) ∧
      Balanced ('(', ')') whole ∧
      ∃ z, (ofSpan width span).effect = some z ∧
        z.parameters.get? (Text.trim a.value) =
          some (Text.trim (String.ofList (whole.takeWhile (· ≠ ')')))) ∧
        (z.parameters.get? (Text.trim a.value) = some (Text.trim (String.ofList whole)) ↔
          '(' ∉ whole) := by
  have hscan : o ∈ Token.scan width number text :=
    Span.body_subset_of_mem_split hspan (subset_effectZone? hzone (by simp))
  obtain ⟨whole, rest, hwhole, hinner, hvalue⟩ := exists_matching hwidth hvalid hscan ho
  have hstored : (effectOf (front ++ a :: o :: back)).parameters.get? (Text.trim a.value) =
      some (Text.trim (String.ofList (whole.takeWhile (· ≠ ')')))) := by
    rw [get?_effectOf ha ho hlast, ← hvalue, String.ofList_toList]
  refine ⟨whole, rest, hwhole, hinner, effectOf (front ++ a :: o :: back),
    congrArg (Option.map effectOf) hzone, hstored, ?_⟩
  rw [hstored, Option.some_inj]
  exact hinner.trim_takeWhile_eq_iff rfl

/-- A call between two options of another action. -/
theorem option_cut_call :
    let text := ":: set[x] // text % \x7bcolor\x7d(red) \x7bfilter\x7d( blur(2px) ) \x7bcolor\x7d(blue)"
    (Grammar.validate 2 [] text 1).value.1.valid = true ∧
      ∃ span ∈ Span.split (Token.scan 2 1 text), ∃ whole rest,
        (Text.expandTabs 2 text).drop 41 = '(' :: (whole ++ ')' :: rest) ∧
          Balanced ('(', ')') whole ∧
          ∃ z, (ofSpan 2 span).effect = some z ∧
            z.parameters.get? "filter" =
              some (Text.trim (String.ofList (whole.takeWhile (· ≠ ')')))) ∧
            (z.parameters.get? "filter" = some (Text.trim (String.ofList whole)) ↔ '(' ∉ whole) := by
  intro text
  let action : Token := ⟨.actionBlock, "filter", 1, 33, 41⟩
  let option : Token := ⟨.optionBlock, " blur(2px", 1, 41, 52⟩
  let front : List Token := [⟨.actionBlock, "color", 1, 20, 27⟩, ⟨.optionBlock, "red", 1, 27, 32⟩]
  let back : List Token := [⟨.actionBlock, "color", 1, 55, 62⟩, ⟨.optionBlock, "blue", 1, 62, 68⟩]
  let span : Span := ⟨⟨.root, "::", 1, 0, 2⟩, 0, [⟨.identifier, "set", 1, 3, 6⟩,
    ⟨.variableBlock, "x", 1, 6, 9⟩, ⟨.relation, "//", 1, 10, 12⟩, ⟨.identifier, "text", 1, 13, 17⟩,
    ⟨.parameter, "%", 1, 18, 19⟩] ++ front ++ action :: option :: back⟩
  have hvalid : (Grammar.validate 2 [] text 1).value.1.valid = true := by decide +kernel
  have hsplit : Span.split (Token.scan 2 1 text) = [span] := by decide +kernel
  have hspan : span ∈ Span.split (Token.scan 2 1 text) := by
    rw [hsplit]
    exact List.mem_singleton_self span
  have hzone : effectZone? span = some (front ++ action :: option :: back) := by decide +kernel
  have hlast : ∀ p ∈ readActions back, p.2.isSome → p.1 ≠ Text.trim action.value := by
    decide +kernel
  have hname : Text.trim action.value = "filter" := by decide +kernel
  have hcut := option_cut (by decide) hvalid hspan hzone rfl rfl hlast
  rw [hname] at hcut
  exact ⟨hvalid, span, hspan, hcut⟩

/-- On a line with a call as its option validation finds no errors, and the closing bracket of the call is
lost. -/
theorem option_loses_bracket :
    let line := ":: set[background] // content % \x7bfilter\x7d(blur(2px))"
    let preset := Preset.ofStyles "dusk" (some "rgb(0, 0, 0)") none none
    (Grammar.validate 2 [] line 1).value.1.errors = [] ∧
      (Text.expandTabs 2 line).drop 40 = '(' :: ("blur(2px)".toList ++ [')']) ∧
      Balanced ('(', ')') "blur(2px)".toList ∧
      (ofLine 2 1 line).map (·.effect) = [some ⟨some "filter", [("filter", "blur(2px")]⟩] ∧
      preset.lines.map (fun line => (Grammar.validate 2 [] line 1).value.1.errors) = [[]] ∧
      preset.lines.flatMap (fun line => (ofLine 2 1 line).map (·.effect)) =
        [some ⟨some "color", [("color", "rgb(0, 0, 0")]⟩] := by
  decide +kernel

end Statement

end BlockScript
