import BlockScript.Expression.Reading
import BlockScript.Proofs.Expression.Topics

/-!
# Quoted literals

An operator is looked for in the whole of an expression, in the order of the operators, and quotes do not
hide one. So what stands in quotes behind an operator is the literal, word for word, unless it holds an
operator that is looked for earlier; then the expression is split there, within the quotes
(`Expression.read_quoted`).
-/

namespace BlockScript

namespace Relation

/-- The characters that operators consist of. -/
def marks : List Char :=
  ['>', '<', '=', '!', '~']

/-- The question that an operator asks about a literal which is a text. -/
def asks (literal spelling : String) : Relation → Question
  | .comparison c => .compare c (.text literal) spelling
  | .search => .search literal spelling

lemma mem_marks : ∀ o ∈ spellings, o.1.toList ≠ [] ∧ ∀ c ∈ o.1.toList, c ∈ marks := by
  simp [spellings, marks]

/-- No operator contains one that is looked for earlier. -/
lemma pairwise_spellings :
    spellings.Pairwise fun o later => Expression.splitAt? o.1.toList later.1.toList = none := by
  decide

end Relation

/-! ### Literals with quotes -/

namespace Literal

variable {cs : List Char} {c : Char}

lemma unquote?_cons (hne : cs ≠ []) :
    unquote? (c :: cs) =
      if (c = '"' ∨ c = '\'') ∧ cs.getLast? = some c then some cs.dropLast else none := by
  cases cs with
  | nil => exact absurd rfl hne
  | cons d cs => rfl

lemma unquote?_quoted (cs : List Char) : unquote? ('"' :: (cs ++ ['"'])) = some cs := by
  rw [unquote?_cons (by simp), List.getLast?_concat, List.dropLast_concat]
  exact if_pos ⟨.inl rfl, rfl⟩

lemma readTrimmed_quoted (cs : List Char) :
    readTrimmed ('"' :: (cs ++ ['"'])) = .ok (.text (String.ofList cs)) := by
  rw [readTrimmed, unquote?_quoted]

/-- A quote at the end alone does not count as one. -/
lemma unquote?_concat_quote (h : '"' ∉ cs) : unquote? (cs ++ ['"']) = none := by
  cases cs with
  | nil => rfl
  | cons d cs =>
    rw [List.cons_append, unquote?_cons (by simp), List.getLast?_concat]
    refine if_neg ?_
    rintro ⟨-, heq⟩
    exact h (Option.some.inj heq ▸ List.mem_cons_self)

lemma mem_lowerFrom_quote {before : List Char} (h : '"' ∈ cs) :
    '"' ∈ Text.lowerFrom before cs := by
  induction cs generalizing before with
  | nil => simp at h
  | cons d cs ih =>
    rw [Text.lowerFrom, List.mem_append]
    have hlow : Text.lowerChar '"' = '"' := by decide
    rcases List.mem_cons.mp h with rfl | h
    · simp [hlow]
    · exact .inr (ih h)

lemma mem_spanMinus (h : c ∈ cs) (hc : c ≠ '-') : c ∈ (spanMinus cs).2 := by
  unfold spanMinus
  split
  next => exact List.mem_of_ne_of_mem hc h
  next => exact h

/-- What is no digit is not passed over with digits. -/
lemma mem_dropWhile_isDigit (h : c ∈ cs) (hc : Text.isDigit c = false) :
    c ∈ cs.dropWhile Text.isDigit := by
  rw [← List.takeWhile_append_dropWhile (p := Text.isDigit) (l := cs), List.mem_append] at h
  refine h.resolve_left fun hfront => ?_
  rw [List.mem_takeWhile_imp hfront] at hc
  exact absurd hc (by decide)

lemma isDecimalNumeral_of_mem (h : c ∈ cs) (hc : Text.isDigit c = false) (hpoint : c ≠ '.') :
    isDecimalNumeral cs = false := by
  have hmem := mem_dropWhile_isDigit h hc
  unfold isDecimalNumeral
  split
  next fraction hrest =>
    rw [hrest] at hmem
    have hfraction := List.mem_of_ne_of_mem hpoint hmem
    have hnumeral : isNumeral fraction = false := by
      by_contra hnumeral
      exact not_mem_of_isNumeral (eq_true_of_ne_false hnumeral) hc hfraction
    rw [hnumeral, Bool.and_false]
  next => rfl

lemma timeOfDay?_of_mem (h : c ∈ cs) (hc : Text.isDigit c = false) (hcolon : c ≠ ':') :
    timeOfDay? cs = none := by
  have hmem := mem_dropWhile_isDigit h hc
  unfold timeOfDay?
  split
  next a b hrest =>
    rw [hrest] at hmem
    refine if_neg ?_
    rintro ⟨-, ha, hb⟩
    rcases List.mem_cons.mp (List.mem_of_ne_of_mem hcolon hmem) with rfl | hmem
    · simp [ha] at hc
    · rw [List.mem_singleton.mp hmem, hb] at hc
      exact absurd hc (by decide)
  next => rfl

/-- A text with a quote in it that is not quoted is the literal itself. -/
lemma readTrimmed_of_quote (h : '"' ∈ cs) (hunquote : unquote? cs = none) :
    readTrimmed cs = .ok (.text (String.ofList cs)) := by
  have hlow : '"' ∈ (Text.lower (String.ofList cs)).toList := by
    simpa [Text.lower] using mem_lowerFrom_quote h
  have hword : ∀ word : String, '"' ∉ word.toList → Text.lower (String.ofList cs) ≠ word := by
    rintro _ hnot rfl
    exact hnot hlow
  have hdigits := mem_spanMinus h (by decide)
  have hnumeral : isNumeral (spanMinus cs).2 = false := by
    by_contra hnumeral
    exact not_mem_of_isNumeral (eq_true_of_ne_false hnumeral) (by decide) hdigits
  have hdecimal := isDecimalNumeral_of_mem hdigits (by decide) (by decide)
  have htime := timeOfDay?_of_mem h (by decide) (by decide)
  rw [readTrimmed, hunquote]
  simp [hword "true" (by decide), hword "false" (by decide), hnumeral, hdecimal, htime]

end Literal

namespace Expression

variable {mark front back cs : List Char} {c : Char}

/-! ### First occurrences -/

/-- Whether a mark stands between two parts of a text, and nowhere earlier. -/
structure FirstAt (mark cs before after : List Char) : Prop where
  eq : cs = before ++ mark ++ after
  first : ∀ before' after', cs = before' ++ mark ++ after' → before.length ≤ before'.length

lemma splitAt?_cons (mark : List Char) (c : Char) (cs : List Char) :
    splitAt? mark (c :: cs) =
      if mark.isPrefixOf (c :: cs) then some ([], (c :: cs).drop mark.length)
      else (splitAt? mark cs).map fun (before, after) => (c :: before, after) :=
  rfl

lemma splitAt?_eq_none_iff (hmark : mark ≠ []) : splitAt? mark cs = none ↔ ¬mark <:+: cs := by
  induction cs with
  | nil => simp [splitAt?, hmark]
  | cons c cs ih =>
    rw [splitAt?, List.infix_cons_iff, not_or, ← ih]
    by_cases hatStart : mark.isPrefixOf (c :: cs) = true
    · simp [hatStart, List.isPrefixOf_iff_prefix.mp hatStart]
    · simp [hatStart, mt List.isPrefixOf_iff_prefix.mpr hatStart]

lemma firstAt_of_splitAt? (h : splitAt? mark cs = some (front, back)) :
    FirstAt mark cs front back := by
  induction cs generalizing front with
  | nil => simp [splitAt?] at h
  | cons c cs ih =>
    rw [splitAt?] at h
    by_cases hatStart : mark.isPrefixOf (c :: cs) = true
    · rw [if_pos hatStart] at h
      obtain ⟨rfl, rfl⟩ := Prod.mk.inj (Option.some.inj h)
      obtain ⟨rest, hrest⟩ := List.isPrefixOf_iff_prefix.mp hatStart
      refine ⟨?_, fun _ _ _ => Nat.zero_le _⟩
      rw [← hrest]
      simp
    · rw [if_neg hatStart, Option.map_eq_some_iff] at h
      obtain ⟨⟨before, after⟩, hsplit, heq⟩ := h
      obtain ⟨rfl, rfl⟩ := Prod.mk.inj heq
      obtain ⟨rfl, hfirst⟩ := ih hsplit
      refine ⟨rfl, fun before' after' heq => ?_⟩
      cases before' with
      | nil =>
        refine absurd (List.isPrefixOf_iff_prefix.mpr ?_) hatStart
        exact ⟨after', heq.symm⟩
      | cons d before' =>
        obtain ⟨-, heq⟩ := List.cons.inj heq
        exact Nat.succ_le_succ (hfirst before' after' heq)

lemma splitAt?_of_firstAt (hmark : mark ≠ []) (h : FirstAt mark cs front back) :
    splitAt? mark cs = some (front, back) := by
  cases hsplit : splitAt? mark cs with
  | none =>
    rw [splitAt?_eq_none_iff hmark, h.eq] at hsplit
    exact absurd ⟨front, back, rfl⟩ hsplit
  | some parts =>
    obtain ⟨before, after⟩ := parts
    have hfirst := firstAt_of_splitAt? hsplit
    have hlength : front.length = before.length :=
      Nat.le_antisymm (h.first _ _ hfirst.eq) (hfirst.first _ _ h.eq)
    have heq : front ++ mark ++ back = before ++ mark ++ after := h.eq.symm.trans hfirst.eq
    obtain ⟨hfront, rfl⟩ := List.append_inj heq (by simp [hlength])
    obtain ⟨rfl, -⟩ := List.append_inj hfront hlength
    rfl

/-! ### Searching beyond a character -/

lemma isPrefixOf_append_cons (hc : c ∉ mark) (front back : List Char) :
    mark.isPrefixOf (front ++ c :: back) = mark.isPrefixOf front := by
  induction front generalizing mark with
  | nil =>
    cases mark with
    | nil => rfl
    | cons d mark =>
      have hne : d ≠ c := fun heq => hc (heq ▸ List.mem_cons_self)
      simp [List.isPrefixOf, hne]
  | cons e front ih =>
    cases mark with
    | nil => rfl
    | cons d mark =>
      simp [List.isPrefixOf, ih fun hmem => hc (List.mem_cons_of_mem d hmem)]

/-- A mark stands before or behind a character that it does not contain. -/
lemma splitAt?_append_cons (hmark : mark ≠ []) (hc : c ∉ mark) (front back : List Char) :
    splitAt? mark (front ++ c :: back) =
      ((splitAt? mark front).map fun (before, after) => (before, after ++ c :: back)).or
        ((splitAt? mark back).map fun (before, after) => (front ++ c :: before, after)) := by
  induction front with
  | nil =>
    have hatStart := isPrefixOf_append_cons hc [] back
    rw [List.nil_append] at hatStart
    rw [List.nil_append, splitAt?_cons, hatStart]
    cases mark with
    | nil => exact absurd rfl hmark
    | cons d mark => simp [splitAt?]
  | cons e front ih =>
    have hatStart := isPrefixOf_append_cons hc (e :: front) back
    rw [List.cons_append] at hatStart
    rw [List.cons_append, splitAt?_cons, hatStart, splitAt?_cons, ih]
    by_cases h : mark.isPrefixOf (e :: front) = true
    · have hlength := (List.isPrefixOf_iff_prefix.mp h).length_le
      simp only [if_pos h, Option.map_some, Option.some_or]
      rw [← List.cons_append, List.drop_append_of_le_length hlength]
    · simp only [if_neg h]
      cases splitAt? mark front <;> cases splitAt? mark back <;> rfl

/-! ### The first operator -/

/-- An expression is split at the first operator, in their order, that occurs in it. -/
lemma splitRelation?_eq_some {tried rest : List (String × Relation)} {o : String × Relation}
    (hspellings : Relation.spellings = tried ++ o :: rest)
    (htried : ∀ o' ∈ tried, splitAt? o'.1.toList cs = none)
    (hsplit : splitAt? o.1.toList cs = some (front, back)) :
    splitRelation? cs = some (front, o.2, back) := by
  rw [splitRelation?, hspellings, List.findSome?_append,
    List.findSome?_eq_none_iff.mpr fun o' ho' => by simp [htried o' ho']]
  simp [hsplit]

/-- An expression with two sides is a question about the left one. -/
lemma read_of_split {text : String} {relation : Relation} {path raw : List Char}
    (hsplit : splitRelation? (Text.trimChars text.toList) = some (front, relation, back))
    (hpath : Text.trimChars front = path) (hraw : Text.trimChars back = raw) (hp : path ≠ [])
    (hr : raw ≠ []) {question : Question} (hquestion : readQuestion relation raw = .ok question) :
    read text = .ok ⟨String.ofList path, question⟩ := by
  rw [read, hsplit]
  simp only [hpath, hraw, List.isEmpty_eq_false_iff.mpr hp, List.isEmpty_eq_false_iff.mpr hr,
    hquestion]
  rfl

lemma readQuestion_quoted (relation : Relation) (literal : List Char) :
    readQuestion relation ('"' :: (literal ++ ['"'])) =
      .ok (relation.asks (String.ofList literal) (String.ofList ('"' :: (literal ++ ['"'])))) := by
  cases relation with
  | comparison c =>
    rw [readQuestion, Literal.readTrimmed_quoted]
    rfl
  | search =>
    rw [readQuestion, Literal.unquote?_quoted]
    rfl

/-- What stands behind an operator within quotes is a literal with the last quote in it. -/
lemma readQuestion_concat_quote (relation : Relation) (h : '"' ∉ cs) :
    readQuestion relation (cs ++ ['"']) =
      .ok (relation.asks (String.ofList (cs ++ ['"'])) (String.ofList (cs ++ ['"']))) := by
  have hunquote := Literal.unquote?_concat_quote h
  cases relation with
  | comparison c =>
    rw [readQuestion, Literal.readTrimmed_of_quote (by simp) hunquote]
    rfl
  | search =>
    rw [readQuestion, hunquote]
    rfl

/-! ### Comparing with a text in quotes -/

/-- The expression that compares a path with a text in quotes. -/
def quoting (path spelling literal : String) : String :=
  path ++ " " ++ spelling ++ " \"" ++ literal ++ "\""

lemma toList_quoting (path spelling literal : String) :
    (quoting path spelling literal).toList =
      path.toList ++ ' ' :: (spelling.toList ++ ' ' :: '"' :: (literal.toList ++ ['"'])) := by
  simp [quoting]

section

variable {path spelling literal : String} {relation : Relation}
  {tried rest : List (String × Relation)}

/-- In such an expression an operator is found in the middle or, if it is not there, in the quotes. -/
lemma splitAt?_quoting (hmarks : ∀ c ∈ path.toList, c ∉ Relation.marks) {o : String × Relation}
    (ho : o ∈ Relation.spellings) :
    splitAt? o.1.toList (quoting path spelling literal).toList =
      ((splitAt? o.1.toList spelling.toList).map fun (before, after) =>
        (path.toList ++ ' ' :: before, after ++ ' ' :: '"' :: (literal.toList ++ ['"']))).or
      ((splitAt? o.1.toList literal.toList).map fun (before, after) =>
        (path.toList ++ ' ' :: (spelling.toList ++ ' ' :: '"' :: before), after ++ ['"'])) := by
  obtain ⟨hne, hmem⟩ := Relation.mem_marks o ho
  have hspace : ' ' ∉ o.1.toList := fun h => absurd (hmem _ h) (by decide)
  have hquote : '"' ∉ o.1.toList := fun h => absurd (hmem _ h) (by decide)
  have hpath : splitAt? o.1.toList path.toList = none := by
    obtain ⟨c, mark, hmark⟩ := List.exists_cons_of_ne_nil hne
    rw [hmark] at hmem ⊢
    exact splitAt?_eq_none fun hc => hmarks c hc (hmem c List.mem_cons_self)
  have hopening := splitAt?_append_cons hne hquote [] (literal.toList ++ '"' :: [])
  rw [List.nil_append] at hopening
  -- no operator contains the blanks and the quotes, so each part between them is searched by itself
  rw [toList_quoting, splitAt?_append_cons hne hspace, hpath, splitAt?_append_cons hne hspace,
    hopening, splitAt?_append_cons hne hquote]
  cases splitAt? o.1.toList spelling.toList <;> cases splitAt? o.1.toList literal.toList <;>
    simp [splitAt?]

/-- An operator that is looked for earlier is found only in the quotes. -/
lemma splitAt?_quoting_of_tried
    (hspellings : Relation.spellings = tried ++ (spelling, relation) :: rest)
    (hmarks : ∀ c ∈ path.toList, c ∉ Relation.marks) {o : String × Relation} (ho : o ∈ tried) :
    splitAt? o.1.toList (quoting path spelling literal).toList =
      (splitAt? o.1.toList literal.toList).map fun (before, after) =>
        (path.toList ++ ' ' :: (spelling.toList ++ ' ' :: '"' :: before), after ++ ['"']) := by
  have hpairwise := Relation.pairwise_spellings
  rw [hspellings, List.pairwise_append] at hpairwise
  have hmem : o ∈ Relation.spellings := by simp [hspellings, ho]
  rw [splitAt?_quoting hmarks hmem, hpairwise.2.2 o ho _ List.mem_cons_self]
  rfl

lemma splitAt?_quoting_eq_none
    (hspellings : Relation.spellings = tried ++ (spelling, relation) :: rest)
    (hmarks : ∀ c ∈ path.toList, c ∉ Relation.marks) {o : String × Relation} (ho : o ∈ tried)
    (hclear : ¬o.1.toList <:+: literal.toList) :
    splitAt? o.1.toList (quoting path spelling literal).toList = none := by
  have hmem : o ∈ Relation.spellings := by simp [hspellings, ho]
  rw [splitAt?_quoting_of_tried hspellings hmarks ho,
    (splitAt?_eq_none_iff (Relation.mem_marks o hmem).1).mpr hclear]
  rfl

lemma splitAt?_self {mark : List Char} (hmark : mark ≠ []) : splitAt? mark mark = some ([], []) := by
  cases mark with
  | nil => exact absurd rfl hmark
  | cons c mark => simp [splitAt?]

/-- Neither the path nor the last quote leaves blanks at the ends to be trimmed. -/
lemma trimChars_append_quote (hpath : Text.trimChars path.toList = path.toList) (hne : path ≠ "")
    (cs : List Char) :
    Text.trimChars (path.toList ++ (cs ++ ['"'])) = path.toList ++ (cs ++ ['"']) := by
  rw [Text.trimChars, Text.trimLeft_append_of_trimmed (Text.trimmed_of_trimChars hpath).1
    (by simpa using hne), ← List.append_assoc, Text.trimRight_concat_quote]

lemma trimChars_quoting (hpath : Text.trimChars path.toList = path.toList) (hne : path ≠ "") :
    Text.trimChars (quoting path spelling literal).toList =
      (quoting path spelling literal).toList := by
  have h := trimChars_append_quote hpath hne
    (' ' :: (spelling.toList ++ ' ' :: '"' :: literal.toList))
  simpa [toList_quoting] using h

/-- Without earlier operators in the quotes the expression is read as it is written. -/
lemma read_quoting (hspellings : Relation.spellings = tried ++ (spelling, relation) :: rest)
    (hpath : Text.trimChars path.toList = path.toList) (hne : path ≠ "")
    (hmarks : ∀ c ∈ path.toList, c ∉ Relation.marks)
    (hclear : ∀ o ∈ tried, ¬o.1.toList <:+: literal.toList) :
    read (quoting path spelling literal) =
      .ok ⟨path, relation.asks literal ("\"" ++ literal ++ "\"")⟩ := by
  have hself : (spelling, relation) ∈ Relation.spellings := by simp [hspellings]
  have htried : ∀ o ∈ tried,
      splitAt? o.1.toList (quoting path spelling literal).toList = none :=
    fun o ho => splitAt?_quoting_eq_none hspellings hmarks ho (hclear o ho)
  have hsplit : splitAt? spelling.toList (quoting path spelling literal).toList =
      some (path.toList ++ [' '], ' ' :: '"' :: (literal.toList ++ ['"'])) := by
    rw [splitAt?_quoting hmarks hself, splitAt?_self (Relation.mem_marks _ hself).1]
    rfl
  have hrelation := splitRelation?_eq_some hspellings htried hsplit
  rw [← trimChars_quoting hpath hne] at hrelation
  have hleft : Text.trimChars (path.toList ++ [' ']) = path.toList := by
    obtain ⟨hpathLeft, hpathRight⟩ := Text.trimmed_of_trimChars hpath
    rw [Text.trimChars, Text.trimLeft_append_of_trimmed hpathLeft (by simpa using hne),
      Text.trimRight_append_of_trimmed hpathRight]
    simp [Text.trimRight, Text.isBlank]
  have hright : Text.trimChars (' ' :: '"' :: (literal.toList ++ ['"'])) =
      '"' :: (literal.toList ++ ['"']) := by
    have hblank : Text.trimLeft (' ' :: '"' :: (literal.toList ++ ['"'])) =
        ('"' :: literal.toList) ++ ['"'] := by simp [Text.trimLeft, Text.isBlank]
    rw [Text.trimChars, hblank, Text.trimRight_concat_quote, List.cons_append]
  have hspelled : String.ofList ('"' :: (literal.toList ++ ['"'])) = "\"" ++ literal ++ "\"" := by
    simp [← String.toList_inj]
  rw [read_of_split hrelation hleft hright (by simpa using hne) (by simp)
    (readQuestion_quoted relation literal.toList), hspelled]
  simp only [String.ofList_toList]

/-- The first operator that occurs in the quotes, if it comes before the one in the middle, splits the
expression. -/
lemma read_quoting_of_firstAt {before after : List (String × Relation)} {o : String × Relation}
    (hspellings : Relation.spellings = before ++ o :: after ++ (spelling, relation) :: rest)
    (hpath : Text.trimChars path.toList = path.toList) (hne : path ≠ "")
    (hmarks : ∀ c ∈ path.toList, c ∉ Relation.marks) (hliteral : '"' ∉ literal.toList)
    (hclear : ∀ o' ∈ before, ¬o'.1.toList <:+: literal.toList)
    (hfirst : FirstAt o.1.toList literal.toList front back) :
    read (quoting path spelling literal) =
      .ok ⟨path ++ " " ++ spelling ++ " \"" ++ String.ofList (Text.trimRight front),
        o.2.asks (String.ofList (Text.trimLeft back) ++ "\"")
          (String.ofList (Text.trimLeft back) ++ "\"")⟩ := by
  have htried : ∀ o' ∈ before,
      splitAt? o'.1.toList (quoting path spelling literal).toList = none := fun o' ho' =>
    splitAt?_quoting_eq_none hspellings hmarks (List.mem_append_left _ ho') (hclear o' ho')
  have hmem : o ∈ Relation.spellings := by simp [hspellings]
  have hsplit : splitAt? o.1.toList (quoting path spelling literal).toList =
      some (path.toList ++ ' ' :: (spelling.toList ++ ' ' :: '"' :: front), back ++ ['"']) := by
    rw [splitAt?_quoting_of_tried hspellings hmarks (List.mem_append_right _ List.mem_cons_self),
      splitAt?_of_firstAt (Relation.mem_marks o hmem).1 hfirst]
    rfl
  have hspellings' : Relation.spellings = before ++ o :: (after ++ (spelling, relation) :: rest) := by
    rw [hspellings, List.append_assoc, List.cons_append]
  have hrelation := splitRelation?_eq_some hspellings' htried hsplit
  rw [← trimChars_quoting hpath hne] at hrelation
  have hleft : Text.trimChars (path.toList ++ ' ' :: (spelling.toList ++ ' ' :: '"' :: front)) =
      path.toList ++ ' ' :: (spelling.toList ++ ' ' :: '"' :: Text.trimRight front) := by
    have hquote := Text.trimRight_append_of_trimmed
      (Text.trimRight_concat_quote (path.toList ++ ' ' :: (spelling.toList ++ [' ']))) front
    rw [Text.trimChars, Text.trimLeft_append_of_trimmed (Text.trimmed_of_trimChars hpath).1
      (by simpa using hne)]
    simpa using hquote
  have hback : '"' ∉ Text.trimLeft back := fun hmem => by
    refine hliteral ?_
    rw [hfirst.eq]
    exact List.mem_append_right _ ((List.dropWhile_suffix _).subset hmem)
  have hright : Text.trimChars (back ++ ['"']) = Text.trimLeft back ++ ['"'] := by
    rw [Text.trimChars, Text.trimLeft_concat_quote, Text.trimRight_concat_quote]
  rw [read_of_split hrelation hleft hright (by simp) (by simp) (readQuestion_concat_quote o.2 hback)]
  simp [← String.toList_inj]

/-- A text in quotes behind an operator is the literal, word for word, if no operator that is looked
for earlier occurs in it. If one does, the expression is split at the first place of the first of
them: the operator and the quote in front of it stay with the path, the quote at the end with the
literal. -/
theorem read_quoted (hspellings : Relation.spellings = tried ++ (spelling, relation) :: rest)
    (hpath : Text.trim path = path) (hne : path ≠ "")
    (hmarks : ∀ c ∈ path.toList, c ∉ Relation.marks) (hliteral : '"' ∉ literal.toList) :
    ((∀ o ∈ tried, ¬o.1.toList <:+: literal.toList) →
      read (quoting path spelling literal) =
        .ok ⟨path, relation.asks literal ("\"" ++ literal ++ "\"")⟩) ∧
    ∀ before o after front back, tried = before ++ o :: after →
      (∀ o' ∈ before, ¬o'.1.toList <:+: literal.toList) →
      FirstAt o.1.toList literal.toList front back →
      read (quoting path spelling literal) =
        .ok ⟨path ++ " " ++ spelling ++ " \"" ++ String.ofList (Text.trimRight front),
          o.2.asks (String.ofList (Text.trimLeft back) ++ "\"")
            (String.ofList (Text.trimLeft back) ++ "\"")⟩ := by
  have hchars : Text.trimChars path.toList = path.toList := by
    rw [← String.toList_ofList (l := Text.trimChars path.toList), ← Text.trim, hpath]
  constructor
  · exact read_quoting hspellings hchars hne hmarks
  · rintro before o after front back rfl hclear hfirst
    exact read_quoting_of_firstAt hspellings hchars hne hmarks hliteral hclear hfirst

end

/-- `read_quoted` for two titles, the second one with an operator in it. -/
theorem read_quoted_title :
    read "user.title == \"Home page\"" =
        .ok ⟨"user.title", .compare .eq (.text "Home page") "\"Home page\""⟩ ∧
      read "user.title == \"a <= b\"" =
        .ok ⟨"user.title == \"a", .compare .le (.text "b\"") "b\""⟩ := by
  have hspellings : Relation.spellings =
      [(">=", .comparison .ge), ("<=", .comparison .le), ("!=", .comparison .ne)] ++
        ("==", .comparison .eq) ::
          [(">", .comparison .gt), ("<", .comparison .lt), ("=", .comparison .eq), ("~", .search)] :=
    rfl
  have hpath : Text.trim "user.title" = "user.title" := by decide
  have hmarks : ∀ c ∈ "user.title".toList, c ∉ Relation.marks := by simp [Relation.marks]
  constructor
  · have hclear : ∀ o ∈ [(">=", Relation.comparison .ge), ("<=", .comparison .le),
        ("!=", .comparison .ne)], ¬o.1.toList <:+: "Home page".toList := by
      simp [List.infix_cons_iff]
    simpa [quoting, Relation.asks] using
      (read_quoted hspellings hpath (by simp) hmarks (by decide)).1 hclear
  · have hfirst : FirstAt "<=".toList "a <= b".toList ['a', ' '] [' ', 'b'] :=
      firstAt_of_splitAt? (by decide)
    have hclear : ∀ o ∈ [(">=", Relation.comparison .ge)], ¬o.1.toList <:+: "a <= b".toList := by
      simp [List.infix_cons_iff]
    have hsides : String.ofList (Text.trimRight ['a', ' ']) = "a" ∧
        String.ofList (Text.trimLeft [' ', 'b']) = "b" := by decide
    simpa [quoting, Relation.asks, hsides] using
      (read_quoted hspellings hpath (by simp) hmarks (by decide)).2
        [(">=", .comparison .ge)] ("<=", .comparison .le) [("!=", .comparison .ne)] _ _ rfl hclear hfirst

/-- Quotes do not hide an operator that is looked for earlier. -/
theorem read_relation_in_quotes :
    read "user.title == \"a <= b\"" ≠
      .ok ⟨"user.title", .compare .eq (.text "a <= b") "\"a <= b\""⟩ := by
  decide +kernel

end Expression

end BlockScript
