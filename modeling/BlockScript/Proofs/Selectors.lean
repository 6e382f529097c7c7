import BlockScript.Proofs.Number.Writing
import BlockScript.Proofs.Statement.Source
import BlockScript.Proofs.Token.Source

/-!
# Texts of selectors

The text of a selector is the target that it is the selector of: whatever a statement names by an
identifier, the text of its selector, read as a target again, gives the same selector
(`Selector.text_determines`).
-/

namespace BlockScript

open Nat (toDigits)

/-! ### Positions -/

/-- A row of digits and hyphens may stand in a block. -/
lemma piece_of_digits {cs : List Char} (hne : cs ≠ [])
    (h : ∀ c ∈ cs, Text.isDigit c = true ∨ c = '-') : Piece ']' (String.ofList cs) := by
  have hplain : ∀ d : Char, Text.isDigit d = false → d ≠ '-' → d ∉ cs := by
    intro d hdigit hhyphen hmem
    rcases h d hmem with h | h
    · rw [hdigit] at h
      cases h
    · exact hhyphen h
  have htrim : ∀ c ∈ cs, Text.isBlank c = false := by
    intro c hc
    rcases h c hc with h | rfl
    · by_contra hblank
      rw [Text.isDigit_of_isBlank (Bool.eq_true_of_not_eq_false hblank)] at h
      cases h
    · decide
  refine ⟨by simpa using hne, Text.trim_ofList htrim, ?_, ?_⟩ <;> rw [String.toList_ofList]
  · exact hplain _ (by decide) (by decide)
  · exact hplain _ (by decide) (by decide)

namespace Position

/-- A position as an argument has it. -/
def text : Position → String
  | .item n => toString n
  | .range first last => toString first ++ "-" ++ toString last

end Position

namespace Selector

lemma toList_toString (n : Nat) : (toString (n : Int)).toList = toDigits 10 n :=
  Nat.toList_repr

lemma rangeDigits?_append {first last : List Char} (hfirst : isNumeral first = true)
    (hlast : isNumeral last = true) : rangeDigits? (first ++ '-' :: last) = some (first, last) := by
  have hstop : ∀ c ∈ ('-' :: last).head?, Text.isDigit c = false := by
    rintro c ⟨⟩
    decide
  obtain ⟨htake, hdrop⟩ := span_append (isDigit_of_isNumeral hfirst) hstop
  simp [rangeDigits?, htake, hdrop, hlast, ne_nil_of_isNumeral hfirst]

/-- A position that was read is read again from its text. -/
lemma readPosition_text {argument : String} {p : Position}
    (h : readPosition argument = .ok (some p)) :
    readPosition p.text = .ok (some p) ∧ Piece ']' p.text := by
  have hdigits : ∀ n, ∀ c ∈ toDigits 10 n, Text.isDigit c = true := fun n =>
    isDigit_of_isNumeral (isNumeral_toDigits n)
  simp only [readPosition] at h
  split at h
  next =>
    obtain ⟨n, hn, hp⟩ := bind_ok_iff.mp h
    cases hp
    have htext : (Position.text (.item n)).toList = toDigits 10 n := toList_toString n
    constructor
    · simp only [readPosition, htext, isNumeral_toDigits, if_true, readDigits_toDigits hn]
      rfl
    · rw [← String.ofList_toList (s := Position.text _), htext]
      exact piece_of_digits Nat.toDigits_ne_nil fun c hc => .inl (hdigits n c hc)
  next =>
    split at h
    next first last _ =>
      obtain ⟨a, ha, h⟩ := bind_ok_iff.mp h
      obtain ⟨b, hb, hp⟩ := bind_ok_iff.mp h
      cases hp
      have htext : (Position.text (.range a b)).toList = toDigits 10 a ++ '-' :: toDigits 10 b := by
        rw [Position.text, String.toList_append, String.toList_append, toList_toString,
          toList_toString, List.append_assoc]
        rfl
      have hnumeral : isNumeral (toDigits 10 a ++ '-' :: toDigits 10 b) = false := by
        have hhyphen : Text.isDigit '-' = false := by decide
        simp [isNumeral, hhyphen]
      have hrange := rangeDigits?_append (isNumeral_toDigits a) (isNumeral_toDigits b)
      constructor
      · simp only [readPosition, htext, hnumeral, hrange, readDigits_toDigits ha, readDigits_toDigits hb]
        rfl
      · rw [← String.ofList_toList (s := Position.text _), htext]
        refine piece_of_digits (by simp) fun c hc => ?_
        rcases List.mem_append.mp hc with hc | hc
        · exact .inl (hdigits a c hc)
        · rcases List.mem_cons.mp hc with rfl | hc
          · exact .inr rfl
          · exact .inl (hdigits b c hc)
    next => cases h

/-! ### Targets -/

lemma kindOf_mem_kinds (function : String) : kindOf function ∈ kinds := by
  unfold kindOf
  split
  next scope hscope =>
    obtain ⟨entry, hentry, rfl⟩ := Option.map_eq_some_iff.mp hscope
    have hname : entry.1 = function := by simpa using List.find?_some hentry
    exact hname ▸ List.mem_of_find?_eq_some hentry
  next => decide

/-- A kind is a function that selects itself. -/
lemma kindOf_of_mem_kinds : ∀ k ∈ kinds, kindOf k.1 = k ∧ isName k.1.toList = true := by
  decide

section

variable {function : String} {argument : Option String} {parent : Option Scope} {sel : Selector}

lemma filter_of_ne {s : String} (h : s ≠ "") : (some s).filter (· ≠ "") = some s := by
  rw [Option.filter_some, if_pos (decide_eq_true h)]

/-- How wide a target reaches below a parent. -/
def reach (function : String) (parent : Option Scope) : Scope :=
  (parent.map fun p => p.narrower (kindOf function).2).getD (kindOf function).2

lemma normalize_of_position {a : String} {p : Position} (hne : a ≠ "")
    (h : readPosition a = .ok (some p)) : normalize function (some a) parent =
      .ok ⟨(kindOf function).1, some function, some p, none, reach function parent⟩ := by
  simp only [normalize, filter_of_ne hne, h]
  rfl

lemma normalize_of_modifier {a : String} (hne : a ≠ "") (h : readPosition a = .ok none) :
    normalize function (some a) parent =
      .ok ⟨(kindOf function).1, some a, none, some a, reach function parent⟩ := by
  simp only [normalize, filter_of_ne hne, h]
  rfl

/-- What a selector is, by its argument: none, a position, or the name of a variant. -/
lemma normalize_cases (h : normalize function argument parent = .ok sel) :
    sel = ⟨(kindOf function).1, some function, none, none, reach function parent⟩ ∨
      ∃ a, argument = some a ∧ a ≠ "" ∧
        ((∃ p, readPosition a = .ok (some p) ∧
          sel = ⟨(kindOf function).1, some function, some p, none, reach function parent⟩) ∨
        readPosition a = .ok none ∧
          sel = ⟨(kindOf function).1, some a, none, some a, reach function parent⟩) := by
  unfold normalize at h
  dsimp only at h
  split at h
  next => exact .inl (pure_ok_iff.mp h).symm
  next a ha =>
    obtain ⟨ha, hne⟩ := Option.filter_eq_some_iff.mp ha
    obtain ⟨position, hposition, h⟩ := bind_ok_iff.mp h
    refine .inr ⟨a, ha, of_decide_eq_true hne, ?_⟩
    cases position with
    | some p => exact .inl ⟨p, hposition, (pure_ok_iff.mp h).symm⟩
    | none => exact .inr ⟨hposition, (pure_ok_iff.mp h).symm⟩

/-- The parent decides on the scope only. -/
lemma normalize_eq_map (function : String) (argument : Option String) (parent : Option Scope) :
    normalize function argument parent =
      (normalize function argument none).map ({ · with scope := reach function parent }) := by
  unfold normalize
  cases argument.filter (· ≠ "") with
  | none => rfl
  | some a =>
    dsimp only
    cases readPosition a with
    | error e => rfl
    | ok position => cases position <;> rfl

/-- Selectors of the same target are equal if they reach equally wide. -/
lemma eq_of_normalize {parent' : Option Scope} {sel' : Selector}
    (h : normalize function argument parent = .ok sel)
    (h' : normalize function argument parent' = .ok sel') (hscope : sel'.scope = sel.scope) :
    sel' = sel := by
  rw [normalize_eq_map] at h h'
  cases hplain : normalize function argument none with
  | error e =>
    rw [hplain] at h
    cases h
  | ok plain =>
    rw [hplain] at h h'
    cases h
    cases h'
    exact congrArg ({ plain with scope := · }) hscope

/-! ### Texts -/

lemma text_of_position (kind function : String) (p : Position) (modifier : Option String)
    (scope : Scope) :
    text ⟨kind, some function, some p, modifier, scope⟩ =
      Statement.TargetZone.source ⟨function, some p.text, ""⟩ := by
  refine String.toList_injective ?_
  cases p <;> simp [text, Position.text, Statement.TargetZone.source, Statement.toList_braced]

lemma text_of_modifier {a : String} (hne : a ≠ "") (kind : String) (scope : Scope) :
    text ⟨kind, some a, none, some a, scope⟩ =
      Statement.TargetZone.source ⟨kind, some a, ""⟩ := by
  refine String.toList_injective ?_
  simp only [text, filter_of_ne hne]
  simp [Statement.TargetZone.source, Statement.toList_braced]

/-- A selector is that of its own text, whatever the function it was read from. -/
lemma exists_target (hfunction : isName function.toList = true)
    (hargument : ∀ a ∈ argument, a ≠ "" → Piece ']' a)
    (h : normalize function argument parent = .ok sel) :
    ∃ z : TargetZone, z.WellFormed ∧ Statement.TargetZone.source z = sel.text ∧
      normalize z.function z.argument parent = .ok sel := by
  have hne : function ≠ "" := by
    rintro rfl
    cases hfunction
  obtain rfl | ⟨a, ha, hane, ⟨p, hp, rfl⟩ | ⟨ha', rfl⟩⟩ := normalize_cases h
  · refine ⟨⟨function, none, ""⟩, ⟨hfunction, by rintro _ ⟨⟩⟩, ?_, rfl⟩
    simp only [text, filter_of_ne hne, Statement.TargetZone.source]
    simp
  · obtain ⟨hread, hpiece⟩ := readPosition_text hp
    refine ⟨⟨function, some p.text, ""⟩, ⟨hfunction, ?_⟩, (text_of_position _ _ p _ _).symm,
      normalize_of_position hpiece.nonempty hread⟩
    rintro _ ⟨⟩
    exact hpiece
  · obtain ⟨hkind, hname⟩ := kindOf_of_mem_kinds _ (kindOf_mem_kinds function)
    refine ⟨⟨(kindOf function).1, some a, ""⟩, ⟨hname, ?_⟩, (text_of_modifier hane _ _).symm, ?_⟩
    · rintro _ ⟨⟩
      exact hargument a ha hane
    · rw [normalize_of_modifier hane ha', reach, reach, hkind]

end

end Selector

/-! ### Read targets -/

namespace Statement

/-- The token that names the function of a target: the first identifier or string of its zone. -/
def functionIn? (zone : List Token) : Option Token :=
  zone.find? fun t => t.kind = .identifier ∨ t.kind = .string

lemma readFunction_of_identifier {zone : List Token} {f : Token} (h : functionIn? zone = some f)
    (hkind : f.kind = .identifier) :
    ∃ rest, readFunction zone = some (Text.lower f.value, rest) := by
  induction zone with
  | nil => cases h
  | cons t ts ih =>
    rw [functionIn?, List.find?_cons] at h
    split at h
    next =>
      cases h
      exact ⟨ts, by rw [readFunction, if_pos hkind]⟩
    next hneither =>
      have hkinds : t.kind ≠ .identifier ∧ t.kind ≠ .string := by simpa using hneither
      rw [readFunction, if_neg hkinds.1, if_neg hkinds.2]
      exact ih h

/-- Whether a text has a statement whose target names its function by an identifier; it could also be
quoted. -/
def NamesFunction (width : Nat) (text : String) (s : Statement) : Prop :=
  ∃ line, ∃ span ∈ Span.split (Token.scan width line text), ofSpan width span = s ∧
    ∃ zone f, targetZone? span = some zone ∧ functionIn? zone = some f ∧ f.kind = .identifier

/-- The selector of the target of a statement. -/
def selector? (s : Statement) (parent : Option Scope) : Option (Except NumberError Selector) :=
  s.target.map fun z => Selector.normalize z.function z.argument parent

/-- An identifier of a line is a name in lower case. -/
lemma isName_of_mem_scan {width : Nat} {line : Int} {text : String} {t : Token}
    (h : t ∈ Token.scan width line text) (hkind : t.kind = .identifier) :
    isName (Text.lower t.value).toList = true := by
  obtain ⟨p, hp, hvalue⟩ := (Token.scans_scanFrom line _).exists_pattern h
  obtain rfl : p = .identifier := by simpa [hkind, TokenPattern.all] using hp
  obtain ⟨heq, hidentifier⟩ := hvalue
  exact isName_lower ⟨rfl, heq ▸ hidentifier⟩

/-- What a block of a line holds may stand in a block again. -/
lemma piece_of_mem_scan {width : Nat} {line : Int} {text : String} {t : Token}
    (h : t ∈ Token.scan width line text) (hkind : t.kind = .variableBlock)
    (hne : Text.trim t.value ≠ "") : Piece ']' (Text.trim t.value) := by
  obtain ⟨p, hp, hvalue⟩ := (Token.scans_scanFrom line _).exists_pattern h
  obtain rfl : p = .block '[' ']' := by simpa [hkind, TokenPattern.all] using hp
  have htrim := Text.trim_infix t.value
  have htab : '\t' ∉ t.value.toList := fun htab =>
    Text.untabbed_expandTabs width text ((Token.value_infix_of_mem_scanFrom h).subset htab)
  exact ⟨hne, Text.trim_trim _, fun hmem => htab (htrim.subset hmem),
    fun hmem => hvalue.2.1 (htrim.subset hmem)⟩

lemma NamesFunction.target {width : Nat} {text : String} {s : Statement}
    (h : s.NamesFunction width text) : ∃ z, s.target = some z ∧ isName z.function.toList = true ∧
      ∀ a ∈ z.argument, a ≠ "" → Piece ']' a := by
  obtain ⟨line, span, hspan, rfl, zone, f, hzone, hf, hkind⟩ := h
  have hscan : ∀ t ∈ zone, t ∈ Token.scan width line text := fun t ht =>
    Span.body_subset_of_mem_split hspan (subset_targetZone? hzone ht)
  refine ⟨targetOf zone, congrArg (Option.map targetOf) hzone, ?_, fun a ha hne => ?_⟩
  · obtain ⟨rest, hread⟩ := readFunction_of_identifier hf hkind
    rw [targetOf, hread]
    exact isName_of_mem_scan (hscan f (List.mem_of_find?_eq_some hf)) hkind
  · obtain ⟨t, ht, htkind, rfl⟩ := argument_targetOf ha
    exact piece_of_mem_scan (hscan t ht) htkind hne

/-! ### Hidden targets -/

/-- The statement that hides a target. -/
def hide (z : TargetZone) : Statement where
  operator := .root
  keyword := some "hide"
  condition := none
  subjects := []
  target := some z
  effect := none
  outcome := none
  depth := 0
  line := 0
  column := 0

lemma wellFormed_hide {z : TargetZone} (h : z.WellFormed) : (hide z).WellFormed where
  keyword := ⟨"hide", rfl, by decide⟩
  condition := by rintro _ ⟨⟩
  subjects := List.forall_mem_nil _
  target := by
    rintro _ ⟨⟩
    exact h
  effect := by rintro _ ⟨⟩
  outcome := by rintro _ ⟨⟩

lemma source_hide {z : TargetZone} (h : z.WellFormed) :
    (hide z).source = ":: hide // " ++ TargetZone.source z := by
  have hparts : (hide z).source =
      " ".intercalate (["::", "hide", "//", TargetZone.source z].filter (· ≠ "")) := rfl
  have hall : ["::", "hide", "//", TargetZone.source z].filter (· ≠ "") =
      ["::", "hide", "//", TargetZone.source z] := by
    simp [targetSource_ne h]
  rw [hparts, hall]
  refine String.toList_injective ?_
  simp

/-- Statements that say the same have the same selector. -/
lemma Agrees.selector?_eq {s t : Statement} (h : t.Agrees s) (parent : Option Scope) :
    t.selector? parent = s.selector? parent := by
  have hselector := congrArg (Option.map fun p => Selector.normalize p.1 p.2 parent) h.target
  rwa [Option.map_map, Option.map_map] at hselector

end Statement

namespace Selector

open Statement

variable {width : Nat} {text : String} {s : Statement} {parent : Option Scope} {sel : Selector}

lemma exists_selector? (h : s.NamesFunction width text)
    (hdigits : ∀ z ∈ s.target, ∀ a ∈ z.argument, DigitsFit a.toList) (parent : Option Scope) :
    ∃ sel, s.selector? parent = some (.ok sel) := by
  obtain ⟨z, hz, -⟩ := h.target
  have hfit : ∃ sel, normalize z.function z.argument parent = .ok sel := by
    refine (readsRows_normalize z.function z.argument parent).exists_ok_iff.mpr fun row hrow => ?_
    obtain ⟨a, ha, hrow⟩ := List.mem_flatMap.mp hrow
    exact length_le_of_mem_numerals (hdigits z hz a (Option.mem_toList.mp ha)) row hrow
  obtain ⟨sel, hsel⟩ := hfit
  exact ⟨sel, by rw [selector?, hz, Option.map_some, hsel]⟩

/-- The text of a selector spells a target with this selector. -/
lemma exists_hide (h : s.NamesFunction width text) (hsel : s.selector? parent = some (.ok sel)) :
    ∃ z : TargetZone, z.WellFormed ∧ (hide z).source = ":: hide // " ++ sel.text ∧
      (hide z).selector? parent = some (.ok sel) := by
  obtain ⟨z, hz, hfunction, hargument⟩ := h.target
  rw [selector?, hz, Option.map_some] at hsel
  obtain ⟨z', hz', htext, hread⟩ := exists_target hfunction hargument (Option.some.inj hsel)
  exact ⟨z', hz', by rw [source_hide hz', htext], congrArg some hread⟩

/-- A selector that is written as a target is read again as it is, below the same parent. So selectors
that reach equally wide are equal if they have the same text. -/
theorem text_determines (h : s.NamesFunction width text)
    (hdigits : ∀ z ∈ s.target, ∀ a ∈ z.argument, DigitsFit a.toList) (parent : Option Scope) :
    ∃ sel, s.selector? parent = some (.ok sel) ∧
      (∀ width', ∃ t, (Block.ofLines width' [":: hide // " ++ sel.text]).statements = [t] ∧
        t.selector? parent = some (.ok sel)) ∧
      ∀ (width' : Nat) (text' : String) (s' : Statement) (parent' : Option Scope) (sel' : Selector),
        s'.NamesFunction width' text' → s'.selector? parent' = some (.ok sel') →
          sel'.scope = sel.scope → sel'.text = sel.text → sel' = sel := by
  obtain ⟨sel, hsel⟩ := exists_selector? h hdigits parent
  obtain ⟨z, hz, hsource, hread⟩ := exists_hide h hsel
  refine ⟨sel, hsel, fun width' => ?_, fun width' text' s' parent' sel' h' hsel' hscope htext => ?_⟩
  · obtain ⟨t, ht, hagrees⟩ := exists_ofLines_source (wellFormed_hide hz) width'
    rw [hsource] at ht
    exact ⟨t, ht, by rw [hagrees.selector?_eq, hread]⟩
  · obtain ⟨z', hz', hsource', hread'⟩ := exists_hide h' hsel'
    have hagrees := agrees_of_source_eq (wellFormed_hide hz) (wellFormed_hide hz')
      (by rw [hsource', hsource, htext])
    rw [hagrees.selector?_eq] at hread'
    exact eq_of_normalize (Option.some.inj hread) (Option.some.inj hread') hscope

/-- A range in digits of two scripts, of a function in upper case. -/
theorem text_determines_range :
    let text := ":: hide // LINE 'x' [ \u0663-07 ] -> \x7bdone\x7d"
    ∃ s, NamesFunction 2 text s ∧ (∀ z ∈ s.target, ∀ a ∈ z.argument, DigitsFit a.toList) ∧
      s.selector? (some .element) =
        some (.ok ⟨"line", some "line", some (.range 3 7), none, .element⟩) ∧
      ∃ sel, s.selector? (some .element) = some (.ok sel) ∧
        (∀ width', ∃ t, (Block.ofLines width' [":: hide // " ++ sel.text]).statements = [t] ∧
          t.selector? (some .element) = some (.ok sel)) ∧
        ∀ (width' : Nat) (text' : String) (s' : Statement) (parent' : Option Scope)
          (sel' : Selector),
          s'.NamesFunction width' text' → s'.selector? parent' = some (.ok sel') →
            sel'.scope = sel.scope → sel'.text = sel.text → sel' = sel := by
  intro text
  let span : Span := ⟨⟨.root, "::", 1, 0, 2⟩, 0, [⟨.identifier, "hide", 1, 3, 7⟩,
    ⟨.relation, "//", 1, 8, 10⟩, ⟨.identifier, "LINE", 1, 11, 15⟩, ⟨.string, "x", 1, 16, 19⟩,
    ⟨.variableBlock, " \u0663-07 ", 1, 20, 28⟩, ⟨.trigger, "->", 1, 29, 31⟩,
    ⟨.actionBlock, "done", 1, 32, 38⟩]⟩
  have hsplit : Span.split (Token.scan 2 1 text) = [span] := by decide +kernel
  have hnames : NamesFunction 2 text (ofSpan 2 span) :=
    ⟨1, span, by rw [hsplit]; exact List.mem_singleton_self span, rfl, _, _, rfl, rfl, rfl⟩
  have htarget : (ofSpan 2 span).target.map (·.argument) = some (some "\u0663-07") := by
    decide +kernel
  have hdigits : ∀ z ∈ (ofSpan 2 span).target, ∀ a ∈ z.argument, DigitsFit a.toList := by
    intro z hz a ha
    rw [hz, Option.map_some, ha] at htarget
    cases htarget
    exact DigitsFit.of_length_le (by decide)
  exact ⟨ofSpan 2 span, hnames, hdigits, by decide +kernel,
    text_determines hnames hdigits (some .element)⟩

end Selector

end BlockScript
