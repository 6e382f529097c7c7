import BlockScript.Number.Numeral
import BlockScript.Text.Blank
import Mathlib.Data.List.TakeWhile
import Mathlib.Tactic.Common

/-!
# Blanks and digits

No blank is a digit of any script, and trimming leaves a text alone that has no blanks.
-/

namespace BlockScript

namespace Text

lemma toNat_of_isBlank {c : Char} (h : isBlank c = true) :
    c.toNat ≤ 0x20 ∨ 0x85 ≤ c.toNat ∧ c.toNat ≤ 0xa0 ∨ c.toNat = 0x1680 ∨
      0x2000 ≤ c.toNat ∧ c.toNat ≤ 0x3000 := by
  simp [isBlank] at h
  omega

/-- No blank lies between two other characters of the ASCII range. -/
lemma not_between_of_isBlank {c : Char} (h : isBlank c = true) (lo hi : UInt32)
    (hlo : 0x20 < lo.toNat) (hhi : hi.toNat < 0x85) : (c.val ≥ lo && c.val ≤ hi) = false := by
  have hcode := toNat_of_isBlank h
  have hval : c.val.toNat = c.toNat := rfl
  rw [← Bool.decide_and, decide_eq_false_iff_not]
  rintro ⟨hlower, hupper⟩
  have := UInt32.le_iff_toNat_le.mp hlower
  have := UInt32.le_iff_toNat_le.mp hupper
  omega

lemma isDigit_of_isBlank {c : Char} (h : isBlank c = true) : isDigit c = false := by
  have hcode := toNat_of_isBlank h
  have hzeros : ∀ z ∈ digitZeros, z + 10 ≤ 0x85 ∨ 0xa0 < z ∧ z + 10 ≤ 0x1680 ∨
      0x1680 < z ∧ z + 10 ≤ 0x2000 ∨ 0x3000 < z := by decide
  have hvalue : 0x80 ≤ c.toNat → digitValue? c = none := by
    intro hlarge
    rw [digitValue?, Option.map_eq_none_iff, List.find?_eq_none]
    intro z hz
    have := hzeros z hz
    simp only [Bool.and_eq_true, decide_eq_true_eq]
    omega
  have hascii : c.isDigit = false :=
    not_between_of_isBlank h '0'.val '9'.val (by decide) (by decide)
  rw [isDigit, hascii, Bool.false_or]
  by_cases hlarge : 0x80 ≤ c.toNat
  · rw [hvalue hlarge]
    simp
  · simp [hlarge]

lemma prefix_of_trimRight (cs : List Char) : trimRight cs <+: cs := by
  induction cs with
  | nil => exact List.nil_prefix
  | cons c cs ih =>
    rw [trimRight]
    split
    next =>
      split
      · exact List.nil_prefix
      · exact List.cons_prefix_cons.mpr ⟨rfl, List.nil_prefix⟩
    next => exact List.cons_prefix_cons.mpr ⟨rfl, ih⟩

lemma trimRight_append {front back : List Char} (hback : ∀ c ∈ back, isBlank c = false)
    (hne : back ≠ []) : trimRight (front ++ back) = front ++ back := by
  induction front with
  | cons c front ih =>
    rw [List.cons_append, trimRight, ih]
    cases h : front ++ back with
    | nil => exact absurd (List.append_eq_nil_iff.mp h).2 hne
    | cons d ds => rfl
  | nil =>
    rw [List.nil_append]
    induction back with
    | nil => exact absurd rfl hne
    | cons c back ih =>
      obtain ⟨hc, hback⟩ := List.forall_mem_cons.mp hback
      cases back with
      | nil => simp [trimRight, hc]
      | cons d back => rw [trimRight, ih hback (List.cons_ne_nil d back)]

/-- Trimming leaves a text alone only if each of its ends is left alone. -/
lemma trimmed_of_trimChars {cs : List Char} (h : trimChars cs = cs) :
    trimLeft cs = cs ∧ trimRight cs = cs := by
  have hleft : trimLeft cs = cs := by
    refine (List.dropWhile_suffix _).eq_of_length_le ?_
    calc cs.length = (trimChars cs).length := by rw [h]
      _ ≤ (trimLeft cs).length := (prefix_of_trimRight _).length_le
  rw [trimChars, hleft] at h
  exact ⟨hleft, h⟩

lemma trimLeft_append_of_trimmed {front : List Char} (h : trimLeft front = front)
    (hne : front ≠ []) (back : List Char) : trimLeft (front ++ back) = front ++ back := by
  cases front with
  | nil => exact absurd rfl hne
  | cons c front =>
    have hblank : isBlank c = false := by
      by_contra hblank
      rw [trimLeft, List.dropWhile_cons_of_pos (by simpa using hblank)] at h
      have hlength := congrArg List.length h
      have hle := (List.dropWhile_suffix isBlank (l := front)).length_le
      simp at hlength
      omega
    exact List.dropWhile_cons_of_neg (by simp [hblank])

lemma trimRight_append_of_trimmed {front : List Char} (h : trimRight front = front)
    (back : List Char) : trimRight (front ++ back) = front ++ trimRight back := by
  induction front with
  | nil => rfl
  | cons c front ih =>
    have hfront : trimRight front = front ∧ (front = [] → isBlank c = false) := by
      rw [trimRight] at h
      split at h
      next hnil =>
        cases hblank : isBlank c with
        | true => simp [hblank] at h
        | false =>
          obtain rfl : [] = front := by simpa [hblank] using h
          exact ⟨rfl, fun _ => rfl⟩
      next hkept => exact ⟨(List.cons.inj h).2, fun hnil => (hkept (by rw [hnil]; rfl)).elim⟩
    rw [List.cons_append, trimRight, ih hfront.1]
    cases hrest : front ++ trimRight back with
    | nil => simp [hfront.2 (List.append_eq_nil_iff.mp hrest).1, List.append_eq_nil_iff.mp hrest]
    | cons d kept => simp [hrest]

/-- A quote at the end keeps blanks in front of it. -/
lemma trimRight_concat_quote (cs : List Char) : trimRight (cs ++ ['"']) = cs ++ ['"'] :=
  trimRight_append (by simp [isBlank]) (List.cons_ne_nil _ _)

lemma trimLeft_concat_quote (cs : List Char) :
    trimLeft (cs ++ ['"']) = trimLeft cs ++ ['"'] := by
  induction cs with
  | nil => decide
  | cons c cs ih =>
    rw [trimLeft, trimLeft] at *
    cases hblank : isBlank c <;> simp [hblank, ih]

lemma trim_ofList {cs : List Char} (h : ∀ c ∈ cs, isBlank c = false) :
    trim (String.ofList cs) = String.ofList cs := by
  have hleft : cs.dropWhile isBlank = cs := by
    cases cs with
    | nil => rfl
    | cons c cs => rw [List.dropWhile_cons_of_neg (by simp [h c List.mem_cons_self])]
  rw [trim, trimChars, trimLeft, String.toList_ofList, hleft]
  cases cs with
  | nil => rfl
  | cons c cs => rw [← List.nil_append (c :: cs), trimRight_append h (List.cons_ne_nil c cs)]

lemma head?_trimRight {cs : List Char} : ∀ c ∈ (trimRight cs).head?, c ∈ cs.head? := by
  cases cs with
  | nil => exact fun c hc => hc
  | cons d cs =>
    rw [trimRight]
    split
    · split
      · rintro _ ⟨⟩
      · exact fun c hc => hc
    · exact fun c hc => hc

lemma trimRight_trimRight (cs : List Char) : trimRight (trimRight cs) = trimRight cs := by
  induction cs with
  | nil => rfl
  | cons c cs ih =>
    rw [trimRight]
    split
    next hnone =>
      split
      next => rfl
      next hblank => simp [trimRight, hblank]
    next kept hkept =>
      rw [trimRight, ih]
      cases h : trimRight cs with
      | nil => exact absurd h hkept
      | cons d ds => rfl

/-- A trimmed text has no blanks at its ends. -/
lemma trim_trim (s : String) : trim (trim s) = trim s := by
  have hleft : trimLeft (trimChars s.toList) = trimChars s.toList := by
    rw [trimChars, trimLeft]
    cases h : trimRight (trimLeft s.toList) with
    | nil => rfl
    | cons c cs =>
      have hhead : c ∈ (s.toList.dropWhile isBlank).head? :=
        head?_trimRight c (by rw [trimLeft] at h; simp [h])
      have hblank := List.head?_dropWhile_not isBlank s.toList
      rw [Option.mem_def.mp hhead] at hblank
      exact List.dropWhile_cons_of_neg (by simpa using hblank)
  rw [trim, trim, String.toList_ofList, trimChars, hleft, trimChars, trimRight_trimRight]

lemma mem_trimRight_iff {c : Char} {cs : List Char} (h : isBlank c = false) :
    c ∈ trimRight cs ↔ c ∈ cs := by
  induction cs with
  | nil => rfl
  | cons d cs ih =>
    rw [trimRight, List.mem_cons, ← ih]
    split
    next hnone =>
      split
      next hblank =>
        have hne : c ≠ d := by
          rintro rfl
          rw [h] at hblank
          cases hblank
        simp [hnone, hne]
      next => simp [hnone]
    next => rw [List.mem_cons]

/-- Only blanks are trimmed. -/
lemma mem_trim_iff {c : Char} {s : String} (h : isBlank c = false) :
    c ∈ (trim s).toList ↔ c ∈ s.toList := by
  rw [trim, String.toList_ofList, trimChars, mem_trimRight_iff h, trimLeft]
  constructor
  · exact fun hc => (List.dropWhile_suffix _).subset hc
  · intro hc
    rw [← List.takeWhile_append_dropWhile (p := isBlank) (l := s.toList), List.mem_append] at hc
    refine hc.resolve_left fun hfront => ?_
    rw [List.mem_takeWhile_imp hfront] at h
    cases h

end Text

/-! ### Numerals -/

section

variable {digits : List Char}

lemma ne_nil_of_isNumeral (h : isNumeral digits = true) : digits ≠ [] := by
  rintro rfl
  cases h

lemma isDigit_of_isNumeral (h : isNumeral digits = true) :
    ∀ d ∈ digits, Text.isDigit d = true := by
  rw [isNumeral, Bool.and_eq_true, List.all_eq_true] at h
  exact h.2

lemma not_mem_of_isNumeral (h : isNumeral digits = true) {c : Char} (hc : Text.isDigit c = false) :
    c ∉ digits := by
  intro hmem
  rw [isDigit_of_isNumeral h c hmem] at hc
  cases hc

lemma trim_of_isNumeral (h : isNumeral digits = true) :
    Text.trim (String.ofList digits) = String.ofList digits := by
  refine Text.trim_ofList fun d hd => Bool.eq_false_iff.mpr fun hblank => ?_
  exact absurd (isDigit_of_isNumeral h d hd) (by simp [Text.isDigit_of_isBlank hblank])

end

lemma isNumeral_replicate {n : Nat} (hn : 0 < n) : isNumeral (List.replicate n '9') = true := by
  have hdigits : (List.replicate n '9').all Text.isDigit = true := by
    refine List.all_eq_true.mpr fun c hc => ?_
    rw [List.eq_of_mem_replicate hc]
    decide
  rw [isNumeral, hdigits, Bool.and_true, Bool.not_eq_true', List.isEmpty_eq_false_iff]
  exact List.ne_nil_of_length_pos (by simpa using hn)

end BlockScript
