import BlockScript.Expression.Evaluation
import BlockScript.Pattern.Searcher
import BlockScript.Proofs.Digits
import BlockScript.Proofs.Number.Rounding
import Mathlib.Data.String.Basic

/-!
# Coherence of comparisons

The answers of the six comparisons fit together (`Expression.eval_coherent`): of two numbers, or two
texts, one is less, or they are equal, or it is greater, and the other comparisons follow from that.
Values of other kinds have no order. What is looked up is brought to the kind of the literal first, so
the facts must not hold a text with a row of digits that is too long to be read.
-/

namespace BlockScript

/-! ### Literals -/

namespace Literal

variable {cs : List Char}

/-- What reading a literal comes to. -/
inductive Outcome (cs : List Char) : Except NumberError Scalar → Prop
  | text (s : String) : Outcome cs (.ok (.text s))
  | flag (b : Bool) : Outcome cs (.ok (.flag b))
  | int (n : Int) : Outcome cs (.ok (.int n))
  | double {x : Double} (h : x.isNaN = false) : Outcome cs (.ok (.double x))
  | tooLong {digits : List Char} (hdigits : digits <:+: cs) (hnumeral : isNumeral digits = true)
      (hlong : digitLimit < digits.length) : Outcome cs (.error (.tooManyDigits digits.length))

lemma spanMinus_suffix (cs : List Char) : (spanMinus cs).2 <:+ cs := by
  unfold spanMinus
  split
  next => exact List.suffix_cons _ _
  next => exact List.suffix_rfl

lemma outcome_readTrimmed (cs : List Char) : Outcome cs (readTrimmed cs) := by
  rw [readTrimmed]
  split
  next inner => exact .text _
  next =>
    simp only
    split
    · exact .flag true
    · split
      · exact .flag false
      · split
        next hnumeral =>
          by_cases hlong : digitLimit < (spanMinus cs).2.length
          · rw [readDigits, if_pos hlong]
            exact .tooLong (spanMinus_suffix cs).isInfix hnumeral hlong
          · rw [readDigits, if_neg hlong]
            exact .int _
        next =>
          split
          · exact .double (Double.isNaN_ofDecimal _ _ _)
          · cases timeOfDay? cs with
            | none => exact .text _
            | some minutes => exact .int _

/-- A text without rows of digits that are too long can be read. -/
lemma exists_read {s : String} (h : DigitsFit s.toList) : ∃ r, read s = .ok r := by
  have htrim : Text.trimChars s.toList <:+: s.toList := by
    simpa [Text.trim] using Text.trim_infix s
  cases hread : read s with
  | ok r => exact ⟨r, rfl⟩
  | error e =>
    have houtcome := outcome_readTrimmed (Text.trimChars s.toList)
    rw [← read, hread] at houtcome
    cases houtcome with
    | tooLong hdigits hnumeral hlong =>
      exact absurd ((h.mono htrim).length_le hdigits hnumeral) (Nat.not_le.mpr hlong)

/-- A literal is not a NaN. -/
lemma isNaN_of_read {s : String} {x : Double} (h : read s = .ok (.double x)) : x.isNaN = false := by
  have houtcome := outcome_readTrimmed (Text.trimChars s.toList)
  rw [← read, h] at houtcome
  cases houtcome with
  | double hx => exact hx

end Literal

/-! ### Facts -/

namespace Value

mutual

/-- The plain values in a value, at any depth. -/
def scalars : Value → List Scalar
  | .null => []
  | .scalar s => [s]
  | .list items => itemScalars items
  | .record fields => fieldScalars fields

def itemScalars : List Value → List Scalar
  | [] => []
  | v :: vs => scalars v ++ itemScalars vs

def fieldScalars : List (String × Value) → List Scalar
  | [] => []
  | (_, v) :: fs => scalars v ++ fieldScalars fs

end

/-- Whether all that is in a value can be compared: it has no NaN, and no text with a row of digits
that is too long to be read. -/
structure Comparable (v : Value) : Prop where
  number : ∀ x, .double x ∈ v.scalars → x.isNaN = false
  text : ∀ s, .text s ∈ v.scalars → DigitsFit s.toList

variable {v w : Value} {name : String} {r : Scalar}

lemma scalars_subset_of_field? (h : v.field? name = some w) : w.scalars ⊆ v.scalars := by
  cases v with
  | record fields =>
    rw [scalars]
    replace h : Entries.get? fields name = some w := h
    induction fields with
    | nil => simp at h
    | cons field fields ih =>
      obtain ⟨n, u⟩ := field
      rw [Entries.get?_cons] at h
      rw [fieldScalars]
      split at h
      · obtain rfl : u = w := Option.some.inj h
        exact List.subset_append_left _ _
      · exact List.Subset.trans (ih h) (List.subset_append_right _ _)
  | _ => simp [field?] at h

lemma Comparable.field? (hv : v.Comparable) (h : v.field? name = some w) : w.Comparable :=
  ⟨fun x hx => hv.number x (scalars_subset_of_field? h hx),
    fun s hs => hv.text s (scalars_subset_of_field? h hs)⟩

lemma Comparable.follow? {steps : List String} (hv : v.Comparable) (h : v.follow? steps = some w) :
    w.Comparable := by
  induction steps generalizing v with
  | nil => exact Option.some.inj h ▸ hv
  | cons step rest ih =>
    rw [Value.follow?] at h
    split at h
    next => simp at h
    next u hu => exact ih (hv.field? hu) h

lemma Comparable.named (hv : v.Comparable) : v.named.Comparable := by
  rw [Value.named]
  cases h : v.field? "name" with
  | none => exact hv
  | some w => exact hv.field? h

/-- A value can be brought to the kind of a literal. -/
lemma Comparable.exists_comparable (hv : v.Comparable) (r : Scalar) :
    ∃ w, v.comparable r = .ok w ∧ ∀ x, w = .scalar (.double x) → x.isNaN = false := by
  have hself : ∀ x, v = .scalar (.double x) → x.isNaN = false := by
    rintro x rfl
    exact hv.number x (by simp [scalars])
  unfold Value.comparable
  split
  next s =>
    split
    next => exact ⟨_, rfl, by simp⟩
    next =>
      obtain ⟨u, hu⟩ := Literal.exists_read (hv.text s (by simp [scalars]))
      refine ⟨.scalar u, by rw [hu]; rfl, ?_⟩
      rintro x heq
      cases heq
      exact Literal.isNaN_of_read hu
  next => exact ⟨_, rfl, hself⟩

end Value

/-! ### Orders -/

/-- Whether a value and a literal are of one kind that has an order. -/
inductive Value.Alike : Value → Scalar → Prop
  | texts (s t : String) : Alike (.scalar (.text s)) (.text t)
  | numbers {s t : Scalar} (hs : s.isNumber = true) (ht : t.isNumber = true) : Alike (.scalar s) t

/-- How the answers of the six comparisons of a value with a literal fit together. -/
structure Comparison.Coherent (w : Value) (r : Scalar) (answer : Comparison → Bool) : Prop where
  ne : answer .ne = !answer .eq
  /-- Texts or numbers are in exactly one order. -/
  one : w.Alike r → ∃! c, c ∈ [Comparison.lt, .eq, .gt] ∧ answer c = true
  ge : w.Alike r → answer .ge = !answer .lt
  le : w.Alike r → answer .le = !answer .gt
  unlike : ¬w.Alike r → ∀ c ∈ [Comparison.gt, .lt, .ge, .le], answer c = false
  /-- Texts are compared without regard to case. -/
  texts : ∀ s t, w = .scalar (.text s) → r = .text t →
    (answer .eq = true ↔ Text.fold s = Text.fold t) ∧
      (answer .lt = true ↔ Text.fold s < Text.fold t)
  /-- Numbers are compared exactly, by their places on the number line. -/
  numbers : ∀ s, w = .scalar s → s.isNumber = true → r.isNumber = true →
    ∃ p q, s.place? = some p ∧ r.place? = some q ∧
      (answer .eq = true ↔ p = q) ∧ (answer .lt = true ↔ p.compare q = .lt)

namespace Scalar

variable {s t : Scalar} {p q : Double.Place}

lemma folded_of_isNumber (h : s.isNumber = true) : s.folded = s := by
  cases s <;> first | rfl | cases h

lemma exists_place? (h : s.isNumber = true) (hnan : ∀ x, s = .double x → x.isNaN = false) :
    ∃ p, s.place? = some p := by
  cases s with
  | int n => exact ⟨_, rfl⟩
  | double x =>
    have hplace : x.place? ≠ none := fun hnone => by
      rw [Double.place?_eq_none_iff, hnan x rfl] at hnone
      exact Bool.noConfusion hnone
    exact Option.ne_none_iff_exists'.mp hplace
  | text s => cases h
  | flag b => cases h

lemma order?_of_isNumber (hs : s.isNumber = true) (ht : t.isNumber = true) (hp : s.place? = some p)
    (hq : t.place? = some q) : s.order? t = some (p.compare q) ∧ s.equals t = (p == q) := by
  cases s <;> cases t <;> simp_all [order?, equals, isNumber]

lemma order?_of_unlike (h : ¬(Value.scalar s).Alike t) : s.folded.order? t.folded = none := by
  have hnumbers : (s.isNumber && t.isNumber) = false := by
    by_contra hboth
    rw [Bool.not_eq_false, Bool.and_eq_true] at hboth
    exact h (.numbers hboth.1 hboth.2)
  cases s <;> cases t <;> simp_all [order?, folded, isNumber]
  exact h (.texts _ _)

end Scalar

namespace Comparison

variable {w : Value} {r : Scalar} {answer : Comparison → Bool}

/-- Of two values that have an order, one is less, or they are equal, or it is greater. -/
lemma existsUnique_holds (o : Ordering) :
    ∃! c, c ∈ [Comparison.lt, .eq, .gt] ∧ c.holds (o == .eq) (some o) = true := by
  have hunique : ∀ c, (∀ c' ∈ [Comparison.lt, .eq, .gt], c'.holds (o == .eq) (some o) = true → c' = c) →
      c ∈ [Comparison.lt, .eq, .gt] → c.holds (o == .eq) (some o) = true →
      ∃! c, c ∈ [Comparison.lt, .eq, .gt] ∧ c.holds (o == .eq) (some o) = true :=
    fun c hc hmem hholds => ⟨c, ⟨hmem, hholds⟩, fun c' h => hc c' h.1 h.2⟩
  cases o with
  | lt => exact hunique .lt (by decide) (by decide) (by decide)
  | eq => exact hunique .eq (by decide) (by decide) (by decide)
  | gt => exact hunique .gt (by decide) (by decide) (by decide)

/-- The answers that follow from an order of texts or numbers are coherent, whatever the order is. -/
lemma Coherent.of_order (o : Ordering) (halike : w.Alike r)
    (hanswer : ∀ c, answer c = c.holds (o == .eq) (some o))
    (htexts : ∀ s t, w = .scalar (.text s) → r = .text t →
      compare (Text.fold s) (Text.fold t) = o)
    (hnumbers : ∀ s, w = .scalar s → s.isNumber = true → r.isNumber = true →
      ∃ p q, s.place? = some p ∧ r.place? = some q ∧ p.compare q = o) :
    Coherent w r answer := by
  have heq : answer .eq = true ↔ o = .eq := by simp [hanswer, holds]
  have hlt : answer .lt = true ↔ o = .lt := by simp [hanswer, holds]
  constructor
  case ne => rw [hanswer, hanswer]; rfl
  case one => intro _; simpa only [hanswer] using existsUnique_holds o
  case ge => intro _; cases o <;> simp [hanswer, holds]
  case le => intro _; cases o <;> simp [hanswer, holds]
  case unlike => exact fun hunlike => absurd halike hunlike
  case texts =>
    intro s t hs ht
    rw [heq, hlt, ← htexts s t hs ht]
    exact ⟨Std.compare_eq_iff_eq, Std.LawfulLTCmp.eq_lt_iff_lt⟩
  case numbers =>
    intro s hs hsn hrn
    obtain ⟨p, q, hp, hq, rfl⟩ := hnumbers s hs hsn hrn
    exact ⟨p, q, hp, hq, heq.trans Double.Place.compare_eq_iff, hlt⟩

end Comparison

namespace Value

variable {v w : Value} {r : Scalar}

/-- The answers about a value that has been brought to the kind of the literal. -/
def answer (w : Value) (r : Scalar) (c : Comparison) : Bool :=
  match w with
  | .scalar s => c.holds (s.folded.equals r.folded) (s.folded.order? r.folded)
  | _ => c.holds false none

lemma compare_eq_answer (h : v.named.comparable r = .ok w) (c : Comparison) :
    v.compare c r = .ok (w.answer r c) := by
  rw [compare, h]
  cases w <;> rfl

/-- Values without an order are not before or behind each other. -/
lemma coherent_of_unlike (h : ¬w.Alike r) : Comparison.Coherent w r (w.answer r) := by
  have hnone : ∃ equal, ∀ c, w.answer r c = c.holds equal none := by
    cases w with
    | scalar s => exact ⟨_, fun c => by rw [answer, Scalar.order?_of_unlike h]⟩
    | _ => exact ⟨false, fun c => rfl⟩
  obtain ⟨equal, hanswer⟩ := hnone
  constructor
  case ne => rw [hanswer, hanswer]; rfl
  case one => exact fun halike => absurd halike h
  case ge => exact fun halike => absurd halike h
  case le => exact fun halike => absurd halike h
  case unlike => intro _ c hc; rw [hanswer]; cases c <;> simp_all [Comparison.holds]
  case texts => rintro s t rfl rfl; exact absurd (.texts s t) h
  case numbers => rintro s rfl hs hr; exact absurd (.numbers hs hr) h

lemma coherent_of_texts (s t : String) :
    Comparison.Coherent (.scalar (.text s)) (.text t) ((scalar (.text s)).answer (.text t)) := by
  have hequal : (Text.fold s == Text.fold t) =
      (Ord.compare (Text.fold s) (Text.fold t) == .eq) := by
    rw [Bool.eq_iff_iff, beq_iff_eq, beq_iff_eq, Std.compare_eq_iff_eq]
  refine .of_order (Ord.compare (Text.fold s) (Text.fold t)) (.texts s t) (fun c => ?_) ?_ ?_
  · exact congrArg (fun equal => c.holds equal _) hequal
  · rintro _ _ ⟨⟩ ⟨⟩
    rfl
  · rintro _ ⟨⟩ hs
    cases hs

lemma coherent_of_numbers {s : Scalar} {p q : Double.Place} (hs : s.isNumber = true)
    (hr : r.isNumber = true) (hp : s.place? = some p) (hq : r.place? = some q) :
    Comparison.Coherent (.scalar s) r ((scalar s).answer r) := by
  obtain ⟨horder, hequals⟩ := Scalar.order?_of_isNumber hs hr hp hq
  have hequal : (p == q) = (p.compare q == .eq) := by
    rw [Bool.eq_iff_iff, beq_iff_eq, beq_iff_eq, Double.Place.compare_eq_iff]
  refine .of_order (p.compare q) (.numbers hs hr) (fun c => ?_) ?_ ?_
  · rw [answer, Scalar.folded_of_isNumber hs, Scalar.folded_of_isNumber hr, horder, hequals, hequal]
  · rintro _ _ - rfl
    cases hr
  · rintro _ ⟨⟩ - -
    exact ⟨p, q, hp, hq, rfl⟩

/-- The answers about a value are coherent if it and the literal are no NaNs. -/
lemma coherent_answer (hw : ∀ x, w = .scalar (.double x) → x.isNaN = false)
    (hr : ∀ x, r = .double x → x.isNaN = false) : Comparison.Coherent w r (w.answer r) := by
  by_cases halike : w.Alike r
  · cases halike with
    | texts s t => exact coherent_of_texts s t
    | @numbers s t hs ht =>
      obtain ⟨p, hp⟩ := Scalar.exists_place? hs fun x hx => hw x (congrArg Value.scalar hx)
      obtain ⟨q, hq⟩ := Scalar.exists_place? ht hr
      exact coherent_of_numbers hs ht hp hq
  · exact coherent_of_unlike halike

end Value

namespace Expression

variable {facts : Entries Value} {text path : String} {r : Scalar}

/-- The answers about a path fit together. Nothing can be said of one that leads nowhere but that it
does. A value is compared by its name, if it has one, and after it has been brought to the kind of the
literal. -/
theorem eval_coherent [Searcher] (hfacts : (Value.record facts).Comparable)
    (hr : Literal.read text = .ok r) (path : String) :
    (value? ⟨path, .holds⟩ facts = none →
      (∀ c spelling, eval facts ⟨path, .compare c r spelling⟩ = .ok ⟨false, []⟩) ∧
        eval facts ⟨path, .holds⟩ = .ok ⟨false, []⟩ ∧
        eval facts ⟨path, .fails⟩ = .ok ⟨true, []⟩) ∧
    ∀ v, value? ⟨path, .holds⟩ facts = some v →
      (∃ b, eval facts ⟨path, .holds⟩ = .ok ⟨b, []⟩ ∧ eval facts ⟨path, .fails⟩ = .ok ⟨!b, []⟩) ∧
      ∃ w answer, v.named.comparable r = .ok w ∧
        (∀ c spelling, eval facts ⟨path, .compare c r spelling⟩ = .ok ⟨answer c, []⟩) ∧
        Comparison.Coherent w r answer := by
  have hsame : ∀ question, value? ⟨path, question⟩ facts = value? ⟨path, .holds⟩ facts :=
    fun _ => rfl
  constructor
  · intro hnone
    refine ⟨fun c spelling => ?_, ?_, ?_⟩ <;> simp only [eval, hsame, hnone] <;> rfl
  · intro v hv
    -- a text that is read is one of the facts, also if it is the name of a record
    have hvalue : v.Comparable := hfacts.follow? hv
    obtain ⟨w, hw, hnan⟩ := hvalue.named.exists_comparable r
    refine ⟨⟨v.holds, ?_, ?_⟩, w, w.answer r, hw, fun c spelling => ?_, ?_⟩
    · simp only [eval, hv]
      rfl
    · simp only [eval, hsame, hv]
      rfl
    · simp only [eval, hsame, hv, Value.compare_eq_answer hw]
      rfl
    · refine Value.coherent_answer hnan fun x hx => ?_
      exact Literal.isNaN_of_read (hx ▸ hr)

section

open scoped Pattern

/-- `eval_coherent` for a theme that is compared by its name. -/
theorem eval_coherent_theme :
    eval [("theme", .record [("name", .scalar (.text "Dark")), ("dark", .scalar (.flag true))])]
      ⟨"theme", .compare .eq (.text "dark") "dark"⟩ = .ok ⟨true, []⟩ := by
  have hfacts : (Value.record [("theme", .record [("name", .scalar (.text "Dark")),
      ("dark", .scalar (.flag true))])]).Comparable := by
    constructor
    · simp [Value.scalars, Value.fieldScalars]
    · simp only [Value.scalars, Value.fieldScalars]
      intro s hs
      obtain rfl : s = "Dark" := by simpa using hs
      exact .of_length_le (by decide)
  have hr : Literal.read "dark" = .ok (.text "dark") := by decide +kernel
  obtain ⟨-, w, answer, hw, heval, hcoherent⟩ := (eval_coherent hfacts hr "theme").2 _ rfl
  have hname : w = .scalar (.text "Dark") := (Except.ok.inj hw).symm
  have hfold : Text.fold "Dark" = Text.fold "dark" := by decide +kernel
  rw [heval, (hcoherent.texts "Dark" "dark" hname rfl).1.mpr hfold]

end

end Expression

end BlockScript
