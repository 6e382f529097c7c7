import BlockScript.Number.Double
import Mathlib.Tactic.Common

/-!
# The order of doubles

Numbers are ordered by their places on the number line. A NaN has no place, so nothing compares with it;
all others are comparable.
-/

namespace BlockScript.Double

/-! ### Places -/

namespace Place

lemma compare_ne_lt_trans {p q r : Place} (hpq : p.compare q ≠ .lt) (hqr : q.compare r ≠ .lt) :
    p.compare r ≠ .lt := by
  cases p <;> cases q <;> cases r <;> simp_all [compare, Int.compare_eq_lt]
  omega

lemma compare_self (p : Place) : p.compare p = .eq := by
  cases p <;> simp [compare]

lemma compare_eq_iff {p q : Place} : p.compare q = .eq ↔ p = q := by
  constructor
  · intro h
    cases p <;> cases q <;> simp_all [compare]
  · rintro rfl
    exact p.compare_self

end Place

lemma place?_eq_none_iff {x : Double} : x.place? = none ↔ x.isNaN = true := by
  unfold place?
  split
  · simp [*]
  · split <;> simp [*]

/-! ### Comparisons -/

variable {x y z : Double}

lemma ge_iff :
    x.ge y = true ↔
      ∃ p q, x.place? = some p ∧ y.place? = some q ∧ p.compare q ≠ .lt := by
  unfold ge compare?
  cases x.place? with
  | none => simp
  | some p =>
    cases y.place? with
    | none => simp
    | some q => cases h : p.compare q <;> simp [h]

lemma ge_trans (hxy : x.ge y = true) (hyz : y.ge z = true) : x.ge z = true := by
  obtain ⟨p, q, hp, hq, hpq⟩ := ge_iff.mp hxy
  obtain ⟨q', r, hq', hr, hqr⟩ := ge_iff.mp hyz
  obtain rfl : q = q' := Option.some.inj (hq.symm.trans hq')
  exact ge_iff.mpr ⟨p, r, hp, hr, Place.compare_ne_lt_trans hpq hqr⟩

/-- A number that is compared with another one is not a NaN. -/
lemma ge_self_of_ge_left (h : x.ge y = true) : x.ge x = true := by
  obtain ⟨p, _, hp, -, -⟩ := ge_iff.mp h
  exact ge_iff.mpr ⟨p, p, hp, hp, by simp [Place.compare_self]⟩

lemma ge_self_of_ge_right (h : x.ge y = true) : y.ge y = true := by
  obtain ⟨_, q, -, hq, -⟩ := ge_iff.mp h
  exact ge_iff.mpr ⟨q, q, hq, hq, by simp [Place.compare_self]⟩

/-- A number that is not at least another one is below it, if that one is a number. -/
lemma lt_or_isNaN (hx : x.ge x = true) (h : x.ge y = false) : x.lt y = true ∨ y.isNaN = true := by
  obtain ⟨p, _, hp, -, -⟩ := ge_iff.mp hx
  cases hy : y.place? with
  | none => exact .inr (place?_eq_none_iff.mp hy)
  | some q =>
    refine .inl ?_
    cases hpq : p.compare q with
    | lt => simp [lt, compare?, hp, hy, hpq]
    | eq => simp [ge, compare?, hp, hy, hpq] at h
    | gt => simp [ge, compare?, hp, hy, hpq] at h

lemma ge_eq_false_of_isNaN (h : y.isNaN = true) : x.ge y = false := by
  rw [← place?_eq_none_iff] at h
  cases hx : x.place? <;> simp [ge, compare?, hx, h]

/-- A number is not at least another double just if it is below it or that one is a NaN. -/
lemma ge_eq_false_iff (hx : x.ge x = true) : x.ge y = false ↔ x.lt y = true ∨ y.isNaN = true := by
  constructor
  · exact lt_or_isNaN hx
  · rintro (hlt | hnan)
    · have hcompare : x.compare? y = some .lt := by simpa [lt] using hlt
      simp [ge, hcompare]
    · exact ge_eq_false_of_isNaN hnan

/-- Of two numbers one is at least the other. -/
lemma ge_of_not_ge (hx : x.ge x = true) (hy : y.ge y = true) (h : x.ge y = false) :
    y.ge x = true := by
  obtain ⟨p, -, hp, -, -⟩ := ge_iff.mp hx
  obtain ⟨q, -, hq, -, -⟩ := ge_iff.mp hy
  refine ge_iff.mpr ⟨q, p, hq, hp, fun hlt => ?_⟩
  have hpq : p.compare q = .lt := by
    by_contra hne
    rw [ge_iff.mpr ⟨p, q, hp, hq, hne⟩] at h
    exact Bool.noConfusion h
  -- neither place would be behind the other
  cases p <;> cases q <;> simp_all [Place.compare, Int.compare_eq_lt]
  omega

end BlockScript.Double
