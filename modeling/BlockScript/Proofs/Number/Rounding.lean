import BlockScript.Proofs.Number.Order
import Mathlib.Order.Monotone.Basic
import Mathlib.Tactic.Ring

/-!
# Rounding

The sum of two finite numbers is their exact sum, rounded. The words of positive numbers stand in the
order of the numbers, so it is enough to see that rounding does not pass over a word: a sum that is at
least a number is rounded to a number that is at least that one (`Double.IsFinite.add_ge`), and a sum
that is at most a number to one that is at most that one (`Double.IsFinite.ge_add`).
-/

namespace BlockScript.Double

/-! ### The numbers of words -/

/-- The size of the number with a word and no sign, in units of `2 ^ -1074`. -/
def unitsOf (word : Nat) : Nat :=
  if word / 2 ^ 52 = 0 then word % 2 ^ 52
  else (2 ^ 52 + word % 2 ^ 52) * 2 ^ (word / 2 ^ 52 - 1)

/-- A word consists of an exponent and a significand, which has 53 bits unless the exponent is least. -/
lemma exists_significand (word : Nat) :
    ∃ k s, word = k * 2 ^ 52 + s ∧ s < 2 ^ 53 ∧ (k = 0 ∨ 2 ^ 52 ≤ s) := by
  by_cases h : word < 2 ^ 52
  · exact ⟨0, word, by omega, by omega, .inl rfl⟩
  · exact ⟨word / 2 ^ 52 - 1, 2 ^ 52 + word % 2 ^ 52, by omega, by omega, .inr (by omega)⟩

/-- A significand that has grown by one bit is read in the same way. -/
lemma unitsOf_significand {k s : Nat} (hs : s ≤ 2 ^ 53) (hk : k = 0 ∨ 2 ^ 52 ≤ s) :
    unitsOf (k * 2 ^ 52 + s) = s * 2 ^ k := by
  rcases Nat.lt_or_ge s (2 ^ 52) with hlow | hhigh
  · obtain rfl : k = 0 := by omega
    have hfield : (0 * 2 ^ 52 + s) / 2 ^ 52 = 0 := by omega
    rw [unitsOf, if_pos hfield]
    omega
  · rcases Nat.lt_or_ge s (2 ^ 53) with hsmall | hlarge
    · have hfield : (k * 2 ^ 52 + s) / 2 ^ 52 = k + 1 := by omega
      have hfraction : 2 ^ 52 + (k * 2 ^ 52 + s) % 2 ^ 52 = s := by omega
      rw [unitsOf, if_neg (by omega), hfield, hfraction, Nat.add_sub_cancel]
    · obtain rfl : s = 2 ^ 53 := by omega
      have hfield : (k * 2 ^ 52 + 2 ^ 53) / 2 ^ 52 = k + 2 := by omega
      have hfraction : 2 ^ 52 + (k * 2 ^ 52 + 2 ^ 53) % 2 ^ 52 = 2 ^ 52 := by omega
      have hpow : 2 ^ (k + 2 - 1) = 2 ^ k * 2 := Nat.pow_succ 2 k
      rw [unitsOf, if_neg (by omega), hfield, hfraction, hpow]
      omega

lemma strictMono_unitsOf : StrictMono unitsOf := by
  refine strictMono_nat_of_lt_succ fun word => ?_
  obtain ⟨k, s, rfl, hs, hk⟩ := exists_significand word
  rw [Nat.add_assoc, unitsOf_significand hs.le hk, unitsOf_significand hs (by omega)]
  exact Nat.mul_lt_mul_of_pos_right (Nat.lt_succ_self s) (Nat.two_pow_pos k)

/-! ### Rounding to a word -/

/-- A quotient is rounded down or, if it is not exact, up. -/
lemma roundQuotient_cases (num : Nat) {den : Nat} (hden : 0 < den) :
    roundQuotient num den = num / den ∨
      roundQuotient num den = num / den + 1 ∧ num % den ≠ 0 := by
  unfold roundQuotient
  by_cases hrest : num % den = 0
  · left
    simp [hrest]
    omega
  · by_cases hup : (2 * (num % den) > den || (2 * (num % den) == den && num / den % 2 == 1)) = true
    · exact .inr ⟨if_pos hup, hrest⟩
    · exact .inl (if_neg hup)

lemma roundQuotient_mul {num den c : Nat} (hc : 0 < c) :
    roundQuotient (num * c) (den * c) = roundQuotient num den := by
  have htwice : 2 * (num % den * c) = 2 * (num % den) * c := by ring
  simp only [roundQuotient, Nat.mul_div_mul_right _ _ hc, Nat.mul_mod_mul_right, htwice]
  simp [Nat.mul_lt_mul_right hc, Nat.mul_right_cancel_iff hc]

/-- The word of the number nearest to this many units. -/
def nearest (units : Nat) : Nat :=
  (units.log2 - 52) * 2 ^ 52 + roundQuotient units (2 ^ (units.log2 - 52))

lemma floorLog2_two_pow {n : Nat} (hn : n ≠ 0) (m : Nat) :
    floorLog2 n (2 ^ m) = (n.log2 : Int) - m := by
  have hlow : 2 ^ n.log2 ≤ n := Nat.log2_self_le hn
  unfold floorLog2
  rw [Nat.log2_two_pow]
  by_cases h : (n.log2 : Int) - m ≥ 0
  · have hpow : 2 ^ m * Nat.pow 2 ((n.log2 : Int) - m).toNat = 2 ^ n.log2 := by
      rw [Nat.pow_eq, ← Nat.pow_add]
      congr 1
      omega
    simp only [if_pos h, hpow]
    exact if_pos (by simpa using hlow)
  · have hpow : 2 ^ m = 2 ^ n.log2 * Nat.pow 2 (-((n.log2 : Int) - m)).toNat := by
      rw [Nat.pow_eq, ← Nat.pow_add]
      congr 1
      omega
    have hreach : 2 ^ m ≤ n * Nat.pow 2 (-((n.log2 : Int) - m)).toNat := by
      rw [hpow]
      exact Nat.mul_le_mul_right _ hlow
    simp only [if_neg h]
    exact if_pos (by simpa using hreach)

/-- A number of units is rounded to the nearest word, but not beyond infinity. -/
lemma ofRatio_units (negative : Bool) {n m : Nat} (hn : n ≠ 0) (hm : m = 1074) :
    ofRatio negative n (Nat.pow 2 m) = ofMagnitude negative (min (nearest n) infinityWord) := by
  unfold ofRatio nearest
  rw [if_neg hn, Nat.pow_eq, floorLog2_two_pow hn]
  have hexponent : (max (-1074) ((n.log2 : Int) - m - 52) + 1074).toNat = n.log2 - 52 := by omega
  simp only [hexponent, Nat.pow_eq]
  congr 2
  by_cases he : max (-1074) ((n.log2 : Int) - m - 52) ≥ 0
  · rw [if_pos he, ← Nat.pow_add]
    congr 3
    omega
  · rw [if_neg he]
    have hden : 2 ^ m = 2 ^ (n.log2 - 52) * 2 ^ (-max (-1074) ((n.log2 : Int) - m - 52)).toNat := by
      rw [← Nat.pow_add]
      congr 1
      omega
    rw [hden, roundQuotient_mul (Nat.two_pow_pos _)]

/-- The significand before rounding has 53 bits, unless the exponent is least. -/
lemma significand_bounds (n : Nat) :
    n / 2 ^ (n.log2 - 52) < 2 ^ 53 ∧ (n.log2 - 52 = 0 ∨ 2 ^ 52 ≤ n / 2 ^ (n.log2 - 52)) := by
  constructor
  · rw [Nat.div_lt_iff_lt_mul (Nat.two_pow_pos _), ← Nat.pow_add]
    calc n < 2 ^ (n.log2 + 1) := Nat.lt_log2_self
      _ ≤ 2 ^ (53 + (n.log2 - 52)) := Nat.pow_le_pow_right (by decide) (by omega)
  · by_cases hk : n.log2 - 52 = 0
    · exact .inl hk
    · right
      have hn : n ≠ 0 := by
        rintro rfl
        simp at hk
      rw [Nat.le_div_iff_mul_le (Nat.two_pow_pos _), ← Nat.pow_add]
      calc 2 ^ (52 + (n.log2 - 52)) = 2 ^ n.log2 := by congr 1; omega
        _ ≤ n := Nat.log2_self_le hn

/-- Rounding does not pass over a word from below. -/
lemma nearest_le {n word : Nat} (h : n ≤ unitsOf word) : nearest n ≤ word := by
  obtain ⟨hs, hk⟩ := significand_bounds n
  have hdown := unitsOf_significand hs.le hk
  have hpos := Nat.two_pow_pos (n.log2 - 52)
  rw [nearest]
  rcases roundQuotient_cases n hpos with hround | ⟨hround, hrest⟩
  · rw [hround, ← strictMono_unitsOf.le_iff_le, hdown]
    exact (Nat.div_mul_le_self n _).trans h
  · have hlow : n / 2 ^ (n.log2 - 52) * 2 ^ (n.log2 - 52) < n := by
      have hdiv := Nat.div_add_mod' n (2 ^ (n.log2 - 52))
      omega
    have hword := strictMono_unitsOf.lt_iff_lt.mp (hdown.trans_lt (hlow.trans_le h))
    rw [hround]
    omega

/-- Rounding does not pass over a word from above. -/
lemma le_nearest {n word : Nat} (h : unitsOf word ≤ n) : word ≤ nearest n := by
  obtain ⟨hs, hk⟩ := significand_bounds n
  have hpos := Nat.two_pow_pos (n.log2 - 52)
  have hup := @unitsOf_significand (n.log2 - 52) (n / 2 ^ (n.log2 - 52) + 1) hs (by omega)
  have hhigh : n < unitsOf ((n.log2 - 52) * 2 ^ 52 + (n / 2 ^ (n.log2 - 52) + 1)) := by
    rw [hup, Nat.mul_comm]
    exact Nat.lt_mul_div_succ n hpos
  have hword := strictMono_unitsOf.lt_iff_lt.mp (h.trans_lt hhigh)
  rw [nearest]
  rcases roundQuotient_cases n hpos with hround | ⟨hround, -⟩ <;> rw [hround] <;> omega

/-! ### Words with a sign -/

section

variable {negative : Bool} {word : Nat} (hword : word ≤ infinityWord)
include hword

lemma magnitude_ofMagnitude : (ofMagnitude negative word).magnitude = word := by
  have hlow : word < 2 ^ 63 := hword.trans_lt (by decide)
  cases negative <;> simp [magnitude, ofMagnitude, UInt64.toNat_ofNat'] <;> omega

lemma isNegative_ofMagnitude : (ofMagnitude negative word).isNegative = negative := by
  have hlow : word < 2 ^ 63 := hword.trans_lt (by decide)
  cases negative <;> simp [isNegative, ofMagnitude, UInt64.toNat_ofNat'] <;> omega

lemma isNaN_ofMagnitude : (ofMagnitude negative word).isNaN = false := by
  rw [isNaN, magnitude_ofMagnitude hword]
  exact decide_eq_false (Nat.not_lt.mpr hword)

end

lemma isNaN_ofRatio (negative : Bool) (num den : Nat) : (ofRatio negative num den).isNaN = false := by
  unfold ofRatio
  split
  · exact isNaN_ofMagnitude (Nat.zero_le _)
  · exact isNaN_ofMagnitude (Nat.min_le_right _ _)

/-- What digits write is a number or an infinity. -/
lemma isNaN_ofDecimal (negative : Bool) (digits : Nat) (exponent : Int) :
    (ofDecimal negative digits exponent).isNaN = false := by
  simp only [ofDecimal]
  split_ifs
  · exact isNaN_ofMagnitude (Nat.zero_le _)
  · exact isNaN_ofMagnitude le_rfl
  · exact isNaN_ofMagnitude (Nat.zero_le _)
  · exact isNaN_ofRatio _ _ _
  · exact isNaN_ofRatio _ _ _

/-- The number of a word, negative with its sign. -/
def rank (x : Double) : Int :=
  if x.isNegative then -x.magnitude else x.magnitude

lemma rank_ofMagnitude {negative : Bool} {word : Nat} (hword : word ≤ infinityWord) :
    (ofMagnitude negative word).rank = if negative then -(word : Int) else word := by
  rw [rank, isNegative_ofMagnitude hword, magnitude_ofMagnitude hword]

variable {x y z : Double}

lemma signedUnits_eq (x : Double) :
    x.signedUnits = if x.isNegative then -(unitsOf x.magnitude : Int) else unitsOf x.magnitude :=
  rfl

lemma signedUnits_le_iff : x.signedUnits ≤ y.signedUnits ↔ x.rank ≤ y.rank := by
  have hle : ∀ {v w : Nat}, unitsOf v ≤ unitsOf w ↔ v ≤ w := strictMono_unitsOf.le_iff_le
  have hzero : ∀ w, unitsOf w = 0 ↔ w = 0 := fun w =>
    (strictMono_unitsOf.injective.eq_iff (b := 0))
  have hx := hzero x.magnitude
  have hy := hzero y.magnitude
  have hxy := @hle x.magnitude y.magnitude
  have hyx := @hle y.magnitude x.magnitude
  rw [signedUnits_eq, signedUnits_eq, rank, rank]
  cases x.isNegative <;> cases y.isNegative <;> simp only [if_true, if_false, Bool.false_eq_true] <;>
    omega

lemma rank_of_isInfinite (h : x.isInfinite = true) :
    x.rank = if x.isNegative then -(infinityWord : Int) else infinityWord := by
  have hword : x.magnitude = infinityWord := by simpa [isInfinite] using h
  rw [rank, hword]

lemma rank_of_finite (hx : x.isNaN = false) (h : x.isInfinite = false) :
    -(infinityWord : Int) < x.rank ∧ x.rank < infinityWord := by
  have hle : x.magnitude ≤ infinityWord := by simpa [isNaN] using hx
  have hne : x.magnitude ≠ infinityWord := by simpa [isInfinite] using h
  rw [rank]
  split <;> omega

/-- Numbers stand in the order of their words. -/
lemma ge_iff_rank_le (hx : x.isNaN = false) (hy : y.isNaN = false) :
    x.ge y = true ↔ y.rank ≤ x.rank := by
  have hpos : (0 : Int) < infinityWord := by decide
  cases hxi : x.isInfinite <;> cases hyi : y.isInfinite
  · have hat : ∀ a b : Int, compare a b ≠ .lt ↔ b ≤ a := fun a b => by
      rw [Ne, Int.compare_eq_lt, not_lt]
    simp [ge_iff, place?, hx, hy, hxi, hyi, Place.compare, hat, signedUnits_le_iff]
  · have hfinite := rank_of_finite hx hxi
    rw [ge_iff, rank_of_isInfinite hyi]
    cases hneg : y.isNegative <;> simp [place?, hx, hy, hxi, hyi, hneg, Place.compare] <;> omega
  · have hfinite := rank_of_finite hy hyi
    rw [ge_iff, rank_of_isInfinite hxi]
    cases hneg : x.isNegative <;> simp [place?, hx, hy, hxi, hyi, hneg, Place.compare] <;> omega
  · rw [ge_iff, rank_of_isInfinite hxi, rank_of_isInfinite hyi]
    cases hnegx : x.isNegative <;> cases hnegy : y.isNegative <;>
      simp [place?, hx, hy, hxi, hyi, hnegx, hnegy, Place.compare]
    omega

/-! ### Sums -/

/-- The double nearest to a number of units that is not zero. -/
def ofUnits (units : Int) : Double :=
  ofRatio (decide (units < 0)) units.natAbs (Nat.pow 2 1074)

lemma ofUnits_eq {units : Int} (h : units ≠ 0) :
    ofUnits units =
      ofMagnitude (decide (units < 0)) (min (nearest units.natAbs) infinityWord) := by
  unfold ofUnits
  -- as a number, the exponent would have its power computed
  generalize hm : 1074 = m
  exact ofRatio_units _ (Int.natAbs_ne_zero.mpr h) hm.symm

lemma isNaN_ofUnits {units : Int} (h : units ≠ 0) : (ofUnits units).isNaN = false := by
  rw [ofUnits_eq h]
  exact isNaN_ofMagnitude (Nat.min_le_right _ _)

/-- Rounding keeps the order of a number of units and a double, either way. -/
lemma rank_ofUnits {units : Int} (h : units ≠ 0) (hx : x.isNaN = false) :
    (units ≤ x.signedUnits → (ofUnits units).rank ≤ x.rank) ∧
      (x.signedUnits ≤ units → x.rank ≤ (ofUnits units).rank) := by
  have hle : x.magnitude ≤ infinityWord := by simpa [isNaN] using hx
  have hdown := @nearest_le units.natAbs x.magnitude
  have hup := @le_nearest units.natAbs x.magnitude
  have hzero : unitsOf 0 = 0 := rfl
  rw [ofUnits_eq h, rank_ofMagnitude (Nat.min_le_right _ _), signedUnits_eq, rank]
  by_cases hunits : units < 0 <;> cases x.isNegative <;>
    simp only [hunits, decide_true, decide_false, if_true, if_false, Bool.false_eq_true] <;> omega

/-- Whether a double is a number and not an infinity. -/
structure IsFinite (x : Double) : Prop where
  isNaN : x.isNaN = false
  isInfinite : x.isInfinite = false

instance (x : Double) : Decidable x.IsFinite :=
  decidable_of_iff (x.isNaN = false ∧ x.isInfinite = false)
    ⟨fun h => ⟨h.1, h.2⟩, fun h => ⟨h.1, h.2⟩⟩

lemma IsFinite.place? (hx : x.IsFinite) : x.place? = some (.at x.signedUnits) := by
  simp [Double.place?, hx.isNaN, hx.isInfinite]

lemma IsFinite.add_eq (hx : x.IsFinite) (hy : y.IsFinite) :
    x + y =
      if x.signedUnits + y.signedUnits = 0 then ofMagnitude (x.isNegative && y.isNegative) 0
      else ofUnits (x.signedUnits + y.signedUnits) := by
  show add x y = _
  unfold add ofUnits
  simp only [hx.isNaN, hy.isNaN, hx.isInfinite, hy.isInfinite, Bool.false_eq_true, if_false]

lemma IsFinite.isNaN_add (hx : x.IsFinite) (hy : y.IsFinite) : (x + y).isNaN = false := by
  rw [hx.add_eq hy]
  split
  · exact isNaN_ofMagnitude (Nat.zero_le _)
  next hsum => exact isNaN_ofUnits hsum

lemma IsFinite.rank_add (hx : x.IsFinite) (hy : y.IsFinite) (hz : z.isNaN = false) :
    (x.signedUnits + y.signedUnits ≤ z.signedUnits → (x + y).rank ≤ z.rank) ∧
      (z.signedUnits ≤ x.signedUnits + y.signedUnits → z.rank ≤ (x + y).rank) := by
  rw [hx.add_eq hy]
  split
  next hsum =>
    have hzero : (ofMagnitude (x.isNegative && y.isNegative) 0).signedUnits = 0 := by
      cases x.isNegative && y.isNegative <;> rfl
    rw [← signedUnits_le_iff, ← signedUnits_le_iff, hzero, hsum]
    exact ⟨id, id⟩
  next hsum => exact rank_ofUnits hsum hz

/-- A number that is at least an exact sum is at least the sum. -/
lemma IsFinite.ge_add (hx : x.IsFinite) (hy : y.IsFinite) (hz : z.isNaN = false)
    (h : x.signedUnits + y.signedUnits ≤ z.signedUnits) : z.ge (x + y) = true :=
  (ge_iff_rank_le hz (hx.isNaN_add hy)).mpr ((hx.rank_add hy hz).1 h)

/-- A number that is at most an exact sum is at most the sum. -/
lemma IsFinite.add_ge (hx : x.IsFinite) (hy : y.IsFinite) (hz : z.isNaN = false)
    (h : z.signedUnits ≤ x.signedUnits + y.signedUnits) : (x + y).ge z = true :=
  (ge_iff_rank_le (hx.isNaN_add hy) hz).mpr ((hx.rank_add hy hz).2 h)

/-! ### Adding what is not negative -/

/-- What is at least zero is a finite number that is not negative, or it is the positive infinity. -/
lemma cases_of_ge_zero (hy : y.ge (.ofInt 0) = true) :
    y.IsFinite ∧ 0 ≤ y.signedUnits ∨
      y.isNaN = false ∧ y.isInfinite = true ∧ y.place? = some .above := by
  have hnan : y.isNaN = false := by
    obtain ⟨p, -, hp, -⟩ := ge_iff.mp hy
    by_contra h
    rw [Bool.not_eq_false, ← place?_eq_none_iff, hp] at h
    exact Option.some_ne_none p h
  have hrank : 0 ≤ y.rank := (ge_iff_rank_le hnan rfl).mp hy
  cases hinf : y.isInfinite with
  | true =>
    rw [rank_of_isInfinite hinf] at hrank
    have hneg : y.isNegative = false := by
      by_contra h
      rw [if_pos (Bool.eq_true_of_not_eq_false h)] at hrank
      exact absurd hrank (by decide)
    simp [place?, hnan, hinf, hneg]
  | false =>
    have hunits := (@signedUnits_le_iff (.ofInt 0) y).mpr hrank
    exact .inl ⟨⟨hnan, hinf⟩, hunits⟩

lemma IsFinite.signedUnits_nonneg (h : y.IsFinite) (hy : y.ge (.ofInt 0) = true) :
    0 ≤ y.signedUnits := by
  rcases cases_of_ge_zero hy with ⟨-, hnonneg⟩ | ⟨-, hinf, -⟩
  · exact hnonneg
  · rw [h.isInfinite] at hinf
    exact absurd hinf (by decide)

/-- A sum with what is not negative is not smaller. -/
lemma IsFinite.add_ge_self (hx : x.IsFinite) (hy : y.ge (.ofInt 0) = true) :
    (x + y).ge x = true := by
  rcases cases_of_ge_zero hy with ⟨hfinite, hpos⟩ | ⟨hnan, hinf, habove⟩
  · exact hx.add_ge hfinite hx.isNaN (by omega)
  · have hsum : x + y = y := by
      show add x y = y
      simp only [add, hx.isNaN, hx.isInfinite, hnan, hinf, Bool.false_eq_true, if_false, if_true]
    rw [hsum]
    exact ge_iff.mpr ⟨_, _, habove, hx.place?, by simp [Place.compare]⟩

/-! ### Exact differences -/

/-- The difference of two places; two infinities that are alike have none. -/
def Place.sub? : Place → Place → Option Place
  | .at a, .at b => some (.at (a - b))
  | .at _, .below => some .above
  | .at _, .above => some .below
  | .below, .below => none
  | .below, _ => some .below
  | .above, .above => none
  | .above, _ => some .above

/-- Whether `x` is at least `y` less `d`, the difference being taken without rounding. -/
def GeDifference (x y d : Double) : Prop :=
  ∃ p q r, x.place? = some p ∧ y.place? = some q ∧ d.place? = some r ∧
    ∃ s, q.sub? r = some s ∧ p.compare s ≠ .lt

lemma geDifference_iff {d : Double} :
    x.GeDifference y d ↔
      (x.place?.any fun p => y.place?.any fun q => d.place?.any fun r =>
        (q.sub? r).any fun s => p.compare s != .lt) = true := by
  simp [GeDifference, Option.any_eq_true]

instance (x y d : Double) : Decidable (x.GeDifference y d) :=
  decidable_of_iff _ geDifference_iff.symm

/-- What is at least a number that `y` exceeds by no more than `d` is at least the difference. -/
lemma IsFinite.geDifference {d : Double} (hy : y.IsFinite) (hz : z.IsFinite)
    (hd : d.ge (.ofInt 0) = true) (hyz : d.IsFinite → y.signedUnits ≤ z.signedUnits + d.signedUnits)
    (hx : x.ge z = true) : x.GeDifference y d := by
  obtain ⟨p, q, hp, hq, hpq⟩ := ge_iff.mp hx
  obtain rfl : .at z.signedUnits = q := Option.some.inj (hz.place?.symm.trans hq)
  rcases cases_of_ge_zero hd with ⟨hfinite, -⟩ | ⟨-, -, habove⟩
  · refine ⟨p, _, _, hp, hy.place?, hfinite.place?, _, rfl, Place.compare_ne_lt_trans hpq ?_⟩
    have hle := hyz hfinite
    rw [Place.compare, Ne, Int.compare_eq_lt]
    omega
  · exact ⟨p, _, _, hp, hy.place?, habove, _, rfl, by cases p <;> simp [Place.compare]⟩

/-- What is at least `y` is at least `y` less something. -/
lemma IsFinite.geDifference_of_ge {d : Double} (hy : y.IsFinite) (hd : d.ge (.ofInt 0) = true)
    (hx : x.ge y = true) : x.GeDifference y d := by
  refine hy.geDifference hy hd (fun hfinite => ?_) hx
  have hnonneg := hfinite.signedUnits_nonneg hd
  omega

lemma GeDifference.of_ge {d : Double} (hxz : x.ge z = true) (hz : z.GeDifference y d) :
    x.GeDifference y d := by
  obtain ⟨p, p', hp, hp', hcompare⟩ := ge_iff.mp hxz
  obtain ⟨p'', q, r, hp'', hq, hr, s, hs, hps⟩ := hz
  obtain rfl : p' = p'' := Option.some.inj (hp'.symm.trans hp'')
  exact ⟨p, q, r, hp, hq, hr, s, hs, Place.compare_ne_lt_trans hcompare hps⟩

end BlockScript.Double
