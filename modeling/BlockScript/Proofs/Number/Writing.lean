import BlockScript.Proofs.Text
import Mathlib.Tactic.Ring

/-!
# Written numbers

A number that was read from a row of digits of any script is read again from the digits it is written
with (`readDigits_toDigits`): leading zeros are lost, so these are no more than before.
-/

namespace BlockScript

open Nat (toDigits)

namespace Text

lemma digitValue?_of_isDigit {c : Char} (h : c.isDigit = true) :
    digitValue? c = some (c.toNat - '0'.toNat) := by
  simp only [Char.isDigit, Bool.and_eq_true, decide_eq_true_eq] at h
  have hlo : 0x30 ≤ c.toNat := UInt32.le_iff_toNat_le.mp h.1
  have hhi : c.toNat ≤ 0x39 := UInt32.le_iff_toNat_le.mp h.2
  have hzero : (0x30 ≤ c.toNat && c.toNat < 0x30 + 10) = true := by
    simp only [Bool.and_eq_true, decide_eq_true_eq]
    omega
  have hfind : digitZeros.find? (fun z => z ≤ c.toNat && c.toNat < z + 10) = some 0x30 :=
    List.find?_cons_of_pos hzero
  rw [digitValue?, hfind]
  rfl

lemma digitValue?_lt {c : Char} {d : Nat} (h : digitValue? c = some d) : d < 10 := by
  obtain ⟨z, hz, rfl⟩ := Option.map_eq_some_iff.mp h
  have hrange := List.find?_some hz
  simp only [Bool.and_eq_true, decide_eq_true_eq] at hrange
  omega

/-- A number has at most as many digits as it is read from. -/
lemma digitsValue_lt (cs : List Char) : digitsValue cs < 10 ^ cs.length := by
  have hall : ∀ (ds : List Nat) (n : Nat), (∀ d ∈ ds, d < 10) →
      ds.foldl (fun n d => 10 * n + d) n < (n + 1) * 10 ^ ds.length := by
    intro ds
    induction ds with
    | nil => simp
    | cons d ds ih =>
      intro n hds
      obtain ⟨hd, hds⟩ := List.forall_mem_cons.mp hds
      calc ds.foldl (fun n d => 10 * n + d) (10 * n + d)
          < (10 * n + d + 1) * 10 ^ ds.length := ih _ hds
        _ ≤ (10 * (n + 1)) * 10 ^ ds.length := Nat.mul_le_mul_right _ (by omega)
        _ = (n + 1) * 10 ^ (ds.length + 1) := by ring
  have hlt := hall (cs.filterMap digitValue?) 0 fun d hd => by
    obtain ⟨c, -, hc⟩ := List.mem_filterMap.mp hd
    exact digitValue?_lt hc
  calc digitsValue cs < (0 + 1) * 10 ^ (cs.filterMap digitValue?).length := hlt
    _ = 10 ^ (cs.filterMap digitValue?).length := by rw [Nat.zero_add, Nat.one_mul]
    _ ≤ 10 ^ cs.length := Nat.pow_le_pow_right (by decide) (List.length_filterMap_le _ _)

lemma digitsValue_toDigits (n : Nat) : digitsValue (toDigits 10 n) = n := by
  have hall : ∀ (cs : List Char) (n : Nat), (∀ c ∈ cs, c.isDigit = true) →
      (cs.filterMap digitValue?).foldl (fun n d => 10 * n + d) n = Nat.ofDigitChars 10 cs n := by
    intro cs
    induction cs with
    | nil => exact fun _ _ => rfl
    | cons c cs ih =>
      intro n hcs
      obtain ⟨hc, hcs⟩ := List.forall_mem_cons.mp hcs
      rw [List.filterMap_cons_some (digitValue?_of_isDigit hc), List.foldl_cons, ih _ hcs]
      rfl
  rw [digitsValue, hall _ 0 fun c hc => Nat.isDigit_of_mem_toDigits (by decide) (by decide) hc,
    Nat.ofDigitChars_ten_toDigits]

end Text

lemma isNumeral_toDigits (n : Nat) : isNumeral (toDigits 10 n) = true := by
  rw [isNumeral, Bool.and_eq_true, Bool.not_eq_true', List.isEmpty_eq_false_iff, List.all_eq_true]
  refine ⟨Nat.toDigits_ne_nil, fun c hc => ?_⟩
  rw [Text.isDigit, Nat.isDigit_of_mem_toDigits (by decide) (by decide) hc, Bool.true_or]

lemma readDigits_ok_iff {digits : List Char} {n : Nat} :
    readDigits digits = .ok n ↔ digits.length ≤ digitLimit ∧ Text.digitsValue digits = n := by
  rw [readDigits]
  split
  next h => simp [Nat.not_le.mpr h]
  next h => simp [Nat.not_lt.mp h]

/-- A number that was read is read again from the digits it is written with. -/
theorem readDigits_toDigits {digits : List Char} {n : Nat} (h : readDigits digits = .ok n) :
    readDigits (toDigits 10 n) = .ok n := by
  obtain ⟨hlength, rfl⟩ := readDigits_ok_iff.mp h
  refine readDigits_ok_iff.mpr ⟨?_, Text.digitsValue_toDigits _⟩
  rw [Nat.length_toDigits_le_iff (by decide) (by decide)]
  exact Nat.lt_of_lt_of_le (Text.digitsValue_lt digits) (Nat.pow_le_pow_right (by decide) hlength)

end BlockScript
