import EpisodeGuide.Binary64.Basic
import Mathlib

/-! # Exact values of numbers

A number of double width stands for a rational number. Comparisons go by that value, and a number is
read as a natural number exactly if its value is one. -/

namespace EpisodeGuide

theorem Magnitude.toRatio_pos (m : Magnitude) : 0 < m.toRatio.2 :=
  Nat.pow_pos (Nat.succ_pos 1)

namespace Binary64

/-- The numerator of `x` over the denominator of its magnitude. -/
def numerator (x : Binary64) : ℤ :=
  if x.negative then -(x.magnitude.toRatio.1 : ℤ) else x.magnitude.toRatio.1

/-- The rational number that `x` stands for. -/
def value (x : Binary64) : ℚ :=
  x.numerator / x.magnitude.toRatio.2

/-- Quotients are compared by multiplying them out. -/
theorem compare_mul {b d : ℕ} (hb : 0 < b) (hd : 0 < d) (a c : ℤ) :
    compare (a * d) (c * b) = compare ((a : ℚ) / b) ((c : ℚ) / d) := by
  have hbq : (0 : ℚ) < b := Nat.cast_pos.mpr hb
  have hdq : (0 : ℚ) < d := Nat.cast_pos.mpr hd
  have hmono : StrictMono fun z : ℤ => (z : ℚ) / (b * d) := by
    intro y z h
    have hcast : (y : ℚ) < z := Int.cast_lt.mpr h
    exact div_lt_div_of_pos_right hcast (mul_pos hbq hdq)
  have hleft : ((a * d : ℤ) : ℚ) / (b * d) = a / b := by
    push_cast
    field_simp
  have hright : ((c * b : ℤ) : ℚ) / (b * d) = c / d := by
    push_cast
    field_simp
  rw [← cmp_eq_compare, ← hmono.cmp_map_eq, cmp_eq_compare, hleft, hright]

theorem compareInt_eq (i : ℤ) (x : Binary64) : compareInt i x = compare (i : ℚ) x.value := by
  have h := compare_mul Nat.one_pos x.magnitude.toRatio_pos i x.numerator
  simpa [compareInt, value, numerator] using h

theorem compareExact_eq (x y : Binary64) : compareExact x y = compare x.value y.value :=
  compare_mul x.magnitude.toRatio_pos y.magnitude.toRatio_pos x.numerator y.numerator

end Binary64

/-! ### Natural numbers -/

theorem Magnitude.toNat?_eq_some_iff (m : Magnitude) (n : ℕ) :
    m.toNat? = some n ↔ m.toRatio.1 = n * m.toRatio.2 := by
  have hpos := m.toRatio_pos
  simp only [toRatio] at hpos ⊢
  generalize hnum : Nat.pow 2 m.exponent.toNat = a at *
  generalize hden : Nat.pow 2 (-m.exponent).toNat = b at *
  -- Only one of the two powers is more than one, whichever way the exponent goes.
  have hone : a = 1 ∨ b = 1 := by
    rcases le_total m.exponent 0 with hle | hle
    · left
      rw [← hnum, Int.toNat_of_nonpos hle]
    · right
      rw [← hden, Int.toNat_of_nonpos (by omega)]
  rw [toNat?, hnum, hden]
  constructor
  · intro h
    split at h
    · next hdiv =>
      obtain rfl := Option.some.inj h
      have hdvd : b ∣ m.mantissa := Nat.dvd_of_mod_eq_zero (by simpa using hdiv)
      exact (Nat.div_mul_cancel (hdvd.mul_right a)).symm
    · cases h
  · intro h
    have hdvd : b ∣ m.mantissa := by
      rcases hone with rfl | rfl
      · rw [Nat.mul_one] at h
        exact h ▸ Nat.dvd_mul_left b n
      · exact Nat.one_dvd _
    rw [if_pos (by simpa using Nat.mod_eq_zero_of_dvd hdvd), h, Nat.mul_div_cancel _ hpos]

/-- A number is read as a natural number exactly if that is its value. Negative zero is zero. -/
theorem Binary64.toNat?_eq_some_iff (x : Binary64) (n : ℕ) :
    x.toNat? = some n ↔ x.value = n := by
  have hpos : (0 : ℚ) < x.magnitude.toRatio.2 := Nat.cast_pos.mpr x.magnitude.toRatio_pos
  have hvalue : x.value = n ↔ x.numerator = n * x.magnitude.toRatio.2 := by
    rw [value, div_eq_iff hpos.ne']
    norm_cast
  have hzero : x.isZero = true ↔ x.magnitude.toRatio.1 = 0 := by
    simp [isZero, Magnitude.toRatio]
  rw [hvalue, toNat?, numerator]
  cases hneg : x.negative with
  | false =>
      rw [if_neg (by simp), if_neg (by simp), Magnitude.toNat?_eq_some_iff]
      norm_cast
  | true =>
      by_cases hz : x.isZero = true
      · rw [if_neg (by simp [hz]), if_pos rfl, Magnitude.toNat?_eq_some_iff, hzero.mp hz]
        norm_cast
        simp
      · have hne : x.magnitude.toRatio.1 ≠ 0 := fun h => hz (hzero.mpr h)
        rw [if_pos (by simp [hz]), if_pos rfl]
        constructor
        · intro h
          cases h
        · intro h
          have hnonneg : (0 : ℤ) ≤ n * x.magnitude.toRatio.2 := by positivity
          omega

end EpisodeGuide
