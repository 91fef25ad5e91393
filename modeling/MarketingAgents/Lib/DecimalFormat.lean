import Mathlib.Algebra.Order.Field.Power
import Mathlib.Data.Int.Log
import Mathlib.Data.Rat.Floor
import Mathlib.Tactic.Linarith
import Mathlib.Tactic.NormNum
import Mathlib.Tactic.Positivity

namespace Lib

/-- A decimal format: the digits of a coefficient, and the exponents that a
leading digit may have before the value is subnormal or overflows. -/
structure DecimalFormat where
  digits : Nat
  emin : Int
  emax : Int
  digits_pos : 0 < digits
  emin_le : emin ≤ emax

/-- A rounding to whole numbers. -/
structure RoundsWhole (mode : Rat → Int) : Prop where
  mono : ∀ x y, x ≤ y → mode x ≤ mode y
  whole : ∀ n : Int, mode n = n

namespace DecimalFormat

/-- The exponent of the last digit that a value keeps. -/
def lastPlace (F : DecimalFormat) (q : Rat) : Int := max F.emin (Int.log 10 |q|) + 1 - F.digits

/-- The size of the rounded value. -/
def magnitude (F : DecimalFormat) (mode : Rat → Int) (q : Rat) : Rat :=
  mode (|q| / 10 ^ F.lastPlace q) * 10 ^ F.lastPlace q

/-- Rounding to the digits of the format, alike on both sides of zero. -/
def round (F : DecimalFormat) (mode : Rat → Int) (q : Rat) : Rat :=
  if 0 ≤ q then F.magnitude mode q else -F.magnitude mode q

end DecimalFormat

section Whole

variable {mode : Rat → Int} {x : Rat} {n : Int}

theorem RoundsWhole.le (rounds : RoundsWhole mode) (le : x ≤ n) : mode x ≤ n := rounds.whole n ▸ rounds.mono _ _ le

theorem RoundsWhole.ge (rounds : RoundsWhole mode) (le : (n : Rat) ≤ x) : n ≤ mode x := rounds.whole n ▸ rounds.mono _ _ le

end Whole

namespace DecimalFormat

variable {F : DecimalFormat} {mode : Rat → Int} {q : Rat} {m k : Int}

theorem ten_zpow_pos (k : Int) : (0 : Rat) < 10 ^ k := zpow_pos (by norm_num) k

theorem ten_zpow_le (le : k ≤ m) : (10 : Rat) ^ k ≤ 10 ^ m := zpow_le_zpow_right₀ (by norm_num) le

theorem ten_zpow_lt (lt : k < m) : (10 : Rat) ^ k < 10 ^ m := zpow_lt_zpow_right₀ (by norm_num) lt

/-- A power of ten over a smaller one is whole. -/
theorem ten_zpow_div (le : k ≤ m) : ∃ n : Int, (n : Rat) = 10 ^ m / 10 ^ k ∧ (n : Rat) * 10 ^ k = 10 ^ m := by
  obtain ⟨d, rfl⟩ := Int.le.dest le
  have split : (10 : Rat) ^ (k + d) = 10 ^ d * 10 ^ k := by
    rw [zpow_add₀ (by norm_num), zpow_natCast, mul_comm]
  refine ⟨10 ^ d, ?_, by rw [split]; push_cast; rfl⟩
  rw [split, mul_div_cancel_right₀ _ (ten_zpow_pos k).ne']
  push_cast
  rfl

theorem magnitude_nonneg (rounds : RoundsWhole mode) : 0 ≤ F.magnitude mode q := by
  have whole : 0 ≤ mode (|q| / 10 ^ F.lastPlace q) :=
    rounds.ge (by push_cast; exact div_nonneg (abs_nonneg q) (ten_zpow_pos _).le)
  exact mul_nonneg (by exact_mod_cast whole) (ten_zpow_pos _).le

theorem abs_round (rounds : RoundsWhole mode) : |F.round mode q| = F.magnitude mode q := by
  unfold round
  split_ifs
  · exact abs_of_nonneg (magnitude_nonneg rounds)
  · rw [abs_neg, abs_of_nonneg (magnitude_nonneg rounds)]

/-- Powers of ten that have room for the last digit bound the rounded value as they bound the exact one. -/
theorem magnitude_le_zpow (rounds : RoundsWhole mode) (place : F.lastPlace q ≤ k) (le : |q| ≤ 10 ^ k) :
    F.magnitude mode q ≤ 10 ^ k := by
  obtain ⟨n, quotient, product⟩ := ten_zpow_div place
  have below : mode (|q| / 10 ^ F.lastPlace q) ≤ n :=
    rounds.le (by rw [quotient]; exact div_le_div_of_nonneg_right le (ten_zpow_pos _).le)
  rw [← product]
  exact mul_le_mul_of_nonneg_right (by exact_mod_cast below) (ten_zpow_pos _).le

theorem zpow_le_magnitude (rounds : RoundsWhole mode) (place : F.lastPlace q ≤ k) (le : 10 ^ k ≤ |q|) :
    10 ^ k ≤ F.magnitude mode q := by
  obtain ⟨n, quotient, product⟩ := ten_zpow_div place
  have above : n ≤ mode (|q| / 10 ^ F.lastPlace q) :=
    rounds.ge (by rw [quotient]; exact div_le_div_of_nonneg_right le (ten_zpow_pos _).le)
  rw [← product]
  exact mul_le_mul_of_nonneg_right (by exact_mod_cast above) (ten_zpow_pos _).le

theorem le_log_of_zpow_le (le : 10 ^ k ≤ |q|) : k ≤ Int.log 10 |q| := by
  have positive : 0 < |q| := (ten_zpow_pos k).trans_le le
  exact (Int.zpow_le_iff_le_log (b := 10) (by norm_num) positive).mp (by exact_mod_cast le)

theorem log_lt_of_lt_zpow (positive : 0 < |q|) (lt : |q| < 10 ^ k) : Int.log 10 |q| < k :=
  (Int.lt_zpow_iff_log_lt (b := 10) (by norm_num) positive).mp (by exact_mod_cast lt)

/-- A value below a power of ten has its last digit as far below as there are
digits, or lies below the next smaller power, rounded or not. -/
theorem below_zpow_cases (rounds : RoundsWhole mode) (normal : F.emin < m) (below : |q| < 10 ^ m) :
    F.lastPlace q = m - F.digits ∨ |q| ≤ 10 ^ (m - 1) ∧ F.magnitude mode q ≤ 10 ^ (m - 1) := by
  have digits := F.digits_pos
  rcases lt_or_ge |q| (10 ^ (m - 1)) with small | large
  · refine Or.inr ⟨small.le, ?_⟩
    rcases (abs_nonneg q).eq_or_lt with zero | positive
    · unfold magnitude
      rw [← zero, zero_div, show (0 : Rat) = ((0 : Int) : Rat) by norm_num, rounds.whole]
      simpa using (ten_zpow_pos (m - 1)).le
    · have log := log_lt_of_lt_zpow positive small
      refine magnitude_le_zpow rounds ?_ small.le
      unfold lastPlace
      omega
  · have low := le_log_of_zpow_le large
    have high := log_lt_of_lt_zpow ((ten_zpow_pos _).trans_le large) below
    refine Or.inl ?_
    unfold lastPlace
    omega

theorem zpow_digits (F : DecimalFormat) (m : Int) : (10 : Rat) ^ m = 10 ^ F.digits * 10 ^ (m - F.digits) := by
  rw [← zpow_natCast, ← zpow_add₀ (by norm_num)]
  congr 1
  omega

/-- The rounded value stays below a power of ten where the exact one does and is not carried to it. -/
theorem magnitude_lt_iff (rounds : RoundsWhole mode) (normal : F.emin < m) :
    F.magnitude mode q < 10 ^ m ↔ |q| < 10 ^ m ∧ mode (|q| / 10 ^ (m - F.digits)) < 10 ^ F.digits := by
  have digits := F.digits_pos
  rcases lt_or_ge |q| (10 ^ m) with below | above
  · rw [and_iff_right below]
    rcases below_zpow_cases rounds normal below with place | ⟨small, rounded⟩
    · unfold magnitude
      rw [place, zpow_digits F m, mul_lt_mul_iff_left₀ (ten_zpow_pos _)]
      exact_mod_cast Iff.rfl
    · refine iff_of_true (rounded.trans_lt (ten_zpow_lt (by omega))) ?_
      obtain ⟨n, quotient, product⟩ := ten_zpow_div (k := m - F.digits) (m := m - 1) (by omega)
      have carried : mode (|q| / 10 ^ (m - F.digits)) ≤ n :=
        rounds.le (by rw [quotient]; exact div_le_div_of_nonneg_right small (ten_zpow_pos _).le)
      have less : (n : Rat) < 10 ^ F.digits := by
        rw [← mul_lt_mul_iff_left₀ (ten_zpow_pos (m - F.digits)), product, ← zpow_digits]
        exact ten_zpow_lt (by omega)
      exact carried.trans_lt (by exact_mod_cast less)
  · refine iff_of_false (not_lt.mpr ?_) fun both => absurd both.1 (not_lt.mpr above)
    have log := le_log_of_zpow_le above
    refine (ten_zpow_le log).trans (zpow_le_magnitude rounds ?_ ?_)
    · unfold lastPlace
      omega
    · exact_mod_cast Int.zpow_log_le_self (b := 10) (by norm_num) ((ten_zpow_pos m).trans_le above)

/-- Below a power of ten there is room for a last digit. -/
theorem magnitude_le (rounds : RoundsWhole mode) (normal : F.emin < m) (below : F.magnitude mode q < 10 ^ m) :
    F.magnitude mode q ≤ 10 ^ m - 10 ^ (m - F.digits) := by
  have digits := F.digits_pos
  obtain ⟨exact_, carried⟩ := (magnitude_lt_iff rounds normal).mp below
  rcases below_zpow_cases rounds normal exact_ with place | ⟨_, rounded⟩
  · have whole : (mode (|q| / 10 ^ (m - F.digits)) : Rat) + 1 ≤ 10 ^ F.digits := by exact_mod_cast carried
    have scaled := mul_le_mul_of_nonneg_right whole (ten_zpow_pos (m - F.digits)).le
    rw [add_mul, one_mul, ← zpow_digits] at scaled
    unfold magnitude
    rw [place]
    linarith
  · have last := ten_zpow_le (k := m - F.digits) (m := m - 1) (by omega)
    have ten : (10 : Rat) ^ m = 10 * 10 ^ (m - 1) := by
      rw [← zpow_one_add₀ (by norm_num)]
      congr 1
      omega
    have positive := ten_zpow_pos (m - 1)
    linarith

end DecimalFormat

end Lib
