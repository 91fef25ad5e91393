import Mathlib.Data.Int.Log
import MarketingAgents.Db.Rounding

namespace MarketingAgents

/-- What the last of the 53 bits of a float of the size of the number stands for. -/
def lastBit (x : Rat) : Rat := 2 ^ (Int.log 2 |x| - 52)

/-- The float nearest to a number, the even one of two, where that is neither
subnormal nor infinite. -/
def toFloat (x : Rat) : Rat := roundHalfEven (x / lastBit x) * lastBit x

theorem lastBit_pos (x : Rat) : 0 < lastBit x := zpow_pos (by norm_num) _

theorem roundHalfEven_le {x : Rat} {n : Int} (le : x ≤ n) : roundHalfEven x ≤ n := by
  have low := (roundHalfEven_spec x).1
  have near : (roundHalfEven x : Rat) < n + 1 := by linarith
  have less : roundHalfEven x < n + 1 := by exact_mod_cast near
  omega

theorem roundHalfEven_nonneg {x : Rat} (nonneg : 0 ≤ x) : 0 ≤ roundHalfEven x := by
  have high := (roundHalfEven_spec x).2.1
  have near : (-1 : Rat) < roundHalfEven x := by linarith
  have less : -1 < roundHalfEven x := by exact_mod_cast near
  omega

theorem toFloat_nonneg {x : Rat} (nonneg : 0 ≤ x) : 0 ≤ toFloat x := by
  have whole : (0 : Rat) ≤ roundHalfEven (x / lastBit x) := by
    exact_mod_cast roundHalfEven_nonneg (div_nonneg nonneg (lastBit_pos x).le)
  exact mul_nonneg whole (lastBit_pos x).le

/-- Rounding does not pass a whole number of at most 53 bits. -/
theorem toFloat_le {x : Rat} {n : Nat} (nonneg : 0 ≤ x) (le : x ≤ n) (small : n < 2 ^ 53) : toFloat x ≤ n := by
  rcases nonneg.eq_or_lt with rfl | positive
  · have none : roundHalfEven 0 = 0 :=
      le_antisymm (roundHalfEven_le (n := 0) (by norm_num)) (roundHalfEven_nonneg le_rfl)
    rw [toFloat, zero_div, none, Int.cast_zero, zero_mul]
    exact le
  · have log : Int.log 2 |x| ≤ 52 := by
      have mono := Int.log_mono_right (b := 2) positive le
      rw [Int.log_natCast] at mono
      have bits : Nat.log 2 n < 53 := Nat.log_lt_of_lt_pow' (by decide) small
      rw [abs_of_pos positive]
      omega
    -- the bound is a whole number of last bits
    obtain ⟨k, shift⟩ := Int.eq_ofNat_of_zero_le (by omega : 0 ≤ 52 - Int.log 2 |x|)
    have bit : lastBit x * 2 ^ k = 1 := by
      unfold lastBit
      rw [← zpow_natCast, ← zpow_add₀ (by norm_num)]
      have none : Int.log 2 |x| - 52 + k = 0 := by omega
      rw [none, zpow_zero]
    have grid : (n : Rat) = (n * 2 ^ k : Nat) * lastBit x := by
      push_cast
      rw [mul_assoc, mul_comm (2 ^ k : Rat), bit, mul_one]
    have scaled : x / lastBit x ≤ ((n * 2 ^ k : Nat) : Int) := by
      rw [div_le_iff₀ (lastBit_pos x)]
      push_cast at grid ⊢
      rw [← grid]
      exact le
    have whole : (roundHalfEven (x / lastBit x) : Rat) ≤ (n * 2 ^ k : Nat) := by
      exact_mod_cast roundHalfEven_le scaled
    calc toFloat x = roundHalfEven (x / lastBit x) * lastBit x := rfl
      _ ≤ (n * 2 ^ k : Nat) * lastBit x := mul_le_mul_of_nonneg_right whole (lastBit_pos x).le
      _ = n := grid.symm

/-- `round(x, places)` of a float. -/
def roundFloat (places : Nat) (x : Rat) : Rat := toFloat (quantize places x)

theorem roundFloat_between {x : Rat} {n : Nat} (nonneg : 0 ≤ x) (le : x ≤ n) (small : n < 2 ^ 53) (places : Nat) :
    0 ≤ roundFloat places x ∧ roundFloat places x ≤ n := by
  have power : (0 : Rat) < 10 ^ places := by positivity
  have whole : (0 : Rat) ≤ roundHalfEven (x * 10 ^ places) := by
    exact_mod_cast roundHalfEven_nonneg (mul_nonneg nonneg power.le)
  have low : 0 ≤ quantize places x := div_nonneg whole power.le
  have scaled : x * 10 ^ places ≤ ((n * 10 ^ places : Nat) : Int) := by
    push_cast
    exact mul_le_mul_of_nonneg_right le power.le
  have high : quantize places x ≤ n := by
    have most : (roundHalfEven (x * 10 ^ places) : Rat) ≤ ((n * 10 ^ places : Nat) : Int) := by
      exact_mod_cast roundHalfEven_le scaled
    rw [quantize, div_le_iff₀ power]
    push_cast at most
    exact most
  exact ⟨toFloat_nonneg low, toFloat_le low high small⟩

end MarketingAgents
