import Mathlib.Algebra.Order.Field.Basic
import Mathlib.Tactic.Linarith
import Mathlib.Tactic.NormNum
import MarketingAgents.Db.Decimal

namespace MarketingAgents

/-- The rounded number is at most a half away, and even where it is a half away. -/
theorem roundHalfEven_spec (x : Rat) :
    (roundHalfEven x : Rat) - 1 / 2 ≤ x ∧ x ≤ roundHalfEven x + 1 / 2 ∧
      (x = roundHalfEven x - 1 / 2 ∨ x = roundHalfEven x + 1 / 2 → roundHalfEven x % 2 = 0) := by
  have low := Int.floor_le x
  have high := Int.lt_floor_add_one x
  unfold roundHalfEven
  split_ifs with down up even
  · refine ⟨by linarith, by linarith, ?_⟩
    rintro (tie | tie) <;> exfalso <;> linarith
  · push_cast
    refine ⟨by linarith, by linarith, ?_⟩
    rintro (tie | tie) <;> exfalso <;> linarith
  · exact ⟨by linarith, by linarith, fun _ => even⟩
  · push_cast
    exact ⟨by linarith, by linarith, fun _ => by omega⟩

/-- Rounding stays below an even number where the value is more than a half below it: the tie goes up. -/
theorem roundHalfEven_lt_iff {x : Rat} {n : Int} (even : n % 2 = 0) : roundHalfEven x < n ↔ x < n - 1 / 2 := by
  obtain ⟨low, high, tie⟩ := roundHalfEven_spec x
  constructor
  · intro less
    have room : (roundHalfEven x : Rat) + 1 ≤ n := by exact_mod_cast less
    refine lt_of_le_of_ne (by linarith) fun same => ?_
    have edge : (roundHalfEven x : Rat) + 1 = n := by linarith
    have odd : roundHalfEven x + 1 = n := by exact_mod_cast edge
    have := tie (Or.inr (by linarith))
    omega
  · intro less
    have below : (roundHalfEven x : Rat) < n := by linarith
    exact_mod_cast below

/-- What is taken from one whole number and given to another is rounded away
together, but for an odd half. -/
theorem roundHalfEven_exchange {x : Rat} {a b : Int} (clear : ∀ k : Int, x ≠ k + 1 / 2) :
    roundHalfEven (a - x) + roundHalfEven (b + x) = a + b := by
  obtain ⟨low, high, _⟩ := roundHalfEven_spec (a - x)
  obtain ⟨low', high', _⟩ := roundHalfEven_spec (b + x)
  have above : (roundHalfEven (b + x) : Rat) - 1 / 2 ≠ b + x := fun tie =>
    clear (roundHalfEven (b + x) - b - 1) (by push_cast; linarith)
  have below : b + x ≠ (roundHalfEven (b + x) : Rat) + 1 / 2 := fun tie =>
    clear (roundHalfEven (b + x) - b) (by push_cast; linarith)
  have least : (roundHalfEven (b + x) : Rat) - 1 / 2 < b + x := lt_of_le_of_ne low' above
  have most : b + x < (roundHalfEven (b + x) : Rat) + 1 / 2 := lt_of_le_of_ne high' below
  have up : ((roundHalfEven (a - x) + roundHalfEven (b + x) : Int) : Rat) < (a + b : Int) + 1 := by
    push_cast
    linarith
  have down : ((a + b : Int) : Rat) - 1 < (roundHalfEven (a - x) + roundHalfEven (b + x) : Int) := by
    push_cast
    linarith
  have lt : roundHalfEven (a - x) + roundHalfEven (b + x) < a + b + 1 := by exact_mod_cast up
  have gt : a + b - 1 < roundHalfEven (a - x) + roundHalfEven (b + x) := by exact_mod_cast down
  omega

theorem quantize_exchange {a b m : Decimal} {places : Nat} (wholeA : ∃ n : Int, a * 10 ^ places = n)
    (wholeB : ∃ n : Int, b * 10 ^ places = n) (clear : ∀ k : Int, m * 10 ^ places ≠ k + 1 / 2) :
    quantize places (a - m) + quantize places (b + m) = a + b := by
  obtain ⟨i, units⟩ := wholeA
  obtain ⟨j, units'⟩ := wholeB
  have power : (10 : Rat) ^ places ≠ 0 := by positivity
  have whole := roundHalfEven_exchange (a := i) (b := j) clear
  rw [quantize, quantize, sub_mul, add_mul, units, units', ← add_div, div_eq_iff power, add_mul, units, units']
  exact_mod_cast whole

/-- A column keeps what has been rounded to its places. -/
theorem numericColumn_quantize (places : Nat) (value : Decimal) :
    numericColumn places (quantize places value) = quantize places value := by
  have power : (10 : Rat) ^ places ≠ 0 := by positivity
  have floored : ∀ n : Int, ⌊(n : Rat) + 1 / 2⌋ = n := fun n => by
    rw [Int.floor_intCast_add]
    norm_num
  unfold numericColumn quantize
  split
  · rw [div_mul_cancel₀ _ power, floored]
  · rw [neg_mul, div_mul_cancel₀ _ power, ← Int.cast_neg, floored]
    push_cast
    ring

end MarketingAgents
