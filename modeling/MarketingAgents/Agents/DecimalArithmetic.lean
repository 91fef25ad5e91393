import MarketingAgents.Agents.StrategyValidator
import MarketingAgents.Lib.DecimalFormat

namespace MarketingAgents

open Lib PyText

/-- The default context of Python's decimals. -/
def decimalContext : DecimalFormat where
  digits := 28
  emin := -999999
  emax := 999999
  digits_pos := by decide
  emin_le := by decide

/-- The size from which on a result overflows when it is rounded to the context. -/
def overflowAt : Rat := (10 ^ 28 - 1 / 2) * 10 ^ (decimalContext.emax + 1 - 28)

/-- What an operation returns; it raises `Overflow` where the context has no room. -/
def inContext (value : Rat) : Except Unit Rat :=
  let rounded := decimalContext.round roundHalfEven value
  if 10 ^ (decimalContext.emax + 1) ≤ |rounded| then .error () else .ok rounded

/-- `(budget * pct / Decimal("100"))` before it is quantized. -/
def shareInContext (budget pct : Rat) : Except Unit Rat := do
  let product ← inContext (budget * pct)
  inContext (product / 100)

namespace ExactDec

/-- The sum as the context holds it. -/
def plus : ExactDec → ExactDec → Except Unit ExactDec
  | .finite a, .finite b => (inContext (a + b)).map .finite
  | a, b => add a b

/-- `abs(a - b)` as the context holds it. -/
def gap : ExactDec → ExactDec → Except Unit ExactDec
  | .finite a, .finite b => (inContext |a - b|).map .finite
  | a, b => distance a b

/-- The share in cents; `quantize` raises on an infinity and where more digits
are left than the context has. -/
def shareOf (budget : Rat) : ExactDec → Except Unit ExactDec
  | .nan => .ok .nan
  | .infinite _ => .error ()
  | .finite pct => do
    let part ← shareInContext budget pct
    if 10 ^ 26 ≤ |numericColumn 2 part| then .error () else .ok (.finite (numericColumn 2 part))

end ExactDec

/-- Python's decimals with the rounding and the exceptions of their context. -/
@[reducible] def contextDecimal [PyText] [DecimalText] : PyDecimal where
  Dec := ExactDec
  ofText := DecimalText.read
  ofRat := .finite
  toText := DecimalText.write
  less := ExactDec.less
  add := ExactDec.plus
  distance := ExactDec.gap
  share := ExactDec.shareOf
  ofText_null := DecimalText.read_null

section Context

theorem roundHalfEven_rounds : RoundsWhole roundHalfEven where
  mono x y le := by
    obtain ⟨_, high, tie⟩ := roundHalfEven_spec x
    obtain ⟨low', high', tie'⟩ := roundHalfEven_spec y
    obtain ⟨low, _, _⟩ := roundHalfEven_spec x
    by_contra above
    have next : (roundHalfEven y : Rat) + 1 ≤ roundHalfEven x := by exact_mod_cast not_le.mp above
    -- then both lie in the middle between the two results, of which one is odd
    have middle : x = roundHalfEven x - 1 / 2 := by linarith
    have middle' : y = roundHalfEven y + 1 / 2 := by linarith
    have adjacent : (roundHalfEven x : Rat) = (roundHalfEven y + 1 : Int) := by push_cast; linarith
    have same : roundHalfEven x = roundHalfEven y + 1 := by exact_mod_cast adjacent
    have even := tie (Or.inl middle)
    have even' := tie' (Or.inr middle')
    omega
  whole n := by simp [roundHalfEven]

theorem magnitude_lt_even {value : Rat} {m : Int} (normal : decimalContext.emin < m) :
    decimalContext.magnitude roundHalfEven value < 10 ^ m ↔ |value| < (10 ^ 28 - 1 / 2) * 10 ^ (m - 28) := by
  have positive := DecimalFormat.ten_zpow_pos (m - 28)
  have whole : (10 : Rat) ^ m = 10 ^ 28 * 10 ^ (m - 28) := DecimalFormat.zpow_digits decimalContext m
  have carried := roundHalfEven_lt_iff (x := |value| / 10 ^ (m - 28)) (n := 10 ^ 28) (by norm_num)
  rw [DecimalFormat.magnitude_lt_iff roundHalfEven_rounds normal]
  change |value| < 10 ^ m ∧ roundHalfEven (|value| / 10 ^ (m - 28)) < 10 ^ 28 ↔ _
  rw [carried, div_lt_iff₀ positive]
  push_cast
  refine and_iff_right_of_imp fun below => ?_
  rw [whole]
  linarith

theorem inContext_ok_iff {value : Rat} : (∃ r, inContext value = .ok r) ↔ |value| < overflowAt := by
  have fits := @magnitude_lt_even value (decimalContext.emax + 1) (by decide)
  unfold inContext overflowAt
  dsimp only
  rw [DecimalFormat.abs_round roundHalfEven_rounds, ← fits]
  split_ifs with large
  · simpa using large
  · simpa using large

theorem inContext_eq_ok {value r : Rat} (done : inContext value = .ok r) :
    |r| = decimalContext.magnitude roundHalfEven value ∧
      |r| ≤ 10 ^ (decimalContext.emax + 1) - 10 ^ (decimalContext.emax + 1 - 28) := by
  unfold inContext at done
  dsimp only at done
  rw [DecimalFormat.abs_round roundHalfEven_rounds] at done
  split_ifs at done with large
  cases done
  rw [DecimalFormat.abs_round roundHalfEven_rounds]
  exact ⟨rfl, DecimalFormat.magnitude_le roundHalfEven_rounds (by decide) (not_le.mp large)⟩

theorem inContext_lt {value r : Rat} (done : inContext value = .ok r) {m : Int} (normal : decimalContext.emin < m) :
    |r| < 10 ^ m ↔ |value| < (10 ^ 28 - 1 / 2) * 10 ^ (m - 28) := by
  rw [(inContext_eq_ok done).1, magnitude_lt_even normal]

theorem inContext_room {value r : Rat} (done : inContext value = .ok r) {m : Int} (normal : decimalContext.emin < m)
    (below : |r| < 10 ^ m) : |r| ≤ 10 ^ m - 10 ^ (m - 28) := by
  rw [(inContext_eq_ok done).1] at below ⊢
  exact DecimalFormat.magnitude_le roundHalfEven_rounds normal below

/-- What the context holds is far from overflowing. -/
theorem lt_overflowAt {value : Rat} (small : |value| < 10 ^ (29 : Int)) : |value| < overflowAt := by
  have power := DecimalFormat.ten_zpow_le (k := 2) (m := decimalContext.emax + 1 - 28) (by decide)
  unfold overflowAt
  norm_num at small power ⊢
  linarith

theorem le_abs_numericColumn_two {value : Rat} {n : Int} (le : (n : Rat) ≤ |value|) : (n : Rat) ≤ |numericColumn 2 value| := by
  have cents : ∀ size : Rat, (n : Rat) ≤ size → (n : Rat) ≤ (⌊size * 10 ^ 2 + 1 / 2⌋ : Rat) / 10 ^ 2 := by
    intro size le
    have whole : n * 100 ≤ ⌊size * 10 ^ 2 + 1 / 2⌋ := by
      rw [Int.le_floor]
      push_cast
      linarith
    have scaled : (n : Rat) * 100 ≤ (⌊size * 10 ^ 2 + 1 / 2⌋ : Rat) := by exact_mod_cast whole
    rw [le_div_iff₀ (by norm_num)]
    linarith
  unfold numericColumn
  split_ifs with sign
  · exact (cents value (by rwa [abs_of_nonneg sign] at le)).trans (le_abs_self _)
  · rw [abs_neg]
    exact (cents (-value) (by rwa [abs_of_neg (not_le.mp sign)] at le)).trans (le_abs_self _)

/-- Cents fit the context where the hundredth that they are rounded from lies below the largest. -/
theorem cents_fit_iff {value part : Rat} (held : inContext value = .ok part) :
    ¬ 10 ^ 26 ≤ |numericColumn 2 part| ↔ |part| < 10 ^ (26 : Int) := by
  constructor
  · intro digits
    by_contra above
    have whole : ((10 ^ 26 : Int) : Rat) ≤ |part| := by
      push_cast
      exact_mod_cast not_lt.mp above
    exact digits (by exact_mod_cast le_abs_numericColumn_two whole)
  · intro below
    have room := inContext_room held (by decide) below
    have rounded := abs_numericColumn_two_sub_le part
    have size := abs_sub_abs_le_abs_sub (numericColumn 2 part) part
    norm_num at room ⊢
    linarith

/-- A hundredth has two digits less before the point, rounded or not. -/
theorem hundredth_lt_iff {value product part : Rat} (held : inContext value = .ok product)
    (divided : inContext (product / 100) = .ok part) : |part| < 10 ^ (26 : Int) ↔ |product| < 10 ^ (28 : Int) := by
  rw [inContext_lt divided (by decide), abs_div]
  constructor
  · intro less
    norm_num at less ⊢
    linarith
  · intro below
    have room := inContext_room held (by decide) below
    norm_num at room ⊢
    linarith

/-- The share fits where the product has no more than the digits of the context before the point. -/
theorem shareOf_ok_iff {budget pct : Rat} :
    (∃ cents, ExactDec.shareOf budget (.finite pct) = .ok cents) ↔ |budget * pct| < 10 ^ 28 - 1 / 2 := by
  have exact_ : ∀ {product}, inContext (budget * pct) = .ok product →
      (|product| < 10 ^ (28 : Int) ↔ |budget * pct| < 10 ^ 28 - 1 / 2) := by
    intro product multiplied
    rw [inContext_lt multiplied (by decide), sub_self, zpow_zero, mul_one]
  simp only [ExactDec.shareOf, shareInContext, bind_eq_ok]
  constructor
  · rintro ⟨cents, part, ⟨product, multiplied, divided⟩, quantized⟩
    split_ifs at quantized with digits
    exact (exact_ multiplied).mp ((hundredth_lt_iff multiplied divided).mp ((cents_fit_iff divided).mp digits))
  · intro small
    obtain ⟨product, multiplied⟩ := inContext_ok_iff.mpr (@lt_overflowAt (budget * pct) (by norm_num at small ⊢; linarith))
    have below := (exact_ multiplied).mpr small
    obtain ⟨part, divided⟩ := inContext_ok_iff.mpr (@lt_overflowAt (product / 100) (by
      rw [abs_div]
      norm_num at below ⊢
      linarith))
    have fits := (cents_fit_iff divided).mpr ((hundredth_lt_iff multiplied divided).mpr below)
    exact ⟨_, part, ⟨product, multiplied, divided⟩, if_neg fits⟩

end Context

end MarketingAgents
