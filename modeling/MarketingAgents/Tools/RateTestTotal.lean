import Mathlib.Data.Rat.Cast.Order
import Mathlib.Tactic.NormNum
import Mathlib.Tactic.Positivity
import MarketingAgents.Db.Binary64
import MarketingAgents.Tools.RateTest

namespace MarketingAgents

open Lib

/-- The facts about `math.sqrt` and `math.log` that decide whether the tool returns. -/
class PyMath.Lawful (K : Type) [Zero K] [One K] [LinearOrder K] [PyMath K] : Prop where
  sqrt_nonneg : ∀ v : K, 0 ≤ v → 0 ≤ PyMath.sqrt v
  sqrt_eq_zero : ∀ v : K, 0 ≤ v → (PyMath.sqrt v = 0 ↔ v = 0)
  log_nonpos : ∀ v : K, 0 < v → v ≤ 1 → PyMath.log v ≤ 0

namespace AbTestingTool

section Pooled

variable {K : Type} [Field K] [LinearOrder K] [IsStrictOrderedRing K]

end Pooled

section Shape

variable {K : Type} [Zero K] [One K] [NatCast K] [IntCast K] [RatCast K] [Neg K] [Add K] [Sub K] [Mul K] [Div K] [Pow K Nat]
  [LinearOrder K] [PyMath K]

omit [NatCast K] [RatCast K] [Neg K] [Pow K Nat] in
theorem pooledError_eq_zero [PyMath.Lawful K] {nA nB : Int} {xA xB : K} :
    pooledError nA xA nB xB = 0 ↔ ¬ 0 < pooledVariance nA xA nB xB := by
  rw [pooledError, PyMath.Lawful.sqrt_eq_zero _ (le_max_right _ _), max_eq_right_iff, not_lt]

/-- The variance of the difference of the rates, each arm by itself. -/
def unpooledVariance (nA : Int) (xA : K) (nB : Int) (xB : K) : K :=
  rateVariance (xA / nA) / nA + rateVariance (xB / nB) / nB

/-- The difference of the rates is significant at the confidence. -/
def Significant (nA : Int) (xA : K) (nB : Int) (xB confidence : K) : Prop :=
  tailP (zScore nA xA nB xB) < 1 - confidence ∧ zScore nA xA nB xB ≠ 0

/-- The call of the evaluator. -/
def rateInputs (sampleA sampleB : Nat × Nat) (confidence : K) : AbInputs K where
  armA := some { n := some sampleA.1, x := some sampleA.2 }
  armB := some { n := some sampleB.1, x := some sampleB.2 }
  metricKind := some "rate"
  confidence := some confidence

end Shape

/-- The call on floats. The numbers of events go through `float` before anything else, and those of recipients
once both arms are known to have some. -/
def floatCall [PyMath Double] (sampleA sampleB : Nat × Nat) (confidence : Double) :
    Except MathError (AbResult Double) := do
  require (sampleA.2 < floatLimit ∧ sampleB.2 < floatLimit) .overflow
  require (sampleA.1 = 0 ∨ sampleB.1 = 0 ∨ sampleA.1 + sampleB.1 < floatLimit) .overflow
  call (rateInputs sampleA sampleB confidence)

section Floats

/-- A Horner sum of floats differs from the exact one by less than the least gap of the coefficients' size. -/
theorem horner_near {coefs : List Rat} (small : ∀ c ∈ coefs, |c| ≤ 165) {x : Double} (nonneg : 0 ≤ x.value)
    (quarter : x.value ≤ 1 / 4) : |(horner coefs x).value - horner coefs x.value| ≤ 1 / 2 ^ 43 := by
  have near : ∀ v : Rat, |v| ≤ 2 ^ 8 → |nearest v - v| ≤ 1 / 2 ^ 45 := fun v within => by
    have rounded := nearest_near within
    norm_num at rounded ⊢
    exact rounded
  have steps : ∀ (rest : List Rat) (acc : Double) (exact : Rat), (∀ c ∈ rest, |c| ≤ 165) → |exact| ≤ 220 →
      |acc.value - exact| ≤ 1 / 2 ^ 43 →
      |(rest.foldl (fun acc (c : Rat) => acc * x + (c : Double)) acc).value -
        rest.foldl (fun acc (c : Rat) => acc * x.value + ((c : Rat) : Rat)) exact| ≤ 1 / 2 ^ 43 := by
    intro rest
    induction rest with
    | nil => exact fun _ _ _ _ close => close
    | cons c rest ih =>
      intro acc exact small large close
      simp only [List.foldl_cons]
      have coef : |c| ≤ 165 := small c (List.mem_cons_self ..)
      rw [abs_le] at coef large close
      have product : |acc.value * x.value| ≤ 56 := abs_le.mpr ⟨by nlinarith, by nlinarith⟩
      have drift : |(acc.value - exact) * x.value| ≤ 1 / 2 ^ 45 := by
        rw [abs_mul, abs_of_nonneg nonneg]
        have gap : |acc.value - exact| ≤ 1 / 2 ^ 43 := abs_le.mpr close
        calc |acc.value - exact| * x.value ≤ 1 / 2 ^ 43 * (1 / 4) :=
              mul_le_mul gap quarter nonneg (by norm_num)
          _ = 1 / 2 ^ 45 := by norm_num
      have multiplied := near (acc.value * x.value) (product.trans (by norm_num))
      have rounded := near c (abs_le.mpr ⟨by linarith, by linarith⟩)
      rw [abs_le] at multiplied rounded product drift
      have added := near (nearest (acc.value * x.value) + nearest c) (abs_le.mpr ⟨by linarith, by linarith⟩)
      rw [abs_le] at added
      refine ih _ _ (fun c here => small c (List.mem_cons_of_mem _ here)) ?_ ?_
      · show |exact * x.value + c| ≤ 220
        exact abs_le.mpr ⟨by nlinarith, by nlinarith⟩
      · rw [Double.value_add, Double.value_mul, Double.value_ratCast]
        show |nearest (nearest (acc.value * x.value) + nearest c) - (exact * x.value + c)| ≤ 1 / 2 ^ 43
        rw [abs_le]
        constructor <;> linarith
  cases coefs with
  | nil => simp [horner]
  | cons c rest =>
    have coef : |c| ≤ 165 := small c (List.mem_cons_self ..)
    refine steps rest c c (fun c here => small c (List.mem_cons_of_mem _ here)) (coef.trans (by norm_num)) ?_
    exact (near c (coef.trans (by norm_num))).trans (by norm_num)

theorem value_half : (1 / 2 : Double).value = 1 / 2 := by
  have half := nearest_grid (k := 1) (e := -1) (by norm_num) (by norm_num)
  norm_num at half
  rw [Double.value_div, Double.value_one, Double.value_ofNat 2 (by norm_num), half]

/-- No number that is one in ten thousand or more vanishes. -/
theorem nearest_pos_of_visible {x : Rat} (visible : 1 / 100000 ≤ x) : 0 < nearest x := by
  have tiny : (2 : Rat) ^ (-537 : Int) ≤ 2 ^ (-17 : Int) := zpow_le_zpow_right₀ (by norm_num) (by norm_num)
  have reached : (2 : Rat) ^ (-17 : Int) ≤ 1 / 100000 := by norm_num
  exact nearest_pos (tiny.trans (reached.trans visible))

theorem intCast_ne_zero {n : Int} (positive : 0 < n) : (n : Double) ≠ 0 := by
  have one : (1 : Rat) ≤ n := by exact_mod_cast positive
  have value : 0 < (n : Double).value := nearest_pos_of_visible (by linarith)
  exact (Double.pos_iff.mpr value).ne'

/-- The denominator of the central region is well above zero there: in powers of the
distance from its end it has positive coefficients only. -/
theorem horner_coefB_low {x : Rat} (nonneg : 0 ≤ x) (inside : x ≤ 2264 / 10000) : 1 / 1000 ≤ horner coefB x := by
  obtain ⟨s, rfl⟩ : ∃ s : Rat, x = 2264 / 10000 - s := ⟨2264 / 10000 - x, by ring⟩
  have s_nonneg : 0 ≤ s := by linarith
  have h2 := pow_nonneg s_nonneg 2
  have h3 := pow_nonneg s_nonneg 3
  have h4 := pow_nonneg s_nonneg 4
  have h5 := pow_nonneg s_nonneg 5
  simp only [horner, coefB, List.foldl_cons, List.foldl_nil, Rat.cast_id]
  norm_num
  linarith

theorem horner_coefB_ne {x : Double} (nonneg : 0 ≤ x.value) (inside : x.value ≤ 2264 / 10000) : horner coefB x ≠ 0 := by
  intro zero
  have coefs : ∀ c ∈ coefB, |c| ≤ 165 := by
    simp [coefB]
    norm_num
  have near := horner_near coefs nonneg (by linarith)
  have low := horner_coefB_low nonneg inside
  rw [zero, Double.value_zero, abs_le] at near
  norm_num at near
  linarith

/-- The denominator of the tails is positive, for none of its coefficients is negative. -/
theorem horner_coefD_ne {x : Double} (nonneg : 0 ≤ x) : horner coefD x ≠ 0 := by
  have stays : ∀ (rest : List Rat) (acc : Double), (∀ c ∈ rest, 1 / 8 ≤ c) → 0 < acc →
      0 < rest.foldl (fun acc (c : Rat) => acc * x + (c : Double)) acc := by
    intro rest
    induction rest with
    | nil => exact fun _ _ positive => positive
    | cons c rest ih =>
      intro acc large positive
      refine ih _ (fun c here => large c (List.mem_cons_of_mem _ here)) ?_
      have coef : 1 / 8 ≤ nearest c := by
        have mono := nearest_mono_of_nonneg (by norm_num) (large c (List.mem_cons_self ..))
        have eighth := nearest_grid (k := 1) (e := -3) (by norm_num) (by norm_num)
        norm_num at eighth
        rwa [eighth] at mono
      have product : 0 ≤ nearest (acc.value * x.value) :=
        nearest_nonneg (mul_nonneg (Double.pos_iff.mp positive).le (Double.nonneg_iff.mp nonneg))
      refine Double.pos_iff.mpr (nearest_pos_of_visible ?_)
      show 1 / 100000 ≤ nearest (acc.value * x.value) + nearest c
      linarith
  refine (stays _ _ ?_ ?_).ne'
  · simp
    norm_num
  · exact Double.pos_iff.mpr (nearest_pos_of_visible (by norm_num))

variable [PyMath Double] [PyMath.Lawful Double]

omit [PyMath Double] [PyMath.Lawful Double] in
theorem two_nonneg : (0 : Double) ≤ 2 := by
  rw [Double.nonneg_iff, Double.value_ofNat 2 (by norm_num)]
  norm_num

theorem sqrt_two_ne : PyMath.sqrt (2 : Double) ≠ 0 := by
  rw [Ne, PyMath.Lawful.sqrt_eq_zero _ two_nonneg]
  intro zero
  have value := congrArg Double.value zero
  rw [Double.value_ofNat 2 (by norm_num), Double.value_zero] at value
  norm_num at value

theorem twoTailedPFromZ_eq (z : Double) : twoTailedPFromZ z = .ok (tailP z) := by
  rw [twoTailedPFromZ, normalCdf, root_eq two_nonneg]
  show ((quotient (absolute z) (PyMath.sqrt 2) >>= _) >>= _) = _
  rw [quotient_eq sqrt_two_ne]
  rfl

/-- The upper tail starts from the root of a number that is not negative, and divides by no zero. -/
theorem tail_returns {p : Double} (positive : 0 < p) (small : p ≤ 1) (numerator : Double → Double) :
    ∃ z, (do
      let log ← ln p
      let q ← root (-2 * log)
      quotient (numerator q) (horner coefD q) : Except MathError Double) = .ok z := by
  have nonneg : 0 ≤ -2 * PyMath.log p := by
    have below := PyMath.Lawful.log_nonpos p positive small
    rw [Double.le_iff, Double.value_zero] at below
    have minus : (-2 : Double).value ≤ 0 := by
      refine nearest_nonpos ?_
      rw [Double.value_ofNat 2 (by norm_num)]
      norm_num
    exact Double.nonneg_iff.mpr (nearest_nonneg (mul_nonneg_of_nonpos_of_nonpos minus below))
  have rooted := PyMath.Lawful.sqrt_nonneg _ nonneg
  refine ⟨numerator (PyMath.sqrt (-2 * PyMath.log p)) / horner coefD (PyMath.sqrt (-2 * PyMath.log p)), ?_⟩
  simp only [bind_eq_ok]
  exact ⟨_, ln_eq positive, _, root_eq nonneg, quotient_eq (horner_coefD_ne rooted)⟩

/-- The inverse of the normal distribution where the tool asks for it: in the upper half, and not at its end. -/
theorem invNormCdf_returns {p : Double} (low : 7 / 10 ≤ p.value) (high : p.value ≤ 99996 / 100000) :
    ∃ z, invNormCdf p = .ok z := by
  have edge : pLow = 97 / 4000 := by norm_num [pLow]
  have positive : 0 < p := Double.pos_iff.mpr (by linarith)
  have below : p < 1 := Double.lt_iff.mpr (by rw [Double.value_one]; linarith)
  have left := nearest_bounds (x := pLow) (by norm_num [edge])
  rw [← Double.value_ratCast] at left
  have above : ¬ p < (pLow : Double) := by
    rw [Double.lt_iff, not_lt]
    linarith
  unfold invNormCdf
  rw [require, if_pos ⟨positive, below⟩]
  show ∃ z, (if p < (pLow : Double) then _ else _) = Except.ok z
  rw [if_neg above]
  split
  · rename_i central
    have right := nearest_bounds (x := 1 - (pLow : Double).value) (abs_le.mpr ⟨by linarith, by linarith⟩)
    rw [Double.le_iff, Double.value_sub, Double.value_one] at central
    have q : (p - 1 / 2).value = nearest (p.value - 1 / 2) := by rw [Double.value_sub, value_half]
    have shifted := nearest_bounds (x := p.value - 1 / 2) (abs_le.mpr ⟨by linarith, by linarith⟩)
    rw [← q] at shifted
    have square : (p - 1 / 2).value * (p - 1 / 2).value ≤ 22635 / 100000 := by nlinarith
    have squared := nearest_bounds (x := (p - 1 / 2).value * (p - 1 / 2).value)
      (abs_le.mpr ⟨by linarith [mul_self_nonneg (p - 1 / 2).value], by linarith⟩)
    refine ⟨_, quotient_eq (horner_coefB_ne (nearest_nonneg (mul_self_nonneg _)) ?_)⟩
    rw [Double.value_mul]
    linarith
  · have rest : (1 - p).value = nearest (1 - p.value) := by rw [Double.value_sub, Double.value_one]
    have near := nearest_bounds (x := 1 - p.value) (abs_le.mpr ⟨by linarith, by linarith⟩)
    refine tail_returns ?_ ?_ fun q => -horner coefC q
    · rw [Double.pos_iff, rest]
      exact nearest_pos_of_visible (by linarith)
    · rw [Double.le_iff, Double.value_one, rest]
      linarith

theorem zCritical_returns {confidence : Double} (low : 1 / 2 ≤ confidence) (high : confidence ≤ 9999 / 10000) :
    ∃ z, zCritical confidence = .ok z := by
  rw [Double.le_iff, value_half] at low
  rw [Double.le_iff, Double.value_div, Double.value_ofNat 9999 (by norm_num), Double.value_ofNat 10000 (by norm_num)] at high
  have top := nearest_bounds (x := 9999 / 10000) (by norm_num [abs_of_pos])
  have alpha : (1 - confidence).value = nearest (1 - confidence.value) := by rw [Double.value_sub, Double.value_one]
  have rest := nearest_bounds (x := 1 - confidence.value) (abs_le.mpr ⟨by linarith, by linarith⟩)
  have half : ((1 - confidence) / 2).value = nearest ((1 - confidence).value / 2) := by
    rw [Double.value_div, Double.value_ofNat 2 (by norm_num)]
  have halved := nearest_bounds (x := (1 - confidence).value / 2) (abs_le.mpr ⟨by linarith, by linarith⟩)
  have whole : (1 - (1 - confidence) / 2).value = nearest (1 - ((1 - confidence) / 2).value) := by
    rw [Double.value_sub, Double.value_one]
  have near := nearest_bounds (x := 1 - ((1 - confidence) / 2).value) (abs_le.mpr ⟨by linarith, by linarith⟩)
  exact invNormCdf_returns (by linarith) (by linarith)

theorem zBeta_returns : ∃ z, invNormCdf (4 / 5 : Double) = .ok z := by
  have near := nearest_bounds (x := 4 / 5) (by norm_num [abs_of_pos])
  have power : (4 / 5 : Double).value = nearest (4 / 5) := by
    rw [Double.value_div, Double.value_ofNat 4 (by norm_num), Double.value_ofNat 5 (by norm_num)]
  exact invNormCdf_returns (by rw [power]; linarith) (by rw [power]; linarith)

omit [PyMath.Lawful Double] in
theorem root_eq_ok {v : Double} : (∃ w, root v = .ok w) ↔ 0 ≤ v := by
  constructor
  · rintro ⟨w, rooted⟩
    by_contra negative
    rw [root_error (not_le.mp negative)] at rooted
    cases rooted
  · exact fun nonneg => ⟨_, root_eq nonneg⟩

/-- The power calculation returns unless it has to take the root of a negative number. -/
theorem minNForProportionPower_returns {pA pB confidence : Double} (low : 1 / 2 ≤ confidence)
    (high : confidence ≤ 9999 / 10000) :
    (∃ n, minNForProportionPower pA pB confidence (4 / 5) = .ok n) ↔ Powered pA pB := by
  unfold minNForProportionPower Powered rateVariance
  by_cases same : pA = pB
  · simp [same]
  · rw [if_neg (by rintro (here | ⟨_, here⟩); exacts [same here, same here.symm]), or_iff_right same]
    obtain ⟨zAlpha, alpha⟩ := zCritical_returns low high
    obtain ⟨zBeta, beta⟩ := zBeta_returns
    constructor
    · rintro ⟨n, done⟩
      simp only [bind_eq_ok] at done
      obtain ⟨_, _, _, _, alphaRoot, mean, betaRoot, sum, _⟩ := done
      exact ⟨root_eq_ok.mp ⟨_, mean⟩, root_eq_ok.mp ⟨_, sum⟩⟩
    · rintro ⟨mean, sum⟩
      simp only [alpha, beta, root_eq mean, root_eq sum, ok_bind]
      split
      · exact ⟨_, rfl⟩
      · rename_i apart
        rw [quotient_eq apart]
        exact ⟨_, rfl⟩

/-- Past its z-score the test raises only where a variance is taken for a negative number. -/
theorem rateOutcome_returns {nA nB : Int} {pA pB z confidence : Double} (low : 1 / 2 ≤ confidence)
    (high : confidence ≤ 9999 / 10000) :
    (∃ r, rateOutcome nA pA nB pB z confidence = .ok r) ↔
      0 ≤ rateVariance pA / nA + rateVariance pB / nB ∧ (tailP z < 1 - confidence ∧ z ≠ 0 ∨ Powered pA pB) := by
  obtain ⟨zAlpha, alpha⟩ := zCritical_returns low high
  rw [rateOutcome, twoTailedPFromZ_eq, ok_bind, alpha, ok_bind]
  by_cases nonneg : 0 ≤ rateVariance pA / nA + rateVariance pB / nB
  · rw [root_eq nonneg, ok_bind, and_iff_right nonneg]
    by_cases significant : tailP z < 1 - confidence ∧ z ≠ 0
    · simp only [if_pos significant]
      exact iff_of_true ⟨_, rfl⟩ (Or.inl significant)
    · simp only [if_neg significant, or_iff_right significant]
      rw [← minNForProportionPower_returns low high]
      constructor
      · rintro ⟨r, done⟩
        obtain ⟨n, sized, _⟩ := bind_eq_ok.mp done
        exact ⟨n, sized⟩
      · rintro ⟨n, sized⟩
        rw [sized, ok_bind]
        split <;> exact ⟨_, rfl⟩
  · rw [root_error (not_le.mp nonneg)]
    refine iff_of_false ?_ fun holds => nonneg holds.1
    rintro ⟨_, done⟩
    cases done

/-- For which samples of assigned recipients and attributed events the rate test on floats returns: where no count is
too large for a float, and an arm is empty, or the pooled variance comes to no positive number, or that of the
difference comes to none below zero and the test is decided, or can take the roots of its power calculation. -/
theorem rate_test_returns_iff (nA xA nB xB : Nat) {confidence : Double} (low : 1 / 2 ≤ confidence)
    (high : confidence ≤ 9999 / 10000) :
    (∃ r, floatCall (nA, xA) (nB, xB) confidence = .ok r) ↔
      (xA < floatLimit ∧ xB < floatLimit) ∧ (nA = 0 ∨ nB = 0 ∨ nA + nB < floatLimit ∧
        (¬ 0 < pooledVariance nA (xA : Double) nB xB ∨
          0 ≤ unpooledVariance nA (xA : Double) nB xB ∧ (Significant nA (xA : Double) nB xB confidence ∨
            Powered ((xA : Double) / (nA : Int)) ((xB : Double) / (nB : Int))))) := by
  have unfolded : call (rateInputs (nA, xA) (nB, xB) confidence) =
      twoProportionTest (nA : Int) (xA : Double) (nB : Int) (xB : Double) confidence := rfl
  simp only [floatCall, bind_eq_ok, require_eq_ok, unfolded, exists_and_left, exists_const]
  refine and_congr_right fun _ => ?_
  by_cases empty : nA = 0 ∨ nB = 0
  · rw [twoProportionTest, if_pos (by omega)]
    exact iff_of_true ⟨by tauto, _, rfl⟩ (by tauto)
  · have posA : 0 < (nA : Int) := by omega
    have posB : 0 < (nB : Int) := by omega
    rw [twoProportionTest_filled posA posB (intCast_ne_zero posA) (intCast_ne_zero posB) (intCast_ne_zero (by omega))]
    have filled : ∀ P : Prop, (nA = 0 ∨ nB = 0 ∨ P) ↔ P := fun P => by tauto
    rw [filled, filled]
    refine and_congr_right fun _ => ?_
    by_cases degenerate : pooledError (nA : Int) (xA : Double) (nB : Int) (xB : Double) = 0
    · rw [if_pos degenerate]
      exact iff_of_true ⟨_, rfl⟩ (Or.inl (pooledError_eq_zero.mp degenerate))
    · rw [if_neg degenerate, rateOutcome_returns low high]
      rw [pooledError_eq_zero, not_not] at degenerate
      exact (or_iff_right (not_not.mpr degenerate)).symm

omit [PyMath Double] [PyMath.Lawful Double] in
/-- A rate is between zero and one where there are no more events than recipients. -/
theorem rate_bounds {n x : Nat} (once : x ≤ n) :
    0 ≤ ((x : Double) / ((n : Int) : Double)).value ∧ ((x : Double) / ((n : Int) : Double)).value ≤ 1 := by
  have events : (0 : Rat) ≤ x := Nat.cast_nonneg x
  have ordered : nearest x ≤ nearest ((n : Int) : Rat) := by
    exact_mod_cast nearest_mono_of_nonneg events (Nat.cast_le.mpr once)
  have nonneg : 0 ≤ nearest x / nearest ((n : Int) : Rat) := div_nonneg (nearest_nonneg events) (nearest_nonneg (by simp))
  have most : nearest x / nearest ((n : Int) : Rat) ≤ 1 := div_le_one_of_le₀ ordered (nearest_nonneg (by simp))
  have one : nearest 1 = 1 := by exact_mod_cast nearest_intCast (n := 1) (by norm_num)
  exact ⟨nearest_nonneg nonneg, (nearest_mono_of_nonneg nonneg most).trans_eq one⟩

omit [PyMath Double] [PyMath.Lawful Double] in
theorem rateVariance_nonneg {p : Double} (low : 0 ≤ p.value) (high : p.value ≤ 1) : 0 ≤ (rateVariance p).value := by
  have rest : 0 ≤ (1 - p).value := by
    rw [Double.value_sub, Double.value_one]
    exact nearest_nonneg (by linarith)
  exact nearest_nonneg (mul_nonneg low rest)

omit [PyMath Double] [PyMath.Lawful Double] in
theorem powered_of_rates {pA pB : Double} (lowA : 0 ≤ pA.value) (highA : pA.value ≤ 1) (lowB : 0 ≤ pB.value)
    (highB : pB.value ≤ 1) : Powered pA pB := by
  have sum : 0 ≤ pA.value + pB.value := by linarith
  have two : nearest 2 = 2 := by exact_mod_cast nearest_intCast (n := 2) (by norm_num)
  have one : nearest 1 = 1 := by exact_mod_cast nearest_intCast (n := 1) (by norm_num)
  have total : (pA + pB).value ≤ 2 := (nearest_mono_of_nonneg sum (by linarith)).trans_eq two
  have doubled : (2 : Double).value = 2 := Double.value_ofNat 2 (by norm_num)
  have low : 0 ≤ (pA + pB).value / (2 : Double).value := div_nonneg (nearest_nonneg sum) (by rw [doubled]; norm_num)
  have mean : ((pA + pB) / 2).value ≤ 1 := by
    refine (nearest_mono_of_nonneg low ?_).trans_eq one
    rw [doubled]
    linarith
  refine Or.inr ⟨Double.nonneg_iff.mpr (nearest_nonneg (mul_nonneg (nearest_nonneg (mul_nonneg ?_ (nearest_nonneg low))) ?_)),
    Double.nonneg_iff.mpr (nearest_nonneg (add_nonneg (rateVariance_nonneg lowA highA) (rateVariance_nonneg lowB highB)))⟩
  · rw [doubled]
    norm_num
  · rw [Double.value_sub, Double.value_one]
    exact nearest_nonneg (by linarith)

/-- So it returns for all samples without repeated events. -/
theorem floatCall_of_single_events {nA xA nB xB : Nat} {confidence : Double} (low : 1 / 2 ≤ confidence)
    (high : confidence ≤ 9999 / 10000) (onceA : xA ≤ nA) (onceB : xB ≤ nB) (small : nA + nB < floatLimit) :
    ∃ r, floatCall (nA, xA) (nB, xB) confidence = .ok r := by
  obtain ⟨lowA, highA⟩ := rate_bounds onceA
  obtain ⟨lowB, highB⟩ := rate_bounds onceB
  have sizes : ∀ n : Nat, 0 ≤ ((n : Int) : Double).value := fun n => nearest_nonneg (by simp)
  refine (rate_test_returns_iff nA xA nB xB low high).mpr ⟨⟨by omega, by omega⟩, Or.inr (Or.inr ⟨small, Or.inr ⟨?_, ?_⟩⟩)⟩
  · exact Double.nonneg_iff.mpr (nearest_nonneg (add_nonneg
      (nearest_nonneg (div_nonneg (rateVariance_nonneg lowA highA) (sizes _)))
      (nearest_nonneg (div_nonneg (rateVariance_nonneg lowB highB) (sizes _)))))
  · exact Or.inr (powered_of_rates lowA highA lowB highB)

end Floats

end AbTestingTool

/-- A root to sixty places, no less than that of the least float. -/
def rootOf (x : Rat) : Rat := max ((Nat.sqrt (x.num.toNat * x.den * 4 ^ 60) : Rat) / (x.den * 2 ^ 60)) (2 ^ (-537 : Int))

/-- Roots, and the error function where it has come to its limits: what the closed runs on floats need,
which take no logarithm. -/
@[reducible] def PyMath.floats : PyMath Double where
  sqrt v := if v ≤ 0 then 0 else Double.of (rootOf v.value)
  log v := v - 1
  erf v := if 6 ≤ v then 1 else if v ≤ -6 then -1 else v / 6
  ceil v := ⌈v.value⌉

namespace RepeatedOpens

open AbTestingTool

local instance floatMath : PyMath Double := PyMath.floats

theorem sqrt_pos {v : Double} (positive : 0 < v) : 0 < PyMath.sqrt v := by
  have root : PyMath.sqrt v = Double.of (rootOf v.value) := if_neg (not_le.mpr positive)
  rw [root]
  exact Double.pos_iff.mpr (nearest_pos (le_max_right _ _))

local instance floatLawful : PyMath.Lawful Double where
  sqrt_nonneg v nonneg := by
    rcases nonneg.eq_or_lt with rfl | positive
    · exact (if_pos le_rfl : PyMath.sqrt (0 : Double) = 0).ge
    · exact (sqrt_pos positive).le
  sqrt_eq_zero v nonneg := by
    rcases nonneg.eq_or_lt with rfl | positive
    · exact iff_of_true (if_pos le_rfl) rfl
    · exact iff_of_false (sqrt_pos positive).ne' positive.ne'
  log_nonpos v _ small := by
    have low : v.value ≤ (1 : Double).value := small
    have rounded : nearest (v.value - (1 : Double).value) ≤ 0 := nearest_nonpos (by linarith)
    exact Double.le_iff.mpr (rounded.trans_eq Double.value_zero.symm)

theorem common_confidence : (1 / 2 : Double) ≤ 19 / 20 ∧ (19 / 20 : Double) ≤ 9999 / 10000 := by decide +kernel

/-- Ten recipients open fifteen times: the arm's variance is negative, and so is the sum under the root. -/
theorem repeated_opens_raise : ¬ ∃ r, floatCall (10, 15) (10, 1) (19 / 20) = .ok r := by
  have mixed : 0 < pooledVariance 10 ((15 : Nat) : Double) 10 ((1 : Nat) : Double) := by decide +kernel
  have negative : ¬ 0 ≤ unpooledVariance 10 ((15 : Nat) : Double) 10 ((1 : Nat) : Double) := by decide +kernel
  rw [rate_test_returns_iff 10 15 10 1 common_confidence.1 common_confidence.2]
  rintro ⟨_, empty | empty | ⟨_, alike | ⟨nonneg, _⟩⟩⟩
  · cases empty
  · cases empty
  · exact alike mixed
  · exact negative nonneg

/-- Of these samples the variances cancel, and the sum of the floats is less than zero. -/
example : unpooledVariance 9 (10 : Rat) 18 8 = 0 ∧ unpooledVariance 9 ((10 : Nat) : Double) 18 ((8 : Nat) : Double) < 0 := by
  decide +kernel

/-- Ten of a hundred against ninety: the difference is significant. -/
theorem single_opens_return : ∃ r, floatCall (100, 10) (100, 90) (19 / 20) = .ok r := by
  refine (rate_test_returns_iff 100 10 100 90 common_confidence.1 common_confidence.2).mpr
    ⟨⟨?_, ?_⟩, Or.inr (Or.inr ⟨?_, Or.inr ⟨?_, Or.inl ⟨?_, ?_⟩⟩⟩)⟩ <;> decide +kernel

end RepeatedOpens

end MarketingAgents
