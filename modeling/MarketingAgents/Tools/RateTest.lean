import Mathlib.Data.Real.Basic
import Mathlib.Tactic.Linarith
import Mathlib.Tactic.Ring
import MarketingAgents.Tools.AbTesting

namespace MarketingAgents

open Lib

def ArmName.other : ArmName → ArmName
  | .a => .b
  | .b => .a

/-- The result of the swapped call, as far as it does not depend on which arm is the baseline. -/
structure AbResult.Mirrored {K : Type} [Neg K] (r r' : AbResult K) : Prop where
  pValue : r'.pValue = r.pValue
  decision : r'.decision = r.decision
  minNForPower : r'.minNForPower = r.minNForPower
  winnerArm : r'.winnerArm = r.winnerArm.map ArmName.other
  confidenceInterval : r'.confidenceInterval = (-r.confidenceInterval.2, -r.confidenceInterval.1)

namespace AbTestingTool

theorem ok_bind {α β : Type} (a : α) (f : α → Except MathError β) : (Except.ok a >>= f) = f a := rfl

section Guards

variable {K : Type} [Zero K] [LinearOrder K]

theorem quotient_eq [Div K] {v w : K} (nonzero : w ≠ 0) : quotient v w = .ok (v / w) := if_neg nonzero

variable [PyMath K]

theorem root_eq {v : K} (nonneg : 0 ≤ v) : root v = .ok (PyMath.sqrt v) := if_neg (not_lt.mpr nonneg)

theorem root_error {v : K} (negative : v < 0) : root v = .error .valueError := if_pos negative

theorem ln_eq {v : K} (positive : 0 < v) : ln v = .ok (PyMath.log v) := if_neg (not_le.mpr positive)

end Guards

section Shape

variable {K : Type} [Zero K] [One K] [NatCast K] [IntCast K] [RatCast K] [Neg K] [Add K] [Sub K] [Mul K] [Div K] [Pow K Nat]
  [LinearOrder K] [PyMath K]

/-- The variance under which the two rates are alike. -/
def pooledVariance (nA : Int) (xA : K) (nB : Int) (xB : K) : K :=
  rateVariance ((xA + xB) / (nA + nB : Int)) * (1 / nA + 1 / nB)

/-- The deviation of the null hypothesis, as the code computes it. -/
def pooledError (nA : Int) (xA : K) (nB : Int) (xB : K) : K := PyMath.sqrt (max (pooledVariance nA xA nB xB) 0)

def zScore (nA : Int) (xA : K) (nB : Int) (xB : K) : K := (xB / nB - xA / nA) / pooledError nA xA nB xB

/-- With both arms filled, and by numbers that are not zero, the quotients by their sizes are the plain ones. -/
theorem twoProportionTest_filled {nA nB : Int} (posA : 0 < nA) (posB : 0 < nB) (castA : (nA : K) ≠ 0) (castB : (nB : K) ≠ 0)
    (total : ((nA + nB : Int) : K) ≠ 0) (xA xB confidence : K) :
    twoProportionTest nA xA nB xB confidence =
      if pooledError nA xA nB xB = 0 then .ok (inconclusive "degenerate" 0)
      else rateOutcome nA (xA / nA) nB (xB / nB) (zScore nA xA nB xB) confidence := by
  have filled : ¬ (nA ≤ 0 ∨ nB ≤ 0) := by omega
  have denom : root (max (pooledVariance nA xA nB xB) 0) = .ok (pooledError nA xA nB xB) := root_eq (le_max_right _ _)
  rw [pooledVariance, rateVariance] at denom
  rw [twoProportionTest, if_neg filled]
  simp only [quotient_eq castA, quotient_eq castB, quotient_eq total, ok_bind, denom]
  by_cases degenerate : pooledError nA xA nB xB = 0
  · rw [if_pos degenerate, if_pos degenerate]
    rfl
  · rw [if_neg degenerate, if_neg degenerate, quotient_eq degenerate]
    rfl

end Shape

section Exact

variable {K : Type} [Field K] [LinearOrder K] [PyMath K]

theorem twoProportionTest_eq [IsStrictOrderedRing K] {nA nB : Int} (posA : 0 < nA) (posB : 0 < nB)
    (xA xB confidence : K) :
    twoProportionTest nA xA nB xB confidence =
      if pooledError nA xA nB xB = 0 then .ok (inconclusive "degenerate" 0)
      else rateOutcome nA (xA / nA) nB (xB / nB) (zScore nA xA nB xB) confidence :=
  twoProportionTest_filled posA posB (Int.cast_ne_zero.mpr posA.ne') (Int.cast_ne_zero.mpr posB.ne')
    (Int.cast_ne_zero.mpr (by omega)) xA xB confidence

omit [LinearOrder K] [PyMath K] in
theorem pooledVariance_swap (nA : Int) (xA : K) (nB : Int) (xB : K) :
    pooledVariance nB xB nA xA = pooledVariance nA xA nB xB := by
  rw [pooledVariance, pooledVariance, add_comm xB, add_comm nB, add_comm (1 / (nB : K))]

end Exact

section Swap

/-- The second call raises what the first one raises, and returns the mirrored result. -/
def Swapped {K : Type} [Neg K] (call call' : Except MathError (AbResult K)) : Prop :=
  (∀ r, call = .ok r → ∃ r', call' = .ok r' ∧ r.Mirrored r') ∧ ∀ error, call = .error error → call' = .error error

theorem Swapped.ok {K : Type} [Neg K] {r r' : AbResult K} (mirrored : r.Mirrored r') : Swapped (.ok r) (.ok r') :=
  ⟨fun _ done => Except.ok.inj done ▸ ⟨r', rfl, mirrored⟩, fun _ failed => (nomatch failed)⟩

/-- What both calls compute alike they may raise alike. -/
theorem Swapped.bind {K α : Type} [Neg K] {x : Except MathError α} {f g : α → Except MathError (AbResult K)}
    (each : ∀ a, Swapped (f a) (g a)) : Swapped (x >>= f) (x >>= g) := by
  cases x with
  | error error => exact ⟨fun _ done => (nomatch done), fun _ failed => failed⟩
  | ok a => exact each a

variable {K : Type} [Field K]

theorem inconclusive_mirrored (reason : String) (lift lift' : K) :
    (inconclusive reason lift).Mirrored (inconclusive reason lift') :=
  ⟨rfl, rfl, rfl, rfl, by simp [inconclusive]⟩

variable [LinearOrder K] [PyMath K]

theorem zScore_swap (nA : Int) (xA : K) (nB : Int) (xB : K) : zScore nB xB nA xA = -zScore nA xA nB xB := by
  rw [zScore, zScore, pooledError, pooledError, pooledVariance_swap, ← neg_div, neg_sub]

theorem minNForProportionPower_swap (pA pB confidence power : K) :
    minNForProportionPower pB pA confidence power = minNForProportionPower pA pB confidence power := by
  have same : (pB = pA ∨ (pB = 0 ∨ pB = 1) ∧ pA = pB) ↔ (pA = pB ∨ (pA = 0 ∨ pA = 1) ∧ pB = pA) := by
    constructor
    · rintro (here | ⟨_, here⟩)
      exacts [Or.inl here.symm, Or.inl here]
    · rintro (here | ⟨_, here⟩)
      exacts [Or.inl here.symm, Or.inl here]
  have square : (pB - pA) ^ 2 = (pA - pB) ^ 2 := by ring
  simp only [minNForProportionPower, same, add_comm pB pA, add_comm (pB * (1 - pB)), square]

theorem rateOutcome_swap {nA nB : Int} {pA pB z : K} (confidence : K) (apart : z ≠ 0 → pA ≠ pB) :
    Swapped (rateOutcome nA pA nB pB z confidence) (rateOutcome nB pB nA pA (-z) confidence) := by
  have tail : twoTailedPFromZ (-z) = twoTailedPFromZ z := by
    rw [twoTailedPFromZ, twoTailedPFromZ, absolute, absolute, neg_neg, max_comm]
  rw [rateOutcome, rateOutcome, tail, add_comm (rateVariance pB / nB), minNForProportionPower_swap]
  refine .bind fun pValue => .bind fun zAlpha => .bind fun seUnpooled => ?_
  have interval : (pA - pB - zAlpha * seUnpooled, pA - pB + zAlpha * seUnpooled) =
      (-(pB - pA + zAlpha * seUnpooled), -(pB - pA - zAlpha * seUnpooled)) :=
    Prod.ext (by ring) (by ring)
  simp only [neg_ne_zero]
  by_cases significant : pValue < 1 - confidence ∧ z ≠ 0
  · rw [if_pos significant, if_pos significant]
    refine .ok ⟨rfl, rfl, rfl, ?_, interval⟩
    rcases lt_or_gt_of_ne (apart significant.2) with less | greater
    · simp [less, less.not_gt, ArmName.other]
    · simp [greater, greater.not_gt, ArmName.other]
  · rw [if_neg significant, if_neg significant]
    refine .bind fun minN => ?_
    by_cases short : nA < minN ∨ nB < minN
    · rw [if_pos short, if_pos (Or.comm.mp short)]
      exact .ok ⟨rfl, rfl, rfl, rfl, interval⟩
    · rw [if_neg short, if_neg (mt Or.comm.mp short)]
      exact .ok ⟨rfl, rfl, rfl, rfl, interval⟩

/-- Swapping the arms mirrors the test: the same p-value, decision and sample size,
the other winner, and the interval of the opposite difference. The arithmetic is
that of an ordered field, where the pooled rate does not tell the arms apart. -/
theorem twoProportionTest_swap [IsStrictOrderedRing K] (nA : Int) (xA : K) (nB : Int) (xB confidence : K) :
    Swapped (twoProportionTest nA xA nB xB confidence) (twoProportionTest nB xB nA xA confidence) := by
  by_cases empty : nA ≤ 0 ∨ nB ≤ 0
  · rw [twoProportionTest, if_pos empty, twoProportionTest, if_pos (Or.comm.mp empty)]
    exact .ok (inconclusive_mirrored _ _ _)
  · rw [not_or, not_le, not_le] at empty
    rw [twoProportionTest_eq empty.1 empty.2, twoProportionTest_eq empty.2 empty.1, zScore_swap nA xA nB xB]
    have same : pooledError nB xB nA xA = pooledError nA xA nB xB := by
      rw [pooledError, pooledError, pooledVariance_swap]
    rw [same]
    by_cases degenerate : pooledError nA xA nB xB = 0
    · rw [if_pos degenerate, if_pos degenerate]
      exact .ok (inconclusive_mirrored _ _ _)
    · rw [if_neg degenerate, if_neg degenerate]
      refine rateOutcome_swap confidence fun nonzero equal => nonzero ?_
      rw [zScore, equal, sub_self, zero_div]

end Swap

end AbTestingTool

namespace Landslide

open AbTestingTool

local instance landslideMath : PyMath Rat := PyMath.plain

/-- Eighty opens of eight hundred against seven hundred and twenty: the second arm wins, and the first after the swap. -/
theorem swapped_landslide :
    ((twoProportionTest 800 80 800 720 (19 / 20 : Rat)).toOption.map AbResult.winnerArm = some (some .b)) ∧
      Swapped (twoProportionTest 800 80 800 720 (19 / 20 : Rat)) (twoProportionTest 800 720 800 80 (19 / 20)) :=
  ⟨by decide +kernel, twoProportionTest_swap 800 80 800 720 (19 / 20)⟩

end Landslide

end MarketingAgents
