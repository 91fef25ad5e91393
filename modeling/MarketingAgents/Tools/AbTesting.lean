import Mathlib.Algebra.Order.Field.Basic
import Mathlib.Algebra.Order.Floor.Defs
import Mathlib.Data.Rat.Cast.Defs
import Mathlib.Data.Rat.Floor
import Mathlib.Data.Rat.Sqrt
import MarketingAgents.Lib.Result

namespace MarketingAgents

open Lib

/-- What the tool uses of Python's `math`, on the numbers it computes with: exact ones, or floats. -/
class PyMath (K : Type) where
  sqrt : K → K
  log : K → K
  erf : K → K
  ceil : K → Int

inductive MathError where
  /-- `math domain error`, and a probability outside of (0, 1). -/
  | valueError
  | zeroDivision
  /-- `int too large to convert to float`. -/
  | overflow
deriving DecidableEq

/-- `float("inf")` is what the lift over an arm without successes comes to. -/
inductive Lift (K : Type) where
  | finite (value : K)
  | infinite
deriving DecidableEq

inductive ToolDecision where
  | winner
  | loser
  | inconclusive
deriving DecidableEq

inductive ArmName where
  | a
  | b
deriving DecidableEq

/-- What the tool returns; a key that an exit leaves out is `none`. -/
structure AbResult (K : Type) where
  pValue : K
  lift : Lift K
  confidenceInterval : K × K
  decision : ToolDecision
  winnerArm : Option ArmName := none
  minNForPower : Option Int := none
  degreesOfFreedom : Option K := none
  reason : Option String := none
deriving DecidableEq

/-- `inputs["arm_a"]`. -/
structure ArmInput (K : Type) where
  n : Option Int := none
  x : Option K := none
  mean : Option K := none
  variance : Option K := none

structure AbInputs (K : Type) where
  armA : Option (ArmInput K) := none
  armB : Option (ArmInput K) := none
  metricKind : Option String := none
  confidence : Option K := none

namespace AbTestingTool

variable {K : Type} [Zero K] [One K] [NatCast K] [IntCast K] [RatCast K] [Neg K] [Add K] [Sub K] [Mul K] [Div K] [Pow K Nat]
  [LinearOrder K] [PyMath K]

/-- The variance of an outcome of this rate; negative past one. -/
def rateVariance (p : K) : K := p * (1 - p)

def root (v : K) : Except MathError K := if v < 0 then .error .valueError else .ok (PyMath.sqrt v)

def ln (v : K) : Except MathError K := if v ≤ 0 then .error .valueError else .ok (PyMath.log v)

def quotient (v w : K) : Except MathError K := if w = 0 then .error .zeroDivision else .ok (v / w)

/-- `abs(v)`. -/
def absolute (v : K) : K := max v (-v)

/-- `_normal_cdf`. -/
def normalCdf (z : K) : Except MathError K := do
  let two ← root 2
  let scaled ← quotient z two
  pure (1 / 2 * (1 + PyMath.erf scaled))

/-- A polynomial by Horner's rule, its highest coefficient first. -/
def horner : List Rat → K → K
  | [], _ => 0
  | c :: rest, x => rest.foldl (fun acc (c : Rat) => acc * x + (c : K)) (c : K)

def coefA : List Rat :=
  [-39.69683028665376, 220.9460984245205, -275.9285104469687, 138.3577518672690, -30.66479806614716, 2.506628277459239]

/-- The denominator of the central region, with its constant term. -/
def coefB : List Rat :=
  [-54.47609879822406, 161.5858368580409, -155.6989798598866, 66.80131188771972, -13.28068155288572, 1]

def coefC : List Rat :=
  [-0.007784894002430293, -0.3223964580411365, -2.400758277161838, -2.549732539343734, 4.374664141464968,
    2.938163982698783]

/-- The denominator of the tails, with its constant term. -/
def coefD : List Rat := [0.007784695709041462, 0.3224671290700398, 2.445134137142996, 3.754408661907416, 1]

def pLow : Rat := 0.02425

/-- `_inv_norm_cdf`. -/
def invNormCdf (p : K) : Except MathError K := do
  require (0 < p ∧ p < 1) MathError.valueError
  if p < (pLow : K) then
    let log ← ln p
    let q ← root (-2 * log)
    quotient (horner coefC q) (horner coefD q)
  else if p ≤ 1 - (pLow : K) then
    let q := p - 1 / 2
    let r := q * q
    quotient (horner coefA r * q) (horner coefB r)
  else
    let log ← ln (1 - p)
    let q ← root (-2 * log)
    quotient (-horner coefC q) (horner coefD q)

/-- `_z_critical`. -/
def zCritical (confidence : K) : Except MathError K :=
  let alpha := 1 - confidence
  invNormCdf (1 - alpha / 2)

/-- `_two_tailed_p_from_z`. -/
def twoTailedPFromZ (z : K) : Except MathError K := do
  let cdf ← normalCdf (absolute z)
  pure (2 * (1 - cdf))

/-- The two-tailed p-value of a deviation. -/
def tailP (z : K) : K := 2 * (1 - 1 / 2 * (1 + PyMath.erf (absolute z / PyMath.sqrt 2)))

/-- `_min_n_for_proportion_power`, whose second condition the first one covers. -/
def minNForProportionPower (pA pB confidence power : K) : Except MathError Int :=
  if pA = pB ∨ (pA = 0 ∨ pA = 1) ∧ pB = pA then .ok 10000000
  else do
    let zAlpha ← zCritical confidence
    let zBeta ← invNormCdf power
    let pooled := (pA + pB) / 2
    let alphaRoot ← root (2 * pooled * (1 - pooled))
    let betaRoot ← root (pA * (1 - pA) + pB * (1 - pB))
    let numerator := (zAlpha * alphaRoot + zBeta * betaRoot) ^ 2
    let denom := (pA - pB) ^ 2
    if denom = 0 then pure 10000000
    else do
      let ratio ← quotient numerator denom
      pure (max 1 (PyMath.ceil ratio))

/-- The power calculation has nothing to detect, or two variances to take the roots of: that of the mean rate,
and that of the two rates. -/
def Powered (pA pB : K) : Prop :=
  pA = pB ∨ 0 ≤ 2 * ((pA + pB) / 2) * (1 - (pA + pB) / 2) ∧ 0 ≤ rateVariance pA + rateVariance pB

/-- `_inconclusive`. -/
def inconclusive (reason : String) (lift : K) : AbResult K where
  pValue := 1
  lift := .finite lift
  confidenceInterval := (0, 0)
  decision := .inconclusive
  reason := some reason

def liftOf (pA pB : K) : Lift K :=
  if 0 < pA then .finite ((pB - pA) / pA) else if 0 < pB then .infinite else .finite 0

/-- `_two_proportion_test`. -/
def twoProportionTest (nA : Int) (xA : K) (nB : Int) (xB : K) (confidence : K) : Except MathError (AbResult K) :=
  if nA ≤ 0 ∨ nB ≤ 0 then .ok (inconclusive "zero_sample" 0)
  else do
    let pA ← quotient xA nA
    let pB ← quotient xB nB
    let pooled ← quotient (xA + xB) (nA + nB : Int)
    let inverseA ← quotient 1 (nA : K)
    let inverseB ← quotient 1 (nB : K)
    let denom ← root (max (pooled * (1 - pooled) * (inverseA + inverseB)) 0)
    if denom = 0 then pure (inconclusive "degenerate" 0)
    else do
      let z ← quotient (pB - pA) denom
      let pValue ← twoTailedPFromZ z
      let zAlpha ← zCritical confidence
      let varianceA ← quotient (pA * (1 - pA)) (nA : K)
      let varianceB ← quotient (pB * (1 - pB)) (nB : K)
      let seUnpooled ← root (varianceA + varianceB)
      let delta := pB - pA
      let result : AbResult K :=
        { pValue := pValue
          lift := liftOf pA pB
          confidenceInterval := (delta - zAlpha * seUnpooled, delta + zAlpha * seUnpooled)
          decision := .loser }
      if pValue < 1 - confidence ∧ z ≠ 0 then
        pure { result with decision := .winner, winnerArm := some (if pA < pB then .b else .a) }
      else do
        let minN ← minNForProportionPower pA pB confidence (4 / 5)
        if nA < minN ∨ nB < minN then
          pure { result with decision := .inconclusive, minNForPower := some minN }
        else pure result

/-- The test from its z-score on. -/
def rateOutcome (nA : Int) (pA : K) (nB : Int) (pB z confidence : K) : Except MathError (AbResult K) := do
  let pValue ← twoTailedPFromZ z
  let zAlpha ← zCritical confidence
  let seUnpooled ← root (rateVariance pA / nA + rateVariance pB / nB)
  let delta := pB - pA
  let result : AbResult K :=
    { pValue := pValue
      lift := liftOf pA pB
      confidenceInterval := (delta - zAlpha * seUnpooled, delta + zAlpha * seUnpooled)
      decision := .loser }
  if pValue < 1 - confidence ∧ z ≠ 0 then
    pure { result with decision := .winner, winnerArm := some (if pA < pB then .b else .a) }
  else do
    let minN ← minNForProportionPower pA pB confidence (4 / 5)
    if nA < minN ∨ nB < minN then pure { result with decision := .inconclusive, minNForPower := some minN }
    else pure result

/-- `_welch_t_test`. -/
def welchTTest (nA : Int) (meanA varA : K) (nB : Int) (meanB varB : K) (confidence : K) :
    Except MathError (AbResult K) :=
  if nA < 2 ∨ nB < 2 then .ok (inconclusive "too_few_observations" 0)
  else do
    let shareA ← quotient varA nA
    let shareB ← quotient varB nB
    let se ← root (shareA + shareB)
    if se = 0 then pure (inconclusive "zero_variance" (meanB - meanA))
    else do
      let t ← quotient (meanB - meanA) se
      let restA ← quotient (shareA ^ 2) (nA - 1 : Int)
      let restB ← quotient (shareB ^ 2) (nB - 1 : Int)
      let df ← if 0 < restA + restB then quotient ((shareA + shareB) ^ 2) (restA + restB)
        else pure ((max nA nB : Int) : K)
      let pValue ← twoTailedPFromZ t
      let zAlpha ← zCritical confidence
      let delta := meanB - meanA
      let result : AbResult K :=
        { pValue := pValue
          lift := .finite delta
          confidenceInterval := (delta - zAlpha * se, delta + zAlpha * se)
          decision := if max nA nB < 30 then .inconclusive else .loser
          degreesOfFreedom := some df }
      if pValue < 1 - confidence ∧ t ≠ 0 then
        pure { result with decision := .winner, winnerArm := some (if meanA < meanB then .b else .a) }
      else pure result

/-- `AbTestingTool.call`. -/
def call (inputs : AbInputs K) : Except MathError (AbResult K) :=
  let armA := inputs.armA.getD {}
  let armB := inputs.armB.getD {}
  let metricKind := inputs.metricKind.getD "rate"
  let confidence := inputs.confidence.getD (19 / 20)
  if metricKind = "rate" then
    twoProportionTest (armA.n.getD 0) (armA.x.getD 0) (armB.n.getD 0) (armB.x.getD 0) confidence
  else if metricKind = "continuous" then
    welchTTest (armA.n.getD 0) (armA.mean.getD 0) (armA.variance.getD 0) (armB.n.getD 0) (armB.mean.getD 0)
      (armB.variance.getD 0) confidence
  else .ok (inconclusive ("unsupported_metric_kind:" ++ metricKind) 0)

end AbTestingTool

/-- Roots of squares, and the error function where it has come to its limits:
all that the closed runs of this development need, which take no logarithm. -/
@[reducible] def PyMath.plain : PyMath Rat where
  sqrt := Rat.sqrt
  log v := v - 1
  erf v := if 6 ≤ v then 1 else if v ≤ -6 then -1 else v / 6
  ceil v := ⌈v⌉

end MarketingAgents
