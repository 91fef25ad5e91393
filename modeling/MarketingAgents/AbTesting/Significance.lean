import MarketingAgents.AbTesting.Verdicts
import MarketingAgents.Analytics.KpiRollup
import MarketingAgents.Db.Decimal
import MarketingAgents.Tools.RateTestTotal

namespace MarketingAgents

open Lib PyText AbTestingTool

/-- `_METRIC_TO_EVENT_KIND.get`. -/
def eventKindOf (metric : String) : Option EventKind :=
  if metric ∈ ["open", "open_rate"] then some .opened
  else if metric ∈ ["click", "click_rate", "ctr"] then some .click
  else if metric ∈ ["conversion", "conversion_rate"] then some .conversion
  else if metric = "reply" then some .reply
  else if metric = "unsubscribe" then some .unsubscribe
  else none

section Evaluate

variable [JsonbText]

/-- `_arm_sample`: the recipients of the variant, and its events. One recipient can have several. -/
def armSample (db : Db) (data : EventStore) (tenantId testId variantId : Uuid) (kind : EventKind) : Nat × Nat :=
  ((db.abTestAssignments.filter fun row => row.tenantId = tenantId ∧ row.abTestId = testId ∧
      row.variantId = variantId).length,
    (data.events.filter fun e => e.tenantId = tenantId && decide (e.eventType = kind) &&
      data.assetIndirect tenantId variantId e).length)

/-- The samples that an evaluation draws, where it is not skipped. -/
def samples (db : Db) (data : EventStore) (testId : Uuid) (now : Int) : Option ((Nat × Nat) × (Nat × Nat)) := do
  let test ← db.abTest? testId
  guard (test.skipReason now = none)
  let variantA ← test.variantAId
  let variantB ← test.variantBId
  let kind ← eventKindOf test.primaryMetric
  some (armSample db data test.tenantId testId variantA kind, armSample db data test.tenantId testId variantB kind)

/-- What the evaluator reads from the tool's result. -/
def AbResult.verdict {K : Type} (r : AbResult K) : AbDecision :=
  if r.decision = .winner then .winner (r.winnerArm = some .b) else .undecided

/-- `Decimal(str(round(float(lift), 4)))`. -/
def storedLift : Lift Rat → Lift Rat
  | .finite value => .finite (quantize 4 value)
  | .infinite => .infinite

/-- `evaluate_test` on the events it reads, with the value it assigns to the column `lift`. -/
def evaluateOn [PyMath Rat] (db : Db) (data : EventStore) (testId : Uuid) (confidence : Rat) (now : Int) :
    Except MathError (Db × Option (Lift Rat)) :=
  match samples db data testId now with
  | none => .ok (db, none)
  | some (sampleA, sampleB) => do
    let result ← call (rateInputs sampleA sampleB confidence)
    pure (evaluateTest db testId result.verdict now, some (storedLift result.lift))

/-- The tool's verdict on the samples, `none` where it raises or is not asked. -/
def verdictOn [PyMath Rat] (db : Db) (data : EventStore) (testId : Uuid) (confidence : Rat) (now : Int) :
    Option AbDecision := do
  let (sampleA, sampleB) ← samples db data testId now
  let result ← (call (rateInputs sampleA sampleB confidence)).toOption
  some result.verdict

/-- An evaluation on events is the step of the lifecycle with the tool's verdict. -/
theorem evaluateOn_step [PyText] [PyMath Rat] (db : Db) (data : EventStore) (testId : Uuid) (confidence : Rat) (now : Int) :
    ((evaluateOn db data testId confidence now).toOption.map Prod.fst).getD db =
      TestOp.step db (.evaluate testId (verdictOn db data testId confidence now) now) := by
  simp only [evaluateOn, verdictOn, TestOp.step]
  cases samples db data testId now with
  | none => rfl
  | some pair =>
    obtain ⟨sampleA, sampleB⟩ := pair
    simp only [Option.bind_eq_bind, Option.bind_some]
    cases call (rateInputs sampleA sampleB confidence) with
    | error error => rfl
    | ok result => rfl

end Evaluate

end MarketingAgents
