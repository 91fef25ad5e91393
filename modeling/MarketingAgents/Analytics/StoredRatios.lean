import MarketingAgents.AbTesting.Significance
import MarketingAgents.Analytics.AnomalyWindow
import MarketingAgents.Analytics.SpendReconciliation
import MarketingAgents.Db.Rounding

namespace MarketingAgents

open Lib AbTestingTool

/-- What a `Numeric(8, 4)` column takes: a finite number below ten thousand. -/
def Lift.Fits : Lift Rat → Prop
  | .finite value => |value| < 10 ^ 4
  | .infinite => False

instance Lift.decidableFits : ∀ lift : Lift Rat, Decidable lift.Fits
  | .finite value => inferInstanceAs (Decidable (|value| < 10 ^ 4))
  | .infinite => inferInstanceAs (Decidable False)

section Lift

variable [PyMath Rat] [PyMath.Lawful Rat]

end Lift

namespace Anomaly

section Sigma

variable [F : AnomalyFloat]

end Sigma

end Anomaly

namespace Reconciliation

variable [DecimalContext]

end Reconciliation

namespace WideRatios

open Anomaly Reconciliation

local instance wideJsonb : JsonbText := JsonbText.plain

local instance wideMath : PyMath Rat := PyMath.plain

local instance wideDecimal : DecimalContext := DecimalContext.plain

theorem plain_sqrt_eq_zero (v : Rat) (nonneg : 0 ≤ v) : Rat.sqrt v = 0 ↔ v = 0 := by
  have denominator : Nat.sqrt v.den ≠ 0 := by
    rw [Ne, Nat.sqrt_eq_zero]
    exact v.den_ne_zero
  rw [Rat.sqrt, Rat.mkRat_eq_zero denominator, Int.sqrt, Int.natCast_eq_zero, Nat.sqrt_eq_zero, Int.toNat_eq_zero,
    Rat.num_nonpos]
  exact ⟨fun low => le_antisymm low nonneg, fun zero => zero.le⟩

local instance wideLawful : PyMath.Lawful Rat where
  sqrt_nonneg _ _ := Rat.sqrt_nonneg _
  sqrt_eq_zero := plain_sqrt_eq_zero
  log_nonpos _ _ small := sub_nonpos.mpr small

/-- A running test of two emails, with two recipients on each. -/
def running : Db where
  abTests := [⟨10, 1, 0, "subject", none, "open", .running, some 3, some 4, none, .obj [], none, none, some 0, none, none⟩]
  abTestAssignments := [⟨1, 10, "a", 3⟩, ⟨1, 10, "b", 3⟩, ⟨1, 10, "c", 4⟩, ⟨1, 10, "d", 4⟩]

end WideRatios

end MarketingAgents
