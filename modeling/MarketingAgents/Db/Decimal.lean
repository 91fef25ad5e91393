import Mathlib.Data.Rat.Floor
import MarketingAgents.Db.Models

namespace MarketingAgents

/-- Python's default decimal context, and floats made of decimals. -/
class DecimalContext where
  /-- The value with the 28 digits of the context. -/
  round : Decimal → Decimal
  /-- `repr(float(value))`. -/
  floatRepr : Decimal → String

/-- The nearest integer, the even one of two. -/
def roundHalfEven (x : Rat) : Int :=
  if x - ⌊x⌋ < 1 / 2 then ⌊x⌋
  else if 1 / 2 < x - ⌊x⌋ then ⌊x⌋ + 1
  else if ⌊x⌋ % 2 = 0 then ⌊x⌋ else ⌊x⌋ + 1

/-- `value.quantize(Decimal(10) ** -places)`. -/
def quantize (places : Nat) (value : Decimal) : Decimal := roundHalfEven (value * 10 ^ places) / 10 ^ places

/-- `quantize` raises where its result has more digits than the context. -/
def quantizeFits (places : Nat) (value : Decimal) : Prop := |quantize places value| * 10 ^ places < 10 ^ 28

instance decidableQuantizeFits (places : Nat) (value : Decimal) : Decidable (quantizeFits places value) :=
  inferInstanceAs (Decidable (_ < _))

/-- What a `Numeric(_, places)` column keeps of a value: halves go away from zero. -/
def numericColumn (places : Nat) (value : Decimal) : Decimal :=
  if 0 ≤ value then (⌊value * 10 ^ places + 1 / 2⌋ : Rat) / 10 ^ places
  else -((⌊-value * 10 ^ places + 1 / 2⌋ : Rat) / 10 ^ places)

/-- A row of `campaign_channel_budget`. -/
structure ChannelBudgetRow where
  campaignId : Uuid
  channelId : Uuid
  allocated : Decimal
  spent : Decimal := 0
deriving DecidableEq

/-- Decimals that need no rounding, and whole ones as floats: all that the closed runs of this development contain. -/
@[reducible] def DecimalContext.plain : DecimalContext where
  round value := value
  floatRepr value := toString value.num ++ ".0"

end MarketingAgents
