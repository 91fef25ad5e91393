import Mathlib.Algebra.Order.BigOperators.Group.List
import MarketingAgents.Agents.StrategistPlanner
import MarketingAgents.Db.Rounding

namespace MarketingAgents

open Lib PyText PyDecimal

/-- A decimal whose finite values are exact. -/
inductive ExactDec where
  | finite (value : Rat)
  | infinite (negative : Bool)
  | nan
deriving DecidableEq

namespace ExactDec

/-- An ordering with a NaN raises `InvalidOperation`. -/
def less : ExactDec → ExactDec → Except Unit Bool
  | .nan, _ | _, .nan => .error ()
  | .finite a, .finite b => .ok (decide (a < b))
  | .finite _, .infinite negative => .ok !negative
  | .infinite negative, .finite _ => .ok negative
  | .infinite negative, .infinite negative' => .ok (negative && !negative')

/-- So does the sum of opposite infinities. -/
def add : ExactDec → ExactDec → Except Unit ExactDec
  | .nan, _ | _, .nan => .ok .nan
  | .finite a, .finite b => .ok (.finite (a + b))
  | .finite _, .infinite negative | .infinite negative, .finite _ => .ok (.infinite negative)
  | .infinite negative, .infinite negative' =>
    if negative = negative' then .ok (.infinite negative) else .error ()

def distance : ExactDec → ExactDec → Except Unit ExactDec
  | .nan, _ | _, .nan => .ok .nan
  | .finite a, .finite b => .ok (.finite |a - b|)
  | .finite _, .infinite _ | .infinite _, .finite _ => .ok (.infinite false)
  | .infinite negative, .infinite negative' =>
    if negative = negative' then .error () else .ok (.infinite false)

/-- `quantize` to cents, halves away from zero; it raises on an infinity. -/
def share (budget : Rat) : ExactDec → Except Unit ExactDec
  | .nan => .ok .nan
  | .finite pct => .ok (.finite (numericColumn 2 (budget * pct / 100)))
  | .infinite _ => .error ()

end ExactDec

/-- `Decimal(text)` and `str(decimal)`. -/
class DecimalText [PyText] where
  read : String → Option ExactDec
  write : ExactDec → String
  read_null : read (str .null) = none

instance exactDecimal [PyText] [DecimalText] : PyDecimal where
  Dec := ExactDec
  ofText := DecimalText.read
  ofRat := .finite
  toText := DecimalText.write
  less := ExactDec.less
  add := ExactDec.add
  distance := ExactDec.distance
  share := ExactDec.share
  ofText_null := DecimalText.read_null

/-- A channel of a plan with its numbers. -/
structure PlannedChannel where
  fields : Dict String Json
  platform : String
  pct : Rat
  amount : Rat

section Sound

variable [PyText] [DecimalText]

/-- What the validator has read of the channel. -/
structure PlannedChannel.Reads (c : PlannedChannel) : Prop where
  platform : platformOf c.fields = c.platform
  pct : numberAt c.fields "allocation_pct" = some (ExactDec.finite c.pct)
  amount : numberAt c.fields "allocation_amount" = some (ExactDec.finite c.amount)

omit [PyText] [DecimalText] in
/-- A share of the whole, and an amount that goes with it. -/
structure PlannedChannel.Fair (budget : Rat) (c : PlannedChannel) : Prop where
  low : 0 ≤ c.pct
  high : c.pct ≤ 100
  nonneg : 0 ≤ c.amount
  near : |c.amount - numericColumn 2 (budget * c.pct / 100)| ≤ 1 / 2

theorem apart_false {d d' : Dec} {tolerance : Rat} (close : apart d d' tolerance = .ok false) :
    ∃ p q : Rat, d = ExactDec.finite p ∧ d' = ExactDec.finite q ∧ |p - q| ≤ tolerance := by
  obtain ⟨gap, between, within⟩ := bind_eq_ok.mp close
  cases d with
  | nan => cases between; cases within
  | finite p =>
    cases d' with
    | nan => cases between; cases within
    | finite q =>
      cases between
      exact ⟨p, q, rfl, rfl, by simpa [PyDecimal.less, ofRat, ExactDec.less] using within⟩
    | infinite negative => cases between; cases within
  | infinite negative =>
    cases d' with
    | nan => cases between; cases within
    | finite q => cases between; cases within
    | infinite negative' =>
      simp only [PyDecimal.distance, ExactDec.distance] at between
      split at between
      · cases between
      · cases between; cases within

theorem outOfRange_false {d : Dec} (inside : outOfRange d = .ok false) :
    ∃ pct : Rat, d = ExactDec.finite pct ∧ 0 ≤ pct ∧ pct ≤ 100 := by
  obtain ⟨below, low, rest⟩ := bind_eq_ok.mp inside
  cases below with
  | true => cases rest
  | false =>
    cases d with
    | nan => cases low
    | finite pct =>
      refine ⟨pct, rfl, ?_, ?_⟩
      · simpa [PyDecimal.less, ofRat, ExactDec.less] using low
      · simpa [PyDecimal.less, ofRat, ExactDec.less] using rest
    | infinite negative =>
      cases negative with
      | true => cases low
      | false => cases rest

/-- A pass over the amounts that reports nothing has found a fair share, and adds it to the totals. -/
theorem AmountsPass.fair {ctx : StrategyContext} {scan scan' : Scan} {pct amount : Dec} {total totalAmount : Rat}
    (passes : AmountsPass ctx scan scan' pct amount) (pctSum : scan.totalPct = ExactDec.finite total)
    (amountSum : scan.totalAmount = ExactDec.finite totalAmount) :
    ∃ p a : Rat, pct = ExactDec.finite p ∧ amount = ExactDec.finite a ∧
      (∀ ch platform, PlannedChannel.Fair ctx.budgetTotal ⟨ch, platform, p, a⟩) ∧
      scan'.totalPct = ExactDec.finite (total + p) ∧ scan'.totalAmount = ExactDec.finite (totalAmount + a) := by
  obtain ⟨p, rfl, low, high⟩ := outOfRange_false passes.range
  obtain ⟨expected, shared, gap⟩ := passes.near
  obtain ⟨a, e, rfl, rfl, near⟩ := apart_false gap
  have addedPct := passes.totalPct
  have addedAmount := passes.totalAmount
  rw [pctSum] at addedPct
  rw [amountSum] at addedAmount
  cases shared
  refine ⟨p, a, rfl, rfl, fun ch platform => ⟨low, high, ?_, near⟩, (Except.ok.inj addedPct).symm,
    (Except.ok.inj addedAmount).symm⟩
  simpa [PyDecimal.less, ofRat, ExactDec.less] using passes.sign

/-- What the validator has checked of a channel on its own. -/
structure PlannedChannel.Passes (ctx : StrategyContext) (allowed : List String) (c : PlannedChannel) : Prop where
  reads : c.Reads
  active : c.platform ∈ allowed
  permitted : c.platform ∉ ctx.forbiddenPlatforms.map lower
  fair : c.Fair ctx.budgetTotal

/-- A pass of the loop that reports nothing has found a channel that passes. -/
theorem validateChannel_passes {ctx : StrategyContext} {allowed : List String} {scan scan' : Scan}
    {entry : Json × Nat} {total totalAmount : Rat} (done : validateChannel ctx allowed scan entry = .ok scan')
    (clean : scan'.violations = []) (pctSum : scan.totalPct = ExactDec.finite total)
    (amountSum : scan.totalAmount = ExactDec.finite totalAmount) :
    ∃ c : PlannedChannel, entry.1.dict? = some c.fields ∧ c.Passes ctx allowed ∧ c.platform ∉ scan.seen ∧
      scan'.seen = c.platform :: scan.seen ∧ scan'.totalPct = ExactDec.finite (total + c.pct) ∧
      scan'.totalAmount = ExactDec.finite (totalAmount + c.amount) := by
  obtain ⟨ch, pct, amount, dict, ⟨⟨_, permitted, active⟩, fresh⟩, readsPct, readsAmount, passes⟩ :=
    validateChannel_checks done clean
  obtain ⟨p, a, rfl, rfl, fair, sumPct, sumAmount⟩ := passes.fair pctSum amountSum
  exact ⟨⟨ch, platformOf ch, p, a⟩, dict, ⟨⟨rfl, readsPct, readsAmount⟩, active, permitted, fair _ _⟩, fresh, passes.seen,
    sumPct, sumAmount⟩

/-- The loop over the channels: the platforms are new each time, and the totals are those of the plan. -/
theorem validateChannels_pass {ctx : StrategyContext} {allowed : List String} {entries : List (Json × Nat)}
    {scan scan' : Scan} {total totalAmount : Rat} (done : entries.foldlM (validateChannel ctx allowed) scan = .ok scan')
    (clean : scan'.violations = []) (pctSum : scan.totalPct = ExactDec.finite total)
    (amountSum : scan.totalAmount = ExactDec.finite totalAmount) :
    ∃ plan : List PlannedChannel, entries.map (·.1.dict?) = plan.map (some ·.fields) ∧
      (∀ c ∈ plan, c.Passes ctx allowed ∧ c.platform ∉ scan.seen) ∧ (plan.map PlannedChannel.platform).Nodup ∧
      scan'.totalPct = ExactDec.finite (total + (plan.map PlannedChannel.pct).sum) ∧
      scan'.totalAmount = ExactDec.finite (totalAmount + (plan.map PlannedChannel.amount).sum) := by
  induction entries generalizing scan total totalAmount with
  | nil =>
    simp only [List.foldlM_nil, pure_eq_ok] at done
    subst done
    exact ⟨[], rfl, by simp, List.nodup_nil, by simpa using pctSum, by simpa using amountSum⟩
  | cons entry entries ih =>
    simp only [List.foldlM_cons, bind_eq_ok] at done
    obtain ⟨mid, first, rest⟩ := done
    obtain ⟨midClean, _⟩ := validateChannels_clean rest clean
    obtain ⟨c, dict, passes, fresh, seen, midPct, midAmount⟩ := validateChannel_passes first midClean pctSum amountSum
    obtain ⟨plan, fields, later, distinct, lastPct, lastAmount⟩ := ih rest midPct midAmount
    refine ⟨c :: plan, by simp [dict, fields], ?_, ?_, ?_, ?_⟩
    · intro other member
      rcases List.mem_cons.mp member with rfl | more
      · exact ⟨passes, fresh⟩
      · obtain ⟨otherPasses, unseen⟩ := later other more
        rw [seen] at unseen
        exact ⟨otherPasses, fun old => unseen (List.mem_cons_of_mem _ old)⟩
    · refine List.nodup_cons.mpr ⟨fun twice => ?_, distinct⟩
      obtain ⟨other, more, same⟩ := List.mem_map.mp twice
      obtain ⟨_, unseen⟩ := later other more
      rw [seen, same] at unseen
      exact unseen List.mem_cons_self
    · rw [lastPct, List.map_cons, List.sum_cons, add_assoc]
    · rw [lastAmount, List.map_cons, List.sum_cons, add_assoc]

/-- The plan keeps a human override: within a point of it, and flagged. -/
def Obeys (plan : List PlannedChannel) (ov : HumanOverride) : Prop :=
  ∃ c ∈ plan, c.platform = lower ov.platform ∧ flagged c.fields = true ∧
    ∃ required, ov.allocationPct = ExactDec.finite required ∧ |c.pct - required| ≤ 1

theorem obeys_of_honours {items : List Json} {plan : List PlannedChannel} {ov : HumanOverride}
    (fields : items.map Json.dict? = plan.map (some ·.fields)) (reads : ∀ c ∈ plan, c.Reads)
    (honours : Honours items ov) : Obeys plan ov := by
  obtain ⟨ch, found, kept⟩ := honours
  have listed : ch ∈ items.filterMap Json.dict? := List.mem_of_find?_eq_some found
  have named : platformOf ch = lower ov.platform := by simpa using List.find?_some found
  obtain ⟨item, member, dict⟩ := List.mem_filterMap.mp listed
  have planned : some ch ∈ plan.map (some ·.fields) := fields ▸ dict ▸ List.mem_map_of_mem member
  obtain ⟨c, inPlan, same⟩ := List.mem_map.mp planned
  cases Option.some.inj same
  obtain ⟨close, flag⟩ := kept _ (reads c inPlan).pct
  obtain ⟨p, required, value, exactly, near⟩ := apart_false close
  cases value
  exact ⟨c, inPlan, (reads c inPlan).platform.symm.trans named, flag, required, exactly, near⟩

omit [PyText] [DecimalText] in
/-- Rounding to cents moves a number by half a cent at most. -/
theorem abs_numericColumn_two_sub_le (value : Rat) : |numericColumn 2 value - value| ≤ 1 / 200 := by
  unfold numericColumn
  split_ifs with sign
  · have low := Int.floor_le (value * 10 ^ 2 + 1 / 2)
    have high := Int.lt_floor_add_one (value * 10 ^ 2 + 1 / 2)
    rw [abs_le]
    constructor <;> linarith
  · have low := Int.floor_le (-value * 10 ^ 2 + 1 / 2)
    have high := Int.lt_floor_add_one (-value * 10 ^ 2 + 1 / 2)
    rw [abs_le]
    constructor <;> linarith

omit [PyText] [DecimalText] in
/-- The tolerance and the rounding, over all the channels. -/
theorem amounts_near_shares {budget : Rat} {plan : List PlannedChannel} (fair : ∀ c ∈ plan, c.Fair budget) :
    |(plan.map PlannedChannel.amount).sum - budget * (plan.map PlannedChannel.pct).sum / 100| ≤
      101 / 200 * plan.length := by
  induction plan with
  | nil => simp
  | cons c plan ih =>
    have rest := ih fun other member => fair other (List.mem_cons_of_mem _ member)
    have here := (fair c List.mem_cons_self).near
    have rounded := abs_numericColumn_two_sub_le (budget * c.pct / 100)
    simp only [List.map_cons, List.sum_cons, List.length_cons]
    push_cast
    rw [abs_le] at rest here rounded ⊢
    constructor <;> linarith

omit [PyText] [DecimalText] in
/-- So the amounts add up to the budget, but for a percent and what each channel may be off. -/
theorem amounts_near_budget {budget : Rat} {plan : List PlannedChannel} (fair : ∀ c ∈ plan, c.Fair budget)
    (whole : |(plan.map PlannedChannel.pct).sum - 100| ≤ 1) :
    |(plan.map PlannedChannel.amount).sum - budget| ≤ |budget| / 100 + 101 / 200 * plan.length := by
  have shares := amounts_near_shares fair
  have scaled : |budget * (plan.map PlannedChannel.pct).sum / 100 - budget| ≤ |budget| / 100 := by
    have factored : budget * (plan.map PlannedChannel.pct).sum / 100 - budget =
        budget * ((plan.map PlannedChannel.pct).sum - 100) / 100 := by ring
    rw [factored, abs_div, abs_mul, abs_of_pos (by norm_num : (0 : Rat) < 100)]
    have := mul_le_of_le_one_right (abs_nonneg budget) whole
    gcongr
  calc |(plan.map PlannedChannel.amount).sum - budget|
      ≤ |(plan.map PlannedChannel.amount).sum - budget * (plan.map PlannedChannel.pct).sum / 100| +
        |budget * (plan.map PlannedChannel.pct).sum / 100 - budget| := abs_sub_le _ _ _
    _ ≤ 101 / 200 * plan.length + |budget| / 100 := add_le_add shares scaled
    _ = |budget| / 100 + 101 / 200 * plan.length := add_comm _ _

/-- The channels of a payload, as a plan that the tenant can follow. -/
structure SoundPlan (ctx : StrategyContext) (allowed : List String) (payload : Dict String Json)
    (plan : List PlannedChannel) : Prop where
  listed : ∃ items, payload.get? "channels" = some (.arr items) ∧ items.map Json.dict? = plan.map (some ·.fields)
  nonempty : plan ≠ []
  distinct : (plan.map PlannedChannel.platform).Nodup
  passes : ∀ c ∈ plan, c.Passes ctx allowed
  whole : |(plan.map PlannedChannel.pct).sum - 100| ≤ 1
  overrides : ∀ ov ∈ ctx.humanOverrides, Obeys plan ov
  budget : |(plan.map PlannedChannel.amount).sum - ctx.budgetTotal| ≤ |ctx.budgetTotal| / 100 + 101 / 200 * plan.length

/-- A payload without violations is a sound plan: distinct platforms that the tenant
has, shares within one of a hundred, every override obeyed, and amounts that follow
the shares, so that together they come to the budget within a hundredth of it and
half a unit or so for each channel. -/
theorem validate_sound {ctx : StrategyContext} {allowed : List String} {payload : Dict String Json}
    (clean : validate ctx allowed payload = .ok []) : ∃ plan, SoundPlan ctx allowed payload plan := by
  unfold validate at clean
  split at clean
  · rename_i first rest channels
    simp only [bind_eq_ok, pure_eq_ok, List.append_eq_nil_iff] at clean
    obtain ⟨scan, loop, off, sum, found, overrides, ⟨reported, kept⟩, _⟩ := clean
    obtain ⟨scanClean, rfl⟩ := Scan.report_clean reported
    obtain ⟨plan, entries, passes, distinct, totalPct, _⟩ := validateChannels_pass loop scanClean rfl rfl
    have fields : (first :: rest).map Json.dict? = plan.map (some ·.fields) := by
      calc (first :: rest).map Json.dict?
          = ((first :: rest).zipIdx.map Prod.fst).map Json.dict? := by rw [List.zipIdx_map_fst]
        _ = (first :: rest).zipIdx.map (·.1.dict?) := List.map_map
        _ = plan.map (some ·.fields) := entries
    obtain ⟨p, whole, total, hundred, near⟩ := apart_false sum
    cases hundred
    rw [totalPct] at total
    cases total
    rw [zero_add] at near
    refine ⟨plan, ⟨first :: rest, channels, fields⟩, ?_, distinct, fun c member => (passes c member).1, near, ?_, ?_⟩
    · rintro rfl
      cases fields
    · intro ov carried
      exact obeys_of_honours fields (fun c member => (passes c member).1.reads)
        (validateOverrides_clean overrides kept ov carried)
    · exact amounts_near_budget (fun c member => (passes c member).1.fair) near
  · cases Except.ok.inj clean

end Sound

namespace SoundPlan

local instance soundText : PyText := PyText.plain

/-- Whole numbers in digits. -/
local instance soundDecimals : DecimalText where
  read s := (PyDecimal.plain.ofText s).map .finite
  write
    | .finite q => toString q.num
    | .infinite negative => if negative then "-Infinity" else "Infinity"
    | .nan => "NaN"
  read_null := by decide

private def mixed : Dict String Json :=
  [("channels", .arr [
      .obj [("platform", .str "email"), ("allocation_pct", .str "60"), ("allocation_amount", .str "600"),
        ("rationale", .str "reach"), ("human_override", .bool true)],
      .obj [("platform", .str "linkedin"), ("allocation_pct", .str "39"), ("allocation_amount", .str "390"),
        ("rationale", .str "reach")]]),
    ("kpis", .obj [("primary", .obj [("metric", .str "ctr"), ("target", .int 1), ("rationale", .str "reach")])])]

private def thousand : StrategyContext :=
  ⟨1000, ["email", "linkedin", "x"], ["x"], [⟨"email", ExactDec.finite 61, ExactDec.finite 610⟩]⟩

/-- A mix a percent short of the whole, a percent from the override. -/
theorem mixed_sound : ∃ plan, SoundPlan thousand (allowedPlatforms thousand) mixed plan :=
  validate_sound (by decide +kernel)

end SoundPlan

end MarketingAgents
