import MarketingAgents.Analytics.Report
import MarketingAgents.Db.Decimal
import MarketingAgents.Lib.Result

namespace MarketingAgents

open Lib PyText

/-- `float(value)` of a JSON value, as its `repr`; `none` where it raises. -/
class PyFloat where
  floatOf : Json → Option String

/-- Numbers as they stand: all that the closed runs of this development contain. -/
@[reducible] def PyFloat.plain : PyFloat where
  floatOf
    | .int n => some (toString n ++ ".0")
    | .float repr => some repr
    | _ => none

inductive RecommendationKind where
  | budgetShift | creativeSwap | scheduleChange
deriving DecidableEq, Repr

inductive RecommendationStatus where
  | pending | applied | rejected | expired
deriving DecidableEq, Repr

def RecommendationStatus.value : RecommendationStatus → String
  | .pending => "pending"
  | .applied => "applied"
  | .rejected => "rejected"
  | .expired => "expired"

/-- A row of `optimisation_recommendation`, less its rationale. -/
structure RecommendationRow where
  id : Uuid
  tenantId : Uuid
  campaignId : Uuid
  kind : RecommendationKind
  proposal : Dict String Json
  predictedUplift : Option Decimal
  status : RecommendationStatus
  appliedAt : Option Int := none
  appliedBy : Option Uuid := none
deriving DecidableEq

structure ProposalRow extends StrategyProposal where
  tenantId : Uuid

/-- What the rules read. -/
structure RuleData extends EventStore where
  campaigns : List Campaign := []
  proposals : List ProposalRow := []

structure ChannelMetric where
  channelId : Uuid
  name : String
  spend : Decimal
  clicks : Nat
  impressions : Nat
  conversions : Nat
  minDailySpend : Option Decimal

inductive Outcome where
  | conversion | click

def Outcome.value : Outcome → String
  | .conversion => "conversion"
  | .click => "click"

/-- The outcomes of the channel. -/
def ChannelMetric.count (m : ChannelMetric) : Outcome → Nat
  | .conversion => m.conversions
  | .click => m.clicks

/-- One channel of the accepted strategy; the percentage is the `repr` of its float. -/
structure Allocation where
  allocationPct : String
  allocationAmount : Json

structure ProposalBundle where
  kind : RecommendationKind
  proposal : Dict String Json
  predictedUplift : Decimal

namespace Recommendations

def minDataDays : Int := 5

def day : Int := 86400000000

/-- A bucket of `_channel_metrics`. -/
structure Totals where
  clicks : Nat := 0
  impressions : Nat := 0
  conversions : Nat := 0
  spend : Decimal := 0

section Metrics

variable [PyText] [JsonbText] [DecimalContext]

/-- `_as_decimal`. -/
def asDecimal : Option Json → Option Decimal
  | none | some .null => none
  | some value => decimalOf (str value)

def Totals.enter (t : Totals) (row : ChannelKindRow) : Totals :=
  match row.eventType with
  | .click => { t with clicks := t.clicks + row.count }
  | .impression => { t with impressions := t.impressions + row.count }
  | .conversion => { t with conversions := t.conversions + row.count }
  | .spend => { t with spend := DecimalContext.round (t.spend + row.metricSum) }
  | _ => t

def totalsByChannel (rows : List ChannelKindRow) : Dict (Option Uuid) Totals :=
  rows.foldl (fun totals row => totals.set row.channelId (((totals.get? row.channelId).getD {}).enter row)) []

def channelMetric (channels : List ChannelRow) (id : Uuid) (t : Totals) : ChannelMetric where
  channelId := id
  name := channelName channels (some id)
  spend := t.spend
  clicks := t.clicks
  impressions := t.impressions
  conversions := t.conversions
  minDailySpend := (channels.find? (·.id = id)).bind fun channel => asDecimal (channel.apiConfig.get? "min_daily_spend")

/-- `_channel_metrics`. -/
def channelMetrics (data : RuleData) (tenantId campaignId : Uuid) (since : Int) : List ChannelMetric :=
  let events := (data.campaignEvents tenantId campaignId).filter fun e => since ≤ e.eventAt
  (totalsByChannel (channelKindRows events)).filterMap fun entry =>
    entry.1.map fun id => channelMetric data.channels id entry.2

end Metrics

section Rule

variable [PyText] [JsonbText] [PyFloat] [DecimalContext]

def costPerOutcome (m : ChannelMetric) (outcome : Outcome) : Decimal :=
  if m.spend ≤ 0 then 0
  else if m.count outcome = 0 then 0
  else DecimalContext.round (m.spend / m.count outcome)

/-- The leader and the laggard of the rule. -/
structure Pair where
  outcome : Outcome
  leader : ChannelMetric
  laggard : ChannelMetric
  ratio : Decimal

/-- The first half of `_try_budget_shift`. -/
def pickPair (metrics : List ChannelMetric) : Option Pair :=
  let outcome := if 0 < (metrics.map ChannelMetric.conversions).sum then Outcome.conversion else .click
  let eligible := (metrics.filter fun m => 0 < m.spend ∧ 0 < m.count outcome).insertionSort fun a b =>
    costPerOutcome a outcome ≤ costPerOutcome b outcome
  if metrics.length < 2 ∨ eligible.length < 2 then none
  else match eligible.head?, eligible.getLast? with
    | some leader, some laggard =>
      let ratio := DecimalContext.round (costPerOutcome laggard outcome / costPerOutcome leader outcome)
      if costPerOutcome leader outcome ≤ 0 ∨ ratio < 12 / 10 then none else some ⟨outcome, leader, laggard, ratio⟩
    | _, _ => none

/-- `_confidence_label`. -/
def confidenceLabel (ratio : Decimal) : String :=
  if 2 ≤ ratio then "high" else if 15 / 10 ≤ ratio then "medium" else "low"

/-- The entry of one channel of the payload, under a name that a channel can have. -/
def allocationOf : Json → Except AppError (Option (String × Allocation))
  | .obj fields => do
    let name := (Dict.get? fields "name").getD .null
    if name.truthy = false then pure none
    else
      let pct ← orRaise (PyFloat.floatOf ((Dict.get? fields "allocation_pct").getD (.int 0))) (.raised "ValueError")
      match name with
      | .str name => pure (some (name, ⟨pct, (Dict.get? fields "allocation_amount").getD .null⟩))
      | .arr _ | .obj _ => .error (.raised "TypeError")
      | _ => pure none
  | _ => .error (.raised "AttributeError")

/-- `payload.get("channels", []) or []`, of which a text or a dictionary gives no dictionaries. -/
def strategyChannels (payload : Dict String Json) : Except AppError (List Json) :=
  match (payload.get? "channels").filter Json.truthy with
  | none => .ok []
  | some (.arr items) => .ok items
  | some (.str _) | some (.obj _) => .error (.raised "AttributeError")
  | some _ => .error (.raised "TypeError")

def acceptedProposal (data : RuleData) (tenantId campaignId : Uuid) : Option ProposalRow :=
  ((data.proposals.filter fun p => p.tenantId = tenantId ∧ p.campaignId = campaignId ∧ p.isAccepted).insertionSort
    fun a b => b.version ≤ a.version).head?

/-- `_resolve_strategy_allocations`. -/
def resolveStrategyAllocations (data : RuleData) (tenantId campaignId : Uuid) :
    Except AppError (Dict String Allocation) :=
  match acceptedProposal data tenantId campaignId with
  | none => .ok []
  | some proposal => do
    let channels ← strategyChannels proposal.payload
    let entries ← channels.mapM allocationOf
    pure ((entries.filterMap id).foldl (fun out entry => out.set entry.1 entry.2) [])

/-- How much is shifted. -/
structure Sizing where
  amount : Decimal
  shiftPct : Decimal
  clamped : Bool

/-- 30% of the allocation, above the floor of the channel and within the band. -/
def sizeShift (allocated : Decimal) (minDailySpend : Option Decimal) : Option Sizing :=
  let proposed := DecimalContext.round (allocated * (30 / 100))
  let floored := (minDailySpend.filter (0 < ·)).bind fun floor =>
    let most := DecimalContext.round (allocated - floor)
    if most < proposed then some (max most 0) else none
  let amount := floored.getD proposed
  let shiftPct := DecimalContext.round (amount / allocated)
  if shiftPct < 10 / 100 then none
  else if 50 / 100 < shiftPct then some ⟨DecimalContext.round (allocated * (50 / 100)), 50 / 100, floored.isSome⟩
  else some ⟨amount, shiftPct, floored.isSome⟩

def predictedUplift (pair : Pair) (metrics : List ChannelMetric) (amount : Decimal) : Decimal :=
  let current : Decimal := (metrics.map fun m => m.count pair.outcome).sum
  let extra := DecimalContext.round
    (DecimalContext.round (amount / costPerOutcome pair.leader pair.outcome) -
      DecimalContext.round (amount / costPerOutcome pair.laggard pair.outcome))
  let uplift := if 0 < current then DecimalContext.round (extra / current) else 0
  max (min uplift (99999 / 10000)) 0

/-- One side of the proposal. -/
def proposalSide (m : ChannelMetric) (allocation : Allocation) (allocated new : Decimal) : Json :=
  .obj [("channel", .str m.name), ("channel_id", .str (uuidStr m.channelId)),
    ("allocation_pct", .float allocation.allocationPct), ("allocation_amount", .str (decimalStr allocated)),
    ("new_allocation_amount", .str (decimalStr (quantize 2 new)))]

/-- The second half of `_try_budget_shift`, on the allocations of the two channels. -/
def shiftBundle (metrics : List ChannelMetric) (pair : Pair) (laggardAlloc leaderAlloc : Allocation) :
    Except AppError (Option ProposalBundle) :=
  match (asDecimal (some laggardAlloc.allocationAmount)).filter (0 < ·) with
  | none => .ok none
  | some laggardAmount =>
    match sizeShift laggardAmount pair.laggard.minDailySpend with
    | none => .ok none
    | some sizing => do
      let leaderAmount := (asDecimal (some leaderAlloc.allocationAmount)).getD 0
      let newLaggard := DecimalContext.round (laggardAmount - sizing.amount)
      let newLeader := DecimalContext.round (leaderAmount + sizing.amount)
      require (quantizeFits 2 newLaggard ∧ quantizeFits 2 newLeader ∧ quantizeFits 2 sizing.amount ∧
        quantizeFits 4 pair.ratio) (.raised "InvalidOperation")
      pure (some
        { kind := .budgetShift
          proposal :=
            [("from", proposalSide pair.laggard laggardAlloc laggardAmount newLaggard),
              ("to", proposalSide pair.leader leaderAlloc leaderAmount newLeader),
              ("proposed_amount", .str (decimalStr (quantize 2 sizing.amount))),
              ("shift_pct", .float (DecimalContext.floatRepr (quantize 2 (DecimalContext.round (sizing.shiftPct * 100))))),
              ("confidence", .str (confidenceLabel pair.ratio)), ("outcome", .str pair.outcome.value),
              ("clamped_to_floor", .bool sizing.clamped)]
          predictedUplift := predictedUplift pair metrics sizing.amount })

/-- `_try_budget_shift`. -/
def tryBudgetShift (data : RuleData) (tenantId campaignId : Uuid) (now : Int) :
    Except AppError (Option ProposalBundle) :=
  let metrics := channelMetrics data tenantId campaignId (now - minDataDays * day)
  match pickPair metrics with
  | none => .ok none
  | some pair => do
    let allocations ← resolveStrategyAllocations data tenantId campaignId
    match allocations.get? pair.laggard.name, allocations.get? pair.leader.name with
    | some laggardAlloc, some leaderAlloc => shiftBundle metrics pair laggardAlloc leaderAlloc
    | _, _ => pure none

/-- `proposal.get(side) or {}`. -/
def sideFields (proposal : Dict String Json) (side : String) : Except AppError (Dict String Json) :=
  match (proposal.get? side).filter Json.truthy with
  | none => .ok []
  | some (.obj fields) => .ok fields
  | some _ => .error (.raised "AttributeError")

def sideChannels (proposal : Dict String Json) : Except AppError (Option Json × Option Json) := do
  let fromFields ← sideFields proposal "from"
  let toFields ← sideFields proposal "to"
  pure (fromFields.get? "channel", toFields.get? "channel")

/-- The loop of `_already_pending`, over the pending rows of the kind. -/
def alreadyPending (target : Option Json × Option Json) : List RecommendationRow → Except AppError Bool
  | [] => .ok false
  | row :: rows => do
    let channels ← sideChannels row.proposal
    if channels = target then pure true else alreadyPending target rows

end Rule

end Recommendations

/-- The primary key of `campaign_channel_budget`. -/
def ChannelBudgetRow.key (row : ChannelBudgetRow) : Uuid × Uuid := (row.campaignId, row.channelId)

/-- The tables of the recommendations; the budgets keep their primary key. -/
structure RecommendationStore where
  recommendations : List RecommendationRow := []
  budgets : List ChannelBudgetRow := []
  nextId : Uuid := 0
  keys : (budgets.map ChannelBudgetRow.key).Nodup

namespace Recommendations

section Generate

variable [PyText] [JsonbText] [PyFloat] [DecimalContext]

def pendingRow (id tenantId campaignId : Uuid) (bundle : ProposalBundle) : RecommendationRow where
  id := id
  tenantId := tenantId
  campaignId := campaignId
  kind := bundle.kind
  proposal := bundle.proposal
  predictedUplift := some (numericColumn 4 bundle.predictedUplift)
  status := .pending

/-- The campaign of the tenant, old enough for the rules. -/
def ripe (data : RuleData) (tenantId campaignId : Uuid) (now : Int) : Bool :=
  match (data.campaigns.find? (·.id = campaignId)).filter (·.tenantId = tenantId) with
  | none => false
  | some campaign => minDataDays * day ≤ now - campaign.startDate * day

/-- `generate_recommendations`. -/
def generateRecommendations (data : RuleData) (tenantId campaignId : Uuid) (now : Int) (s : RecommendationStore) :
    Except AppError RecommendationStore :=
  if ripe data tenantId campaignId now = false then .ok s
  else do
    match ← tryBudgetShift data tenantId campaignId now with
    | none => pure s
    | some bundle =>
      let target ← sideChannels bundle.proposal
      let pending := s.recommendations.filter fun row => row.tenantId = tenantId ∧ row.campaignId = campaignId ∧
        row.kind = bundle.kind ∧ row.status = .pending
      if ← alreadyPending target pending then pure s
      else pure { s with
        recommendations := s.recommendations ++ [pendingRow s.nextId tenantId campaignId bundle]
        nextId := s.nextId + 1 }

end Generate

end Recommendations

end MarketingAgents
