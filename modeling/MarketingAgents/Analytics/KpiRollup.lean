import Mathlib.Data.Rat.Floor
import MarketingAgents.Db.Jsonb
import MarketingAgents.Lib.Group
import MarketingAgents.Lib.Rows
import MarketingAgents.Webhooks.Sendgrid

namespace MarketingAgents

open Lib PyText

/-- A row of `analytic_event` with the columns the roll-ups read. -/
structure EventRow extends AnalyticEvent where
  campaignId : Option Uuid := none
  channelId : Option Uuid := none
  metricValue : Option Rat := none
deriving DecidableEq

structure ChannelRow extends Channel where
  name : String
deriving DecidableEq

/-- The tables the roll-ups join. -/
structure EventStore where
  events : List EventRow := []
  dispatchAttempts : List DispatchAttempt := []
  assets : List ContentAsset := []
  channels : List ChannelRow := []

structure SourceFreshness where
  name : String
  lastEventAt : Option Int
  freshnessSeconds : Option Int
  documentedLatencySeconds : Int
deriving DecidableEq

structure CampaignKpis where
  impressions : Nat := 0
  opens : Nat := 0
  clicks : Nat := 0
  replies : Nat := 0
  conversions : Nat := 0
  unsubscribes : Nat := 0
  bounces : Nat := 0
  spamComplaints : Nat := 0
  spend : Rat := 0
deriving DecidableEq

structure CampaignKpiSnapshot where
  campaignId : Uuid
  kpis : CampaignKpis
  sources : List SourceFreshness
  generatedAt : Int
deriving DecidableEq

def EventKind.value : EventKind → String
  | .impression => "impression"
  | .click => "click"
  | .opened => "open"
  | .reply => "reply"
  | .conversion => "conversion"
  | .unsubscribe => "unsubscribe"
  | .bounce => "bounce"
  | .spamComplaint => "spam_complaint"
  | .spend => "spend"

theorem coerceEventKind_value (kind : EventKind) : coerceEventKind kind.value = some kind := by
  cases kind <;> rfl

/-- The field of a kind; spend is an amount and has no count. -/
def CampaignKpis.count (kpis : CampaignKpis) : EventKind → Nat
  | .impression => kpis.impressions
  | .opened => kpis.opens
  | .click => kpis.clicks
  | .reply => kpis.replies
  | .conversion => kpis.conversions
  | .unsubscribe => kpis.unsubscribes
  | .bounce => kpis.bounces
  | .spamComplaint => kpis.spamComplaints
  | .spend => 0

/-- `coalesce(sum(metric_value), 0)`. -/
def metricSum (events : List EventRow) : Rat := (events.map fun e => e.metricValue.getD 0).sum

section Rollup

variable [JsonbText]

def EventRow.sgMessageId (e : EventRow) : Option String := astext (e.payload.get? "sg_message_id")

namespace EventStore

/-- An attempt of the tenant carries the message id of the event, for an asset that `owns` accepts. -/
def linkedBy (s : EventStore) (tenantId : Uuid) (owns : ContentAsset → Bool) (e : EventRow) : Bool :=
  s.dispatchAttempts.any fun d => d.tenantId = tenantId && e.sgMessageId.isSome &&
    decide (d.providerMessageId = e.sgMessageId) && s.assets.any fun a => a.id = d.contentAssetId && owns a

/-- `indirect_exists` of the roll-up, which asks the asset for its tenant as well. -/
def indirectExists (s : EventStore) (tenantId campaignId : Uuid) : EventRow → Bool :=
  s.linkedBy tenantId fun a => a.tenantId = tenantId ∧ a.campaignId = campaignId

def channelIndirect (s : EventStore) (tenantId campaignId channelId : Uuid) : EventRow → Bool :=
  s.linkedBy tenantId fun a => a.tenantId = tenantId ∧ a.campaignId = campaignId ∧ a.channelId = some channelId

/-- `indirect_link` of the reports, the custom KPIs, the anomalies and the recommendations. -/
def indirectLink (s : EventStore) (tenantId campaignId : Uuid) : EventRow → Bool :=
  s.linkedBy tenantId fun a => a.campaignId = campaignId

def assetIndirect (s : EventStore) (tenantId contentAssetId : Uuid) (e : EventRow) : Bool :=
  s.dispatchAttempts.any fun d => d.tenantId = tenantId && decide (d.contentAssetId = contentAssetId) &&
    e.sgMessageId.isSome && decide (d.providerMessageId = e.sgMessageId)

/-- `base_filter` of the roll-up. -/
def baseFilter (s : EventStore) (tenantId campaignId : Uuid) (channelId contentAssetId : Option Uuid)
    (e : EventRow) : Bool :=
  e.tenantId = tenantId && (decide (e.campaignId = some campaignId) || s.indirectExists tenantId campaignId e) &&
    (match channelId with
      | none => true
      | some channel => decide (e.channelId = some channel) || s.channelIndirect tenantId campaignId channel e) &&
    match contentAssetId with
    | none => true
    | some asset => s.assetIndirect tenantId asset e

/-- The events of the campaign, attributed directly or through a message id. -/
def campaignEvents (s : EventStore) (tenantId campaignId : Uuid) : List EventRow :=
  s.events.filter fun e => e.tenantId = tenantId &&
    (decide (e.campaignId = some campaignId) || s.indirectLink tenantId campaignId e)

end EventStore

/-- One row for each kind of event: its count and its sum of amounts. -/
def kindRows (events : List EventRow) : List (EventKind × Nat × Rat) :=
  (groups (·.eventType) events).map fun g => (g.1, g.2.length, metricSum g.2)

def byKind (rows : List (EventKind × Nat × Rat)) : Dict EventKind Nat :=
  Dict.merge [] ((rows.filter (·.1 ≠ .spend)).map fun row => (row.1, row.2.1))

def spendTotal (rows : List (EventKind × Nat × Rat)) : Rat :=
  match (rows.filter (·.1 = .spend)).getLast? with
  | some row => row.2.2
  | none => 0

def documentedLatencySeconds : Dict String Int :=
  [("plausible", 300), ("sendgrid", 60), ("linkedin", 600), ("csv_upload", 0), ("unknown", 0)]

def sourceOf (e : EventRow) : String :=
  if e.sgMessageId.isSome then "sendgrid"
  else if (e.providerEventId.getD "").startsWith "plausible:" then "plausible"
  else "unknown"

def sourceFreshness (events : List EventRow) (now : Int) : List SourceFreshness :=
  (groups sourceOf events).map fun g =>
    let lastAt := (g.2.map (·.eventAt)).max?
    { name := g.1
      lastEventAt := lastAt
      freshnessSeconds := lastAt.map fun last => max ((now - last).tdiv 1000000) 0
      documentedLatencySeconds := (documentedLatencySeconds.get? g.1).getD 0 }

/-- `compute_campaign_kpis`. -/
def computeCampaignKpis (s : EventStore) (tenantId campaignId : Uuid) (channelId contentAssetId : Option Uuid)
    (now : Int) : CampaignKpiSnapshot :=
  let events := s.events.filter (s.baseFilter tenantId campaignId channelId contentAssetId)
  let rows := kindRows events
  let count kind := ((byKind rows).get? kind).getD 0
  { campaignId := campaignId
    kpis :=
      { impressions := count .impression
        opens := count .opened
        clicks := count .click
        replies := count .reply
        conversions := count .conversion
        unsubscribes := count .unsubscribe
        bounces := count .bounce
        spamComplaints := count .spamComplaint
        spend := spendTotal rows }
    sources := sourceFreshness events now
    generatedAt := now }

end Rollup

theorem kindRows_nodup (events : List EventRow) : ((kindRows events).map Prod.fst).Nodup := by
  have keys : (kindRows events).map Prod.fst = (groups (·.eventType) events).map Prod.fst := by
    simp [kindRows, Function.comp_def]
  rw [keys]
  exact groups_nodup _ _

theorem mem_kindRows {events : List EventRow} {row : EventKind × Nat × Rat} :
    row ∈ kindRows events ↔ row.1 ∈ events.map (·.eventType) ∧
      row.2 = ((events.filter (·.eventType = row.1)).length, metricSum (events.filter (·.eventType = row.1))) := by
  simp only [kindRows, List.mem_map]
  constructor
  · rintro ⟨g, member, rfl⟩
    obtain ⟨occurs, content⟩ := mem_groups.mp member
    exact ⟨by simpa using occurs, by simp only [content]⟩
  · rintro ⟨occurs, content⟩
    refine ⟨(row.1, events.filter (·.eventType = row.1)), mem_groups.mpr ⟨by simpa using occurs, rfl⟩, ?_⟩
    rw [← content]

/-- The dictionary of the roll-up counts the events of a kind. -/
theorem byKind_count (events : List EventRow) {kind : EventKind} (counted : kind ≠ .spend) :
    ((byKind (kindRows events)).get? kind).getD 0 = (events.filter (·.eventType = kind)).length := by
  have keys : (((kindRows events).filter (·.1 ≠ .spend)).map fun row => (row.1, row.2.1)).map Prod.fst =
      ((kindRows events).filter (·.1 ≠ .spend)).map Prod.fst := by
    simp [Function.comp_def]
  have nodup : ((((kindRows events).filter (·.1 ≠ .spend)).map fun row => (row.1, row.2.1)).map Prod.fst).Nodup := by
    rw [keys]
    exact (kindRows_nodup events).sublist (List.filter_sublist.map _)
  rw [byKind, Dict.get?_merge nodup, Dict.get?_nil, Option.or_none]
  by_cases occurs : kind ∈ events.map (·.eventType)
  · have row : (kind, (events.filter (·.eventType = kind)).length, metricSum (events.filter (·.eventType = kind))) ∈
        kindRows events := mem_kindRows.mpr ⟨occurs, rfl⟩
    have entry : (kind, (events.filter (·.eventType = kind)).length) ∈
        ((kindRows events).filter (·.1 ≠ .spend)).map fun row => (row.1, row.2.1) :=
      List.mem_map.mpr ⟨_, List.mem_filter.mpr ⟨row, by simpa using counted⟩, rfl⟩
    rw [Dict.get?_of_mem nodup entry, Option.getD_some]
  · have none : events.filter (·.eventType = kind) = [] := by
      refine List.filter_eq_nil_iff.mpr fun e member same => occurs (List.mem_map.mpr ⟨e, member, ?_⟩)
      simpa using same
    rw [none, Dict.get?_eq_none]
    · rfl
    · rintro entry member rfl
      obtain ⟨row, kept, rfl⟩ := List.mem_map.mp member
      exact occurs (mem_kindRows.mp (List.mem_filter.mp kept).1).1

theorem spendTotal_kindRows (events : List EventRow) :
    spendTotal (kindRows events) = metricSum (events.filter (·.eventType = .spend)) := by
  unfold spendTotal
  by_cases occurs : EventKind.spend ∈ events.map (·.eventType)
  · have row : (EventKind.spend, (events.filter (·.eventType = .spend)).length,
        metricSum (events.filter (·.eventType = .spend))) ∈ kindRows events := mem_kindRows.mpr ⟨occurs, rfl⟩
    have only := filter_key_eq Prod.fst (kindRows_nodup events) row
    simp only at only
    rw [only]
    rfl
  · have none : events.filter (·.eventType = .spend) = [] := by
      refine List.filter_eq_nil_iff.mpr fun e member same => occurs (List.mem_map.mpr ⟨e, member, ?_⟩)
      simpa using same
    have noRow : (kindRows events).filter (·.1 = .spend) = [] := by
      refine List.filter_eq_nil_iff.mpr fun row member same => occurs ?_
      rw [← of_decide_eq_true same]
      exact (mem_kindRows.mp member).1
    rw [noRow, none]
    rfl

end MarketingAgents
