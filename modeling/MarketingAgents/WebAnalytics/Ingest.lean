import MarketingAgents.Analytics.KpiRollup
import MarketingAgents.Db.Decimal
import MarketingAgents.WebAnalytics.Attribution

namespace MarketingAgents

open Lib PyText

namespace WebAnalytics

/-- What a connector wants ingested; its metric is the number of the float. -/
structure WebAnalyticsEvent where
  providerEventId : String
  eventType : EventKind
  metricValue : Decimal
  eventAt : Int
  utmCampaign : Option String := none
  utmSource : Option String := none
  utmMedium : Option String := none
  payload : Dict String Json := []

structure IngestSummary where
  imported : Nat
  duplicates : Nat
  unattributed : Nat
deriving DecidableEq

/-- The table of the events. -/
structure AnalyticStore where
  events : List EventRow := []
  nextId : Uuid := 0

section Ingest

variable [PyText] [LikeErrors]

/-- `bool(ev.utm_campaign)`. -/
def WebAnalyticsEvent.tagged (ev : WebAnalyticsEvent) : Bool := (ev.utmCampaign.filter (· ≠ "")).isSome

def WebAnalyticsEvent.key (ev : WebAnalyticsEvent) : String := normalised (ev.utmCampaign.getD "")

/-- The first loop: a lookup for each key that the cache does not have. -/
def fillCache (campaigns : List Campaign) (tenantId : Uuid) :
    List WebAnalyticsEvent → Dict String (Option Uuid) → Except AppError (Dict String (Option Uuid))
  | [], cache => .ok cache
  | ev :: events, cache =>
    if ev.tagged ∧ cache.get? ev.key = none then do
      let found ← resolveCampaignByUtm campaigns tenantId ev.utmCampaign
      fillCache campaigns tenantId events (cache.set ev.key found)
    else fillCache campaigns tenantId events cache

/-- `cache.get(key) if ev.utm_campaign else None`. -/
def campaignOf (cache : Dict String (Option Uuid)) (ev : WebAnalyticsEvent) : Option Uuid :=
  if ev.tagged then (cache.get? ev.key).join else none

/-- `payload.setdefault(key, value)` of a value that is not empty. -/
def setDefault (payload : Dict String Json) (key : String) (value : Option String) : Dict String Json :=
  match value.filter (· ≠ "") with
  | none => payload
  | some value => if (payload.get? key).isSome then payload else payload.set key (.str value)

/-- The row of an event, before the table gives it an id. -/
def rowOf (tenantId : Uuid) (cache : Dict String (Option Uuid)) (ev : WebAnalyticsEvent) : EventRow where
  id := 0
  tenantId := tenantId
  eventType := ev.eventType
  payload := setDefault (setDefault (setDefault ev.payload "utm_campaign" ev.utmCampaign) "utm_source" ev.utmSource)
    "utm_medium" ev.utmMedium
  providerEventId := some ev.providerEventId
  eventAt := ev.eventAt
  campaignId := campaignOf cache ev
  metricValue := some (numericColumn 4 ev.metricValue)

/-- One pass of the second loop. -/
def enterEvent (tenantId : Uuid) (cache : Dict String (Option Uuid)) (built : List EventRow × Nat) (ev : WebAnalyticsEvent) :
    List EventRow × Nat :=
  (built.1 ++ [rowOf tenantId cache ev], if campaignOf cache ev = none then built.2 + 1 else built.2)

/-- Both loops: the rows, and how many have no campaign. -/
def attributeEvents (campaigns : List Campaign) (tenantId : Uuid) (events : List WebAnalyticsEvent) :
    Except AppError (List EventRow × Nat) := do
  let cache ← fillCache campaigns tenantId events []
  pure (events.foldl (enterEvent tenantId cache) ([], 0))

/-- What the columns take. -/
def rowFits (row : EventRow) : Bool :=
  (row.providerEventId.all fun id => id.length ≤ 200 && nulFree id) && Json.fieldsStorable row.payload &&
    row.metricValue.all fun value => |value| < 10 ^ 14

/-- `ON CONFLICT (tenant_id, provider_event_id) DO NOTHING`, row after row. -/
def insertRow (s : AnalyticStore) (row : EventRow) : AnalyticStore :=
  if s.events.any fun other => other.tenantId = row.tenantId ∧ other.providerEventId = row.providerEventId then s
  else { events := s.events ++ [{ row with id := s.nextId }], nextId := s.nextId + 1 }

/-- `ingest_events`. -/
def ingestEvents (s : AnalyticStore) (campaigns : List Campaign) (tenantId : Uuid) (events : List WebAnalyticsEvent) :
    Except AppError (AnalyticStore × IngestSummary) := do
  let (rows, unattributed) ← attributeEvents campaigns tenantId events
  let after := rows.foldl insertRow s
  let imported := after.events.length - s.events.length
  require (rows.all rowFits = true) databaseError
  pure (after, ⟨imported, events.length - imported, unattributed⟩)

/-- The event of the batch whose name was looked up for the key. -/
def firstSpelling (events : List WebAnalyticsEvent) (key : String) : Option WebAnalyticsEvent :=
  events.find? fun ev => ev.tagged && ev.key = key

variable {campaigns : List Campaign} {tenantId : Uuid}

/-- The cache holds what the first name of each key resolves to. -/
theorem fillCache_get? {events : List WebAnalyticsEvent} {cache cache' : Dict String (Option Uuid)}
    (filled : fillCache campaigns tenantId events cache = .ok cache') (key : String) :
    (cache'.get? key).map Except.ok = ((cache.get? key).map Except.ok).or
      ((firstSpelling events key).map fun ev => resolveCampaignByUtm campaigns tenantId ev.utmCampaign) := by
  induction events generalizing cache with
  | nil =>
    cases filled
    simp [firstSpelling]
  | cons ev events ih =>
    rw [fillCache] at filled
    split at filled
    · rename_i looked
      obtain ⟨tagged, absent⟩ := looked
      obtain ⟨found, resolved, rest⟩ := bind_eq_ok.mp filled
      rw [ih rest, Dict.get?_set]
      by_cases here : ev.key = key
      · subst here
        simp [firstSpelling, tagged, absent, resolved]
      · simp [firstSpelling, here]
    · rename_i skipped
      rw [ih filled]
      by_cases here : ev.tagged = true ∧ ev.key = key
      · obtain ⟨tagged, rfl⟩ := here
        -- the key was in the cache already
        obtain ⟨found, known⟩ := Option.ne_none_iff_exists'.mp fun absent => skipped ⟨tagged, absent⟩
        simp [known]
      · have other : (ev.tagged && decide (ev.key = key)) = false := by
          rwa [Bool.and_eq_false_iff, decide_eq_false_iff_not, ← Bool.not_eq_true, ← not_and_or]
        simp [firstSpelling, other]

/-- Where each name resolves, so does each lookup. -/
theorem fillCache_total {events : List WebAnalyticsEvent} (cache : Dict String (Option Uuid))
    (resolves : ∀ ev ∈ events, ∃ found, resolveCampaignByUtm campaigns tenantId ev.utmCampaign = .ok found) :
    ∃ cache', fillCache campaigns tenantId events cache = .ok cache' := by
  induction events generalizing cache with
  | nil => exact ⟨cache, rfl⟩
  | cons ev events ih =>
    obtain ⟨found, resolved⟩ := resolves ev (List.mem_cons_self ..)
    have rest : ∀ ev ∈ events, ∃ found, resolveCampaignByUtm campaigns tenantId ev.utmCampaign = .ok found :=
      fun later member => resolves later (List.mem_cons_of_mem _ member)
    rw [fillCache]
    split
    · rw [resolved]
      exact ih _ rest
    · exact ih _ rest

omit [LikeErrors] in
theorem foldl_enterEvent (cache : Dict String (Option Uuid)) (events : List WebAnalyticsEvent) (built : List EventRow × Nat) :
    events.foldl (enterEvent tenantId cache) built =
      (built.1 ++ events.map (rowOf tenantId cache), built.2 + (events.filter fun ev => campaignOf cache ev = none).length) := by
  induction events generalizing built with
  | nil => simp
  | cons ev events ih =>
    rw [List.foldl_cons, ih, enterEvent]
    by_cases missed : campaignOf cache ev = none
    · simp [missed, Nat.add_comm, Nat.add_assoc]
    · simp [missed]

/-- Every event has the campaign that its own name resolves to. -/
def OwnAttribution (campaigns : List Campaign) (tenantId : Uuid) (events : List WebAnalyticsEvent)
    (rows : List EventRow) : Prop :=
  rows.map (fun row => Except.ok row.campaignId) =
    events.map fun ev => resolveCampaignByUtm campaigns tenantId ev.utmCampaign

/-- The first spelling of each name resolves as the name itself. -/
def SpellingsAgree (campaigns : List Campaign) (tenantId : Uuid) (events : List WebAnalyticsEvent) : Prop :=
  ∀ ev ∈ events, ev.tagged = true → ∀ first ∈ firstSpelling events ev.key,
    resolveCampaignByUtm campaigns tenantId first.utmCampaign = resolveCampaignByUtm campaigns tenantId ev.utmCampaign

theorem campaignOf_iff {events : List WebAnalyticsEvent} {cache : Dict String (Option Uuid)}
    (filled : fillCache campaigns tenantId events [] = .ok cache) {ev : WebAnalyticsEvent} (member : ev ∈ events) :
    Except.ok (campaignOf cache ev) = resolveCampaignByUtm campaigns tenantId ev.utmCampaign ↔
      (ev.tagged = true → ∀ first ∈ firstSpelling events ev.key,
        resolveCampaignByUtm campaigns tenantId first.utmCampaign =
          resolveCampaignByUtm campaigns tenantId ev.utmCampaign) := by
  cases tagged : ev.tagged with
  | false =>
    have none_ : ev.utmCampaign.filter (· ≠ "") = none := Option.not_isSome_iff_eq_none.mp (by
      rw [← Bool.not_eq_true] at tagged
      exact tagged)
    rw [campaignOf, tagged, resolveCampaignByUtm, none_]
    simp
  | true =>
    have known := fillCache_get? filled ev.key
    obtain ⟨first, found⟩ : ∃ first, firstSpelling events ev.key = some first :=
      Option.isSome_iff_exists.mp (List.find?_isSome.mpr ⟨ev, member, by simp [tagged]⟩)
    rw [found, Dict.get?_nil, Option.map_none, Option.none_or, Option.map_some] at known
    obtain ⟨campaign, cached, same⟩ := Option.map_eq_some_iff.mp known
    simp [campaignOf, tagged, cached, found, same]

/-- Spellings of one key that differ in case alone agree, whatever the campaigns: those that
do not agree differ in the blanks around the name. -/
theorem spellingsAgree_of_case [CaseFold] {events : List WebAnalyticsEvent}
    (alike : ∀ ev ∈ events, ∀ other ∈ events, ev.tagged = true → other.tagged = true → other.key = ev.key →
      lower (other.utmCampaign.getD "") = lower (ev.utmCampaign.getD "")) : SpellingsAgree campaigns tenantId events := by
  intro ev member tagged first found
  have member' := List.mem_of_find?_eq_some found
  have chosen := List.find?_some found
  rw [Bool.and_eq_true, decide_eq_true_iff] at chosen
  have same := alike ev member first member' tagged chosen.1 chosen.2
  have named : ∀ ev : WebAnalyticsEvent, ev.tagged = true → ev.utmCampaign = some (ev.utmCampaign.getD "") := by
    intro ev tagged
    cases given : ev.utmCampaign with
    | none => simp [WebAnalyticsEvent.tagged, given] at tagged
    | some name => rfl
  rw [named ev tagged, named first chosen.1]
  exact resolve_of_lower_eq same campaigns tenantId

/-- The rows that the two loops build, once the cache is filled. -/
theorem attributeEvents_eq {events : List WebAnalyticsEvent} {cache : Dict String (Option Uuid)}
    (filled : fillCache campaigns tenantId events [] = .ok cache) :
    attributeEvents campaigns tenantId events = .ok (events.map (rowOf tenantId cache),
      ((events.map (rowOf tenantId cache)).filter fun row => row.campaignId = none).length) := by
  rw [attributeEvents, filled]
  change Except.ok (events.foldl (enterEvent tenantId cache) ([], 0)) = _
  rw [foldl_enterEvent, List.nil_append, Nat.zero_add, List.filter_map, List.length_map]
  rfl

/-- Where every name resolves, the rows are attributed by their own names if and
only if the first spelling of each name resolves as it does; and those without
a campaign are counted. -/
theorem ingestEvents_own_iff {events : List WebAnalyticsEvent}
    (resolves : ∀ ev ∈ events, ∃ found, resolveCampaignByUtm campaigns tenantId ev.utmCampaign = .ok found) :
    ∃ rows unattributed, attributeEvents campaigns tenantId events = .ok (rows, unattributed) ∧
      (OwnAttribution campaigns tenantId events rows ↔ SpellingsAgree campaigns tenantId events) ∧
      unattributed = (rows.filter fun row => row.campaignId = none).length ∧
      ∀ s s' summary, ingestEvents s campaigns tenantId events = .ok (s', summary) →
        s' = rows.foldl insertRow s ∧ summary.unattributed = unattributed := by
  obtain ⟨cache, filled⟩ := fillCache_total [] resolves
  refine ⟨_, _, attributeEvents_eq filled, ?_, rfl, fun s s' summary done => ?_⟩
  · rw [OwnAttribution, List.map_map, List.map_inj_left]
    exact forall₂_congr fun ev member => campaignOf_iff filled member
  · rw [ingestEvents, attributeEvents_eq filled] at done
    obtain ⟨_, same, done⟩ := bind_eq_ok.mp done
    cases same
    obtain ⟨_, _, done⟩ := bind_eq_ok.mp done
    cases done
    exact ⟨rfl, rfl⟩

end Ingest

namespace Spellings

local instance spellingErrors : LikeErrors := ⟨fun _ _ => false⟩

/-- `str.strip` on the names of these batches. -/
@[reducible] def trimmed : PyText :=
  { PyText.plain with
    strip := fun s => if s = " Spring" then "Spring" else s
    strip_empty := by decide
    strip_strip := fun s => by
      by_cases blank : s = " Spring"
      · simp [blank]
      · simp [blank]
    strip_lower := fun _ => rfl }

local instance spellingText : PyText := trimmed

def event (id name : String) : WebAnalyticsEvent where
  providerEventId := id
  eventType := .click
  metricValue := 1
  eventAt := 0
  utmCampaign := some name

def springBatch : List WebAnalyticsEvent := [event "a" "Spring", event "b" "Spring", event "c" ""]

/-- Two events with one spelling, and one without a name. -/
theorem ingestEvents_own_spring : ∃ rows unattributed,
    attributeEvents [named "Spring"] 1 springBatch = .ok (rows, unattributed) ∧
      OwnAttribution [named "Spring"] 1 springBatch rows ∧ unattributed = 1 := by
  have resolves : ∀ ev ∈ springBatch,
      ∃ found, resolveCampaignByUtm [named "Spring"] 1 ev.utmCampaign = .ok found := by
    intro ev member
    simp only [springBatch, List.mem_cons, List.not_mem_nil, or_false] at member
    rcases member with rfl | rfl | rfl
    · exact ⟨some 1, by decide +kernel⟩
    · exact ⟨some 1, by decide +kernel⟩
    · exact ⟨none, by decide +kernel⟩
  have agree : SpellingsAgree [named "Spring"] 1 springBatch := by
    unfold SpellingsAgree
    decide +kernel
  have counted : ((attributeEvents [named "Spring"] 1 springBatch).toOption.map Prod.snd) = some 1 := by
    decide +kernel
  obtain ⟨rows, unattributed, built, own, _⟩ := ingestEvents_own_iff resolves
  rw [built] at counted
  exact ⟨rows, unattributed, built, own.mpr agree, Option.some.inj counted⟩

/-- A blank before the first name of the batch loses the other event its campaign,
which it has in the other order. -/
theorem blank_first :
    (∃ built ∈ (attributeEvents [named "Spring"] 1 [event "b" " Spring", event "a" "Spring"]).toOption,
      built.1.map EventRow.campaignId = [none, none] ∧
        ¬ OwnAttribution [named "Spring"] 1 [event "b" " Spring", event "a" "Spring"] built.1) ∧
    (∃ built ∈ (attributeEvents [named "Spring"] 1 [event "a" "Spring", event "b" " Spring"]).toOption,
      built.1.map EventRow.campaignId = [some 1, some 1]) ∧
    resolveCampaignByUtm [named "Spring"] 1 (some "Spring") = .ok (some 1) ∧
    resolveCampaignByUtm [named "Spring"] 1 (some " Spring") = .ok none := by
  unfold OwnAttribution
  exact ⟨by decide +kernel, by decide +kernel, by decide +kernel, by decide +kernel⟩

end Spellings

end WebAnalytics

end MarketingAgents
