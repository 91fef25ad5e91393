import MarketingAgents.Analytics.Report

namespace MarketingAgents

open Lib PyText

/-- The columns of `custom_kpi` that the evaluator reads. -/
structure CustomKpi where
  tenantId : Uuid
  formula : Dict String Json

structure EvaluationResult where
  value : Option Nat
  missingEvent : Bool
  message : Option String := none
deriving DecidableEq

/-- How an evaluation raises: a value the database refuses for a column, or another error of Python. -/
inductive EvaluationError where
  | dataError
  | raised
deriving DecidableEq

/-- What `_column_for_path` resolves to. -/
inductive FilterColumn where
  | payload (parents : List String) (leaf : String)
  | channelId
  | eventType

inductive FilterOp where
  | eq | neq | isIn | notIn | contains

/-- A filter line that was understood, with its values as text. -/
structure FilterClause where
  column : FilterColumn
  op : FilterOp
  values : List String

def supportedOp : String → Option FilterOp
  | "eq" => some .eq
  | "neq" => some .neq
  | "in" => some .isIn
  | "not_in" => some .notIn
  | "contains" => some .contains
  | _ => none

/-- `_column_for_path`. -/
def columnForPath (path : String) : Option FilterColumn :=
  match ((path.toList.splitOn '.').filter (· ≠ [])).map String.ofList with
  | [] => none
  | "payload" :: keys => keys.getLast?.map fun leaf => .payload keys.dropLast leaf
  | "channel_id" :: _ => some .channelId
  | "event_type" :: _ => some .eventType
  | _ => none

section Evaluate

variable [PyText] [JsonbText]

/-- `_str_value`. -/
def strValue (v : Json) : String := if v = .null then "" else str v

/-- `filter_obj.get(key) or default`. -/
def getOr (fields : Dict String Json) (key default : String) : Json :=
  ((fields.get? key).filter Json.truthy).getD (.str default)

/-- The clause of a column; `in` and `not_in` need a list. -/
def clauseOf (column : FilterColumn) (value : Json) : FilterOp → Option FilterClause
  | .isIn => match value with
    | .arr items => some ⟨column, .isIn, items.map strValue⟩
    | _ => none
  | .notIn => match value with
    | .arr items => some ⟨column, .notIn, items.map strValue⟩
    | _ => none
  | op => some ⟨column, op, [strValue value]⟩

/-- `_filter_clause`; a line it does not understand is passed over. -/
def filterClause (filter : Json) : Except EvaluationError (Option FilterClause) :=
  match filter.dict? with
  | none => .ok none
  | some fields =>
    let path := getOr fields "path" ""
    if path.truthy = false then .ok none
    else match getOr fields "op" "eq" with
      | .str name =>
        match supportedOp name with
        | none => .ok none
        | some op =>
          match path.str? with
          | none => .error .raised
          | some path =>
            .ok ((columnForPath path).bind fun column => clauseOf column ((fields.get? "value").getD .null) op)
      | .arr _ | .obj _ => .error .raised
      | _ => .ok none

/-- The column of an event as SQL sees it. -/
def FilterColumn.of (e : EventRow) : FilterColumn → Option String
  | .payload parents leaf =>
    astext ((parents.foldl (fun found key => found.bind fun fields => (fields.get? key).bind Json.dict?)
      (some e.payload)).bind (·.get? leaf))
  | .channelId => e.channelId.map uuidStr
  | .eventType => some e.eventType.value

/-- What the database makes of the values before it compares: a column that holds no
text has no `contains`. A NUL in a value, which the driver refuses, is left out of account. -/
def FilterClause.compiles (clause : FilterClause) : Bool :=
  match clause.column, clause.op with
  | .payload _ _, _ => true
  | _, .contains => false
  | .channelId, _ => clause.values.all fun value => (uuidOf value).isSome
  | .eventType, _ => clause.values.all fun value => (coerceEventKind value).isSome

/-- A comparison with NULL keeps no row. -/
def FilterClause.keeps (clause : FilterClause) (e : EventRow) : Bool :=
  let wanted := match clause.column with
    | .channelId => clause.values.map fun value => ((uuidOf value).map uuidStr).getD value
    | _ => clause.values
  match clause.column.of e with
  | none => clause.op matches .notIn && wanted.isEmpty
  | some found =>
    match clause.op with
    | .eq | .isIn => found ∈ wanted
    | .neq | .notIn => found ∉ wanted
    | .contains => wanted.any fun value => ilike ("%" ++ value ++ "%") found

/-- `formula.get("window_days")` where it is a positive number, as `int(window_days)`. -/
def windowDays (formula : Dict String Json) : Option Int :=
  match formula.get? "window_days" with
  | some (.int n) => if 0 < n then some n else none
  | some (.bool true) => some 1
  | some (.float repr) =>
    if repr.startsWith "-" || repr = "nan" || !(Json.float repr).truthy then none else intOf (.float repr)
  | _ => none

/-- The first instant of the calendar, in microseconds from the epoch. -/
def datetimeMin : Int := -62135596800000000

/-- `now - timedelta(days=…)`, and whether an event is late enough for it. -/
def windowCutoff (formula : Dict String Json) (now : Int) : Except EvaluationError (Option Int) :=
  match windowDays formula with
  | none => .ok none
  | some days => if now - days * 86400000000 < datetimeMin then .error .raised
    else .ok (some (now - days * 86400000000))

/-- `formula.get("filters") or []`, each line compiled. -/
def filterClauses (formula : Dict String Json) : Except EvaluationError (List FilterClause) :=
  match formula.get? "filters" with
  | none => .ok []
  | some (.arr items) => (items.mapM filterClause).map fun clauses => clauses.filterMap id
  | some (.obj _) | some (.str _) => .ok []
  | some value => if value.truthy then .error .raised else .ok []

/-- The count behind a known kind, once the campaign has events of it. -/
def countFiltered (events : List EventRow) (formula : Dict String Json) (now : Int) : Except EvaluationError Nat := do
  let cutoff ← windowCutoff formula now
  let clauses ← filterClauses formula
  require (clauses.all FilterClause.compiles = true) .dataError
  let recent := match cutoff with
    | none => events
    | some cutoff => events.filter fun e => cutoff ≤ e.eventAt
  pure (recent.filter fun e => clauses.all fun clause => clause.keeps e).length

/-- `evaluate_custom_kpi`. -/
def evaluateCustomKpi (s : EventStore) (kpi : CustomKpi) (campaignId : Uuid) (now : Int) :
    Except EvaluationError EvaluationResult :=
  let raw := (kpi.formula.get? "event_type").getD .null
  if raw.truthy = false then .ok ⟨none, true, some "formula.event_type is required"⟩
  else match raw.str?.bind coerceEventKind with
    | none => .ok ⟨none, true, some ("unknown event_type '" ++ str raw ++ "'")⟩
    | some kind =>
      let ofKind := (s.campaignEvents kpi.tenantId campaignId).filter (·.eventType = kind)
      if ofKind = [] then .ok ⟨none, true, some ("no '" ++ kind.value ++ "' events recorded for this campaign")⟩
      else (countFiltered ofKind kpi.formula now).map fun count => ⟨some count, false, none⟩

end Evaluate

/-- Each attempt's asset, where there is one, belongs to the attempt's tenant. -/
def EventStore.OwnAssets (s : EventStore) : Prop :=
  ∀ d ∈ s.dispatchAttempts, ∀ a ∈ s.assets, a.id = d.contentAssetId → a.tenantId = d.tenantId

section Agreement

variable [PyText] [JsonbText]

omit [PyText] in
theorem indirectExists_eq_indirectLink {s : EventStore} (own : s.OwnAssets) (tenantId campaignId : Uuid)
    (e : EventRow) : s.indirectExists tenantId campaignId e = s.indirectLink tenantId campaignId e := by
  rw [EventStore.indirectExists, EventStore.indirectLink, EventStore.linkedBy, EventStore.linkedBy, Bool.eq_iff_iff]
  simp only [List.any_eq_true, Bool.and_eq_true, decide_eq_true_eq]
  refine exists_congr fun d => and_congr_right fun listed => and_congr_right fun head => ?_
  refine exists_congr fun a => and_congr_right fun present => and_congr_right fun named => ?_
  refine ⟨fun both => both.2, fun campaign => ⟨?_, campaign⟩⟩
  rw [own d listed a present named, head.1.1]

omit [PyText] in
/-- Without filters the roll-up reads the same events as the reports. -/
theorem baseFilter_events {s : EventStore} (own : s.OwnAssets) (tenantId campaignId : Uuid) :
    s.events.filter (s.baseFilter tenantId campaignId none none) = s.campaignEvents tenantId campaignId := by
  refine List.filter_congr fun e _ => ?_
  rw [EventStore.baseFilter, indirectExists_eq_indirectLink own, Bool.and_true, Bool.and_true]

omit [PyText] in
theorem computeCampaignKpis_count {s : EventStore} (own : s.OwnAssets) (tenantId campaignId : Uuid) (now : Int)
    {kind : EventKind} (counted : kind ≠ .spend) :
    (computeCampaignKpis s tenantId campaignId none none now).kpis.count kind =
      ((s.campaignEvents tenantId campaignId).filter (·.eventType = kind)).length := by
  rw [← byKind_count _ counted, ← baseFilter_events own]
  cases kind <;> first | rfl | contradiction

omit [PyText] in
theorem computeCampaignKpis_spend {s : EventStore} (own : s.OwnAssets) (tenantId campaignId : Uuid) (now : Int) :
    (computeCampaignKpis s tenantId campaignId none none now).kpis.spend =
      metricSum ((s.campaignEvents tenantId campaignId).filter (·.eventType = .spend)) := by
  rw [← spendTotal_kindRows, ← baseFilter_events own]
  rfl

omit [JsonbText] in
theorem filterClauses_unfiltered {formula : Dict String Json}
    (unfiltered : ((formula.get? "filters").getD .null).truthy = false) : filterClauses formula = .ok [] := by
  unfold filterClauses
  cases filters : formula.get? "filters" with
  | none => rfl
  | some value =>
    rw [filters, Option.getD_some] at unfiltered
    cases value with
    | arr items =>
      have empty : items = [] := by simpa [Json.truthy] using unfiltered
      rw [empty]
      rfl
    | obj | str => rfl
    | null | bool | int | float => simp [unfiltered]

theorem evaluateCustomKpi_plain {s : EventStore} {kpi : CustomKpi} {kind : EventKind}
    (typed : kpi.formula.get? "event_type" = some (.str kind.value))
    (unfiltered : ((kpi.formula.get? "filters").getD .null).truthy = false)
    (unwindowed : (kpi.formula.get? "window_days").getD .null = .null) (campaignId : Uuid) (now : Int)
    (some_ : (s.campaignEvents kpi.tenantId campaignId).filter (·.eventType = kind) ≠ []) :
    evaluateCustomKpi s kpi campaignId now =
      .ok ⟨some ((s.campaignEvents kpi.tenantId campaignId).filter (·.eventType = kind)).length, false, none⟩ := by
  have truthy : (Json.str kind.value).truthy = true := by cases kind <;> rfl
  have window : windowCutoff kpi.formula now = .ok none := by
    unfold windowCutoff windowDays
    cases days : kpi.formula.get? "window_days" with
    | none => rfl
    | some value =>
      rw [days, Option.getD_some] at unwindowed
      rw [unwindowed]
  have clauses := filterClauses_unfiltered unfiltered
  have counted : countFiltered ((s.campaignEvents kpi.tenantId campaignId).filter (·.eventType = kind)) kpi.formula now =
      .ok ((s.campaignEvents kpi.tenantId campaignId).filter (·.eventType = kind)).length := by
    simp [countFiltered, window, clauses, bind, Except.bind, pure, Except.pure, require]
  simp only [evaluateCustomKpi, typed, Option.getD_some, truthy, Json.str?, Option.bind_some, coerceEventKind_value]
  rw [if_neg (by simp), if_neg some_, counted]
  rfl

/-- One campaign, one set of numbers: each of the four aggregations returns
the number of the tenant's events of the kind that are attributed to the
campaign, in whatever way, and the roll-up's spend is what the breakdown adds up to.
A formula without filters has none, or a null or an empty list of them. -/
theorem one_set_of_numbers {s : EventStore} (own : s.OwnAssets) (tenantId campaignId : Uuid) (now : Int) :
    (∀ kind, kind ≠ .spend →
      let n := (s.events.filter fun e => e.tenantId = tenantId ∧ e.eventType = kind ∧
        (e.campaignId = some campaignId ∨ s.indirectLink tenantId campaignId e)).length
      (computeCampaignKpis s tenantId campaignId none none now).kpis.count kind = n ∧
      (s.campaignEvents tenantId campaignId ≠ [] → countMetric s tenantId campaignId kind.value = some n) ∧
      (kind ∈ [.click, .impression, .opened, EventKind.conversion] →
        ((channelBreakdown s tenantId campaignId).map fun row => row.bucket.column kind).sum = n) ∧
      ∀ kpi : CustomKpi, kpi.tenantId = tenantId → kpi.formula.get? "event_type" = some (.str kind.value) →
        ((kpi.formula.get? "filters").getD .null).truthy = false →
        (kpi.formula.get? "window_days").getD .null = .null → 0 < n →
        evaluateCustomKpi s kpi campaignId now = .ok ⟨some n, false, none⟩) ∧
    (computeCampaignKpis s tenantId campaignId none none now).kpis.spend =
      ((channelBreakdown s tenantId campaignId).map fun row => row.bucket.spend).sum := by
  refine ⟨fun kind counted => ?_, ?_⟩
  · intro n
    have events : ((s.campaignEvents tenantId campaignId).filter (·.eventType = kind)).length = n := by
      refine congrArg List.length ((List.filter_filter ..).trans (List.filter_congr fun e _ => ?_))
      rw [Bool.eq_iff_iff]
      simp only [Bool.and_eq_true, Bool.or_eq_true, decide_eq_true_eq]
      exact and_left_comm
    refine ⟨(computeCampaignKpis_count own tenantId campaignId now counted).trans events, fun some_ => ?_,
      fun column => (channelBreakdown_column s tenantId campaignId column).trans events, ?_⟩
    · simp only [countMetric, coerceEventKind_value]
      rw [if_neg some_, events]
    · rintro kpi rfl typed unfiltered unwindowed positive
      have some_ : (s.campaignEvents kpi.tenantId campaignId).filter (·.eventType = kind) ≠ [] := by
        intro none
        rw [none, List.length_nil] at events
        omega
      rw [← events]
      exact evaluateCustomKpi_plain typed unfiltered unwindowed campaignId now some_
  · rw [computeCampaignKpis_spend own, channelBreakdown_spend]

end Agreement

namespace Figures

local instance figuresText : PyText := PyText.plain

local instance figuresJsonb : JsonbText := JsonbText.plain

/-- A click that names its campaign and carries the message id of an attempt of the same campaign. -/
def clickTwice : EventRow where
  id := 1
  tenantId := 1
  eventType := .click
  payload := [("sg_message_id", .str "m1")]
  providerEventId := some "e1"
  eventAt := 0
  campaignId := some 5

def sentMail : DispatchAttempt where
  tenantId := 1
  contentAssetId := 7
  audienceExternalId := none
  recipientIdentifier := "ann@mail.io"
  idempotencyKey := "k"
  provider := "sendgrid"
  providerMessageId := some "m1"
  status := .sent
  lastError := none
  sentAt := some 0

def clickedMail : EventStore where
  events := [clickTwice]
  dispatchAttempts := [sentMail]
  assets := [{ id := 7, tenantId := 1, campaignId := 5, assetType := .email, status := .published }]

/-- All clicks, with a list of filters that is empty. -/
def allClicks : CustomKpi where
  tenantId := 1
  formula := [("event_type", .str "click"), ("filters", .arr []), ("window_days", .null)]

theorem one_set_of_numbers_once :
    (computeCampaignKpis clickedMail 1 5 none none 0).kpis.clicks = 1 ∧
      countMetric clickedMail 1 5 "click" = some 1 ∧
      evaluateCustomKpi clickedMail allClicks 5 0 = .ok ⟨some 1, false, none⟩ := by
  have own : clickedMail.OwnAssets := by
    unfold EventStore.OwnAssets
    decide
  obtain ⟨rollup, report, _, formulas⟩ := (one_set_of_numbers own 1 5 0).1 .click (by decide)
  exact ⟨rollup, report (by decide), formulas allClicks rfl rfl rfl rfl (by decide)⟩

end Figures

end MarketingAgents
