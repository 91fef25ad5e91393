import MarketingAgents.Analytics.CustomKpis

namespace MarketingAgents

open Lib PyText

/-- The KPI with one filter line. -/
def CustomKpi.withFilter (kpi : CustomKpi) (path op : String) (value : Json) : CustomKpi :=
  { kpi with formula := kpi.formula.set "filters" (.arr [.obj [("path", .str path), ("op", .str op), ("value", value)]]) }

section Complements

variable [PyText] [JsonbText]

/-- The number that the evaluation returns. -/
def kpiCount (s : EventStore) (campaignId : Uuid) (now : Int) (kpi : CustomKpi) : Option Nat :=
  (evaluateCustomKpi s kpi campaignId now).toOption.bind EvaluationResult.value

/-- Two filters on the same path and value split the unfiltered count. -/
def Split (s : EventStore) (campaignId : Uuid) (now : Int) (kpi : CustomKpi) (path : String) (value : Json)
    (op negated : String) : Prop :=
  ∃ all some_ others, kpiCount s campaignId now kpi = some all ∧
    kpiCount s campaignId now (kpi.withFilter path op value) = some some_ ∧
    kpiCount s campaignId now (kpi.withFilter path negated value) = some others ∧ some_ + others = all

/-- The two counts add up. -/
theorem Split.sum {s : EventStore} {campaignId : Uuid} {now : Int} {kpi : CustomKpi} {path : String} {value : Json}
    {op negated : String} {all some_ others : Nat} (split : Split s campaignId now kpi path value op negated)
    (counted : kpiCount s campaignId now kpi = some all)
    (on : kpiCount s campaignId now (kpi.withFilter path op value) = some some_)
    (off : kpiCount s campaignId now (kpi.withFilter path negated value) = some others) : some_ + others = all := by
  obtain ⟨_, _, _, counted', on', off', sum⟩ := split
  rw [counted] at counted'
  rw [on] at on'
  rw [off] at off'
  cases counted'
  cases on'
  cases off'
  exact sum

/-- The events of the kind that are attributed to the campaign, and late enough. -/
def countedEvents (s : EventStore) (tenantId campaignId : Uuid) (kind : EventKind) (cutoff : Option Int) : List EventRow :=
  ((s.campaignEvents tenantId campaignId).filter (·.eventType = kind)).filter fun e => ∀ first ∈ cutoff, first ≤ e.eventAt

variable {s : EventStore} {campaignId : Uuid} {now : Int} {kpi : CustomKpi} {kind : EventKind} {cutoff : Option Int}
  {path : String} {parents : List String} {leaf : String}

omit [JsonbText] in
/-- The filter line is understood. -/
theorem filterClause_line {op : String} {value : Json} {supported : FilterOp} {clause : FilterClause}
    (column : columnForPath path = some (.payload parents leaf)) (named : supportedOp op = some supported)
    (made : clauseOf (.payload parents leaf) value supported = some clause) :
    filterClause (.obj [("path", .str path), ("op", .str op), ("value", value)]) = .ok (some clause) := by
  have somewhere : path ≠ "" := by
    rintro rfl
    cases column
  have operated : op ≠ "" := by
    rintro rfl
    cases named
  have at_ : getOr [("path", .str path), ("op", .str op), ("value", value)] "path" "" = .str path := by
    simp [getOr, Dict.get?, Option.filter, Json.truthy, somewhere]
  have by_ : getOr [("path", .str path), ("op", .str op), ("value", value)] "op" "eq" = .str op := by
    simp [getOr, Dict.get?, Option.filter, Json.truthy, operated]
  have given : Dict.get? [("path", Json.str path), ("op", .str op), ("value", value)] "value" = some value := by
    simp [Dict.get?]
  have truthy : (Json.str path).truthy = true := by simpa [Json.truthy] using somewhere
  simp only [filterClause, Json.dict?, at_, by_, truthy, named, Json.str?, column, given, Option.bind_some,
    Option.getD_some, made]
  rfl

/-- The evaluation counts the events that every clause keeps. -/
theorem kpiCount_of_clauses {clauses : List FilterClause} (typed : kpi.formula.get? "event_type" = some (.str kind.value))
    (window : windowCutoff kpi.formula now = .ok cutoff)
    (happened : (s.campaignEvents kpi.tenantId campaignId).filter (·.eventType = kind) ≠ [])
    (read : filterClauses kpi.formula = .ok clauses) (compile : clauses.all FilterClause.compiles = true) :
    kpiCount s campaignId now kpi =
      some ((countedEvents s kpi.tenantId campaignId kind cutoff).filter fun e => clauses.all (·.keeps e)).length := by
  have truthy : (Json.str kind.value).truthy = true := by cases kind <;> rfl
  have counted : countFiltered ((s.campaignEvents kpi.tenantId campaignId).filter (·.eventType = kind)) kpi.formula now =
      .ok ((countedEvents s kpi.tenantId campaignId kind cutoff).filter fun e => clauses.all (·.keeps e)).length := by
    simp only [countFiltered, window, read, require, if_pos compile, countedEvents, bind, Except.bind, pure, Except.pure]
    cases cutoff <;> simp
  simp only [kpiCount, evaluateCustomKpi, typed, Option.getD_some, truthy, Json.str?, Option.bind_some, coerceEventKind_value]
  rw [if_neg (by simp), if_neg happened, counted]
  rfl

/-- Without a line it counts them all. -/
theorem kpiCount_unfiltered (typed : kpi.formula.get? "event_type" = some (.str kind.value))
    (window : windowCutoff kpi.formula now = .ok cutoff) (unfiltered : kpi.formula.get? "filters" = none)
    (happened : (s.campaignEvents kpi.tenantId campaignId).filter (·.eventType = kind) ≠ []) :
    kpiCount s campaignId now kpi = some (countedEvents s kpi.tenantId campaignId kind cutoff).length := by
  have read : filterClauses kpi.formula = .ok [] := by simp [filterClauses, unfiltered]
  rw [kpiCount_of_clauses typed window happened read rfl]
  simp

/-- With a line on the payload it counts those that the line keeps. -/
theorem kpiCount_withFilter {op : String} {value : Json} {supported : FilterOp} {clause : FilterClause}
    (typed : kpi.formula.get? "event_type" = some (.str kind.value)) (window : windowCutoff kpi.formula now = .ok cutoff)
    (happened : (s.campaignEvents kpi.tenantId campaignId).filter (·.eventType = kind) ≠ [])
    (column : columnForPath path = some (.payload parents leaf)) (named : supportedOp op = some supported)
    (made : clauseOf (.payload parents leaf) value supported = some clause) (at_ : clause.column = .payload parents leaf) :
    kpiCount s campaignId now (kpi.withFilter path op value) =
      some ((countedEvents s kpi.tenantId campaignId kind cutoff).filter clause.keeps).length := by
  have typed' : (kpi.withFilter path op value).formula.get? "event_type" = some (.str kind.value) := by
    rw [CustomKpi.withFilter, Dict.get?_set_ne _ _ (by decide), typed]
  have window' : windowCutoff (kpi.withFilter path op value).formula now = .ok cutoff := by
    rw [← window, windowCutoff, windowCutoff, windowDays, windowDays, CustomKpi.withFilter, Dict.get?_set_ne _ _ (by decide)]
  have read : filterClauses (kpi.withFilter path op value).formula = .ok [clause] := by
    simp only [filterClauses, CustomKpi.withFilter, Dict.get?_set_self, List.mapM_cons, List.mapM_nil,
      filterClause_line column named made, bind, Except.bind, pure, Except.pure, Except.map]
    rfl
  have compiles : clause.compiles = true := by
    unfold FilterClause.compiles
    rw [at_]
  rw [kpiCount_of_clauses typed' window' happened read (by simp [compiles])]
  simp [CustomKpi.withFilter]

/-- Two operators that exclude each other split the count if and only if one of them takes each event. -/
theorem split_iff {op negated : String} {value : Json} {supported supported' : FilterOp} {clause clause' : FilterClause}
    (typed : kpi.formula.get? "event_type" = some (.str kind.value)) (window : windowCutoff kpi.formula now = .ok cutoff)
    (unfiltered : kpi.formula.get? "filters" = none)
    (happened : (s.campaignEvents kpi.tenantId campaignId).filter (·.eventType = kind) ≠ [])
    (column : columnForPath path = some (.payload parents leaf))
    (named : supportedOp op = some supported) (made : clauseOf (.payload parents leaf) value supported = some clause)
    (named' : supportedOp negated = some supported')
    (made' : clauseOf (.payload parents leaf) value supported' = some clause')
    (at_ : clause.column = .payload parents leaf) (at_' : clause'.column = .payload parents leaf)
    (apart : ∀ e, clause.keeps e = true → clause'.keeps e = false) :
    Split s campaignId now kpi path value op negated ↔
      ∀ e ∈ countedEvents s kpi.tenantId campaignId kind cutoff, clause.keeps e = true ∨ clause'.keeps e = true := by
  rw [← filter_add_filter_iff apart]
  simp only [Split, kpiCount_unfiltered typed window unfiltered happened,
    kpiCount_withFilter typed window happened column named made at_,
    kpiCount_withFilter typed window happened column named' made' at_', Option.some.injEq]
  simp

/-- The event has a text at the path. -/
def HasText (parents : List String) (leaf : String) (e : EventRow) : Prop :=
  ∃ text, FilterColumn.of e (.payload parents leaf) = some text

/-- No event is on both sides. -/
theorem keeps_apart {op negated : FilterOp} {values : List String} {e : EventRow} (positive : op = .eq ∨ op = .isIn)
    (negative : negated = .neq ∨ negated = .notIn) (kept : FilterClause.keeps ⟨.payload parents leaf, op, values⟩ e = true) :
    FilterClause.keeps ⟨.payload parents leaf, negated, values⟩ e = false := by
  cases found : FilterColumn.of e (.payload parents leaf) with
  | none => rcases positive with rfl | rfl <;> simp [FilterClause.keeps, found] at kept
  | some text =>
    have listed : text ∈ values := by
      rcases positive with rfl | rfl <;> simpa [FilterClause.keeps, found] using kept
    rcases negative with rfl | rfl <;> simp [FilterClause.keeps, found, listed]

/-- The sides take the events that have a text; a comparison with NULL is on
neither side, but nothing at all is outside an empty list. -/
theorem keeps_either {op negated : FilterOp} {values : List String} {e : EventRow} (positive : op = .eq ∨ op = .isIn)
    (negative : negated = .neq ∨ negated = .notIn) :
    FilterClause.keeps ⟨.payload parents leaf, op, values⟩ e = true ∨
        FilterClause.keeps ⟨.payload parents leaf, negated, values⟩ e = true ↔
      negated = .notIn ∧ values = [] ∨ HasText parents leaf e := by
  cases found : FilterColumn.of e (.payload parents leaf) with
  | none =>
    rcases positive with rfl | rfl <;> rcases negative with rfl | rfl <;> simp [FilterClause.keeps, HasText, found]
  | some text =>
    rcases positive with rfl | rfl <;> rcases negative with rfl | rfl <;> simp [FilterClause.keeps, HasText, found, em]

/-- `eq` and `neq` leave out the events without the key. -/
theorem eq_neq_split_iff (typed : kpi.formula.get? "event_type" = some (.str kind.value))
    (window : windowCutoff kpi.formula now = .ok cutoff) (unfiltered : kpi.formula.get? "filters" = none)
    (happened : (s.campaignEvents kpi.tenantId campaignId).filter (·.eventType = kind) ≠ [])
    (column : columnForPath path = some (.payload parents leaf)) (value : Json) :
    Split s campaignId now kpi path value "eq" "neq" ↔
      ∀ e ∈ countedEvents s kpi.tenantId campaignId kind cutoff, HasText parents leaf e := by
  rw [split_iff typed window unfiltered happened column (rfl : supportedOp "eq" = some .eq) rfl
    (rfl : supportedOp "neq" = some .neq) rfl rfl rfl fun e => keeps_apart (by simp) (by simp)]
  refine forall₂_congr fun e _ => ?_
  rw [keeps_either (by simp) (by simp)]
  simp

/-- `in` and `not_in` leave them out too, unless the list is empty. -/
theorem in_notIn_split_iff (typed : kpi.formula.get? "event_type" = some (.str kind.value))
    (window : windowCutoff kpi.formula now = .ok cutoff) (unfiltered : kpi.formula.get? "filters" = none)
    (happened : (s.campaignEvents kpi.tenantId campaignId).filter (·.eventType = kind) ≠ [])
    (column : columnForPath path = some (.payload parents leaf)) (items : List Json) :
    Split s campaignId now kpi path (.arr items) "in" "not_in" ↔
      items = [] ∨ ∀ e ∈ countedEvents s kpi.tenantId campaignId kind cutoff, HasText parents leaf e := by
  rw [split_iff typed window unfiltered happened column (rfl : supportedOp "in" = some .isIn) rfl
    (rfl : supportedOp "not_in" = some .notIn) rfl rfl rfl fun e => keeps_apart (by simp) (by simp)]
  simp only [keeps_either (.inr rfl : FilterOp.isIn = .eq ∨ _) (.inr rfl : FilterOp.notIn = .neq ∨ _),
    List.map_eq_nil_iff, true_and]
  by_cases empty : items = []
  · simp [empty]
  · simp [empty]

/-- On a path into the payload, `eq` and `neq` add up to the unfiltered count
if and only if each event has a text there, and so do `in` and `not_in`, which
also add up on an empty list. The comparison with NULL keeps an event without the
key on neither side. -/
theorem filters_partition_iff (typed : kpi.formula.get? "event_type" = some (.str kind.value))
    (window : windowCutoff kpi.formula now = .ok cutoff) (unfiltered : kpi.formula.get? "filters" = none)
    (happened : (s.campaignEvents kpi.tenantId campaignId).filter (·.eventType = kind) ≠ [])
    (column : columnForPath path = some (.payload parents leaf)) (value : Json) (items : List Json) :
    let texts := ∀ e ∈ countedEvents s kpi.tenantId campaignId kind cutoff, HasText parents leaf e
    (Split s campaignId now kpi path value "eq" "neq" ↔ texts) ∧
      (Split s campaignId now kpi path (.arr items) "in" "not_in" ↔ items = [] ∨ texts) :=
  ⟨eq_neq_split_iff typed window unfiltered happened column value,
    in_notIn_split_iff typed window unfiltered happened column items⟩

end Complements

namespace Keyless

local instance keylessText : PyText := PyText.plain

local instance keylessJsonb : JsonbText := JsonbText.plain

def clicks : CustomKpi := ⟨1, [("event_type", .str "click")]⟩

def click (id : Uuid) (payload : Dict String Json) : EventRow where
  id := id
  tenantId := 1
  eventType := .click
  payload := payload
  providerEventId := none
  eventAt := 0
  campaignId := some 5

/-- One click names its plan, the other does not. -/
def clicked : EventStore where
  events := [click 1 [("plan", .str "pro")], click 2 []]
  dispatchAttempts := []
  assets := []

/-- The same, without the second click. -/
def planned : EventStore := { clicked with events := [click 1 [("plan", .str "pro")]] }

theorem filters_partition_planned :
    (clicks.formula.get? "event_type" = some (.str EventKind.click.value) ∧
      columnForPath "payload.plan" = some (.payload [] "plan")) ∧
    Split planned 5 0 clicks "payload.plan" (.str "free") "eq" "neq" ∧
      Split planned 5 0 clicks "payload.plan" (.arr [.str "free"]) "in" "not_in" := by
  have column : columnForPath "payload.plan" = some (.payload [] "plan") := by rfl
  have texts : ∀ e ∈ countedEvents planned 1 5 .click none, HasText [] "plan" e := by
    intro e counted
    have listed : e ∈ [click 1 [("plan", .str "pro")]] := (List.mem_filter.mp (List.mem_filter.mp
      (List.mem_filter.mp counted).1).1).1
    rw [List.mem_singleton.mp listed]
    exact ⟨"pro", rfl⟩
  have typed : clicks.formula.get? "event_type" = some (.str EventKind.click.value) := by rfl
  have window : windowCutoff clicks.formula 0 = .ok none := by rfl
  have happened : (planned.campaignEvents 1 5).filter (·.eventType = .click) ≠ [] := by decide
  have split := filters_partition_iff typed window rfl happened column (.str "free") [.str "free"]
  exact ⟨⟨rfl, column⟩, split.1.mpr texts, split.2.mpr (Or.inr texts)⟩

/-- The click without the key is counted by neither `eq` nor `neq`, and by
neither `in` nor `not_in`. -/
theorem keyless_click_is_on_neither_side :
    kpiCount clicked 5 0 clicks = some 2 ∧
      kpiCount clicked 5 0 (clicks.withFilter "payload.plan" "eq" (.str "pro")) = some 1 ∧
      kpiCount clicked 5 0 (clicks.withFilter "payload.plan" "neq" (.str "pro")) = some 0 ∧
      ¬ Split clicked 5 0 clicks "payload.plan" (.str "pro") "eq" "neq" ∧
      ¬ Split clicked 5 0 clicks "payload.plan" (.arr [.str "pro"]) "in" "not_in" := by
  have all : kpiCount clicked 5 0 clicks = some 2 := by rfl
  have eq : kpiCount clicked 5 0 (clicks.withFilter "payload.plan" "eq" (.str "pro")) = some 1 := by rfl
  have neq : kpiCount clicked 5 0 (clicks.withFilter "payload.plan" "neq" (.str "pro")) = some 0 := by rfl
  have isIn : kpiCount clicked 5 0 (clicks.withFilter "payload.plan" "in" (.arr [.str "pro"])) = some 1 := by rfl
  have notIn : kpiCount clicked 5 0 (clicks.withFilter "payload.plan" "not_in" (.arr [.str "pro"])) = some 0 := by rfl
  refine ⟨all, eq, neq, fun split => ?_, fun split => ?_⟩
  · exact absurd (split.sum all eq neq) (by decide)
  · exact absurd (split.sum all isIn notIn) (by decide)

end Keyless

end MarketingAgents
