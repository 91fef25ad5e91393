import MarketingAgents.Analytics.KpiRollup
import MarketingAgents.Lib.Result
import MarketingAgents.Lib.Run

namespace MarketingAgents

open Lib PyText

/-- What the detector uses of Python's `statistics` and floats; a float is the decimal of its `repr`. -/
class AnomalyFloat where
  median : List Nat → Rat
  pstdev : List Nat → Rat
  /-- `abs(observed - median) / stddev`. -/
  deviation : Nat → Rat → Rat → Rat
  /-- `round(value, places)`. -/
  round : Rat → Nat → Rat

structure DetectedAnomaly where
  metric : EventKind
  windowStart : Int
  windowEnd : Int
  observedValue : Nat
  baselineMedian : Rat
  baselineStddev : Rat
  sigma : Rat
  severity : String
deriving DecidableEq

/-- A row of `metric_anomaly`. -/
structure AnomalyRow where
  id : Uuid
  tenantId : Uuid
  campaignId : Uuid
  metric : EventKind
  windowStart : Int
  windowEnd : Int
  observedValue : Rat
  baselineMedian : Rat
  baselineStddev : Rat
  sigma : Rat
  severity : String
  dismissedAt : Option Int := none
  dismissedBy : Option Uuid := none
  createdAt : Int
deriving DecidableEq

/-- A figure that a `Numeric` column has no room for, and `LookupError`. -/
inductive AnomalyError where
  | numericOverflow
  | notFound (anomalyId : Uuid)
deriving DecidableEq

/-- A dismissal as it happened; the row keeps only the last one. -/
structure Dismissal where
  campaignId : Uuid
  metric : EventKind
  dismissedAt : Int

structure AnomalyStore where
  anomalies : List AnomalyRow := []
  nextId : Uuid := 0
  dismissals : List Dismissal := []

namespace Anomaly

def criticalMetrics : List EventKind := [.unsubscribe, .bounce, .spamComplaint]

def hotMetrics : List EventKind := [.opened, .click, .reply, .conversion, .unsubscribe, .bounce, .spamComplaint]

def baselineDays : Nat := 14

def day : Int := 86400000000

/-- `SILENCE_BETWEEN_FIRES`, and `SILENCE_AFTER_DISMISS`, which nothing reads. -/
def silence : Int := 24 * 3600000000

section Detect

variable [JsonbText] [AnomalyFloat]

omit [AnomalyFloat] in
/-- `_daily_counts`: day numbers with their counts, in order. -/
def dailyCounts (s : EventStore) (tenantId campaignId : Uuid) (metric : EventKind) (now : Int) : List (Int × Nat) :=
  let events := (s.campaignEvents tenantId campaignId).filter fun e =>
    e.eventType = metric ∧ now - baselineDays * day ≤ e.eventAt
  ((groups (fun e => e.eventAt / day) events).map fun g => (g.1, g.2.length)).insertionSort fun a b => a.1 ≤ b.1

/-- The distance of the observation from the baseline, `none` where it is not worth a row. -/
def deviationOf (baseline : List Nat) (observed : Nat) : Option Rat :=
  let median := AnomalyFloat.median baseline
  let stddev := AnomalyFloat.pstdev baseline
  let sigma := if stddev = 0 then if (observed : Rat) = median then none else some 9999
    else some (AnomalyFloat.deviation observed median stddev)
  sigma.filter fun sigma => 3 < sigma

/-- `_detect_one`. -/
def detectOne (s : EventStore) (tenantId campaignId : Uuid) (metric : EventKind) (now : Int) : Option DetectedAnomaly :=
  let series := dailyCounts s tenantId campaignId metric now
  if series.length < baselineDays then none
  else match series.getLast? with
    | none => none
    | some (observedDay, observed) =>
      let baseline := series.dropLast.map Prod.snd
      (deviationOf baseline observed).map fun sigma =>
        { metric := metric
          windowStart := observedDay * day
          windowEnd := observedDay * day + day
          observedValue := observed
          baselineMedian := AnomalyFloat.median baseline
          baselineStddev := AnomalyFloat.pstdev baseline
          sigma := sigma
          severity := if metric ∈ criticalMetrics then "critical" else "warning" }

/-- An undismissed anomaly of the metric that is not older than the window. -/
def Active (s : AnomalyStore) (tenantId campaignId : Uuid) (metric : EventKind) (now : Int) : Prop :=
  ∃ row ∈ s.anomalies, row.tenantId = tenantId ∧ row.campaignId = campaignId ∧ row.metric = metric ∧
    now - silence ≤ row.createdAt ∧ row.dismissedAt = none

instance decidableActive (s : AnomalyStore) (tenantId campaignId : Uuid) (metric : EventKind) (now : Int) :
    Decidable (Active s tenantId campaignId metric now) :=
  inferInstanceAs (Decidable (∃ row ∈ s.anomalies, _))

def anomalyRow (id tenantId campaignId : Uuid) (d : DetectedAnomaly) (now : Int) : AnomalyRow where
  id := id
  tenantId := tenantId
  campaignId := campaignId
  metric := d.metric
  windowStart := d.windowStart
  windowEnd := d.windowEnd
  observedValue := d.observedValue
  baselineMedian := AnomalyFloat.round d.baselineMedian 6
  baselineStddev := AnomalyFloat.round d.baselineStddev 6
  sigma := AnomalyFloat.round d.sigma 4
  severity := d.severity
  createdAt := now

/-- The columns are `Numeric(18, 6)`, and `Numeric(8, 4)` for sigma. -/
def Fits (d : DetectedAnomaly) : Prop :=
  (d.observedValue : Rat) < 10 ^ 12 ∧ |AnomalyFloat.round d.baselineMedian 6| < 10 ^ 12 ∧
    |AnomalyFloat.round d.baselineStddev 6| < 10 ^ 12 ∧ |AnomalyFloat.round d.sigma 4| < 10 ^ 4

instance decidableFits (d : DetectedAnomaly) : Decidable (Fits d) := inferInstanceAs (Decidable (_ ∧ _))

/-- The body of the loop over the hot metrics. -/
def detectMetric (data : EventStore) (tenantId campaignId : Uuid) (now : Int) (s : AnomalyStore) (metric : EventKind) :
    Except AnomalyError AnomalyStore :=
  match detectOne data tenantId campaignId metric now with
  | none => .ok s
  | some detected =>
    if Active s tenantId campaignId metric now then .ok s
    else if Fits detected then
      .ok { s with
        anomalies := s.anomalies ++ [anomalyRow s.nextId tenantId campaignId detected now]
        nextId := s.nextId + 1 }
    else .error .numericOverflow

/-- `detect_anomalies` on the events it reads; a row's `created_at` is the instant of its pass. -/
def detectAnomalies (data : EventStore) (tenantId campaignId : Uuid) (now : Int) (s : AnomalyStore) :
    Except AnomalyError AnomalyStore :=
  hotMetrics.foldlM (detectMetric data tenantId campaignId now) s

omit [JsonbText] [AnomalyFloat] in
/-- `dismiss_anomaly`. -/
def dismissAnomaly (anomalyId dismissedBy : Uuid) (now : Int) (s : AnomalyStore) : Except AnomalyError AnomalyStore :=
  match s.anomalies.find? (·.id = anomalyId) with
  | none => .error (.notFound anomalyId)
  | some row => .ok { s with
      anomalies := updateWhere (·.id = anomalyId)
        (fun row => { row with dismissedAt := some now, dismissedBy := some dismissedBy }) s.anomalies
      dismissals := s.dismissals ++ [⟨row.campaignId, row.metric, now⟩] }

end Detect

/-- A detection pass over whatever events are stored then, or a dismissal. -/
inductive AnomalyOp where
  | detect (data : EventStore) (tenantId campaignId : Uuid) (now : Int)
  | dismiss (anomalyId dismissedBy : Uuid) (now : Int)

section Runs

variable [JsonbText] [AnomalyFloat]

def outcome (s : AnomalyStore) : AnomalyOp → Except AnomalyError AnomalyStore
  | .detect data tenantId campaignId now => detectAnomalies data tenantId campaignId now s
  | .dismiss anomalyId dismissedBy now => dismissAnomaly anomalyId dismissedBy now s

/-- A pass or a request that raises is rolled back. -/
def step (s : AnomalyStore) (op : AnomalyOp) : AnomalyStore :=
  match outcome s op with
  | .ok s' => s'
  | .error _ => s

/-- No row that the step creates is of a campaign and metric dismissed less than a day before. -/
def Silent (s : AnomalyStore) (op : AnomalyOp) : Prop :=
  ∀ row ∈ (step s op).anomalies, row.id ∉ s.anomalies.map AnomalyRow.id →
    ∀ d ∈ s.dismissals, d.campaignId = row.campaignId → d.metric = row.metric → d.dismissedAt + silence ≤ row.createdAt

/-- The campaign's metric was dismissed less than a day ago. -/
def Hushed (s : AnomalyStore) (campaignId : Uuid) (metric : EventKind) (now : Int) : Prop :=
  ∃ d ∈ s.dismissals, d.campaignId = campaignId ∧ d.metric = metric ∧ now < d.dismissedAt + silence

/-- A figure of the pass has no room in its column, so that the pass raises. -/
def Refused (s : AnomalyStore) (data : EventStore) (tenantId campaignId : Uuid) (now : Int) : Prop :=
  ∃ metric ∈ hotMetrics, ∃ detected, detectOne data tenantId campaignId metric now = some detected ∧
    ¬ Active s tenantId campaignId metric now ∧ ¬ Fits detected

/-- Of the metrics that deviate, each one dismissed within a day has another
undismissed anomaly that is not older than a day. -/
def Covered (s : AnomalyStore) : AnomalyOp → Prop
  | .detect data tenantId campaignId now =>
    Refused s data tenantId campaignId now ∨
      ∀ metric ∈ hotMetrics, (detectOne data tenantId campaignId metric now).isSome →
        Hushed s campaignId metric now → Active s tenantId campaignId metric now
  | .dismiss .. => True

instance decidableRefused (s : AnomalyStore) (data : EventStore) (tenantId campaignId : Uuid) (now : Int) :
    Decidable (Refused s data tenantId campaignId now) :=
  decidable_of_iff (∃ metric ∈ hotMetrics, ∃ detected ∈ detectOne data tenantId campaignId metric now,
    ¬ Active s tenantId campaignId metric now ∧ ¬ Fits detected) Iff.rfl

instance decidableCovered (s : AnomalyStore) : ∀ op, Decidable (Covered s op)
  | .detect data tenantId campaignId now =>
    have (metric : EventKind) : Decidable (Hushed s campaignId metric now) :=
      inferInstanceAs (Decidable (∃ d ∈ s.dismissals, _))
    inferInstanceAs (Decidable (Refused s data tenantId campaignId now ∨ ∀ metric ∈ hotMetrics, _))
  | .dismiss .. => inferInstanceAs (Decidable True)

theorem detectOne_metric {data : EventStore} {tenantId campaignId : Uuid} {metric : EventKind} {now : Int}
    {detected : DetectedAnomaly} (found : detectOne data tenantId campaignId metric now = some detected) :
    detected.metric = metric := by
  simp only [detectOne] at found
  split at found
  · cases found
  · split at found
    · cases found
    · obtain ⟨sigma, _, rfl⟩ := Option.map_eq_some_iff.mp found
      rfl

/-- The store with the row of a detected anomaly. -/
def enter (s : AnomalyStore) (tenantId campaignId : Uuid) (now : Int) (detected : DetectedAnomaly) : AnomalyStore :=
  { s with
    anomalies := s.anomalies ++ [anomalyRow s.nextId tenantId campaignId detected now]
    nextId := s.nextId + 1 }

theorem detectMetric_ok {data : EventStore} {tenantId campaignId : Uuid} {now : Int} {s mid : AnomalyStore}
    {metric : EventKind} (done : detectMetric data tenantId campaignId now s metric = .ok mid) :
    mid = s ∧ ((detectOne data tenantId campaignId metric now).isSome → Active s tenantId campaignId metric now) ∨
    ∃ detected, detectOne data tenantId campaignId metric now = some detected ∧
      ¬ Active s tenantId campaignId metric now ∧ mid = enter s tenantId campaignId now detected := by
  unfold detectMetric at done
  split at done
  · rename_i quiet
    cases done
    exact Or.inl ⟨rfl, by simp [quiet]⟩
  · rename_i detected found
    split at done
    · rename_i active
      cases done
      exact Or.inl ⟨rfl, fun _ => active⟩
    · rename_i inactive
      split at done
      · cases done
        exact Or.inr ⟨detected, found, inactive, rfl⟩
      · cases done

theorem detectMetric_error {data : EventStore} {tenantId campaignId : Uuid} {now : Int} {s : AnomalyStore}
    {metric : EventKind} {error : AnomalyError} :
    detectMetric data tenantId campaignId now s metric = .error error → ∃ detected,
      detectOne data tenantId campaignId metric now = some detected ∧ ¬ Active s tenantId campaignId metric now ∧
        ¬ Fits detected := by
  intro failed
  unfold detectMetric at failed
  split at failed
  · cases failed
  · rename_i detected found
    split at failed
    · cases failed
    · rename_i inactive
      split at failed
      · cases failed
      · rename_i wide
        exact ⟨detected, found, inactive, wide⟩

omit [JsonbText] in
/-- A row of one metric says nothing about another. -/
theorem active_enter {s : AnomalyStore} {tenantId campaignId : Uuid} {metric : EventKind} {now : Int}
    {detected : DetectedAnomaly} (other : detected.metric ≠ metric) :
    Active (enter s tenantId campaignId now detected) tenantId campaignId metric now ↔
      Active s tenantId campaignId metric now := by
  constructor
  · rintro ⟨row, member, tenant, campaign, same, rest⟩
    rcases List.mem_append.mp member with old | new
    · exact ⟨row, old, tenant, campaign, same, rest⟩
    · rw [List.mem_singleton] at new
      subst new
      exact absurd same other
  · rintro ⟨row, member, facts⟩
    exact ⟨row, List.mem_append_left _ member, facts⟩

/-- What the loop over some of the metrics leaves. -/
structure Passed (data : EventStore) (tenantId campaignId : Uuid) (now : Int) (metrics : List EventKind)
    (s s' : AnomalyStore) : Prop where
  dismissals : s'.dismissals = s.dismissals
  nextId : s.nextId ≤ s'.nextId
  origin : ∀ row ∈ s'.anomalies, row ∈ s.anomalies ∨ s.nextId ≤ row.id ∧ row.id < s'.nextId ∧
    row.campaignId = campaignId ∧ row.createdAt = now ∧ row.metric ∈ metrics ∧
    (detectOne data tenantId campaignId row.metric now).isSome ∧ ¬ Active s tenantId campaignId row.metric now
  kept : s.anomalies ⊆ s'.anomalies
  entered : ∀ metric ∈ metrics, (detectOne data tenantId campaignId metric now).isSome →
    ¬ Active s tenantId campaignId metric now →
      ∃ row ∈ s'.anomalies, s.nextId ≤ row.id ∧ row.campaignId = campaignId ∧ row.metric = metric ∧ row.createdAt = now

/-- What a pass that returns has done for its metrics: which rows it has entered,
and that it has entered one for each metric that deviates and is not silent. The
induction is on the metrics still to come, and none comes twice. -/
theorem detectMetrics_ok {data : EventStore} {tenantId campaignId : Uuid} {now : Int} {metrics : List EventKind}
    (nodup : metrics.Nodup) {s s' : AnomalyStore}
    (done : metrics.foldlM (detectMetric data tenantId campaignId now) s = .ok s') :
    Passed data tenantId campaignId now metrics s s' := by
  induction metrics generalizing s with
  | nil =>
    cases done
    exact ⟨rfl, le_rfl, fun row member => Or.inl member, fun _ member => member, fun _ member => by cases member⟩
  | cons metric metrics ih =>
    obtain ⟨fresh, nodup⟩ := List.nodup_cons.mp nodup
    rw [List.foldlM_cons, bind_eq_ok] at done
    obtain ⟨mid, first, rest⟩ := done
    have passed := ih nodup rest
    rcases detectMetric_ok first with ⟨rfl, quiet⟩ | ⟨detected, found, inactive, rfl⟩
    · refine ⟨passed.dismissals, passed.nextId, fun row member => ?_, passed.kept, fun other member deviates silent => ?_⟩
      · rcases passed.origin row member with old | ⟨low, high, campaign, created, listed, rest⟩
        · exact Or.inl old
        · exact Or.inr ⟨low, high, campaign, created, List.mem_cons_of_mem _ listed, rest⟩
      · rcases List.mem_cons.mp member with rfl | later
        · exact absurd (quiet deviates) silent
        · exact passed.entered other later deviates silent
    · have isMetric := detectOne_metric found
      have elsewhere : ∀ other ∈ metrics, detected.metric ≠ other := by
        rintro other member rfl
        exact fresh (isMetric ▸ member)
      have next : s.nextId + 1 ≤ s'.nextId := passed.nextId
      refine ⟨passed.dismissals, (Nat.le_succ _).trans next, fun row member => ?_, fun row member => ?_,
        fun other member deviates silent => ?_⟩
      · rcases passed.origin row member with old | ⟨low, high, campaign, created, listed, deviates, silent⟩
        · rcases List.mem_append.mp old with older | new
          · exact Or.inl older
          · rw [List.mem_singleton] at new
            subst new
            refine Or.inr ⟨le_rfl, next, rfl, rfl, isMetric ▸ List.mem_cons_self .., ?_, ?_⟩
            · show (detectOne data tenantId campaignId detected.metric now).isSome
              rw [isMetric, found]
              rfl
            · show ¬ Active s tenantId campaignId detected.metric now
              rwa [isMetric]
        · rw [active_enter (elsewhere _ listed)] at silent
          exact Or.inr ⟨(Nat.le_succ _).trans low, high, campaign, created, List.mem_cons_of_mem _ listed, deviates, silent⟩
      · exact passed.kept (List.mem_append_left _ member)
      · rcases List.mem_cons.mp member with rfl | later
        · exact ⟨_, passed.kept (List.mem_append_right _ (List.mem_singleton.mpr rfl)), le_rfl, rfl, isMetric, rfl⟩
        · have silent' : ¬ Active (enter s tenantId campaignId now detected) tenantId campaignId other now := by
            rwa [active_enter (elsewhere _ later)]
          obtain ⟨row, inside, low, facts⟩ := passed.entered other later deviates silent'
          exact ⟨row, inside, (Nat.le_succ _).trans low, facts⟩

/-- The loop raises exactly when a figure it has to store has no room. -/
theorem detectMetrics_error {data : EventStore} {tenantId campaignId : Uuid} {now : Int} {metrics : List EventKind}
    (nodup : metrics.Nodup) (s : AnomalyStore) :
    (∃ error, metrics.foldlM (detectMetric data tenantId campaignId now) s = .error error) ↔
      ∃ metric ∈ metrics, ∃ detected, detectOne data tenantId campaignId metric now = some detected ∧
        ¬ Active s tenantId campaignId metric now ∧ ¬ Fits detected := by
  induction metrics generalizing s with
  | nil => exact iff_of_false (by rintro ⟨_, failed⟩; cases failed) (by simp)
  | cons metric metrics ih =>
    obtain ⟨fresh, nodup⟩ := List.nodup_cons.mp nodup
    rw [List.foldlM_cons]
    cases first : detectMetric data tenantId campaignId now s metric with
    | error error =>
      exact iff_of_true ⟨error, rfl⟩ ⟨metric, List.mem_cons_self .., detectMetric_error first⟩
    | ok mid =>
      have tail := ih nodup mid
      show (∃ error, metrics.foldlM (detectMetric data tenantId campaignId now) mid = .error error) ↔ _
      rw [tail]
      have fine : ∀ detected, detectOne data tenantId campaignId metric now = some detected →
          ¬ Active s tenantId campaignId metric now → Fits detected := by
        intro detected found inactive
        by_contra wide
        simp [detectMetric, found, inactive, wide] at first
      have unmoved : ∀ other ∈ metrics, (Active mid tenantId campaignId other now ↔
          Active s tenantId campaignId other now) := by
        intro other later
        rcases detectMetric_ok first with ⟨rfl, _⟩ | ⟨detected, found, _, rfl⟩
        · exact Iff.rfl
        · refine active_enter ?_
          rw [detectOne_metric found]
          rintro rfl
          exact fresh later
      constructor
      · rintro ⟨other, later, detected, found, silent, wide⟩
        exact ⟨other, List.mem_cons_of_mem _ later, detected, found, by rwa [← unmoved other later], wide⟩
      · rintro ⟨other, member, detected, found, silent, wide⟩
        rcases List.mem_cons.mp member with rfl | later
        · exact absurd (fine detected found silent) wide
        · exact ⟨other, later, detected, found, by rwa [unmoved other later], wide⟩

omit [JsonbText] [AnomalyFloat] in
theorem hotMetrics_nodup : hotMetrics.Nodup := by decide

/-- The ids of the store are older than the next one. -/
def Numbered (s : AnomalyStore) : Prop := ∀ row ∈ s.anomalies, row.id < s.nextId

theorem step_numbered (s : AnomalyStore) (op : AnomalyOp) (numbered : Numbered s) : Numbered (step s op) := by
  cases done : outcome s op with
  | error error => simpa [step, done] using numbered
  | ok s' =>
    have result : step s op = s' := by simp [step, done]
    rw [result]
    cases op with
    | detect data tenantId campaignId now =>
      have passed := detectMetrics_ok hotMetrics_nodup done
      intro row member
      rcases passed.origin row member with old | ⟨_, high, _⟩
      · exact lt_of_lt_of_le (numbered row old) passed.nextId
      · exact high
    | dismiss anomalyId dismissedBy now =>
      simp only [outcome, dismissAnomaly] at done
      split at done
      · cases done
      · cases done
        intro row member
        rcases mem_updateWhere.mp member with ⟨old, inside, _, rfl⟩ | ⟨inside, _⟩
        · exact numbered old inside
        · exact numbered row inside

/-- Each step is silent exactly where it is covered. -/
theorem silent_iff_covered (s : AnomalyStore) (op : AnomalyOp) (numbered : Numbered s) : Silent s op ↔ Covered s op := by
  cases op with
  | dismiss anomalyId dismissedBy now =>
    refine iff_of_true ?_ trivial
    intro row member new
    cases done : dismissAnomaly anomalyId dismissedBy now s with
    | error error =>
      simp only [step, outcome, done] at member
      exact absurd (List.mem_map_of_mem member) new
    | ok s' =>
      simp only [step, outcome, done] at member
      unfold dismissAnomaly at done
      split at done
      · cases done
      · cases done
        rcases mem_updateWhere.mp member with ⟨old, inside, _, rfl⟩ | ⟨inside, _⟩
        · exact absurd (List.mem_map_of_mem (f := AnomalyRow.id) inside) new
        · exact absurd (List.mem_map_of_mem inside) new
  | detect data tenantId campaignId now =>
    by_cases refused : Refused s data tenantId campaignId now
    · obtain ⟨error, failed⟩ := (detectMetrics_error hotMetrics_nodup s).mpr refused
      refine iff_of_true (fun row member new => ?_) (Or.inl refused)
      have kept : step s (.detect data tenantId campaignId now) = s := by
        simp [step, outcome, detectAnomalies, failed]
      rw [kept] at member
      exact absurd (List.mem_map_of_mem member) new
    · cases done : detectAnomalies data tenantId campaignId now s with
      | error error => exact absurd ((detectMetrics_error hotMetrics_nodup s).mp ⟨error, done⟩) refused
      | ok s' =>
        have passed := detectMetrics_ok hotMetrics_nodup done
        have result : step s (.detect data tenantId campaignId now) = s' := by simp [step, outcome, done]
        rw [Silent, result, Covered, or_iff_right refused]
        constructor
        · rintro silent metric hot deviates ⟨d, recorded, campaign, same, recent⟩
          by_contra inactive
          obtain ⟨row, inside, low, rowCampaign, rowMetric, created⟩ := passed.entered metric hot deviates inactive
          have new : row.id ∉ s.anomalies.map AnomalyRow.id := by
            intro known
            obtain ⟨old, there, equal⟩ := List.mem_map.mp known
            exact absurd (numbered old there) (Nat.not_lt.mpr (equal ▸ low))
          have late := silent row inside new d recorded (campaign.trans rowCampaign.symm) (same.trans rowMetric.symm)
          rw [created] at late
          omega
        · intro covered row inside new d recorded campaign same
          rcases passed.origin row inside with old | ⟨_, _, rowCampaign, created, hot, deviates, inactive⟩
          · exact absurd (List.mem_map_of_mem old) new
          · by_contra early
            refine inactive (covered row.metric hot deviates ⟨d, recorded, campaign.trans rowCampaign, same, ?_⟩)
            rw [created] at early
            omega

/-- A dismissal silences its metric for a day in exactly the runs whose passes are
all covered. The detector looks for an undismissed row, so that a dismissed one
keeps nothing silent; only another row beside it does. -/
theorem dismissal_silences_iff {s : AnomalyStore} (numbered : Numbered s) (ops : List AnomalyOp) :
    Along step Silent s ops ↔ Along step Covered s ops :=
  along_congr numbered step_numbered silent_iff_covered

end Runs

/-- The statistics of a baseline whose days are all alike: the closed runs of
this development contain no other. -/
@[reducible] def levelBaseline : AnomalyFloat where
  median baseline := (baseline.head?.getD 0 : Nat)
  pstdev _ := 0
  deviation _ _ _ := 0
  round value _ := value

namespace Spikes

local instance spikesJsonb : JsonbText := JsonbText.plain

local instance spikesFloat : AnomalyFloat := levelBaseline

/-- An unsubscribe of campaign 5 at noon of the day. -/
def unsubscribeOn (number : Nat) : EventRow where
  id := number
  tenantId := 1
  eventType := .unsubscribe
  payload := []
  providerEventId := none
  eventAt := number * day + 43200000000
  campaignId := some 5

/-- One unsubscribe a day for thirteen days, and two on the fourteenth. -/
def doubledDay : EventStore where
  events := (List.range 14 ++ [13]).map unsubscribeOn

def evening : Int := 13 * day + 64800000000

/-- The anomaly is dismissed within a second, and the next pass records it again. -/
theorem dismissed_anomaly_fires_again :
    ¬ Along step Silent {} [.detect doubledDay 1 5 evening, .dismiss 0 9 (evening + 1000000),
      .detect doubledDay 1 5 (evening + 600000000)] := by
  have numbered : Numbered {} := fun row member => by cases member
  rw [along_congr numbered step_numbered silent_iff_covered]
  decide +kernel

/-- The next pass comes a day after the dismissal, and has thirteen days to look at. -/
theorem dismissal_silences_iff_spike :
    Along step Silent {} [.detect doubledDay 1 5 evening, .dismiss 0 9 (evening + 1000000),
      .detect doubledDay 1 5 (evening + day)] := by
  have numbered : Numbered {} := fun row member => by cases member
  have covered : Along step Covered {} [.detect doubledDay 1 5 evening, .dismiss 0 9 (evening + 1000000),
      .detect doubledDay 1 5 (evening + day)] := by decide +kernel
  exact (dismissal_silences_iff numbered _).mpr covered

end Spikes

end Anomaly

end MarketingAgents
