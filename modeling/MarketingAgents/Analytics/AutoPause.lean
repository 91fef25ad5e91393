import MarketingAgents.Analytics.Anomaly
import MarketingAgents.Lib.Stable

namespace MarketingAgents

open Lib

/-- A row of `tenant_compliance_settings`, with the switch that the analytics agent reads. -/
structure AnalyticsSettings extends TenantComplianceSettings where
  autoPauseOnCriticalAnomaly : Bool := false

namespace Anomaly

/-- `order_by(created_at.desc())`. -/
def newestFirst (rows : List AnomalyRow) : List AnomalyRow :=
  rows.insertionSort fun a b => b.createdAt ≤ a.createdAt

/-- The rows of one metric of the campaign, dismissed or not, newest first. -/
def history (s : AnomalyStore) (tenantId campaignId : Uuid) (metric : EventKind) : List AnomalyRow :=
  newestFirst (s.anomalies.filter fun row =>
    row.tenantId = tenantId ∧ row.campaignId = campaignId ∧ row.metric = metric)

/-- The query of `should_auto_pause`. -/
def recentUndismissed (s : AnomalyStore) (tenantId campaignId : Uuid) (metric : EventKind) : List AnomalyRow :=
  (newestFirst (s.anomalies.filter fun row => row.tenantId = tenantId ∧ row.campaignId = campaignId ∧
    row.metric = metric ∧ row.dismissedAt = none)).take 2

/-- The tenant has a settings row, and its switch is on. -/
def SwitchedOn (settings : List AnalyticsSettings) (tenantId : Uuid) : Prop :=
  ∃ row, settings.find? (·.tenantId = tenantId) = some row ∧ row.autoPauseOnCriticalAnomaly = true

def shouldAutoPause (settings : List AnalyticsSettings) (s : AnomalyStore) (tenantId campaignId : Uuid) : Bool :=
  match settings.find? (·.tenantId = tenantId) with
  | none => false
  | some row =>
    if ¬ row.autoPauseOnCriticalAnomaly then false
    else criticalMetrics.any fun metric =>
      let recent := recentUndismissed s tenantId campaignId metric
      decide (2 ≤ recent.length) && recent.all fun row => row.severity = "critical"

/-- An undismissed critical row. -/
def Alarming (row : AnomalyRow) : Prop := row.severity = "critical" ∧ row.dismissedAt = none

/-- The two most recent rows both exist, are critical and are not dismissed. -/
def TwoAlarming (rows : List AnomalyRow) : Prop := ∃ a b rest, rows = a :: b :: rest ∧ Alarming a ∧ Alarming b

instance decidableAlarming (row : AnomalyRow) : Decidable (Alarming row) := inferInstanceAs (Decidable (_ ∧ _))

instance decidableTwoAlarming : ∀ rows, Decidable (TwoAlarming rows)
  | [] | [_] => isFalse (by rintro ⟨_, _, _, shape, _⟩; cases shape)
  | a :: b :: rest => decidable_of_iff (Alarming a ∧ Alarming b)
      ⟨fun alarming => ⟨a, b, rest, rfl, alarming⟩, by rintro ⟨_, _, _, ⟨⟩, alarming⟩; exact alarming⟩

/-- Two undismissed critical rows with nothing but dismissed rows above and between them. -/
def AlarmingBelow (rows above between : List AnomalyRow) : Prop :=
  ∃ a b rest, rows = above ++ a :: (between ++ b :: rest) ∧ (∀ row ∈ above ++ between, row.dismissedAt ≠ none) ∧
    Alarming a ∧ Alarming b

/-- A dismissed row is among the two most recent ones, and the newest rows left
without the dismissed ones are both critical. -/
def Hidden (rows : List AnomalyRow) : Prop := ∃ above between, above ++ between ≠ [] ∧ AlarmingBelow rows above between

/-- The rule as the function states it. -/
def AutoPauseRule (settings : List AnalyticsSettings) (s : AnomalyStore) (tenantId campaignId : Uuid) : Prop :=
  SwitchedOn settings tenantId ∧ ∃ metric ∈ criticalMetrics, TwoAlarming (history s tenantId campaignId metric)

/-- Dismissed rows are left out before the newest two are taken. -/
theorem recentUndismissed_eq (s : AnomalyStore) (tenantId campaignId : Uuid) (metric : EventKind) :
    recentUndismissed s tenantId campaignId metric =
      ((history s tenantId campaignId metric).filter fun row => row.dismissedAt = none).take 2 := by
  have trans : IsTrans AnomalyRow fun a b => b.createdAt ≤ a.createdAt := ⟨fun _ _ _ ab bc => bc.trans ab⟩
  have total : Std.Total fun a b : AnomalyRow => b.createdAt ≤ a.createdAt := ⟨fun a b => le_total b.createdAt a.createdAt⟩
  rw [recentUndismissed, history, newestFirst, newestFirst, filter_insertionSort, List.filter_filter]
  congr 3
  funext row
  simp only [Bool.decide_and, ← Bool.and_assoc]
  rw [Bool.and_comm, ← Bool.and_assoc, ← Bool.and_assoc]

theorem shouldAutoPause_iff (settings : List AnalyticsSettings) (s : AnomalyStore) (tenantId campaignId : Uuid) :
    shouldAutoPause settings s tenantId campaignId = true ↔ SwitchedOn settings tenantId ∧
      ∃ metric ∈ criticalMetrics, 2 ≤ (recentUndismissed s tenantId campaignId metric).length ∧
        ∀ row ∈ recentUndismissed s tenantId campaignId metric, row.severity = "critical" := by
  unfold shouldAutoPause SwitchedOn
  cases settings.find? fun row => row.tenantId = tenantId with
  | none => simp
  | some row => cases on : row.autoPauseOnCriticalAnomaly <;> simp [on]

/-- Two rows are left that are both critical: they are the newest two without the dismissed ones. -/
theorem twoNewest_iff {rows : List AnomalyRow} :
    (2 ≤ ((rows.filter fun row => row.dismissedAt = none).take 2).length ∧
      ∀ row ∈ (rows.filter fun row => row.dismissedAt = none).take 2, row.severity = "critical") ↔
    ∃ above between, AlarmingBelow rows above between := by
  constructor
  · rintro ⟨two, critical⟩
    cases first : rows.filter fun row => row.dismissedAt = none with
    | nil => simp [first] at two
    | cons a left =>
      cases left with
      | nil => simp [first] at two
      | cons b rest =>
        rw [first] at critical
        obtain ⟨above, tail, rfl, dismissed, open_a, second⟩ := List.filter_eq_cons_iff.mp first
        obtain ⟨between, rest, rfl, dismissed', open_b, _⟩ := List.filter_eq_cons_iff.mp second
        simp only [decide_eq_true_eq] at open_a open_b dismissed dismissed'
        refine ⟨above, between, a, b, rest, rfl, fun row member => ?_, ⟨critical a (by simp), open_a⟩,
          critical b (by simp), open_b⟩
        exact (List.mem_append.mp member).elim (dismissed row) (dismissed' row)
  · rintro ⟨above, between, a, b, rest, rfl, dismissed, ⟨critical_a, open_a⟩, critical_b, open_b⟩
    have above_nil : above.filter (fun row => row.dismissedAt = none) = [] :=
      List.filter_eq_nil_iff.mpr fun row member => by simpa using dismissed row (List.mem_append_left _ member)
    have between_nil : between.filter (fun row => row.dismissedAt = none) = [] :=
      List.filter_eq_nil_iff.mpr fun row member => by simpa using dismissed row (List.mem_append_right _ member)
    simp [List.filter_append, above_nil, between_nil, open_a, open_b, critical_a, critical_b]

/-- What the query finds is what the rule asks for, or a pair that dismissed rows hide. -/
theorem alarmingBelow_iff {rows : List AnomalyRow} :
    (∃ above between, AlarmingBelow rows above between) ↔ TwoAlarming rows ∨ Hidden rows := by
  constructor
  · rintro ⟨above, between, pair⟩
    by_cases empty : above ++ between = []
    · obtain ⟨rfl, rfl⟩ := List.append_eq_nil_iff.mp empty
      obtain ⟨a, b, rest, shape, _, alarming⟩ := pair
      exact Or.inl ⟨a, b, rest, shape, alarming⟩
    · exact Or.inr ⟨above, between, empty, pair⟩
  · rintro (⟨a, b, rest, shape, alarming⟩ | ⟨above, between, _, pair⟩)
    · exact ⟨[], [], a, b, rest, shape, by simp, alarming⟩
    · exact ⟨above, between, pair⟩

theorem shouldAutoPause_cases (settings : List AnalyticsSettings) (s : AnomalyStore) (tenantId campaignId : Uuid) :
    shouldAutoPause settings s tenantId campaignId = true ↔ SwitchedOn settings tenantId ∧
      ∃ metric ∈ criticalMetrics, TwoAlarming (history s tenantId campaignId metric) ∨
        Hidden (history s tenantId campaignId metric) := by
  simp only [shouldAutoPause_iff, recentUndismissed_eq, twoNewest_iff, alarmingBelow_iff]

/-- The function follows its rule unless a dismissed row hides, in some metric,
that the rows it finds are not the newest, and no metric meets the rule itself. -/
theorem auto_pause_rule_iff (settings : List AnalyticsSettings) (s : AnomalyStore) (tenantId campaignId : Uuid) :
    (shouldAutoPause settings s tenantId campaignId = true ↔ AutoPauseRule settings s tenantId campaignId) ↔
      ¬ SwitchedOn settings tenantId ∨
      (∃ metric ∈ criticalMetrics, TwoAlarming (history s tenantId campaignId metric)) ∨
      ∀ metric ∈ criticalMetrics, ¬ Hidden (history s tenantId campaignId metric) := by
  rw [shouldAutoPause_cases, AutoPauseRule]
  constructor
  · intro agree
    by_cases on : SwitchedOn settings tenantId
    · by_cases due : ∃ metric ∈ criticalMetrics, TwoAlarming (history s tenantId campaignId metric)
      · exact Or.inr (Or.inl due)
      · refine Or.inr (Or.inr fun metric critical hidden => due ?_)
        exact (agree.mp ⟨on, metric, critical, Or.inr hidden⟩).2
    · exact Or.inl on
  · rintro (off | due | visible)
    · exact iff_of_false (fun h => off h.1) (fun h => off h.1)
    · obtain ⟨metric, critical, two⟩ := due
      exact and_congr_right fun _ => iff_of_true ⟨metric, critical, Or.inl two⟩ ⟨metric, critical, two⟩
    · refine and_congr_right fun _ => ⟨?_, ?_⟩
      · rintro ⟨metric, critical, two | hidden⟩
        · exact ⟨metric, critical, two⟩
        · exact absurd hidden (visible metric critical)
      · rintro ⟨metric, critical, two⟩
        exact ⟨metric, critical, Or.inl two⟩

namespace Spikes

local instance pauseJsonb : JsonbText := JsonbText.plain

local instance pauseFloat : AnomalyFloat := levelBaseline

def paused : List AnalyticsSettings := [⟨⟨1, none, none⟩, true⟩]

/-- Thirteen days with one unsubscribe each, and two on the last day. -/
def doubledAfter (start : Nat) : EventStore where
  events := (List.range 14 ++ [13]).map fun number => unsubscribeOn (start + number)

/-- Three evenings, two days apart, that each end in an anomaly; the last one is dismissed. -/
def thirdDismissed : List AnomalyOp :=
  [.detect (doubledAfter 0) 1 5 evening, .detect (doubledAfter 2) 1 5 (evening + 2 * day),
    .detect (doubledAfter 4) 1 5 (evening + 4 * day), .dismiss 2 9 (evening + 4 * day + 1000000)]

/-- Behind the dismissed row the older two are found, and the campaign is paused. -/
theorem dismissed_row_still_pauses :
    shouldAutoPause paused (run step {} thirdDismissed) 1 5 = true ∧
      ¬ AutoPauseRule paused (run step {} thirdDismissed) 1 5 := by
  refine ⟨by decide +kernel, ?_⟩
  rintro ⟨_, metric, critical, two⟩
  have never : ∀ metric ∈ criticalMetrics, ¬ TwoAlarming (history (run step {} thirdDismissed) 1 5 metric) := by
    decide +kernel
  exact never metric critical two

end Spikes

end Anomaly

end MarketingAgents
