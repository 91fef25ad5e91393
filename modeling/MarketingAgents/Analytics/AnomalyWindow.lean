import Mathlib.Data.List.Sort
import Mathlib.Data.Rat.Sqrt
import MarketingAgents.Analytics.Anomaly
import MarketingAgents.Db.Decimal

namespace MarketingAgents

open Lib

/-- At these figures the quotient on floats stands on the side of three where the exact one stands. -/
def AnomalyFloat.Decides (F : AnomalyFloat) (baseline : List Nat) (observed : Nat) : Prop :=
  F.pstdev baseline ≠ 0 → (3 < F.deviation observed (F.median baseline) (F.pstdev baseline) ↔
    3 * F.pstdev baseline < |(observed : Rat) - F.median baseline|)

namespace Anomaly

/-- The middle of the sorted values, or the mean of the middle two. -/
def exactMedian (values : List Nat) : Rat :=
  let sorted := values.insertionSort (· ≤ ·)
  let middle := values.length / 2
  if values.length % 2 = 1 then (sorted.getD middle 0 : Nat)
  else ((sorted.getD (middle - 1) 0 + sorted.getD middle 0 : Nat) : Rat) / 2

def variance (values : List Nat) : Rat :=
  let mean := (values.sum : Rat) / values.length
  ((values.map fun value : Nat => ((value : Rat) - mean) ^ 2).sum) / values.length

/-- The statistics without rounding, on baselines whose variance is the square of a rational. -/
@[reducible] def exactFloat : AnomalyFloat where
  median := exactMedian
  pstdev values := Rat.sqrt (variance values)
  deviation observed median stddev := |(observed : Rat) - median| / stddev
  round value places := quantize places value

theorem exactFloat_decides (baseline : List Nat) (observed : Nat) : exactFloat.Decides baseline observed := by
  intro uneven
  have positive : 0 < exactFloat.pstdev baseline := lt_of_le_of_ne (Rat.sqrt_nonneg _) (Ne.symm uneven)
  exact lt_div_iff₀ positive

/-- The days of the window by number: the day of `now` and the thirteen before it. -/
def windowDays (now : Int) : List Int := (List.range baselineDays).map fun offset : Nat => now / day - 13 + offset

theorem mem_windowDays {now number : Int} : number ∈ windowDays now ↔ now / day - 13 ≤ number ∧ number ≤ now / day := by
  simp only [windowDays, baselineDays, List.mem_map, List.mem_range]
  constructor
  · rintro ⟨offset, small, rfl⟩
    omega
  · rintro ⟨low, high⟩
    exact ⟨(number - (now / day - 13)).toNat, by omega, by omega⟩

theorem windowDays_sorted (now : Int) : (windowDays now).Pairwise (· < ·) := by
  refine List.pairwise_map.mpr (List.pairwise_lt_range.imp fun before => ?_)
  omega

/-- The cutoff falls before the first day of the window. -/
theorem cutoff_le {now instant : Int} (inside : instant / day ∈ windowDays now) : now - baselineDays * day ≤ instant := by
  rw [mem_windowDays] at inside
  unfold day baselineDays at *
  omega

def countOn (events : List EventRow) (number : Int) : Nat := (events.filter (·.eventAt / day = number)).length

/-- On a day of the window the cutoff leaves every event in. -/
theorem countOn_recent {now number : Int} (inside : number ∈ windowDays now) (events : List EventRow) :
    countOn (events.filter fun e => now - baselineDays * day ≤ e.eventAt) number = countOn events number := by
  rw [countOn, countOn, List.filter_filter]
  congr 1
  refine List.filter_congr fun e _ => ?_
  by_cases here : e.eventAt / day = number
  · have recent := cutoff_le (here ▸ inside : e.eventAt / day ∈ windowDays now)
    simp [here, recent]
  · simp [here]

/-- The baseline is exceeded, in either direction: the rule of the detector. -/
def Deviates (F : AnomalyFloat) (baseline : List Nat) (observed : Nat) : Prop :=
  3 * F.pstdev baseline < |(observed : Rat) - F.median baseline| ∨
    F.pstdev baseline = 0 ∧ (observed : Rat) ≠ F.median baseline

theorem deviationOf_isSome [F : AnomalyFloat] {baseline : List Nat} {observed : Nat} (decides : F.Decides baseline observed) :
    (deviationOf baseline observed).isSome = true ↔ Deviates F baseline observed := by
  simp only [deviationOf, Deviates]
  by_cases level : F.pstdev baseline = 0
  · by_cases same : (observed : Rat) = F.median baseline
    · simp [level, same]
    · have synthetic : (3 : Rat) < 9999 := by norm_num
      simp [level, same, synthetic, Option.filter]
  · rw [if_neg level]
    simp [Option.filter, level, decides level]

section Window

variable [JsonbText]

def metricEvents (s : EventStore) (tenantId campaignId : Uuid) (metric : EventKind) : List EventRow :=
  (s.campaignEvents tenantId campaignId).filter (·.eventType = metric)

/-- The definition of the series: each day of the window with its count, zero included. -/
def windowCounts (s : EventStore) (tenantId campaignId : Uuid) (metric : EventKind) (now : Int) : List (Int × Nat) :=
  (windowDays now).map fun number => (number, countOn (metricEvents s tenantId campaignId metric) number)

/-- Every day of the window has an event of the metric, and every event after the cutoff is of such a day. -/
structure Dense (s : EventStore) (tenantId campaignId : Uuid) (metric : EventKind) (now : Int) : Prop where
  filled : ∀ number ∈ windowDays now, ∃ e ∈ metricEvents s tenantId campaignId metric, e.eventAt / day = number
  inside : ∀ e ∈ metricEvents s tenantId campaignId metric, now - baselineDays * day ≤ e.eventAt →
    e.eventAt / day ∈ windowDays now

variable {s : EventStore} {tenantId campaignId : Uuid} {metric : EventKind} {now : Int}

/-- The query lists the days that have an event after the cutoff. -/
theorem mem_dailyCounts {entry : Int × Nat} :
    entry ∈ dailyCounts s tenantId campaignId metric now ↔
      (∃ e ∈ metricEvents s tenantId campaignId metric, now - baselineDays * day ≤ e.eventAt ∧
        e.eventAt / day = entry.1) ∧
      entry.2 = countOn ((metricEvents s tenantId campaignId metric).filter fun e =>
        now - baselineDays * day ≤ e.eventAt) entry.1 := by
  have shape : ((s.campaignEvents tenantId campaignId).filter fun e =>
      decide (e.eventType = metric ∧ now - baselineDays * day ≤ e.eventAt)) =
      (metricEvents s tenantId campaignId metric).filter fun e => now - baselineDays * day ≤ e.eventAt := by
    rw [metricEvents, List.filter_filter]
    exact List.filter_congr fun e _ => by rw [Bool.decide_and, Bool.and_comm]
  simp only [dailyCounts, List.mem_insertionSort, List.mem_map]
  rw [shape]
  constructor
  · rintro ⟨g, member, rfl⟩
    obtain ⟨key, rows⟩ := mem_groups.mp member
    obtain ⟨e, inside, same⟩ := List.mem_map.mp key
    obtain ⟨listed, recent⟩ := List.mem_filter.mp inside
    exact ⟨⟨e, listed, of_decide_eq_true recent, same⟩, by rw [rows, countOn]⟩
  · rintro ⟨⟨e, listed, recent, same⟩, count⟩
    refine ⟨(entry.1, _), mem_groups.mpr ⟨?_, rfl⟩, Prod.ext rfl count.symm⟩
    exact List.mem_map.mpr ⟨e, List.mem_filter.mpr ⟨listed, decide_eq_true recent⟩, same⟩

theorem dailyCounts_sorted : (dailyCounts s tenantId campaignId metric now).Pairwise fun a b => a.1 < b.1 := by
  have total : Std.Total fun a b : Int × Nat => a.1 ≤ b.1 := ⟨fun a b => le_total a.1 b.1⟩
  have trans : IsTrans (Int × Nat) fun a b => a.1 ≤ b.1 := ⟨fun _ _ _ => le_trans⟩
  have ordered : (dailyCounts s tenantId campaignId metric now).Pairwise fun a b => a.1 ≤ b.1 :=
    List.pairwise_insertionSort _ _
  have nodup : ((dailyCounts s tenantId campaignId metric now).map Prod.fst).Nodup := by
    refine (((List.perm_insertionSort _ _).map Prod.fst).nodup_iff).mpr ?_
    rw [List.map_map]
    exact groups_nodup _ _
  exact (ordered.and (List.pairwise_map.mp nodup)).imp fun both => lt_of_le_of_ne both.1 both.2

theorem windowCounts_sorted : (windowCounts s tenantId campaignId metric now).Pairwise fun a b => a.1 < b.1 :=
  List.pairwise_map.mpr (windowDays_sorted now)

theorem mem_windowCounts {entry : Int × Nat} :
    entry ∈ windowCounts s tenantId campaignId metric now ↔
      entry.1 ∈ windowDays now ∧ entry.2 = countOn (metricEvents s tenantId campaignId metric) entry.1 := by
  rw [windowCounts, List.mem_map]
  constructor
  · rintro ⟨number, member, rfl⟩
    exact ⟨member, rfl⟩
  · rintro ⟨member, count⟩
    exact ⟨entry.1, member, Prod.ext rfl count.symm⟩

/-- The query yields the series of the definition exactly on dense events. -/
theorem dailyCounts_eq_windowCounts :
    dailyCounts s tenantId campaignId metric now = windowCounts s tenantId campaignId metric now ↔
      Dense s tenantId campaignId metric now := by
  constructor
  · intro same
    refine ⟨fun number member => ?_, fun e listed recent => ?_⟩
    · have entry : (number, countOn (metricEvents s tenantId campaignId metric) number) ∈
          dailyCounts s tenantId campaignId metric now := same ▸ mem_windowCounts.mpr ⟨member, rfl⟩
      obtain ⟨⟨e, listed, _, here⟩, _⟩ := mem_dailyCounts.mp entry
      exact ⟨e, listed, here⟩
    · have entry : (e.eventAt / day, countOn ((metricEvents s tenantId campaignId metric).filter fun e =>
          now - baselineDays * day ≤ e.eventAt) (e.eventAt / day)) ∈ dailyCounts s tenantId campaignId metric now :=
        mem_dailyCounts.mpr ⟨⟨e, listed, recent, rfl⟩, rfl⟩
      rw [same] at entry
      exact (mem_windowCounts.mp entry).1
  · intro dense
    have nodup : (dailyCounts s tenantId campaignId metric now).Nodup :=
      dailyCounts_sorted.imp fun before => ne_of_apply_ne Prod.fst before.ne
    have nodup' : (windowCounts s tenantId campaignId metric now).Nodup :=
      windowCounts_sorted.imp fun before => ne_of_apply_ne Prod.fst before.ne
    have oneWay : ∀ a b, a ∈ dailyCounts s tenantId campaignId metric now →
        b ∈ windowCounts s tenantId campaignId metric now → a.1 < b.1 → b.1 < a.1 → a = b :=
      fun a b _ _ before after => absurd before (not_lt_of_gt after)
    refine List.Perm.eq_of_pairwise oneWay dailyCounts_sorted windowCounts_sorted
      ((List.perm_ext_iff_of_nodup nodup nodup').mpr fun entry => ?_)
    rw [mem_dailyCounts, mem_windowCounts]
    constructor
    · rintro ⟨⟨e, listed, recent, here⟩, count⟩
      have inside : entry.1 ∈ windowDays now := here ▸ dense.inside e listed recent
      exact ⟨inside, count.trans (countOn_recent inside _)⟩
    · rintro ⟨inside, count⟩
      obtain ⟨e, listed, here⟩ := dense.filled entry.1 inside
      exact ⟨⟨e, listed, cutoff_le (here ▸ inside), here⟩, count.trans (countOn_recent inside _).symm⟩

theorem windowCounts_length : (windowCounts s tenantId campaignId metric now).length = baselineDays := by
  simp [windowCounts, windowDays]

/-- The first thirteen counts of the window. -/
def windowBaseline (s : EventStore) (tenantId campaignId : Uuid) (metric : EventKind) (now : Int) : List Nat :=
  (windowCounts s tenantId campaignId metric now).dropLast.map Prod.snd

/-- The count of the day of `now`. -/
def windowObserved (s : EventStore) (tenantId campaignId : Uuid) (metric : EventKind) (now : Int) : Nat :=
  countOn (metricEvents s tenantId campaignId metric) (now / day)

theorem windowCounts_getLast? : (windowCounts s tenantId campaignId metric now).getLast? =
    some (now / day, windowObserved s tenantId campaignId metric now) := by
  have last : (windowDays now).getLast? = some (now / day) := by
    simp [windowDays, baselineDays, List.range_succ]
  rw [windowCounts, List.getLast?_map, last]
  rfl

theorem detectOne_isSome [F : AnomalyFloat] (dense : Dense s tenantId campaignId metric now)
    (decides : F.Decides (windowBaseline s tenantId campaignId metric now) (windowObserved s tenantId campaignId metric now)) :
    (detectOne s tenantId campaignId metric now).isSome = true ↔
      Deviates F (windowBaseline s tenantId campaignId metric now) (windowObserved s tenantId campaignId metric now) := by
  rw [detectOne, dailyCounts_eq_windowCounts.mpr dense, windowCounts_length, if_neg (lt_irrefl _), windowCounts_getLast?]
  simp only [Option.isSome_map]
  exact deviationOf_isSome decides

/-- The campaign had an event on the first day of the window, or before it. -/
def HasHistory (s : EventStore) (tenantId campaignId : Uuid) (now : Int) : Prop :=
  ∃ e ∈ s.campaignEvents tenantId campaignId, e.eventAt / day ≤ now / day - 13

theorem Dense.hasHistory (dense : Dense s tenantId campaignId metric now) : HasHistory s tenantId campaignId now := by
  obtain ⟨e, listed, first⟩ := dense.filled (now / day - 13) (mem_windowDays.mpr ⟨le_rfl, by omega⟩)
  exact ⟨e, (List.mem_filter.mp listed).1, first.le⟩

variable [F : AnomalyFloat]

/-- The pass returns, and has entered a row of the metric. -/
def WritesRow (data : EventStore) (tenantId campaignId : Uuid) (metric : EventKind) (now : Int) (s : AnomalyStore) : Prop :=
  ∃ s', detectAnomalies data tenantId campaignId now s = .ok s' ∧
    ∃ row ∈ s'.anomalies, row.id ∉ s.anomalies.map AnomalyRow.id ∧ row.campaignId = campaignId ∧ row.metric = metric

/-- The detector does for the metric what its definition says: the series it
reads, and where it is not silenced and has two weeks to look at, the rows it writes. -/
structure MatchesDefinition (data : EventStore) (tenantId campaignId : Uuid) (metric : EventKind) (now : Int)
    (s : AnomalyStore) : Prop where
  series : dailyCounts data tenantId campaignId metric now = windowCounts data tenantId campaignId metric now
  rows : metric ∈ hotMetrics → ¬ Active s tenantId campaignId metric now → HasHistory data tenantId campaignId now →
    (WritesRow data tenantId campaignId metric now s ↔ Deviates F (windowBaseline data tenantId campaignId metric now)
      (windowObserved data tenantId campaignId metric now))

theorem run_numbered (ops : List AnomalyOp) : Numbered (run step {} ops) :=
  run_invariant (fun row member => by cases member) step_numbered ops

theorem writesRow_iff {data : EventStore} {s : AnomalyStore} (numbered : Numbered s) (hot : metric ∈ hotMetrics)
    (inactive : ¬ Active s tenantId campaignId metric now) :
    WritesRow data tenantId campaignId metric now s ↔
      (detectOne data tenantId campaignId metric now).isSome = true ∧ ¬ Refused s data tenantId campaignId now := by
  constructor
  · rintro ⟨s', done, row, member, new, rfl, rfl⟩
    refine ⟨?_, fun refused => ?_⟩
    · rcases (detectMetrics_ok hotMetrics_nodup done).origin row member with old | ⟨_, _, _, _, _, deviates, _⟩
      · exact absurd (List.mem_map_of_mem old) new
      · exact deviates
    · obtain ⟨error, failed⟩ := (detectMetrics_error hotMetrics_nodup s).mpr refused
      rw [detectAnomalies, failed] at done
      cases done
  · rintro ⟨deviates, stored⟩
    cases done : detectAnomalies data tenantId campaignId now s with
    | error error => exact absurd ((detectMetrics_error hotMetrics_nodup s).mp ⟨error, done⟩) stored
    | ok s' =>
      obtain ⟨row, inside, low, campaign, same, _⟩ :=
        (detectMetrics_ok hotMetrics_nodup done).entered metric hot deviates inactive
      refine ⟨s', done, row, inside, fun known => ?_, campaign, same⟩
      obtain ⟨old, there, equal⟩ := List.mem_map.mp known
      exact absurd (numbered old there) (Nat.not_lt.mpr (equal ▸ low))

/-- On a history of passes and dismissals the detector follows its definition
exactly where the events of the metric are dense, and a row that is due has
room. Its floats only have to decide the comparison with the window's own figures. -/
theorem matchesDefinition_iff (ops : List AnomalyOp) (data : EventStore) (tenantId campaignId : Uuid) (metric : EventKind)
    (now : Int) (decides : F.Decides (windowBaseline data tenantId campaignId metric now)
      (windowObserved data tenantId campaignId metric now)) :
    MatchesDefinition data tenantId campaignId metric now (run step {} ops) ↔
      Dense data tenantId campaignId metric now ∧
      (metric ∈ hotMetrics → ¬ Active (run step {} ops) tenantId campaignId metric now →
        Deviates F (windowBaseline data tenantId campaignId metric now)
          (windowObserved data tenantId campaignId metric now) →
        ¬ Refused (run step {} ops) data tenantId campaignId now) := by
  have numbered := run_numbered (F := F) ops
  constructor
  · rintro ⟨series, rows⟩
    have dense := dailyCounts_eq_windowCounts.mp series
    refine ⟨dense, fun hot inactive deviates => ?_⟩
    exact ((writesRow_iff numbered hot inactive).mp ((rows hot inactive dense.hasHistory).mpr deviates)).2
  · rintro ⟨dense, stored⟩
    refine ⟨dailyCounts_eq_windowCounts.mpr dense, fun hot inactive _ => ?_⟩
    rw [writesRow_iff numbered hot inactive, detectOne_isSome dense decides]
    exact ⟨fun written => written.1, fun deviates => ⟨deviates, stored hot inactive deviates⟩⟩

end Window

namespace Spikes

local instance windowJsonb : JsonbText := JsonbText.plain

local instance windowFloat : AnomalyFloat := exactFloat

/-- An unsubscribe three weeks ago, silence, and two of them today. -/
def afterSilence : EventStore where
  events := [0, 20, 20].map unsubscribeOn

def today : Int := 20 * day + 64800000000

/-- Thirteen days without an unsubscribe are no baseline: two on the next day go unnoticed. -/
theorem quiet_days_hide_spike :
    ¬ MatchesDefinition afterSilence 1 5 .unsubscribe today (run step {} []) ∧
      ¬ WritesRow afterSilence 1 5 .unsubscribe today (run step {} []) ∧
      Deviates exactFloat (windowBaseline afterSilence 1 5 .unsubscribe today)
        (windowObserved afterSilence 1 5 .unsubscribe today) := by
  have inactive : ¬ Active (run step {} []) 1 5 .unsubscribe today := by decide
  have history : HasHistory afterSilence 1 5 today := ⟨unsubscribeOn 0, by decide +kernel, by decide +kernel⟩
  have due : Deviates exactFloat (windowBaseline afterSilence 1 5 .unsubscribe today)
      (windowObserved afterSilence 1 5 .unsubscribe today) := by
    refine Or.inr ⟨?_, ?_⟩ <;> decide +kernel
  have silent : ¬ WritesRow afterSilence 1 5 .unsubscribe today (run step {} []) := by
    rw [writesRow_iff (run_numbered []) (by decide) inactive]
    decide +kernel
  exact ⟨fun agrees => silent ((agrees.rows (by decide) inactive history).mpr due), silent, due⟩

theorem matchesDefinition_doubledDay : MatchesDefinition doubledDay 1 5 .unsubscribe evening (run step {} []) := by
  refine (matchesDefinition_iff [] doubledDay 1 5 .unsubscribe evening (exactFloat_decides _ _)).mpr
    ⟨⟨?_, ?_⟩, fun _ _ _ => ?_⟩ <;> decide +kernel

end Spikes

end Anomaly

end MarketingAgents
