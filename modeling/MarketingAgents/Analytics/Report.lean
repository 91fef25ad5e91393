import MarketingAgents.Analytics.KpiRollup

namespace MarketingAgents

open Lib PyText

/-- A bucket of `_channel_breakdown`; the amount is the number that `str(Decimal)` spells. -/
structure Bucket where
  clicks : Nat := 0
  impressions : Nat := 0
  opens : Nat := 0
  conversions : Nat := 0
  spend : Rat := 0
deriving DecidableEq

/-- A row of the grouped query: channel, kind, count and sum of amounts. -/
structure ChannelKindRow where
  channelId : Option Uuid
  eventType : EventKind
  count : Nat
  metricSum : Rat

structure BreakdownRow where
  channelId : Option Uuid
  name : String
  bucket : Bucket

/-- The counts are added up, the amount is assigned. -/
def Bucket.enter (b : Bucket) (row : ChannelKindRow) : Bucket :=
  match row.eventType with
  | .click => { b with clicks := b.clicks + row.count }
  | .impression => { b with impressions := b.impressions + row.count }
  | .opened => { b with opens := b.opens + row.count }
  | .conversion => { b with conversions := b.conversions + row.count }
  | .spend => { b with spend := row.metricSum }
  | _ => b

def channelKindRows (events : List EventRow) : List ChannelKindRow :=
  (groups (fun e => (e.channelId, e.eventType)) events).map fun g => ⟨g.1.1, g.1.2, g.2.length, metricSum g.2⟩

/-- `bucket = by_channel.setdefault(channel_id, …)`, then the row's own column. -/
def enterRow (buckets : Dict (Option Uuid) Bucket) (row : ChannelKindRow) : Dict (Option Uuid) Bucket :=
  buckets.set row.channelId (((buckets.get? row.channelId).getD {}).enter row)

def byChannel (rows : List ChannelKindRow) : Dict (Option Uuid) Bucket := rows.foldl enterRow []

def channelName [PyText] (channels : List ChannelRow) : Option Uuid → String
  | none => "(unattributed)"
  | some id => (((channels.find? (·.id = id)).map ChannelRow.name).filter (· ≠ "")).getD (uuidStr id)

section Report

variable [PyText] [JsonbText]

omit [PyText] in
/-- `_count_metric`. -/
def countMetric (s : EventStore) (tenantId campaignId : Uuid) (metric : String) : Option Nat :=
  match coerceEventKind metric with
  | none => none
  | some kind =>
    if s.campaignEvents tenantId campaignId = [] then none
    else some ((s.campaignEvents tenantId campaignId).filter (·.eventType = kind)).length

/-- `_channel_breakdown`. -/
def channelBreakdown (s : EventStore) (tenantId campaignId : Uuid) : List BreakdownRow :=
  ((byChannel (channelKindRows (s.campaignEvents tenantId campaignId))).map fun entry =>
    (⟨entry.1, channelName s.channels entry.1, entry.2⟩ : BreakdownRow)).insertionSort fun a b => a.name ≤ b.name

end Report

/-- The column of a bucket that counts the kind. -/
def Bucket.column (kind : EventKind) (b : Bucket) : Nat :=
  match kind with
  | .click => b.clicks
  | .impression => b.impressions
  | .opened => b.opens
  | .conversion => b.conversions
  | _ => 0

theorem Bucket.column_enter {kind : EventKind} (counted : kind ∈ [.click, .impression, .opened, EventKind.conversion])
    (b : Bucket) (row : ChannelKindRow) :
    (b.enter row).column kind = b.column kind + if row.eventType = kind then row.count else 0 := by
  obtain ⟨channel, type, count, sum⟩ := row
  simp only [List.mem_cons, List.not_mem_nil, or_false] at counted
  rcases counted with rfl | rfl | rfl | rfl <;> cases type <;> simp [Bucket.enter, Bucket.column]

theorem Bucket.column_empty (kind : EventKind) : Bucket.column kind {} = 0 := by
  cases kind <;> rfl

/-- What the loop over the rows adds to a column, one kind at a time. -/
theorem column_foldl {kind : EventKind} (counted : kind ∈ [.click, .impression, .opened, EventKind.conversion])
    (rows : List ChannelKindRow) (buckets : Dict (Option Uuid) Bucket) :
    Dict.total (Bucket.column kind) (rows.foldl enterRow buckets) =
      Dict.total (Bucket.column kind) buckets + (rows.map fun row => if row.eventType = kind then row.count else 0).sum := by
  induction rows generalizing buckets with
  | nil => simp
  | cons row rows ih =>
    have step := Dict.total_set (Bucket.column kind) buckets row.channelId
      (((buckets.get? row.channelId).getD {}).enter row)
    rw [Bucket.column_enter counted] at step
    rw [List.foldl_cons, ih, List.map_cons, List.sum_cons, enterRow]
    cases stored : buckets.get? row.channelId with
    | none =>
      simp only [stored, Option.map_none, Option.getD_none, Bucket.column_empty] at step ⊢
      omega
    | some b =>
      simp only [stored, Option.map_some, Option.getD_some] at step ⊢
      omega

/-- The amounts are assigned once for each channel, so nothing is overwritten. -/
theorem spend_foldl (rows : List ChannelKindRow) (buckets : Dict (Option Uuid) Bucket)
    (nodup : (rows.map fun row => (row.channelId, row.eventType)).Nodup)
    (fresh : ∀ row ∈ rows, row.eventType = .spend → ∀ b, buckets.get? row.channelId = some b → b.spend = 0) :
    Dict.total Bucket.spend (rows.foldl enterRow buckets) =
      Dict.total Bucket.spend buckets + (rows.map fun row => if row.eventType = .spend then row.metricSum else 0).sum := by
  induction rows generalizing buckets with
  | nil => simp
  | cons row rows ih =>
    rw [List.map_cons, List.nodup_cons] at nodup
    have older : row.eventType = .spend → ((buckets.get? row.channelId).map Bucket.spend).getD 0 = 0 := by
      intro spends
      cases stored : buckets.get? row.channelId with
      | none => rfl
      | some b => exact fresh row (List.mem_cons_self ..) spends b stored
    have others : ∀ b : Bucket, row.eventType ≠ .spend → (b.enter row).spend = b.spend := by
      intro b other
      unfold Bucket.enter
      split <;> first | rfl | contradiction
    have rest := ih (enterRow buckets row) nodup.2 fun later member spends b found => by
      rw [enterRow, Dict.get?_set] at found
      split at found
      · rename_i same
        have differs : row.eventType ≠ .spend := fun both =>
          nodup.1 (List.mem_map.mpr ⟨later, member, by rw [← same, both, spends]⟩)
        cases found
        rw [others _ differs]
        cases stored : buckets.get? row.channelId with
        | none => rfl
        | some b => exact fresh later (List.mem_cons_of_mem _ member) spends b (same ▸ stored)
      · exact fresh later (List.mem_cons_of_mem _ member) spends b found
    have step := Dict.total_set Bucket.spend buckets row.channelId (((buckets.get? row.channelId).getD {}).enter row)
    rw [List.foldl_cons, rest, List.map_cons, List.sum_cons, ← add_assoc]
    congr 1
    by_cases spends : row.eventType = .spend
    · rw [older spends, add_zero] at step
      rw [enterRow, step, if_pos spends]
      simp [Bucket.enter, spends]
    · rw [others _ spends] at step
      rw [enterRow, if_neg spends, add_zero]
      cases stored : buckets.get? row.channelId with
      | none =>
        simp only [stored, Option.map_none, Option.getD_none, add_zero] at step
        exact step
      | some b =>
        simp only [stored, Option.map_some, Option.getD_some] at step
        exact add_right_cancel step

theorem channelKindRows_nodup (events : List EventRow) :
    ((channelKindRows events).map fun row => (row.channelId, row.eventType)).Nodup := by
  have keys : ((channelKindRows events).map fun row => (row.channelId, row.eventType)) =
      (groups (fun e : EventRow => (e.channelId, e.eventType)) events).map Prod.fst := by
    simp [channelKindRows, Function.comp_def]
  rw [keys]
  exact groups_nodup _ _

/-- The order of the rows does not matter to a sum over them. -/
theorem channelBreakdown_sum [PyText] [JsonbText] {M : Type*} [AddCommMonoid M] (f : Bucket → M) (s : EventStore)
    (tenantId campaignId : Uuid) :
    ((channelBreakdown s tenantId campaignId).map fun row => f row.bucket).sum =
      Dict.total f (byChannel (channelKindRows (s.campaignEvents tenantId campaignId))) := by
  have sorted := (List.perm_insertionSort (fun a b : BreakdownRow => a.name ≤ b.name)
    ((byChannel (channelKindRows (s.campaignEvents tenantId campaignId))).map fun entry =>
      (⟨entry.1, channelName s.channels entry.1, entry.2⟩ : BreakdownRow))).map fun row => f row.bucket
  rw [channelBreakdown, sorted.sum_eq, List.map_map]
  rfl

/-- The column sums of the breakdown are the counts of the campaign's events. -/
theorem channelBreakdown_column [PyText] [JsonbText] (s : EventStore) (tenantId campaignId : Uuid) {kind : EventKind}
    (counted : kind ∈ [.click, .impression, .opened, EventKind.conversion]) :
    ((channelBreakdown s tenantId campaignId).map fun row => row.bucket.column kind).sum =
      ((s.campaignEvents tenantId campaignId).filter (·.eventType = kind)).length := by
  have rows := sum_groups_where (fun e : EventRow => (e.channelId, e.eventType)) (s.campaignEvents tenantId campaignId)
    (fun key => key.2 = kind) fun _ => 1
  rw [channelBreakdown_sum (Bucket.column kind), byChannel, column_foldl counted, Dict.total, List.map_nil, List.sum_nil,
    Nat.zero_add, channelKindRows, List.map_map]
  simpa [Function.comp_def] using rows

theorem channelBreakdown_spend [PyText] [JsonbText] (s : EventStore) (tenantId campaignId : Uuid) :
    ((channelBreakdown s tenantId campaignId).map fun row => row.bucket.spend).sum =
      metricSum ((s.campaignEvents tenantId campaignId).filter (·.eventType = .spend)) := by
  have rows := sum_groups_where (fun e : EventRow => (e.channelId, e.eventType)) (s.campaignEvents tenantId campaignId)
    (fun key => key.2 = .spend) fun e => e.metricValue.getD 0
  rw [channelBreakdown_sum Bucket.spend, byChannel, spend_foldl _ [] (channelKindRows_nodup _) (by simp), Dict.total,
    List.map_nil, List.sum_nil, zero_add, channelKindRows, List.map_map]
  simpa [Function.comp_def, metricSum] using rows

end MarketingAgents
