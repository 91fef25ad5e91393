import Mathlib.Tactic.Linarith
import Mathlib.Tactic.NormNum
import MarketingAgents.Analytics.BudgetDivisions

namespace MarketingAgents

open Lib PyText

namespace Recommendations

open ExactDec

/-- Exact rational arithmetic. -/
class ExactDecimals [DecimalContext] : Prop where
  round_eq : ∀ value, DecimalContext.round value = value

section Bounds

variable [DecimalContext]

/-- What the two halves of the rule promise of its proposal, on the floor of the laggard. -/
structure Shift.Bounded (floor : Option ExactDec) (shift : Shift) : Prop where
  apart : shift.pair.laggard.channelId ≠ shift.pair.leader.channelId
  dearer : 12 / 10 * costPerOutcome shift.pair.leader shift.pair.outcome ≤
    costPerOutcome shift.pair.laggard shift.pair.outcome
  amounts : ∃ allocated amount, shift.laggardAmount = .finite allocated ∧ shift.amount = .finite amount ∧
    shift.newLaggard = .finite (allocated - amount) ∧
    10 / 100 * allocated ≤ amount ∧ amount ≤ 50 / 100 * allocated ∧
    ∀ least ∈ floor, below (.finite 0) least = .ok true → ∃ spend, least = .finite spend ∧ spend ≤ allocated - amount
  uplift : ∃ uplift, shift.uplift = .finite uplift ∧ 0 ≤ uplift ∧ uplift ≤ 99999 / 10000

omit [DecimalContext] in
theorem below_zero_iff {a : ExactDec} :
    below (.finite 0) a = .ok true ↔ a = .infinite false ∨ ∃ value, a = .finite value ∧ 0 < value := by
  cases a with
  | nan => simp [below, less, Except.mapError]
  | finite value => simp [below, less, Except.mapError]
  | infinite negative => simp [below, less, Except.mapError]

/-- What the clamp has compared when it returns: nothing with a floor of zero or
less, else the most that the floor leaves, which it takes where the proposal is
above it. -/
theorem clampToFloor_eq_ok {allocated proposed : ExactDec} {floor floored : Option ExactDec}
    (done : clampToFloor allocated proposed floor = .ok floored) :
    (floored = none ∧ ∀ least ∈ floor, below (.finite 0) least = .ok true →
      ∃ most, allocated.minus least = .ok most ∧ below most proposed = .ok false) ∨
    ∃ least ∈ floor, ∃ most, below (.finite 0) least = .ok true ∧ allocated.minus least = .ok most ∧
      below most proposed = .ok true ∧
      (below most (.finite 0) = .ok true ∧ floored = some (.finite 0) ∨
        below most (.finite 0) = .ok false ∧ floored = some most) := by
  cases floor with
  | none =>
    cases done
    exact Or.inl ⟨rfl, by simp⟩
  | some least =>
    obtain ⟨positive, sign, done⟩ := bind_eq_ok.mp done
    cases positive with
    | false =>
      cases done
      refine Or.inl ⟨rfl, ?_⟩
      rintro _ ⟨⟩ above
      rw [sign] at above
      cases above
    | true =>
      obtain ⟨most, room, done⟩ := bind_eq_ok.mp done
      obtain ⟨lower, compared, done⟩ := bind_eq_ok.mp done
      cases lower with
      | false =>
        cases done
        refine Or.inl ⟨rfl, ?_⟩
        rintro _ ⟨⟩ _
        exact ⟨most, room, compared⟩
      | true =>
        obtain ⟨debt, owed, done⟩ := bind_eq_ok.mp done
        refine Or.inr ⟨least, rfl, most, sign, room, compared, ?_⟩
        cases debt with
        | false =>
          cases done
          exact Or.inr ⟨owed, rfl⟩
        | true =>
          cases done
          exact Or.inl ⟨owed, rfl⟩

/-- An infinite allocation has no share. -/
theorem divideShare_infinite {floor : Option ExactDec} {share : ExactDec × ExactDec × Bool} :
    divideShare (.infinite false) floor ≠ .ok (some share) := by
  intro done
  obtain ⟨proposed, thirty, done⟩ := bind_eq_ok.mp done
  obtain ⟨floored, clamped, done⟩ := bind_eq_ok.mp done
  obtain ⟨shiftPct, quotient, done⟩ := bind_eq_ok.mp done
  have unbounded : proposed = .infinite false := by
    norm_num [times] at thirty
    exact thirty.symm
  subst unbounded
  rcases clampToFloor_eq_ok clamped with ⟨rfl, _⟩ | ⟨least, _, most, sign, room, lower, _⟩
  · simp [actualShare, below, less, Except.mapError, dividedBy, bind, Except.bind] at quotient
  · rcases below_zero_iff.mp sign with rfl | ⟨spend, rfl, _⟩
    · simp [minus, sum, add, neg, Except.mapError, Except.map] at room
    · simp only [minus, sum, add, neg, Except.mapError, Except.map, rounded, Except.ok.injEq] at room
      subst room
      simp [below, less, Except.mapError] at lower

theorem times_round (a b : Rat) : times (.finite a) (.finite b) = .ok (.finite (DecimalContext.round (a * b))) := rfl

theorem sum_round (a b : Rat) : sum (.finite a) (.finite b) = .ok (.finite (DecimalContext.round (a + b))) := rfl

theorem minus_round (a b : Rat) : minus (.finite a) (.finite b) = .ok (.finite (DecimalContext.round (a - b))) := by
  rw [sub_eq_add_neg]
  rfl

theorem dividedBy_round {a b : Rat} (nonzero : b ≠ 0) :
    dividedBy (.finite a) (.finite b) = .ok (.finite (DecimalContext.round (a / b))) := by
  rw [dividedBy, if_neg nonzero]
  rfl

omit [DecimalContext] in
theorem below_finite (a b : Rat) : below (.finite a) (.finite b) = .ok (decide (a < b)) := rfl

/-- On finite numbers the clamps are those of the plain rule. -/
theorem clampToFloor_eq (a proposed : Decimal) (floor : Option Decimal) :
    clampToFloor (.finite a) (.finite proposed) (floor.map .finite) =
      .ok (((floor.filter (0 < ·)).bind fun least =>
        if DecimalContext.round (a - least) < proposed then some (max (DecimalContext.round (a - least)) 0) else none).map
          .finite) := by
  cases floor with
  | none => rfl
  | some least =>
    by_cases positive : 0 < least
    · by_cases lower : DecimalContext.round (a - least) < proposed
      · by_cases debt : DecimalContext.round (a - least) < 0
        · simp [clampToFloor, below_finite, minus_round, Option.filter, positive, lower, debt, debt.le, bind, Except.bind,
            pure, Except.pure]
        · simp [clampToFloor, below_finite, minus_round, Option.filter, positive, lower, debt, not_lt.mp debt, bind,
            Except.bind, pure, Except.pure]
      · simp [clampToFloor, below_finite, minus_round, Option.filter, positive, lower, bind, Except.bind, pure, Except.pure]
    · simp [clampToFloor, below_finite, Option.filter, positive, bind, Except.bind, pure, Except.pure]

theorem divideShare_eq {a : Decimal} (positive : 0 < a) (floor : Option Decimal) :
    divideShare (.finite a) (floor.map .finite) =
      .ok ((sizeShift a floor).map fun sizing => (.finite sizing.amount, .finite sizing.shiftPct, sizing.clamped)) := by
  simp only [divideShare, times_round, clampToFloor_eq, bind, Except.bind]
  dsimp only [sizeShift]
  generalize ((floor.filter (0 < ·)).bind fun least => if DecimalContext.round (a - least) < DecimalContext.round
    (a * (30 / 100)) then some (max (DecimalContext.round (a - least)) 0) else none) = floored
  have amount : (floored.map ExactDec.finite).getD (.finite (DecimalContext.round (a * (30 / 100)))) =
      .finite (floored.getD (DecimalContext.round (a * (30 / 100)))) := by
    cases floored <;> rfl
  have share : ∀ x, actualShare (.finite x) (.finite a) = .ok (.finite (DecimalContext.round (x / a))) := by
    intro x
    simp [actualShare, below_finite, positive, dividedBy_round positive.ne', bind, Except.bind]
  simp only [amount, share, below_finite, Option.isSome_map, decide_eq_true_eq, pure, Except.pure]
  split
  · rfl
  · split
    · rfl
    · rfl

theorem divideUplift_eq {metrics : List ChannelMetric} {pair : Pair} (known : Ranked metrics pair) (x : Decimal) :
    divideUplift pair metrics (.finite x) = .ok (.finite (predictedUplift pair metrics x)) := by
  have dear : 0 < costPerOutcome pair.laggard pair.outcome := known.cheap.trans_le known.dearer
  have quotient : ∀ extra current : Decimal, perOutcome (.finite extra) current =
      .ok (.finite (if 0 < current then DecimalContext.round (extra / current) else 0)) := by
    intro extra current
    unfold perOutcome
    split
    · rename_i some_
      exact dividedBy_round some_.ne'
    · rfl
  have capped : ∀ value : Decimal,
      (if (99999 / 10000 : Decimal) < value then ExactDec.finite (99999 / 10000) else .finite value) =
      .finite (min value (99999 / 10000)) := by
    intro value
    split
    · rename_i large
      rw [min_eq_right large.le]
    · rename_i small
      rw [min_eq_left (not_lt.mp small)]
  have floored : ∀ value : Decimal, (if value < 0 then ExactDec.finite 0 else .finite value) = .finite (max value 0) := by
    intro value
    split
    · rename_i negative
      rw [max_eq_right negative.le]
    · rename_i nonneg
      rw [max_eq_left (not_lt.mp nonneg)]
  simp only [divideUplift, divideCost_eq, dividedBy_round known.cheap.ne', dividedBy_round dear.ne', minus_round, quotient,
    below_finite, decide_eq_true_eq, capped, floored, bind, Except.bind, pure, Except.pure]
  rfl

section Plain

variable [PyText] [DecimalText] (spelt : ∀ text, DecimalText.read text = (decimalOf text).map ExactDec.finite)

include spelt

omit [DecimalContext] in
theorem asExact_eq (value : Option Json) : asExact value = (asDecimal value).map .finite := by
  cases value with
  | none => rfl
  | some value => cases value <;> first | rfl | exact spelt _

theorem divideShift_eq {metrics : List ChannelMetric} {pair : Pair} (known : Ranked metrics pair)
    (laggardAlloc leaderAlloc : Allocation) :
    (divideShift metrics (pair.laggard.minDailySpend.map .finite) pair laggardAlloc leaderAlloc).map (Option.map Shift.uplift) =
      (shiftBundle metrics pair laggardAlloc leaderAlloc).map
        (Option.map fun bundle => .finite bundle.predictedUplift) := by
  unfold divideShift shiftBundle
  rw [asExact_eq spelt, asExact_eq spelt]
  cases asDecimal (some laggardAlloc.allocationAmount) with
  | none => rfl
  | some a =>
    by_cases positive : 0 < a
    · have kept : (some a).filter (0 < ·) = some a := by simp [Option.filter, positive]
      have default_ : ((asDecimal (some leaderAlloc.allocationAmount)).map ExactDec.finite).getD (.finite 0) =
          .finite ((asDecimal (some leaderAlloc.allocationAmount)).getD 0) := by
        cases asDecimal (some leaderAlloc.allocationAmount) <;> rfl
      simp only [kept, default_, Option.map_some, below_finite, positive, decide_true, Bool.not_true, Bool.false_eq_true,
        if_false, bind, Except.bind, divideShare_eq positive]
      cases sizeShift a pair.laggard.minDailySpend with
      | none => rfl
      | some sizing =>
        simp only [Option.map_some, minus_round, sum_round, divideUplift_eq known, quantized, require]
        by_cases fits : quantizeFits 2 (DecimalContext.round (a - sizing.amount))
        · by_cases fits' : quantizeFits 2
            (DecimalContext.round ((asDecimal (some leaderAlloc.allocationAmount)).getD 0 + sizing.amount))
          · by_cases fits'' : quantizeFits 2 sizing.amount
            · by_cases ratio : quantizeFits 4 pair.ratio
              · simp [fits, fits', fits'', ratio, pure, Except.pure, Except.map]
              · simp [fits, fits', fits'', ratio, invalid, Except.map]
            · simp [fits, fits', fits'', invalid, Except.map]
          · simp [fits, fits', invalid, Except.map]
        · simp [fits, invalid, Except.map]
    · simp [below_finite, positive, Option.filter, bind, Except.bind, pure, Except.pure, Except.map]

/-- On texts of finite numbers it is the rule of the recommendations. -/
theorem divideBudget_eq [JsonbText] [PyFloat] (data : RuleData) (tenantId campaignId : Uuid) (now : Int) :
    (divideBudget data tenantId campaignId now).map (Option.map Shift.uplift) =
      (tryBudgetShift data tenantId campaignId now).map (Option.map fun bundle => .finite bundle.predictedUplift) := by
  unfold divideBudget tryBudgetShift
  simp only [divideRatio_eq]
  cases picked : pickPair (channelMetrics data tenantId campaignId (now - minDataDays * day)) with
  | none => rfl
  | some pair =>
    have known := pickPair_ranked picked
    have floor : minDailySpend data.channels pair.laggard.channelId = pair.laggard.minDailySpend.map .finite := by
      obtain ⟨entry, _, named⟩ := List.mem_filterMap.mp known.laggard
      obtain ⟨id, _, same⟩ := Option.map_eq_some_iff.mp named
      rw [← same, minDailySpend, channelMetric]
      cases data.channels.find? (·.id = id) with
      | none => rfl
      | some channel => exact asExact_eq spelt _
    cases resolveStrategyAllocations data tenantId campaignId with
    | error error => rfl
    | ok allocations =>
      simp only [floor, bind, Except.bind]
      cases allocations.get? pair.laggard.name with
      | none => rfl
      | some laggardAlloc =>
        cases allocations.get? pair.leader.name with
        | none => rfl
        | some leaderAlloc => exact divideShift_eq spelt known laggardAlloc leaderAlloc

end Plain

variable [ExactDecimals]

theorem times_finite (a b : Rat) : times (.finite a) (.finite b) = .ok (.finite (a * b)) := by
  rw [times_round, ExactDecimals.round_eq]

theorem minus_finite (a b : Rat) : minus (.finite a) (.finite b) = .ok (.finite (a - b)) := by
  rw [minus_round, ExactDecimals.round_eq]

theorem dividedBy_finite {a b : Rat} (nonzero : b ≠ 0) : dividedBy (.finite a) (.finite b) = .ok (.finite (a / b)) := by
  rw [dividedBy_round nonzero, ExactDecimals.round_eq]

theorem divideShare_eq_ok {a : Decimal} (positive : 0 < a) {floor : Option ExactDec} {amount shiftPct : ExactDec}
    {clamped : Bool} (done : divideShare (.finite a) floor = .ok (some (amount, shiftPct, clamped))) :
    ∃ floored, clampToFloor (.finite a) (.finite (a * (30 / 100))) floor = .ok floored ∧
      ∀ x, floored.getD (.finite (a * (30 / 100))) = .finite x →
        10 / 100 * a ≤ x ∧ (x ≤ 50 / 100 * a ∧ amount = .finite x ∨ 50 / 100 * a < x ∧ amount = .finite (a * (50 / 100))) := by
  obtain ⟨proposed, thirty, done⟩ := bind_eq_ok.mp done
  rw [times_finite] at thirty
  cases thirty
  obtain ⟨floored, lowered, done⟩ := bind_eq_ok.mp done
  obtain ⟨share, quotient, done⟩ := bind_eq_ok.mp done
  refine ⟨floored, lowered, fun x finite_ => ?_⟩
  have same : share = .finite (x / a) := by
    simp only [actualShare, below_finite, finite_, decide_eq_true positive, dividedBy_finite positive.ne', bind, Except.bind,
      if_true] at quotient
    exact (Except.ok.inj quotient).symm
  subst same
  simp only [below_finite, finite_, times_finite, bind, Except.bind, pure, Except.pure, decide_eq_true_eq] at done
  split at done
  · cases done
  · rename_i enough
    rw [not_lt, le_div_iff₀ positive] at enough
    refine ⟨enough, ?_⟩
    split at done
    · rename_i large
      cases done
      exact Or.inr ⟨(lt_div_iff₀ positive).mp large, rfl⟩
    · rename_i small
      cases done
      exact Or.inl ⟨(div_le_iff₀ positive).mp (not_lt.mp small), rfl⟩

/-- What is left after the clamps: a tenth to a half of the allocation, and above the floor. -/
theorem divideShare_finite {a : Decimal} (positive : 0 < a) {floor : Option ExactDec} {amount shiftPct : ExactDec}
    {clamped : Bool} (done : divideShare (.finite a) floor = .ok (some (amount, shiftPct, clamped))) :
    ∃ x, amount = .finite x ∧ 10 / 100 * a ≤ x ∧ x ≤ 50 / 100 * a ∧
      ∀ least ∈ floor, below (.finite 0) least = .ok true → ∃ spend, least = .finite spend ∧ spend ≤ a - x := by
  obtain ⟨floored, lowered, kept⟩ := divideShare_eq_ok positive done
  rcases clampToFloor_eq_ok lowered with ⟨rfl, spared⟩ | ⟨least, given, most, sign, room, lower, result⟩
  · -- no clamp: the amount is the default share
    obtain ⟨_, ⟨_, same⟩ | ⟨large, _⟩⟩ := kept _ rfl
    · refine ⟨_, same, by linarith, by linarith, fun least given sign => ?_⟩
      obtain ⟨most, room, compared⟩ := spared least given sign
      rcases below_zero_iff.mp sign with rfl | ⟨spend, rfl, _⟩
      · cases room
        cases compared
      · rw [minus_finite] at room
        cases room
        rw [below_finite, Except.ok.injEq, decide_eq_false_iff_not, not_lt] at compared
        exact ⟨spend, rfl, by linarith⟩
    · exfalso
      linarith
  · rcases below_zero_iff.mp sign with rfl | ⟨spend, rfl, above⟩
    · -- nothing may go: the amount is zero, and the share too small
      cases room
      rcases result with ⟨_, rfl⟩ | ⟨impossible, _⟩
      · obtain ⟨enough, _⟩ := kept 0 rfl
        exfalso
        linarith
      · cases impossible
    · rw [minus_finite] at room
      cases room
      rw [below_finite, Except.ok.injEq, decide_eq_true_eq] at lower
      rcases result with ⟨_, rfl⟩ | ⟨_, rfl⟩
      · obtain ⟨enough, _⟩ := kept 0 rfl
        exfalso
        linarith
      · obtain ⟨enough, ⟨few, same⟩ | ⟨large, _⟩⟩ := kept _ rfl
        · refine ⟨_, same, enough, few, fun other given' _ => ?_⟩
          rw [given] at given'
          cases given'
          exact ⟨spend, rfl, by linarith⟩
        · exfalso
          linarith

theorem divideUplift_finite {metrics : List ChannelMetric} {pair : Pair} (known : Ranked metrics pair) {x : Decimal}
    {uplift : ExactDec} (done : divideUplift pair metrics (.finite x) = .ok uplift) :
    ∃ value, uplift = .finite value ∧ 0 ≤ value ∧ value ≤ 99999 / 10000 := by
  have dear : 0 < costPerOutcome pair.laggard pair.outcome := known.cheap.trans_le known.dearer
  have quotient : ∀ extra current : Decimal, ∃ value, perOutcome (.finite extra) current = .ok (.finite value) := by
    intro extra current
    unfold perOutcome
    split
    · rename_i some_
      exact ⟨_, dividedBy_finite some_.ne'⟩
    · exact ⟨0, rfl⟩
  simp only [divideUplift, divideCost_eq, dividedBy_finite known.cheap.ne', dividedBy_finite dear.ne', minus_finite, bind,
    Except.bind] at done
  obtain ⟨value, found⟩ := quotient (x / costPerOutcome pair.leader pair.outcome - x / costPerOutcome pair.laggard pair.outcome)
    (metrics.map fun m => (m.count pair.outcome : Decimal)).sum
  simp only [found, below_finite] at done
  by_cases large : (99999 / 10000 : Decimal) < value
  · simp only [large, decide_true, if_true, below_finite, pure, Except.pure, Except.ok.injEq] at done
    norm_num at done
    exact ⟨_, done.symm, by norm_num, le_rfl⟩
  · simp only [large, decide_false, Bool.false_eq_true, if_false, below_finite, pure, Except.pure, Except.ok.injEq,
      decide_eq_true_eq] at done
    split at done
    · exact ⟨0, done.symm, le_rfl, by norm_num⟩
    · rename_i nonneg
      exact ⟨value, done.symm, not_lt.mp nonneg, not_lt.mp large⟩

/-- The ratio keeps the two channels apart. -/
theorem Ranked.dearer_by {metrics : List ChannelMetric} {pair : Pair} (known : Ranked metrics pair) :
    12 / 10 * costPerOutcome pair.leader pair.outcome ≤ costPerOutcome pair.laggard pair.outcome := by
  have apart := known.apart
  rwa [known.ratio, ExactDecimals.round_eq, le_div_iff₀ known.cheap] at apart

theorem Ranked.channels_ne {metrics : List ChannelMetric} {pair : Pair} (known : Ranked metrics pair)
    (distinct : (metrics.map ChannelMetric.channelId).Nodup) : pair.laggard.channelId ≠ pair.leader.channelId := by
  intro same
  have one : pair.laggard = pair.leader := List.inj_on_of_nodup_map distinct known.laggard known.leader same
  have dearer := known.dearer_by
  rw [one] at dearer
  linarith [known.cheap]

theorem divideShift_bounded [PyText] [DecimalText] {metrics : List ChannelMetric} {pair : Pair}
    (known : Ranked metrics pair) (distinct : (metrics.map ChannelMetric.channelId).Nodup) {floor : Option ExactDec}
    {laggardAlloc leaderAlloc : Allocation} {shift : Shift}
    (done : divideShift metrics floor pair laggardAlloc leaderAlloc = .ok (some shift)) :
    shift.pair = pair ∧ shift.Bounded floor := by
  unfold divideShift at done
  split at done
  · cases done
  · rename_i allocated read
    obtain ⟨positive, sign, done⟩ := bind_eq_ok.mp done
    cases positive with
    | false => cases done
    | true =>
      obtain ⟨share, divided, done⟩ := bind_eq_ok.mp done
      cases share with
      | none => cases done
      | some share =>
        obtain ⟨amount, shiftPct, clamped⟩ := share
        obtain ⟨newLaggard, less, done⟩ := bind_eq_ok.mp done
        obtain ⟨newLeader, more, done⟩ := bind_eq_ok.mp done
        obtain ⟨uplift, uplifted, done⟩ := bind_eq_ok.mp done
        simp only [bind_eq_ok, pure_eq_ok] at done
        obtain ⟨_, _, _, _, _, _, _, _, same⟩ := done
        cases Option.some.inj same
        rcases below_zero_iff.mp sign with rfl | ⟨a, rfl, above⟩
        · exact absurd divided divideShare_infinite
        · obtain ⟨x, rfl, low, high, floors⟩ := divideShare_finite above divided
          rw [minus_finite] at less
          cases less
          exact ⟨rfl, known.channels_ne distinct, known.dearer_by, ⟨a, x, rfl, rfl, rfl, low, high, floors⟩,
            divideUplift_finite known uplifted⟩

omit [ExactDecimals] in
/-- A bucket for each channel. -/
theorem totalsByChannel_nodup (rows : List ChannelKindRow) : ((totalsByChannel rows).map Prod.fst).Nodup := by
  have run : ∀ (rows : List ChannelKindRow) (totals : Dict (Option Uuid) Totals), (totals.map Prod.fst).Nodup →
      ((rows.foldl (fun totals row => totals.set row.channelId (((totals.get? row.channelId).getD {}).enter row))
        totals).map Prod.fst).Nodup := by
    intro rows
    induction rows with
    | nil => exact fun _ nodup => nodup
    | cons row rows ih => exact fun totals nodup => ih _ (Dict.nodup_set nodup ..)
  exact run rows [] List.nodup_nil

omit [ExactDecimals] in
theorem channelMetrics_nodup [PyText] [JsonbText] (data : RuleData) (tenantId campaignId : Uuid) (since : Int) :
    ((channelMetrics data tenantId campaignId since).map ChannelMetric.channelId).Nodup := by
  have ids : (channelMetrics data tenantId campaignId since).map ChannelMetric.channelId =
      ((totalsByChannel (channelKindRows ((data.campaignEvents tenantId campaignId).filter fun e => since ≤ e.eventAt))).map
        Prod.fst).filterMap id := by
    rw [channelMetrics, List.map_filterMap, List.filterMap_map]
    refine List.filterMap_congr fun entry _ => ?_
    obtain ⟨found, totals⟩ := entry
    cases found <;> rfl
  rw [ids]
  exact (totalsByChannel_nodup _).filterMap fun a b c left right => left.trans right.symm

theorem divideBudget_bounded [PyText] [JsonbText] [PyFloat] [DecimalText] {data : RuleData} {tenantId campaignId : Uuid}
    {now : Int} {shift : Shift} (done : divideBudget data tenantId campaignId now = .ok (some shift)) :
    shift.Bounded (minDailySpend data.channels shift.pair.laggard.channelId) := by
  unfold divideBudget at done
  simp only [divideRatio_eq] at done
  cases picked : pickPair (channelMetrics data tenantId campaignId (now - minDataDays * day)) with
  | none =>
    rw [picked] at done
    cases done
  | some pair =>
    rw [picked] at done
    obtain ⟨_, same, done⟩ := bind_eq_ok.mp done
    cases same
    obtain ⟨allocations, _, done⟩ := bind_eq_ok.mp done
    split at done
    · obtain ⟨rfl, bounded⟩ := divideShift_bounded (pickPair_ranked picked) (channelMetrics_nodup ..) done
      exact bounded
    · cases done

omit [ExactDecimals] in
/-- Whatever the metrics and the strategy, the rule divides nothing by zero, and
in exact arithmetic a proposal keeps all its bounds. -/
theorem budgetShift_bounds [PyText] [JsonbText] [PyFloat] [DecimalText] (data : RuleData) (tenantId campaignId : Uuid)
    (now : Int) :
    divideBudget data tenantId campaignId now ≠ .error divisionByZero ∧
      (ExactDecimals → ∀ shift, divideBudget data tenantId campaignId now = .ok (some shift) →
        shift.Bounded (minDailySpend data.channels shift.pair.laggard.channelId)) :=
  ⟨undivided_divideBudget data tenantId campaignId now, fun _ _ done => divideBudget_bounded done⟩

end Bounds

namespace FlooredShift

local instance flooredText : PyText := PyText.plain

local instance flooredJsonb : JsonbText := JsonbText.plain

local instance flooredFloat : PyFloat := PyFloat.plain

local instance flooredContext : DecimalContext := DecimalContext.plain

/-- Whole numbers in digits. -/
local instance flooredDecimals : DecimalText where
  read s := (PyDecimal.plain.ofText s).map .finite
  write _ := ""
  read_null := by decide

def channel (id : Uuid) (name : String) (apiConfig : Dict String Json) : ChannelRow where
  id := id
  tenantId := 1
  platform := .email
  name := name
  apiConfig := apiConfig

def event (id channelId : Uuid) (eventType : EventKind) (metricValue : Option Rat) : EventRow where
  id := id
  tenantId := 1
  eventType := eventType
  payload := []
  providerEventId := none
  eventAt := 9 * day
  campaignId := some 5
  channelId := some channelId
  metricValue := metricValue

def strategyChannel (name : String) : Json :=
  .obj [("name", .str name), ("allocation_pct", .float "50.0"), ("allocation_amount", .str "100")]

/-- A click cost 100 on mail and 10 in the search; mail is to keep 80 a day. -/
def data : RuleData where
  events := [event 1 7 .click none, event 2 7 .spend (some 100), event 3 8 .click none, event 4 8 .spend (some 10)]
  channels := [channel 7 "mail" [("min_daily_spend", .str "80")], channel 8 "search" []]
  proposals := [
    { id := 50
      campaignId := 5
      version := 1
      payload := [("channels", .arr [strategyChannel "mail", strategyChannel "search"])]
      isAccepted := true
      tenantId := 1 }]

/-- The floor leaves twenty of the thirty. -/
theorem budgetShift_floored : ∃ shift, divideBudget data 1 5 (10 * day) = .ok (some shift) ∧
    shift.amount = .finite 20 ∧ shift.clamped = true ∧
    shift.Bounded (minDailySpend data.channels shift.pair.laggard.channelId) := by
  have exact_ : ExactDecimals := ⟨fun _ => rfl⟩
  have run : ∃ shift ∈ (divideBudget data 1 5 (10 * day)).toOption.join, shift.amount = .finite 20 ∧ shift.clamped = true := by
    decide +kernel
  obtain ⟨shift, made, amount, clamped⟩ := run
  have done := ok_some_of_mem made
  exact ⟨shift, done, amount, clamped, (budgetShift_bounds data 1 5 (10 * day)).2 exact_ shift done⟩

end FlooredShift

end Recommendations

end MarketingAgents
