import Mathlib.Data.List.Sort
import MarketingAgents.Agents.StrategyValidator
import MarketingAgents.Analytics.Recommendations

namespace MarketingAgents

open Lib PyText

namespace ExactDec

variable [DecimalContext]

def invalid : AppError := .raised "InvalidOperation"

def divisionByZero : AppError := .raised "DivisionByZero"

def rounded : ExactDec → ExactDec
  | .finite value => .finite (DecimalContext.round value)
  | other => other

def neg : ExactDec → ExactDec
  | .finite value => .finite (-value)
  | .infinite negative => .infinite !negative
  | .nan => .nan

/-- `a < b`. -/
def below (a b : ExactDec) : Except AppError Bool := (less a b).mapError fun _ => invalid

/-- `a + b`. -/
def sum (a b : ExactDec) : Except AppError ExactDec := ((add a b).mapError fun _ => invalid).map rounded

/-- `a - b`. -/
def minus (a b : ExactDec) : Except AppError ExactDec := sum a b.neg

/-- `a * b`. -/
def times : ExactDec → ExactDec → Except AppError ExactDec
  | .nan, _ | _, .nan => .ok .nan
  | .finite a, .finite b => .ok (rounded (.finite (a * b)))
  | .finite a, .infinite negative | .infinite negative, .finite a =>
    if a = 0 then .error invalid else .ok (.infinite (negative != decide (a < 0)))
  | .infinite negative, .infinite negative' => .ok (.infinite (negative != negative'))

/-- `a / b`; what Python calls `DivisionUndefined` is a division by zero as well. -/
def dividedBy : ExactDec → ExactDec → Except AppError ExactDec
  | .nan, _ | _, .nan => .ok .nan
  | .infinite _, .infinite _ => .error invalid
  | .infinite negative, .finite b => .ok (.infinite (negative != decide (b < 0)))
  | .finite _, .infinite _ => .ok (.finite 0)
  | .finite a, .finite b => if b = 0 then .error divisionByZero else .ok (rounded (.finite (a / b)))

/-- `quantize`, which raises on an infinity and where the result is too long. -/
def quantized (places : Nat) : ExactDec → Except AppError ExactDec
  | .nan => .ok .nan
  | .infinite _ => .error invalid
  | .finite value => if quantizeFits places value then .ok (.finite (quantize places value)) else .error invalid

end ExactDec

namespace Recommendations

open ExactDec

/-- What the rule has computed when it writes its proposal. -/
structure Shift where
  pair : Pair
  laggardAlloc : Allocation
  leaderAlloc : Allocation
  laggardAmount : ExactDec
  leaderAmount : ExactDec
  amount : ExactDec
  shiftPct : ExactDec
  clamped : Bool
  newLaggard : ExactDec
  newLeader : ExactDec
  uplift : ExactDec

section Rule

variable [PyText] [JsonbText] [PyFloat] [DecimalContext] [DecimalText]

/-- `_as_decimal`, with the texts of no finite number. -/
def asExact : Option Json → Option ExactDec
  | none | some .null => none
  | some value => DecimalText.read (str value)

/-- `min_daily_spend` of the channel. -/
def minDailySpend (channels : List ChannelRow) (id : Uuid) : Option ExactDec :=
  (channels.find? (·.id = id)).bind fun channel => asExact (channel.apiConfig.get? "min_daily_spend")

/-- A division of finite numbers. -/
def divided (a b : Decimal) : Except AppError Decimal :=
  if b = 0 then .error divisionByZero else .ok (DecimalContext.round (a / b))

/-- `cost_per_outcome`. -/
def divideCost (m : ChannelMetric) (outcome : Outcome) : Except AppError Decimal :=
  if m.spend ≤ 0 then .ok 0
  else if m.count outcome = 0 then .ok 0
  else divided m.spend (m.count outcome)

/-- From the metrics to the ratio, with each division. -/
def divideRatio (metrics : List ChannelMetric) : Except AppError (Option Pair) := do
  let outcome := if 0 < (metrics.map ChannelMetric.conversions).sum then Outcome.conversion else .click
  let eligible := metrics.filter fun m => 0 < m.spend ∧ 0 < m.count outcome
  if metrics.length < 2 ∨ eligible.length < 2 then pure none
  else
    let keyed ← eligible.mapM fun m => (divideCost m outcome).map fun cost => (cost, m)
    let sorted := keyed.insertionSort fun a b => a.1 ≤ b.1
    match sorted.head?, sorted.getLast? with
    | some leader, some laggard =>
      if leader.1 ≤ 0 then pure none
      else do
        let ratio ← divided laggard.1 leader.1
        if ratio < 12 / 10 then pure none else pure (some ⟨outcome, leader.2, laggard.2, ratio⟩)
    | _, _ => pure none

/-- The amount where the floor of the laggard lowers it. -/
def clampToFloor (allocated proposed : ExactDec) : Option ExactDec → Except AppError (Option ExactDec)
  | none => pure none
  | some floor => do
    if ← below (.finite 0) floor then
      let most ← allocated.minus floor
      if ← below most proposed then
        -- `max(max_shift_amount, Decimal(0))`
        pure (some (if ← below most (.finite 0) then .finite 0 else most))
      else pure none
    else pure none

/-- `shift_pct_actual`. -/
def actualShare (amount allocated : ExactDec) : Except AppError ExactDec := do
  if ← below (.finite 0) allocated then amount.dividedBy allocated else pure (.finite 0)

/-- The amount and its share of the allocation. -/
def divideShare (allocated : ExactDec) (floor : Option ExactDec) :
    Except AppError (Option (ExactDec × ExactDec × Bool)) := do
  let proposed ← allocated.times (.finite (30 / 100))
  let floored ← clampToFloor allocated proposed floor
  let amount := floored.getD proposed
  let shiftPct ← actualShare amount allocated
  if ← below shiftPct (.finite (10 / 100)) then pure none
  else if ← below (.finite (50 / 100)) shiftPct then do
    let most ← allocated.times (.finite (50 / 100))
    pure (some (most, .finite (50 / 100), floored.isSome))
  else pure (some (amount, shiftPct, floored.isSome))

/-- The extra outcomes over the current ones. -/
def perOutcome (extra : ExactDec) (current : Decimal) : Except AppError ExactDec :=
  if 0 < current then extra.dividedBy (.finite current) else pure (.finite 0)

/-- `predicted_uplift`. -/
def divideUplift (pair : Pair) (metrics : List ChannelMetric) (amount : ExactDec) : Except AppError ExactDec := do
  let current : Decimal := (metrics.map fun m => m.count pair.outcome).sum
  let leaderCost ← divideCost pair.leader pair.outcome
  let laggardCost ← divideCost pair.laggard pair.outcome
  let more ← amount.dividedBy (.finite leaderCost)
  let less ← amount.dividedBy (.finite laggardCost)
  let extra ← more.minus less
  let uplift ← perOutcome extra current
  let uplift := if ← below (.finite (99999 / 10000)) uplift then .finite (99999 / 10000) else uplift
  pure (if ← below uplift (.finite 0) then .finite 0 else uplift)

/-- From the allocations of the two channels to the proposal. -/
def divideShift (metrics : List ChannelMetric) (floor : Option ExactDec) (pair : Pair) (laggardAlloc leaderAlloc : Allocation) :
    Except AppError (Option Shift) :=
  match asExact (some laggardAlloc.allocationAmount) with
  | none => pure none
  | some allocated => do
    -- `laggard_alloc_amount <= 0`
    if !(← below (.finite 0) allocated) then pure none
    else
      match ← divideShare allocated floor with
      | none => pure none
      | some (amount, shiftPct, clamped) => do
        let leaderAmount := (asExact (some leaderAlloc.allocationAmount)).getD (.finite 0)
        let newLaggard ← allocated.minus amount
        let newLeader ← leaderAmount.sum amount
        let uplift ← divideUplift pair metrics amount
        let _ ← newLaggard.quantized 2
        let _ ← newLeader.quantized 2
        let _ ← amount.quantized 2
        let _ ← (ExactDec.finite pair.ratio).quantized 4
        pure (some ⟨pair, laggardAlloc, leaderAlloc, allocated, leaderAmount, amount, shiftPct, clamped, newLaggard,
          newLeader, uplift⟩)

/-- `_try_budget_shift` with every division, on whatever the texts spell. -/
def divideBudget (data : RuleData) (tenantId campaignId : Uuid) (now : Int) : Except AppError (Option Shift) := do
  let metrics := channelMetrics data tenantId campaignId (now - minDataDays * day)
  match ← divideRatio metrics with
  | none => pure none
  | some pair =>
    let allocations ← resolveStrategyAllocations data tenantId campaignId
    match allocations.get? pair.laggard.name, allocations.get? pair.leader.name with
    | some laggardAlloc, some leaderAlloc =>
      divideShift metrics (minDailySpend data.channels pair.laggard.channelId) pair laggardAlloc leaderAlloc
    | _, _ => pure none

end Rule

section Divisions

variable {α β : Type*}

/-- Whatever happens, nothing is divided by zero. -/
def Undivided (result : Except AppError α) : Prop := result ≠ .error divisionByZero

theorem Undivided.ok (value : α) : Undivided (.ok value : Except AppError α) := fun raised => by cases raised

theorem undivided_invalid : Undivided (.error invalid : Except AppError α) := by
  simp [Undivided, invalid, divisionByZero]

theorem Undivided.bind {α β : Type} {x : Except AppError α} {f : α → Except AppError β} (first : Undivided x)
    (next : ∀ a, x = .ok a → Undivided (f a)) : Undivided (x >>= f) := by
  intro raised
  rcases bind_eq_error.mp raised with here | ⟨a, done, later⟩
  · exact first here
  · exact next a done later

theorem Undivided.map {x : Except AppError α} {f : α → β} (first : Undivided x) : Undivided (x.map f) := by
  cases x with
  | error error => exact fun raised => first (by cases raised; rfl)
  | ok value => exact Undivided.ok _

theorem undivided_mapError {x : Except Unit α} : Undivided (x.mapError fun _ => invalid) := by
  cases x with
  | error error => exact undivided_invalid
  | ok value => exact Undivided.ok _

theorem undivided_below (a b : ExactDec) : Undivided (below a b) := undivided_mapError

variable [DecimalContext]

theorem undivided_sum (a b : ExactDec) : Undivided (sum a b) := undivided_mapError.map

theorem undivided_times (a b : ExactDec) : Undivided (times a b) := by
  unfold times
  split
  all_goals try split
  all_goals first | exact Undivided.ok _ | exact undivided_invalid

omit [DecimalContext] in
theorem undivided_quantized (places : Nat) (a : ExactDec) : Undivided (quantized places a) := by
  unfold quantized
  split
  all_goals try split
  all_goals first | exact Undivided.ok _ | exact undivided_invalid

/-- A divisor that is not zero. -/
theorem undivided_dividedBy {a b : ExactDec} (nonzero : b ≠ .finite 0) : Undivided (dividedBy a b) := by
  cases a with
  | nan => exact Undivided.ok _
  | infinite negative =>
    cases b with
    | nan | finite b => exact Undivided.ok _
    | infinite negative' => exact undivided_invalid
  | finite a =>
    cases b with
    | nan | infinite negative => exact Undivided.ok _
    | finite b =>
      rw [dividedBy, if_neg fun zero => nonzero (congrArg finite zero)]
      exact Undivided.ok _

theorem divideCost_eq (m : ChannelMetric) (outcome : Outcome) : divideCost m outcome = .ok (costPerOutcome m outcome) := by
  unfold divideCost costPerOutcome divided
  split
  · rfl
  · split
    · rfl
    · rename_i counted
      rw [if_neg (Nat.cast_ne_zero.mpr counted)]

/-- The channels with spend and outcomes, the cheapest outcome first. -/
def ranked (metrics : List ChannelMetric) (outcome : Outcome) : List ChannelMetric :=
  (metrics.filter fun m => 0 < m.spend ∧ 0 < m.count outcome).insertionSort fun a b =>
    costPerOutcome a outcome ≤ costPerOutcome b outcome

theorem insertionSort_eligible (metrics : List ChannelMetric) (outcome : Outcome) :
    ((metrics.filter fun m => 0 < m.spend ∧ 0 < m.count outcome).insertionSort fun a b =>
      costPerOutcome a outcome ≤ costPerOutcome b outcome) = ranked metrics outcome := rfl

theorem ranked_length (metrics : List ChannelMetric) (outcome : Outcome) :
    (ranked metrics outcome).length = (metrics.filter fun m => 0 < m.spend ∧ 0 < m.count outcome).length :=
  (List.perm_insertionSort ..).length_eq

/-- Ranking the channels with their costs beside them ranks the channels. -/
theorem keyed_ranked (metrics : List ChannelMetric) (outcome : Outcome) :
    ((metrics.filter fun m => 0 < m.spend ∧ 0 < m.count outcome).map fun m => (costPerOutcome m outcome, m)).insertionSort
        (fun a b => a.1 ≤ b.1) =
      (ranked metrics outcome).map fun m => (costPerOutcome m outcome, m) :=
  (List.map_insertionSort _ _ (fun m => (costPerOutcome m outcome, m)) _ fun _ _ _ _ => Iff.rfl).symm

/-- The divisions of the first half all have a divisor. -/
theorem divideRatio_eq (metrics : List ChannelMetric) : divideRatio metrics = .ok (pickPair metrics) := by
  have keyed : ∀ outcome, ((metrics.filter fun m => 0 < m.spend ∧ 0 < m.count outcome).mapM fun m =>
      (divideCost m outcome).map fun cost => (cost, m)) =
      .ok ((metrics.filter fun m => 0 < m.spend ∧ 0 < m.count outcome).map fun m => (costPerOutcome m outcome, m)) := by
    intro outcome
    simp only [divideCost_eq, Except.map]
    exact List.mapM_pure
  unfold divideRatio pickPair
  generalize (if 0 < (metrics.map ChannelMetric.conversions).sum then Outcome.conversion else .click) = outcome
  simp only [insertionSort_eligible, ranked_length]
  split
  · rfl
  · simp only [keyed, bind, Except.bind, keyed_ranked, List.head?_map, List.getLast?_map]
    cases (ranked metrics outcome).head? with
    | none => rfl
    | some leader =>
      cases (ranked metrics outcome).getLast? with
      | none => rfl
      | some laggard =>
        by_cases free : costPerOutcome leader outcome ≤ 0
        · simp [free, pure, Except.pure]
        · have nonzero : costPerOutcome leader outcome ≠ 0 := fun zero => free zero.le
          simp only [Option.map_some, free, divided, if_neg nonzero, if_false, false_or]
          split <;> rfl

omit [DecimalContext] in
/-- Of a list that ascends, the first element has the least key. -/
theorem head_le_last {key : α → Rat} {items : List α} (order : items.Pairwise fun a b => key a ≤ key b) {first last : α}
    (head : items.head? = some first) (tail : items.getLast? = some last) : key first ≤ key last := by
  cases items with
  | nil => cases head
  | cons a items =>
    cases head
    rcases List.mem_cons.mp (List.mem_of_getLast? tail) with rfl | later
    · exact le_rfl
    · exact List.rel_of_pairwise_cons order later

/-- What the rule knows of its pair. -/
structure Ranked (metrics : List ChannelMetric) (pair : Pair) : Prop where
  leader : pair.leader ∈ metrics
  laggard : pair.laggard ∈ metrics
  cheap : 0 < costPerOutcome pair.leader pair.outcome
  dearer : costPerOutcome pair.leader pair.outcome ≤ costPerOutcome pair.laggard pair.outcome
  ratio : pair.ratio =
    DecimalContext.round (costPerOutcome pair.laggard pair.outcome / costPerOutcome pair.leader pair.outcome)
  apart : 12 / 10 ≤ pair.ratio

theorem pickPair_ranked {metrics : List ChannelMetric} {pair : Pair} (picked : pickPair metrics = some pair) :
    Ranked metrics pair := by
  unfold pickPair at picked
  generalize (if 0 < (metrics.map ChannelMetric.conversions).sum then Outcome.conversion else .click) = outcome at picked
  dsimp only at picked
  rw [insertionSort_eligible] at picked
  have listed : ∀ m ∈ ranked metrics outcome, m ∈ metrics := fun m member =>
    (List.mem_filter.mp ((List.mem_insertionSort _).mp member)).1
  have order : (ranked metrics outcome).Pairwise fun a b => costPerOutcome a outcome ≤ costPerOutcome b outcome :=
    List.pairwise_insertionSort _ _
  split at picked
  · cases picked
  · split at picked
    · rename_i leader laggard first last
      split at picked
      · cases picked
      · rename_i kept
        obtain ⟨positive, large⟩ := not_or.mp kept
        cases Option.some.inj picked
        have mem := List.mem_of_mem_head? first
        have mem' := List.mem_of_getLast? last
        refine ⟨listed _ mem, listed _ mem', not_le.mp positive, ?_, rfl, not_lt.mp large⟩
        exact head_le_last order first last
    · cases picked

theorem undivided_clampToFloor (allocated proposed : ExactDec) (floor : Option ExactDec) :
    Undivided (clampToFloor allocated proposed floor) := by
  unfold clampToFloor
  cases floor with
  | none => exact Undivided.ok _
  | some floor =>
    refine (undivided_below _ _).bind fun positive _ => ?_
    cases positive with
    | false => exact Undivided.ok _
    | true =>
      refine (undivided_sum _ _).bind fun most _ => (undivided_below _ _).bind fun lower _ => ?_
      cases lower with
      | false => exact Undivided.ok _
      | true => exact (undivided_below _ _).bind fun _ _ => Undivided.ok _

/-- The share is only taken of an allocation above zero. -/
theorem undivided_actualShare (amount allocated : ExactDec) : Undivided (actualShare amount allocated) := by
  unfold actualShare
  refine (undivided_below _ _).bind fun positive sign => ?_
  split
  · rename_i yes
    refine undivided_dividedBy fun zero => ?_
    rw [zero, yes] at sign
    cases sign
  · exact Undivided.ok _

theorem undivided_perOutcome (extra : ExactDec) (current : Decimal) : Undivided (perOutcome extra current) := by
  unfold perOutcome
  split
  · rename_i some_
    exact undivided_dividedBy fun zero => some_.ne' (ExactDec.finite.inj zero)
  · exact Undivided.ok _

theorem undivided_divideShare (allocated : ExactDec) (floor : Option ExactDec) :
    Undivided (divideShare allocated floor) := by
  unfold divideShare
  refine (undivided_times _ _).bind fun proposed _ => (undivided_clampToFloor _ _ _).bind fun floored _ =>
    (undivided_actualShare _ _).bind fun shiftPct _ => (undivided_below _ _).bind fun small _ => ?_
  split
  · exact Undivided.ok _
  · refine (undivided_below _ _).bind fun large _ => ?_
    split
    · exact (undivided_times _ _).bind fun _ _ => Undivided.ok _
    · exact Undivided.ok _

/-- The costs of both channels are above zero. -/
theorem undivided_divideUplift {metrics : List ChannelMetric} {pair : Pair} (known : Ranked metrics pair)
    (amount : ExactDec) : Undivided (divideUplift pair metrics amount) := by
  have dear : 0 < costPerOutcome pair.laggard pair.outcome := known.cheap.trans_le known.dearer
  unfold divideUplift
  simp only [divideCost_eq]
  refine (Undivided.ok _).bind fun leaderCost leads => (Undivided.ok _).bind fun laggardCost lags => ?_
  cases leads
  cases lags
  have first : ExactDec.finite (costPerOutcome pair.leader pair.outcome) ≠ .finite 0 := fun zero =>
    known.cheap.ne' (ExactDec.finite.inj zero)
  have second : ExactDec.finite (costPerOutcome pair.laggard pair.outcome) ≠ .finite 0 := fun zero =>
    dear.ne' (ExactDec.finite.inj zero)
  refine (undivided_dividedBy first).bind fun more _ => (undivided_dividedBy second).bind fun less _ =>
    (undivided_sum _ _).bind fun extra _ => ?_
  exact (undivided_perOutcome _ _).bind fun uplift _ => (undivided_below _ _).bind fun _ _ =>
    (undivided_below _ _).bind fun _ _ => Undivided.ok _

theorem undivided_divideShift [PyText] [DecimalText] {metrics : List ChannelMetric} {pair : Pair}
    (known : Ranked metrics pair) (floor : Option ExactDec) (laggardAlloc leaderAlloc : Allocation) :
    Undivided (divideShift metrics floor pair laggardAlloc leaderAlloc) := by
  unfold divideShift
  split
  · exact Undivided.ok _
  · refine (undivided_below _ _).bind fun positive _ => ?_
    split
    · exact Undivided.ok _
    · refine (undivided_divideShare _ _).bind fun share _ => ?_
      split
      · exact Undivided.ok _
      · exact (undivided_sum _ _).bind fun _ _ => (undivided_sum _ _).bind fun _ _ =>
          (undivided_divideUplift known _).bind fun _ _ => (undivided_quantized _ _).bind fun _ _ =>
          (undivided_quantized _ _).bind fun _ _ => (undivided_quantized _ _).bind fun _ _ =>
          (undivided_quantized _ _).bind fun _ _ => Undivided.ok _

omit [DecimalContext] in
/-- Reading the strategy divides nothing. -/
theorem undivided_allocations [PyText] [PyFloat] (data : RuleData) (tenantId campaignId : Uuid) :
    Undivided (resolveStrategyAllocations data tenantId campaignId) := by
  have entry : ∀ channel, Undivided (allocationOf channel) := by
    intro channel
    unfold allocationOf
    split
    · rename_i fields
      cases named : ((Dict.get? fields "name").getD .null).truthy with
      | false => simp [Undivided, named, pure, Except.pure]
      | true =>
        simp only [named, Bool.true_eq_false, if_false]
        refine Undivided.bind ?_ fun pct _ => ?_
        · exact fun raised => by simp [orRaise_eq_error, divisionByZero] at raised
        · split <;> simp [Undivided, divisionByZero, pure, Except.pure]
    · simp [Undivided, divisionByZero]
  unfold resolveStrategyAllocations
  split
  · exact Undivided.ok _
  · refine Undivided.bind ?_ fun channels _ => Undivided.bind ?_ fun _ _ => Undivided.ok _
    · unfold strategyChannels
      split <;> simp [Undivided, divisionByZero]
    · intro raised
      obtain ⟨channel, _, failed⟩ := mapM_error raised
      exact entry channel failed

/-- No input makes the rule divide by zero. -/
theorem undivided_divideBudget [PyText] [JsonbText] [PyFloat] [DecimalText] (data : RuleData) (tenantId campaignId : Uuid)
    (now : Int) : Undivided (divideBudget data tenantId campaignId now) := by
  unfold divideBudget
  simp only [divideRatio_eq]
  refine (Undivided.ok _).bind fun picked same => ?_
  cases same
  split
  · exact Undivided.ok _
  · rename_i pair picked
    refine (undivided_allocations _ _ _).bind fun allocations _ => ?_
    split
    · exact undivided_divideShift (pickPair_ranked picked) _ _ _
    · exact Undivided.ok _

end Divisions

end Recommendations

end MarketingAgents
