import MarketingAgents.Analytics.Recommendations
import MarketingAgents.Db.Rounding
import MarketingAgents.Lib.Run

namespace MarketingAgents

open Lib PyText

namespace Recommendations

/-- What an accepted `budget_shift` writes. -/
structure BudgetShift where
  fromId : Uuid
  newFrom : Decimal
  toId : Uuid
  newTo : Decimal

section Budgets

def setAllocated (allocated : Decimal) (row : ChannelBudgetRow) : ChannelBudgetRow :=
  { row with allocated := numericColumn 2 allocated }

def budgetRow (campaignId channelId : Uuid) (allocated : Decimal) : ChannelBudgetRow where
  campaignId := campaignId
  channelId := channelId
  allocated := numericColumn 2 allocated

theorem setAllocated_key (allocated : Decimal) {k : Uuid × Uuid} (row : ChannelBudgetRow) (same : row.key = k) :
    (setAllocated allocated row).key = k := same

theorem budgetRow_key (campaignId channelId : Uuid) (allocated : Decimal) :
    (budgetRow campaignId channelId allocated).key = (campaignId, channelId) := rfl

/-- The store with the upserted row. -/
def withBudget (s : RecommendationStore) (campaignId channelId : Uuid) (allocated : Decimal) : RecommendationStore :=
  { s with
    budgets := upsertWhere (fun row => row.key = (campaignId, channelId)) (setAllocated allocated)
      (budgetRow campaignId channelId allocated) s.budgets
    keys := nodup_upsertWhere (setAllocated_key allocated) (budgetRow_key campaignId channelId allocated) s.keys }

/-- The channel has a row in the campaign, or can have one. -/
def Budgetable (data : RuleData) (campaignId channelId : Uuid) (s : RecommendationStore) : Prop :=
  (∃ row ∈ s.budgets, row.key = (campaignId, channelId)) ∨ ∃ channel ∈ data.channels, channel.id = channelId

instance (data : RuleData) (campaignId channelId : Uuid) (s : RecommendationStore) :
    Decidable (Budgetable data campaignId channelId s) :=
  inferInstanceAs (Decidable (_ ∨ _))

/-- The upsert of `campaign_channel_budget`, a `Numeric(14, 2)` that refers to
its channel and may not be negative. -/
def upsertBudget (data : RuleData) (campaignId channelId : Uuid) (allocated : Decimal) (s : RecommendationStore) :
    Except AppError RecommendationStore := do
  require (|numericColumn 2 allocated| < 10 ^ 12) (.raised "NumericValueOutOfRange")
  require (0 ≤ numericColumn 2 allocated) (.raised "CheckViolation")
  require (Budgetable data campaignId channelId s) (.raised "ForeignKeyViolation")
  pure (withBudget s campaignId channelId allocated)

/-- `allocated` of a channel, nothing where it has no row. -/
def allocatedTo (s : RecommendationStore) (campaignId channelId : Uuid) : Decimal :=
  ((s.budgets.find? fun row => row.key = (campaignId, channelId)).map ChannelBudgetRow.allocated).getD 0

/-- The sum of `allocated` over the channels of the campaign. -/
def allocatedTotal (s : RecommendationStore) (campaignId : Uuid) : Decimal :=
  ((s.budgets.filter (·.campaignId = campaignId)).map ChannelBudgetRow.allocated).sum

theorem allocatedTotal_congr {s s' : RecommendationStore} (same : s'.budgets = s.budgets) (campaignId : Uuid) :
    allocatedTotal s' campaignId = allocatedTotal s campaignId := by
  rw [allocatedTotal, allocatedTotal, same]

/-- What a row adds to the total of the campaign. -/
def share (campaignId : Uuid) (row : ChannelBudgetRow) : Decimal :=
  if row.campaignId = campaignId then row.allocated else 0

theorem allocatedTotal_eq (s : RecommendationStore) (campaignId : Uuid) :
    allocatedTotal s campaignId = (s.budgets.map (share campaignId)).sum := by
  rw [allocatedTotal, ← sum_map_if]
  simp only [decide_eq_true_eq]
  rfl

/-- The row of a channel of another campaign adds nothing. -/
theorem share_found (s : RecommendationStore) (campaignId other channelId : Uuid) :
    ((s.budgets.find? fun row => row.key = (campaignId, channelId)).map (share other)).getD 0 =
      if campaignId = other then allocatedTo s campaignId channelId else 0 := by
  unfold allocatedTo
  cases found : s.budgets.find? (fun row => decide (row.key = (campaignId, channelId))) with
  | none => simp
  | some row =>
    have owner : row.key = (campaignId, channelId) := by simpa using List.find?_some found
    have campaign : row.campaignId = campaignId := congrArg Prod.fst owner
    simp only [Option.map_some, Option.getD_some, share, campaign]

theorem allocatedTotal_withBudget (s : RecommendationStore) (campaignId other channelId : Uuid) (allocated : Decimal) :
    allocatedTotal (withBudget s campaignId channelId allocated) other +
        (if campaignId = other then allocatedTo s campaignId channelId else 0) =
      allocatedTotal s other + if campaignId = other then numericColumn 2 allocated else 0 := by
  have rewritten : ∀ row : ChannelBudgetRow, row.key = (campaignId, channelId) →
      share other (setAllocated allocated row) = if campaignId = other then numericColumn 2 allocated else 0 := by
    intro row owner
    have campaign : row.campaignId = campaignId := congrArg Prod.fst owner
    simp only [share, setAllocated, campaign]
  have entered : share other (budgetRow campaignId channelId allocated) =
      if campaignId = other then numericColumn 2 allocated else 0 := rfl
  rw [allocatedTotal_eq, allocatedTotal_eq, ← share_found]
  exact sum_upsertWhere rewritten entered s.keys

theorem allocatedTo_withBudget (s : RecommendationStore) (campaignId channelId other : Uuid) (allocated : Decimal) :
    allocatedTo (withBudget s campaignId channelId allocated) campaignId other =
      if channelId = other then numericColumn 2 allocated else allocatedTo s campaignId other := by
  have found := @find?_upsertWhere _ _ _ ChannelBudgetRow.key (campaignId, channelId) (campaignId, other)
    (setAllocated allocated) (budgetRow campaignId channelId allocated) (setAllocated_key allocated) rfl s.budgets
  rw [allocatedTo, withBudget, found]
  by_cases same : channelId = other
  · subst same
    cases stored : s.budgets.find? (fun row => decide (row.key = (campaignId, channelId))) with
    | none => simp [budgetRow]
    | some row => simp [setAllocated]
  · have differs : (campaignId, channelId) ≠ (campaignId, other) := fun equal => same (congrArg Prod.snd equal)
    rw [if_neg differs, if_neg same, allocatedTo]

end Budgets

section Accept

variable [PyText]

/-- `UUID(channel_id)`: a text that is none is caught, anything else is not. -/
def channelUuid : Json → Except AppError (Option Uuid)
  | .str text => .ok (uuidOf text)
  | _ => .error (.raised "AttributeError")

/-- `Decimal(str(side.get("new_allocation_amount") or "0"))`. -/
def newAllocation (fields : Dict String Json) : Except AppError Decimal :=
  orRaise (decimalOf (str (((fields.get? "new_allocation_amount").filter Json.truthy).getD (.str "0"))))
    (.raised "InvalidOperation")

/-- The first half of `_apply_budget_shift`; a proposal without channel ids is marked only. -/
def budgetShift (proposal : Dict String Json) : Except AppError (Option BudgetShift) := do
  let fromFields ← sideFields proposal "from"
  let toFields ← sideFields proposal "to"
  match (fromFields.get? "channel_id").filter Json.truthy, (toFields.get? "channel_id").filter Json.truthy with
  | some fromChannel, some toChannel =>
    match ← channelUuid fromChannel with
    | none => pure none
    | some fromId =>
      match ← channelUuid toChannel with
      | none => pure none
      | some toId =>
        let newFrom ← newAllocation fromFields
        let newTo ← newAllocation toFields
        pure (some ⟨fromId, newFrom, toId, newTo⟩)
  | _, _ => pure none

/-- `_apply_budget_shift`. -/
def applyBudgetShift (data : RuleData) (rec : RecommendationRow) (s : RecommendationStore) :
    Except AppError RecommendationStore := do
  match ← budgetShift rec.proposal with
  | none => pure s
  | some shift =>
    let s ← upsertBudget data rec.campaignId shift.fromId shift.newFrom s
    upsertBudget data rec.campaignId shift.toId shift.newTo s

/-- The pending recommendation that both endpoints ask for, in a session of the user's tenant. -/
def pendingRecommendation (s : RecommendationStore) (user : AppUser) (recommendationId : Uuid) :
    Except AppError RecommendationRow := do
  require (UserRole.marketer.rank ≤ user.role.rank) (.http 403 "requires role >= marketer")
  let row ← orRaise ((s.recommendations.find? (·.id = recommendationId)).filter (·.tenantId = user.tenantId))
    (.http 404 "recommendation not found")
  require (row.status = .pending) (.http 409 ("recommendation is in status '" ++ row.status.value ++ "'"))
  pure row

def applied (user : AppUser) (now : Int) (row : RecommendationRow) : RecommendationRow :=
  { row with status := .applied, appliedAt := some now, appliedBy := some user.id }

/-- Only a `budget_shift` is more than a marker. -/
def applyKind (data : RuleData) (row : RecommendationRow) (s : RecommendationStore) :
    Except AppError RecommendationStore :=
  if row.kind = .budgetShift then applyBudgetShift data row s else .ok s

/-- `accept_recommendation`. -/
def acceptRecommendation (data : RuleData) (user : AppUser) (recommendationId : Uuid) (now : Int)
    (s : RecommendationStore) : Except AppError RecommendationStore := do
  let row ← pendingRecommendation s user recommendationId
  let s ← applyKind data row s
  pure { s with recommendations := updateWhere (·.id = recommendationId) (applied user now) s.recommendations }

/-- `reject_recommendation`. -/
def rejectRecommendation (user : AppUser) (recommendationId : Uuid) (s : RecommendationStore) :
    Except AppError RecommendationStore := do
  let _ ← pendingRecommendation s user recommendationId
  pure { s with
    recommendations := updateWhere (·.id = recommendationId) (fun row => { row with status := .rejected })
      s.recommendations }

end Accept

/-- A nightly pass over the events, strategies and channels stored then, or a request. -/
inductive RecommendationOp where
  | generate (data : RuleData) (tenantId campaignId : Uuid) (now : Int)
  | accept (data : RuleData) (user : AppUser) (recommendationId : Uuid) (now : Int)
  | reject (user : AppUser) (recommendationId : Uuid)

section Runs

variable [PyText] [JsonbText] [PyFloat] [DecimalContext]

def outcome (s : RecommendationStore) : RecommendationOp → Except AppError RecommendationStore
  | .generate data tenantId campaignId now => generateRecommendations data tenantId campaignId now s
  | .accept data user recommendationId now => acceptRecommendation data user recommendationId now s
  | .reject user recommendationId => rejectRecommendation user recommendationId s

/-- A pass or a request that raises is rolled back. -/
def step (s : RecommendationStore) (op : RecommendationOp) : RecommendationStore :=
  match outcome s op with
  | .ok s' => s'
  | .error _ => s

end Runs

/-- Two amounts of the channels of a shift together; where both sides name one
channel, the second side alone counts. -/
def BudgetShift.together (shift : BudgetShift) (fromAmount toAmount : Decimal) : Decimal :=
  if shift.fromId = shift.toId then toAmount else fromAmount + toAmount

/-- What the rows of the two channels hold. -/
def held (s : RecommendationStore) (campaignId : Uuid) (shift : BudgetShift) : Decimal :=
  shift.together (allocatedTo s campaignId shift.fromId) (allocatedTo s campaignId shift.toId)

/-- What their columns keep of the new amounts. -/
def BudgetShift.written (shift : BudgetShift) : Decimal :=
  shift.together (numericColumn 2 shift.newFrom) (numericColumn 2 shift.newTo)

/-- The store after both upserts. -/
def withShift (s : RecommendationStore) (campaignId : Uuid) (shift : BudgetShift) : RecommendationStore :=
  withBudget (withBudget s campaignId shift.fromId shift.newFrom) campaignId shift.toId shift.newTo

theorem allocatedTotal_withShift (s : RecommendationStore) (campaignId : Uuid) (shift : BudgetShift) :
    allocatedTotal (withShift s campaignId shift) campaignId + held s campaignId shift =
      allocatedTotal s campaignId + shift.written := by
  have first := allocatedTotal_withBudget s campaignId campaignId shift.fromId shift.newFrom
  have second := allocatedTotal_withBudget (withBudget s campaignId shift.fromId shift.newFrom) campaignId campaignId
    shift.toId shift.newTo
  rw [if_pos rfl, if_pos rfl] at first second
  rw [allocatedTo_withBudget] at second
  rw [withShift, held, BudgetShift.written, BudgetShift.together, BudgetShift.together]
  by_cases same : shift.fromId = shift.toId
  · rw [if_pos same] at second
    rw [if_pos same, if_pos same]
    rw [same] at first second ⊢
    linarith
  · rw [if_neg same] at second
    rw [if_neg same, if_neg same]
    linarith

theorem allocatedTotal_withShift_ne (s : RecommendationStore) {campaignId other : Uuid} (shift : BudgetShift)
    (different : campaignId ≠ other) : allocatedTotal (withShift s campaignId shift) other = allocatedTotal s other := by
  have first := allocatedTotal_withBudget s campaignId other shift.fromId shift.newFrom
  have second := allocatedTotal_withBudget (withBudget s campaignId shift.fromId shift.newFrom) campaignId other
    shift.toId shift.newTo
  rw [if_neg different, if_neg different, add_zero, add_zero] at first second
  exact second.trans first

section Upserts

variable {data : RuleData} {campaignId channelId : Uuid} {allocated : Decimal} {s s' : RecommendationStore}

/-- What the columns of a budget row take. -/
structure Takes (data : RuleData) (campaignId channelId : Uuid) (allocated : Decimal) (s : RecommendationStore) : Prop where
  fits : |numericColumn 2 allocated| < 10 ^ 12
  nonneg : 0 ≤ numericColumn 2 allocated
  known : Budgetable data campaignId channelId s

theorem takes_iff : Takes data campaignId channelId allocated s ↔
    |numericColumn 2 allocated| < 10 ^ 12 ∧ 0 ≤ numericColumn 2 allocated ∧ Budgetable data campaignId channelId s :=
  ⟨fun takes => ⟨takes.fits, takes.nonneg, takes.known⟩, fun ⟨fits, nonneg, known⟩ => ⟨fits, nonneg, known⟩⟩

instance (data : RuleData) (campaignId channelId : Uuid) (allocated : Decimal) (s : RecommendationStore) :
    Decidable (Takes data campaignId channelId allocated s) :=
  decidable_of_iff _ takes_iff.symm

theorem upsertBudget_eq_ok : upsertBudget data campaignId channelId allocated s = .ok s' ↔
    Takes data campaignId channelId allocated s ∧ withBudget s campaignId channelId allocated = s' := by
  simp only [upsertBudget, bind_eq_ok, require_eq_ok, pure_eq_ok, takes_iff]
  constructor
  · rintro ⟨_, fits, _, nonneg, _, known, stored⟩
    exact ⟨⟨fits, nonneg, known⟩, stored⟩
  · rintro ⟨⟨fits, nonneg, known⟩, stored⟩
    exact ⟨(), fits, (), nonneg, (), known, stored⟩

/-- An upsert makes room for no other channel. -/
theorem budgetable_withBudget (known : Budgetable data campaignId channelId s) (other : Uuid) :
    Budgetable data campaignId other (withBudget s campaignId channelId allocated) ↔ Budgetable data campaignId other s := by
  by_cases same : channelId = other
  · subst same
    refine iff_of_true (known.imp_left fun ⟨row, member, owner⟩ => ?_) known
    exact ⟨setAllocated allocated row, mem_upsertWhere.mpr (Or.inl ⟨row, member, decide_eq_true owner, rfl⟩), owner⟩
  · have differs : (campaignId, channelId) ≠ (campaignId, other) := fun equal => same (congrArg Prod.snd equal)
    refine or_congr_left ⟨fun ⟨row, member, owner⟩ => ?_, fun ⟨row, member, owner⟩ => ?_⟩
    · rcases mem_upsertWhere.mp member with ⟨old, _, hit, rfl⟩ | ⟨stays, _⟩ | ⟨rfl, _⟩
      · exact absurd ((of_decide_eq_true hit).symm.trans owner) differs
      · exact ⟨row, stays, owner⟩
      · exact absurd owner differs
    · refine ⟨row, mem_upsertWhere.mpr (Or.inr (Or.inl ⟨member, decide_eq_false fun here => ?_⟩)), owner⟩
      exact differs (here.symm.trans owner)

/-- The budget table takes both sides of the shift. -/
def BudgetShift.Taken (shift : BudgetShift) (data : RuleData) (campaignId : Uuid) (s : RecommendationStore) : Prop :=
  Takes data campaignId shift.fromId shift.newFrom s ∧ Takes data campaignId shift.toId shift.newTo s

instance (shift : BudgetShift) (data : RuleData) (campaignId : Uuid) (s : RecommendationStore) :
    Decidable (shift.Taken data campaignId s) :=
  inferInstanceAs (Decidable (_ ∧ _))

end Upserts

section Conservation

variable [PyText]

theorem applyBudgetShift_ok {data : RuleData} {row : RecommendationRow} {s s' : RecommendationStore}
    (done : applyBudgetShift data row s = .ok s') :
    budgetShift row.proposal = .ok none ∧ s' = s ∨
    ∃ shift, budgetShift row.proposal = .ok (some shift) ∧ shift.Taken data row.campaignId s ∧
      s' = withShift s row.campaignId shift := by
  rw [applyBudgetShift, bind_eq_ok] at done
  obtain ⟨parsed, read, rest⟩ := done
  cases parsed with
  | none => exact Or.inl ⟨read, (pure_eq_ok.mp rest).symm⟩
  | some shift =>
    simp only [bind_eq_ok, upsertBudget_eq_ok] at rest
    obtain ⟨mid, ⟨first, rfl⟩, second, rfl⟩ := rest
    have known := (budgetable_withBudget first.known shift.toId).mp second.known
    exact Or.inr ⟨shift, read, ⟨first, second.fits, second.nonneg, known⟩, rfl⟩

theorem applyBudgetShift_of_taken {data : RuleData} {row : RecommendationRow} {s : RecommendationStore} {shift : BudgetShift}
    (read : budgetShift row.proposal = .ok (some shift)) (taken : shift.Taken data row.campaignId s) :
    applyBudgetShift data row s = .ok (withShift s row.campaignId shift) := by
  obtain ⟨first, second⟩ := taken
  have known : Budgetable data row.campaignId shift.toId (withBudget s row.campaignId shift.fromId shift.newFrom) :=
    (budgetable_withBudget first.known shift.toId).mpr second.known
  rw [applyBudgetShift, bind_eq_ok]
  refine ⟨some shift, read, bind_eq_ok.mpr ⟨_, upsertBudget_eq_ok.mpr ⟨first, rfl⟩, ?_⟩⟩
  exact upsertBudget_eq_ok.mpr ⟨⟨second.fits, second.nonneg, known⟩, rfl⟩

/-- What an accept that goes through does to the budgets. -/
theorem acceptRecommendation_budgets {data : RuleData} {user : AppUser} {recommendationId : Uuid} {now : Int}
    {s s' : RecommendationStore} (done : acceptRecommendation data user recommendationId now s = .ok s') :
    ∃ row, pendingRecommendation s user recommendationId = .ok row ∧
      (s'.budgets = s.budgets ∧ (row.kind = .budgetShift → budgetShift row.proposal = .ok none) ∨
      ∃ shift, row.kind = .budgetShift ∧ budgetShift row.proposal = .ok (some shift) ∧
        s'.budgets = (withShift s row.campaignId shift).budgets ∧ shift.Taken data row.campaignId s) := by
  simp only [acceptRecommendation, bind_eq_ok, pure_eq_ok] at done
  obtain ⟨row, asked, mid, applied, rfl⟩ := done
  refine ⟨row, asked, ?_⟩
  unfold applyKind at applied
  split at applied
  · rename_i shifts
    rcases applyBudgetShift_ok applied with ⟨marker, rfl⟩ | ⟨shift, read, taken, rfl⟩
    · exact Or.inl ⟨rfl, fun _ => marker⟩
    · exact Or.inr ⟨shift, shifts, read, rfl, taken⟩
  · rename_i other
    cases applied
    exact Or.inl ⟨rfl, fun shifts => absurd shifts other⟩

/-- The pending `budget_shift` of the campaign that the user can accept, and what it writes. -/
def pendingShift (campaignId : Uuid) (s : RecommendationStore) (user : AppUser) (recommendationId : Uuid) :
    Option (RecommendationRow × BudgetShift) :=
  match pendingRecommendation s user recommendationId with
  | .error _ => none
  | .ok row =>
    if row.kind = .budgetShift ∧ row.campaignId = campaignId then
      match budgetShift row.proposal with
      | .ok (some shift) => some (row, shift)
      | .ok none | .error _ => none
    else none

theorem pendingShift_eq_some {campaignId : Uuid} {s : RecommendationStore} {user : AppUser} {recommendationId : Uuid}
    {row : RecommendationRow} {shift : BudgetShift} :
    pendingShift campaignId s user recommendationId = some (row, shift) ↔
      pendingRecommendation s user recommendationId = .ok row ∧ (row.kind = .budgetShift ∧ row.campaignId = campaignId) ∧
        budgetShift row.proposal = .ok (some shift) := by
  unfold pendingShift
  cases pendingRecommendation s user recommendationId with
  | error error => simp
  | ok found =>
    dsimp only
    by_cases mine : found.kind = .budgetShift ∧ found.campaignId = campaignId
    · rw [if_pos mine]
      cases read : budgetShift found.proposal with
      | error error => grind
      | ok parsed => cases parsed <;> grind
    · rw [if_neg mine]
      grind

/-- What a side of the proposal says the strategy allots to its channel. -/
def plannedAmount (proposal : Dict String Json) (side : String) : Decimal :=
  match sideFields proposal side with
  | .ok fields => (asDecimal (fields.get? "allocation_amount")).getD 0
  | .error _ => 0

/-- What the strategy allots to the two channels, as the recommendation has it. -/
def planned (row : RecommendationRow) (shift : BudgetShift) : Decimal :=
  shift.together (plannedAmount row.proposal "from") (plannedAmount row.proposal "to")

/-- A shift that is accepted moves money within what the strategy allots to its channels. -/
def Exact (campaignId : Uuid) (s : RecommendationStore) : RecommendationOp → Prop
  | .accept data user recommendationId _ => ∀ found ∈ pendingShift campaignId s user recommendationId,
      found.2.Taken data campaignId s → found.2.written = planned found.1 found.2
  | _ => True

/-- A shift is accepted while its channels hold together what the strategy
allotted to them when it was proposed. -/
def Current (campaignId : Uuid) (s : RecommendationStore) : RecommendationOp → Prop
  | .accept data user recommendationId _ => ∀ found ∈ pendingShift campaignId s user recommendationId,
      found.2.Taken data campaignId s → held s campaignId found.2 = planned found.1 found.2
  | _ => True

instance (campaignId : Uuid) (s : RecommendationStore) : (op : RecommendationOp) → Decidable (Exact campaignId s op)
  | .accept data user recommendationId _ => inferInstanceAs (Decidable (∀ found ∈
      pendingShift campaignId s user recommendationId, found.2.Taken data campaignId s →
        found.2.written = planned found.1 found.2))
  | .generate .. | .reject .. => inferInstanceAs (Decidable True)

instance (campaignId : Uuid) (s : RecommendationStore) : (op : RecommendationOp) → Decidable (Current campaignId s op)
  | .accept data user recommendationId _ => inferInstanceAs (Decidable (∀ found ∈
      pendingShift campaignId s user recommendationId, found.2.Taken data campaignId s →
        held s campaignId found.2 = planned found.1 found.2))
  | .generate .. | .reject .. => inferInstanceAs (Decidable True)

variable [JsonbText] [PyFloat] [DecimalContext]

/-- A generated recommendation moves nothing yet. -/
theorem generateRecommendations_budgets {data : RuleData} {tenantId campaignId : Uuid} {now : Int}
    {s s' : RecommendationStore} (done : generateRecommendations data tenantId campaignId now s = .ok s') :
    s'.budgets = s.budgets := by
  unfold generateRecommendations at done
  split at done
  · cases done
    rfl
  · rw [bind_eq_ok] at done
    obtain ⟨found, _, rest⟩ := done
    cases found with
    | none =>
      cases rest
      rfl
    | some bundle =>
      simp only [bind_eq_ok] at rest
      obtain ⟨target, _, known, _, rest⟩ := rest
      split at rest
      · cases rest
        rfl
      · cases rest
        rfl

/-- An accept of a shift adds what it writes to the total and takes off what its channels held. -/
theorem accept_total (campaignId : Uuid) (s : RecommendationStore) (data : RuleData) (user : AppUser)
    (recommendationId : Uuid) (now : Int) :
    (∃ row shift, pendingShift campaignId s user recommendationId = some (row, shift) ∧ shift.Taken data campaignId s ∧
      allocatedTotal (step s (.accept data user recommendationId now)) campaignId + held s campaignId shift =
        allocatedTotal s campaignId + shift.written) ∨
    (∀ found ∈ pendingShift campaignId s user recommendationId, ¬ found.2.Taken data campaignId s) ∧
      allocatedTotal (step s (.accept data user recommendationId now)) campaignId = allocatedTotal s campaignId := by
  cases done : acceptRecommendation data user recommendationId now s with
  | error error =>
    have refused : step s (.accept data user recommendationId now) = s := by simp [step, outcome, done]
    rw [refused]
    refine Or.inr ⟨fun found pending taken => ?_, rfl⟩
    obtain ⟨asked, ⟨shifts, rfl⟩, read⟩ := pendingShift_eq_some.mp pending
    have applied := applyBudgetShift_of_taken read taken
    simp [acceptRecommendation, applyKind, asked, shifts, applied, bind, Except.bind, pure, Except.pure] at done
  | ok s' =>
    have result : step s (.accept data user recommendationId now) = s' := by simp [step, outcome, done]
    rw [result]
    obtain ⟨row, asked, ⟨kept, marker⟩ | ⟨shift, shifts, read, written, taken⟩⟩ := acceptRecommendation_budgets done
    · refine Or.inr ⟨fun found pending => ?_, allocatedTotal_congr kept campaignId⟩
      obtain ⟨again, ⟨kind, _⟩, read⟩ := pendingShift_eq_some.mp pending
      cases Except.ok.inj (asked.symm.trans again)
      simp [marker kind] at read
    · rw [allocatedTotal_congr written]
      by_cases owner : row.campaignId = campaignId
      · subst owner
        exact Or.inl ⟨row, shift, pendingShift_eq_some.mpr ⟨asked, ⟨shifts, rfl⟩, read⟩, taken,
          allocatedTotal_withShift s row.campaignId shift⟩
      · refine Or.inr ⟨fun found pending => ?_, allocatedTotal_withShift_ne s shift owner⟩
        obtain ⟨again, ⟨_, mine⟩, _⟩ := pendingShift_eq_some.mp pending
        cases Except.ok.inj (asked.symm.trans again)
        exact absurd mine owner

/-- An exact step keeps the total of a campaign if and only if it is current. -/
theorem step_total_iff {campaignId : Uuid} {s : RecommendationStore} {op : RecommendationOp} (exact : Exact campaignId s op) :
    allocatedTotal (step s op) campaignId = allocatedTotal s campaignId ↔ Current campaignId s op := by
  cases op with
  | generate data tenantId other now =>
    refine iff_of_true ?_ trivial
    cases done : generateRecommendations data tenantId other now s with
    | error error => simp [step, outcome, done]
    | ok s' =>
      have result : step s (.generate data tenantId other now) = s' := by simp [step, outcome, done]
      rw [result, allocatedTotal_congr (generateRecommendations_budgets done)]
  | reject user recommendationId =>
    refine iff_of_true ?_ trivial
    cases done : rejectRecommendation user recommendationId s with
    | error error => simp [step, outcome, done]
    | ok s' =>
      have result : step s (.reject user recommendationId) = s' := by simp [step, outcome, done]
      simp only [rejectRecommendation, bind_eq_ok, pure_eq_ok] at done
      obtain ⟨_, _, rfl⟩ := done
      rw [result]
      exact allocatedTotal_congr rfl campaignId
  | accept data user recommendationId now =>
    rcases accept_total campaignId s data user recommendationId now with
      ⟨row, shift, pending, taken, moved⟩ | ⟨untaken, same⟩
    · have sums := exact (row, shift) pending taken
      constructor
      · intro kept found again _
        cases Option.some.inj (pending.symm.trans again)
        linarith
      · intro current
        have stands := current (row, shift) pending taken
        linarith
    · exact iff_of_true same fun found pending taken => absurd taken (untaken found pending)

/-- Where the accepted shifts add up to what the strategy allots, the total of
a campaign is the initial one in every state of exactly the runs that accept
each shift while the budgets still hold what it was computed from. -/
theorem budget_conserved_iff (campaignId : Uuid) (s : RecommendationStore) (ops : List RecommendationOp)
    (exact : Along step (Exact campaignId) s ops) :
    Along step (fun before op => allocatedTotal (step before op) campaignId = allocatedTotal s campaignId) s ops ↔
      Along step (Current campaignId) s ops := by
  have start : allocatedTotal s campaignId = allocatedTotal s campaignId := rfl
  have next : ∀ before op, allocatedTotal before campaignId = allocatedTotal s campaignId → Exact campaignId before op →
      (allocatedTotal (step before op) campaignId = allocatedTotal s campaignId ↔ Current campaignId before op) := by
    intro before op same exact
    rw [← step_total_iff exact, same]
  constructor
  · intro conserved
    exact Along.imp (I := fun before => allocatedTotal before campaignId = allocatedTotal s campaignId)
      (exact.and conserved) start (fun _ _ _ after => after.2) fun before op same after =>
        (next before op same after.1).mp after.2
  · intro current
    exact Along.imp (I := fun before => allocatedTotal before campaignId = allocatedTotal s campaignId)
      (exact.and current) start (fun before op same holds => (next before op same holds.1).mpr holds.2)
      fun before op same holds => (next before op same holds.1).mpr holds.2

end Conservation

section Generated

variable [PyText] [DecimalContext] {metrics : List ChannelMetric} {pair : Pair} {laggardAlloc leaderAlloc : Allocation}
  {bundle : ProposalBundle}

/-- What an accept of a generated shift writes, and what it says is allotted:
all of it comes from the strategy, whatever the budgets hold. -/
theorem generated_shift (spelt : ∀ d, decimalOf (decimalStr d) = some d ∧ decimalStr d ≠ "")
    (named : ∀ id, uuidStr id ≠ "") (made : shiftBundle metrics pair laggardAlloc leaderAlloc = .ok (some bundle)) :
    ∃ laggardAmount leaderAmount sizing, asDecimal (some laggardAlloc.allocationAmount) = some laggardAmount ∧
      leaderAmount = (asDecimal (some leaderAlloc.allocationAmount)).getD 0 ∧
      sizeShift laggardAmount pair.laggard.minDailySpend = some sizing ∧
      budgetShift bundle.proposal = .ok (some
        { fromId := pair.laggard.channelId
          newFrom := quantize 2 (DecimalContext.round (laggardAmount - sizing.amount))
          toId := pair.leader.channelId
          newTo := quantize 2 (DecimalContext.round (leaderAmount + sizing.amount)) }) ∧
      plannedAmount bundle.proposal "from" = laggardAmount ∧ plannedAmount bundle.proposal "to" = leaderAmount := by
  unfold shiftBundle at made
  split at made
  · cases made
  · rename_i laggardAmount read
    split at made
    · cases made
    · rename_i sizing sized
      simp only [bind_eq_ok, pure_eq_ok] at made
      obtain ⟨_, _, same⟩ := made
      cases Option.some.inj same
      refine ⟨laggardAmount, _, sizing, (Option.filter_eq_some_iff.mp read).1, rfl, sized, ?_, ?_, ?_⟩
      · simp [budgetShift, sideFields, proposalSide, Dict.get?, Option.filter, Json.truthy, named, channelUuid,
          uuidOf_uuidStr, newAllocation, str_str, spelt, orRaise, bind, Except.bind, pure, Except.pure]
      · simp [plannedAmount, sideFields, proposalSide, Dict.get?, Option.filter, Json.truthy, asDecimal, str_str, spelt]
      · simp [plannedAmount, sideFields, proposalSide, Dict.get?, Option.filter, Json.truthy, asDecimal, str_str, spelt]

/-- A generated shift of so many digits as the context has, between whole cents
and by no odd half of one, is exact. -/
theorem generated_exact (spelt : ∀ d, decimalOf (decimalStr d) = some d ∧ decimalStr d ≠ "")
    (named : ∀ id, uuidStr id ≠ "") (made : shiftBundle metrics pair laggardAlloc leaderAlloc = .ok (some bundle))
    (two : pair.laggard.channelId ≠ pair.leader.channelId) :
    ∃ laggardAmount leaderAmount sizing, asDecimal (some laggardAlloc.allocationAmount) = some laggardAmount ∧
      leaderAmount = (asDecimal (some leaderAlloc.allocationAmount)).getD 0 ∧
      sizeShift laggardAmount pair.laggard.minDailySpend = some sizing ∧
      (DecimalContext.round (laggardAmount - sizing.amount) = laggardAmount - sizing.amount →
        DecimalContext.round (leaderAmount + sizing.amount) = leaderAmount + sizing.amount →
        (∃ n : Int, laggardAmount * 10 ^ 2 = n) → (∃ n : Int, leaderAmount * 10 ^ 2 = n) →
        (∀ k : Int, sizing.amount * 10 ^ 2 ≠ k + 1 / 2) → ∀ row : RecommendationRow, row.proposal = bundle.proposal →
          ∃ shift, budgetShift row.proposal = .ok (some shift) ∧ shift.written = planned row shift) := by
  obtain ⟨laggardAmount, leaderAmount, sizing, read, other, sized, written, fromAmount, toAmount⟩ :=
    generated_shift spelt named made
  refine ⟨laggardAmount, leaderAmount, sizing, read, other, sized, fun less more cents cents' clear row proposed => ?_⟩
  rw [proposed]
  refine ⟨_, written, ?_⟩
  rw [BudgetShift.written, planned, proposed, BudgetShift.together, BudgetShift.together, if_neg two, if_neg two,
    numericColumn_quantize, numericColumn_quantize, less, more, fromAmount, toAmount]
  exact quantize_exchange cents cents' clear

end Generated

namespace Shifts

local instance shiftsText : PyText := PyText.plain

local instance shiftsJsonb : JsonbText := JsonbText.plain

local instance shiftsFloat : PyFloat := PyFloat.plain

local instance shiftsDecimals : DecimalContext := DecimalContext.plain

def marketer : AppUser := ⟨9, 1, .marketer⟩

def campaign : Campaign where
  id := 5
  tenantId := 1
  name := "Spring"
  status := .live
  budgetTotal := 300
  currency := "EUR"
  startDate := 0
  endDate := 30

def channel (id : Uuid) (name : String) : ChannelRow where
  id := id
  tenantId := 1
  platform := .email
  name := name

/-- A third of the budget. -/
def strategyChannel (name : String) : Json :=
  .obj [("name", .str name), ("allocation_pct", .float "33.33"), ("allocation_amount", .str "100")]

def strategy : ProposalRow where
  id := 50
  campaignId := 5
  version := 1
  payload := [("channels", .arr [strategyChannel "mail", strategyChannel "search", strategyChannel "social"])]
  isAccepted := true
  tenantId := 1

def event (id channelId : Uuid) (eventType : EventKind) (metricValue : Option Rat) : EventRow where
  id := id
  tenantId := 1
  eventType := eventType
  payload := []
  providerEventId := none
  eventAt := 9 * day
  campaignId := some 5
  channelId := some channelId
  metricValue := metricValue

/-- A click on the channel, and what it cost. -/
def clickFor (channelId : Uuid) (cost : Rat) : List EventRow :=
  [event (2 * channelId) channelId .click none, event (2 * channelId + 1) channelId .spend (some cost)]

def known (events : List EventRow) : RuleData where
  events := events
  channels := [channel 7 "mail", channel 8 "search", channel 9 "social"]
  campaigns := [campaign]
  proposals := [strategy]

/-- The budgets of the accepted strategy. -/
def allotted : RecommendationStore where
  budgets := [budgetRow 5 7 100, budgetRow 5 8 100, budgetRow 5 9 100]
  keys := by decide

/-- Mail is dearer than search, and later, when social has its first click, dearer still than that. -/
def firstClicks : RuleData := known (clickFor 7 100 ++ clickFor 8 10)

def laterClicks : RuleData := known (clickFor 7 100 ++ clickFor 8 10 ++ clickFor 9 1)

def firstShift : List RecommendationOp := [.generate firstClicks 1 5 (10 * day), .accept firstClicks marketer 0 (10 * day)]

def bothShifts : List RecommendationOp :=
  firstShift ++ [.generate laterClicks 1 5 (11 * day), .accept laterClicks marketer 1 (11 * day)]

/-- Both shifts take the same 30 from mail. -/
theorem second_shift_creates_money :
    allocatedTotal allotted 5 = 300 ∧ allocatedTotal (Lib.run step allotted firstShift) 5 = 300 ∧
      (Lib.run step allotted bothShifts).budgets.map ChannelBudgetRow.allocated = [70, 130, 130] ∧
      allocatedTotal (Lib.run step allotted bothShifts) 5 = 330 :=
  ⟨by decide +kernel, by decide +kernel, by decide +kernel, by decide +kernel⟩

/-- The first shift finds the budgets as the strategy allots them. -/
theorem first_shift_conserves :
    allocatedTotal allotted 5 = 300 ∧
      Along step (fun before op => allocatedTotal (step before op) 5 = allocatedTotal allotted 5) allotted firstShift ∧
      (Lib.run step allotted firstShift).budgets.map ChannelBudgetRow.allocated = [70, 130, 100] :=
  ⟨by decide +kernel, (budget_conserved_iff 5 allotted firstShift (by decide +kernel)).mpr (by decide +kernel),
    by decide +kernel⟩

end Shifts

end Recommendations

end MarketingAgents
