import MarketingAgents.Analytics.SpendReconciliation
import MarketingAgents.Api.Recommendations

namespace MarketingAgents

open Lib PyText Recommendations Reconciliation

structure ChannelSpend where
  channelId : Uuid
  amount : Decimal

/-- The tables that decide what a campaign has spent; the budgets are those of the recommendations. -/
structure SpendLedger where
  campaigns : List Campaign := []
  channels : List ChannelRow := []
  shifts : RecommendationStore
  reconciliations : ReconciliationStore := {}

namespace SpendLedger

section Charges

/-- `spent` of a channel, nothing where it has no row. -/
def spentBy (s : RecommendationStore) (k : Uuid × Uuid) : Decimal :=
  ((s.budgets.find? fun row => row.key = k).map ChannelBudgetRow.spent).getD 0

def setSpent (amount : Decimal) (row : ChannelBudgetRow) : ChannelBudgetRow :=
  { row with spent := numericColumn 2 amount }

def spentRow (campaignId channelId : Uuid) (amount : Decimal) : ChannelBudgetRow where
  campaignId := campaignId
  channelId := channelId
  allocated := 0
  spent := numericColumn 2 amount

theorem setSpent_key (amount : Decimal) {k : Uuid × Uuid} (row : ChannelBudgetRow) (same : row.key = k) :
    (setSpent amount row).key = k := same

theorem spentRow_key (campaignId channelId : Uuid) (amount : Decimal) :
    (spentRow campaignId channelId amount).key = (campaignId, channelId) := rfl

/-- The upsert of a record. -/
def withSpent (campaignId : Uuid) (s : RecommendationStore) (record : ChannelSpend) : RecommendationStore :=
  { s with
    budgets := upsertWhere (fun row => row.key = (campaignId, record.channelId)) (setSpent record.amount)
      (spentRow campaignId record.channelId record.amount) s.budgets
    keys := nodup_upsertWhere (setSpent_key record.amount) (spentRow_key campaignId record.channelId record.amount) s.keys }

/-- The same under the constraints of the column, a `Numeric(14, 2)` that is not negative. -/
def charge (channels : List ChannelRow) (campaignId : Uuid) (s : RecommendationStore) (record : ChannelSpend) :
    Except AppError RecommendationStore := do
  require (|numericColumn 2 record.amount| < 10 ^ 12) (.raised "NumericValueOutOfRange")
  require (0 ≤ numericColumn 2 record.amount) (.raised "CheckViolation")
  require ((∃ row ∈ s.budgets, row.key = (campaignId, record.channelId)) ∨
    ∃ channel ∈ channels, channel.id = record.channelId) (.raised "ForeignKeyViolation")
  pure (withSpent campaignId s record)

end Charges

/-- What the reconciliation reads. -/
def data (l : SpendLedger) : SpendData := ⟨l.campaigns, l.shifts.budgets⟩

/-- `_is_spend_read_only`, with what `ORDER BY period_end DESC LIMIT 1` returns. -/
def isSpendReadOnly (campaign : Campaign) (latest : Option SpendReconciliation) : Bool :=
  decide (campaign.status = .completed) && latest.any fun row => decide (row.status = .matched)

section Ingest

variable [PyText]

/-- `ingest_platform_spend`. -/
def ingestPlatformSpend (l : SpendLedger) (tenantId campaignId : Uuid) (records : List ChannelSpend)
    (latest : Option SpendReconciliation) : Except AppError SpendLedger := do
  let campaign ← orRaise (invoicedCampaign l.data tenantId campaignId)
    (.raised ("campaign " ++ uuidStr campaignId ++ " not found"))
  require (isSpendReadOnly campaign latest = false)
    (.raised ("campaign " ++ uuidStr campaignId ++ " is completed + reconciled — spend is read-only"))
  let shifts ← records.foldlM (charge l.channels campaignId) l.shifts
  pure { l with shifts }

end Ingest

/-- A request or a nightly pass; `tables` is whatever else happens to campaigns and channels. -/
inductive Op where
  | ingest (tenantId campaignId : Uuid) (records : List ChannelSpend) (latest : Option SpendReconciliation)
  | reconcile (tenantId : Uuid) (periodStart periodEnd : Int) (invoices : Dict Uuid Decimal)
  | explain (reconciliationId userId : Uuid) (note : String) (now : Int)
  | dispute (reconciliationId userId : Uuid) (note : Option String) (now : Int)
  | recommend (op : RecommendationOp)
  | tables (campaigns : List Campaign) (channels : List ChannelRow)

/-- A row that the query for the latest may return. -/
def IsLatest (l : SpendLedger) (row : SpendReconciliation) : Prop :=
  ∀ other ∈ l.reconciliations.rows, other.campaignId = row.campaignId → other.periodEnd ≤ row.periodEnd

instance decidableIsLatest (l : SpendLedger) (row : SpendReconciliation) : Decidable (l.IsLatest row) :=
  inferInstanceAs (Decidable (∀ other ∈ l.reconciliations.rows, _ → _))

/-- The query of an ingest returns a row that ends last, whichever of several. -/
def Answered (l : SpendLedger) : Op → Prop
  | .ingest _ campaignId _ none => ∀ row ∈ l.reconciliations.rows, row.campaignId ≠ campaignId
  | .ingest _ campaignId _ (some latest) =>
    latest ∈ l.reconciliations.rows ∧ latest.campaignId = campaignId ∧ l.IsLatest latest
  | _ => True

instance decidableAnswered (l : SpendLedger) (op : Op) : Decidable (l.Answered op) := by
  unfold Answered
  split <;> infer_instance

/-- The campaign is completed, and every row that ends last is matched. -/
structure Locked (l : SpendLedger) (campaignId : Uuid) : Prop where
  completed : ∃ campaign, l.campaigns.find? (·.id = campaignId) = some campaign ∧ campaign.status = .completed
  reconciled : ∃ row ∈ l.reconciliations.rows, row.campaignId = campaignId
  matched : ∀ row ∈ l.reconciliations.rows, row.campaignId = campaignId → l.IsLatest row → row.status = .matched

/-- The rows that end last carry what is spent. -/
def Agrees [DecimalContext] (l : SpendLedger) (campaignId : Uuid) : Prop :=
  ∀ row ∈ l.reconciliations.rows, row.campaignId = campaignId → l.IsLatest row →
    row.committedAmount = numericColumn 2 (committedTotal l.data campaignId)

instance decidableAgrees [DecimalContext] (l : SpendLedger) (campaignId : Uuid) : Decidable (l.Agrees campaignId) :=
  inferInstanceAs (Decidable (∀ row ∈ l.reconciliations.rows, _ → _ → _))

section Steps

variable [PyText] [JsonbText] [PyFloat] [DecimalContext]

def outcome (l : SpendLedger) : Op → Except AppError SpendLedger
  | .ingest tenantId campaignId records latest => l.ingestPlatformSpend tenantId campaignId records latest
  | .reconcile tenantId periodStart periodEnd invoices =>
    .ok { l with reconciliations := Reconciliation.step l.reconciliations (.run l.data tenantId periodStart periodEnd invoices) }
  | .explain reconciliationId userId note now =>
    .ok { l with reconciliations := Reconciliation.step l.reconciliations (.explain reconciliationId userId note now) }
  | .dispute reconciliationId userId note now =>
    .ok { l with reconciliations := Reconciliation.step l.reconciliations (.dispute reconciliationId userId note now) }
  | .recommend op => .ok { l with shifts := Recommendations.step l.shifts op }
  | .tables campaigns channels => .ok { l with campaigns, channels }

/-- A request that raises is rolled back. -/
def step (l : SpendLedger) (op : Op) : SpendLedger :=
  match l.outcome op with
  | .ok l' => l'
  | .error _ => l

/-- What a step charges, under the campaign and the channel. -/
def charges (l : SpendLedger) : Op → List ((Uuid × Uuid) × Decimal)
  | .ingest tenantId campaignId records latest =>
    if (l.ingestPlatformSpend tenantId campaignId records latest).isOk then
      records.map fun record => ((campaignId, record.channelId), record.amount)
    else []
  | _ => []

/-- What the ingests of a run charge, in order. -/
def accepted (l : SpendLedger) : List Op → List ((Uuid × Uuid) × Decimal)
  | [] => []
  | op :: ops => l.charges op ++ accepted (l.step op) ops

end Steps

/-- The last charge of a channel, or what stood there before. -/
def lastCharge (charges : List ((Uuid × Uuid) × Decimal)) (k : Uuid × Uuid) (before : Decimal) : Decimal :=
  match (charges.filter (·.1 = k)).getLast? with
  | some entry => numericColumn 2 entry.2
  | none => before

/-- What may lift a lock: a reconciliation that ends as late and is off by more
than one per cent, a mark on a row that ends last, and a campaign that is completed no more. -/
def Lifts [DecimalContext] (l : SpendLedger) (campaignId : Uuid) : Op → Prop
  | .reconcile _ _ periodEnd invoices =>
    (∃ amount, (campaignId, amount) ∈ invoices ∧ (figuresOf l.data campaignId amount).status = .pending) ∧
      ∀ row ∈ l.reconciliations.rows, row.campaignId = campaignId → row.periodEnd ≤ periodEnd
  | .explain reconciliationId _ _ _ | .dispute reconciliationId _ _ _ =>
    ∃ row ∈ l.reconciliations.rows, row.id = reconciliationId ∧ row.campaignId = campaignId ∧ l.IsLatest row
  | .tables campaigns _ => ¬ ∃ campaign, campaigns.find? (·.id = campaignId) = some campaign ∧ campaign.status = .completed
  | .ingest .. | .recommend _ => False

/-- A reconciliation that goes through, of a campaign and of its last period. -/
def Settles [DecimalContext] (l : SpendLedger) (campaignId : Uuid) : Op → Prop
  | .reconcile tenantId periodStart periodEnd invoices =>
    ¬ Refused l.data tenantId invoices ∧ (∃ amount, (campaignId, amount) ∈ invoices) ∧
      (invoicedCampaign l.data tenantId campaignId).isSome = true ∧
      ∀ row ∈ l.reconciliations.rows, row.campaignId = campaignId →
        key row ≠ ⟨tenantId, campaignId, periodStart, periodEnd⟩ → row.periodEnd < periodEnd
  | _ => False

section Spent

theorem spentBy_withSpent (campaignId : Uuid) (s : RecommendationStore) (record : ChannelSpend) (k : Uuid × Uuid) :
    spentBy (withSpent campaignId s record) k =
      if (campaignId, record.channelId) = k then numericColumn 2 record.amount else spentBy s k := by
  have found := @find?_upsertWhere _ _ _ ChannelBudgetRow.key (campaignId, record.channelId) k (setSpent record.amount)
    (spentRow campaignId record.channelId record.amount) (setSpent_key record.amount) rfl s.budgets
  rw [spentBy, withSpent, found]
  by_cases same : (campaignId, record.channelId) = k
  · subst same
    cases stored : s.budgets.find? (fun row => decide (row.key = (campaignId, record.channelId))) with
    | none => simp [spentRow]
    | some row => simp [setSpent]
  · rw [if_neg same, if_neg same, spentBy]

/-- A shift of the budgets writes what is allocated alone. -/
theorem spentBy_withBudget (s : RecommendationStore) (campaignId channelId : Uuid) (allocated : Decimal) (k : Uuid × Uuid) :
    spentBy (withBudget s campaignId channelId allocated) k = spentBy s k := by
  have found := @find?_upsertWhere _ _ _ ChannelBudgetRow.key (campaignId, channelId) k (setAllocated allocated)
    (budgetRow campaignId channelId allocated) (setAllocated_key allocated) rfl s.budgets
  rw [spentBy, withBudget, found]
  by_cases same : (campaignId, channelId) = k
  · subst same
    unfold spentBy
    cases stored : s.budgets.find? (fun row => decide (row.key = (campaignId, channelId))) with
    | none => simp [budgetRow]
    | some row => simp [setAllocated]
  · rw [if_neg same, spentBy]

/-- What a row adds to the committed amount of the campaign. -/
def spentShare (campaignId : Uuid) (row : ChannelBudgetRow) : Decimal := if row.campaignId = campaignId then row.spent else 0

theorem committedTotal_eq (campaigns : List Campaign) (s : RecommendationStore) (campaignId : Uuid) :
    committedTotal ⟨campaigns, s.budgets⟩ campaignId = (s.budgets.map (spentShare campaignId)).sum := by
  rw [committedTotal, ← sum_map_if]
  simp only [decide_eq_true_eq]
  rfl

theorem committed_withBudget (s : RecommendationStore) (campaignId other channelId : Uuid) (allocated : Decimal) :
    ((withBudget s campaignId channelId allocated).budgets.map (spentShare other)).sum =
      (s.budgets.map (spentShare other)).sum := by
  refine sum_upsertWhere_same (fun _ _ => rfl) ?_
  unfold spentShare budgetRow
  split <;> rfl

theorem committed_withSpent {campaignId other : Uuid} (different : campaignId ≠ other) (s : RecommendationStore)
    (record : ChannelSpend) :
    ((withSpent campaignId s record).budgets.map (spentShare other)).sum = (s.budgets.map (spentShare other)).sum := by
  refine sum_upsertWhere_same (fun row hit => ?_) (if_neg different)
  have owner : row.campaignId = campaignId := congrArg Prod.fst (of_decide_eq_true hit)
  have elsewhere : row.campaignId ≠ other := owner.symm ▸ different
  rw [spentShare, spentShare, if_neg elsewhere]
  exact if_neg elsewhere

theorem charge_ok {channels : List ChannelRow} {campaignId : Uuid} {s s' : RecommendationStore} {record : ChannelSpend}
    (done : charge channels campaignId s record = .ok s') : s' = withSpent campaignId s record := by
  simp only [charge, bind_eq_ok, pure_eq_ok] at done
  obtain ⟨_, _, _, _, _, _, rfl⟩ := done
  rfl

theorem lastCharge_append (first last : List ((Uuid × Uuid) × Decimal)) (k : Uuid × Uuid) (before : Decimal) :
    lastCharge (first ++ last) k before = lastCharge last k (lastCharge first k before) := by
  unfold lastCharge
  rw [List.filter_append, List.getLast?_append]
  cases (last.filter (·.1 = k)).getLast? with
  | none => rfl
  | some entry => rfl

theorem lastCharge_of_absent {entries : List ((Uuid × Uuid) × Decimal)} {k : Uuid × Uuid}
    (absent : ∀ entry ∈ entries, entry.1 ≠ k)
    (before : Decimal) : lastCharge entries k before = before := by
  have none_ : entries.filter (·.1 = k) = [] :=
    List.filter_eq_nil_iff.mpr fun entry member same => absent entry member (of_decide_eq_true same)
  rw [lastCharge, none_]
  rfl

/-- The records of an ingest, charged one after the other. -/
theorem spentBy_records {channels : List ChannelRow} {campaignId : Uuid} {s s' : RecommendationStore}
    {records : List ChannelSpend}
    (done : records.foldlM (charge channels campaignId) s = .ok s') (k : Uuid × Uuid) :
    spentBy s' k =
      lastCharge (records.map fun record => ((campaignId, record.channelId), record.amount)) k (spentBy s k) := by
  induction records generalizing s with
  | nil =>
    cases done
    rfl
  | cons record records ih =>
    rw [List.foldlM_cons, bind_eq_ok] at done
    obtain ⟨mid, first, rest⟩ := done
    cases charge_ok first
    rw [ih rest, spentBy_withSpent, List.map_cons, ← List.singleton_append, lastCharge_append]
    congr 1
    by_cases same : (campaignId, record.channelId) = k
    · simp [lastCharge, same]
    · simp [lastCharge, same]

end Spent

section Recommended

variable [PyText] [JsonbText] [PyFloat] [DecimalContext]

/-- Recommendations leave the budgets alone but for a shift. -/
theorem recommend_budgets (s : RecommendationStore) (op : RecommendationOp) :
    (Recommendations.step s op).budgets = s.budgets ∨
      ∃ campaignId shift, (Recommendations.step s op).budgets = (withShift s campaignId shift).budgets := by
  cases done : Recommendations.outcome s op with
  | error error =>
    left
    simp only [Recommendations.step, done]
  | ok s' =>
    have result : Recommendations.step s op = s' := by simp only [Recommendations.step, done]
    rw [result]
    cases op with
    | generate data tenantId campaignId now => exact Or.inl (generateRecommendations_budgets done)
    | accept data user recommendationId now =>
      obtain ⟨row, _, ⟨kept, _⟩ | ⟨shift, _, _, written, _⟩⟩ := acceptRecommendation_budgets done
      · exact Or.inl kept
      · exact Or.inr ⟨row.campaignId, shift, written⟩
    | reject user recommendationId =>
      simp only [Recommendations.outcome, rejectRecommendation, bind_eq_ok, pure_eq_ok] at done
      obtain ⟨_, _, rfl⟩ := done
      exact Or.inl rfl

theorem recommend_spent (s : RecommendationStore) (op : RecommendationOp) (k : Uuid × Uuid) :
    spentBy (Recommendations.step s op) k = spentBy s k := by
  rcases recommend_budgets s op with kept | ⟨campaignId, shift, written⟩
  · rw [spentBy, kept, spentBy]
  · rw [spentBy, written, ← spentBy, withShift, spentBy_withBudget, spentBy_withBudget]

theorem recommend_committed (campaigns : List Campaign) (s : RecommendationStore) (op : RecommendationOp) (campaignId : Uuid) :
    committedTotal ⟨campaigns, (Recommendations.step s op).budgets⟩ campaignId =
      committedTotal ⟨campaigns, s.budgets⟩ campaignId := by
  rcases recommend_budgets s op with kept | ⟨other, shift, written⟩
  · rw [kept]
  · rw [written, committedTotal_eq, committedTotal_eq, withShift, committed_withBudget, committed_withBudget]

end Recommended

section Charged

variable [PyText] [JsonbText] [PyFloat] [DecimalContext] {l l' : SpendLedger}

omit [JsonbText] [PyFloat] [DecimalContext] in
theorem ingest_ok {tenantId campaignId : Uuid} {records : List ChannelSpend} {latest : Option SpendReconciliation}
    (done : l.ingestPlatformSpend tenantId campaignId records latest = .ok l') :
    (∃ campaign, invoicedCampaign l.data tenantId campaignId = some campaign ∧ isSpendReadOnly campaign latest = false) ∧
      ∃ shifts, records.foldlM (charge l.channels campaignId) l.shifts = .ok shifts ∧ l' = { l with shifts } := by
  simp only [ingestPlatformSpend, bind_eq_ok, orRaise_eq_ok, require_eq_ok, pure_eq_ok] at done
  obtain ⟨campaign, stored, _, writable, shifts, charged, rfl⟩ := done
  exact ⟨⟨campaign, stored, writable⟩, shifts, charged, rfl⟩

/-- A step either is an ingest that goes through or leaves what is spent alone. -/
theorem step_spent (l : SpendLedger) (op : Op) (k : Uuid × Uuid) :
    spentBy (l.step op).shifts k = lastCharge (l.charges op) k (spentBy l.shifts k) := by
  cases op with
  | ingest tenantId campaignId records latest =>
    cases done : l.ingestPlatformSpend tenantId campaignId records latest with
    | error error =>
      have result : l.step (.ingest tenantId campaignId records latest) = l := by simp only [step, outcome, done]
      have refused : ¬ (l.ingestPlatformSpend tenantId campaignId records latest).isOk = true := by
        rw [done]
        exact Bool.false_ne_true
      rw [result, charges, if_neg refused]
      rfl
    | ok l' =>
      have result : l.step (.ingest tenantId campaignId records latest) = l' := by simp only [step, outcome, done]
      obtain ⟨_, shifts, charged, rfl⟩ := ingest_ok done
      rw [result, charges, if_pos (isOk_iff.mpr ⟨_, done⟩)]
      exact spentBy_records charged k
  | recommend op => exact recommend_spent l.shifts op k
  | reconcile | explain | dispute | tables => rfl

theorem run_spent (l : SpendLedger) (ops : List Op) (k : Uuid × Uuid) :
    spentBy (Lib.run step l ops).shifts k = lastCharge (l.accepted ops) k (spentBy l.shifts k) := by
  induction ops generalizing l with
  | nil => rfl
  | cons op ops ih => rw [run_cons, ih, step_spent, accepted, lastCharge_append]

omit [JsonbText] [PyFloat] [DecimalContext] in
/-- A lock refuses every ingest of the campaign. -/
theorem Locked.refuses {campaignId : Uuid} (locked : l.Locked campaignId) {op : Op} (answered : l.Answered op) :
    ∀ entry ∈ l.charges op, entry.1.1 ≠ campaignId := by
  cases op with
  | ingest tenantId other records latest =>
    rw [charges]
    split
    · rename_i went
      obtain ⟨l', done⟩ := isOk_iff.mp went
      obtain ⟨⟨campaign, stored, writable⟩, _⟩ := ingest_ok done
      rintro entry member rfl
      obtain ⟨record, _, rfl⟩ := List.mem_map.mp member
      obtain ⟨found, _⟩ := Option.filter_eq_some_iff.mp stored
      obtain ⟨completed, known, status⟩ := locked.completed
      cases Option.some.inj (found.symm.trans known)
      cases latest with
      | none =>
        obtain ⟨row, there, owner⟩ := locked.reconciled
        exact answered row there owner
      | some row =>
        obtain ⟨there, owner, last⟩ := answered
        simp [isSpendReadOnly, status, locked.matched row there owner last] at writable
    · simp
  | reconcile | explain | dispute | recommend | tables => simp [charges]

/-- As long as a campaign stays locked nothing is charged to it. -/
theorem locked_accepted {campaignId : Uuid} {ops : List Op} (answered : Along step (fun l op => l.Answered op) l ops)
    (locked : Along step (fun l _ => l.Locked campaignId) l ops) : ∀ entry ∈ l.accepted ops, entry.1.1 ≠ campaignId := by
  induction ops generalizing l with
  | nil => simp [accepted]
  | cons op ops ih =>
    intro entry member
    rcases List.mem_append.mp member with here | later
    · exact locked.1.refuses answered.1 entry here
    · exact ih answered.2 locked.2 entry later

end Charged

section Reconciled

variable [DecimalContext] {spend : SpendData} {tenantId : Uuid} {periodStart periodEnd : Int} {invoices : Dict Uuid Decimal}
  {s s' : ReconciliationStore}

/-- A row that a reconciliation has written. -/
def Written (spend : SpendData) (tenantId : Uuid) (periodStart periodEnd : Int) (invoices : Dict Uuid Decimal)
    (row : SpendReconciliation) : Prop :=
  ∃ invoice ∈ invoices, key row = ⟨tenantId, invoice.1, periodStart, periodEnd⟩ ∧
    row.committedAmount = numericColumn 2 (committedTotal spend invoice.1) ∧
    row.status = (figuresOf spend invoice.1 invoice.2).status

omit [DecimalContext] in
theorem upsertReconciliation_keeps (k : PeriodKey) (f : Figures) {row : SpendReconciliation} (member : row ∈ s.rows) :
    ∃ row' ∈ (upsertReconciliation k f s).rows, key row' = key row := by
  by_cases hit : key row = k
  · exact ⟨refresh f row, mem_upsertWhere.mpr (Or.inl ⟨row, member, decide_eq_true hit, rfl⟩), rfl⟩
  · exact ⟨row, mem_upsertWhere.mpr (Or.inr (Or.inl ⟨member, decide_eq_false hit⟩)), rfl⟩

omit [DecimalContext] in
theorem upsertReconciliation_enters (k : PeriodKey) (f : Figures) (s : ReconciliationStore) :
    ∃ row ∈ (upsertReconciliation k f s).rows, key row = k := by
  by_cases stored : ∃ row ∈ s.rows, key row = k
  · obtain ⟨row, member, same⟩ := stored
    obtain ⟨row', there, equal⟩ := upsertReconciliation_keeps k f member
    exact ⟨row', there, equal.trans same⟩
  · refine ⟨freshRow s.nextId k f, mem_upsertWhere.mpr (Or.inr (Or.inr ⟨rfl, fun old member => ?_⟩)), rfl⟩
    exact decide_eq_false fun same => stored ⟨old, member, same⟩

/-- The rows after a reconciliation are old ones and written ones, and every key stays. -/
theorem runReconciliation_rows (done : runReconciliation spend tenantId periodStart periodEnd invoices s = .ok s') :
    (∀ row ∈ s'.rows, row ∈ s.rows ∨ Written spend tenantId periodStart periodEnd invoices row) ∧
      ∀ row ∈ s.rows, ∃ row' ∈ s'.rows, key row' = key row := by
  refine foldlM_invariant (I := fun mid : ReconciliationStore =>
    (∀ row ∈ mid.rows, row ∈ s.rows ∨ Written spend tenantId periodStart periodEnd invoices row) ∧
      ∀ row ∈ s.rows, ∃ row' ∈ mid.rows, key row' = key row) done ⟨fun _ => Or.inl, fun row member => ⟨row, member, rfl⟩⟩ ?_
  intro invoice listed mid next held here
  rcases reconcile_ok here with ⟨_, rfl⟩ | ⟨_, _, rfl⟩
  · exact held
  · constructor
    · intro row member
      rcases mem_upsertReconciliation member with ⟨old, _, same, rfl⟩ | ⟨old, _⟩ | rfl
      · exact Or.inr ⟨invoice, listed, same, rfl, rfl⟩
      · exact held.1 row old
      · exact Or.inr ⟨invoice, listed, rfl, rfl, rfl⟩
    · intro row member
      obtain ⟨mid', there, same⟩ := held.2 row member
      obtain ⟨row', inside, same'⟩ := upsertReconciliation_keeps _ _ there
      exact ⟨row', inside, same'.trans same⟩

/-- The rows of an invoiced campaign and the period carry what is spent, and there is one. -/
def Covered (spend : SpendData) (k : PeriodKey) (s : ReconciliationStore) : Prop :=
  (∀ row ∈ s.rows, key row = k → row.committedAmount = numericColumn 2 (committedTotal spend k.campaignId)) ∧
    ∃ row ∈ s.rows, key row = k

theorem upsert_covered (k : PeriodKey) (invoiced : Decimal) (s : ReconciliationStore) :
    Covered spend k (upsertReconciliation k (figuresOf spend k.campaignId invoiced) s) := by
  refine ⟨fun row member same => ?_, upsertReconciliation_enters _ _ s⟩
  rcases mem_upsertReconciliation member with ⟨_, _, _, rfl⟩ | ⟨_, different⟩ | rfl
  · rfl
  · exact absurd same different
  · rfl

theorem reconcile_covered {k : PeriodKey} {invoice : Uuid × Decimal} (covered : Covered spend k s)
    (done : reconcile spend tenantId periodStart periodEnd s invoice = .ok s') : Covered spend k s' := by
  rcases reconcile_ok done with ⟨_, rfl⟩ | ⟨_, _, rfl⟩
  · exact covered
  · by_cases again : (⟨tenantId, invoice.1, periodStart, periodEnd⟩ : PeriodKey) = k
    · subst again
      exact upsert_covered _ invoice.2 s
    · constructor
      · intro row member same
        rcases mem_upsertReconciliation member with ⟨old, _, hit, rfl⟩ | ⟨old, _⟩ | rfl
        · exact absurd (hit.symm.trans same) again
        · exact covered.1 row old same
        · exact absurd same again
      · obtain ⟨row, member, same⟩ := covered.2
        obtain ⟨row', there, equal⟩ := upsertReconciliation_keeps _ _ member
        exact ⟨row', there, equal.trans same⟩

theorem runReconciliation_covered {invoice : Uuid × Decimal} (listed : invoice ∈ invoices)
    (stored : (invoicedCampaign spend tenantId invoice.1).isSome = true)
    (done : runReconciliation spend tenantId periodStart periodEnd invoices s = .ok s') :
    Covered spend ⟨tenantId, invoice.1, periodStart, periodEnd⟩ s' := by
  obtain ⟨_, _, mid, next, _, _, here, after⟩ := foldlM_ok_at done listed
  have covered : Covered spend ⟨tenantId, invoice.1, periodStart, periodEnd⟩ next := by
    rcases reconcile_ok here with ⟨absent, _⟩ | ⟨_, _, rfl⟩
    · rw [Option.isNone_iff_eq_none] at absent
      simp [absent] at stored
    · exact upsert_covered _ invoice.2 mid
  exact foldlM_invariant after covered fun _ _ _ _ held => reconcile_covered held

end Reconciled

section Locks

variable [PyText] [JsonbText] [PyFloat] [DecimalContext] {l : SpendLedger} {campaignId : Uuid}

omit [PyText] [JsonbText] [PyFloat] in
/-- A reconciliation of the ledger, whether it goes through or not. -/
theorem reconciled_rows (l : SpendLedger) (tenantId : Uuid) (periodStart periodEnd : Int) (invoices : Dict Uuid Decimal) :
    (∀ row ∈ (Reconciliation.step l.reconciliations (.run l.data tenantId periodStart periodEnd invoices)).rows,
      row ∈ l.reconciliations.rows ∨ Written l.data tenantId periodStart periodEnd invoices row) ∧
      ∀ row ∈ l.reconciliations.rows,
        ∃ row' ∈ (Reconciliation.step l.reconciliations (.run l.data tenantId periodStart periodEnd invoices)).rows,
          key row' = key row := by
  cases done : runReconciliation l.data tenantId periodStart periodEnd invoices l.reconciliations with
  | error error =>
    simp only [Reconciliation.step, Reconciliation.outcome, done]
    exact ⟨fun _ => Or.inl, fun row member => ⟨row, member, rfl⟩⟩
  | ok s' =>
    simp only [Reconciliation.step, Reconciliation.outcome, done]
    exact runReconciliation_rows done

omit [PyText] [JsonbText] [PyFloat] [DecimalContext] in
/-- A row that ends last ends last among fewer rows. -/
theorem IsLatest.mono {l' : SpendLedger} {row : SpendReconciliation} (latest : l'.IsLatest row)
    (keeps : ∀ old ∈ l.reconciliations.rows, ∃ new ∈ l'.reconciliations.rows, key new = key old) : l.IsLatest row := by
  intro old member same
  obtain ⟨new, there, equal⟩ := keeps old member
  have campaign : new.campaignId = old.campaignId := congrArg PeriodKey.campaignId equal
  have ends : new.periodEnd = old.periodEnd := congrArg PeriodKey.periodEnd equal
  exact ends ▸ latest new there (campaign.trans same)

omit [PyText] [JsonbText] [PyFloat] [DecimalContext] in
/-- The rows after a mark: the marked ones and the others, under the keys they had. -/
theorem resolved_rows (s : ReconciliationStore) (status : ReconciliationStatus) (reconciliationId userId : Uuid)
    (note : Option String) (now : Int) {s' : ReconciliationStore}
    (done : resolve status reconciliationId userId note now s = .ok s') :
    (∀ row ∈ s'.rows, row ∈ s.rows ∨
      ∃ old ∈ s.rows, old.id = reconciliationId ∧ row = resolved status userId note now old) ∧
      ∀ row ∈ s.rows, ∃ row' ∈ s'.rows, key row' = key row := by
  unfold resolve at done
  split at done
  · cases done
    constructor
    · intro row member
      rcases mem_updateWhere.mp member with ⟨old, there, hit, rfl⟩ | ⟨there, _⟩
      · exact Or.inr ⟨old, there, of_decide_eq_true hit, rfl⟩
      · exact Or.inl there
    · intro row member
      by_cases hit : row.id = reconciliationId
      · exact ⟨_, mem_updateWhere.mpr (Or.inl ⟨row, member, decide_eq_true hit, rfl⟩), rfl⟩
      · exact ⟨row, mem_updateWhere.mpr (Or.inr ⟨member, decide_eq_false hit⟩), rfl⟩
  · cases done

omit [PyText] [JsonbText] [PyFloat] [DecimalContext] in
/-- A lock stays where the rows keep their keys and those that end last are old or matched. -/
theorem Locked.rows {l' : SpendLedger} (locked : l.Locked campaignId) (campaigns : l'.campaigns = l.campaigns)
    (keeps : ∀ old ∈ l.reconciliations.rows, ∃ new ∈ l'.reconciliations.rows, key new = key old)
    (matched : ∀ row ∈ l'.reconciliations.rows, row.campaignId = campaignId → l'.IsLatest row →
      row ∈ l.reconciliations.rows ∨ row.status = .matched) : l'.Locked campaignId where
  completed := campaigns ▸ locked.completed
  reconciled := by
    obtain ⟨row, member, owner⟩ := locked.reconciled
    obtain ⟨row', there, same⟩ := keeps row member
    exact ⟨row', there, (congrArg PeriodKey.campaignId same).trans owner⟩
  matched row member owner latest := by
    rcases matched row member owner latest with old | status
    · exact locked.matched row old owner (latest.mono keeps)
    · exact status

omit [PyText] [JsonbText] [PyFloat] in
theorem figuresOf_status (spend : SpendData) (campaignId : Uuid) (invoiced : Decimal) :
    (figuresOf spend campaignId invoiced).status = .matched ∨ (figuresOf spend campaignId invoiced).status = .pending := by
  simp only [figuresOf]
  split
  · exact Or.inl rfl
  · exact Or.inr rfl

omit [PyText] [JsonbText] [PyFloat] [DecimalContext] in
theorem Locked.mark {status : ReconciliationStatus} {reconciliationId userId : Uuid} {note : Option String} {now : Int}
    {s' : ReconciliationStore} (locked : l.Locked campaignId)
    (done : resolve status reconciliationId userId note now l.reconciliations = .ok s')
    (stays : ¬ ∃ row ∈ l.reconciliations.rows, row.id = reconciliationId ∧ row.campaignId = campaignId ∧ l.IsLatest row) :
    ({ l with reconciliations := s' } : SpendLedger).Locked campaignId := by
  obtain ⟨origin, keeps⟩ := resolved_rows _ _ _ _ _ _ done
  refine locked.rows rfl keeps fun row member owner latest => ?_
  rcases origin row member with old | ⟨old, there, named, rfl⟩
  · exact Or.inl old
  · exact absurd ⟨old, there, named, owner, latest.mono keeps⟩ stays

/-- Nothing but what may lift a lock does. -/
theorem Locked.step (locked : l.Locked campaignId) {op : Op} (stays : ¬ l.Lifts campaignId op) :
    (l.step op).Locked campaignId := by
  cases op with
  | ingest tenantId other records latest =>
    cases done : l.ingestPlatformSpend tenantId other records latest with
    | error error =>
      simp only [SpendLedger.step, outcome, done]
      exact locked
    | ok l' =>
      obtain ⟨_, shifts, _, rfl⟩ := ingest_ok done
      simp only [SpendLedger.step, outcome, done]
      exact locked.rows rfl (fun row member => ⟨row, member, rfl⟩) fun _ member _ _ => Or.inl member
  | recommend op => exact locked.rows rfl (fun row member => ⟨row, member, rfl⟩) fun _ member _ _ => Or.inl member
  | tables campaigns channels => exact ⟨not_not.mp stays, locked.reconciled, locked.matched⟩
  | reconcile tenantId periodStart periodEnd invoices =>
    obtain ⟨origin, keeps⟩ := reconciled_rows l tenantId periodStart periodEnd invoices
    refine locked.rows rfl keeps fun row member owner latest => ?_
    rcases origin row member with old | ⟨invoice, listed, same, _, status⟩
    · exact Or.inl old
    · have campaign : invoice.1 = campaignId := (congrArg PeriodKey.campaignId same).symm.trans owner
      have ends : row.periodEnd = periodEnd := congrArg PeriodKey.periodEnd same
      subst campaign
      rcases figuresOf_status l.data invoice.1 invoice.2 with matched | pending
      · exact Or.inr (status.trans matched)
      · refine absurd ⟨⟨invoice.2, listed, pending⟩, fun old there own => ?_⟩ stays
        obtain ⟨new, inside, equal⟩ := keeps old there
        have last := latest new inside ((congrArg PeriodKey.campaignId equal).trans (own.trans owner.symm))
        exact ((congrArg PeriodKey.periodEnd equal).symm.le.trans last).trans ends.le
  | explain reconciliationId userId note now =>
    cases done : resolve .explained reconciliationId userId (some note) now l.reconciliations with
    | error error =>
      simp only [SpendLedger.step, outcome, Reconciliation.step, Reconciliation.outcome, markExplained, done]
      exact locked
    | ok s' =>
      simp only [SpendLedger.step, outcome, Reconciliation.step, Reconciliation.outcome, markExplained, done]
      exact locked.mark done stays
  | dispute reconciliationId userId note now =>
    cases done : resolve .disputed reconciliationId userId note now l.reconciliations with
    | error error =>
      simp only [SpendLedger.step, outcome, Reconciliation.step, Reconciliation.outcome, markDisputed, done]
      exact locked
    | ok s' =>
      simp only [SpendLedger.step, outcome, Reconciliation.step, Reconciliation.outcome, markDisputed, done]
      exact locked.mark done stays

omit [PyText] [JsonbText] [PyFloat] in
/-- The amounts keep agreeing where nothing is charged and the rows that end last are old or carry what is spent. -/
theorem Agrees.rows {l' : SpendLedger} (agrees : l.Agrees campaignId)
    (spent : committedTotal l'.data campaignId = committedTotal l.data campaignId)
    (keeps : ∀ old ∈ l.reconciliations.rows, ∃ new ∈ l'.reconciliations.rows, key new = key old)
    (amounts : ∀ row ∈ l'.reconciliations.rows, row.campaignId = campaignId → l'.IsLatest row →
      row ∈ l.reconciliations.rows ∨ row.committedAmount = numericColumn 2 (committedTotal l.data campaignId)) :
    l'.Agrees campaignId := by
  intro row member owner latest
  rw [spent]
  rcases amounts row member owner latest with old | amount
  · exact agrees row old owner (latest.mono keeps)
  · exact amount

omit [PyText] [JsonbText] [PyFloat] in
theorem Agrees.mark {status : ReconciliationStatus} {reconciliationId userId : Uuid} {note : Option String} {now : Int}
    {s' : ReconciliationStore} (agrees : l.Agrees campaignId)
    (done : resolve status reconciliationId userId note now l.reconciliations = .ok s') :
    ({ l with reconciliations := s' } : SpendLedger).Agrees campaignId := by
  obtain ⟨origin, keeps⟩ := resolved_rows _ _ _ _ _ _ done
  refine agrees.rows rfl keeps fun row member owner latest => ?_
  rcases origin row member with old | ⟨old, there, _, rfl⟩
  · exact Or.inl old
  · exact Or.inr (agrees old there owner (latest.mono keeps))

omit [PyText] [JsonbText] [PyFloat] [DecimalContext] in
theorem committed_records {channels : List ChannelRow} {other : Uuid} {s s' : RecommendationStore} {records : List ChannelSpend}
    (apart : ∀ record ∈ records, other ≠ campaignId) (done : records.foldlM (charge channels other) s = .ok s') :
    (s'.budgets.map (spentShare campaignId)).sum = (s.budgets.map (spentShare campaignId)).sum := by
  refine foldlM_invariant (I := fun mid : RecommendationStore =>
    (mid.budgets.map (spentShare campaignId)).sum = (s.budgets.map (spentShare campaignId)).sum) done rfl ?_
  intro record member mid next held here
  rw [charge_ok here, committed_withSpent (apart record member), held]

/-- Only a charge of the campaign takes the amounts apart. -/
theorem Agrees.step (agrees : l.Agrees campaignId) {op : Op} (spared : ∀ entry ∈ l.charges op, entry.1.1 ≠ campaignId) :
    (l.step op).Agrees campaignId := by
  cases op with
  | ingest tenantId other records latest =>
    cases done : l.ingestPlatformSpend tenantId other records latest with
    | error error =>
      simp only [SpendLedger.step, outcome, done]
      exact agrees
    | ok l' =>
      rw [charges, if_pos (isOk_iff.mpr ⟨l', done⟩)] at spared
      obtain ⟨_, shifts, charged, rfl⟩ := ingest_ok done
      simp only [SpendLedger.step, outcome, done]
      refine agrees.rows ?_ (fun row member => ⟨row, member, rfl⟩) fun _ member _ _ => Or.inl member
      have apart : ∀ record ∈ records, other ≠ campaignId := fun record member =>
        spared ((other, record.channelId), record.amount) (List.mem_map_of_mem member)
      rw [data, data, committedTotal_eq, committedTotal_eq]
      exact committed_records apart charged
  | recommend op =>
    exact agrees.rows (recommend_committed l.campaigns l.shifts op campaignId) (fun row member => ⟨row, member, rfl⟩)
      fun _ member _ _ => Or.inl member
  | tables campaigns channels => exact agrees
  | reconcile tenantId periodStart periodEnd invoices =>
    obtain ⟨origin, keeps⟩ := reconciled_rows l tenantId periodStart periodEnd invoices
    refine agrees.rows rfl keeps fun row member owner latest => ?_
    rcases origin row member with old | ⟨invoice, _, same, amount, _⟩
    · exact Or.inl old
    · have campaign : invoice.1 = campaignId := (congrArg PeriodKey.campaignId same).symm.trans owner
      exact Or.inr (campaign ▸ amount)
  | explain reconciliationId userId note now =>
    cases done : resolve .explained reconciliationId userId (some note) now l.reconciliations with
    | error error =>
      simp only [SpendLedger.step, outcome, Reconciliation.step, Reconciliation.outcome, markExplained, done]
      exact agrees
    | ok s' =>
      simp only [SpendLedger.step, outcome, Reconciliation.step, Reconciliation.outcome, markExplained, done]
      exact agrees.mark done
  | dispute reconciliationId userId note now =>
    cases done : resolve .disputed reconciliationId userId note now l.reconciliations with
    | error error =>
      simp only [SpendLedger.step, outcome, Reconciliation.step, Reconciliation.outcome, markDisputed, done]
      exact agrees
    | ok s' =>
      simp only [SpendLedger.step, outcome, Reconciliation.step, Reconciliation.outcome, markDisputed, done]
      exact agrees.mark done

theorem Agrees.run {ops : List Op} (agrees : l.Agrees campaignId) (spared : ∀ entry ∈ l.accepted ops, entry.1.1 ≠ campaignId) :
    (Lib.run SpendLedger.step l ops).Agrees campaignId := by
  induction ops generalizing l with
  | nil => exact agrees
  | cons op ops ih =>
    have here := agrees.step fun entry member => spared entry (List.mem_append_left _ member)
    exact ih here fun entry member => spared entry (List.mem_append_right _ member)

/-- A reconciliation of the last period makes the amounts agree. -/
theorem Settles.agrees {op : Op} (settles : l.Settles campaignId op) : (l.step op).Agrees campaignId := by
  cases op with
  | ingest | recommend | tables | explain | dispute => exact settles.elim
  | reconcile tenantId periodStart periodEnd invoices =>
    obtain ⟨through, ⟨amount, listed⟩, stored, last⟩ := settles
    cases done : runReconciliation l.data tenantId periodStart periodEnd invoices l.reconciliations with
    | error error => exact absurd ((runReconciliation_raises periodStart periodEnd l.reconciliations).mp ⟨error, done⟩) through
    | ok s' =>
      obtain ⟨amounts, covering, inside, named⟩ := runReconciliation_covered listed stored done
      obtain ⟨origin, _⟩ := runReconciliation_rows done
      simp only [SpendLedger.step, outcome, Reconciliation.step, Reconciliation.outcome, done]
      intro row member owner latest
      by_cases here : key row = ⟨tenantId, campaignId, periodStart, periodEnd⟩
      · exact amounts row member here
      · -- another row ends before the one of the period
        rcases origin row member with old | ⟨invoice, _, same, _⟩
        · have ends := latest covering inside ((congrArg PeriodKey.campaignId named).trans owner.symm)
          have less := last row old owner here
          have period : covering.periodEnd = periodEnd := congrArg PeriodKey.periodEnd named
          omega
        · have campaign : invoice.1 = campaignId := (congrArg PeriodKey.campaignId same).symm.trans owner
          exact absurd (campaign ▸ same) here

/-- Over any requests and passes, in any order: a channel has spent what the last ingest
that went through says; while a campaign is completed and its last period matched,
nothing changes what it has spent; only another look at its last period, or a campaign
that is reopened, ends that; and from a reconciliation of the last period on the
amounts agree for as long as the campaign is locked. -/
theorem completed_spend_is_locked (l : SpendLedger) (ops : List Op) (answered : Along step (fun l op => l.Answered op) l ops) :
    (∀ k, spentBy (Lib.run step l ops).shifts k = lastCharge (l.accepted ops) k (spentBy l.shifts k)) ∧
      (∀ campaignId, Along step (fun l _ => l.Locked campaignId) l ops → ∀ channelId,
        spentBy (Lib.run step l ops).shifts (campaignId, channelId) = spentBy l.shifts (campaignId, channelId)) ∧
      (∀ campaignId op, (Lib.run step l ops).Locked campaignId → ¬ ((Lib.run step l ops).step op).Locked campaignId →
        (Lib.run step l ops).Lifts campaignId op) ∧
      ∀ campaignId op, (Lib.run step l ops).Settles campaignId op → ∀ after,
        Along step (fun l op => l.Answered op) ((Lib.run step l ops).step op) after →
        Along step (fun l _ => l.Locked campaignId) ((Lib.run step l ops).step op) after →
        (Lib.run step ((Lib.run step l ops).step op) after).Agrees campaignId := by
  refine ⟨run_spent l ops, fun campaignId locked channelId => ?_, fun campaignId op locked open_ => ?_,
    fun campaignId op settles after answered' locked => ?_⟩
  · rw [run_spent]
    refine lastCharge_of_absent (fun entry member same => ?_) _
    exact locked_accepted answered locked entry member (congrArg Prod.fst same)
  · by_contra stays
    exact open_ (locked.step stays)
  · exact settles.agrees.run (locked_accepted answered' locked)

end Locks

namespace Closing

local instance closingText : PyText := PyText.plain

local instance closingJsonb : JsonbText := JsonbText.plain

local instance closingFloats : PyFloat := PyFloat.plain

local instance closingDecimals : DecimalContext := DecimalContext.plain

/-- A campaign with one channel that has spent 200. -/
def ledger (status : CampaignStatus) : SpendLedger where
  campaigns := [{ Invoices.launch with status := status }]
  channels := [{ id := 7, tenantId := 1, platform := .googleAds, name := "Search" }]
  shifts := { budgets := [{ campaignId := 5, channelId := 7, allocated := 500, spent := 200 }], keys := by decide }

/-- The row of March after an invoice of 201. -/
def march : SpendReconciliation where
  id := 0
  tenantId := 1
  campaignId := 5
  periodStart := 20513
  periodEnd := 20543
  committedAmount := 200
  invoicedAmount := 201
  deltaPct := 1 / 2
  status := .matched

def late : Op := .ingest 1 5 [⟨7, 300⟩] (some march)

def closeMarch : Op := .reconcile 1 20513 20543 [(5, 201)]

/-- March is settled, and a late figure is turned away: what is spent stays, and agrees with the row. -/
theorem completed_spend_is_locked_march :
    spentBy (Lib.run step (ledger .completed) [closeMarch, late]).shifts (5, 7) = 200 ∧
      spentBy (Lib.run step ((ledger .completed).step closeMarch) [late]).shifts (5, 7) =
        spentBy ((ledger .completed).step closeMarch).shifts (5, 7) ∧
      (Lib.run step ((ledger .completed).step closeMarch) [late]).Agrees 5 := by
  have answered : Along step (fun l op => l.Answered op) (ledger .completed) [closeMarch, late] := by decide +kernel
  have locked : Along step (fun l _ => l.Locked 5) ((ledger .completed).step closeMarch) [late] :=
    ⟨⟨⟨{ Invoices.launch with status := .completed }, by decide +kernel, rfl⟩, ⟨march, by decide +kernel, rfl⟩,
      by decide +kernel⟩, trivial⟩
  have fitting : ¬ Refused (ledger .completed).data 1 [(5, 201)] := by
    unfold Refused
    decide +kernel
  have settles : (ledger .completed).Settles 5 closeMarch :=
    ⟨fitting, ⟨201, by decide⟩, by decide +kernel, by decide⟩
  refine ⟨((completed_spend_is_locked _ _ answered).1 (5, 7)).trans (by decide +kernel),
    (completed_spend_is_locked _ _ answered.2).2.1 5 locked 7,
    (completed_spend_is_locked (ledger .completed) [] trivial).2.2.2 5 closeMarch settles [late] answered.2 locked⟩

/-- A figure that comes before the campaign is completed leaves it locked on an amount that no reconciliation has seen. -/
example :
    ¬ (Lib.run step (ledger .live) [closeMarch, late, .tables (ledger .completed).campaigns []]).Agrees 5 ∧
      (Lib.run step (ledger .live) [closeMarch, late, .tables (ledger .completed).campaigns []]).Locked 5 :=
  ⟨by decide +kernel, ⟨{ Invoices.launch with status := .completed }, by decide +kernel, rfl⟩,
    ⟨march, by decide +kernel, rfl⟩, by decide +kernel⟩

end Closing

end SpendLedger

end MarketingAgents
