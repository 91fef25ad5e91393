import MarketingAgents.Db.Decimal
import MarketingAgents.Lib.Result
import MarketingAgents.Lib.Rows
import MarketingAgents.Lib.Run

namespace MarketingAgents

open Lib

inductive ReconciliationStatus where
  | pending | matched | explained | disputed
deriving DecidableEq, Repr

/-- A row of `spend_reconciliation`. -/
structure SpendReconciliation where
  id : Uuid
  tenantId : Uuid
  campaignId : Uuid
  periodStart : Int
  periodEnd : Int
  committedAmount : Decimal
  invoicedAmount : Decimal
  deltaPct : Decimal
  status : ReconciliationStatus
  note : Option String := none
  resolvedAt : Option Int := none
  resolvedBy : Option Uuid := none
deriving DecidableEq

/-- `LookupError`, and an amount that its `Numeric` column has no room for. -/
inductive ReconciliationError where
  | notFound (reconciliationId : Uuid)
  | numericOverflow
deriving DecidableEq

/-- What a reconciliation reads: the campaigns and the spend of their channels. -/
structure SpendData where
  campaigns : List Campaign := []
  budgets : List ChannelBudgetRow := []

structure ReconciliationStore where
  rows : List SpendReconciliation := []
  nextId : Uuid := 0

namespace Reconciliation

section Run

variable [DecimalContext]

/-- `_committed_total`. -/
def committedTotal (data : SpendData) (campaignId : Uuid) : Decimal :=
  ((data.budgets.filter (·.campaignId = campaignId)).map ChannelBudgetRow.spent).sum

/-- `_delta_pct`. -/
def deltaPct (committed invoiced : Decimal) : Decimal :=
  if committed = 0 then if invoiced ≠ 0 then 100 else 0
  else quantize 4 (DecimalContext.round (DecimalContext.round (DecimalContext.round (invoiced - committed) / committed) * 100))

/-- The figures of one campaign and period. -/
structure Figures where
  committed : Decimal
  invoiced : Decimal
  deltaPct : Decimal
  status : ReconciliationStatus

def figuresOf (data : SpendData) (campaignId : Uuid) (invoiced : Decimal) : Figures :=
  let committed := committedTotal data campaignId
  let delta := deltaPct committed invoiced
  ⟨committed, invoiced, delta, if |delta| ≤ 1 then .matched else .pending⟩

/-- The columns are `Numeric(14, 2)`, and `Numeric(8, 4)` for the percentage. -/
def Figures.Fits (f : Figures) : Prop :=
  |numericColumn 2 f.committed| < 10 ^ 12 ∧ |numericColumn 2 f.invoiced| < 10 ^ 12 ∧ |f.deltaPct| < 10 ^ 4

instance decidableFiguresFit (f : Figures) : Decidable f.Fits := inferInstanceAs (Decidable (_ ∧ _))

/-- The columns of `uq_spend_reconciliation_period`. -/
structure PeriodKey where
  tenantId : Uuid
  campaignId : Uuid
  periodStart : Int
  periodEnd : Int
deriving DecidableEq

def key (row : SpendReconciliation) : PeriodKey :=
  ⟨row.tenantId, row.campaignId, row.periodStart, row.periodEnd⟩

/-- `set_` of the upsert: the figures and the status, nothing else. -/
def refresh (f : Figures) (row : SpendReconciliation) : SpendReconciliation :=
  { row with
    committedAmount := numericColumn 2 f.committed
    invoicedAmount := numericColumn 2 f.invoiced
    deltaPct := f.deltaPct
    status := f.status }

def freshRow (id : Uuid) (k : PeriodKey) (f : Figures) : SpendReconciliation where
  id := id
  tenantId := k.tenantId
  campaignId := k.campaignId
  periodStart := k.periodStart
  periodEnd := k.periodEnd
  committedAmount := numericColumn 2 f.committed
  invoicedAmount := numericColumn 2 f.invoiced
  deltaPct := f.deltaPct
  status := f.status

/-- `_upsert_reconciliation`. -/
def upsertReconciliation (k : PeriodKey) (f : Figures) (s : ReconciliationStore) : ReconciliationStore where
  rows := upsertWhere (key · = k) (refresh f) (freshRow s.nextId k f) s.rows
  nextId := s.nextId + 1

/-- The campaign of an invoice, when the tenant has it. -/
def invoicedCampaign (data : SpendData) (tenantId campaignId : Uuid) : Option Campaign :=
  (data.campaigns.find? (·.id = campaignId)).filter (·.tenantId = tenantId)

/-- The body of the loop over the invoices. -/
def reconcile (data : SpendData) (tenantId : Uuid) (periodStart periodEnd : Int) (s : ReconciliationStore)
    (invoice : Uuid × Decimal) : Except ReconciliationError ReconciliationStore :=
  if (invoicedCampaign data tenantId invoice.1).isNone then .ok s
  else if (figuresOf data invoice.1 invoice.2).Fits then
    .ok (upsertReconciliation ⟨tenantId, invoice.1, periodStart, periodEnd⟩ (figuresOf data invoice.1 invoice.2) s)
  else .error .numericOverflow

/-- `run_reconciliation`. -/
def runReconciliation (data : SpendData) (tenantId : Uuid) (periodStart periodEnd : Int)
    (invoices : Dict Uuid Decimal) (s : ReconciliationStore) : Except ReconciliationError ReconciliationStore :=
  invoices.foldlM (reconcile data tenantId periodStart periodEnd) s

/-- The assignments that `mark_explained` and `mark_disputed` share. -/
def resolved (status : ReconciliationStatus) (userId : Uuid) (note : Option String) (now : Int)
    (row : SpendReconciliation) : SpendReconciliation :=
  { row with status := status, note := note, resolvedAt := some now, resolvedBy := some userId }

def resolve (status : ReconciliationStatus) (reconciliationId userId : Uuid) (note : Option String) (now : Int)
    (s : ReconciliationStore) : Except ReconciliationError ReconciliationStore :=
  if ∃ row ∈ s.rows, row.id = reconciliationId then
    .ok { s with rows := updateWhere (·.id = reconciliationId) (resolved status userId note now) s.rows }
  else .error (.notFound reconciliationId)

def markExplained (reconciliationId userId : Uuid) (note : String) (now : Int) (s : ReconciliationStore) :
    Except ReconciliationError ReconciliationStore :=
  resolve .explained reconciliationId userId (some note) now s

def markDisputed (reconciliationId userId : Uuid) (note : Option String) (now : Int) (s : ReconciliationStore) :
    Except ReconciliationError ReconciliationStore :=
  resolve .disputed reconciliationId userId note now s

end Run

/-- A request; a reconciliation finds whatever campaigns and spend are stored then. -/
inductive ReconciliationOp where
  | run (data : SpendData) (tenantId : Uuid) (periodStart periodEnd : Int) (invoices : Dict Uuid Decimal)
  | explain (reconciliationId userId : Uuid) (note : String) (now : Int)
  | dispute (reconciliationId userId : Uuid) (note : Option String) (now : Int)

section Steps

variable [DecimalContext]

def outcome (s : ReconciliationStore) : ReconciliationOp → Except ReconciliationError ReconciliationStore
  | .run data tenantId periodStart periodEnd invoices =>
    runReconciliation data tenantId periodStart periodEnd invoices s
  | .explain reconciliationId userId note now => markExplained reconciliationId userId note now s
  | .dispute reconciliationId userId note now => markDisputed reconciliationId userId note now s

/-- A request that raises is rolled back. -/
def step (s : ReconciliationStore) (op : ReconciliationOp) : ReconciliationStore :=
  match outcome s op with
  | .ok s' => s'
  | .error _ => s

end Steps

def Resolved (row : SpendReconciliation) : Prop := row.status = .explained ∨ row.status = .disputed

instance decidableResolved (row : SpendReconciliation) : Decidable (Resolved row) := inferInstanceAs (Decidable (_ ∨ _))

/-- The row names who resolved it, and when, exactly if it is resolved. -/
def Consistent (s : ReconciliationStore) : Prop :=
  ∀ row ∈ s.rows, (row.resolvedAt.isSome ∧ row.resolvedBy.isSome) ↔ Resolved row

instance decidableConsistent (s : ReconciliationStore) : Decidable (Consistent s) :=
  inferInstanceAs (Decidable (∀ row ∈ s.rows, _))

/-- The rows of one key are all open. -/
def Open (k : PeriodKey) (s : ReconciliationStore) : Prop := ∀ row ∈ s.rows, key row = k → ¬ Resolved row

/-- What becomes of a row of one key, as far as its resolution goes. -/
theorem mem_upsertReconciliation {k : PeriodKey} {f : Figures} {s : ReconciliationStore} {row : SpendReconciliation}
    (member : row ∈ (upsertReconciliation k f s).rows) :
    (∃ old ∈ s.rows, key old = k ∧ row = refresh f old) ∨ (row ∈ s.rows ∧ key row ≠ k) ∨
      row = freshRow s.nextId k f := by
  rcases mem_upsertWhere.mp member with ⟨old, there, hit, equal⟩ | ⟨old, miss⟩ | ⟨entered, _⟩
  · exact Or.inl ⟨old, there, of_decide_eq_true hit, equal.symm⟩
  · exact Or.inr (Or.inl ⟨old, of_decide_eq_false miss⟩)
  · exact Or.inr (Or.inr entered)

theorem upsert_open_self (k : PeriodKey) {f : Figures} (s : ReconciliationStore)
    (unresolved : f.status ≠ .explained ∧ f.status ≠ .disputed) : Open k (upsertReconciliation k f s) := by
  intro row member same
  rcases mem_upsertReconciliation member with ⟨old, _, _, rfl⟩ | ⟨_, different⟩ | rfl
  · exact not_or.mpr unresolved
  · exact absurd same different
  · exact not_or.mpr unresolved

theorem upsert_open {k other : PeriodKey} {f : Figures} {s : ReconciliationStore} (isOpen : Open k s)
    (unresolved : f.status ≠ .explained ∧ f.status ≠ .disputed) : Open k (upsertReconciliation other f s) := by
  intro row member same
  rcases mem_upsertReconciliation member with ⟨old, _, _, rfl⟩ | ⟨there, _⟩ | rfl
  · exact not_or.mpr unresolved
  · exact isOpen row there same
  · exact not_or.mpr unresolved

theorem upsert_consistent {k : PeriodKey} {f : Figures} {s : ReconciliationStore} (consistent : Consistent s)
    (isOpen : Open k s) (unresolved : f.status ≠ .explained ∧ f.status ≠ .disputed) :
    Consistent (upsertReconciliation k f s) := by
  intro row member
  rcases mem_upsertReconciliation member with ⟨old, there, same, rfl⟩ | ⟨there, _⟩ | rfl
  · have unmarked : ¬ (old.resolvedAt.isSome ∧ old.resolvedBy.isSome) :=
      fun marked => isOpen old there same ((consistent old there).mp marked)
    exact iff_of_false unmarked (not_or.mpr unresolved)
  · exact consistent row there
  · exact iff_of_false (by simp [freshRow]) (not_or.mpr unresolved)

/-- A mark of resolution stays on the rows of its key. -/
def Marked (k : PeriodKey) (s : ReconciliationStore) : Prop :=
  ∃ row ∈ s.rows, key row = k ∧ row.resolvedAt.isSome ∧ row.resolvedBy.isSome

theorem upsert_marked {k other : PeriodKey} {f : Figures} {s : ReconciliationStore} (marked : Marked k s) :
    Marked k (upsertReconciliation other f s) := by
  obtain ⟨row, there, same, at', by'⟩ := marked
  by_cases hit : key row = other
  · refine ⟨refresh f row, mem_upsertWhere.mpr (Or.inl ⟨row, there, decide_eq_true hit, rfl⟩), ?_, at', by'⟩
    exact same
  · exact ⟨row, mem_upsertWhere.mpr (Or.inr (Or.inl ⟨there, decide_eq_false hit⟩)), same, at', by'⟩

theorem resolve_consistent {status : ReconciliationStatus} (closes : status = .explained ∨ status = .disputed)
    {reconciliationId userId : Uuid} {note : Option String} {now : Int} {s s' : ReconciliationStore}
    (consistent : Consistent s) (done : resolve status reconciliationId userId note now s = .ok s') : Consistent s' := by
  unfold resolve at done
  split at done
  · cases done
    intro row member
    rcases mem_updateWhere.mp member with ⟨old, _, _, rfl⟩ | ⟨there, _⟩
    · exact iff_of_true ⟨rfl, rfl⟩ closes
    · exact consistent row there
  · cases done

section Runs

variable [DecimalContext]

/-- An amount of the run has no room in its column, so that the run raises. -/
def Refused (data : SpendData) (tenantId : Uuid) (invoices : Dict Uuid Decimal) : Prop :=
  ∃ invoice ∈ invoices, (invoicedCampaign data tenantId invoice.1).isSome ∧
    ¬ (figuresOf data invoice.1 invoice.2).Fits

/-- A run meets no row of its tenant, its campaigns and its period that an admin has resolved. -/
def Fresh (s : ReconciliationStore) : ReconciliationOp → Prop
  | .run data tenantId periodStart periodEnd invoices =>
    Refused data tenantId invoices ∨ ∀ invoice ∈ invoices, (invoicedCampaign data tenantId invoice.1).isSome →
      Open ⟨tenantId, invoice.1, periodStart, periodEnd⟩ s
  | _ => True

theorem figuresOf_open (data : SpendData) (campaignId : Uuid) (invoiced : Decimal) :
    (figuresOf data campaignId invoiced).status ≠ .explained ∧ (figuresOf data campaignId invoiced).status ≠ .disputed := by
  simp only [figuresOf]
  split <;> simp

theorem reconcile_ok {data : SpendData} {tenantId : Uuid} {periodStart periodEnd : Int} {s s' : ReconciliationStore}
    {invoice : Uuid × Decimal} (done : reconcile data tenantId periodStart periodEnd s invoice = .ok s') :
    (invoicedCampaign data tenantId invoice.1).isNone ∧ s' = s ∨
    (invoicedCampaign data tenantId invoice.1).isSome ∧ (figuresOf data invoice.1 invoice.2).Fits ∧
      s' = upsertReconciliation ⟨tenantId, invoice.1, periodStart, periodEnd⟩ (figuresOf data invoice.1 invoice.2) s := by
  unfold reconcile at done
  split at done
  · rename_i absent
    cases done
    exact Or.inl ⟨absent, rfl⟩
  · rename_i stored
    split at done
    · rename_i fits
      cases done
      exact Or.inr ⟨by simpa [Option.isSome_iff_ne_none] using stored, fits, rfl⟩
    · cases done

/-- A reconciliation raises where an amount does not fit, whatever rows it finds. -/
theorem runReconciliation_raises {data : SpendData} {tenantId : Uuid} (periodStart periodEnd : Int)
    {invoices : Dict Uuid Decimal} (s : ReconciliationStore) :
    (∃ error, runReconciliation data tenantId periodStart periodEnd invoices s = .error error) ↔
      Refused data tenantId invoices := by
  constructor
  · rintro ⟨error, failed⟩
    obtain ⟨invoice, member, mid, fails⟩ := foldlM_error failed
    refine ⟨invoice, member, ?_⟩
    unfold reconcile at fails
    split at fails
    · cases fails
    · rename_i stored
      split at fails
      · cases fails
      · rename_i wide
        exact ⟨by simpa [Option.isSome_iff_ne_none] using stored, wide⟩
  · rintro ⟨invoice, member, stored, wide⟩
    cases done : runReconciliation data tenantId periodStart periodEnd invoices s with
    | error error => exact ⟨error, rfl⟩
    | ok s' =>
      obtain ⟨_, _, mid, next, _, _, here, _⟩ := foldlM_ok_at done member
      rcases reconcile_ok here with ⟨absent, _⟩ | ⟨_, fits, _⟩
      · rw [Option.isNone_iff_eq_none] at absent
        simp [absent] at stored
      · exact absurd fits wide

theorem reconcile_marked {data : SpendData} {tenantId : Uuid} {periodStart periodEnd : Int} {k : PeriodKey}
    {s s' : ReconciliationStore} {invoice : Uuid × Decimal} (marked : Marked k s)
    (done : reconcile data tenantId periodStart periodEnd s invoice = .ok s') : Marked k s' := by
  rcases reconcile_ok done with ⟨_, rfl⟩ | ⟨_, _, rfl⟩
  · exact marked
  · exact upsert_marked marked

theorem reconcile_open {data : SpendData} {tenantId : Uuid} {periodStart periodEnd : Int} {k : PeriodKey}
    {s s' : ReconciliationStore} {invoice : Uuid × Decimal} (isOpen : Open k s)
    (done : reconcile data tenantId periodStart periodEnd s invoice = .ok s') : Open k s' := by
  rcases reconcile_ok done with ⟨_, rfl⟩ | ⟨_, _, rfl⟩
  · exact isOpen
  · exact upsert_open isOpen (figuresOf_open data invoice.1 invoice.2)

/-- A consistent state whose rows of the invoices are open. -/
structure Meets (data : SpendData) (tenantId : Uuid) (periodStart periodEnd : Int) (invoices : Dict Uuid Decimal)
    (s : ReconciliationStore) : Prop where
  consistent : Consistent s
  fresh : ∀ invoice ∈ invoices, (invoicedCampaign data tenantId invoice.1).isSome →
    Open ⟨tenantId, invoice.1, periodStart, periodEnd⟩ s

/-- A reconciliation that meets open rows only keeps the resolutions consistent. -/
theorem runReconciliation_consistent {data : SpendData} {tenantId : Uuid} {periodStart periodEnd : Int}
    {invoices : Dict Uuid Decimal} {s s' : ReconciliationStore} (consistent : Consistent s)
    (fresh : ∀ invoice ∈ invoices, (invoicedCampaign data tenantId invoice.1).isSome →
      Open ⟨tenantId, invoice.1, periodStart, periodEnd⟩ s)
    (done : runReconciliation data tenantId periodStart periodEnd invoices s = .ok s') : Consistent s' := by
  -- the rows still to come stay open while the loop runs, and each upsert needs that of its own
  have kept : Meets data tenantId periodStart periodEnd invoices s' := by
    refine foldlM_invariant done ⟨consistent, fresh⟩ fun invoice member mid next held here => ?_
    refine ⟨?_, fun other otherMember stored => reconcile_open (held.fresh other otherMember stored) here⟩
    rcases reconcile_ok here with ⟨_, rfl⟩ | ⟨stored, _, rfl⟩
    · exact held.consistent
    · exact upsert_consistent held.consistent (held.fresh invoice member stored)
        (figuresOf_open data invoice.1 invoice.2)
  exact kept.consistent

/-- A reconciliation leaves the rows of its campaigns open, and a mark of resolution in its place. -/
theorem runReconciliation_contradicts {data : SpendData} {tenantId : Uuid} {periodStart periodEnd : Int}
    {invoices : Dict Uuid Decimal} {s s' : ReconciliationStore} {invoice : Uuid × Decimal} (member : invoice ∈ invoices)
    (stored : (invoicedCampaign data tenantId invoice.1).isSome)
    (marked : Marked ⟨tenantId, invoice.1, periodStart, periodEnd⟩ s)
    (done : runReconciliation data tenantId periodStart periodEnd invoices s = .ok s') : ¬ Consistent s' := by
  obtain ⟨first, last, mid, next, _, _, here, after⟩ := foldlM_ok_at done member
  have isOpen : Open ⟨tenantId, invoice.1, periodStart, periodEnd⟩ next := by
    rcases reconcile_ok here with ⟨absent, _⟩ | ⟨_, _, rfl⟩
    · rw [Option.isNone_iff_eq_none] at absent
      simp [absent] at stored
    · exact upsert_open_self _ mid (figuresOf_open data invoice.1 invoice.2)
  have stillOpen : Open ⟨tenantId, invoice.1, periodStart, periodEnd⟩ s' :=
    foldlM_invariant after isOpen fun _ _ _ _ held => reconcile_open held
  have stillMarked : Marked ⟨tenantId, invoice.1, periodStart, periodEnd⟩ s' :=
    foldlM_invariant done marked fun _ _ _ _ held => reconcile_marked held
  obtain ⟨row, there, same, at', by'⟩ := stillMarked
  exact fun consistent => stillOpen row there same ((consistent row there).mp ⟨at', by'⟩)

/-- From a consistent state a request leads to one exactly if it is fresh. -/
theorem step_consistent_iff {s : ReconciliationStore} (consistent : Consistent s) (op : ReconciliationOp) :
    Consistent (step s op) ↔ Fresh s op := by
  cases op with
  | explain reconciliationId userId note now =>
    refine iff_of_true ?_ trivial
    cases done : outcome s (.explain reconciliationId userId note now) with
    | error error => simpa [step, done] using consistent
    | ok s' => simpa [step, done] using resolve_consistent (Or.inl rfl) consistent done
  | dispute reconciliationId userId note now =>
    refine iff_of_true ?_ trivial
    cases done : outcome s (.dispute reconciliationId userId note now) with
    | error error => simpa [step, done] using consistent
    | ok s' => simpa [step, done] using resolve_consistent (Or.inr rfl) consistent done
  | run data tenantId periodStart periodEnd invoices =>
    by_cases refused : Refused data tenantId invoices
    · obtain ⟨error, failed⟩ := (runReconciliation_raises periodStart periodEnd s).mpr refused
      have kept : step s (.run data tenantId periodStart periodEnd invoices) = s := by simp [step, outcome, failed]
      rw [kept]
      exact iff_of_true consistent (Or.inl refused)
    · cases done : runReconciliation data tenantId periodStart periodEnd invoices s with
      | error error => exact absurd ((runReconciliation_raises periodStart periodEnd s).mp ⟨error, done⟩) refused
      | ok s' =>
        have result : step s (.run data tenantId periodStart periodEnd invoices) = s' := by simp [step, outcome, done]
        rw [result, Fresh, or_iff_right refused]
        constructor
        · intro after invoice member stored row there same settled
          have marks := (consistent row there).mpr settled
          exact runReconciliation_contradicts member stored ⟨row, there, same, marks.1, marks.2⟩ done after
        · exact fun fresh => runReconciliation_consistent consistent fresh done

/-- The resolutions stay consistent along exactly the runs whose reconciliations are
all fresh. A run sets the status of the rows that it meets and nothing else of a
resolution, so that it may meet none that an admin has resolved. -/
theorem resolution_consistent_iff {s : ReconciliationStore} (consistent : Consistent s) (ops : List ReconciliationOp) :
    Along step (fun s op => Consistent (step s op)) s ops ↔ Along step Fresh s ops := by
  constructor
  · intro along
    exact along.imp consistent (fun _ _ _ after => after) fun s op before after => (step_consistent_iff before op).mp after
  · intro along
    exact along.imp consistent (fun s op before fresh => (step_consistent_iff before op).mpr fresh)
      fun s op before fresh => (step_consistent_iff before op).mpr fresh

end Runs

namespace Invoices

local instance invoicesDecimals : DecimalContext := DecimalContext.plain

def launch : Campaign where
  id := 5
  tenantId := 1
  name := "Launch"
  status := .live
  budgetTotal := 500
  currency := "EUR"
  startDate := 20500
  endDate := 20600

/-- One channel that has spent 200. -/
def spend : SpendData where
  campaigns := [launch]
  budgets := [{ campaignId := 5, channelId := 7, allocated := 500, spent := 200 }]

/-- An admin explains the invoice of March, and March is reconciled once more. -/
def rerun : List ReconciliationOp :=
  [.run spend 1 20513 20543 [(5, 230)], .explain 0 9 "VAT" 1000, .run spend 1 20513 20543 [(5, 230)]]

/-- The second run overwrites the status of the row, while who resolved it, when and
with which note all stay. -/
theorem rerun_reopens_the_row : ¬ Consistent (run step {} rerun) := by
  decide +kernel

theorem resolution_consistent_iff_rerun :
    Along step (fun s op => Consistent (step s op)) {} rerun ↔ Along step Fresh {} rerun :=
  resolution_consistent_iff (fun row member => by cases member) rerun

end Invoices

end Reconciliation

end MarketingAgents
