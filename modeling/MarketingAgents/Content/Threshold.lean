import MarketingAgents.Content.Approved

namespace MarketingAgents

open Lib PyText

section Threshold

variable [PyText] {db : Db}

/-- The snapshot of the asset names an amount in the campaign's currency that
lies strictly below the campaign's budget. -/
def AboveThreshold (a : ContentAsset) (c : Campaign) : Prop :=
  ∃ raw amount, nonNull (thresholdOf a) "admin_required_above_amount" = some raw ∧
    snapshotCurrency (thresholdOf a) = .str c.currency ∧ decimalOf (str raw) = some amount ∧ amount < c.budgetTotal

theorem requiresAdmin_iff (a : ContentAsset) (c : Campaign) : requiresAdmin a c = true ↔ AboveThreshold a c := by
  unfold requiresAdmin AboveThreshold
  cases nonNull (thresholdOf a) "admin_required_above_amount" with
  | none => simp
  | some raw =>
    by_cases currency : snapshotCurrency (thresholdOf a) = .str c.currency
    · cases amount : decimalOf (str raw) <;> simp [currency, amount]
    · simp [currency]

instance (a : ContentAsset) (c : Campaign) : Decidable (AboveThreshold a c) :=
  decidable_of_iff _ (requiresAdmin_iff a c)

/-- The check reads the snapshot of the row, and the budget and currency of the campaign. -/
theorem requiresAdmin_congr_campaign (a : ContentAsset) {c d : Campaign} (budget : c.budgetTotal = d.budgetTotal)
    (currency : c.currency = d.currency) : requiresAdmin a c = requiresAdmin a d := by
  unfold requiresAdmin
  rw [budget, currency]

/-- An approval through the JSON API that needed an admin was made by one. -/
def AdminChecked (approval : Approval) : Prop :=
  approval.path ∈ [.api, .batch] → ∀ c, approval.campaign = some c → requiresAdmin approval.asset c = true →
    approval.role = .admin

theorem adminChecked_move {l : Licence} {mid db' : Db} (move : Move l mid db')
    (all : ∀ approval ∈ mid.approvals, AdminChecked approval) : ∀ approval ∈ db'.approvals, AdminChecked approval :=
  approvals_move move all fun _ _ _ _ vetted _ api c found needs => vetted.admin api c found needs

/-- An asset that is approved, scheduled or published has a most recent
approval. If that was made through the JSON API, single or batch, and the
campaign has the budget and currency it had then, and the threshold of the
asset's snapshot lies below that budget, then it was made by an admin. -/
theorem api_approval_above_threshold_is_by_admin (fresh : db.Fresh) (ops : List (Op × Int)) :
    ∀ a ∈ (Lib.run Content.step db ops).assets, a.status = .approved ∨ a.status = .scheduled ∨ a.status = .published →
      ∃ approval, (Lib.run Content.step db ops).lastApproval? a.id = some approval ∧
        (approval.path = .api ∨ approval.path = .batch →
          ∀ c, (Lib.run Content.step db ops).campaign? a.campaignId = some c → ∀ then', approval.campaign = some then' →
            c.budgetTotal = then'.budgetTotal → c.currency = then'.currency → AboveThreshold a c →
              approval.role = .admin) := by
  have start : ∀ approval ∈ db.approvals, AdminChecked approval := by simp [fresh.approvals]
  have all : ∀ approval ∈ (Lib.run Content.step db ops).approvals, AdminChecked approval :=
    Content.invariant (I := fun db => ∀ approval ∈ db.approvals, AdminChecked approval) fresh start
      (Along.of_forall (P := fun _ _ => True) (fun _ _ => trivial) db ops)
      fun _ _ _ _ _ _ holds move => adminChecked_move move holds
  intro a member status
  have ships : a.status.ships = true := by
    rcases status with same | same | same <;> rw [same] <;> rfl
  obtain ⟨approval, last, vouches⟩ := run_vouched fresh ops a member ships
  refine ⟨approval, last, fun api c _ then' recorded budget currency above => ?_⟩
  have needs : requiresAdmin approval.asset then' = true := by
    rw [← requiresAdmin_congr then' vouches.shipped.threshold, ← requiresAdmin_congr_campaign a budget currency]
    exact (requiresAdmin_iff a c).mpr above
  exact all approval (List.mem_of_find?_eq_some last) (by simpa using api) then' recorded needs

end Threshold

namespace Threshold

local instance thresholdText : PyText := PyText.plain

open Sample

/-- Up to the submission, where admins must approve above 500. -/
def submitted (budget : Decimal) : List (Op × Int) :=
  [(.upsertApprovalSettings admin (some 500) 1000 "USD", 0),
    (.createCampaign manager { launch with budgetTotal := budget }, 1),
    (.assistant manager (.synthesiseAudience 0 [("m", [])]), 2),
    (.applyTransition manager .manager 0 "set_strategy", 3),
    (.applyTransition manager .manager 0 "start_content", 4),
    (.generateAsset 3 (draft []), 5)]

/-- A manager approves under the threshold, then the budget is raised over it. -/
def raisedBudget : List (Op × Int) :=
  submitted 100 ++ [(.approveAsset manager 3 {}, 6), (.patchCampaign manager 0 { budgetTotal := some 900 }, 7)]

/-- The asset stays scheduled on the approval of a manager, now above the threshold. -/
theorem budget_raised_after_manager_approval :
    let db := Lib.run Content.step planned raisedBudget
    planned.Fresh ∧ ∃ a ∈ db.assets, ∃ c ∈ db.campaigns, a.status = .scheduled ∧ c.id = a.campaignId ∧
      AboveThreshold a c ∧ ((db.lastApproval? a.id).map Approval.role) = some .manager :=
  ⟨⟨rfl, rfl, rfl, rfl⟩, by decide +kernel⟩

def adminApproval : List (Op × Int) := submitted 900 ++ [(.approveAsset admin 3 {}, 6)]

theorem api_approval_above_threshold_is_by_admin_launched :
    let db := Lib.run Content.step planned adminApproval
    ∃ a ∈ db.assets, a.status = .scheduled ∧ ∃ c, db.campaign? a.campaignId = some c ∧ AboveThreshold a c ∧
      ∃ approval, db.lastApproval? a.id = some approval ∧ approval.path = .api ∧ approval.role = .admin := by
  intro db
  have run : ∃ a ∈ db.assets, a.status = .scheduled ∧ ∃ c ∈ db.campaigns, db.campaign? a.campaignId = some c ∧
      AboveThreshold a c ∧ ∃ approval ∈ db.approvals, db.lastApproval? a.id = some approval ∧ approval.path = .api ∧
        (approval.campaign.map fun d => (d.budgetTotal, d.currency)) = some (c.budgetTotal, c.currency) := by
    decide +kernel
  obtain ⟨a, member, scheduled, c, _, found, above, approval, _, last, api, same⟩ := run
  obtain ⟨d, recorded, pair⟩ := Option.map_eq_some_iff.mp same
  obtain ⟨latest, last', byAdmin⟩ := api_approval_above_threshold_is_by_admin ⟨rfl, rfl, rfl, rfl⟩ adminApproval a member
    (Or.inr (Or.inl scheduled))
  have equal : approval = latest := Option.some.inj (last.symm.trans last')
  subst equal
  have budget : c.budgetTotal = d.budgetTotal := (congrArg Prod.fst pair).symm
  have currency : c.currency = d.currency := (congrArg Prod.snd pair).symm
  exact ⟨a, member, scheduled, c, found, above, approval, last, api,
    byAdmin (Or.inl api) c found d recorded budget currency above⟩

end Threshold

end MarketingAgents
