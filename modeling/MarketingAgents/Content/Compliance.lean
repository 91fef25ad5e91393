import MarketingAgents.Content.Approved

namespace MarketingAgents

open Lib PyText

/-- Every recorded approval is of a row without an active compliance block. -/
def ApprovedClean (db : Db) : Prop := ∀ approval ∈ db.approvals, isComplianceBlocked approval.asset = false

/-- The assistant approves no blocked row in the operation. -/
def CleanApprovals (db : Db) (op : Op × Int) : Prop :=
  ∀ a ∈ op.1.assistantApproves db, isComplianceBlocked a = false

def Gated (db : Db) : Prop :=
  ∀ a ∈ db.assets, isComplianceBlocked a = true → a.status ≠ .approved ∧ a.status ≠ .scheduled ∧ a.status ≠ .published

section Compliance

variable [PyText] {db : Db}

instance (db : Db) (op : Op × Int) : Decidable (CleanApprovals db op) :=
  inferInstanceAs (Decidable (∀ a ∈ op.1.assistantApproves db, isComplianceBlocked a = false))

theorem ApprovedClean.move {before mid db' : Db} {op : Op × Int} (clean : CleanApprovals before op)
    (move : Move (op.1.licence before) mid db') (all : ApprovedClean mid) : ApprovedClean db' := by
  refine approvals_move (Q := fun approval => isComplianceBlocked approval.asset = false) move all ?_
  intro old new path role vetted licensed
  have same : isComplianceBlocked new = isComplianceBlocked old := vetted.blocked
  have unblocked : isComplianceBlocked old = false := by
    cases path with
    | api => exact vetted.checked (by simp)
    | batch => exact vetted.checked (by simp)
    | ui => exact vetted.checked (by simp)
    | assistant => exact clean old (licensed (by simp))
    | assistantAll => exact clean old (licensed (by simp))
  exact same.trans unblocked

/-- In every run in which the assistant approves no blocked asset, no blocked asset
is ever approved, scheduled or published. The invariant is that the asset of every
approval was clean when it was given; every other path to an approval checks it. -/
theorem compliance_gate_holds (fresh : db.Fresh) {ops : List (Op × Int)}
    (clean : Along Content.step CleanApprovals db ops) : Gated (Lib.run Content.step db ops) := by
  have start : ApprovedClean db := by simp [ApprovedClean, fresh.approvals]
  have all : ApprovedClean (Lib.run Content.step db ops) :=
    Content.invariant fresh start clean fun _ _ permitted _ _ _ holds move => holds.move permitted move
  intro a member blocked
  -- a row that ships carries the verdict of its approval
  have unshipped : a.status.ships ≠ true := by
    intro ships
    obtain ⟨approval, last, vouches⟩ := run_vouched fresh ops a member ships
    have listed : approval ∈ (Lib.run Content.step db ops).approvals := List.mem_of_find?_eq_some last
    rw [vouches.shipped.unblocked (all approval listed)] at blocked
    simp at blocked
  refine ⟨fun same => ?_, fun same => ?_, fun same => ?_⟩ <;> exact unshipped (by rw [same]; rfl)

end Compliance

namespace Compliance

local instance complianceText : PyText := PyText.plain

open Sample

/-- A draft whose check found a hit of the given severity. -/
def flagged (severity : String) : Generation := draft [⟨"claims", severity, "guaranteed", "regex"⟩]

/-- The assistant generates the asset and then approves it. -/
def generateThenApprove (severity : String) : List (Op × Int) :=
  [(.createCampaign manager launch, 0),
    (.assistant manager (.generateContent true 0 true [flagged severity]), 1),
    (.assistant manager (.approveAsset 2), 2)]

/-- The asset is approved with its blocking hit on record: the assistant looks for the
hit under a key that the content creator does not write. -/
theorem assistant_approves_blocked_asset :
    planned.Fresh ∧ ∃ a ∈ (Lib.run Content.step planned (generateThenApprove "block")).assets,
      a.status = .approved ∧ isComplianceBlocked a = true :=
  ⟨⟨rfl, rfl, rfl, rfl⟩, by decide⟩

theorem compliance_gate_holds_warned :
    Along Content.step CleanApprovals planned (generateThenApprove "warn") ∧
      (∃ a ∈ (Lib.run Content.step planned (generateThenApprove "warn")).assets, a.status = .approved) ∧
      Gated (Lib.run Content.step planned (generateThenApprove "warn")) := by
  have clean : Along Content.step CleanApprovals planned (generateThenApprove "warn") := by decide
  exact ⟨clean, by decide, compliance_gate_holds ⟨rfl, rfl, rfl, rfl⟩ clean⟩

end Compliance

end MarketingAgents
