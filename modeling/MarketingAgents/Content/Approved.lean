import MarketingAgents.Content.System

namespace MarketingAgents

open Lib PyText

def Db.lastApproval? (db : Db) (assetId : Uuid) : Option Approval := db.approvals.find? (·.asset.id = assetId)

/-- The row ships what the approval approved. -/
structure Vouches (approval : Approval) (a : ContentAsset) : Prop extends SameRow approval.asset a where
  shipped : SameShipped approval.asset a

/-- Every row that ships has a most recent approval, which vouches for it. -/
def Vouched (db : Db) : Prop :=
  ∀ a ∈ db.assets, a.status.ships = true → ∃ approval, db.lastApproval? a.id = some approval ∧ Vouches approval a

/-- A row that ships after a change along `R` shipped before it, with the same parts. -/
def Carries (R : ContentAsset → ContentAsset → Prop) : Prop :=
  ∀ {old new}, R old new → new.status.ships = true → old.status.ships = true ∧ SameRow old new ∧ SameShipped old new

theorem carries_revised : Carries Revised := fun related ships =>
  ⟨(related.ships ships).1, related.toSameRow, (related.ships ships).2⟩

theorem carries_launchedRow (campaignId : Uuid) : Carries (LaunchedRow campaignId) := by
  rintro old new (rfl | ⟨row, same, _, approved, _⟩) ships
  · exact ⟨ships, .refl _, .refl _⟩
  · exact ⟨by rw [approved]; rfl, row, same⟩

theorem Vouched.rewrites {db db' : Db} {R : ContentAsset → ContentAsset → Prop} (carries : Carries R)
    (rows : Rewrites R db db') (vouched : Vouched db) : Vouched db' := by
  intro a member ships
  obtain ⟨old, oldMember, related⟩ := forall₂_origin rows.assets member
  obtain ⟨oldShips, row, same⟩ := carries related ships
  obtain ⟨approval, last, vouches⟩ := vouched old oldMember oldShips
  refine ⟨approval, ?_, ⟨vouches.toSameRow.trans row, vouches.shipped.trans same⟩⟩
  rw [row.id, ← last]
  unfold Db.lastApproval?
  rw [rows.approvals]

theorem Vouched.of_same {db db' : Db} (assets : db'.assets = db.assets) (approvals : db'.approvals = db.approvals)
    (vouched : Vouched db) : Vouched db' := by
  unfold Vouched Db.lastApproval?
  rw [assets, approvals]
  exact vouched

theorem Vouched.approve {db : Db} (vouched : Vouched db) (new : ContentAsset) (path : ApprovalPath) (role : UserRole) :
    Vouched (db.writeApproved new path role) := by
  intro a member ships
  rcases mem_updateWhere.mp member with ⟨_, _, _, rfl⟩ | ⟨stays, miss⟩
  · have newest : (db.writeApproved new path role).lastApproval? new.id =
        some ⟨{ new with status := .approved }, path, role, db.campaign? new.campaignId⟩ :=
      List.find?_cons_of_pos (by simp)
    exact ⟨_, newest, .refl _, .refl _⟩
  · obtain ⟨approval, last, vouches⟩ := vouched a stays ships
    have other : new.id ≠ a.id := fun same => by simp [same] at miss
    have older : (db.writeApproved new path role).lastApproval? a.id = db.lastApproval? a.id :=
      List.find?_cons_of_neg (by simpa using other)
    exact ⟨approval, older.trans last, vouches⟩

theorem Db.Fresh.vouched {db : Db} (fresh : db.Fresh) : Vouched db := by
  intro a member
  simp [fresh.assets] at member

section Moves

variable [PyText] {l : Licence} {db db' : Db}


theorem Vouched.move (move : Move l db db') (vouched : Vouched db) : Vouched db' := by
  cases move with
  | revise rows => exact vouched.rewrites carries_revised rows
  | edit member sameId sameStatus => exact vouched.of_same rfl rfl
  | create unshipped =>
    intro a member ships
    rcases List.mem_append.mp member with old | new
    · exact vouched a old ships
    · rw [List.mem_singleton.mp new] at ships
      simp [unshipped] at ships
  | found drafted fresh => exact vouched.of_same rfl rfl
  | approve vetted licensed => exact vouched.approve _ _ _
  | write found permitted licensed => exact vouched.of_same (writeStatus_assets ..) (writeStatus_approvals ..)
  | launch found pending rows =>
    exact (vouched.of_same (writeStatus_assets ..) (writeStatus_approvals ..)).rewrites (carries_launchedRow _) rows

/-- A property of approvals that the vetting establishes holds of every recorded approval. -/
theorem approvals_move {Q : Approval → Prop} (move : Move l db db') (all : ∀ approval ∈ db.approvals, Q approval)
    (new : ∀ old new path role, Vetted db old new path role →
      (path ∈ [.assistant, .assistantAll] → l.approves old) →
      Q ⟨{ new with status := .approved }, path, role, db.campaign? new.campaignId⟩) :
    ∀ approval ∈ db'.approvals, Q approval := by
  cases move with
  | revise rows => exact rows.approvals.symm ▸ all
  | edit member sameId sameStatus => exact all
  | create unshipped => exact all
  | found drafted fresh => exact all
  | approve vetted licensed =>
    intro approval member
    rcases List.mem_cons.mp member with rfl | old
    · exact new _ _ _ _ vetted licensed
    · exact all approval old
  | write found permitted licensed => exact (writeStatus_approvals ..).symm ▸ all
  | launch found pending rows =>
    rw [rows.approvals, writeStatus_approvals]
    exact all

theorem run_vouched (fresh : db.Fresh) (ops : List (Op × Int)) : Vouched (Lib.run Content.step db ops) :=
  Content.invariant fresh fresh.vouched (Along.of_forall (P := fun _ _ => True) (fun _ _ => trivial) db ops)
    fun _ _ _ _ _ _ vouched move => vouched.move move

/-- Approved content is what ships: after any sequence of operations, an asset
that is approved, scheduled or published has the title, the content and the
fields that its most recent approval left. -/
theorem shipped_content_is_approved_content (fresh : db.Fresh) (ops : List (Op × Int)) :
    ∀ a ∈ (Lib.run Content.step db ops).assets, a.status = .approved ∨ a.status = .scheduled ∨ a.status = .published →
      ∃ approval, (Lib.run Content.step db ops).lastApproval? a.id = some approval ∧
        a.title = approval.asset.title ∧ a.content = approval.asset.content ∧
        a.extraMetadata.get? "fields" = approval.asset.extraMetadata.get? "fields" := by
  intro a member status
  have ships : a.status.ships = true := by
    rcases status with same | same | same <;> rw [same] <;> rfl
  obtain ⟨approval, last, vouches⟩ := run_vouched fresh ops a member ships
  exact ⟨approval, last, vouches.shipped.title, vouches.shipped.content, vouches.shipped.fields⟩

end Moves

namespace Approved

local instance approvedText : PyText := PyText.plain

open Sample

def editedTemplate : List (Op × Int) :=
  [(.createCampaign manager launch, 0),
    (.assistant manager (.draftOutbound 0 5 false [(⟨"vp", "VP", 3⟩, "email", .fields "hello" "draft")]), 1),
    (.approveViaUi manager 1 [("edited_content", "final"), ("edit_field_body", "final")], 2)]

theorem shipped_content_is_approved_content_edited :
    let db := Lib.run Content.step {} editedTemplate
    ∃ a ∈ db.assets, a.status = .approved ∧ a.content = some "final" ∧
      ∃ approval, db.lastApproval? a.id = some approval ∧
        a.title = approval.asset.title ∧ a.content = approval.asset.content ∧
        a.extraMetadata.get? "fields" = approval.asset.extraMetadata.get? "fields" := by
  intro db
  have fresh : ({} : Db).Fresh := ⟨rfl, rfl, rfl, rfl⟩
  have here : ∃ a ∈ db.assets, a.status = .approved ∧ a.content = some "final" := by decide
  obtain ⟨a, member, approved, content⟩ := here
  exact ⟨a, member, approved, content, shipped_content_is_approved_content fresh editedTemplate a member (Or.inl approved)⟩

end Approved

end MarketingAgents
