import MarketingAgents.Content.Effects
import MarketingAgents.Content.System

namespace MarketingAgents

open Lib PyText

/-- The decision on the asset that was logged last. -/
def Db.latestDecision? (db : Db) (assetId : Uuid) : Option ApprovalDecisionLog :=
  (db.decisions.filter (·.contentAssetId = assetId)).getLast?

/-- The latest decision is one that leaves the status. -/
def Decides (decision : ApprovalDecision) (status : AssetStatus) : Prop :=
  (status = .approved → decision ∈ [.approved, .approvedWithEdits]) ∧ (status = .rejected → decision = .rejected)

def AssetStatus.reviewed (status : AssetStatus) : Bool := status ∈ [.approved, .rejected]

/-- A reviewed row stands where its latest decision has left it. -/
def Logged (db : Db) : Prop :=
  ∀ a ∈ db.assets, a.status.reviewed = true → ∃ d, db.latestDecision? a.id = some d ∧ Decides d.decision a.status

theorem latestDecision?_congr {db db' : Db} (same : db'.decisions = db.decisions) (id : Uuid) :
    db'.latestDecision? id = db.latestDecision? id := by
  unfold Db.latestDecision?
  rw [same]

theorem latestDecision?_insert_self (db : Db) (d : ApprovalDecisionLog) :
    (db.insertDecision d).latestDecision? d.contentAssetId = some { d with id := db.nextId } := by
  simp [Db.latestDecision?, Db.insertDecision, List.filter_append]

theorem latestDecision?_insert_other (db : Db) {d : ApprovalDecisionLog} {id : Uuid} (other : d.contentAssetId ≠ id) :
    (db.insertDecision d).latestDecision? id = db.latestDecision? id := by
  simp [Db.latestDecision?, Db.insertDecision, List.filter_append, other]

/-- Nothing is logged, and a reviewed row was a row with that status. -/
theorem Logged.of_kept {db db' : Db} (logged : Logged db) (decisions : db'.decisions = db.decisions)
    (rows : ∀ b ∈ db'.assets, b.status.reviewed = true → ∃ old ∈ db.assets, old.id = b.id ∧ old.status = b.status) :
    Logged db' := by
  intro b member reviewed
  obtain ⟨old, here, sameId, sameStatus⟩ := rows b member reviewed
  obtain ⟨d, latest, decides⟩ := logged old here (by rw [sameStatus]; exact reviewed)
  refine ⟨d, ?_, sameStatus ▸ decides⟩
  rw [latestDecision?_congr decisions, ← sameId]
  exact latest

/-- A row is reviewed and the review logged. -/
theorem Logged.review {db db' : Db} (logged : Logged db) {id : Uuid} (new : ContentAsset) {d : ApprovalDecisionLog}
    (sameId : new.id = id) (about : d.contentAssetId = id) (decides : Decides d.decision new.status)
    (decisions : db'.decisions = (db.insertDecision d).decisions) (assets : db'.assets = (db.setAsset new).assets) :
      Logged db' := by
  intro b member reviewed
  rw [assets] at member
  rw [latestDecision?_congr decisions]
  rcases mem_updateWhere.mp member with ⟨_, _, _, rfl⟩ | ⟨stays, miss⟩
  · rw [sameId, ← about]
    exact ⟨_, latestDecision?_insert_self db d, decides⟩
  · have other : d.contentAssetId ≠ b.id := by
      rw [about, ← sameId]
      exact fun same => of_decide_eq_false miss same.symm
    rw [latestDecision?_insert_other db other]
    exact logged b stays reviewed

theorem Edited.unreviewed {may : Cause → Db → Prop} {db : Db} {old new : ContentAsset} (edited : Edited may db old new)
    (reviewed : new.status.reviewed = true) : old.status = new.status := by
  rcases edited.status with same | inside | ⟨_, published⟩
  · exact same.symm
  · have within : ∀ status ∈ [AssetStatus.failed, .requested, .drafted, .archived], status.reviewed = false := by decide
    rw [within _ inside] at reviewed
    cases reviewed
  · rw [published] at reviewed
    cases reviewed

theorem writeStatus_decisions (db : Db) (id : Uuid) (after : CampaignStatus) (writer : Writer) :
    (db.writeStatus id after writer).decisions = db.decisions := by
  unfold Db.writeStatus
  split <;> rfl

section Writes

variable [PyText] {may : Cause → Db → Prop} {now : Int} {db db' : Db}

/-- A write keeps every reviewed asset in agreement with its latest decision, where
the assistant neither approves nor rejects. A decision and its status are written
together. -/
theorem Write.logged (write : Write may now db db') (wf : db.Wf) (approves : ∀ a, ¬ may (.approves a) db)
    (rejects : ∀ a, ¬ may (.rejects a) db) (logged : Logged db) : Logged db' := by
  have still : ∀ {mid : Db}, mid.decisions = db.decisions → mid.assets = db.assets → Logged mid := fun decisions assets =>
    logged.of_kept decisions fun b member _ => ⟨b, assets ▸ member, rfl, rfl⟩
  -- a loop over rows sets a status that no review sets
  have mapped : ∀ {mid : Db} {g : ContentAsset → ContentAsset} {p : ContentAsset → Prop} [DecidablePred p],
      mid.decisions = db.decisions → mid.assets = db.assets.map (fun a => if p a then g a else a) →
      (∀ a, (g a).status.reviewed = false) → Logged mid := by
    intro mid g p _ decisions assets unreviewed
    refine logged.of_kept decisions fun b member reviewed => ?_
    rw [assets] at member
    obtain ⟨a, here, value⟩ := List.mem_map.mp member
    split at value
    · simp [← value, unreviewed] at reviewed
    · exact ⟨a, here, by rw [value], by rw [value]⟩
  cases write with
  | side same => exact still same.decisions same.assets
  | task other done => exact still (SameSide.enqueue done).decisions (untouched_enqueue done).assets_eq
  | cancel found paused => exact still rfl rfl
  | found drafted fresh => exact still rfl rfl
  | edit there sameId sameStatus => exact still rfl rfl
  | status found permitted plain live completed => exact still (writeStatus_decisions ..) (writeStatus_assets ..)
  | submit found producing drafted =>
    obtain ⟨side, _, snapshot, assets⟩ := flipDraftedAssetsToPendingApproval_flips (writeStatus_wf found _ _ wf) _ now
    rw [writeStatus_assets] at assets
    exact mapped (side.decisions.trans (writeStatus_decisions ..)) assets fun _ => rfl
  | launch found pending done =>
    have schedules := scheduleApprovedAssets_schedules (writeStatus_wf found _ _ wf) done
    have assets := schedules.assets
    rw [writeStatus_assets] at assets
    exact mapped (schedules.side.decisions.trans (writeStatus_decisions ..)) assets fun a => by
      rw [scheduledRow_status]
      rfl
  | resume found paused asked done =>
    have resumes := resumeDistributionForCampaign_resumes (writeStatus_wf found _ _ wf) done
    have assets := resumes.assets
    rw [writeStatus_assets] at assets
    exact mapped (resumes.side.decisions.trans (writeStatus_decisions ..)) assets fun _ => rfl
  | seed asked done =>
    have seeded := seedAssetsForCampaign_seeded wf done
    obtain ⟨rows, assets, _, _, planted⟩ := seeded.rows
    refine logged.of_kept seeded.decisions fun b member reviewed => ?_
    rw [assets] at member
    rcases List.mem_append.mp member with old | new
    · exact ⟨b, old, rfl, rfl⟩
    · obtain ⟨planned, here, plant⟩ := forall₂_origin planted new
      have requested : b.status = .requested := by
        rw [plant.row]
        exact (seedRows_planned here).1
      simp [requested, AssetStatus.reviewed] at reviewed
  | rewrite here edited =>
    refine logged.of_kept rfl fun b member reviewed => ?_
    rcases mem_setAsset member with rfl | stays
    · exact ⟨_, here, edited.traced.id.symm, edited.unreviewed reviewed⟩
    · exact ⟨b, stays, rfl, rfl⟩
  | regenerate here campaign producing skill owner named unkeyed done =>
    refine logged.of_kept ((SameSide.enqueue done).decisions.trans (sameCore_ensureAgent _ _ .contentCreator).decisions)
      fun b member reviewed => ?_
    rw [(untouched_enqueue done).assets_eq, (sameCore_ensureAgent _ _ .contentCreator).assets] at member
    rcases mem_setAsset member with rfl | stays
    · simp [AssetStatus.reviewed] at reviewed
    · exact ⟨b, stays, rfl, rfl⟩
  | @approve old new path role d vetted traced status decided silent assistant =>
    cases d with
    | none => exact absurd (silent rfl) (approves old)
    | some d =>
      obtain ⟨about, decision⟩ := decided d rfl
      exact logged.review { new with status := .approved } traced.id about ⟨fun _ => decision, nofun⟩ rfl rfl
  | @reject old new d here traced status rejected decided silent =>
    cases d with
    | none => exact absurd (silent rfl) (rejects old)
    | some d =>
      obtain ⟨about, decision⟩ := decided d rfl
      exact logged.review new traced.id about
        ⟨fun approved => absurd (rejected.symm.trans approved) (by simp), fun _ => decision⟩ rfl rfl
  | create status asked =>
    refine logged.of_kept rfl fun b member reviewed => ?_
    rcases List.mem_append.mp member with old | new
    · exact ⟨b, old, rfl, rfl⟩
    · rw [List.mem_singleton.mp new] at reviewed
      simp only [List.mem_cons, List.not_mem_nil, or_false] at status
      rcases status with status | status <;> simp [status, AssetStatus.reviewed] at reviewed
  | ledger planned => exact still rfl rfl
  | newTest fresh designing undecided configured => exact still rfl rfl
  | setTest found step split => exact still rfl rfl

/-- The assistant reviews nothing in the operation. -/
def Op.leavesReview (db : Db) (op : Op × Int) : Prop := op.1.assistantApproves db = [] ∧ op.1.assistantRejects db = []

instance (db : Db) (op : Op × Int) : Decidable (Op.leavesReview db op) :=
  inferInstanceAs (Decidable (op.1.assistantApproves db = [] ∧ op.1.assistantRejects db = []))

/-- Where the assistant reviews nothing, the status of every reviewed asset is the
projection of its latest decision. The API and the pages write the decision and the
status in one transaction. -/
theorem reviewed_assets_are_logged (fresh : db.Fresh) {ops : List (Op × Int)}
    (reviews : Along Content.step Op.leavesReview db ops) :
    let reached := Lib.run Content.step db ops
    ∀ a ∈ reached.assets,
      (a.status = .approved → ∃ d, reached.latestDecision? a.id = some d ∧ d.decision ∈ [.approved, .approvedWithEdits]) ∧
        (a.status = .rejected → ∃ d, reached.latestDecision? a.id = some d ∧ d.decision = .rejected) := by
  intro reached a member
  have start : db.Wf ∧ Logged db := by
    refine ⟨fresh.wf, fun a member => ?_⟩
    simp [fresh.assets] at member
  have holds : reached.Wf ∧ Logged reached := by
    refine Along.invariant (I := fun db => db.Wf ∧ Logged db) reviews start fun before op holds quiet => ?_
    have writes : Writes (op.1.may before) op.2 before (op.1.run before op.2) := Op.run_writes holds.1 op.1
    refine writes.induct holds.1 holds.2 fun mid next midWf logged write => write.logged midWf ?_ ?_ logged
    · intro a asked
      simp [Op.may, quiet.1] at asked
    · intro a asked
      simp [Op.may, quiet.2] at asked
  constructor
  · intro approved
    obtain ⟨d, latest, decides⟩ := holds.2 a member (by rw [approved]; rfl)
    exact ⟨d, latest, decides.1 approved⟩
  · intro rejected
    obtain ⟨d, latest, decides⟩ := holds.2 a member (by rw [rejected]; rfl)
    exact ⟨d, latest, decides.2 rejected⟩

end Writes

namespace Decisions

local instance decisionsText : PyText := PyText.plain

open Sample

/-- A campaign with one outreach template, asset 1. -/
def template : List (Op × Int) :=
  [(.createCampaign manager launch, 0),
    (.assistant manager (.draftOutbound 0 5 false [(⟨"vp", "VP", 3⟩, "email", .fields "hello" "draft")]), 1)]

/-- The assistant approves the template, or rejects it. -/
def assistantApproves : Op × Int := (.assistant manager (.approveAsset 1), 2)

def assistantRejects : Op × Int := (.assistant manager (.rejectAsset 1 (some "tone")), 2)

/-- The tools of the assistant set the status and log no decision, whether they approve or
reject. -/
theorem assistant_logs_no_decision :
    let approved := Lib.run Content.step {} (template ++ [assistantApproves])
    let rejected := Lib.run Content.step {} (template ++ [assistantRejects])
    ({} : Db).Fresh ∧
      (∃ a ∈ approved.assets, a.status = .approved ∧ approved.latestDecision? a.id = none) ∧
      ∃ a ∈ rejected.assets, a.status = .rejected ∧ rejected.latestDecision? a.id = none :=
  ⟨⟨rfl, rfl, rfl, rfl⟩, by decide +kernel, by decide +kernel⟩

/-- A reviewer rejects the template and then approves it with an edit. -/
def reviewedTwice : List (Op × Int) :=
  template ++ [(.rejectViaUi manager 1 "tone" .other, 2), (.approveViaUi manager 1 [("edited_content", "final")], 3)]

theorem reviewed_assets_are_logged_twice :
    let reached := Lib.run Content.step {} reviewedTwice
    reached.decisions.length = 2 ∧ ∃ a ∈ reached.assets, a.status = .approved ∧
      ∃ d, reached.latestDecision? a.id = some d ∧ d.decision ∈ [.approved, .approvedWithEdits] := by
  intro reached
  have twice : reached.decisions.length = 2 := by decide +kernel
  have approved : ∃ a ∈ reached.assets, a.status = .approved := by decide +kernel
  obtain ⟨a, member, status⟩ := approved
  have reviews : Along Content.step Op.leavesReview {} reviewedTwice := by decide +kernel
  exact ⟨twice, a, member, status, (reviewed_assets_are_logged ⟨rfl, rfl, rfl, rfl⟩ reviews a member).1 status⟩

end Decisions

end MarketingAgents
