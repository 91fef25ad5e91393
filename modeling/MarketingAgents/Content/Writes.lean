import MarketingAgents.AbTesting.Lifecycle
import MarketingAgents.Agents.SocialDistribution
import MarketingAgents.Content.Moves

namespace MarketingAgents

open Lib PyText

/-- What only some operations do, each to what it was asked for. -/
inductive Cause where
  | completes (campaignId : Uuid)
  | starts (campaignId : Uuid)
  | resumes (campaignId : Uuid)
  | launches (campaignId : Uuid)
  | seeds (campaignId : Uuid)
  | generates (a : ContentAsset) (status : AssetStatus)
  | regenerates (a : ContentAsset)
  | overwrites (a : ContentAsset)
  | creates (a : ContentAsset)
  | approves (a : ContentAsset)
  | rejects (a : ContentAsset)
  | promotes (testId : Uuid)
  | sets (campaignId : Uuid) (status : CampaignStatus)

/-- What no operation changes about a row: where it belongs, what it was
planned for, and that it is not required. -/
structure Traced (old new : ContentAsset) : Prop extends SameRow old new where
  tenantId : new.tenantId = old.tenantId
  touchpoint : new.extraMetadata.get? "touchpoint_id" = old.extraMetadata.get? "touchpoint_id"
  variant : new.extraMetadata.get? "variant_index" = old.extraMetadata.get? "variant_index"
  required : new.isRequired = true → old.isRequired = true

theorem Traced.refl (a : ContentAsset) : Traced a a := ⟨.refl a, rfl, rfl, rfl, id⟩

theorem Traced.trans {a b c : ContentAsset} (first : Traced a b) (last : Traced b c) : Traced a c where
  toSameRow := first.toSameRow.trans last.toSameRow
  tenantId := last.tenantId.trans first.tenantId
  touchpoint := last.touchpoint.trans first.touchpoint
  variant := last.variant.trans first.variant
  required kept := first.required (last.required kept)

theorem Traced.of_merge {old new : ContentAsset} {entries : Dict String Json} (row : SameRow old new)
    (tenantId : new.tenantId = old.tenantId) (metadata : new.extraMetadata = old.extraMetadata.merge entries)
    (other : ∀ entry ∈ entries, entry.1 ∉ ["touchpoint_id", "variant_index"])
    (required : new.isRequired = true → old.isRequired = true) : Traced old new where
  toSameRow := row
  tenantId := tenantId
  touchpoint := by
    rw [metadata]
    exact Dict.get?_merge_of_absent fun entry listed same => other entry listed (by simp [same])
  variant := by
    rw [metadata]
    exact Dict.get?_merge_of_absent fun entry listed same => other entry listed (by simp [same])
  required := required

theorem Traced.of_set {old new : ContentAsset} {key : String} {value : Json} (row : SameRow old new)
    (tenantId : new.tenantId = old.tenantId) (metadata : new.extraMetadata = old.extraMetadata.set key value)
    (other : key ∉ ["touchpoint_id", "variant_index"]) (required : new.isRequired = true → old.isRequired = true) :
    Traced old new := by
  have merged : new.extraMetadata = old.extraMetadata.merge [(key, value)] := metadata
  exact .of_merge row tenantId merged (by simpa using other) required

/-- The changes of a single row that come alone. -/
inductive Edited (may : Cause → Db → Prop) (db : Db) (old new : ContentAsset) : Prop where
  | annotated (traced : Traced old new) (status : new.status = old.status) (shipped : SameShipped old new)
  | generated (traced : Traced old new) (status : new.status ∈ [.failed, .requested, .drafted])
      (asked : may (.generates old new.status) db)
  | overwritten (traced : Traced old new) (status : new.status = .drafted) (asked : may (.overwrites old) db)
  | archived (traced : Traced old new) (status : new.status = .archived) (out : old.status ≠ .published)
      (asked : ∃ testId, may (.promotes testId) db)
  | published (traced : Traced old new) (scheduled : old.status = .scheduled) (status : new.status = .published)
      (shipped : SameShipped old new)
  | revoked (traced : Traced old new) (scheduled : old.status = .scheduled) (status : new.status = .failed)

theorem Edited.traced {may : Cause → Db → Prop} {db : Db} {old new : ContentAsset} (edited : Edited may db old new) :
    Traced old new := by
  cases edited <;> assumption

/-- Where the status moves at all, it moves to one of these, and to `published` from `scheduled` alone. -/
theorem Edited.status {may : Cause → Db → Prop} {db : Db} {old new : ContentAsset} (edited : Edited may db old new) :
    new.status = old.status ∨ new.status ∈ [.failed, .requested, .drafted, .archived] ∨
      old.status = .scheduled ∧ new.status = .published := by
  cases edited with
  | annotated traced status shipped => exact Or.inl status
  | generated traced status asked =>
    have listed : new.status ∈ [.failed, .requested, .drafted] ++ [.archived] := List.mem_append_left _ status
    exact Or.inr (Or.inl listed)
  | overwritten traced status asked | archived traced status out asked | revoked traced scheduled status =>
    exact Or.inr (Or.inl (by simp [status]))
  | published traced scheduled status shipped => exact Or.inr (Or.inr ⟨scheduled, status⟩)

/-- The tables of the pipeline are as they were. -/
structure SameCore (db db' : Db) : Prop where
  campaigns : db'.campaigns = db.campaigns
  assets : db'.assets = db.assets
  tasks : db'.tasks = db.tasks
  decisions : db'.decisions = db.decisions
  abTests : db'.abTests = db.abTests
  abTestAssignments : db'.abTestAssignments = db.abTestAssignments
  approvals : db'.approvals = db.approvals
  statusWrites : db'.statusWrites = db.statusWrites
  nextId : db.nextId ≤ db'.nextId

theorem SameCore.refl (db : Db) : SameCore db db := ⟨rfl, rfl, rfl, rfl, rfl, rfl, rfl, rfl, le_rfl⟩

theorem SameCore.trans {db db' db'' : Db} (first : SameCore db db') (last : SameCore db' db'') : SameCore db db'' where
  campaigns := last.campaigns.trans first.campaigns
  assets := last.assets.trans first.assets
  tasks := last.tasks.trans first.tasks
  decisions := last.decisions.trans first.decisions
  abTests := last.abTests.trans first.abTests
  abTestAssignments := last.abTestAssignments.trans first.abTestAssignments
  approvals := last.approvals.trans first.approvals
  statusWrites := last.statusWrites.trans first.statusWrites
  nextId := first.nextId.trans last.nextId

theorem SameCore.untouched {db db' : Db} (same : SameCore db db') : Untouched db db' :=
  .intro same.campaigns same.assets same.approvals same.statusWrites same.nextId

theorem sameCore_ensureAgent (db : Db) (tenantId : Uuid) (kind : AgentKind) :
    SameCore db (db.ensureAgent tenantId kind).1 := by
  unfold Db.ensureAgent
  split
  · exact .refl db
  · exact ⟨rfl, rfl, rfl, rfl, rfl, rfl, rfl, rfl, Nat.le_succ _⟩

/-- The decision a reviewer's request leaves; the assistant leaves none. -/
def Db.note (db : Db) : Option ApprovalDecisionLog → Db
  | some d => db.insertDecision d
  | none => db

def dispatchSkills : List String := ["distribution.dispatch_email", "distribution.dispatch_social"]

/-- What an endpoint or an evaluation does to the row of a test. -/
inductive TestStep (test test' : AbTest) : Prop where
  | launched (designing : test.status = .designing) (startedAt : Option Int)
      (value : test' = { test with status := .running, startedAt := startedAt })
  | stopped (active : test.status = .designing ∨ test.status = .running) (stoppedAt : Option Int)
      (value : test' = { test with status := .stopped, stoppedAt := stoppedAt })
  | evaluated (running : test.status = .running) (status : AbTestStatus)
      (verdict : status ∈ [.running, .significant, .inconclusive]) (winnerId : Option Uuid) (lastEvaluatedAt : Option Int)
      (value : test' = { test with status := status, winnerId := winnerId, lastEvaluatedAt := lastEvaluatedAt })
  | promoted (significant : test.status = .significant) (split : Json) (value : test' = { test with trafficSplit := split })

section Write

variable [PyText]

/-- The split `create_ab_test` stores: a hundred parts over stored assets of the tenant. -/
def Configured (db : Db) (test : AbTest) : Prop :=
  ∃ split : Dict Uuid Int, test.trafficSplit = .obj (split.map fun entry => (uuidStr entry.1, .int entry.2)) ∧
    (split.map Prod.fst).Nodup ∧ (split.map Prod.snd).sum = 100 ∧ ∀ entry ∈ split, ∃ a ∈ db.assets, a.id = entry.1

/-- One write of an operation, at the instant `now`. What the operation did
around it is another write, unless the tables agree again only with both. -/
inductive Write (may : Cause → Db → Prop) (now : Int) : Db → Db → Prop where
  | side {db db' : Db} (same : SameCore db db') : Write may now db db'
  | task {db db' : Db} {args : EnqueueArgs} (other : args.skillName ∉ dispatchSkills)
      (done : db.enqueue args now = .ok db') : Write may now db db'
  | cancel {db : Db} {c : Campaign} (found : db.campaign? c.id = some c) (paused : c.status = .paused) :
      Write may now db (db.cancelQueued c.id now)
  | found {db : Db} {c : Campaign} (drafted : c.status = .drafted) (fresh : c.id = db.nextId) :
      Write may now db { db with campaigns := db.campaigns ++ [c], nextId := db.nextId + 1 }
  | edit {db : Db} {c c' : Campaign} (member : c ∈ db.campaigns) (sameId : c'.id = c.id)
      (sameStatus : c'.status = c.status) : Write may now db (db.setCampaign c')
  | status {db : Db} {c : Campaign} {after : CampaignStatus} {writer : Writer} (found : db.campaign? c.id = some c)
      (permitted : Permitted c.status after writer) (plain : after ∉ [.approvalPending, .readyToLaunch])
      (live : after = .live → writer = .transition "start_live" ∧ may (.starts c.id) db ∨
        writer = .launchCampaign ∧ may (.launches c.id) db)
      (completed : after = .completed → may (.completes c.id) db)
      (direct : ¬ Registered c.status after → may (.sets c.id after) db) :
      Write may now db (db.writeStatus c.id after writer)
  | submit {db : Db} {c : Campaign} (found : db.campaign? c.id = some c) (producing : c.status = .contentInProduction)
      (drafted : Guard.allRequiredAssetsDrafted.holds db c now = true) :
      Write may now db (flipDraftedAssetsToPendingApproval
        (db.writeStatus c.id .approvalPending (.transition "submit_for_approval")) { c with status := .approvalPending } now)
  | launch {db db' : Db} {c : Campaign} (found : db.campaign? c.id = some c) (pending : c.status = .approvalPending)
      (done : scheduleApprovedAssets (db.writeStatus c.id .readyToLaunch (.transition "start_launch"))
        { c with status := .readyToLaunch } now = .ok db') : Write may now db db'
  | resume {db db' : Db} {c : Campaign} (found : db.campaign? c.id = some c) (paused : c.status = .paused)
      (asked : may (.resumes c.id) db)
      (done : resumeDistributionForCampaign (db.writeStatus c.id .live (.transition "resume"))
        { c with status := .live } now = .ok db') : Write may now db db'
  | seed {db db' : Db} {c : Campaign} {ids : List Uuid} (asked : may (.seeds c.id) db)
      (done : seedAssetsForCampaign db c now = .ok (db', ids)) : Write may now db db'
  | rewrite {db : Db} {old new : ContentAsset} (here : old ∈ db.assets) (edited : Edited may db old new) :
      Write may now db (db.setAsset new)
  | regenerate {db db' : Db} {a : ContentAsset} {c : Campaign} {args : EnqueueArgs} (here : a ∈ db.assets)
      (campaign : db.campaign? a.campaignId = some c) (producing : c.status ∈ [.contentInProduction, .approvalPending])
      (skill : args.skillName = "content_creator.generate_asset") (owner : args.campaignId = some a.campaignId)
      (named : args.inputData.get? "asset_id" = some (.str (uuidStr a.id))) (unkeyed : args.idempotencyKey = none)
      (done : ((db.setAsset { a with status := .requested }).ensureAgent a.tenantId .contentCreator).1.enqueue args now =
        .ok db') (asked : may (.regenerates a) db) : Write may now db db'
  | approve {db : Db} {old new : ContentAsset} {path : ApprovalPath} {role : UserRole}
      {d : Option ApprovalDecisionLog} (vetted : Vetted db old new path role) (traced : Traced old new)
      (status : old.status ∈ [.drafted, .pendingApproval, .rejected])
      (logged : ∀ row ∈ d, row.contentAssetId = old.id ∧ row.decision ∈ [.approved, .approvedWithEdits])
      (silent : d = none → may (.approves old) db)
      (assistant : path ∈ [.assistant, .assistantAll] → may (.approves old) db) :
      Write may now db ((db.note d).writeApproved new path role)
  | reject {db : Db} {old new : ContentAsset} {d : Option ApprovalDecisionLog} (here : old ∈ db.assets)
      (traced : Traced old new) (status : old.status ∈ [.drafted, .pendingApproval]) (rejected : new.status = .rejected)
      (logged : ∀ row ∈ d, row.contentAssetId = old.id ∧ row.decision = .rejected)
      (silent : d = none → may (.rejects old) db) : Write may now db ((db.note d).setAsset new)
  | create {db : Db} {a : ContentAsset} (status : a.status ∈ [.requested, .drafted]) (asked : may (.creates a) db) :
      Write may now db (db.insertAsset a)
  | ledger {db : Db} {secret : String} {plan : EmailPlan} {a : ContentAsset} {c : Campaign}
      {result : Option DispatchResult} (planned : planEmail db secret a c now = .ok plan) :
      Write may now db (db.recordEmail plan result now)
  | newTest {db : Db} {test : AbTest} (fresh : test.id = db.nextId) (designing : test.status = .designing)
      (undecided : test.winnerId = none) (configured : Configured db test) :
      Write may now db { db with abTests := db.abTests ++ [test], nextId := db.nextId + 1 }
  | setTest {db : Db} {test test' : AbTest} (found : db.abTest? test.id = some test) (step : TestStep test test')
      (split : test'.trafficSplit = test.trafficSplit ∨ Configured db test') : Write may now db (db.setAbTest test')

abbrev Writes (may : Cause → Db → Prop) (now : Int) : Db → Db → Prop := Relation.ReflTransGen (Write may now)

end Write

end MarketingAgents
