import MarketingAgents.Content.Operations
import MarketingAgents.Orchestrator.QueueSteps

namespace MarketingAgents

open Lib PyText

/-- What is planned for one tenant. A proposal is the tenant's through its
campaign, a touchpoint through its proposal and a member through its audience. -/
structure PlansView where
  proposals : List StrategyProposal
  touchpoints : List StrategyTouchpoint
  audiences : List Audience
  audienceMembers : List AudienceMember
deriving DecidableEq

/-- What the pipeline holds of one tenant. A decision is the tenant's whose asset was decided on. -/
structure TenantView where
  campaigns : List Campaign
  plans : PlansView
  assets : List ContentAsset
  tasks : List Task
  abTests : List AbTest
  agents : List Agent
  decisions : List ApprovalDecisionLog
  abTestAssignments : List AbTestAssignment
  dispatchAttempts : List DispatchAttempt
  approvalSettings : List TenantApprovalSettings
deriving DecidableEq

def Db.ownsCampaign (db : Db) (tenantId campaignId : Uuid) : Bool := (db.campaign? campaignId).any (·.tenantId = tenantId)

def Db.ownsProposal (db : Db) (tenantId proposalId : Uuid) : Bool :=
  (db.proposals.find? (·.id = proposalId)).any fun p => db.ownsCampaign tenantId p.campaignId

def Db.ownsAudience (db : Db) (tenantId audienceId : Uuid) : Bool :=
  (db.audiences.find? (·.id = audienceId)).any (·.tenantId = tenantId)

def Db.plansOf (db : Db) (tenantId : Uuid) : PlansView where
  proposals := db.proposals.filter fun p => db.ownsCampaign tenantId p.campaignId
  touchpoints := db.touchpoints.filter fun tp => db.ownsProposal tenantId tp.proposalId
  audiences := db.audiences.filter (·.tenantId = tenantId)
  audienceMembers := db.audienceMembers.filter fun m => db.ownsAudience tenantId m.audienceId

def Db.viewOf (db : Db) (tenantId : Uuid) : TenantView where
  campaigns := db.campaigns.filter (·.tenantId = tenantId)
  plans := db.plansOf tenantId
  assets := db.assets.filter (·.tenantId = tenantId)
  tasks := db.tasks.filter (·.tenantId = tenantId)
  abTests := db.abTests.filter (·.tenantId = tenantId)
  agents := db.agents.filter (·.tenantId = tenantId)
  decisions := db.decisions.filter fun d => (db.asset? d.contentAssetId).any (·.tenantId = tenantId)
  abTestAssignments := db.abTestAssignments.filter (·.tenantId = tenantId)
  dispatchAttempts := db.dispatchAttempts.filter (·.tenantId = tenantId)
  approvalSettings := db.approvalSettings.filter (·.tenantId = tenantId)

/-- The tenant has a campaign with this id. -/
def Db.Runs (db : Db) (tenantId campaignId : Uuid) : Prop :=
  ∃ c ∈ db.campaigns, c.id = campaignId ∧ c.tenantId = tenantId

/-- The tenant has an asset with this id in the campaign. -/
def Db.Holds (db : Db) (tenantId campaignId assetId : Uuid) : Prop :=
  ∃ a ∈ db.assets, a.id = assetId ∧ a.campaignId = campaignId ∧ a.tenantId = tenantId

/-- The tenant has a proposal with this id, for a campaign of its own. -/
def Db.Proposes (db : Db) (tenantId proposalId : Uuid) : Prop :=
  ∃ p ∈ db.proposals, p.id = proposalId ∧ db.Runs tenantId p.campaignId

/-- The tenant has an audience with this id. -/
def Db.Gathers (db : Db) (tenantId audienceId : Uuid) : Prop :=
  ∃ a ∈ db.audiences, a.id = audienceId ∧ a.tenantId = tenantId

/-- The tenant has a test with this id. -/
def Db.Tests (db : Db) (tenantId abTestId : Uuid) : Prop :=
  ∃ test ∈ db.abTests, test.id = abTestId ∧ test.tenantId = tenantId

/-- What is planned refers to rows of its own tenant. -/
structure Db.PlansOwned (db : Db) : Prop where
  proposalIds : (db.proposals.map StrategyProposal.id).Nodup
  proposalsBelow : ∀ p ∈ db.proposals, p.id < db.nextId
  proposed : ∀ p ∈ db.proposals, ∃ tenantId, db.Runs tenantId p.campaignId
  planned : ∀ tp ∈ db.touchpoints, ∃ tenantId, db.Proposes tenantId tp.proposalId
  audienceIds : (db.audiences.map Audience.id).Nodup
  audiencesBelow : ∀ a ∈ db.audiences, a.id < db.nextId
  gathered : ∀ a ∈ db.audiences, db.Runs a.tenantId a.campaignId
  joined : ∀ m ∈ db.audienceMembers, ∃ tenantId, db.Gathers tenantId m.audienceId

/-- Every row refers to rows of its own tenant. -/
structure Db.Owned (db : Db) : Prop extends Db.Wf db, Db.PlansOwned db where
  testIds : (db.abTests.map AbTest.id).Nodup
  testsBelow : ∀ test ∈ db.abTests, test.id < db.nextId
  home : ∀ a ∈ db.assets, db.Runs a.tenantId a.campaignId
  queued : ∀ task ∈ db.tasks, ∀ id ∈ task.campaignId, db.Runs task.tenantId id
  tested : ∀ test ∈ db.abTests, db.Runs test.tenantId test.campaignId
  assigned : ∀ row ∈ db.abTestAssignments, db.Tests row.tenantId row.abTestId
  decided : ∀ d ∈ db.decisions, ∃ tenantId campaignId, db.Holds tenantId campaignId d.contentAssetId
  attempted : ∀ row ∈ db.dispatchAttempts, ∃ campaignId, db.Holds row.tenantId campaignId row.contentAssetId

/-- What is planned is as it was. -/
structure SamePlans (db db' : Db) : Prop where
  proposals : db'.proposals = db.proposals
  touchpoints : db'.touchpoints = db.touchpoints
  audiences : db'.audiences = db.audiences
  audienceMembers : db'.audienceMembers = db.audienceMembers

namespace Db

variable {db db' : Db} {tenantId other campaignId assetId : Uuid}

theorem Owned.one_runner (owned : db.Owned) (runs : db.Runs tenantId campaignId) (runs' : db.Runs other campaignId) :
    tenantId = other := by
  obtain ⟨c, here, same, rfl⟩ := runs
  obtain ⟨d, there, same', rfl⟩ := runs'
  rw [eq_of_key_eq owned.campaignIds here there (same.trans same'.symm)]

theorem Owned.one_holder (owned : db.Owned) (holds : db.Holds tenantId campaignId assetId) {a : ContentAsset}
    (member : a ∈ db.assets) (same : a.id = assetId) : a.tenantId = tenantId ∧ a.campaignId = campaignId := by
  obtain ⟨b, here, same', home, mine⟩ := holds
  have equal : a = b := eq_of_key_eq owned.assetIds member here (same.trans same'.symm)
  exact ⟨equal ▸ mine, equal ▸ home⟩
theorem holds_of_mem {a : ContentAsset} (member : a ∈ db.assets) : db.Holds a.tenantId a.campaignId a.id :=
  ⟨a, member, rfl, rfl, rfl⟩

theorem runs_of_mem {c : Campaign} (member : c ∈ db.campaigns) : db.Runs c.tenantId c.id := ⟨c, member, rfl, rfl⟩

theorem runs_of_found {c : Campaign} {id : Uuid} (found : db.campaign? id = some c) : db.Runs c.tenantId id := by
  obtain ⟨member, same⟩ := Db.campaign?_mem found
  exact ⟨c, member, same, rfl⟩

theorem runs_of_tenantCampaign? {user : AppUser} {c : Campaign} {id : Uuid} (found : db.tenantCampaign? user id = some c) :
    db.Runs user.tenantId c.id ∧ c.tenantId = user.tenantId ∧ c.id = id := by
  obtain ⟨here, mine⟩ := Option.filter_eq_some_iff.mp found
  obtain ⟨member, same⟩ := Db.campaign?_mem here
  have mine : c.tenantId = user.tenantId := of_decide_eq_true mine
  exact ⟨⟨c, member, rfl, mine⟩, mine, same⟩

theorem holds_of_tenantAsset? {user : AppUser} {a : ContentAsset} {id : Uuid} (found : db.tenantAsset? user id = some a) :
    db.Holds user.tenantId a.campaignId a.id ∧ a.tenantId = user.tenantId := by
  obtain ⟨here, mine⟩ := Option.filter_eq_some_iff.mp found
  obtain ⟨member, same⟩ := Db.asset?_mem here
  have mine : a.tenantId = user.tenantId := of_decide_eq_true mine
  exact ⟨⟨a, member, rfl, rfl, mine⟩, mine⟩

theorem Owned.runs_of_holds (owned : db.Owned) (holds : db.Holds tenantId campaignId assetId) :
    db.Runs tenantId campaignId := by
  obtain ⟨a, member, _, rfl, rfl⟩ := holds
  exact owned.home a member

theorem Owned.holds_of_campaign (owned : db.Owned) (runs : db.Runs tenantId campaignId) {a : ContentAsset}
    (member : a ∈ db.campaignAssets campaignId) : db.Holds tenantId a.campaignId a.id ∧ a.tenantId = tenantId := by
  obtain ⟨here, home⟩ := List.mem_filter.mp member
  have home : a.campaignId = campaignId := of_decide_eq_true home
  have mine : a.tenantId = tenantId := owned.one_runner (home ▸ owned.home a here) runs
  exact ⟨⟨a, here, rfl, rfl, mine⟩, mine⟩

theorem Owned.asset?_any (owned : db.Owned) {id : Uuid} (holds : db.Holds tenantId campaignId id) (s : Uuid) :
    (db.asset? id).any (·.tenantId = s) = decide (tenantId = s) := by
  obtain ⟨a, member, rfl, _, rfl⟩ := holds
  have found : db.asset? a.id = some a := find?_key_eq ContentAsset.id owned.assetIds member
  rw [found]
  rfl

theorem Owned.ownsCampaign_eq (owned : db.Owned) (runs : db.Runs tenantId campaignId) (s : Uuid) :
    db.ownsCampaign s campaignId = decide (tenantId = s) := by
  obtain ⟨c, member, rfl, rfl⟩ := runs
  have found : db.campaign? c.id = some c := find?_key_eq Campaign.id owned.campaignIds member
  rw [Db.ownsCampaign, found]
  rfl

theorem Owned.ownsProposal_eq (owned : db.Owned) {id : Uuid} (proposes : db.Proposes tenantId id) (s : Uuid) :
    db.ownsProposal s id = decide (tenantId = s) := by
  obtain ⟨p, member, rfl, runs⟩ := proposes
  rw [Db.ownsProposal, find?_key_eq StrategyProposal.id owned.proposalIds member]
  exact owned.ownsCampaign_eq runs s

theorem Owned.ownsAudience_eq (owned : db.Owned) {id : Uuid} (gathers : db.Gathers tenantId id) (s : Uuid) :
    db.ownsAudience s id = decide (tenantId = s) := by
  obtain ⟨a, member, rfl, rfl⟩ := gathers
  rw [Db.ownsAudience, find?_key_eq Audience.id owned.audienceIds member]
  rfl

/-- A decision stays with the tenant of its asset. -/
theorem Owned.decisions_kept (owned : db.Owned) (owned' : db'.Owned)
    (holds : ∀ s campaignId assetId, db.Holds s campaignId assetId → db'.Holds s campaignId assetId) (s : Uuid) :
    (db.decisions.filter fun d => (db'.asset? d.contentAssetId).any (·.tenantId = s)) =
      db.decisions.filter fun d => (db.asset? d.contentAssetId).any (·.tenantId = s) := by
  refine List.filter_congr fun d member => ?_
  obtain ⟨t, home, held⟩ := owned.decided d member
  rw [owned.asset?_any held, owned'.asset?_any (holds t home _ held)]

theorem Proposes.kept {id : Uuid} (proposes : db.Proposes tenantId id) (same : db'.proposals = db.proposals)
    (runs : ∀ s campaignId, db.Runs s campaignId → db'.Runs s campaignId) : db'.Proposes tenantId id := by
  obtain ⟨p, member, named, run⟩ := proposes
  exact ⟨p, same ▸ member, named, runs _ _ run⟩

theorem PlansOwned.kept (plans : db.PlansOwned) (same : SamePlans db db')
    (runs : ∀ s campaignId, db.Runs s campaignId → db'.Runs s campaignId) (grown : db.nextId ≤ db'.nextId) :
    db'.PlansOwned where
  proposalIds := same.proposals ▸ plans.proposalIds
  proposalsBelow p member := (plans.proposalsBelow p (same.proposals ▸ member)).trans_le grown
  proposed p member := (plans.proposed p (same.proposals ▸ member)).imp fun s run => runs s _ run
  planned tp member :=
    (plans.planned tp (same.touchpoints ▸ member)).imp fun s proposes => proposes.kept same.proposals runs
  audienceIds := same.audiences ▸ plans.audienceIds
  audiencesBelow a member := (plans.audiencesBelow a (same.audiences ▸ member)).trans_le grown
  gathered a member := runs _ _ (plans.gathered a (same.audiences ▸ member))
  joined m member := by
    obtain ⟨s, a, listed, row⟩ := plans.joined m (same.audienceMembers ▸ member)
    exact ⟨s, a, same.audiences ▸ listed, row⟩

/-- A touchpoint stays with the tenant of its proposal. -/
theorem Owned.touchpoints_kept (owned : db.Owned) (owned' : db'.Owned)
    (proposes : ∀ s proposalId, db.Proposes s proposalId → db'.Proposes s proposalId) (s : Uuid) :
    (db.touchpoints.filter fun tp => db'.ownsProposal s tp.proposalId) =
      db.touchpoints.filter fun tp => db.ownsProposal s tp.proposalId := by
  refine List.filter_congr fun tp member => ?_
  obtain ⟨t, named⟩ := owned.planned tp member
  rw [owned.ownsProposal_eq named, owned'.ownsProposal_eq (proposes t _ named)]

/-- What is planned stays with its tenant while the campaigns keep theirs. -/
theorem Owned.plans_kept (owned : db.Owned) (owned' : db'.Owned) (same : SamePlans db db')
    (runs : ∀ s campaignId, db.Runs s campaignId → db'.Runs s campaignId) (s : Uuid) : db'.plansOf s = db.plansOf s := by
  have proposals : (db.proposals.filter fun p => db'.ownsCampaign s p.campaignId) =
      db.proposals.filter fun p => db.ownsCampaign s p.campaignId := by
    refine List.filter_congr fun p member => ?_
    obtain ⟨t, run⟩ := owned.proposed p member
    rw [owned.ownsCampaign_eq run, owned'.ownsCampaign_eq (runs t _ run)]
  have touchpoints := owned.touchpoints_kept owned' (fun _ _ proposes => proposes.kept same.proposals runs) s
  simp only [Db.plansOf, same.proposals, same.touchpoints, same.audiences, same.audienceMembers, proposals, touchpoints,
    Db.ownsAudience]

end Db

/-- Campaigns, assets, tests, tasks and decisions are as they were. -/
structure SameRows (db db' : Db) : Prop where
  campaigns : db'.campaigns = db.campaigns
  assets : db'.assets = db.assets
  tasks : db'.tasks = db.tasks
  abTests : db'.abTests = db.abTests
  decisions : db'.decisions = db.decisions
  nextId : db.nextId ≤ db'.nextId

namespace SameRows

variable {db db' : Db}

theorem runs (rows : SameRows db db') (s campaignId : Uuid) (runs : db.Runs s campaignId) :
    db'.Runs s campaignId := by
  obtain ⟨c, member, row⟩ := runs
  exact ⟨c, rows.campaigns ▸ member, row⟩

theorem holds (rows : SameRows db db') (s campaignId assetId : Uuid) (holds : db.Holds s campaignId assetId) :
    db'.Holds s campaignId assetId := by
  obtain ⟨a, member, row⟩ := holds
  exact ⟨a, rows.assets ▸ member, row⟩

theorem owned (rows : SameRows db db') (owned : db.Owned) (plans : db'.PlansOwned)
    (assigned : ∀ row ∈ db'.abTestAssignments, db.Tests row.tenantId row.abTestId)
    (attempted : ∀ row ∈ db'.dispatchAttempts, ∃ campaignId, db.Holds row.tenantId campaignId row.contentAssetId) :
    db'.Owned where
  toPlansOwned := plans
  assetIds := rows.assets ▸ owned.assetIds
  assetsBelow a member := (owned.assetsBelow a (rows.assets ▸ member)).trans_le rows.nextId
  campaignIds := rows.campaigns ▸ owned.campaignIds
  campaignsBelow c member := (owned.campaignsBelow c (rows.campaigns ▸ member)).trans_le rows.nextId
  testIds := rows.abTests ▸ owned.testIds
  testsBelow test member := (owned.testsBelow test (rows.abTests ▸ member)).trans_le rows.nextId
  home a member := rows.runs _ _ (owned.home a (rows.assets ▸ member))
  queued task member id named := rows.runs _ _ (owned.queued task (rows.tasks ▸ member) id named)
  tested test member := rows.runs _ _ (owned.tested test (rows.abTests ▸ member))
  assigned row member := by
    obtain ⟨test, here, same⟩ := assigned row member
    exact ⟨test, rows.abTests ▸ here, same⟩
  decided d member := by
    obtain ⟨s, home, held⟩ := owned.decided d (rows.decisions ▸ member)
    exact ⟨s, home, rows.holds s home _ held⟩
  attempted row member := (attempted row member).imp fun home held => rows.holds _ home _ held

end SameRows

/-- What a step of the tenant leaves: the rows still refer to rows of their own
tenant, and every other tenant has what it had. -/
structure Confined (tenantId : Uuid) (db db' : Db) : Prop where
  owned : db'.Owned
  others : ∀ s, s ≠ tenantId → db'.viewOf s = db.viewOf s
  runs : ∀ s campaignId, db.Runs s campaignId → db'.Runs s campaignId
  holds : ∀ s campaignId assetId, db.Holds s campaignId assetId → db'.Holds s campaignId assetId
  proposes : ∀ s proposalId, db.Proposes s proposalId → db'.Proposes s proposalId

namespace Confined

variable {tenantId : Uuid} {db mid db' : Db}

theorem refl (owned : db.Owned) : Confined tenantId db db :=
  ⟨owned, fun _ _ => rfl, fun _ _ => id, fun _ _ _ => id, fun _ _ => id⟩

theorem trans (first : Confined tenantId db mid) (last : Confined tenantId mid db') : Confined tenantId db db' where
  owned := last.owned
  others s other := (last.others s other).trans (first.others s other)
  runs s id runs := last.runs s id (first.runs s id runs)
  holds s id assetId holds := last.holds s id assetId (first.holds s id assetId holds)
  proposes s id proposes := last.proposes s id (first.proposes s id proposes)

/-- The rows with this id are rewritten in place; they are the tenant's and stay it. -/
theorem rewrite (owned : db.Owned) {campaignId id : Uuid} (held : db.Holds tenantId campaignId id)
    {f : ContentAsset → ContentAsset} (sameId : ∀ b, b.id = id → (f b).id = id)
    (keep : ∀ b, b.campaignId = campaignId → b.tenantId = tenantId →
      (f b).campaignId = campaignId ∧ (f b).tenantId = tenantId) :
    Confined tenantId db { db with assets := updateWhere (·.id = id) f db.assets } := by
  have row : ∀ b ∈ db.assets, b.id = id → (f b).campaignId = b.campaignId ∧ (f b).tenantId = b.tenantId := by
    intro b member same
    obtain ⟨mine, home⟩ := owned.one_holder held member same
    rw [home, mine]
    exact keep b home mine
  have holds : ∀ s campaignId assetId, db.Holds s campaignId assetId →
      Db.Holds { db with assets := updateWhere (·.id = id) f db.assets } s campaignId assetId := by
    rintro s _ _ ⟨b, member, rfl, rfl, rfl⟩
    by_cases hit : b.id = id
    · obtain ⟨home, mine⟩ := row b member hit
      exact ⟨f b, mem_updateWhere.mpr (Or.inl ⟨b, member, decide_eq_true hit, rfl⟩), (sameId b hit).trans hit.symm, home, mine⟩
    · exact ⟨b, mem_updateWhere.mpr (Or.inr ⟨member, decide_eq_false hit⟩), rfl, rfl, rfl⟩
  have ids : (updateWhere (·.id = id) f db.assets).map ContentAsset.id = db.assets.map ContentAsset.id :=
    updateWhere_keys ContentAsset.id db.assets fun b hit =>
      (sameId b (of_decide_eq_true hit)).trans (of_decide_eq_true hit).symm
  have owned' : Db.Owned { db with assets := updateWhere (·.id = id) f db.assets } := by
    refine ⟨owned.toWf.of_ids ids rfl rfl, owned.toPlansOwned.kept ⟨rfl, rfl, rfl, rfl⟩ (fun _ _ runs => runs) le_rfl,
      owned.testIds, owned.testsBelow, fun b member => ?_, owned.queued, owned.tested, owned.assigned,
      fun d member => ?_, fun row member => (owned.attempted row member).imp fun home held => holds _ home _ held⟩
    · rcases mem_updateWhere.mp member with ⟨old, here, hit, rfl⟩ | ⟨here, _⟩
      · obtain ⟨home, mine⟩ := row old here (of_decide_eq_true hit)
        rw [home, mine]
        exact owned.home old here
      · exact owned.home b here
    · obtain ⟨s, home, held⟩ := owned.decided d member
      exact ⟨s, home, holds s home _ held⟩
  refine ⟨owned', fun s other => ?_, fun _ _ runs => runs, holds, fun _ _ proposes => proposes⟩
  have assets : (updateWhere (·.id = id) f db.assets).filter (·.tenantId = s) = db.assets.filter (·.tenantId = s) := by
    refine filter_updateWhere fun b member hit => ?_
    obtain ⟨mine, _⟩ := owned.one_holder held member (of_decide_eq_true hit)
    have still := (row b member (of_decide_eq_true hit)).2
    exact ⟨decide_eq_false (mine ▸ other.symm), decide_eq_false ((still.trans mine).symm ▸ other.symm)⟩
  have decisions := owned.decisions_kept owned' holds s
  exact congrArg₂ (fun rows log => { db.viewOf s with assets := rows, decisions := log }) assets decisions

theorem setAsset (owned : db.Owned) {a : ContentAsset} (held : db.Holds tenantId a.campaignId a.id)
    (mine : a.tenantId = tenantId) : Confined tenantId db (db.setAsset a) :=
  rewrite owned held (fun _ _ => rfl) fun _ _ _ => ⟨rfl, mine⟩

theorem insertAsset (owned : db.Owned) {a : ContentAsset} (runs : db.Runs tenantId a.campaignId)
    (mine : a.tenantId = tenantId) : Confined tenantId db (db.insertAsset a) := by
  have holds : ∀ s campaignId assetId, db.Holds s campaignId assetId → (db.insertAsset a).Holds s campaignId assetId :=
    fun s campaignId assetId ⟨b, member, row⟩ => ⟨b, List.mem_append_left _ member, row⟩
  have owned' : (db.insertAsset a).Owned := by
    refine ⟨owned.toWf.insertAsset a, owned.toPlansOwned.kept ⟨rfl, rfl, rfl, rfl⟩ (fun _ _ runs => runs) (Nat.le_succ _),
      owned.testIds, fun test member => (owned.testsBelow test member).trans (Nat.lt_succ_self _), fun b member => ?_,
      owned.queued, owned.tested, owned.assigned, fun d member => ?_,
      fun row member => (owned.attempted row member).imp fun home held => holds _ home _ held⟩
    · rcases List.mem_append.mp member with old | new
      · exact owned.home b old
      · rw [List.mem_singleton.mp new]
        exact mine ▸ runs
    · obtain ⟨s, home, held⟩ := owned.decided d member
      exact ⟨s, home, holds s home _ held⟩
  refine ⟨owned', fun s other => ?_, fun _ _ runs => runs, holds, fun _ _ proposes => proposes⟩
  have assets : (db.insertAsset a).assets.filter (·.tenantId = s) = db.assets.filter (·.tenantId = s) := by
    simp [Db.insertAsset, List.filter_append, mine, other.symm]
  have decisions := owned.decisions_kept owned' holds s
  exact congrArg₂ (fun rows log => { db.viewOf s with assets := rows, decisions := log }) assets decisions

/-- No asset or decision changes and nothing is planned, and the other tables change in rows of the tenant. -/
theorem of_tables (owned : db.Owned) (owned' : db'.Owned) (assets : db'.assets = db.assets)
    (decisions : db'.decisions = db.decisions) (same : SamePlans db db')
    (campaigns : ∀ s, s ≠ tenantId → db'.campaigns.filter (·.tenantId = s) = db.campaigns.filter (·.tenantId = s))
    (runs : ∀ s campaignId, db.Runs s campaignId → db'.Runs s campaignId)
    (tasks : ∀ s, s ≠ tenantId → db'.tasks.filter (·.tenantId = s) = db.tasks.filter (·.tenantId = s))
    (abTests : ∀ s, s ≠ tenantId → db'.abTests.filter (·.tenantId = s) = db.abTests.filter (·.tenantId = s))
    (rest : ∀ s, s ≠ tenantId → db'.agents.filter (·.tenantId = s) = db.agents.filter (·.tenantId = s) ∧
      db'.abTestAssignments.filter (·.tenantId = s) = db.abTestAssignments.filter (·.tenantId = s) ∧
      db'.dispatchAttempts.filter (·.tenantId = s) = db.dispatchAttempts.filter (·.tenantId = s) ∧
      db'.approvalSettings.filter (·.tenantId = s) = db.approvalSettings.filter (·.tenantId = s)) :
    Confined tenantId db db' where
  owned := owned'
  others s other := by
    obtain ⟨agents, assignments, attempts, settings⟩ := rest s other
    have plans := owned.plans_kept owned' same runs s
    simp only [Db.viewOf, Db.asset?, assets, decisions, campaigns s other, plans, tasks s other, abTests s other, agents,
      assignments, attempts, settings]
  runs := runs
  holds s campaignId assetId held := by
    obtain ⟨a, member, row⟩ := held
    exact ⟨a, assets ▸ member, row⟩
  proposes s proposalId proposes := proposes.kept same.proposals runs

/-- Agents, ledgers and settings change in rows of the tenant. -/
theorem of_core (owned : db.Owned) (rows : SameRows db db') (same : SamePlans db db')
    (assigned : ∀ row ∈ db'.abTestAssignments, db.Tests row.tenantId row.abTestId)
    (attempted : ∀ row ∈ db'.dispatchAttempts, ∃ campaignId, db.Holds row.tenantId campaignId row.contentAssetId)
    (rest : ∀ s, s ≠ tenantId → db'.agents.filter (·.tenantId = s) = db.agents.filter (·.tenantId = s) ∧
      db'.abTestAssignments.filter (·.tenantId = s) = db.abTestAssignments.filter (·.tenantId = s) ∧
      db'.dispatchAttempts.filter (·.tenantId = s) = db.dispatchAttempts.filter (·.tenantId = s) ∧
      db'.approvalSettings.filter (·.tenantId = s) = db.approvalSettings.filter (·.tenantId = s)) :
    Confined tenantId db db' := by
  have plans : db'.PlansOwned := owned.toPlansOwned.kept same rows.runs rows.nextId
  exact of_tables owned (rows.owned owned plans assigned attempted) rows.assets rows.decisions same
    (fun s _ => by rw [rows.campaigns]) rows.runs (fun s _ => by rw [rows.tasks]) (fun s _ => by rw [rows.abTests]) rest

/-- The tenant plans: nothing else changes. -/
theorem of_plans (owned : db.Owned) (rows : SameRows db db') (plans : db'.PlansOwned)
    (kept : db'.agents = db.agents ∧ db'.abTestAssignments = db.abTestAssignments ∧
      db'.dispatchAttempts = db.dispatchAttempts ∧ db'.approvalSettings = db.approvalSettings)
    (proposes : ∀ s proposalId, db.Proposes s proposalId → db'.Proposes s proposalId)
    (others : db'.Owned → ∀ s, s ≠ tenantId → db'.plansOf s = db.plansOf s) : Confined tenantId db db' := by
  obtain ⟨agents, assignments, attempts, settings⟩ := kept
  have owned' : db'.Owned := rows.owned owned plans (assignments ▸ owned.assigned) (attempts ▸ owned.attempted)
  refine ⟨owned', fun s other => ?_, rows.runs, rows.holds, proposes⟩
  simp only [Db.viewOf, Db.asset?, others owned' s other, rows.campaigns, rows.assets, rows.tasks, rows.abTests, rows.decisions,
    agents, assignments, attempts, settings]

theorem ensureAgent (owned : db.Owned) {owner : Uuid} (mine : owner = tenantId) (kind : AgentKind) :
    Confined tenantId db (db.ensureAgent owner kind).1 := by
  subst mine
  unfold Db.ensureAgent
  split
  · exact refl owned
  · refine of_core owned ⟨rfl, rfl, rfl, rfl, rfl, Nat.le_succ _⟩ ⟨rfl, rfl, rfl, rfl⟩ owned.assigned owned.attempted
      fun s other => ⟨?_, rfl, rfl, rfl⟩
    simp [List.filter_append, other.symm]

/-- Tasks come or change, each of the tenant and for one of its campaigns. -/
theorem of_tasks (owned : db.Owned) {tasks : List Task} {nextId : Uuid} (grown : db.nextId ≤ nextId)
    (queued : ∀ task ∈ tasks, ∀ id ∈ task.campaignId, db.Runs task.tenantId id)
    (others : ∀ s, s ≠ tenantId → tasks.filter (·.tenantId = s) = db.tasks.filter (·.tenantId = s)) :
    Confined tenantId db { db with tasks := tasks, nextId := nextId } := by
  refine of_tables owned ⟨⟨owned.assetIds, ?_, owned.campaignIds, ?_⟩,
    owned.toPlansOwned.kept ⟨rfl, rfl, rfl, rfl⟩ (fun _ _ runs => runs) grown, owned.testIds, ?_, owned.home, queued,
    owned.tested, owned.assigned, owned.decided, owned.attempted⟩ rfl rfl ⟨rfl, rfl, rfl, rfl⟩ (fun _ _ => rfl)
    (fun _ _ runs => runs) others (fun _ _ => rfl) fun _ _ => ⟨rfl, rfl, rfl, rfl⟩
  · exact fun a member => (owned.assetsBelow a member).trans_le grown
  · exact fun c member => (owned.campaignsBelow c member).trans_le grown
  · exact fun test member => (owned.testsBelow test member).trans_le grown

/-- A task of the tenant for one of its campaigns, or for none. -/
theorem enqueue (owned : db.Owned) {args : EnqueueArgs} {now : Int} (mine : args.tenantId = tenantId)
    (runs : ∀ id ∈ args.campaignId, db.Runs tenantId id) (done : db.enqueue args now = .ok db') :
    Confined tenantId db db' := by
  unfold Db.enqueue at done
  split at done
  · rename_i tasks task queued
    cases Except.ok.inj done
    have stepped : Queue.step db.tasks (.enqueue args db.nextId now) = tasks := by simp only [Queue.step, queued]
    rcases Queue.enqueue_eq db.tasks args db.nextId now with same | ⟨_, added⟩
    · have tasksSame : tasks = db.tasks := stepped.symm.trans same
      exact of_tasks owned (Nat.le_succ _) (tasksSame ▸ owned.queued) fun s _ => by rw [tasksSame]
    · have tasksAdded : tasks = db.tasks ++ [Queue.newTask args db.nextId now] := stepped.symm.trans added
      refine of_tasks owned (Nat.le_succ _) (fun t member id named => ?_) fun s other => ?_
      · rcases List.mem_append.mp (tasksAdded ▸ member) with old | new
        · exact owned.queued t old id named
        · cases List.mem_singleton.mp new
          have owner : (Queue.newTask args db.nextId now).tenantId = tenantId := mine
          exact owner.symm ▸ runs id named
      · have foreign : (Queue.newTask args db.nextId now).tenantId ≠ s := fun same => other (same.symm.trans mine)
        rw [tasksAdded, List.filter_append, List.filter_cons_of_neg (by simpa using foreign), List.filter_nil, List.append_nil]
  · cases done

theorem cancelQueued (owned : db.Owned) {campaignId : Uuid} (runs : db.Runs tenantId campaignId) (now : Int) :
    Confined tenantId db (db.cancelQueued campaignId now) := by
  refine of_tasks owned le_rfl (fun t member id named => ?_) fun s other => filter_updateWhere fun t member hit => ?_
  · rcases mem_updateWhere.mp member with ⟨old, here, _, rfl⟩ | ⟨here, _⟩
    · exact owned.queued old here id named
    · exact owned.queued t here id named
  · have named : t.campaignId = some campaignId := of_decide_eq_true (Bool.and_eq_true_iff.mp hit).1
    have mine : t.tenantId = tenantId := owned.one_runner (owned.queued t member campaignId named) runs
    exact ⟨decide_eq_false (mine ▸ other.symm), decide_eq_false (mine ▸ other.symm)⟩

/-- Campaigns of the tenant change, and keep their ids and owner. -/
theorem of_campaigns (owned : db.Owned) {id : Uuid} {f : Campaign → Campaign} (runs : db.Runs tenantId id)
    (keep : ∀ c, c.id = id → (f c).id = id) (mine : ∀ c, c.tenantId = tenantId → (f c).tenantId = tenantId)
    {writes : List StatusWrite} {approvals : List Approval} :
    Confined tenantId db
      { db with campaigns := updateWhere (·.id = id) f db.campaigns, statusWrites := writes, approvals := approvals } := by
  have ids : (updateWhere (·.id = id) f db.campaigns).map Campaign.id = db.campaigns.map Campaign.id :=
    updateWhere_keys Campaign.id db.campaigns fun c hit =>
      (keep c (of_decide_eq_true hit)).trans (of_decide_eq_true hit).symm
  have row : ∀ c ∈ db.campaigns, c.id = id → c.tenantId = tenantId := fun c member same =>
    owned.one_runner (same ▸ Db.runs_of_mem member) runs
  have kept : ∀ s campaignId, db.Runs s campaignId → Db.Runs
      { db with campaigns := updateWhere (·.id = id) f db.campaigns, statusWrites := writes, approvals := approvals }
      s campaignId := by
    rintro s _ ⟨c, member, rfl, rfl⟩
    by_cases hit : c.id = id
    · have owner := row c member hit
      exact ⟨f c, mem_updateWhere.mpr (Or.inl ⟨c, member, decide_eq_true hit, rfl⟩), (keep c hit).trans hit.symm,
        (mine c owner).trans owner.symm⟩
    · exact ⟨c, mem_updateWhere.mpr (Or.inr ⟨member, decide_eq_false hit⟩), rfl, rfl⟩
  have wf : Db.Wf
      { db with campaigns := updateWhere (·.id = id) f db.campaigns, statusWrites := writes, approvals := approvals } :=
    owned.toWf.of_ids rfl ids rfl
  refine of_tables owned ⟨wf, owned.toPlansOwned.kept ⟨rfl, rfl, rfl, rfl⟩ kept le_rfl, owned.testIds, owned.testsBelow,
    fun a member => kept _ _ (owned.home a member), fun task member id named => kept _ _ (owned.queued task member id named),
    fun test member => kept _ _ (owned.tested test member), owned.assigned, owned.decided, owned.attempted⟩ rfl rfl
    ⟨rfl, rfl, rfl, rfl⟩ (fun s other => filter_updateWhere fun c member hit => ?_) kept (fun _ _ => rfl) (fun _ _ => rfl)
    fun _ _ => ⟨rfl, rfl, rfl, rfl⟩
  have owner := row c member (of_decide_eq_true hit)
  exact ⟨decide_eq_false (owner ▸ other.symm), decide_eq_false (mine c owner ▸ other.symm)⟩

theorem setCampaign (owned : db.Owned) {c : Campaign} (runs : db.Runs tenantId c.id) (mine : c.tenantId = tenantId) :
    Confined tenantId db (db.setCampaign c) :=
  of_campaigns owned runs (fun _ _ => rfl) fun _ _ => mine

theorem writeStatus (owned : db.Owned) {id : Uuid} (runs : db.Runs tenantId id) (status : CampaignStatus)
    (writer : Writer) : Confined tenantId db (db.writeStatus id status writer) := by
  unfold Db.writeStatus
  split
  · exact refl owned
  · rename_i c found
    obtain ⟨member, same⟩ := Db.campaign?_mem found
    have mine : c.tenantId = tenantId := owned.one_runner (same ▸ Db.runs_of_mem member) runs
    have here : db.Runs tenantId c.id := ⟨c, member, rfl, mine⟩
    exact of_campaigns (f := fun _ => { c with status := status }) owned here (fun _ _ => rfl) fun _ _ => mine

theorem insertCampaign (owned : db.Owned) {c : Campaign} (fresh : c.id = db.nextId) (mine : c.tenantId = tenantId) :
    Confined tenantId db { db with campaigns := db.campaigns ++ [c], nextId := db.nextId + 1 } := by
  have kept : ∀ s campaignId, db.Runs s campaignId →
      Db.Runs { db with campaigns := db.campaigns ++ [c], nextId := db.nextId + 1 } s campaignId :=
    fun s campaignId ⟨d, member, row⟩ => ⟨d, List.mem_append_left _ member, row⟩
  refine of_tables owned ⟨owned.toWf.insertCampaign fresh,
    owned.toPlansOwned.kept ⟨rfl, rfl, rfl, rfl⟩ kept (Nat.le_succ _), owned.testIds,
    fun test member => (owned.testsBelow test member).trans (Nat.lt_succ_self _), fun a member => kept _ _ (owned.home a member),
    fun task member id named => kept _ _ (owned.queued task member id named),
    fun test member => kept _ _ (owned.tested test member), owned.assigned, owned.decided, owned.attempted⟩ rfl rfl
    ⟨rfl, rfl, rfl, rfl⟩ (fun s other => ?_) kept (fun _ _ => rfl) (fun _ _ => rfl) fun _ _ => ⟨rfl, rfl, rfl, rfl⟩
  simp [List.filter_append, mine, other.symm]

/-- A decision on an asset of the tenant. -/
theorem insertDecision (owned : db.Owned) {d : ApprovalDecisionLog} {campaignId : Uuid}
    (held : db.Holds tenantId campaignId d.contentAssetId) : Confined tenantId db (db.insertDecision d) := by
  have owned' : (db.insertDecision d).Owned := by
    refine ⟨⟨owned.assetIds, ?_, owned.campaignIds, ?_⟩,
      owned.toPlansOwned.kept ⟨rfl, rfl, rfl, rfl⟩ (fun _ _ runs => runs) (Nat.le_succ _), owned.testIds, ?_, owned.home,
      owned.queued, owned.tested, owned.assigned, fun e member => ?_, owned.attempted⟩
    · exact fun a member => (owned.assetsBelow a member).trans (Nat.lt_succ_self _)
    · exact fun c member => (owned.campaignsBelow c member).trans (Nat.lt_succ_self _)
    · exact fun test member => (owned.testsBelow test member).trans (Nat.lt_succ_self _)
    · rcases List.mem_append.mp member with old | new
      · exact owned.decided e old
      · rw [List.mem_singleton.mp new]
        exact ⟨tenantId, campaignId, held⟩
  refine ⟨owned', fun s other => ?_, fun _ _ runs => runs, fun _ _ _ held => held, fun _ _ proposes => proposes⟩
  have foreign : (db.asset? d.contentAssetId).any (·.tenantId = s) = false := by
    rw [owned.asset?_any held]
    exact decide_eq_false other.symm
  have decisions : (db.insertDecision d).decisions.filter
        (fun e => ((db.insertDecision d).asset? e.contentAssetId).any (·.tenantId = s)) =
      db.decisions.filter fun e => (db.asset? e.contentAssetId).any (·.tenantId = s) := by
    simp only [Db.insertDecision, List.filter_append, Db.asset?] at foreign ⊢
    rw [List.filter_cons_of_neg (by simpa using foreign), List.filter_nil, List.append_nil]
  exact congrArg (fun rows => { db.viewOf s with decisions := rows }) decisions

/-- A new test of the tenant. -/
theorem insertAbTest (owned : db.Owned) {test : AbTest} (fresh : test.id = db.nextId) (mine : test.tenantId = tenantId)
    (runs : db.Runs tenantId test.campaignId) :
    Confined tenantId db { db with abTests := db.abTests ++ [test], nextId := db.nextId + 1 } := by
  refine of_tables owned ⟨⟨owned.assetIds, ?_, owned.campaignIds, ?_⟩,
    owned.toPlansOwned.kept ⟨rfl, rfl, rfl, rfl⟩ (fun _ _ runs => runs) (Nat.le_succ _), ?_, ?_, owned.home, owned.queued,
    ?_, ?_, owned.decided, owned.attempted⟩ rfl rfl ⟨rfl, rfl, rfl, rfl⟩ (fun _ _ => rfl) (fun _ _ runs => runs)
    (fun _ _ => rfl) (fun s other => ?_) fun _ _ => ⟨rfl, rfl, rfl, rfl⟩
  · exact fun a member => (owned.assetsBelow a member).trans (Nat.lt_succ_self _)
  · exact fun c member => (owned.campaignsBelow c member).trans (Nat.lt_succ_self _)
  · refine nodup_keys_append owned.testIds (List.nodup_singleton _) fun old member added new => ?_
    rw [List.mem_singleton.mp new, fresh]
    exact (owned.testsBelow old member).ne
  · intro old member
    rcases List.mem_append.mp member with here | new
    · exact (owned.testsBelow old here).trans (Nat.lt_succ_self _)
    · rw [List.mem_singleton.mp new, fresh]
      exact Nat.lt_succ_self _
  · intro old member
    rcases List.mem_append.mp member with here | new
    · exact owned.tested old here
    · rw [List.mem_singleton.mp new, mine]
      exact runs
  · intro row member
    obtain ⟨old, here, named⟩ := owned.assigned row member
    exact ⟨old, List.mem_append_left _ here, named⟩
  · simp [List.filter_append, mine, other.symm]

/-- A test of the tenant takes a new row under its id, for the same campaign. -/
theorem setAbTest (owned : db.Owned) {test test' : AbTest} (here : test ∈ db.abTests) (owner : test.tenantId = tenantId)
    (same : test'.id = test.id) (home : test'.campaignId = test.campaignId) (mine : test'.tenantId = tenantId) :
    Confined tenantId db (db.setAbTest test') := by
  have ids : (db.setAbTest test').abTests.map AbTest.id = db.abTests.map AbTest.id :=
    updateWhere_keys AbTest.id db.abTests fun _ hit => (of_decide_eq_true hit).symm
  have only : ∀ old ∈ db.abTests, old.id = test'.id → old = test := fun old member hit =>
    eq_of_key_eq owned.testIds member here (hit.trans same)
  refine of_tables owned ⟨⟨owned.assetIds, owned.assetsBelow, owned.campaignIds, owned.campaignsBelow⟩,
    owned.toPlansOwned.kept ⟨rfl, rfl, rfl, rfl⟩ (fun _ _ runs => runs) le_rfl, ids ▸ owned.testIds, ?_, owned.home,
    owned.queued, ?_, ?_, owned.decided, owned.attempted⟩ rfl rfl ⟨rfl, rfl, rfl, rfl⟩ (fun _ _ => rfl)
    (fun _ _ runs => runs) (fun _ _ => rfl) (fun s other => filter_updateWhere fun old member hit => ?_)
    fun _ _ => ⟨rfl, rfl, rfl, rfl⟩
  · intro new member
    rcases mem_updateWhere.mp member with ⟨_, _, _, rfl⟩ | ⟨old, _⟩
    · exact same ▸ owned.testsBelow test here
    · exact owned.testsBelow new old
  · intro new member
    rcases mem_updateWhere.mp member with ⟨_, _, _, rfl⟩ | ⟨old, _⟩
    · rw [home, mine, ← owner]
      exact owned.tested test here
    · exact owned.tested new old
  · intro row member
    obtain ⟨old, listed, named, tenant⟩ := owned.assigned row member
    by_cases hit : old.id = test'.id
    · rw [only old listed hit] at named tenant
      exact ⟨test', mem_updateWhere.mpr (Or.inl ⟨test, here, decide_eq_true same.symm, rfl⟩), same.trans named,
        mine.trans (owner.symm.trans tenant)⟩
    · exact ⟨old, mem_updateWhere.mpr (Or.inr ⟨listed, decide_eq_false hit⟩), named, tenant⟩
  · rw [only old member (of_decide_eq_true hit)]
    exact ⟨decide_eq_false (owner ▸ other.symm), decide_eq_false (mine ▸ other.symm)⟩

end Confined

section Ledger

variable {tenantId s : Uuid}

theorem upsertDispatchAttempt_others {row : DispatchAttempt} (mine : row.tenantId = tenantId) (other : s ≠ tenantId)
    (rows : List DispatchAttempt) :
    (upsertDispatchAttempt rows row).filter (·.tenantId = s) = rows.filter (·.tenantId = s) := by
  unfold upsertDispatchAttempt
  split
  · refine filter_updateWhere fun stored _ hit => ?_
    have owner : stored.tenantId = tenantId := (of_decide_eq_true hit).1.trans mine
    exact ⟨decide_eq_false (owner ▸ other.symm), decide_eq_false (owner ▸ other.symm)⟩
  · simp [List.filter_append, mine, other.symm]

theorem upsertDispatchAttempts_others {calls : List DispatchAttempt} (mine : ∀ row ∈ calls, row.tenantId = tenantId)
    (other : s ≠ tenantId) (rows : List DispatchAttempt) :
    (calls.foldl upsertDispatchAttempt rows).filter (·.tenantId = s) = rows.filter (·.tenantId = s) := by
  refine List.foldlRecOn (motive := fun reached : List DispatchAttempt =>
    reached.filter (·.tenantId = s) = rows.filter (·.tenantId = s)) _ _ rfl fun reached kept row member => ?_
  rw [upsertDispatchAttempt_others (mine row member) other, kept]

theorem insertAssignments_others {inserted : List AbTestAssignment} (mine : ∀ row ∈ inserted, row.tenantId = tenantId)
    (other : s ≠ tenantId) (rows : List AbTestAssignment) :
    (insertAssignments rows inserted).filter (·.tenantId = s) = rows.filter (·.tenantId = s) := by
  unfold insertAssignments
  rw [List.filter_append]
  have none : ∀ row ∈ inserted.filter (fun new => !rows.any fun row => row.tenantId = new.tenantId ∧
      row.abTestId = new.abTestId ∧ row.audienceExternalId = new.audienceExternalId), ¬ decide (row.tenantId = s) = true := by
    intro row member
    have owner := mine row (List.mem_of_mem_filter member)
    simpa [owner] using other.symm
  rw [List.filter_eq_nil_iff.mpr none, List.append_nil]

/-- A row of the ledger keeps its tenant and its asset. -/
theorem upsertDispatchAttempt_forall {P : Uuid → Uuid → Prop} {row : DispatchAttempt} {rows : List DispatchAttempt}
    (new : P row.tenantId row.contentAssetId) (stored : ∀ old ∈ rows, P old.tenantId old.contentAssetId) :
    ∀ old ∈ upsertDispatchAttempt rows row, P old.tenantId old.contentAssetId := by
  intro old member
  unfold upsertDispatchAttempt at member
  split at member
  · rcases mem_updateWhere.mp member with ⟨first, here, _, rfl⟩ | ⟨here, _⟩
    · exact stored first here
    · exact stored old here
  · rcases List.mem_append.mp member with here | added
    · exact stored old here
    · rw [List.mem_singleton.mp added]
      exact new

theorem upsertDispatchAttempts_forall {P : Uuid → Uuid → Prop} {calls rows : List DispatchAttempt}
    (new : ∀ row ∈ calls, P row.tenantId row.contentAssetId) (stored : ∀ old ∈ rows, P old.tenantId old.contentAssetId) :
    ∀ old ∈ calls.foldl upsertDispatchAttempt rows, P old.tenantId old.contentAssetId :=
  List.foldlRecOn (motive := fun reached : List DispatchAttempt => ∀ old ∈ reached, P old.tenantId old.contentAssetId) _ _
    stored fun _ kept row member => upsertDispatchAttempt_forall (new row member) kept

variable [PyText] {db : Db}

theorem assignVariant_tests {pending inserted : List AbTestAssignment} {abTestId variantId : Uuid} {externalId : String}
    (done : assignVariant db pending tenantId abTestId externalId = .ok (variantId, inserted))
    (mine : ∀ row ∈ pending, row.tenantId = tenantId ∧ db.Tests tenantId row.abTestId) :
    ∀ row ∈ inserted, row.tenantId = tenantId ∧ db.Tests tenantId row.abTestId := by
  unfold assignVariant at done
  split at done
  · obtain ⟨rfl, rfl⟩ := Prod.mk.inj (Except.ok.inj done)
    exact mine
  · simp only [bind_eq_ok, pure_eq_ok, orRaise_eq_ok, Prod.mk.injEq] at done
    obtain ⟨test, found, _, _, _, _, _, _, _, _, _, rfl⟩ := done
    have named : test.id = abTestId ∧ test.tenantId = tenantId := by simpa using List.find?_some found
    intro row member
    rcases List.mem_append.mp member with old | new
    · exact mine row old
    · rw [List.mem_singleton.mp new]
      exact ⟨rfl, test, List.mem_of_find?_eq_some found, named⟩

theorem keepAssigned_tests {a : ContentAsset} {test : AbTest} {members kept : List AudienceMember}
    {pending inserted : List AbTestAssignment} (done : keepAssigned db a test pending members = .ok (kept, inserted))
    (mine : ∀ row ∈ pending, row.tenantId = a.tenantId ∧ db.Tests a.tenantId row.abTestId) :
    ∀ row ∈ inserted, row.tenantId = a.tenantId ∧ db.Tests a.tenantId row.abTestId := by
  induction members generalizing pending kept inserted with
  | nil =>
    obtain ⟨rfl, rfl⟩ := Prod.mk.inj (Except.ok.inj done)
    exact mine
  | cons m rest ih =>
    unfold keepAssigned at done
    split at done
    · simp only [bind_eq_ok, pure_eq_ok, Prod.mk.injEq, Prod.exists] at done
      obtain ⟨_, _, deeper, rfl, rfl⟩ := done
      exact ih deeper mine
    · split at done
      · cases done
      · simp only [bind_eq_ok, pure_eq_ok, Prod.mk.injEq, Prod.exists] at done
        obtain ⟨_, _, deeper, rfl, rfl⟩ := done
        exact ih deeper mine
      · rename_i variantId picked assigned
        simp only [bind_eq_ok, pure_eq_ok, Prod.mk.injEq, Prod.exists] at done
        obtain ⟨_, _, deeper, rfl, rfl⟩ := done
        exact ih deeper (assignVariant_tests assigned mine)

theorem planEmail_tests {secret : String} {a : ContentAsset} {c : Campaign} {plan : EmailPlan} {now : Int}
    (planned : planEmail db secret a c now = .ok plan) :
    plan.asset = a ∧ ∀ row ∈ plan.assignments, row.tenantId = a.tenantId ∧ db.Tests a.tenantId row.abTestId := by
  simp only [planEmail, bind_eq_ok, pure_eq_ok] at planned
  obtain ⟨_, _, _, _, ⟨members, assignments⟩, filtered, _, _, _, _, _, _, _, _, rfl⟩ := planned
  refine ⟨rfl, ?_⟩
  have filtered := mapError_eq_ok.mp filtered
  unfold filterAudienceForAbTest at filtered
  split at filtered
  · obtain ⟨rfl, rfl⟩ := Prod.mk.inj (Except.ok.inj filtered)
    exact fun row member => by cases member
  · exact keepAssigned_tests filtered fun row member => by cases member

omit [PyText] in
theorem emailAttempts_asset [PyText] (plan : EmailPlan) (result : Option DispatchResult) (now : Int) :
    ∀ row ∈ emailAttempts plan result now, row.tenantId = plan.asset.tenantId ∧ row.contentAssetId = plan.asset.id := by
  intro row member
  rcases List.mem_append.mp member with capped | answered
  · obtain ⟨entry, _, rfl⟩ := List.mem_map.mp capped
    exact ⟨rfl, rfl⟩
  · split at answered
    · cases answered
    · obtain ⟨entry, _, rfl⟩ := List.mem_map.mp answered
      unfold verdictAttempt
      split <;> exact ⟨rfl, rfl⟩

end Ledger

end MarketingAgents
