import MarketingAgents.Lib.Run
import MarketingAgents.Content.AssistantWrites
import MarketingAgents.Content.Deliveries

namespace MarketingAgents

open Lib PyText

/-- The tools of the assistant that write campaigns or content. -/
inductive ToolCall where
  | pauseCampaign (campaignId : Uuid) (confirm : Bool)
  | resumeCampaign (campaignId : Uuid)
  | completeCampaign (campaignId : Uuid) (confirm : Bool)
  | synthesiseAudience (campaignId : Uuid) (members : List (String × Dict String Json))
  | acceptStrategy (campaignId : Uuid) (confirm : Bool) (calendar : Except String (List (String × Int × Int)))
  | generateContent (apiKey : Bool) (campaignId : Uuid) (confirm : Bool) (generations : List Generation)
  | approveAllContent (campaignId : Uuid) (confirm : Bool)
  | approveAsset (assetId : Uuid)
  | rejectAsset (assetId : Uuid) (reason : Option String)
  | launchCampaign (campaignId : Uuid) (confirm : Bool)
  | draftOutbound (campaignId audienceId : Uuid) (overwrite : Bool) (replies : List (Segment × String × OutreachReply))

/-- The tables that requests outside the pipeline write: calendars and
overrides, channels, audiences and their enrichment, caps, credentials, the
compliance settings and the suppression list. -/
structure SideTables where
  proposals : List StrategyProposal
  touchpoints : List StrategyTouchpoint
  channels : List Channel
  audiences : List Audience
  audienceMembers : List AudienceMember
  frequencyCaps : List FrequencyCapSetting
  credentials : List IntegrationCredential
  complianceSettings : List TenantComplianceSettings
  suppressions : List SuppressionEntry

/-- The operations of the content pipeline, each a transaction. Any request
that writes only side tables is a `writeSideTables`. -/
inductive Op where
  | createCampaign (user : AppUser) (draft : Campaign)
  | patchCampaign (user : AppUser) (campaignId : Uuid) (patch : CampaignPatch)
  | upsertApprovalSettings (user : AppUser) (adminAbove : Option Decimal) (cap : Decimal) (currency : String)
  | insertProposal (campaignId : Uuid) (payload : Dict String Json)
  | insertAudience (tenantId campaignId : Uuid) (members : List (String × Dict String Json))
  | applyTransition (user : AppUser) (minimum : UserRole) (campaignId : Uuid) (name : String)
  | acceptStrategy (user : AppUser) (proposalId : Uuid) (calendar : Except String (List (String × Int × Int)))
  | analyseCampaign (campaignId : Uuid) (autoPause : Bool)
  | generateAsset (assetId : Uuid) (generation : Generation)
  | regenerateAsset (user : AppUser) (apiKey : Bool) (assetId : Uuid)
  | clearComplianceBlock (user : AppUser) (assetId : Uuid)
  | approveAsset (user : AppUser) (assetId : Uuid) (body : ApproveRequest)
  | rejectAsset (user : AppUser) (assetId : Uuid) (reason : String) (category : ApprovalRejectionCategory)
  | batchApprove (user : AppUser) (assetIds : List Uuid) (dryRun : Bool) (writeFails : Dict Uuid String)
  | approveViaUi (user : AppUser) (assetId : Uuid) (form : Dict String String)
  | rejectViaUi (user : AppUser) (assetId : Uuid) (reason : String) (category : ApprovalRejectionCategory)
  | addVariant (user : AppUser) (apiKey : Bool) (testId : Uuid)
  | createAbTest (user : AppUser) (campaignId : Uuid) (body : CreateAbTestRequest)
  | launchAbTest (user : AppUser) (testId : Uuid)
  | stopAbTest (user : AppUser) (testId : Uuid)
  | promoteAbTest (user : AppUser) (testId : Uuid)
  | evaluateTest (testId : Uuid) (decision : AbDecision)
  | writeSideTables (tables : SideTables)
  | dispatchEmailAsset (secret : String) (assetId : Uuid) (answer : SendgridResponse) (batchId : Uuid)
  | dispatchSocialAsset (assetId : Uuid) (answer : SocialAnswer)
  | assistant (user : AppUser) (call : ToolCall)

/-- An exception rolls the transaction back. -/
def orKeep {ε : Type} (db : Db) (result : Except ε Db) : Db :=
  match result with
  | .ok db' => db'
  | .error _ => db

namespace ToolCall

variable [PyText]

def run (db : Db) (user : AppUser) (now : Int) : ToolCall → Assistant.ToolRun
  | .pauseCampaign campaignId confirm => Assistant.pauseCampaign db user campaignId confirm now
  | .resumeCampaign campaignId => Assistant.resumeCampaign db user campaignId now
  | .completeCampaign campaignId confirm => Assistant.completeCampaign db user campaignId confirm now
  | .synthesiseAudience campaignId members => Assistant.synthesiseAudience db user campaignId members now
  | .acceptStrategy campaignId confirm calendar => Assistant.acceptStrategy db user campaignId confirm calendar
  | .generateContent apiKey campaignId confirm generations =>
    Assistant.generateContent db user apiKey campaignId confirm generations now
  | .approveAllContent campaignId confirm => Assistant.approveAllContent db user campaignId confirm now
  | .approveAsset assetId => Assistant.approveAsset db user assetId now
  | .rejectAsset assetId reason => Assistant.rejectAsset db user assetId reason now
  | .launchCampaign campaignId confirm => Assistant.launchCampaign db user campaignId confirm now
  | .draftOutbound campaignId audienceId overwrite replies =>
    Assistant.draftOutbound db user campaignId audienceId overwrite replies

/-- The rows the call sets to `approved`. -/
def approves (db : Db) (user : AppUser) : ToolCall → List ContentAsset
  | .approveAsset assetId =>
    if UserRole.manager.rank ≤ user.role.rank then
      (db.tenantAsset? user assetId).toList.filter fun a =>
        a.status ∈ [.drafted, .pendingApproval, .rejected] ∧ Assistant.hasBlockerViolation a = false
    else []
  | .approveAllContent campaignId confirm =>
    if UserRole.manager.rank ≤ user.role.rank ∧ confirm then
      (db.tenantCampaign? user campaignId).toList.flatMap fun c => Assistant.openDrafts db c.id
    else []
  | _ => []

/-- The rows the call sets to `rejected`. -/
def rejects (db : Db) (user : AppUser) : ToolCall → List ContentAsset
  | .rejectAsset assetId _ =>
    if UserRole.manager.rank ≤ user.role.rank then
      (db.tenantAsset? user assetId).toList.filter fun a => a.status ∈ [.drafted, .pendingApproval]
    else []
  | _ => []

/-- The campaign whose status the call sets past the state machine, and to what. -/
def sets (db : Db) (user : AppUser) : ToolCall → Option (Campaign × CampaignStatus)
  | .pauseCampaign campaignId true =>
    if UserRole.manager.rank ≤ user.role.rank then
      ((db.tenantCampaign? user campaignId).filter (·.status ≠ .paused)).map (·, .paused)
    else none
  | .synthesiseAudience campaignId members =>
    if UserRole.marketer.rank ≤ user.role.rank ∧ 1 ≤ members.length ∧ members.length ≤ 200 then
      ((db.tenantCampaign? user campaignId).filter (·.status = .drafted)).map (·, .audienceBuilt)
    else none
  | .acceptStrategy campaignId true (.ok _) =>
    if UserRole.marketer.rank ≤ user.role.rank then
      ((db.tenantCampaign? user campaignId).filter fun c => c.status ∈ [.drafted, .audienceBuilt] ∧
        (Assistant.latestUnaccepted db c.id).isSome ∧ db.acceptedProposal? c.id = none).map (·, .strategySet)
    else none
  | _ => none

/-- The outreach templates the call drafts anew. -/
def overwrites (db : Db) (user : AppUser) : ToolCall → List ContentAsset
  | .draftOutbound campaignId audienceId true replies =>
    if UserRole.marketer.rank ≤ user.role.rank then
      (db.tenantCampaign? user campaignId).toList.flatMap fun c => replies.flatMap (overwrittenTemplates db c audienceId)
    else []
  | _ => []

end ToolCall

namespace Op

variable [PyText]

/-- One operation at the instant `now`. -/
def run (db : Db) (now : Int) : Op → Db
  | .createCampaign user draft => orKeep db (MarketingAgents.createCampaign db user draft)
  | .patchCampaign user campaignId patch => orKeep db (MarketingAgents.patchCampaign db user campaignId patch)
  | .upsertApprovalSettings user adminAbove cap currency =>
    orKeep db (MarketingAgents.upsertApprovalSettings db user adminAbove cap currency)
  | .insertProposal campaignId payload => MarketingAgents.insertProposal db campaignId payload
  | .insertAudience tenantId campaignId members => MarketingAgents.insertAudience db tenantId campaignId members now
  | .applyTransition user minimum campaignId name =>
    orKeep db (MarketingAgents.applyTransition db user minimum campaignId name now)
  | .acceptStrategy user proposalId calendar =>
    orKeep db (MarketingAgents.acceptStrategy db user proposalId calendar now)
  | .analyseCampaign campaignId autoPause => MarketingAgents.analyseCampaign db campaignId autoPause
  | .generateAsset assetId generation =>
    let (state, result) := MarketingAgents.generateAsset db assetId generation now
    orKeep db (result.map fun _ => state)
  | .regenerateAsset user apiKey assetId => orKeep db (MarketingAgents.regenerateAsset db user apiKey assetId now)
  | .clearComplianceBlock user assetId => orKeep db (MarketingAgents.clearComplianceBlock db user assetId)
  | .approveAsset user assetId body => orKeep db (MarketingAgents.approveAsset db user assetId body now)
  | .rejectAsset user assetId reason category =>
    orKeep db (MarketingAgents.rejectAsset db user assetId reason category now)
  | .batchApprove user assetIds dryRun writeFails =>
    orKeep db ((MarketingAgents.batchApprove db user assetIds dryRun writeFails now).map Prod.fst)
  | .approveViaUi user assetId form => orKeep db ((MarketingAgents.approveViaUi db user assetId form now).map Prod.fst)
  | .rejectViaUi user assetId reason category =>
    orKeep db ((MarketingAgents.rejectViaUi db user assetId reason category now).map Prod.fst)
  | .addVariant user apiKey testId => orKeep db (MarketingAgents.addVariant db user apiKey testId now)
  | .createAbTest user campaignId body => orKeep db (MarketingAgents.createAbTest db user campaignId body)
  | .launchAbTest user testId => orKeep db (MarketingAgents.launchAbTest db user testId now)
  | .stopAbTest user testId => orKeep db (MarketingAgents.stopAbTest db user testId now)
  | .promoteAbTest user testId => orKeep db (MarketingAgents.promoteAbTest db user testId)
  | .evaluateTest testId decision => MarketingAgents.evaluateTest db testId decision now
  | .writeSideTables tables =>
    { db with
      proposals := tables.proposals
      touchpoints := tables.touchpoints
      channels := tables.channels
      audiences := tables.audiences
      audienceMembers := tables.audienceMembers
      frequencyCaps := tables.frequencyCaps
      credentials := tables.credentials
      complianceSettings := tables.complianceSettings
      suppressions := tables.suppressions }
  | .dispatchEmailAsset secret assetId answer batchId =>
    orKeep db (MarketingAgents.dispatchEmailAsset db secret assetId answer batchId now)
  | .dispatchSocialAsset assetId answer => orKeep db (MarketingAgents.dispatchSocialAsset db assetId answer now)
  | .assistant user call => (call.run db user now).1

/-- The campaign the operation completes. -/
def completes (db : Db) : Op → Option Uuid
  | .applyTransition user minimum campaignId "complete_campaign" =>
    if minimum.rank ≤ user.role.rank then
      ((db.tenantCampaign? user campaignId).filter (·.status ∈ [.live, .optimising, .paused])).map Campaign.id
    else none
  | .assistant user (.completeCampaign campaignId true) =>
    if UserRole.manager.rank ≤ user.role.rank then
      ((db.tenantCampaign? user campaignId).filter (·.status ∈ [.live, .optimising, .paused])).map Campaign.id
    else none
  | _ => none

/-- The rows the assistant approves in the operation. -/
def assistantApproves (db : Db) : Op → List ContentAsset
  | .assistant user call => call.approves db user
  | _ => []

/-- The rows the assistant rejects in the operation. -/
def assistantRejects (db : Db) : Op → List ContentAsset
  | .assistant user call => call.rejects db user
  | _ => []

/-- The campaign the operation asks to take live by `start_live`; a dispatch tries it on the campaign of its asset. -/
def starts (campaignId : Uuid) : Op → Bool
  | .applyTransition _ _ id name => id = campaignId ∧ name = "start_live"
  | .dispatchEmailAsset .. | .dispatchSocialAsset .. => true
  | _ => false

/-- The paused campaign the operation resumes. -/
def resumes (db : Db) : Op → Option Uuid
  | .applyTransition user minimum campaignId "resume" =>
    if minimum.rank ≤ user.role.rank then ((db.tenantCampaign? user campaignId).filter (·.status = .paused)).map Campaign.id
    else none
  | .assistant user (.resumeCampaign campaignId) =>
    if UserRole.manager.rank ≤ user.role.rank then
      ((db.tenantCampaign? user campaignId).filter (·.status = .paused)).map Campaign.id
    else none
  | _ => none

/-- The campaign the operation launches by hand. -/
def launches : Op → Option Uuid
  | .assistant _ (.launchCampaign campaignId true) => some campaignId
  | _ => none

/-- The campaign the operation seeds, where there is something to seed it from. -/
def seeds (db : Db) : Op → Option Uuid
  | .applyTransition user minimum campaignId "start_content" =>
    if minimum.rank ≤ user.role.rank then
      ((db.tenantCampaign? user campaignId).filter (·.status = .strategySet)).map Campaign.id
    else none
  | .assistant user (.generateContent true campaignId true _) =>
    if UserRole.marketer.rank ≤ user.role.rank then (db.tenantCampaign? user campaignId).map Campaign.id else none
  | _ => none

/-- A generation handler, and the assistant on the rows it has seeded itself. -/
def generates (db : Db) (a : ContentAsset) (status : AssetStatus) : Op → Prop
  | .generateAsset assetId generation => db.asset? assetId = some a ∧ status ∈ generation.leaves
  | .assistant _ (.generateContent ..) => db.nextId ≤ a.id
  | _ => False

/-- The row the operation sends back to the generation. -/
def regenerates (db : Db) (a : ContentAsset) : Op → Prop
  | .regenerateAsset user apiKey assetId => UserRole.marketer.rank ≤ user.role.rank ∧ apiKey = true ∧
      db.tenantAsset? user assetId = some a
  | _ => False

/-- `draft_outbound` on the rows it found or drafted. -/
def overwrites (db : Db) (a : ContentAsset) : Op → Prop
  | .assistant user call => a ∈ call.overwrites db user ∨ a.status = .drafted
  | _ => False

/-- The rows that are created outside the seeding. -/
def creates (a : ContentAsset) : Op → Prop
  | .assistant _ (.draftOutbound ..) => a.extraMetadata.get? "touchpoint_id" = none
  | .addVariant .. => a.isRequired = false
  | _ => False

/-- The campaign whose status the operation sets past the state machine, and to what. -/
def sets (db : Db) : Op → Option (Campaign × CampaignStatus)
  | .analyseCampaign campaignId true =>
    ((db.campaign? campaignId).filter (·.status ≠ .paused)).map (·, .paused)
  | .dispatchSocialAsset assetId answer => (db.revokedBy assetId answer).map (·, .paused)
  | .assistant user call => call.sets db user
  | _ => none

def promotes : Op → Option Uuid
  | .promoteAbTest _ testId => some testId
  | _ => none

/-- What the operation may cause in the state `mid` it has reached from `db`. -/
def may (db : Db) (op : Op) : Cause → Db → Prop
  | .completes id, mid => op.completes db = some id ∧ mid = db
  | .starts id, _ => op.starts id = true
  | .resumes id, mid => op.resumes db = some id ∧ mid = db
  | .launches id, mid => op.launches = some id ∧ mid = db
  | .seeds id, mid => op.seeds db = some id ∧ mid.assets = db.assets ∧ mid.proposals = db.proposals ∧
      mid.touchpoints = db.touchpoints ∧
      ∀ d ∈ mid.campaigns, d.id = id → d.status = .contentInProduction ∨ d ∈ db.campaigns
  | .generates a status, mid => op.generates db a status ∧ (a.id < db.nextId → mid = db)
  | .regenerates a, mid => op.regenerates db a ∧ mid = db
  | .overwrites a, _ => op.overwrites db a
  | .creates a, _ => op.creates a
  | .approves a, _ => a ∈ op.assistantApproves db
  | .rejects a, _ => a ∈ op.assistantRejects db
  | .promotes testId, _ => op.promotes = some testId
  | .sets id status, mid => ∃ c, op.sets db = some (c, status) ∧ c.id = id ∧ mid.campaign? id = some c

def licence (db : Db) (op : Op) : Licence where
  completes id mid := op.completes db = some id ∧ mid = db
  approves a := a ∈ op.assistantApproves db
  sets id status mid := ∃ c, op.sets db = some (c, status) ∧ c.id = id ∧ mid.campaign? id = some c

end Op

/-- A database before its first campaign. The other tables may hold anything. -/
structure Db.Fresh (db : Db) : Prop where
  campaigns : db.campaigns = []
  assets : db.assets = []
  approvals : db.approvals = []
  statusWrites : db.statusWrites = []

theorem Db.Fresh.wf {db : Db} (fresh : db.Fresh) : db.Wf := by
  obtain ⟨campaigns, assets, _, _⟩ := fresh
  constructor <;> simp [campaigns, assets]

theorem stored_status {db : Db} {user : AppUser} {campaignId : Uuid} {c : Campaign} {status : CampaignStatus}
    (found : db.tenantCampaign? user campaignId = some c)
    (stands : ∃ stored, db.campaign? campaignId = some stored ∧ stored.status = status) :
    c.id = campaignId ∧ c.status = status := by
  obtain ⟨stored, found', stands⟩ := stands
  have here := (Option.filter_eq_some_iff.mp found).1
  have equal : stored = c := Option.some.inj (found'.symm.trans here)
  exact ⟨(Db.campaign?_mem here).2, equal ▸ stands⟩

/-- The transition the operation asks for, and nothing else of that kind. -/
theorem Op.asks_applyTransition [PyText] {db : Db} {user : AppUser} {minimum : UserRole} {campaignId : Uuid} {c : Campaign}
    (name : String) (ranked : minimum.rank ≤ user.role.rank) (found : db.tenantCampaign? user campaignId = some c) :
    Asks ((Op.applyTransition user minimum campaignId name).may db) db campaignId name where
  completes same active := by
    subst same
    obtain ⟨c', found', active⟩ := active
    obtain ⟨mine, status⟩ := stored_status found ⟨c', found', rfl⟩
    exact ⟨by simp [Op.completes, ranked, found, Option.filter, status, mine, active], rfl⟩
  starts same := by
    subst same
    simp [Op.may, Op.starts]
  resumes same set := by
    subst same
    obtain ⟨mine, status⟩ := stored_status found set
    exact ⟨by simp [Op.resumes, ranked, found, Option.filter, status, mine], rfl⟩
  seeds same set := by
    subst same
    obtain ⟨mine, status⟩ := stored_status found set
    exact fun mid assets proposals touchpoints producing =>
      ⟨by simp [Op.seeds, ranked, found, Option.filter, status, mine], assets, proposals, touchpoints,
        fun d member same => Or.inl (producing d member same)⟩

section Steps

variable [PyText] {db : Db} {now : Int}

theorem orKeep_writes {ε : Type} {may : Cause → Db → Prop} {result : Except ε Db}
    (writes : ∀ db', result = .ok db' → Writes may now db db') : Writes may now db (orKeep db result) := by
  cases result with
  | error error => exact .refl
  | ok db' => exact writes db' rfl

theorem orKeep_map_writes {ε α : Type} {may : Cause → Db → Prop} {result : Except ε α} {project : α → Db}
    (writes : ∀ value, result = .ok value → Writes may now db (project value)) :
    Writes may now db (orKeep db (result.map project)) := by
  cases result with
  | error error => exact .refl
  | ok value => exact writes value rfl

/-- Each tool of the assistant is a sequence of the writes, under the causes that
the call has. -/
theorem ToolCall.run_writes (wf : db.Wf) (user : AppUser) (call : ToolCall) :
    Writes ((Op.assistant user call).may db) now db (call.run db user now).1 := by
  cases call with
  | pauseCampaign campaignId confirm =>
    refine Assistant.pauseCampaign_writes confirm fun ranked confirmed c found running => ?_
    subst confirmed
    exact ⟨c, by simp [Op.sets, ToolCall.sets, ranked, found, Option.filter, running], rfl,
      Db.tenantCampaign?_eq_some found⟩
  | resumeCampaign campaignId =>
    refine Assistant.resumeCampaign_writes fun ranked c found paused => ?_
    have same := (Db.campaign?_mem (Option.filter_eq_some_iff.mp found).1).2
    exact ⟨by simp [Op.resumes, ranked, found, Option.filter, paused, same], rfl⟩
  | completeCampaign campaignId confirm =>
    refine Assistant.completeCampaign_writes fun ranked confirmed c found active => ?_
    subst confirmed
    have same : c.id = campaignId := (Db.campaign?_mem (Option.filter_eq_some_iff.mp found).1).2
    exact ⟨by simp [Op.completes, ranked, found, Option.filter, active, same], rfl⟩
  | synthesiseAudience campaignId members =>
    refine Assistant.synthesiseAudience_writes members fun sized ranked c found drafted mid stored => ?_
    have fits : 1 ≤ members.length ∧ members.length ≤ 200 := by omega
    exact ⟨c, by simp [Op.sets, ToolCall.sets, ranked, fits, found, Option.filter, drafted], rfl, stored⟩
  | acceptStrategy campaignId confirm calendar =>
    refine Assistant.acceptStrategy_writes confirm calendar
      fun ranked c found latest confirmed alone planned drafted mid stored => ?_
    obtain ⟨slots, rfl⟩ := planned
    subst confirmed
    exact ⟨c, by simp [Op.sets, ToolCall.sets, ranked, found, Option.filter, drafted, latest, alone], rfl, stored⟩
  | generateContent apiKey campaignId confirm generations =>
    refine Assistant.generateContent_writes wf generations (fun ranked c found keyed confirmed => ?_)
      fun _ _ _ new => ⟨new, fun old => absurd old (Nat.not_lt.mpr new)⟩
    subst keyed confirmed
    have same := (Db.campaign?_mem (Option.filter_eq_some_iff.mp found).1).2
    exact ⟨by simp [Op.seeds, ranked, found, same], rfl, rfl, rfl, fun d member _ => Or.inr member⟩
  | approveAllContent campaignId confirm =>
    refine Assistant.approveAllContent_writes wf fun ranked confirmed c found a member mid => ?_
    simp only [Op.may, Op.assistantApproves, ToolCall.approves, ranked, confirmed, and_self, if_true, found]
    exact List.mem_flatMap.mpr ⟨c, by simp, member⟩
  | approveAsset assetId =>
    refine Assistant.approveAsset_writes fun ranked a found eligible clean => ?_
    simp only [Op.may, Op.assistantApproves, ToolCall.approves, ranked, if_true, found]
    exact List.mem_filter.mpr ⟨by simp, decide_eq_true ⟨eligible, clean⟩⟩
  | rejectAsset assetId reason =>
    refine Assistant.rejectAsset_writes reason fun ranked a found eligible => ?_
    simp only [Op.may, Op.assistantRejects, ToolCall.rejects, ranked, if_true, found]
    exact List.mem_filter.mpr ⟨by simp, decide_eq_true eligible⟩
  | launchCampaign campaignId confirm =>
    refine Assistant.launchCampaign_writes confirm fun confirmed => ?_
    subst confirmed
    exact ⟨rfl, rfl⟩
  | draftOutbound campaignId audienceId overwrite replies =>
    refine Assistant.draftOutbound_writes audienceId overwrite replies (fun ranked c found _ a asked origin => ?_)
      fun _ _ unplanned => unplanned
    subst asked
    refine origin.imp_left fun listed => ?_
    simp only [ToolCall.overwrites, ranked, if_true, found]
    exact List.mem_flatMap.mpr ⟨c, by simp, listed⟩

/-- Every operation is a sequence of writes it may make. -/
theorem Op.run_writes (wf : db.Wf) (op : Op) : Writes (op.may db) now db (op.run db now) := by
  cases op with
  | createCampaign user draft => exact orKeep_writes fun _ done => createCampaign_writes done
  | patchCampaign user campaignId patch => exact orKeep_writes fun _ done => patchCampaign_writes done
  | upsertApprovalSettings user adminAbove cap currency =>
    exact orKeep_writes fun _ done => upsertApprovalSettings_writes done
  | insertProposal campaignId payload => exact insertProposal_writes db campaignId payload
  | insertAudience tenantId campaignId members => exact .side (sameCore_insertAudience db tenantId campaignId members now)
  | applyTransition user minimum campaignId name =>
    exact orKeep_writes fun _ done =>
      applyTransition_writes (fun ranked _ found => Op.asks_applyTransition name ranked found) done
  | acceptStrategy user proposalId calendar => exact orKeep_writes fun _ done => acceptStrategy_writes done
  | analyseCampaign campaignId autoPause =>
    refine analyseCampaign_writes campaignId autoPause fun c found paused running => ?_
    subst paused
    exact ⟨c, by simp [Op.sets, found, Option.filter, running], rfl, Db.campaign?_self found⟩
  | generateAsset assetId generation =>
    refine orKeep_map_writes fun _ done => generateAsset_writes assetId generation fun a status found left => ?_
    exact ⟨⟨found, left.resolve_right fun failed => failed done⟩, fun _ => rfl⟩
  | regenerateAsset user apiKey assetId =>
    exact orKeep_writes fun _ done => regenerateAsset_writes (fun ranked keyed _ found => ⟨⟨ranked, keyed, found⟩, rfl⟩) done
  | clearComplianceBlock user assetId => exact orKeep_writes fun _ done => clearComplianceBlock_writes done
  | approveAsset user assetId body => exact orKeep_writes fun _ done => approveAsset_writes done
  | rejectAsset user assetId reason category => exact orKeep_writes fun _ done => rejectAsset_writes done
  | batchApprove user assetIds dryRun writeFails =>
    exact orKeep_map_writes fun _ done => batchApprove_writes done
  | approveViaUi user assetId form => exact orKeep_map_writes fun _ done => approveViaUi_writes done
  | rejectViaUi user assetId reason category => exact orKeep_map_writes fun _ done => rejectViaUi_writes done
  | addVariant user apiKey testId =>
    exact orKeep_writes fun _ done => addVariant_writes (fun _ optional => optional) done
  | createAbTest user campaignId body => exact orKeep_writes fun _ done => createAbTest_writes wf done
  | launchAbTest user testId => exact orKeep_writes fun _ done => launchAbTest_writes done
  | stopAbTest user testId => exact orKeep_writes fun _ done => stopAbTest_writes done
  | promoteAbTest user testId =>
    exact orKeep_writes fun _ done => promoteAbTest_writes wf (fun _ => rfl) done
  | evaluateTest testId decision => exact evaluateTest_writes db testId decision
  | writeSideTables tables => exact .side ⟨rfl, rfl, rfl, rfl, rfl, rfl, rfl, rfl, le_rfl⟩
  | dispatchEmailAsset secret assetId answer batchId =>
    exact orKeep_writes fun _ done => dispatchEmailAsset_writes wf (fun _ _ => rfl) done
  | dispatchSocialAsset assetId answer =>
    refine orKeep_writes fun _ done => dispatchSocialAsset_writes wf (fun _ _ => rfl) (fun c revoked stored => ?_) done
    exact ⟨c, by simp [Op.sets, revoked], rfl, stored⟩
  | assistant user call => exact ToolCall.run_writes wf user call

/-- Every operation refines a sequence of moves it is licensed for. -/
theorem Op.run_moves (wf : db.Wf) (op : Op) : Moves (op.licence db) db (op.run db now) :=
  (Op.run_writes wf op).moves wf (fun _ _ asked => asked) (fun _ _ asked => asked) fun _ _ _ asked => asked

/-- A step of the system: an operation and the instant it happens at. -/
def Content.step (db : Db) (op : Op × Int) : Db := op.1.run db op.2

/-- The run rule of the content system: an invariant that every move licensed
by a permitted operation keeps holds in every state a permitted run reaches. -/
theorem Content.invariant {I : Db → Prop} {P : Db → Op × Int → Prop} {ops : List (Op × Int)} (fresh : db.Fresh)
    (start : I db) (along : Along Content.step P db ops)
    (keep : ∀ before op, P before op → ∀ mid db', mid.Wf → I mid → Move (op.1.licence before) mid db' → I db') :
    I (Lib.run Content.step db ops) := by
  have reached := Along.invariant (I := fun db => db.Wf ∧ I db) along ⟨fresh.wf, start⟩
    fun before op holds permitted => (Op.run_moves holds.1 op.1).induct holds.1 holds.2 (keep before op permitted)
  exact reached.2

end Steps

namespace Sample

def admin : AppUser := ⟨6, 1, .admin⟩

def manager : AppUser := ⟨7, 1, .manager⟩

def launch : Campaign :=
  { id := 0, tenantId := 1, name := "launch", status := .drafted, budgetTotal := 100, currency := "USD"
    startDate := 0, endDate := 9 }

/-- A tenant whose first campaign will have an accepted proposal with one email. -/
def planned : Db where
  proposals := [⟨50, 0, 1, [], true⟩]
  touchpoints := [⟨51, 50, "email", 0, 0⟩]

/-- A draft, with what its compliance check found. -/
def draft (hits : List ComplianceHit) : Generation :=
  .drafted
    { cwOutput := [("title", .str "offer"), ("body", .str "guaranteed returns")]
      brandCheck := .null
      seo := none
      hits := hits
      rewrittenForSuppression := false
      similarity := none }

end Sample

end MarketingAgents
