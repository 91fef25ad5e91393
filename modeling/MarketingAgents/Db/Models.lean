import MarketingAgents.Db.Text
import MarketingAgents.Orchestrator.Queue

namespace MarketingAgents

open Lib

abbrev Decimal := Rat

structure AppUser where
  id : Uuid
  tenantId : Uuid
  role : UserRole
deriving DecidableEq

/-- A row of `campaign`. Dates are day numbers. -/
structure Campaign where
  id : Uuid
  tenantId : Uuid
  name : String
  status : CampaignStatus
  budgetTotal : Decimal
  currency : String
  startDate : Int
  endDate : Int
  kpiTargets : Dict String Json := []
  launchedAt : Option Int := none
deriving DecidableEq

/-- A row of `content_asset`; `extraMetadata` is its `metadata` column. -/
structure ContentAsset where
  id : Uuid
  tenantId : Uuid
  campaignId : Uuid
  channelId : Option Uuid := none
  assetType : AssetType
  status : AssetStatus
  title : Option String := none
  content : Option String := none
  extraMetadata : Dict String Json := []
  isRequired : Bool := true
  scheduledAt : Option Int := none
  publishedAt : Option Int := none
deriving DecidableEq

structure StrategyProposal where
  id : Uuid
  campaignId : Uuid
  version : Nat
  payload : Dict String Json
  isAccepted : Bool
deriving DecidableEq

structure StrategyTouchpoint where
  id : Uuid
  proposalId : Uuid
  channelPlatform : String
  position : Int
  scheduledAt : Int
deriving DecidableEq

structure Channel where
  id : Uuid
  tenantId : Uuid
  platform : ChannelPlatform
  apiConfig : Dict String Json := []
deriving DecidableEq

structure AbTest where
  id : Uuid
  tenantId : Uuid
  campaignId : Uuid
  name : String
  hypothesis : Option String
  primaryMetric : String
  status : AbTestStatus
  variantAId : Option Uuid
  variantBId : Option Uuid
  winnerId : Option Uuid := none
  trafficSplit : Json := .obj []
  minRuntimeHours : Option Int := none
  maxRuntimeHours : Option Int := none
  startedAt : Option Int := none
  stoppedAt : Option Int := none
  lastEvaluatedAt : Option Int := none
deriving DecidableEq

structure AbTestAssignment where
  tenantId : Uuid
  abTestId : Uuid
  audienceExternalId : String
  variantId : Uuid
deriving DecidableEq

structure ApprovalDecisionLog where
  id : Uuid
  contentAssetId : Uuid
  reviewerId : Uuid
  decision : ApprovalDecision
  reason : Option String
  edits : Option (Dict String Json)
deriving DecidableEq

structure TenantApprovalSettings where
  tenantId : Uuid
  adminRequiredAboveAmount : Option Decimal
  autoApprovalCapAmount : Decimal
  currency : String
deriving DecidableEq

inductive AgentKind where
  | orchestrator
  | contentCreator
  | channelDistribution
deriving DecidableEq

structure Agent where
  id : Uuid
  tenantId : Uuid
  agentType : AgentKind
deriving DecidableEq

structure Audience where
  id : Uuid
  tenantId : Uuid
  campaignId : Uuid
  createdAt : Int
deriving DecidableEq

structure AudienceMember where
  audienceId : Uuid
  externalId : String
  payload : Dict String Json
deriving DecidableEq

/-- A row of `dispatch_attempt`. -/
structure DispatchAttempt where
  tenantId : Uuid
  contentAssetId : Uuid
  audienceExternalId : Option String
  recipientIdentifier : String
  idempotencyKey : String
  provider : String
  providerMessageId : Option String
  status : AttemptStatus
  attemptCount : Nat := 1
  lastError : Option String
  sentAt : Option Int
deriving DecidableEq

structure FrequencyCapSetting where
  tenantId : Uuid
  channelPlatform : ChannelPlatform
  maxSendsPerRecipient : Nat
  windowDays : Int
  enabled : Bool
deriving DecidableEq

/-- A row of `integration_credential`, with its payload decrypted. -/
structure IntegrationCredential where
  tenantId : Uuid
  channelId : Option Uuid
  provider : String
  payload : Dict String Json
deriving DecidableEq

structure TenantComplianceSettings where
  tenantId : Uuid
  postalAddress : Option String
  unsubscribeSecret : Option String
deriving DecidableEq

/-- A row of `suppression_entry`. -/
structure SuppressionEntry where
  id : Uuid
  tenantId : Uuid
  channelPlatform : ChannelPlatform
  identifier : String
  reason : String
  sourceEventId : Option Uuid
deriving DecidableEq

/-- Who wrote a campaign's status. -/
inductive Writer where
  | transition (name : String)
  | pauseHelper
  | autoPause
  | synthesiseAudience
  | acceptStrategy
  | generateContent
  | launchCampaign
deriving DecidableEq

structure StatusWrite where
  campaignId : Uuid
  before : CampaignStatus
  after : CampaignStatus
  writer : Writer
deriving DecidableEq

/-- The five places that set an asset to `approved`. -/
inductive ApprovalPath where
  | api
  | batch
  | ui
  | assistant
  | assistantAll
deriving DecidableEq

/-- One approval: the row as the approval left it, how and by whom it was
made, and the campaign as it stood at that moment. -/
structure Approval where
  asset : ContentAsset
  path : ApprovalPath
  role : UserRole
  campaign : Option Campaign
deriving DecidableEq

/-- The tables of the content pipeline. The last two fields are history
variables, newest entry first: every operation extends them, none reads them. -/
structure Db where
  campaigns : List Campaign := []
  assets : List ContentAsset := []
  tasks : List Task := []
  proposals : List StrategyProposal := []
  touchpoints : List StrategyTouchpoint := []
  channels : List Channel := []
  abTests : List AbTest := []
  decisions : List ApprovalDecisionLog := []
  approvalSettings : List TenantApprovalSettings := []
  agents : List Agent := []
  audiences : List Audience := []
  audienceMembers : List AudienceMember := []
  abTestAssignments : List AbTestAssignment := []
  dispatchAttempts : List DispatchAttempt := []
  frequencyCaps : List FrequencyCapSetting := []
  credentials : List IntegrationCredential := []
  complianceSettings : List TenantComplianceSettings := []
  suppressions : List SuppressionEntry := []
  /-- What `gen_random_uuid()` returns next. -/
  nextId : Uuid := 0
  approvals : List Approval := []
  statusWrites : List StatusWrite := []
deriving DecidableEq

/-- How an operation fails: an HTTP error, an exception of the domain, a tool
error of the assistant, or another exception of Python. -/
inductive AppError where
  | http (status : Nat) (detail : String)
  | unknownTransition (name : String) (status : CampaignStatus) (allowed : List String)
  | guardFailed (name : String) (status : CampaignStatus)
  | contentCreator (message : String)
  | precondition (message : String)
  | outreach (message : String)
  | tool (message : String)
  | queue (error : QueueError)
  /-- A row that a unique index, a foreign key or a check refuses. -/
  | integrity
  | raised (message : String)
deriving DecidableEq

/-- `scalar_one_or_none`. -/
def oneOrNone {α : Type} (rows : List α) : Except AppError (Option α) :=
  match rows with
  | [] => .ok none
  | [row] => .ok (some row)
  | _ => .error (.raised "MultipleResultsFound")

theorem oneOrNone_some {α : Type} {rows : List α} {row : α} (found : oneOrNone rows = .ok (some row)) : rows = [row] := by
  unfold oneOrNone at found
  split at found
  · cases found
  · cases found
    rfl
  · cases found

namespace Db

def campaign? (db : Db) (id : Uuid) : Option Campaign := db.campaigns.find? (·.id = id)

def asset? (db : Db) (id : Uuid) : Option ContentAsset := db.assets.find? (·.id = id)

/-- `db.get(Campaign, id)` in a session scoped to the user's tenant. -/
def tenantCampaign? (db : Db) (user : AppUser) (id : Uuid) : Option Campaign :=
  (db.campaign? id).filter (·.tenantId = user.tenantId)

def tenantAsset? (db : Db) (user : AppUser) (id : Uuid) : Option ContentAsset :=
  (db.asset? id).filter (·.tenantId = user.tenantId)

def setAsset (db : Db) (a : ContentAsset) : Db :=
  { db with assets := updateWhere (·.id = a.id) (fun _ => a) db.assets }

def setCampaign (db : Db) (c : Campaign) : Db :=
  { db with campaigns := updateWhere (·.id = c.id) (fun _ => c) db.campaigns }

/-- `UPDATE campaign SET status`, with the write recorded. -/
def writeStatus (db : Db) (campaignId : Uuid) (status : CampaignStatus) (writer : Writer) : Db :=
  match db.campaign? campaignId with
  | none => db
  | some c =>
    { db.setCampaign { c with status := status } with
      statusWrites := ⟨c.id, c.status, status, writer⟩ :: db.statusWrites }

/-- `asset.status = approved` of the row `a`, with the approval recorded. -/
def writeApproved (db : Db) (a : ContentAsset) (path : ApprovalPath) (role : UserRole) : Db :=
  let approved := { a with status := .approved }
  { db.setAsset approved with approvals := ⟨approved, path, role, db.campaign? a.campaignId⟩ :: db.approvals }

def insertAsset (db : Db) (a : ContentAsset) : Db :=
  { db with assets := db.assets ++ [{ a with id := db.nextId }], nextId := db.nextId + 1 }

def insertDecision (db : Db) (d : ApprovalDecisionLog) : Db :=
  { db with decisions := db.decisions ++ [{ d with id := db.nextId }], nextId := db.nextId + 1 }

def campaignAssets (db : Db) (campaignId : Uuid) : List ContentAsset :=
  db.assets.filter (·.campaignId = campaignId)

def requiredAssets (db : Db) (campaignId : Uuid) : List ContentAsset :=
  (db.campaignAssets campaignId).filter (·.isRequired)

def acceptedProposal? (db : Db) (campaignId : Uuid) : Option StrategyProposal :=
  db.proposals.find? fun p => p.campaignId = campaignId ∧ p.isAccepted

/-- The get-or-create of the per-tenant agent rows. -/
def ensureAgent (db : Db) (tenantId : Uuid) (kind : AgentKind) : Db × Uuid :=
  match db.agents.find? fun agent => agent.tenantId = tenantId ∧ agent.agentType = kind with
  | some agent => (db, agent.id)
  | none => ({ db with agents := db.agents ++ [⟨db.nextId, tenantId, kind⟩], nextId := db.nextId + 1 }, db.nextId)

/-- `enqueue_task` inside a transaction. -/
def enqueue (db : Db) (args : EnqueueArgs) (now : Int) : Except AppError Db :=
  match Queue.enqueueTask db.tasks args db.nextId now with
  | .ok (tasks, _) => .ok { db with tasks := tasks, nextId := db.nextId + 1 }
  | .error error => .error (.queue error)

end Db

end MarketingAgents
