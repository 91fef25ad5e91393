import MarketingAgents.Orchestrator.StateMachine

namespace MarketingAgents

open Lib PyText

def editableStates : List CampaignStatus :=
  [.drafted, .audienceBuilt, .strategySet, .contentInProduction, .approvalPending, .readyToLaunch]

/-- The fields of `CampaignPatch` that the pipeline reads. -/
structure CampaignPatch where
  name : Option String := none
  startDate : Option Int := none
  endDate : Option Int := none
  budgetTotal : Option Decimal := none
  currency : Option String := none
  kpiTargets : Option (Dict String Json) := none

def CampaignPatch.apply (patch : CampaignPatch) (c : Campaign) : Campaign :=
  { c with
    name := patch.name.getD c.name
    startDate := patch.startDate.getD c.startDate
    endDate := patch.endDate.getD c.endDate
    budgetTotal := patch.budgetTotal.getD c.budgetTotal
    currency := patch.currency.getD c.currency
    kpiTargets := patch.kpiTargets.getD c.kpiTargets }

/-- `create_campaign`, of the API and of the assistant. -/
def createCampaign (db : Db) (user : AppUser) (draft : Campaign) : Except AppError Db := do
  require (UserRole.marketer.rank ≤ user.role.rank) (.http 403 "requires role >= marketer")
  require (draft.startDate ≤ draft.endDate) (.http 422 "end_date must be on or after start_date")
  pure { db with
    campaigns := db.campaigns ++
      [{ draft with id := db.nextId, tenantId := user.tenantId, status := .drafted, launchedAt := none }]
    nextId := db.nextId + 1 }

def patchCampaign (db : Db) (user : AppUser) (campaignId : Uuid) (patch : CampaignPatch) : Except AppError Db := do
  require (UserRole.marketer.rank ≤ user.role.rank) (.http 403 "requires role >= marketer")
  let c ← orRaise (db.tenantCampaign? user campaignId) (.http 404 "campaign not found")
  require (c.status ∈ editableStates)
    (.http 409 ("campaign in '" ++ c.status.value ++ "' state; editing the core fields is locked until it returns " ++
      "to a pre-launch state"))
  require ((patch.apply c).startDate ≤ (patch.apply c).endDate) (.http 422 "end_date must be on or after start_date")
  pure (db.setCampaign (patch.apply c))

/-- A strategist run that persists the next proposal version. -/
def insertProposal (db : Db) (campaignId : Uuid) (payload : Dict String Json) : Db :=
  let version := (db.proposals.filter (·.campaignId = campaignId)).length + 1
  { db with
    proposals := db.proposals ++ [⟨db.nextId, campaignId, version, payload, false⟩]
    nextId := db.nextId + 1 }

/-- A materialised audience with its members. -/
def insertAudience (db : Db) (tenantId campaignId : Uuid) (members : List (String × Dict String Json)) (now : Int) :
    Db :=
  { db with
    audiences := db.audiences ++ [⟨db.nextId, tenantId, campaignId, now⟩]
    audienceMembers := db.audienceMembers ++ members.map fun m => ⟨db.nextId, m.1, m.2⟩
    nextId := db.nextId + 1 }

/-- The accepted flag moves to the proposal. -/
def Db.acceptProposal (db : Db) (p : StrategyProposal) : Db :=
  { db with proposals := db.proposals.map fun q =>
    if q.campaignId = p.campaignId then { q with isAccepted := q.id = p.id } else q }

/-- The rows `seed_calendar` adds for the slots it planned. -/
def Db.addTouchpoints (db : Db) (proposalId : Uuid) : List (String × Int × Int) → Db
  | [] => db
  | (platform, position, scheduledAt) :: rest =>
    Db.addTouchpoints
      { db with
        touchpoints := db.touchpoints ++ [⟨db.nextId, proposalId, platform, position, scheduledAt⟩]
        nextId := db.nextId + 1 }
      proposalId rest

section Campaigns

variable [PyText]

/-- `apply_transition` and the pause, resume and start-content endpoints. -/
def applyTransition (db : Db) (user : AppUser) (minimum : UserRole) (campaignId : Uuid) (name : String) (now : Int) :
    Except AppError Db := do
  require (minimum.rank ≤ user.role.rank) (.http 403 ("requires role >= " ++ minimum.value))
  let c ← orRaise (db.tenantCampaign? user campaignId) (.http 404 "campaign not found")
  apply db c name now

/-- `accept_strategy` of the API; `calendar` is what `generate_calendar` plans, or why it cannot. -/
def acceptStrategy (db : Db) (user : AppUser) (proposalId : Uuid) (calendar : Except String (List (String × Int × Int)))
    (now : Int) : Except AppError Db := do
  require (UserRole.marketer.rank ≤ user.role.rank) (.http 403 "requires role >= marketer")
  let p ← orRaise (db.proposals.find? (·.id = proposalId)) (.http 404 "proposal not found")
  if p.isAccepted then pure db
  else
    let c ← orRaise (db.tenantCampaign? user p.campaignId) (.http 404 "campaign not found")
    let others := (db.proposals.filter fun q => q.campaignId = p.campaignId ∧ q.id ≠ p.id).map StrategyProposal.id
    let db := { db with touchpoints := db.touchpoints.filter (·.proposalId ∉ others) }.acceptProposal p
    match calendar with
    | .error message => .error (.http 422 message)
    | .ok slots =>
      let db := db.addTouchpoints p.id slots
      if c.status = .audienceBuilt then apply db c "set_strategy" now else pure db

/-- The auto-pause of `analyse_campaign`, once its anomalies call for one. It
writes the status column and cancels no task. -/
def analyseCampaign (db : Db) (campaignId : Uuid) (autoPause : Bool) : Db :=
  match db.campaign? campaignId with
  | some c => if autoPause ∧ c.status ≠ .paused then db.writeStatus c.id .paused .autoPause else db
  | none => db

end Campaigns

end MarketingAgents
