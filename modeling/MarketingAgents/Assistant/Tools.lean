import MarketingAgents.Api.Approvals
import MarketingAgents.Api.Campaigns

namespace MarketingAgents.Assistant

open Lib PyText

/-- What a tool hands back to the conversation, less its texts. -/
structure ToolResult where
  requiresConfirmation : Bool
deriving DecidableEq

section Tools

variable [PyText]

/-- A tool leaves its session as it is when it raises: `handle_message` turns
the exception into a message and the request still commits. -/
abbrev ToolRun := Db × Except AppError ToolResult

def refuse (db : Db) (message : String) : ToolRun := (db, .error (.tool message))

def reply (db : Db) : ToolRun := (db, .ok ⟨false⟩)

def confirmation (db : Db) : ToolRun := (db, .ok ⟨true⟩)

/-- `_require_role`, then the campaign by its id within the tenant. -/
def withCampaign (db : Db) (user : AppUser) (minimum : UserRole) (campaignId : Uuid) (run : Campaign → ToolRun) :
    ToolRun :=
  if user.role.rank < minimum.rank then
    refuse db ("Your role '" ++ user.role.value ++ "' isn't allowed to do this — need '" ++ minimum.value ++
      "' or higher.")
  else match db.tenantCampaign? user campaignId with
    | none => refuse db ("No campaign matches '" ++ uuidStr campaignId ++ "'.")
    | some c => run c

def withAsset (db : Db) (user : AppUser) (minimum : UserRole) (assetId : Uuid) (run : ContentAsset → ToolRun) :
    ToolRun :=
  if user.role.rank < minimum.rank then
    refuse db ("Your role '" ++ user.role.value ++ "' isn't allowed to do this — need '" ++ minimum.value ++
      "' or higher.")
  else match db.tenantAsset? user assetId with
    | none => refuse db ("No content asset with id " ++ uuidStr assetId ++ ".")
    | some a => run a

/-- The state a nested call reached, or the one it started from when it raised. -/
def settle (db : Db) (result : Except AppError Db) : ToolRun :=
  match result with
  | .ok db => reply db
  | .error error => (db, .error error)

def pauseCampaign (db : Db) (user : AppUser) (campaignId : Uuid) (confirm : Bool) (now : Int) : ToolRun :=
  withCampaign db user .manager campaignId fun c =>
    if c.status = .paused then reply db
    else if ¬ confirm then confirmation db
    else reply (MarketingAgents.pauseCampaign db c now)

def resumeCampaign (db : Db) (user : AppUser) (campaignId : Uuid) (now : Int) : ToolRun :=
  withCampaign db user .manager campaignId fun c =>
    if c.status ≠ .paused then
      refuse db ("Campaign '" ++ c.name ++ "' is in '" ++ c.status.value ++ "' — only paused campaigns can be resumed.")
    else settle db (apply db c "resume" now)

def completeCampaign (db : Db) (user : AppUser) (campaignId : Uuid) (confirm : Bool) (now : Int) : ToolRun :=
  withCampaign db user .manager campaignId fun c =>
    if c.status = .completed then reply db
    else if ¬ confirm then confirmation db
    else settle db (apply db c "complete_campaign" now)

def synthesiseAudience (db : Db) (user : AppUser) (campaignId : Uuid) (members : List (String × Dict String Json))
    (now : Int) : ToolRun :=
  if members.length < 1 ∨ 200 < members.length then refuse db "size must be between 1 and 200."
  else withCampaign db user .marketer campaignId fun c =>
    let db := insertAudience db user.tenantId c.id members now
    let db := if c.status = .drafted then db.writeStatus c.id .audienceBuilt .synthesiseAudience else db
    reply db

/-- The latest proposal of the campaign that is not accepted. -/
def latestUnaccepted (db : Db) (campaignId : Uuid) : Option StrategyProposal :=
  ((db.proposals.filter fun p => p.campaignId = campaignId ∧ p.isAccepted = false).insertionSort
    (fun p q => q.version ≤ p.version)).head?

/-- `accept_strategy`: the flag stays set when the calendar cannot be seeded.
The update that demotes the other versions flushes the new flag first, so
beside an accepted version it meets the unique index on the accepted ones. -/
def acceptStrategy (db : Db) (user : AppUser) (campaignId : Uuid) (confirm : Bool)
    (calendar : Except String (List (String × Int × Int))) : ToolRun :=
  withCampaign db user .marketer campaignId fun c =>
    match latestUnaccepted db c.id with
    | none => refuse db ("No unaccepted proposal for '" ++ c.name ++ "'. Did you run the Strategist yet?")
    | some p =>
      if ¬ confirm then confirmation db
      else if (db.acceptedProposal? c.id).isSome then (db, .error .integrity)
      else
        let db := db.acceptProposal p
        match calendar with
        | .error message => refuse db ("Calendar seeding failed: " ++ message)
        | .ok slots =>
          let db := db.addTouchpoints p.id slots
          let db := if c.status = .audienceBuilt ∨ c.status = .drafted then
              db.writeStatus c.id .strategySet .acceptStrategy
            else db
          reply db

/-- The generation loop: an asset that fails does not stop the others. -/
def generateAll (now : Int) (db : Db) : List Uuid → List Generation → Db
  | [], _ => db
  | id :: ids, generations =>
    generateAll now (generateAsset db id (generations.headD (.raised "")) now).1 ids generations.tail

/-- `generate_content`; `generations` are the outcomes in the order of the seeded assets. -/
def generateContent (db : Db) (user : AppUser) (apiKey : Bool) (campaignId : Uuid) (confirm : Bool)
    (generations : List Generation) (now : Int) : ToolRun :=
  withCampaign db user .marketer campaignId fun c =>
    if ¬ apiKey then refuse db "ANTHROPIC_API_KEY is not configured — Content Creator needs a live LLM."
    else match db.acceptedProposal? c.id with
      | none => refuse db "No accepted strategy proposal yet. Run + accept the Strategist first."
      | some p =>
        if db.touchpoints.all (·.proposalId ≠ p.id) then
          refuse db "The accepted proposal has no touchpoints to draft for."
        else if ¬ confirm then confirmation db
        else match seedAssetsForCampaign db c now with
          | .error error => (db, .error error)
          | .ok (db, ids) =>
            let db := generateAll now db ids generations
            let db := if (db.campaign? c.id).map (·.status) = some .strategySet then
                db.writeStatus c.id .contentInProduction .generateContent
              else db
            reply db

/-- The drafts `approve_all_content` would approve. -/
def openDrafts (db : Db) (campaignId : Uuid) : List ContentAsset :=
  (db.campaignAssets campaignId).filter fun a => a.status ∈ [.drafted, .pendingApproval]

/-- `approve_all_content`: no compliance check, no threshold check, no decision row. -/
def approveAllContent (db : Db) (user : AppUser) (campaignId : Uuid) (confirm : Bool) (now : Int) : ToolRun :=
  withCampaign db user .manager campaignId fun c =>
    let rows := openDrafts db c.id
    if rows = [] then reply db
    else if ¬ confirm then confirmation db
    else
      let db := rows.foldl (fun db a => db.writeApproved a .assistantAll user.role) db
      settle db (tryAdvanceAfterApproval db c.id now)

/-- The flag `approve_asset` looks for; no modelled operation writes this key. -/
def hasBlockerViolation (a : ContentAsset) : Bool :=
  match a.extraMetadata.get? "compliance_violations" with
  | some (.arr flags) => flags.any fun flag =>
      (flag.dict?.bind fun fields => Dict.get? fields "severity") = some (.str "blocker")
  | _ => false

def approveAsset (db : Db) (user : AppUser) (assetId : Uuid) (now : Int) : ToolRun :=
  withAsset db user .manager assetId fun a =>
    if a.status ∉ [.drafted, .pendingApproval, .rejected] then
      refuse db ("Asset is in '" ++ a.status.value ++
        "' — only drafted / pending_approval / rejected assets can be approved.")
    else if hasBlockerViolation a then
      refuse db "Asset is compliance-blocked — clear compliance via the asset's review page in the UI first."
    else
      let db := db.writeApproved a .assistant user.role
      settle db (tryAdvanceAfterApproval db a.campaignId now)

def rejectAsset (db : Db) (user : AppUser) (assetId : Uuid) (reason : Option String) (now : Int) : ToolRun :=
  withAsset db user .manager assetId fun a =>
    if a.status ∉ [.drafted, .pendingApproval] then
      refuse db ("Asset is in '" ++ a.status.value ++ "' — only drafted / pending_approval assets can be rejected.")
    else
      let tagged := match reason with
        | some "" | none => a
        | some reason => a.tag "last_rejection_reason" (.str reason)
      let db := db.setAsset { tagged with status := .rejected, isRequired := false }
      settle db (tryAdvanceAfterApproval db a.campaignId now)

def launchCampaign (db : Db) (user : AppUser) (campaignId : Uuid) (confirm : Bool) (now : Int) : ToolRun :=
  withCampaign db user .manager campaignId fun c =>
    if c.status = .live then reply db
    else if c.status ≠ .readyToLaunch then
      refuse db ("'" ++ c.name ++ "' is in '" ++ c.status.value ++
        "' — only `ready_to_launch` campaigns can be launched. Approve all assets first.")
    else if ¬ confirm then confirmation db
    else
      let db := db.writeStatus c.id .live .launchCampaign
      let db := match db.campaign? c.id with
        | some live => db.setCampaign { live with launchedAt := some now }
        | none => db
      reply db

/-- `draft_outbound`, confirmed; `replies` hold one model reply per segment and channel. -/
def draftOutbound (db : Db) (user : AppUser) (campaignId audienceId : Uuid) (overwrite : Bool)
    (replies : List (Segment × String × OutreachReply)) : ToolRun :=
  withCampaign db user .marketer campaignId fun c =>
    match outreachDrafts c audienceId overwrite db replies with
    | (db, .ok ()) => reply db
    | (db, .error error) => (db, .error error)

/-- What holds of a refusal and of the tool's own run holds of the run within the tenant. -/
theorem withCampaign_rule {db : Db} {user : AppUser} {minimum : UserRole} {campaignId : Uuid} {run : Campaign → ToolRun}
    {P : ToolRun → Prop} (refused : ∀ message, P (refuse db message))
    (kept : ∀ c, minimum.rank ≤ user.role.rank → db.tenantCampaign? user campaignId = some c → P (run c)) :
    P (withCampaign db user minimum campaignId run) := by
  unfold withCampaign
  split
  · exact refused _
  · rename_i ranked
    split
    · exact refused _
    · rename_i c found
      exact kept c (Nat.le_of_not_lt ranked) found

theorem withAsset_rule {db : Db} {user : AppUser} {minimum : UserRole} {assetId : Uuid} {run : ContentAsset → ToolRun}
    {P : ToolRun → Prop} (refused : ∀ message, P (refuse db message))
    (kept : ∀ a, minimum.rank ≤ user.role.rank → db.tenantAsset? user assetId = some a → P (run a)) :
    P (withAsset db user minimum assetId run) := by
  unfold withAsset
  split
  · exact refused _
  · rename_i ranked
    split
    · exact refused _
    · rename_i a found
      exact kept a (Nat.le_of_not_lt ranked) found

end Tools

end MarketingAgents.Assistant
