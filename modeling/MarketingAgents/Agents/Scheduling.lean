import MarketingAgents.Lib.Result
import MarketingAgents.Db.Models

namespace MarketingAgents

open Lib PyText

def dispatchSkillFor : AssetType → Option String
  | .email => some "distribution.dispatch_email"
  | .socialPost => some "distribution.dispatch_social"
  | _ => none

section Scheduling

variable [PyText]

/-- `{**metadata, key: value}` on the row. -/
def ContentAsset.tag (a : ContentAsset) (key : String) (value : Json) : ContentAsset :=
  { a with extraMetadata := a.extraMetadata.set key value }

def touchpointIdFor (a : ContentAsset) : Option Uuid :=
  match a.extraMetadata.get? "touchpoint_id" with
  | some (.str raw) => uuidOf raw
  | _ => none

def touchpointFor (db : Db) (a : ContentAsset) : Option StrategyTouchpoint :=
  (touchpointIdFor a).bind fun id => db.touchpoints.find? (·.id = id)

/-- The slot `schedule_approved_assets` picks, with the warning it leaves. -/
def pickSlot (db : Db) (now : Int) (a : ContentAsset) : ContentAsset :=
  match touchpointFor db a with
  | some tp =>
    if now ≤ tp.scheduledAt then { a with scheduledAt := some tp.scheduledAt }
    else { a.tag "schedule_warning" (.obj [("kind", .str "past_slot"),
        ("original_slot", .str (isoformat tp.scheduledAt)), ("resolved_at", .str (isoformat now))]) with
      scheduledAt := some now }
  | none =>
    { a.tag "schedule_warning" (.obj [("kind", .str "no_touchpoint"), ("resolved_at", .str (isoformat now))]) with
      scheduledAt := some (a.scheduledAt.getD now) }

/-- The row as it stands when its iteration ends. -/
def scheduledRow (db : Db) (now : Int) (a : ContentAsset) : ContentAsset :=
  let a := { pickSlot db now a with status := .scheduled }
  match dispatchSkillFor a.assetType with
  | some _ => a
  | none => a.tag "schedule_warning" (.obj [("kind", .str "no_dispatch_handler"),
      ("asset_type", .str a.assetType.value)])

def dispatchTask (c : Campaign) (agentId : Uuid) (skill : String) (a : ContentAsset) (scheduledFor : Int) :
    EnqueueArgs where
  tenantId := a.tenantId
  agentId := agentId
  campaignId := some c.id
  skillName := skill
  inputData := [("asset_id", .str (uuidStr a.id)), ("campaign_id", .str (uuidStr c.id))]
  scheduledFor := some scheduledFor

def scheduleAsset (c : Campaign) (agentId : Uuid) (now : Int) (db : Db) (a : ContentAsset) : Except AppError Db :=
  let scheduled := scheduledRow db now a
  match dispatchSkillFor a.assetType with
  | none => .ok (db.setAsset scheduled)
  | some skill =>
    (db.setAsset scheduled).enqueue (dispatchTask c agentId skill scheduled (scheduled.scheduledAt.getD now)) now

def scheduleApprovedAssets (db : Db) (c : Campaign) (now : Int) : Except AppError Db :=
  let approved := (db.campaignAssets c.id).filter (·.status = .approved)
  if approved = [] then .ok db
  else
    let (db, agentId) := db.ensureAgent c.tenantId .channelDistribution
    approved.foldlM (scheduleAsset c agentId now) db

/-- An asset whose slot passed while the campaign was paused. -/
def elapsedRow (now : Int) (a : ContentAsset) : ContentAsset :=
  { (a.tag "skip_reason" (.str "slot_elapsed_during_pause")).tag "elapsed_at" (.str (isoformat now)) with
    status := .failed }

def resumeAsset (c : Campaign) (agentId : Uuid) (now : Int) (db : Db) (a : ContentAsset) : Except AppError Db :=
  if ∃ slot ∈ a.scheduledAt, slot < now then .ok (db.setAsset (elapsedRow now a))
  else match dispatchSkillFor a.assetType with
    | none => .ok db
    | some skill => db.enqueue (dispatchTask c agentId skill a (a.scheduledAt.getD now)) now

def resumeDistributionForCampaign (db : Db) (c : Campaign) (now : Int) : Except AppError Db :=
  let rows := (db.campaignAssets c.id).filter (·.status = .scheduled)
  if rows = [] then .ok db
  else
    let (db, agentId) := db.ensureAgent c.tenantId .channelDistribution
    rows.foldlM (resumeAsset c agentId now) db

def Db.cancelQueued (db : Db) (campaignId : Uuid) (now : Int) : Db :=
  { db with tasks := (Queue.cancelQueuedForCampaign db.tasks campaignId now).1 }

/-- `pause_campaign`, the helper outside the state machine. -/
def pauseCampaign (db : Db) (c : Campaign) (now : Int) : Db :=
  if c.status = .paused then db else (db.writeStatus c.id .paused .pauseHelper).cancelQueued c.id now

end Scheduling

end MarketingAgents
