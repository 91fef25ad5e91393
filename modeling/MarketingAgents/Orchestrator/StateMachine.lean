import MarketingAgents.Agents.Scheduling
import MarketingAgents.Agents.Seeding

namespace MarketingAgents

open Lib PyText

/-- The guards of the registered transitions, by the name of their function. -/
inductive Guard where
  | hasAcceptedStrategy
  | allRequiredAssetsDrafted
  | allRequiredAssetsApproved
  | readyToGoLive
  | anyRequiredAssetRejected
deriving DecidableEq

/-- The `on_enter` callbacks of the registered transitions. -/
inductive OnEnter where
  | enqueueEchoStep
  | seedContentAssets
  | flipDraftedAssetsToPendingApproval
  | scheduleApprovedAssets
  | cancelQueuedOnPause
  | resumeDistribution
  | autoGenerateReport
deriving DecidableEq

structure Transition where
  name : String
  fromState : CampaignStatus
  toState : CampaignStatus
  guard : Option Guard := none
  onEnter : Option OnEnter := none
deriving DecidableEq

/-- `campaign_sm`, in the order of its registrations. -/
def campaignSm : List Transition :=
  [{ name := "echo_step", fromState := .drafted, toState := .drafted, onEnter := some .enqueueEchoStep },
    { name := "set_strategy", fromState := .audienceBuilt, toState := .strategySet
      guard := some .hasAcceptedStrategy },
    { name := "start_content", fromState := .strategySet, toState := .contentInProduction
      onEnter := some .seedContentAssets },
    { name := "submit_for_approval", fromState := .contentInProduction, toState := .approvalPending
      guard := some .allRequiredAssetsDrafted, onEnter := some .flipDraftedAssetsToPendingApproval },
    { name := "start_launch", fromState := .approvalPending, toState := .readyToLaunch
      guard := some .allRequiredAssetsApproved, onEnter := some .scheduleApprovedAssets },
    { name := "start_live", fromState := .readyToLaunch, toState := .live, guard := some .readyToGoLive },
    { name := "regenerate_after_rejection", fromState := .approvalPending, toState := .contentInProduction
      guard := some .anyRequiredAssetRejected },
    { name := "pause", fromState := .live, toState := .paused, onEnter := some .cancelQueuedOnPause },
    { name := "pause", fromState := .optimising, toState := .paused, onEnter := some .cancelQueuedOnPause },
    { name := "pause", fromState := .readyToLaunch, toState := .paused, onEnter := some .cancelQueuedOnPause },
    { name := "resume", fromState := .paused, toState := .live, onEnter := some .resumeDistribution },
    { name := "complete_campaign", fromState := .live, toState := .completed, onEnter := some .autoGenerateReport },
    { name := "complete_campaign", fromState := .optimising, toState := .completed
      onEnter := some .autoGenerateReport },
    { name := "complete_campaign", fromState := .paused, toState := .completed
      onEnter := some .autoGenerateReport }]

/-- Some registered transition goes from `s` to `t`. -/
def Registered (s t : CampaignStatus) : Prop := ∃ tr ∈ campaignSm, tr.fromState = s ∧ tr.toState = t

instance (s t : CampaignStatus) : Decidable (Registered s t) :=
  inferInstanceAs (Decidable (∃ tr ∈ campaignSm, tr.fromState = s ∧ tr.toState = t))

/-- `metadata.compliance`, when it is a dictionary. -/
def complianceOf (metadata : Dict String Json) : Option (Dict String Json) :=
  (metadata.get? "compliance").bind Json.dict?

def isComplianceBlocked (a : ContentAsset) : Bool :=
  match complianceOf a.extraMetadata with
  | some compliance => ((Dict.get? compliance "blocked").map Json.truthy).getD false
  | none => false

/-- `metadata->'compliance'->>'blocked' = 'true'`. -/
def complianceBlockedInSql (a : ContentAsset) : Bool :=
  match complianceOf a.extraMetadata with
  | some compliance =>
    match Dict.get? compliance "blocked" with
    | some (.bool true) | some (.str "true") => true
    | _ => false
  | none => false

/-- Midnight of the day `day`, and the day of an instant. -/
def dayOf (now : Int) : Int := now / 86400000000

def Guard.holds (db : Db) (c : Campaign) (now : Int) : Guard → Bool
  | .hasAcceptedStrategy => db.proposals.any fun p => p.campaignId = c.id ∧ p.isAccepted
  | .allRequiredAssetsDrafted =>
    let required := db.requiredAssets c.id
    !required.isEmpty && required.all (fun a => a.status ∉ [.requested, .generating, .failed]) &&
      required.all fun a => !complianceBlockedInSql a
  | .allRequiredAssetsApproved =>
    let required := db.requiredAssets c.id
    !required.isEmpty && required.all fun a => a.status = .approved
  | .readyToGoLive =>
    let required := db.requiredAssets c.id
    c.startDate ≤ dayOf now && !required.isEmpty && required.all fun a =>
      a.status ∉ [.requested, .generating, .drafted, .pendingApproval, .approved, .rejected, .failed]
  | .anyRequiredAssetRejected => (db.requiredAssets c.id).any fun a => a.status = .rejected

section Apply

variable [PyText]

def enqueueEchoStep (db : Db) (c : Campaign) (now : Int) : Except AppError Db :=
  let (db, agentId) := db.ensureAgent c.tenantId .orchestrator
  db.enqueue
    { tenantId := c.tenantId
      agentId := agentId
      campaignId := some c.id
      skillName := "echo"
      inputData := [("campaign_id", .str (uuidStr c.id)), ("transition", .str "echo_step")] } now

/-- The threshold snapshot of `submit_for_approval`. -/
def thresholdSnapshot (settings : Option TenantApprovalSettings) (now : Int) : Json :=
  .obj
    [("admin_required_above_amount",
        match settings.bind TenantApprovalSettings.adminRequiredAboveAmount with
        | some amount => .str (decimalStr amount)
        | none => .null),
      ("auto_approval_cap_amount", .str ((settings.map fun s => decimalStr s.autoApprovalCapAmount).getD "0")),
      ("currency", .str ((settings.map TenantApprovalSettings.currency).getD "USD")),
      ("snapshot_taken_at", .str (isoformat now))]

def flipDraftedAssetsToPendingApproval (db : Db) (c : Campaign) (now : Int) : Db :=
  let rows := (db.requiredAssets c.id).filter (·.status = .drafted)
  let snapshot := thresholdSnapshot (db.approvalSettings.find? (·.tenantId = c.tenantId)) now
  rows.foldl (fun db a => db.setAsset { a.tag "approval_threshold" snapshot with status := .pendingApproval }) db

/-- The report of `complete_campaign` is a table of its own that nothing here reads. -/
def OnEnter.run (db : Db) (c : Campaign) (now : Int) : OnEnter → Except AppError Db
  | .enqueueEchoStep => MarketingAgents.enqueueEchoStep db c now
  | .seedContentAssets => (seedAssetsForCampaign db c now).map Prod.fst
  | .flipDraftedAssetsToPendingApproval => .ok (MarketingAgents.flipDraftedAssetsToPendingApproval db c now)
  | .scheduleApprovedAssets => MarketingAgents.scheduleApprovedAssets db c now
  | .cancelQueuedOnPause => .ok (db.cancelQueued c.id now)
  | .resumeDistribution => resumeDistributionForCampaign db c now
  | .autoGenerateReport => .ok db

def guardHolds (guard : Option Guard) (db : Db) (c : Campaign) (now : Int) : Bool :=
  match guard with
  | some guard => guard.holds db c now
  | none => true

def runOnEnter (onEnter : Option OnEnter) (db : Db) (c : Campaign) (now : Int) : Except AppError Db :=
  match onEnter with
  | some onEnter => onEnter.run db c now
  | none => .ok db

/-- `transitions_from`, sorted. -/
def transitionsFrom (status : CampaignStatus) : List String :=
  ((campaignSm.filter (·.fromState = status)).map Transition.name).insertionSort (· ≤ ·)

/-- `StateMachine.apply` on `campaign_sm`. -/
def apply (db : Db) (c : Campaign) (name : String) (now : Int) : Except AppError Db := do
  let tr ← orRaise (campaignSm.find? fun tr => tr.fromState = c.status ∧ tr.name = name)
    (.unknownTransition name c.status (transitionsFrom c.status))
  require (guardHolds tr.guard db c now) (.guardFailed name c.status)
  runOnEnter tr.onEnter (db.writeStatus c.id tr.toState (.transition name)) { c with status := tr.toState } now

/-- A transition that is taken is registered under its name, leads out of the status that the campaign has, passes its
guard and runs its hook. -/
theorem apply_eq_ok {db db' : Db} {c : Campaign} {name : String} {now : Int} (done : apply db c name now = .ok db') :
    ∃ tr ∈ campaignSm, tr.fromState = c.status ∧ tr.name = name ∧ guardHolds tr.guard db c now = true ∧
      runOnEnter tr.onEnter (db.writeStatus c.id tr.toState (.transition name)) { c with status := tr.toState } now =
        .ok db' := by
  simp only [apply, bind_eq_ok, orRaise_eq_ok, require_eq_ok] at done
  obtain ⟨tr, found, _, guarded, entered⟩ := done
  have named : tr.fromState = c.status ∧ tr.name = name := by simpa using List.find?_some found
  exact ⟨tr, List.mem_of_find?_eq_some found, named.1, named.2, guarded, entered⟩

/-- `try: apply(...) except (UnknownTransitionError, GuardFailedError)`: the
two errors leave the tables alone, any other one propagates. -/
def tryApply (db : Db) (c : Campaign) (name : String) (now : Int) : Except AppError Db :=
  match apply db c name now with
  | .ok db => .ok db
  | .error (.unknownTransition ..) | .error (.guardFailed ..) => .ok db
  | .error error => .error error

theorem tryApply_eq_ok {db db' : Db} {c : Campaign} {name : String} {now : Int}
    (done : tryApply db c name now = .ok db') : apply db c name now = .ok db' ∨ db' = db := by
  unfold tryApply at done
  split at done
  · rename_i applied
    exact Or.inl (applied.trans done)
  · exact Or.inr (Except.ok.inj done).symm
  · exact Or.inr (Except.ok.inj done).symm
  · cases done

/-- Apply the transition if the campaign stands in the given state. -/
def applyFrom (status : CampaignStatus) (name : String) (db : Db) (campaignId : Uuid) (now : Int) :
    Except AppError Db :=
  match db.campaign? campaignId with
  | some c => if c.status = status then tryApply db c name now else .ok db
  | none => .ok db

theorem applyFrom_eq_ok {db db' : Db} {status : CampaignStatus} {name : String} {campaignId : Uuid} {now : Int}
    (done : applyFrom status name db campaignId now = .ok db') :
    (∃ c, db.campaign? campaignId = some c ∧ apply db c name now = .ok db') ∨ db' = db := by
  unfold applyFrom at done
  split at done
  · rename_i c found
    split at done
    · exact (tryApply_eq_ok done).imp_left fun applied => ⟨c, found, applied⟩
    · exact Or.inr (Except.ok.inj done).symm
  · exact Or.inr (Except.ok.inj done).symm

/-- `_maybe_submit_for_approval`, after its own look for unfinished assets. -/
def maybeSubmitForApproval (db : Db) (campaignId : Uuid) (now : Int) : Except AppError Db :=
  if (db.requiredAssets campaignId).any fun a => a.status ∈ [.requested, .generating, .failed] then .ok db
  else applyFrom .contentInProduction "submit_for_approval" db campaignId now

def maybeAdvanceToReadyToLaunch (db : Db) (campaignId : Uuid) (now : Int) : Except AppError Db :=
  applyFrom .approvalPending "start_launch" db campaignId now

def maybeRevertToContentInProduction (db : Db) (campaignId : Uuid) (now : Int) : Except AppError Db :=
  applyFrom .approvalPending "regenerate_after_rejection" db campaignId now

/-- `_maybe_go_live`, on the campaign as the session loaded it. -/
def maybeGoLive (db : Db) (c : Campaign) (now : Int) : Except AppError Db :=
  if c.status = .readyToLaunch then tryApply db c "start_live" now else .ok db

/-- `try_advance_after_approval`: a submission that is refused leaves the
campaign where it is, and then the launch is not tried either. -/
def tryAdvanceAfterApproval (db : Db) (campaignId : Uuid) (now : Int) : Except AppError Db := do
  let db ← applyFrom .contentInProduction "submit_for_approval" db campaignId now
  applyFrom .approvalPending "start_launch" db campaignId now

end Apply

end MarketingAgents
