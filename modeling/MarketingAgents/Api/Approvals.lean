import MarketingAgents.Agents.ContentCreator

namespace MarketingAgents

open Lib PyText

inductive ApprovalRejectionCategory where
  | offVoice | inaccurate | wrongAudience | length | compliance | other
deriving DecidableEq

def ApprovalRejectionCategory.value : ApprovalRejectionCategory → String
  | .offVoice => "off_voice"
  | .inaccurate => "inaccurate"
  | .wrongAudience => "wrong_audience"
  | .length => "length"
  | .compliance => "compliance"
  | .other => "other"

/-- The `approval_threshold` snapshot on the asset. -/
def thresholdOf (a : ContentAsset) : Dict String Json :=
  ((a.extraMetadata.get? "approval_threshold").bind Json.dict?).getD []

/-- `snapshot.get("currency") or "USD"`. -/
def snapshotCurrency (snapshot : Dict String Json) : Json :=
  ((snapshot.get? "currency").filter Json.truthy).getD (.str "USD")

/-- The value under the key, where `null` counts as absent. -/
def nonNull (snapshot : Dict String Json) (key : String) : Option Json := (snapshot.get? key).filter (· ≠ .null)

structure ApproveRequest where
  editedContent : Option String := none
  editedFields : Dict String String := []
  note : Option String := none

def ApproveRequest.hasEdits (body : ApproveRequest) : Bool := body.editedContent.isSome || !body.editedFields.isEmpty

def metadataFields (a : ContentAsset) : Dict String Json :=
  ((a.extraMetadata.get? "fields").bind Json.dict?).getD []

def mergeFields (existing : Dict String Json) (overrides : Dict String String) : Dict String Json :=
  existing.merge (overrides.map fun entry => (entry.1, Json.str entry.2))

def textOrNull (text : Option String) : Json :=
  match text with
  | some text => .str text
  | none => .null

/-- The inline edits, applied to the row itself. -/
def applyEdits (body : ApproveRequest) (a : ContentAsset) : ContentAsset :=
  { a with
    content := body.editedContent <|> a.content
    extraMetadata := if body.editedFields.isEmpty then a.extraMetadata
      else a.extraMetadata.set "fields" (.obj (mergeFields (metadataFields a) body.editedFields)) }

def editsPayload (body : ApproveRequest) (a : ContentAsset) : Dict String Json :=
  [("previous_content", textOrNull a.content), ("previous_fields", .obj (metadataFields a)),
    ("current_content", textOrNull (body.editedContent <|> a.content)),
    ("current_fields", .obj (mergeFields (metadataFields a) body.editedFields))] ++
  match body.note with
  | some "" | none => []
  | some note => [("note", .str note)]

def decisionRow (a : ContentAsset) (user : AppUser) (decision : ApprovalDecision) (reason : Option String)
    (edits : Option (Dict String Json)) : ApprovalDecisionLog where
  id := 0
  contentAssetId := a.id
  reviewerId := user.id
  decision := decision
  reason := reason
  edits := edits

/-- The write an approval with or without edits ends in. -/
def recordApproval (db : Db) (user : AppUser) (a : ContentAsset) (path : ApprovalPath) (body : ApproveRequest)
    (edited : Bool) : Db :=
  let decision := if edited then
      decisionRow a user .approvedWithEdits body.note (some (editsPayload body a))
    else decisionRow a user .approved body.note none
  (db.insertDecision decision).writeApproved (if edited then applyEdits body a else a) path user.role

section Approvals

variable [PyText]

/-- `_evaluate_threshold(...)["requires_admin"]`. -/
def requiresAdmin (a : ContentAsset) (c : Campaign) : Bool :=
  match nonNull (thresholdOf a) "admin_required_above_amount" with
  | none => false
  | some raw =>
    if snapshotCurrency (thresholdOf a) ≠ .str c.currency then false
    else match decimalOf (str raw) with
      | none => false
      | some amount => amount < c.budgetTotal

/-- `_exceeds_auto_approval_cap`, with the cap. -/
def exceedsAutoApprovalCap (a : ContentAsset) (c : Campaign) : Bool × Option Decimal :=
  if snapshotCurrency (thresholdOf a) ≠ .str c.currency then (false, none)
  else match decimalOf (str ((nonNull (thresholdOf a) "auto_approval_cap_amount").getD (.str "0"))) with
    | none => (false, none)
    | some cap => (cap < c.budgetTotal, some cap)

/-- `approve_asset` of the JSON API. -/
def approveAsset (db : Db) (user : AppUser) (assetId : Uuid) (body : ApproveRequest) (now : Int) :
    Except AppError Db := do
  require (UserRole.manager.rank ≤ user.role.rank) (.http 403 "requires role >= manager")
  let a ← orRaise (db.tenantAsset? user assetId) (.http 404 "content asset not found")
  let c ← orRaise (db.tenantCampaign? user a.campaignId) (.http 404 "campaign not found")
  require (a.status ∈ [.pendingApproval, .rejected])
    (.http 409 ("asset is in '" ++ a.status.value ++ "', not eligible for approval"))
  require (isComplianceBlocked a = false)
    (.http 422 "asset is compliance-blocked — clear via /clear-compliance first")
  require (requiresAdmin a c → user.role = .admin) (.http 403 "requires higher role: admin")
  maybeAdvanceToReadyToLaunch (recordApproval db user a .api body body.hasEdits) c.id now

/-- `reject_asset` of the JSON API. -/
def rejectAsset (db : Db) (user : AppUser) (assetId : Uuid) (reason : String) (category : ApprovalRejectionCategory)
    (now : Int) : Except AppError Db := do
  require (UserRole.manager.rank ≤ user.role.rank) (.http 403 "requires role >= manager")
  let a ← orRaise (db.tenantAsset? user assetId) (.http 404 "content asset not found")
  let c ← orRaise (db.tenantCampaign? user a.campaignId) (.http 404 "campaign not found")
  require (a.status = .pendingApproval)
    (.http 409 ("asset is in '" ++ a.status.value ++ "', not eligible for rejection"))
  let db := db.insertDecision
    (decisionRow a user .rejected (some reason) (some [("category", .str category.value)]))
  let (db, agentId) := (db.setAsset { a with status := .rejected }).ensureAgent a.tenantId .contentCreator
  let db ← db.enqueue
    { tenantId := a.tenantId
      agentId := agentId
      campaignId := some a.campaignId
      skillName := "content_creator.generate_asset"
      inputData := [("asset_id", .str (uuidStr a.id)), ("campaign_id", .str (uuidStr a.campaignId)),
        ("triggered_by_user_id", .str (uuidStr user.id)), ("rejection_reason", .str reason),
        ("rejection_category", .str category.value)] } now
  maybeRevertToContentInProduction db c.id now

structure BatchExclusionEntry where
  assetId : Uuid
  reason : String
  details : Dict String (Option String)
deriving DecidableEq

structure BatchApproveResponse where
  channelCounts : Dict String Nat
  totalSpendExposed : Decimal
  currency : String
  approved : List (Uuid × Option Uuid)
  excluded : List BatchExclusionEntry
  dryRun : Bool

/-- The accumulators of the loop in `batch_approve`. -/
structure BatchState where
  db : Db
  channelCounts : Dict String Nat := []
  campaignIds : List Uuid := []
  currency : Option String := none
  approved : List (Uuid × Option Uuid) := []
  excluded : List BatchExclusionEntry := []

/-- Why an asset is left out of a batch, by the order of the checks. -/
def batchExclusion (user : AppUser) (a : ContentAsset) (c : Campaign) : Option (String × Dict String (Option String)) :=
  if a.status ∉ [.pendingApproval, .rejected] then some ("wrong_status", [("status", some a.status.value)])
  else if isComplianceBlocked a then some ("compliance_blocked", [])
  else if (exceedsAutoApprovalCap a c).1 then
    some ("above_auto_approval_cap", [("campaign_budget", some (decimalStr c.budgetTotal)),
      ("cap", (exceedsAutoApprovalCap a c).2.map decimalStr), ("currency", some c.currency)])
  else if requiresAdmin a c ∧ user.role ≠ .admin then
    some ("requires_admin_role", [("campaign_budget", some (decimalStr c.budgetTotal)),
      ("threshold", (nonNull (thresholdOf a) "admin_required_above_amount").map str), ("currency", some c.currency)])
  else none

/-- `_platform_for(asset) or asset.asset_type.value`. -/
def batchPlatform (a : ContentAsset) : String :=
  match a.extraMetadata.get? "channel_platform" with
  | some (.str platform) => if platform = "" then a.assetType.value else platform
  | _ => a.assetType.value

def BatchState.exclude (st : BatchState) (assetId : Uuid) (reason : String) (details : Dict String (Option String)) :
    BatchState :=
  { st with excluded := st.excluded ++ [⟨assetId, reason, details⟩] }

/-- One asset of the batch. `writeFails` are the rows whose savepoint fails, with the error. -/
def batchApproveOne (user : AppUser) (dryRun : Bool) (writeFails : Dict Uuid String) (st : BatchState) (assetId : Uuid) :
    BatchState :=
  match st.db.tenantAsset? user assetId with
  | none => st.exclude assetId "not_found" []
  | some a =>
    match st.db.tenantCampaign? user a.campaignId with
    | none => st.exclude assetId "not_found" [("missing", some "campaign")]
    | some c =>
      match batchExclusion user a c with
      | some (reason, details) => st.exclude assetId reason details
      | none =>
        let platform := batchPlatform a
        let st := { st with
          channelCounts := st.channelCounts.set platform ((st.channelCounts.get? platform).getD 0 + 1)
          campaignIds := if c.id ∈ st.campaignIds then st.campaignIds else st.campaignIds ++ [c.id]
          currency := st.currency <|> some c.currency }
        if dryRun then { st with approved := st.approved ++ [(assetId, none)] }
        else match writeFails.get? assetId with
          | some error => st.exclude assetId "write_failed" [("error", some error)]
          | none =>
            { st with
              db := (st.db.insertDecision (decisionRow a user .approved none (some [("batch", .bool true)]))).writeApproved
                a .batch user.role
              approved := st.approved ++ [(assetId, some st.db.nextId)] }

/-- The launches a batch that is not a dry run tries at its end. -/
def batchAdvance (st : BatchState) (dryRun : Bool) (now : Int) : Except AppError Db :=
  if dryRun then .ok st.db else st.campaignIds.foldlM (fun db id => maybeAdvanceToReadyToLaunch db id now) st.db

def batchApprove (db : Db) (user : AppUser) (assetIds : List Uuid) (dryRun : Bool) (writeFails : Dict Uuid String)
    (now : Int) : Except AppError (Db × BatchApproveResponse) := do
  require (UserRole.manager.rank ≤ user.role.rank) (.http 403 "requires role >= manager")
  let st := assetIds.foldl (batchApproveOne user dryRun writeFails) { db := db }
  let response : BatchApproveResponse :=
    { channelCounts := st.channelCounts
      totalSpendExposed := (st.campaignIds.filterMap st.db.campaign?).foldl (fun sum c => sum + c.budgetTotal) 0
      currency := st.currency.getD "USD"
      approved := st.approved
      excluded := st.excluded
      dryRun := dryRun }
  let db ← batchAdvance st dryRun now
  pure (db, response)

/-- A submitted form of the approval pages. -/
structure UiResult where
  kind : String
  message : String
deriving DecidableEq

/-- `(form.get(key) or "").strip() or None`. -/
def formText (form : Dict String String) (key : String) : Option String :=
  let text := strip ((form.get? key).getD "")
  if text = "" then none else some text

def collectEditedFields (form : Dict String String) : Dict String String :=
  form.filterMap fun entry =>
    if "edit_field_".toList <+: entry.1.toList ∧ strip entry.2 ≠ "" then
      some (String.ofList (entry.1.toList.drop 11), entry.2)
    else none

def uiRequest (form : Dict String String) : ApproveRequest where
  editedContent := formText form "edited_content"
  editedFields := collectEditedFields form
  note := formText form "note"

/-- `approve_via_ui`; it makes no threshold check. -/
def approveViaUi (db : Db) (user : AppUser) (assetId : Uuid) (form : Dict String String) (now : Int) :
    Except AppError (Db × UiResult) := do
  require (UserRole.manager.rank ≤ user.role.rank) (.http 403 "requires role >= manager")
  let a ← orRaise (db.tenantAsset? user assetId) (.http 404 "asset not found")
  let c ← orRaise (db.tenantCampaign? user a.campaignId) (.http 404 "campaign not found")
  if a.status ∉ [.pendingApproval, .rejected, .drafted] then
    pure (db, ⟨"danger", "Asset is in '" ++ a.status.value ++ "' — not eligible for approval."⟩)
  else if isComplianceBlocked a then
    pure (db, ⟨"danger", "Asset is compliance-blocked. Clear via /api/content-assets/\x7bid\x7d/clear-compliance first."⟩)
  else
    let body := uiRequest form
    let edited := body.hasEdits || body.note.isSome
    let db ← tryAdvanceAfterApproval (recordApproval db user a .ui body edited) c.id now
    let launched := ((db.campaign? c.id).map (·.status)) = some .readyToLaunch
    pure (db, ⟨"success", (if edited then "Approved with edits." else "Approved.") ++
      if launched then " Every required asset is approved — campaign is now ready to launch." else ""⟩)

/-- `reject_via_ui`: the asset leaves the campaign instead of being regenerated. -/
def rejectViaUi (db : Db) (user : AppUser) (assetId : Uuid) (reason : String) (category : ApprovalRejectionCategory)
    (now : Int) : Except AppError (Db × UiResult) := do
  require (UserRole.manager.rank ≤ user.role.rank) (.http 403 "requires role >= manager")
  if strip reason = "" then pure (db, ⟨"danger", "Rejection reason is required."⟩)
  else
    let a ← orRaise (db.tenantAsset? user assetId) (.http 404 "asset not found")
    if a.status ∉ [.pendingApproval, .drafted] then
      pure (db, ⟨"danger", "Asset is in '" ++ a.status.value ++ "' — not eligible for rejection."⟩)
    else
      let db := db.insertDecision
        (decisionRow a user .rejected (some (strip reason)) (some [("category", .str category.value)]))
      let db ← tryAdvanceAfterApproval (db.setAsset { a with status := .rejected, isRequired := false })
        a.campaignId now
      pure (db, ⟨"info", "Rejected — " ++ category.value ++ "."⟩)

def upsertApprovalSettings (db : Db) (user : AppUser) (adminAbove : Option Decimal) (cap : Decimal)
    (currency : String) : Except AppError Db := do
  require (UserRole.admin.rank ≤ user.role.rank) (.http 403 "requires role >= admin")
  pure { db with approvalSettings :=
    db.approvalSettings.filter (·.tenantId ≠ user.tenantId) ++ [⟨user.tenantId, adminAbove, cap, currency⟩] }

end Approvals

end MarketingAgents
