import MarketingAgents.AbTesting.Assignment
import MarketingAgents.Orchestrator.StateMachine
import MarketingAgents.Tools.EmailDispatch

namespace MarketingAgents

open Lib PyText

/-- What SendGrid answers to `POST /v3/mail/send`. -/
inductive SendgridResponse where
  | transportFailure (message : String)
  | response (statusCode : Nat) (text messageId : String)

/-- How a dispatch handler raises. -/
inductive HandlerError where
  | precondition (message : String)
  | assignment (error : AssignmentError)
  | tool (error : DispatchError)
  | social (message : String)
  | attributeError
  | keyError
  | valueError
  | multipleResultsFound
  | app (error : AppError)
deriving DecidableEq

section Connector

variable [PyText]

/-- `f"{x}"[:200]`. -/
def take200 (s : String) : String := String.ofList (s.toList.take 200)

def contentBlocks (message : EmailMessage) : List (String × String) :=
  [("text/plain", message.textBody), ("text/html", message.htmlBody)].filterMap fun block =>
    (block.2.filter (· ≠ "")).map fun body => (block.1, body)

/-- `SendGridConnector.send_batch`; a 2xx accepts the whole batch. -/
def sendgridSendBatch (payload : Dict String Json) (answer : SendgridResponse) (message : EmailMessage)
    (recipients : List EmailRecipient) : Except ConnectorError (List SendResult) :=
  if recipients = [] then .ok []
  else if str ((payload.get? "api_key").getD (.str "")) = "" then .error (.rejected "sendgrid api_key is missing")
  else if contentBlocks message = [] then .error (.rejected "message must have html_body or text_body")
  else match answer with
    | .transportFailure message => .error (.unreachable ("sendgrid transport failure: " ++ message))
    | .response statusCode text messageId =>
      if 500 ≤ statusCode then
        .error (.unreachable ("sendgrid " ++ toString statusCode ++ ": " ++ take200 text))
      else if 400 ≤ statusCode then
        .error (.rejected ("sendgrid " ++ toString statusCode ++ ": " ++ take200 text))
      else .ok (recipients.zipIdx.map fun entry =>
        { email := entry.1.email
          providerMessageId := if messageId = "" then none else some (messageId ++ "." ++ toString entry.2)
          accepted := true })

def verifiedSenders (payload : Dict String Json) : List String :=
  match payload.get? "verified_senders" with
  | some (.arr senders) => senders.filterMap fun sender => sender.str?.map lower
  | _ => []

/-- `SendGridConnector` on the credential's payload. -/
def sendgridConnector (payload : Dict String Json) (answer : SendgridResponse) : EmailConnector where
  provider := "sendgrid"
  verifiedSenders := verifiedSenders payload
  sendBatch _ := sendgridSendBatch payload answer

end Connector

section Reads

variable [PyText]

def scalarOneOrNone {α : Type} : List α → Except HandlerError (Option α)
  | [] => .ok none
  | [row] => .ok (some row)
  | _ => .error .multipleResultsFound

/-- The credential `_load_email_connector` decrypts. -/
def loadEmailPayload (db : Db) (tenantId : Uuid) : Except HandlerError (Dict String Json) := do
  let found ← scalarOneOrNone (db.credentials.filter fun cred => cred.tenantId = tenantId ∧ cred.provider = "sendgrid")
  let cred ← orRaise found (.precondition "no email integration configured for this tenant")
  pure cred.payload

/-- `_load_audience_members`: those of the newest audience. -/
def loadAudienceMembers (db : Db) (campaignId : Uuid) : List AudienceMember :=
  match ((db.audiences.filter (·.campaignId = campaignId)).insertionSort
      fun a b => b.createdAt ≤ a.createdAt).head? with
  | none => []
  | some audience => db.audienceMembers.filter (·.audienceId = audience.id)

/-- `str((member.payload or {}).get("email", "")).strip().lower()`. -/
def memberEmail (m : AudienceMember) : String := normalised (str ((m.payload.get? "email").getD (.str "")))

/-- The keys of `_existing_attempts`. -/
def existingAttempts (db : Db) (assetId : Uuid) : List String :=
  (db.dispatchAttempts.filter fun row => row.contentAssetId = assetId ∧ row.status = .sent).map
    fun row => lower row.recipientIdentifier

/-- The sent rows of the tenant since `cutoff` for one of the addresses. -/
def sentSince (db : Db) (tenantId : Uuid) (cutoff : Int) (addresses : List String) : List DispatchAttempt :=
  db.dispatchAttempts.filter fun row => row.tenantId = tenantId ∧ row.status = .sent ∧
    (∃ sentAt ∈ row.sentAt, cutoff ≤ sentAt) ∧ ∃ address ∈ addresses, lower row.recipientIdentifier = lower address

/-- `_DEDUP_WINDOW`, and days. -/
def hours (n : Int) : Int := n * 3600000000

/-- The raw addresses handed to `_recent_sent_recipients`, which strips each:
a truthy value that is not a string has no `strip`. -/
def recentRecipients (members : List AudienceMember) : Except HandlerError (List String) :=
  (members.filter fun m => m.payload ≠ []).foldlM (fun found m =>
    match (m.payload.get? "email").getD (.str "") with
    | .str raw => .ok (if raw = "" then found else found ++ [normalised raw])
    | value => if value.truthy then .error .attributeError else .ok found) []

def recentSentRecipients (db : Db) (tenantId : Uuid) (recipients : List String) (now : Int) : List String :=
  (sentSince db tenantId (now - hours 24) recipients).map fun row => lower row.recipientIdentifier

def cappedRecipients (db : Db) (tenantId : Uuid) (platform : ChannelPlatform) (candidates : List String) (now : Int) :
    Except HandlerError (List String) := do
  let setting ← scalarOneOrNone (db.frequencyCaps.filter fun cap =>
    cap.tenantId = tenantId ∧ cap.channelPlatform = platform ∧ cap.enabled)
  pure (match setting with
    | none => []
    | some cap =>
      let sent := sentSince db tenantId (now - hours (24 * cap.windowDays)) candidates
      let count address := (sent.filter fun row => lower row.recipientIdentifier = address).length
      (sent.map fun row => lower row.recipientIdentifier).filter fun address =>
        cap.maxSendsPerRecipient ≤ count address)

def buildComplianceFooter (db : Db) (tenantId : Uuid) : Option Json :=
  match (db.complianceSettings.find? (·.tenantId = tenantId)).bind TenantComplianceSettings.postalAddress with
  | some "" | none => none
  | some address => some (.obj [("unsubscribe_url", .str "\x7b\x7bunsubscribe_url\x7d\x7d"),
      ("postal_address", .str address)])

/-- `_build_unsubscribe_signer`; `fallback` is the secret of the settings. -/
def unsubscribeUrl (db : Db) (fallback : String) (tenantId : Uuid) (email : String) : String :=
  let stored := (db.complianceSettings.find? (·.tenantId = tenantId)).bind TenantComplianceSettings.unsubscribeSecret
  let secret := (stored.filter (· ≠ "")).getD fallback
  "https://app.example.com/api/unsubscribe/" ++ signToken secret "email-unsubscribe"
    (.obj [("tenant_id", .str (uuidStr tenantId)), ("channel_platform", .str "email"),
      ("identifier", .str (lower email))])

/-- `(asset.extra_metadata or {}).get("fields") or {}`, then read as a dictionary. -/
def assetFields (a : ContentAsset) : Except HandlerError (Dict String Json) :=
  match a.extraMetadata.get? "fields" with
  | none => .ok []
  | some value => if value.truthy then orRaise value.dict? .attributeError else .ok []

def messageFromAsset (a : ContentAsset) : Except HandlerError Json := do
  let fields ← assetFields a
  let body := a.content.getD ""
  let subject := match (fields.get? "subject").filter Json.truthy with
    | some subject => str subject
    | none => (a.title.filter (· ≠ "")).getD "(no subject)"
  pure (.obj [("subject", .str subject), ("text_body", .str body), ("html_body", .str body), ("headers", .obj [])])

/-- The message, built only when there is anyone to send to. -/
def planMessage (a : ContentAsset) (toSend : List (AudienceMember × String)) : Except HandlerError Json :=
  if toSend = [] then .ok .null else messageFromAsset a

def stringOnlyPayload (payload : Dict String Json) : Dict String Json :=
  payload.filterMap fun entry =>
    match entry.2 with
    | .str _ | .int _ | .float _ => some (entry.1, Json.str (str entry.2))
    | _ => none

end Reads

/-- The widths of `idempotency_key` and `provider_message_id` in `dispatch_attempt`. -/
def idempotencyKeyWidth : Nat := 200

def providerMessageIdWidth : Nat := 200

/-- What the handler does with one member of the audience. -/
inductive Triage where
  | skip | dedup | cap | send
deriving DecidableEq

/-- The locals of `dispatch_email_asset` when it reaches the provider. -/
structure EmailPlan where
  asset : ContentAsset
  campaign : Campaign
  payload : Dict String Json
  audienceSize : Nat
  assignments : List AbTestAssignment
  toSend : List (AudienceMember × String)
  capped : List (AudienceMember × String)
  deduped : List (AudienceMember × String)
  footer : Option Json
  toolInputs : Dict String Json

section Dispatch

variable [PyText]

/-- One pass of the audience loop. -/
def triage (existing recent capped : List String) (email : String) : Triage :=
  if email = "" then .skip
  else if email ∈ existing ∨ email ∈ recent then .dedup
  else if email ∈ capped then .cap
  else .send

/-- The members the loop puts on one of its lists. -/
def triaged (existing recent capped : List String) (members : List AudienceMember) (verdict : Triage) :
    List (AudienceMember × String) :=
  (members.map fun m => (m, memberEmail m)).filter fun entry => triage existing recent capped entry.2 = verdict

def audienceEntry (db : Db) (secret : String) (tenantId : Uuid) (footer : Option Json)
    (entry : AudienceMember × String) : Json :=
  let fields := stringOnlyPayload entry.1.payload
  let mergeFields := match footer with
    | some _ => Dict.set fields "unsubscribe_url" (.str (unsubscribeUrl db secret tenantId entry.2))
    | none => fields
  .obj [("email", .str entry.2), ("merge_fields", .obj mergeFields)]

def emailToolInputs (db : Db) (secret : String) (payload : Dict String Json) (a : ContentAsset) (footer : Option Json)
    (message : Json) (toSend : List (AudienceMember × String)) : Dict String Json :=
  [("from_email", ((payload.get? "default_from_email").filter Json.truthy).getD (.str "")),
    ("audience_batch", .arr (toSend.map (audienceEntry db secret a.tenantId footer))),
    ("message", message),
    ("idempotency_key", .str ("asset:" ++ uuidStr a.id))] ++
  match footer with
  | some footer => [("compliance_footer", footer)]
  | none => []

def idempotencyKey (assetId : Uuid) (email : String) : String :=
  "asset:" ++ uuidStr assetId ++ ":recipient:" ++ lower email

/-- What the handler reads once the asset and its campaign have passed their checks. -/
def planEmail (db : Db) (secret : String) (a : ContentAsset) (c : Campaign) (now : Int) :
    Except HandlerError EmailPlan := do
  let payload ← loadEmailPayload db a.tenantId
  let audience := loadAudienceMembers db a.campaignId
  require (audience ≠ []) (.precondition "no audience members materialised for this campaign")
  let (members, assignments) ← (filterAudienceForAbTest db a audience).mapError HandlerError.assignment
  let recipients ← recentRecipients members
  let existing := existingAttempts db a.id
  let recent := recentSentRecipients db a.tenantId recipients now
  let candidates := ((members.filter fun m => m.payload ≠ []).map memberEmail).filter (· ≠ "")
  let capped ← cappedRecipients db a.tenantId .email candidates now
  -- the rows of the capped are written before the call
  require (∀ entry ∈ triaged existing recent capped members .cap, (idempotencyKey a.id entry.2).length ≤ idempotencyKeyWidth)
    (.app .integrity)
  let toSend := triaged existing recent capped members .send
  let footer := buildComplianceFooter db a.tenantId
  let message ← planMessage a toSend
  pure
    { asset := a
      campaign := c
      payload := payload
      audienceSize := members.length
      assignments := assignments
      toSend := toSend
      capped := triaged existing recent capped members .cap
      deduped := triaged existing recent capped members .dedup
      footer := footer
      toolInputs := emailToolInputs db secret payload a footer message toSend }

/-- The checks of `dispatch_email_asset` and its reads; `none` is the return
of a paused campaign. -/
def beginEmail (db : Db) (secret : String) (assetId : Uuid) (now : Int) : Except HandlerError (Option EmailPlan) := do
  let a ← orRaise (db.asset? assetId) (.precondition ("content_asset " ++ uuidStr assetId ++ " not found"))
  require (a.status = .scheduled)
    (.precondition ("asset " ++ uuidStr assetId ++ " is in '" ++ a.status.value ++ "', not eligible for dispatch"))
  let c ← orRaise (db.campaign? a.campaignId) (.precondition ("campaign " ++ uuidStr a.campaignId ++ " not found"))
  if c.status = .paused then pure none
  else
    require (a.assetType = .email)
      (.precondition ("asset " ++ uuidStr assetId ++ " is type '" ++ a.assetType.value ++
        "'; email dispatcher only handles 'email'"))
    let plan ← planEmail db secret a c now
    pure (some plan)

/-- `tool.call(tool_inputs)`, when there is anyone to send to. -/
def callEmail (db : Db) (plan : EmailPlan) (answer : SendgridResponse) (batchId : Uuid) : Option DispatchOutcome :=
  if plan.toSend = [] then none
  else some (EmailDispatchTool.call (sendgridConnector plan.payload answer) db.suppressions plan.asset.tenantId batchId
    plan.toolInputs)

/-- `_upsert_dispatch_attempt`: on conflict the stored status stays. -/
def upsertDispatchAttempt (rows : List DispatchAttempt) (row : DispatchAttempt) : List DispatchAttempt :=
  if rows.any fun stored => stored.tenantId = row.tenantId ∧ stored.idempotencyKey = row.idempotencyKey then
    updateWhere
      (fun stored => stored.tenantId = row.tenantId ∧ stored.idempotencyKey = row.idempotencyKey ∧ stored.status ≠ .sent)
      (fun stored => { stored with attemptCount := stored.attemptCount + 1, lastError := row.lastError }) rows
  else rows ++ [row]

/-- What the report says about one address: its provider id, or the reason it was refused. -/
inductive Verdict where
  | accepted (messageId : String)
  | refused (reason : String)
  | unacknowledged
deriving DecidableEq

def verdictOf (result : DispatchResult) (email : String) : Verdict :=
  match (result.perMessageIds.reverse.find? fun entry => lower entry.1 = email) with
  | some entry => .accepted entry.2
  | none =>
    match result.rejections.reverse.find? fun entry => lower entry.email = email with
    | some entry => .refused entry.reason
    | none => .unacknowledged

def Verdict.status : Verdict → AttemptStatus
  | .accepted _ => .sent
  | .refused reason => if reason = "suppressed" then .suppressed else .rejected
  | .unacknowledged => .failed

def emailAttempt (plan : EmailPlan) (entry : AudienceMember × String) (status : AttemptStatus)
    (messageId lastError : Option String) (sentAt : Option Int) : DispatchAttempt where
  tenantId := plan.asset.tenantId
  contentAssetId := plan.asset.id
  audienceExternalId := some entry.1.externalId
  recipientIdentifier := entry.2
  idempotencyKey := idempotencyKey plan.asset.id entry.2
  provider := "sendgrid"
  providerMessageId := messageId
  status := status
  lastError := lastError
  sentAt := sentAt

def verdictAttempt (plan : EmailPlan) (now : Int) (entry : AudienceMember × String) : Verdict → DispatchAttempt
  | .accepted messageId => emailAttempt plan entry .sent (some messageId) none (some now)
  | .refused reason => emailAttempt plan entry (Verdict.refused reason).status none (some reason) none
  | .unacknowledged => emailAttempt plan entry .failed none (some "no_provider_acknowledgement") none

/-- The attempt rows, in the order they are written. -/
def emailAttempts (plan : EmailPlan) (result : Option DispatchResult) (now : Int) : List DispatchAttempt :=
  (plan.capped.map fun entry => emailAttempt plan entry .skipped none (some "frequency_cap") none) ++
  match result with
  | none => []
  | some result => plan.toSend.map fun entry => verdictAttempt plan now entry (verdictOf result entry.2)

def countStatus (plan : EmailPlan) (result : Option DispatchResult) (statuses : List AttemptStatus) : Nat :=
  match result with
  | none => 0
  | some result => (plan.toSend.filter fun entry => (verdictOf result entry.2).status ∈ statuses).length

def emailSummary (plan : EmailPlan) (result : Option DispatchResult) : Json :=
  let sent := countStatus plan result [.sent]
  let suppressed := countStatus plan result [.suppressed]
  let rejected := countStatus plan result [.rejected, .failed]
  let skipped := plan.capped.length
  .obj ([("sent", .int sent), ("suppressed", .int suppressed), ("rejected", .int rejected),
      ("skipped", .int skipped), ("deduped", .int plan.deduped.length), ("audience_size", .int plan.audienceSize)] ++
    (if sent = 0 ∧ 0 < skipped + suppressed + rejected then
      [("skip_reason", Json.str (if suppressed ≤ skipped ∧ rejected ≤ skipped then "frequency_cap"
        else if rejected ≤ suppressed then "suppressed" else "rejected"))]
    else []) ++
    if plan.footer.isSome then [("compliance_footer_injected", .bool true)] else [])

def publishedRow (loaded : ContentAsset) (extras : Dict String Json) (now : Int) (a : ContentAsset) : ContentAsset :=
  { a with
    status := .published
    publishedAt := some now
    extraMetadata := loaded.extraMetadata.merge extras }

/-- `UPDATE content_asset SET status, published_at, metadata`: the columns the
session changed, computed from the row it loaded. -/
def Db.publish (db : Db) (loaded : ContentAsset) (extras : Dict String Json) (now : Int) : Db :=
  { db with assets := updateWhere (·.id = loaded.id) (publishedRow loaded extras now) db.assets }

/-- `ON CONFLICT DO NOTHING` of the assignments. -/
def insertAssignments (rows inserted : List AbTestAssignment) : List AbTestAssignment :=
  rows ++ inserted.filter fun new => !rows.any fun row => row.tenantId = new.tenantId ∧
    row.abTestId = new.abTestId ∧ row.audienceExternalId = new.audienceExternalId

/-- The ledger takes the row: the id of a member is stored in as wide a column already. -/
def DispatchAttempt.Fits (row : DispatchAttempt) : Prop :=
  row.idempotencyKey.length ≤ idempotencyKeyWidth ∧ ∀ id ∈ row.providerMessageId, id.length ≤ providerMessageIdWidth

instance DispatchAttempt.decidableFits (row : DispatchAttempt) : Decidable row.Fits := inferInstanceAs (Decidable (_ ∧ _))

/-- The ledger rows `dispatch_email_asset` writes. -/
def Db.recordEmail (db : Db) (plan : EmailPlan) (result : Option DispatchResult) (now : Int) : Db :=
  { db with
    abTestAssignments := insertAssignments db.abTestAssignments plan.assignments
    dispatchAttempts := List.foldl upsertDispatchAttempt db.dispatchAttempts (emailAttempts plan result now) }

/-- The writes of `dispatch_email_asset` after the call. -/
def commitEmail (db : Db) (plan : EmailPlan) (result : Option DispatchResult) (now : Int) : Except AppError Db := do
  require (∀ row ∈ emailAttempts plan result now, row.Fits) .integrity
  maybeGoLive ((db.recordEmail plan result now).publish plan.asset
    [("dispatch_summary", emailSummary plan result), ("dispatch_provider", .str "sendgrid")] now) plan.campaign now

theorem commitEmail_eq_ok {db db' : Db} {plan : EmailPlan} {result : Option DispatchResult} {now : Int} :
    commitEmail db plan result now = .ok db' ↔ (∀ row ∈ emailAttempts plan result now, row.Fits) ∧
      maybeGoLive ((db.recordEmail plan result now).publish plan.asset
        [("dispatch_summary", emailSummary plan result), ("dispatch_provider", .str "sendgrid")] now) plan.campaign now =
          .ok db' := by
  simp [commitEmail]

/-- The rest of the handler, once the tool has returned or raised. -/
def finishEmail (db : Db) (plan : EmailPlan) (outcome : Option DispatchOutcome) (now : Int) : Except HandlerError Db :=
  match outcome with
  | none => (commitEmail db plan none now).mapError .app
  | some outcome =>
    match outcome.result with
    | .error error => .error (.tool error)
    | .ok result => (commitEmail db plan (some result) now).mapError .app

/-- `dispatch_email_asset` as one atomic step. -/
def dispatchEmailAsset (db : Db) (secret : String) (assetId : Uuid) (answer : SendgridResponse) (batchId : Uuid)
    (now : Int) : Except HandlerError Db :=
  match beginEmail db secret assetId now with
  | .error error => .error error
  | .ok none => .ok db
  | .ok (some plan) => finishEmail db plan (callEmail db plan answer batchId) now

end Dispatch

end MarketingAgents
