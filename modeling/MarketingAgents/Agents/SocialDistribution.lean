import MarketingAgents.Agents.EmailDistribution

namespace MarketingAgents

open Lib PyText

/-- How `publish_post` ends once it talks to the platform, its own retries included. -/
inductive SocialAnswer where
  | posted (urn : String)
  | revoked (message : String)
  | unreachable (message : String)
  | rejected (message : String)
deriving DecidableEq

/-- The connector returns the id of a post. -/
def SocialAnswer.named : SocialAnswer → Bool
  | .posted urn => urn ≠ ""
  | _ => false

structure SocialResult where
  providerPostId : String
  url : String
  idempotentHit : Bool
deriving DecidableEq

inductive SocialError where
  | revoked (message : String)
  | other (error : HandlerError)
deriving DecidableEq

/-- Whether the platform was called, and how `SocialPublishTool.call` ended. -/
structure SocialOutcome where
  called : Bool
  result : Except SocialError SocialResult

/-- The locals of `dispatch_social_asset` when it reaches the tool. -/
structure SocialPlan where
  asset : ContentAsset
  campaign : Campaign
  channel : Channel
  provider : String
  pageUrn : String
  text : String
  mediaUrl : Json
  mediaRequired : Bool

section Social

variable [PyText]

/-- The value under the key if it is truthy, as text. -/
def truthyText (fields : Dict String Json) (key : String) : Option String :=
  ((fields.get? key).filter Json.truthy).map str

def socialTextFromAsset (a : ContentAsset) : Except HandlerError String := do
  let fields ← assetFields a
  let text := ["body", "text", "headline"].findSome? fun key =>
    match Dict.get? fields key with
    | some (.str value) => if strip value = "" then none else some (strip value)
    | _ => none
  pure ((text <|> a.content.filter (· ≠ "") <|> a.title.filter (· ≠ "")).getD "")

/-- What the handler reads once the asset and its campaign have passed their checks. -/
def planSocial (db : Db) (a : ContentAsset) (channelId : Uuid) (c : Campaign) : Except HandlerError SocialPlan := do
  let channel ← orRaise (db.channels.find? (·.id = channelId))
    (.precondition ("channel " ++ uuidStr channelId ++ " not found"))
  let provider := (truthyText channel.apiConfig "provider").getD channel.platform.value
  let pageUrn := (truthyText channel.apiConfig "page_urn").getD ""
  require (pageUrn ≠ "") (.precondition ("channel " ++ uuidStr channelId ++ " api_config is missing page_urn"))
  let found ← scalarOneOrNone (db.credentials.filter fun cred =>
    cred.channelId = some channel.id ∧ cred.provider = provider)
  let cred ← orRaise found
    (.precondition ("no " ++ provider ++ " credential attached to channel " ++ uuidStr channel.id))
  require (provider = "linkedin") (.precondition ("no client config for social provider '" ++ provider ++ "'"))
  require ((cred.payload.get? "access_token").isSome) .keyError
  let text ← socialTextFromAsset a
  pure
    { asset := a
      campaign := c
      channel := channel
      provider := provider
      pageUrn := pageUrn
      text := text
      mediaUrl := (a.extraMetadata.get? "media_url").getD .null
      mediaRequired := ((a.extraMetadata.get? "media_required").map Json.truthy).getD false }

/-- The checks of `dispatch_social_asset` and its reads; `none` is the return
of a paused campaign. -/
def beginSocial (db : Db) (assetId : Uuid) : Except HandlerError (Option SocialPlan) := do
  let a ← orRaise (db.asset? assetId) (.precondition ("content_asset " ++ uuidStr assetId ++ " not found"))
  require (a.status = .scheduled)
    (.precondition ("asset " ++ uuidStr assetId ++ " is in '" ++ a.status.value ++ "', not eligible for dispatch"))
  require (a.assetType = .socialPost)
    (.precondition ("asset " ++ uuidStr assetId ++ " is type '" ++ a.assetType.value ++
      "'; social dispatcher only handles 'social_post'"))
  let channelId ← orRaise a.channelId
    (.precondition ("asset " ++ uuidStr assetId ++ " has no channel_id; cannot dispatch without a destination"))
  let c ← orRaise (db.campaign? a.campaignId) (.precondition ("campaign " ++ uuidStr a.campaignId ++ " not found"))
  if c.status = .paused then pure none
  else
    let plan ← planSocial db a channelId c
    pure (some plan)

def SocialPlan.idempotencyKey (plan : SocialPlan) : String :=
  "asset:" ++ uuidStr plan.asset.id ++ ":channel:" ++ uuidStr plan.channel.id

def shareUrl (urn : String) : String := "https://www.linkedin.com/feed/update/" ++ urn ++ "/"

/-- The input checks of `SocialPublishTool.call`, in their order. -/
def socialInputError (plan : SocialPlan) : Option String :=
  if strip plan.idempotencyKey = "" then some "idempotency_key is required"
  else if normalised plan.provider ≠ "linkedin" then
    some ("connector provider 'linkedin' does not match requested platform '" ++ normalised plan.provider ++ "'")
  else if strip plan.pageUrn = "" then some "page_urn is required"
  else if strip plan.text = "" then some "content.text is required"
  else none

/-- The post a sent attempt with the same key already made. -/
def cachedPost (db : Db) (plan : SocialPlan) : Option String :=
  (db.dispatchAttempts.find? fun row => row.tenantId = plan.asset.tenantId ∧
      row.idempotencyKey = strip plan.idempotencyKey).bind fun row =>
    if row.status = .sent then row.providerMessageId.filter (· ≠ "") else none

/-- `tool.call(...)` up to the platform: its checks, the ledger and the media
rule; `none` goes on to the call. -/
def lookUpSocial (db : Db) (plan : SocialPlan) : Option SocialOutcome :=
  match socialInputError plan with
  | some message => some ⟨false, .error (.other (.social message))⟩
  | none =>
    match cachedPost db plan with
    | some postId => some ⟨false, .ok ⟨postId, shareUrl postId, true⟩⟩
    | none =>
      if plan.mediaRequired ∧ plan.mediaUrl.truthy = false then
        some ⟨false, .error (.other (.social "post.media_required=true but no media_url supplied"))⟩
      else none

/-- What is known before the call of the platform: an error, or the post that the ledger has. -/
theorem lookUpSocial_known {db : Db} {plan : SocialPlan} {outcome : SocialOutcome}
    (known : lookUpSocial db plan = some outcome) : outcome.called = false ∧
      ∀ result, outcome.result = .ok result → cachedPost db plan = some result.providerPostId := by
  unfold lookUpSocial at known
  split at known
  · cases known
    exact ⟨rfl, nofun⟩
  · split at known
    · rename_i postId cached
      cases known
      exact ⟨rfl, fun result returned => by cases returned; exact cached⟩
    · split at known
      · cases known
        exact ⟨rfl, nofun⟩
      · cases known

/-- The platform is called where the ledger has no post. -/
theorem lookUpSocial_unknown {db : Db} {plan : SocialPlan} (unknown : lookUpSocial db plan = none) :
    cachedPost db plan = none := by
  unfold lookUpSocial at unknown
  split at unknown
  · cases unknown
  · split at unknown
    · cases unknown
    · rename_i missing
      exact missing

/-- `LinkedInConnector.publish_post`. -/
def publishSocial : SocialAnswer → SocialOutcome
  | .posted urn =>
    if urn = "" then ⟨true, .error (.other (.social "linkedin returned no post id"))⟩
    else ⟨true, .ok ⟨urn, shareUrl urn, false⟩⟩
  | .revoked message => ⟨true, .error (.revoked message)⟩
  | .unreachable message | .rejected message => ⟨true, .error (.other (.social message))⟩

/-- `tool.call(...)`. -/
def callSocial (db : Db) (plan : SocialPlan) (answer : SocialAnswer) : SocialOutcome :=
  (lookUpSocial db plan).getD (publishSocial answer)

def socialAttempt (plan : SocialPlan) (result : SocialResult) (now : Int) : DispatchAttempt where
  tenantId := plan.asset.tenantId
  contentAssetId := plan.asset.id
  audienceExternalId := none
  recipientIdentifier := plan.pageUrn
  idempotencyKey := plan.idempotencyKey
  provider := plan.provider
  providerMessageId := some result.providerPostId
  status := .sent
  lastError := none
  sentAt := some now

def socialExtras (plan : SocialPlan) (result : SocialResult) : Dict String Json :=
  [("social_post", .obj [("provider", .str plan.provider), ("provider_post_id", .str result.providerPostId),
      ("url", .str result.url), ("idempotent_hit", .bool result.idempotentHit)]),
    ("dispatch_summary", .obj [("sent", .int (if result.idempotentHit then 0 else 1)),
      ("idempotent_hits", .int (if result.idempotentHit then 1 else 0)), ("audience_size", .int 1)]),
    ("dispatch_provider", .str plan.provider)]

def Db.recordSocial (db : Db) (plan : SocialPlan) (result : SocialResult) (now : Int) : Db :=
  { db with dispatchAttempts := upsertDispatchAttempt db.dispatchAttempts (socialAttempt plan result now) }

/-- The writes of `dispatch_social_asset` after a post. -/
def commitSocial (db : Db) (plan : SocialPlan) (result : SocialResult) (now : Int) : Except AppError Db := do
  require (socialAttempt plan result now).Fits .integrity
  maybeGoLive ((db.recordSocial plan result now).publish plan.asset (socialExtras plan result) now) plan.campaign now

theorem commitSocial_eq_ok {db db' : Db} {plan : SocialPlan} {result : SocialResult} {now : Int} :
    commitSocial db plan result now = .ok db' ↔ (socialAttempt plan result now).Fits ∧
      maybeGoLive ((db.recordSocial plan result now).publish plan.asset (socialExtras plan result) now) plan.campaign now =
        .ok db' := by
  simp [commitSocial]

def revokedRow (loaded : ContentAsset) (message : String) (a : ContentAsset) : ContentAsset :=
  { a with
    status := .failed
    extraMetadata := loaded.extraMetadata.merge
      [("dispatch_error", .obj [("kind", .str "oauth_revoked"), ("message", .str message)])] }

/-- The `OAuthRevokedError` branch: the campaign is paused and the asset fails. -/
def commitRevoked (db : Db) (plan : SocialPlan) (message : String) (now : Int) : Db :=
  let paused := pauseCampaign db plan.campaign now
  { paused with assets := updateWhere (·.id = plan.asset.id) (revokedRow plan.asset message) paused.assets }

/-- The rest of the handler, once the tool has returned or raised. -/
def finishSocial (db : Db) (plan : SocialPlan) (outcome : SocialOutcome) (now : Int) : Except HandlerError Db :=
  match outcome.result with
  | .error (.revoked message) => .ok (commitRevoked db plan message now)
  | .error (.other error) => .error error
  | .ok result => (commitSocial db plan result now).mapError .app

/-- `dispatch_social_asset` as one atomic step. -/
def dispatchSocialAsset (db : Db) (assetId : Uuid) (answer : SocialAnswer) (now : Int) : Except HandlerError Db :=
  match beginSocial db assetId with
  | .error error => .error error
  | .ok none => .ok db
  | .ok (some plan) => finishSocial db plan (callSocial db plan answer) now

end Social

end MarketingAgents
