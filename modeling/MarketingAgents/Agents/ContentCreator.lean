import MarketingAgents.Orchestrator.StateMachine

namespace MarketingAgents

open Lib PyText

structure ComplianceHit where
  rule : String
  severity : String
  snippet : String
  patternKind : String
deriving DecidableEq

def ComplianceHit.asDict (hit : ComplianceHit) : Json :=
  .obj [("rule", .str hit.rule), ("severity", .str hit.severity), ("snippet", .str hit.snippet),
    ("pattern_kind", .str hit.patternKind)]

def complianceBlocked (hits : List ComplianceHit) : Bool := hits.any (·.severity = "block")

/-- `ComplianceResult.as_metadata`. -/
def complianceMetadata (hits : List ComplianceHit) (rewrittenForSuppression : Bool) : Json :=
  .obj [("pass", .bool hits.isEmpty), ("blocked", .bool (complianceBlocked hits)),
    ("hits", .arr (hits.map ComplianceHit.asDict)), ("rewritten_for_suppression", .bool rewrittenForSuppression)]

/-- What the tools of `_run_generation` returned in its last attempt. -/
structure GenerationOutput where
  cwOutput : Dict String Json
  brandCheck : Json
  seo : Option Json
  hits : List ComplianceHit
  rewrittenForSuppression : Bool
  similarity : Option Json

/-- How `_run_generation` ended. -/
inductive Generation where
  | drafted (output : GenerationOutput)
  | complianceError (message : String)
  | raised (message : String)

section ContentCreator

variable [PyText]

/-- The first of the fields that holds a text with something in it. -/
def firstText (fields : Dict String Json) : List String → Option String
  | [] => none
  | key :: keys =>
    match fields.get? key with
    | some (.str value) => if strip value = "" then firstText fields keys else some (strip value)
    | _ => firstText fields keys

def take300 (s : String) : String := String.ofList (s.toList.take 300)

def extractTitle (cwOutput : Dict String Json) : Option String :=
  match firstText cwOutput ["title", "subject", "headline"] with
  | some title => some (take300 title)
  | none => (firstText cwOutput ["body"]).map fun body => take300 (firstLine body)

def bundleMetadata (cwOutput : Dict String Json) (brandCheck : Json) (seo : Option Json) : Dict String Json :=
  [("storage_uri", .null),
    ("fields", .obj (cwOutput.filter fun entry =>
      entry.1 ∉ ["length_metrics", "length_warning", "body"] ∧ entry.2.str?.isSome)),
    ("length_metrics", (cwOutput.get? "length_metrics").getD (.obj [])),
    ("brand_check", brandCheck)] ++
  (match cwOutput.get? "length_warning" with
    | some warning => [("length_warning", warning)]
    | none => []) ++
  match seo with
  | some seo => [("seo", seo)]
  | none => []

/-- The row `_run_generation` leaves. -/
def draftedRow (out : GenerationOutput) (a : ContentAsset) : ContentAsset :=
  let body := str ((out.cwOutput.get? "body").getD (.str ""))
  let extras := [("compliance", complianceMetadata out.hits out.rewrittenForSuppression)] ++
    match out.similarity with
    | some similarity => [("variant_similarity", similarity)]
    | none => []
  { a with
    title := extractTitle out.cwOutput
    content := if body = "" then none else some body
    extraMetadata := (a.extraMetadata.merge (bundleMetadata out.cwOutput out.brandCheck out.seo)).merge extras
    status := .drafted }

/-- `generate_asset`: the state of its session when it ends, and how it ends.
A worker commits the state only on success; the assistant keeps it. -/
def generateAsset (db : Db) (assetId : Uuid) (generation : Generation) (now : Int) : Db × Except AppError Unit :=
  match db.asset? assetId with
  | none => (db, .error (.contentCreator ("content_asset " ++ uuidStr assetId ++ " not found")))
  | some a =>
    match db.campaign? a.campaignId with
    | none => (db, .error (.contentCreator ("campaign " ++ uuidStr a.campaignId ++ " not found")))
    | some _ =>
      let platform := lower (str ((a.extraMetadata.get? "channel_platform").getD (.str "")))
      match planForPlatform platform with
      | none =>
        (db.setAsset { a with status := .failed },
          .error (.contentCreator ("no asset_type mapping for channel platform '" ++ platform ++ "'")))
      | some _ =>
        match generation with
        | .complianceError message =>
          (db.setAsset { a.tag "compliance_error" (.str message) with status := .failed }, .ok ())
        | .raised message => (db.setAsset { a with status := .requested }, .error (.contentCreator message))
        | .drafted out =>
          let db := db.setAsset (draftedRow out a)
          match maybeSubmitForApproval db a.campaignId now with
          | .ok db => (db, .ok ())
          | .error error => (db, .error error)

/-- `regenerate_asset`; `apiKey` says whether the content creator is configured. -/
def regenerateAsset (db : Db) (user : AppUser) (apiKey : Bool) (assetId : Uuid) (now : Int) : Except AppError Db := do
  require (UserRole.marketer.rank ≤ user.role.rank) (.http 403 "requires role >= marketer")
  require apiKey (.http 503 "content creator is not configured (ANTHROPIC_API_KEY missing)")
  let a ← orRaise (db.tenantAsset? user assetId) (.http 404 "content asset not found")
  let c ← orRaise (db.tenantCampaign? user a.campaignId) (.http 404 "campaign not found")
  require (c.status ∈ [.contentInProduction, .approvalPending])
    (.http 409 ("cannot regenerate assets while campaign is in '" ++ c.status.value ++ "'"))
  let (db, agentId) := (db.setAsset { a with status := .requested }).ensureAgent a.tenantId .contentCreator
  db.enqueue
    { tenantId := a.tenantId
      agentId := agentId
      campaignId := some a.campaignId
      skillName := "content_creator.generate_asset"
      inputData := [("asset_id", .str (uuidStr a.id)), ("campaign_id", .str (uuidStr a.campaignId)),
        ("triggered_by_user_id", .str (uuidStr user.id))] } now

def clearComplianceBlock (db : Db) (user : AppUser) (assetId : Uuid) : Except AppError Db := do
  require (UserRole.manager.rank ≤ user.role.rank) (.http 403 "requires role >= manager")
  let a ← orRaise (db.tenantAsset? user assetId) (.http 404 "content asset not found")
  let compliance ← orRaise ((complianceOf a.extraMetadata).filter fun compliance =>
      ((Dict.get? compliance "blocked").map Json.truthy).getD false)
    (.http 409 "asset has no active compliance block to clear")
  pure (db.setAsset (a.tag "compliance"
    (.obj ((Dict.set compliance "blocked" (.bool false)).set "cleared_by_user_id" (.str (uuidStr user.id))))))

/-- One segment of `segment_members`: its bucket and how many members it has. -/
structure Segment where
  key : String
  label : String
  memberCount : Nat

/-- What `_generate_one` returned for one segment and channel; absent fields are
`""`. Only an `OutreachGenerationError` is caught: a prompt that cannot be built
and a reply that is not JSON end the loop. -/
inductive OutreachReply where
  | failed (message : String)
  | fields (subject body : String)
  | raised (message : String)

/-- `_used_tokens`, over the sorted `_MERGE_TOKENS`. -/
def usedTokens (text : String) : List String :=
  ["company", "first_name", "last_name", "title"].filter fun token => contains ("\x7b" ++ token ++ "\x7d") text

/-- The template of one segment for one channel: type, title, text and metadata. -/
def outreachTemplate (audienceId : Uuid) (segment : Segment) (channel subject body : String) :
    AssetType × String × String × Dict String Json :=
  let text := if channel = "linkedin_dm" then body else subject ++ "\n\n" ++ body
  let fields := if channel = "linkedin_dm" then [("body", Json.str body)]
    else [("subject", Json.str subject), ("body", Json.str body)]
  (if channel = "linkedin_dm" then .linkedinDm else .email,
    segment.label ++ " · " ++ channel,
    text,
    [("segment_key", .str segment.key), ("segment_label", .str segment.label),
      ("audience_id", .str (uuidStr audienceId)), ("recipient_count", .int segment.memberCount),
      ("merge_tokens", .arr ((usedTokens text).map Json.str)), ("fields", .obj fields),
      ("personalisation_kind", .str "outbound_segment_template")])

/-- The templates stored for the segment and channel. -/
def existingTemplates (db : Db) (c : Campaign) (audienceId : Uuid) (assetType : AssetType) (key : String) :
    List ContentAsset :=
  (db.campaignAssets c.id).filter fun a => a.assetType = assetType ∧
    a.extraMetadata.get? "segment_key" = some (.str key) ∧
    a.extraMetadata.get? "audience_id" = some (.str (uuidStr audienceId))

/-- One iteration of `generate_outreach_drafts`. -/
def outreachDraft (c : Campaign) (audienceId : Uuid) (overwrite : Bool) (db : Db) (segment : Segment)
    (channel : String) (reply : OutreachReply) : Except AppError Db :=
  let assetType := if channel = "linkedin_dm" then AssetType.linkedinDm else .email
  match existingTemplates db c audienceId assetType segment.key with
  | _ :: _ :: _ => .error (.outreach "Multiple rows were found when one or none was required")
  | existing =>
    if existing ≠ [] ∧ overwrite = false then .ok db
    else match reply with
      | .failed _ => .ok db
      | .raised message => .error (.raised message)
      | .fields subject body =>
        if body = "" ∨ channel ≠ "linkedin_dm" ∧ subject = "" then .ok db
        else
          let (assetType, title, text, metadata) := outreachTemplate audienceId segment channel subject body
          match existing with
          | a :: _ => .ok (db.setAsset
              { a with
                content := some text
                extraMetadata := a.extraMetadata.merge metadata
                status := .drafted
                title := some title })
          | [] => .ok (db.insertAsset
              { id := 0
                tenantId := c.tenantId
                campaignId := c.id
                assetType := assetType
                status := .drafted
                title := some title
                content := some text
                extraMetadata := metadata })

/-- The loop of `generate_outreach_drafts`, one reply per segment and channel;
an exception leaves what was written before it. -/
def outreachDrafts (c : Campaign) (audienceId : Uuid) (overwrite : Bool) (db : Db) :
    List (Segment × String × OutreachReply) → Db × Except AppError Unit
  | [] => (db, .ok ())
  | (segment, channel, reply) :: rest =>
    match outreachDraft c audienceId overwrite db segment channel reply with
    | .ok db => outreachDrafts c audienceId overwrite db rest
    | .error error => (db, .error error)

end ContentCreator

end MarketingAgents
