import MarketingAgents.Lib.Result
import MarketingAgents.Db.Models

namespace MarketingAgents

open Lib PyText

structure AssetPlan where
  assetType : AssetType
  toolChannel : String
  requiresSeo : Bool
deriving DecidableEq

def platformToAssetType : Dict String AssetType :=
  [("email", .email), ("linkedin", .socialPost), ("x", .socialPost), ("meta", .socialPost),
    ("instagram", .socialPost), ("google_ads", .adCreative), ("meta_ads", .adCreative),
    ("web", .landingPageCopy), ("blog", .blogPost), ("sms", .sms)]

/-- `_ASSET_TYPE_TO_TOOL_CHANNEL`, with its two fallbacks. -/
def toolChannelFor (assetType : AssetType) (platform : String) : String :=
  match assetType, platform with
  | .socialPost, "linkedin" => "linkedin"
  | .socialPost, "x" => "x"
  | .socialPost, "meta" => "social_post"
  | .socialPost, "instagram" => "social_post"
  | .adCreative, "google_ads" => "ad_creative"
  | .adCreative, "meta_ads" => "ad_creative"
  | .email, _ => "email"
  | .blogPost, _ => "blog_post"
  | .landingPageCopy, _ => "landing_page_copy"
  | .sms, _ => "sms"
  | _, platform => platform

/-- `variants` of `AbTestSpec`, clamped to `[MIN_VARIANTS, MAX_VARIANTS]`. -/
structure AbTestSpec where
  channel : String
  variants : Nat
deriving DecidableEq

def variantAngles : List String :=
  ["lead with social proof — cite customer outcomes or peer adoption",
    "lead with risk reduction — emphasise safety, support, guarantees you can defend",
    "lead with novelty — frame it as something the reader hasn't seen before",
    "lead with urgency — give a concrete reason to act this week, not next quarter",
    "lead with savings — quantify the time or money the reader gets back"]

def angleForIndex (index : Nat) : String :=
  if index = 0 then "" else (variantAngles[index - 1]?).getD (variantAngles.getLast?.getD "")

section Seeding

variable [PyText]

/-- `plan_for_platform`; `none` is its `PlannerError`. -/
def planForPlatform (platform : String) : Option AssetPlan :=
  (platformToAssetType.get? (normalised platform)).map fun assetType =>
    { assetType := assetType
      toolChannel := toolChannelFor assetType (normalised platform)
      requiresSeo := assetType = .blogPost || assetType = .landingPageCopy }

def parseAbTestSpec (entry : Json) : Option AbTestSpec :=
  match entry.dict? with
  | none => none
  | some fields =>
    let channel := normalised (str ((fields.get? "channel").getD (.str "")))
    if channel = "" then none
    else
      let variants := (intOf ((fields.get? "variants").getD (.int 2))).getD 2
      some ⟨channel, (max 2 (min 5 variants)).toNat⟩

def parseAbTestSpecs (payload : Dict String Json) : List AbTestSpec :=
  match payload.get? "ab_tests" with
  | some (.arr entries) => entries.filterMap parseAbTestSpec
  | _ => []

def primaryMetricForCampaign (c : Campaign) : String :=
  match c.kpiTargets.get? "primary" with
  | some (.obj fields) =>
    match Dict.get? fields "metric" with
    | some (.str metric) => if strip metric = "" then "conversion_rate" else strip metric
    | _ => "conversion_rate"
  | _ => "conversion_rate"

/-- `ORDER BY scheduled_at, position`. -/
def touchpointOrder (a b : StrategyTouchpoint) : Prop :=
  a.scheduledAt < b.scheduledAt ∨ a.scheduledAt = b.scheduledAt ∧ a.position ≤ b.position

instance : DecidableRel touchpointOrder := fun a b =>
  inferInstanceAs (Decidable (a.scheduledAt < b.scheduledAt ∨ a.scheduledAt = b.scheduledAt ∧ a.position ≤ b.position))

/-- The metadata a seeded variant starts with. -/
def seedMetadata (tp : StrategyTouchpoint) (spec : Option AbTestSpec) (variant : Nat) : Dict String Json :=
  [("touchpoint_id", .str (uuidStr tp.id)), ("channel_platform", .str tp.channelPlatform)] ++
    match spec with
    | none => []
    | some _ => [("variant_index", .int variant), ("variant_angle", .str (angleForIndex variant)),
        ("is_baseline", .bool (variant = 0))]

/-- One touchpoint of the seeding loop: its test and its rows, or nothing for
a platform without a plan. -/
def seedTouchpoint (db : Db) (c : Campaign) (specs : List AbTestSpec) (tp : StrategyTouchpoint) :
    Option (Option AbTestSpec × List ContentAsset) :=
  (planForPlatform tp.channelPlatform).map fun plan =>
    let channel := db.channels.reverse.find? fun ch => ch.tenantId = c.tenantId ∧ ch.platform.value = tp.channelPlatform
    let spec := specs.reverse.find? (·.channel = tp.channelPlatform)
    (spec, (List.range ((spec.map AbTestSpec.variants).getD 1)).map fun variant =>
      { id := 0
        tenantId := c.tenantId
        campaignId := c.id
        channelId := channel.map Channel.id
        assetType := plan.assetType
        status := .requested
        isRequired := true
        scheduledAt := some tp.scheduledAt
        extraMetadata := seedMetadata tp spec variant })

/-- Insert the rows one by one; the ids are those of the new rows. -/
def insertAssets (db : Db) : List ContentAsset → Db × List Uuid
  | [] => (db, [])
  | a :: rest =>
    let (db', ids) := insertAssets (db.insertAsset a) rest
    (db', db.nextId :: ids)

/-- Insert the rows of every touchpoint, keeping the ids grouped. -/
def insertGroups (db : Db) : List (Option AbTestSpec × List ContentAsset) → Db × List (Option AbTestSpec × List Uuid)
  | [] => (db, [])
  | (spec, rows) :: rest =>
    let (db', ids) := insertAssets db rows
    let (db'', groups) := insertGroups db' rest
    (db'', (spec, ids) :: groups)

/-- `asset.extra_metadata = {**asset.extra_metadata, key: value}`. -/
def Db.tagAsset (db : Db) (key : String) (value : Json) (id : Uuid) : Db :=
  match db.asset? id with
  | none => db
  | some a => db.setAsset { a with extraMetadata := a.extraMetadata.set key value }

/-- The `ab_test` row of one group, linked back from its variants. -/
def seedAbTest (c : Campaign) (db : Db) (group : Option AbTestSpec × List Uuid) : Db :=
  match group with
  | (some spec, ids) =>
    let test : AbTest :=
      { id := db.nextId
        tenantId := c.tenantId
        campaignId := c.id
        name := "A/B test: " ++ spec.channel ++ " touchpoint"
        hypothesis := some "Variant differentiation per E06-S05"
        primaryMetric := primaryMetricForCampaign c
        status := .designing
        variantAId := ids[0]?
        variantBId := ids[1]? }
    ids.foldl (fun db id => db.tagAsset "ab_test_group_id" (.str (uuidStr test.id)) id)
      { db with abTests := db.abTests ++ [test], nextId := db.nextId + 1 }
  | (none, _) => db

def generateTask (c : Campaign) (agentId assetId : Uuid) : EnqueueArgs where
  tenantId := c.tenantId
  agentId := agentId
  campaignId := some c.id
  skillName := "content_creator.generate_asset"
  inputData := [("asset_id", .str (uuidStr assetId)), ("campaign_id", .str (uuidStr c.id))]

/-- `seed_assets_for_campaign`, with the ids of the rows it creates. -/
def seedAssetsForCampaign (db : Db) (c : Campaign) (now : Int) : Except AppError (Db × List Uuid) := do
  let accepted ← orRaise (db.acceptedProposal? c.id)
    (.contentCreator "no accepted strategy proposal for this campaign")
  let touchpoints := (db.touchpoints.filter (·.proposalId = accepted.id)).insertionSort touchpointOrder
  require (touchpoints ≠ []) (.contentCreator "accepted proposal has no calendar touchpoints")
  let (db, agentId) := db.ensureAgent c.tenantId .contentCreator
  let groups := touchpoints.filterMap (seedTouchpoint db c (parseAbTestSpecs accepted.payload))
  require (groups.flatMap Prod.snd ≠ [])
    (.contentCreator "no asset rows could be created — every touchpoint platform is unmapped")
  let (db, groups) := insertGroups db groups
  let db := groups.foldl (seedAbTest c) db
  let ids := groups.flatMap Prod.snd
  let db ← ids.foldlM (fun db id => db.enqueue (generateTask c agentId id) now) db
  pure (db, ids)

end Seeding

end MarketingAgents
