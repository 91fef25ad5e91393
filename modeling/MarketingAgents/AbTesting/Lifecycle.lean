import MarketingAgents.Agents.Seeding

namespace MarketingAgents

open Lib PyText

/-- The body of `create_ab_test`, as its schema admits it. -/
structure CreateAbTestRequest where
  name : String
  hypothesis : Option String := none
  primaryMetric : String
  variantIds : List Uuid
  trafficSplit : Dict Uuid Int
  minRuntimeHours : Option Int := none
  maxRuntimeHours : Option Int := none
  named : 1 ≤ name.length ∧ name.length ≤ 200
  measured : 1 ≤ primaryMetric.length ∧ primaryMetric.length ≤ 50
  sized : 2 ≤ variantIds.length ∧ variantIds.length ≤ 5
  keys : (trafficSplit.map Prod.fst).Nodup
  minBounded : ∀ hours ∈ minRuntimeHours, 1 ≤ hours ∧ hours ≤ 720
  maxBounded : ∀ hours ∈ maxRuntimeHours, 1 ≤ hours ∧ hours ≤ 1440

/-- What the `ab.testing` tool decides about the two samples. -/
inductive AbDecision where
  | winner (armB : Bool)
  | undecided
deriving DecidableEq

def Db.abTest? (db : Db) (id : Uuid) : Option AbTest := db.abTests.find? (·.id = id)

def Db.setAbTest (db : Db) (test : AbTest) : Db :=
  { db with abTests := updateWhere (·.id = test.id) (fun _ => test) db.abTests }

def Db.tenantAbTest? (db : Db) (user : AppUser) (id : Uuid) : Option AbTest :=
  (db.abTest? id).filter (·.tenantId = user.tenantId)

/-- `_METRIC_TO_EVENT_KIND`: the metrics the evaluator can count. -/
def supportedMetrics : List String :=
  ["open", "open_rate", "click", "click_rate", "ctr", "conversion", "conversion_rate", "reply", "unsubscribe"]

/-- `evaluate_test`, less the columns `lift` and `confidence`; `decision` is
what the tool makes of the samples. -/
def evaluateTest (db : Db) (testId : Uuid) (decision : AbDecision) (now : Int) : Db :=
  match db.abTest? testId with
  | none => db
  | some test =>
    if test.status ≠ .running then db
    else if ∃ last ∈ test.lastEvaluatedAt, now - last < Queue.seconds 900 then db
    else match test.variantAId, test.variantBId with
      | some variantA, some variantB =>
        if test.primaryMetric ∉ supportedMetrics then db
        else
          let timedOut : Bool := ∃ hours ∈ test.maxRuntimeHours, ∃ started ∈ test.startedAt,
            Queue.seconds (3600 * hours) ≤ now - started
          let test := { test with lastEvaluatedAt := some now }
          db.setAbTest (match decision with
            | .winner armB =>
              { test with status := .significant, winnerId := some (if armB then variantB else variantA) }
            | .undecided => if timedOut then { test with status := .inconclusive } else test)
      | _, _ => db

section Endpoints

variable [PyText]

def listVariants (db : Db) (user : AppUser) (testId : Uuid) : List ContentAsset :=
  db.assets.filter fun a => a.tenantId = user.tenantId ∧
    a.extraMetadata.get? "ab_test_group_id" = some (.str (uuidStr testId))

/-- The variants of a test, or the canonical pair if none is linked to it. -/
def variantsOrPair (db : Db) (user : AppUser) (test : AbTest) : List ContentAsset :=
  if listVariants db user test.id = [] then
    db.assets.filter fun a => a.tenantId = user.tenantId ∧
      (test.variantAId = some a.id ∨ test.variantBId = some a.id)
  else listVariants db user test.id

/-- `max(int(v.extra_metadata.get("variant_index", 0)) for v in existing)`. -/
def lastVariantIndex (first : ContentAsset) (rest : List ContentAsset) : Option Int := do
  let index (a : ContentAsset) := intOf ((a.extraMetadata.get? "variant_index").getD (.int 0))
  let start ← index first
  rest.foldlM (fun best a => (index a).map (max best)) start

def variantAsset (template : ContentAsset) (testId : Uuid) (index : Int) : ContentAsset :=
  { id := 0
    tenantId := template.tenantId
    campaignId := template.campaignId
    channelId := template.channelId
    assetType := template.assetType
    status := .requested
    isRequired := false
    scheduledAt := template.scheduledAt
    extraMetadata :=
      [("touchpoint_id", (template.extraMetadata.get? "touchpoint_id").getD .null),
        ("channel_platform", (template.extraMetadata.get? "channel_platform").getD .null),
        ("ab_test_group_id", .str (uuidStr testId)),
        ("variant_index", .int index),
        ("variant_angle", .str (angleForIndex index.toNat)),
        ("is_baseline", .bool false)] }

def addVariant (db : Db) (user : AppUser) (apiKey : Bool) (testId : Uuid) (now : Int) : Except AppError Db := do
  require (UserRole.marketer.rank ≤ user.role.rank) (.http 403 "requires role >= marketer")
  require apiKey (.http 503 "content creator is not configured (ANTHROPIC_API_KEY missing)")
  let _ ← orRaise (db.tenantAbTest? user testId) (.http 404 "ab_test not found")
  match listVariants db user testId with
  | [] => .error (.http 409 "ab_test has no existing variants to clone from")
  | template :: rest =>
    require (rest.length + 1 < 5) (.http 409 "ab_test already has the maximum of 5 variants")
    let last ← orRaise (lastVariantIndex template rest) (.http 500 "Internal Server Error")
    let assetId := db.nextId
    let (db, agentId) := (db.insertAsset (variantAsset template testId (last + 1))).ensureAgent template.tenantId
      .contentCreator
    db.enqueue
      { tenantId := template.tenantId
        agentId := agentId
        campaignId := some template.campaignId
        skillName := "content_creator.generate_asset"
        inputData := [("asset_id", .str (uuidStr assetId)), ("campaign_id", .str (uuidStr template.campaignId)),
          ("triggered_by_user_id", .str (uuidStr user.id))] } now

def createAbTest (db : Db) (user : AppUser) (campaignId : Uuid) (body : CreateAbTestRequest) : Except AppError Db := do
  require (UserRole.marketer.rank ≤ user.role.rank) (.http 403 "requires role >= marketer")
  let _ ← orRaise (db.tenantCampaign? user campaignId) (.http 404 "campaign not found")
  require body.variantIds.Nodup (.http 422 "duplicate variant ids in request")
  let total := (body.trafficSplit.map Prod.snd).sum
  require (total = 100) (.http 422 ("traffic_split must sum to 100, got " ++ toString total))
  let keys := body.trafficSplit.map Prod.fst
  require ((∀ id ∈ keys, id ∈ body.variantIds) ∧ ∀ id ∈ body.variantIds, id ∈ keys)
    (.http 422 "traffic_split keys must match variant_ids exactly")
  let variants := db.assets.filter fun a => a.id ∈ body.variantIds ∧ a.tenantId = user.tenantId
  require (variants.length = body.variantIds.length) (.http 422 "one or more variants not found")
  match variants.find? (·.campaignId ≠ campaignId) with
  | some v => .error (.http 422 ("variant " ++ uuidStr v.id ++ " does not belong to campaign " ++ uuidStr campaignId))
  | none =>
    -- the partial unique index `uq_ab_test_active_per_variant_a`
    require (¬ ∃ test ∈ db.abTests, test.tenantId = user.tenantId ∧ test.variantAId = body.variantIds[0]? ∧
      test.status ∈ [.designing, .running]) (.http 409 "an active A/B test already exists on this asset family")
    let test : AbTest :=
      { id := db.nextId
        tenantId := user.tenantId
        campaignId := campaignId
        name := body.name
        hypothesis := body.hypothesis
        primaryMetric := body.primaryMetric
        status := .designing
        variantAId := body.variantIds[0]?
        variantBId := body.variantIds[1]?
        trafficSplit := .obj (body.trafficSplit.map fun entry => (uuidStr entry.1, .int entry.2))
        minRuntimeHours := body.minRuntimeHours
        maxRuntimeHours := body.maxRuntimeHours }
    pure (variants.foldl (fun db v => db.tagAsset "ab_test_group_id" (.str (uuidStr test.id)) v.id)
      { db with abTests := db.abTests ++ [test], nextId := db.nextId + 1 })

/-- What a request for a test has passed, and its rows: the new test, with no
verdict, and a tag on each of its variants. -/
theorem createAbTest_eq_ok {db db' : Db} {user : AppUser} {campaignId : Uuid} {body : CreateAbTestRequest}
    (done : createAbTest db user campaignId body = .ok db') :
    (body.trafficSplit.map Prod.snd).sum = 100 ∧ (∀ id ∈ body.trafficSplit.map Prod.fst, id ∈ body.variantIds) ∧
      (db.assets.filter fun a => a.id ∈ body.variantIds ∧ a.tenantId = user.tenantId).length = body.variantIds.length ∧
      ∃ test : AbTest, test.id = db.nextId ∧ test.status = .designing ∧ test.winnerId = none ∧
        test.lastEvaluatedAt = none ∧
        test.trafficSplit = .obj (body.trafficSplit.map fun entry => (uuidStr entry.1, .int entry.2)) ∧
        db' = (db.assets.filter fun a => a.id ∈ body.variantIds ∧ a.tenantId = user.tenantId).foldl
          (fun mid v => mid.tagAsset "ab_test_group_id" (.str (uuidStr db.nextId)) v.id)
          { db with abTests := db.abTests ++ [test], nextId := db.nextId + 1 } := by
  simp only [createAbTest, bind_eq_ok, require_eq_ok] at done
  obtain ⟨_, _, _, _, _, _, _, total, _, ⟨listed, _⟩, _, counted, rest⟩ := done
  split at rest
  · cases rest
  · simp only [bind_eq_ok, pure_eq_ok] at rest
    obtain ⟨_, _, rfl⟩ := rest
    exact ⟨total, listed, counted, _, rfl, rfl, rfl, rfl, rfl, rfl⟩

def launchAbTest (db : Db) (user : AppUser) (testId : Uuid) (now : Int) : Except AppError Db := do
  require (UserRole.marketer.rank ≤ user.role.rank) (.http 403 "requires role >= marketer")
  let test ← orRaise (db.tenantAbTest? user testId) (.http 404 "ab_test not found")
  require (test.status = .designing)
    (.http 409 ("ab_test is in status '" ++ test.status.value ++ "', expected 'designing'"))
  let variants := variantsOrPair db user test
  require (variants ≠ []) (.http 409 "ab_test has no variants to launch")
  require (∀ v ∈ variants, v.status = .approved ∨ v.status = .scheduled) (.http 409 "variants_not_approved")
  pure (db.setAbTest { test with status := .running, startedAt := some now })

def stopAbTest (db : Db) (user : AppUser) (testId : Uuid) (now : Int) : Except AppError Db := do
  require (UserRole.manager.rank ≤ user.role.rank) (.http 403 "requires role >= manager")
  let test ← orRaise (db.tenantAbTest? user testId) (.http 404 "ab_test not found")
  require (test.status = .designing ∨ test.status = .running)
    (.http 409 ("ab_test is in status '" ++ test.status.value ++ "'"))
  pure (db.setAbTest { test with status := .stopped, stoppedAt := some now })

/-- A loser of a promoted test; what is out already stays as it is. -/
def archiveLoser (winnerId : Uuid) (db : Db) (v : ContentAsset) : Db :=
  if v.id = winnerId ∨ v.status = .archived ∨ v.status = .published then db
  else db.setAsset { v with status := .archived }

def promoteAbTest (db : Db) (user : AppUser) (testId : Uuid) : Except AppError Db := do
  require (UserRole.marketer.rank ≤ user.role.rank) (.http 403 "requires role >= marketer")
  let test ← orRaise (db.tenantAbTest? user testId) (.http 404 "ab_test not found")
  let winnerId ← orRaise (test.winnerId.filter fun _ => test.status = .significant) (.http 409 "no_winner")
  let winner ← orRaise (db.tenantAsset? user winnerId) (.http 409 "winner content_asset has been deleted")
  let flagged := ((winner.extraMetadata.get? "compliance_violations").map Json.truthy).getD false
  require (flagged = false ∨ user.role = .manager ∨ user.role = .admin) (.http 409 "compliance_review_required")
  pure ((((variantsOrPair db user test).foldl (archiveLoser winner.id) db)).setAbTest
    { test with trafficSplit := .obj [(uuidStr winner.id, .int 100)] })

end Endpoints

end MarketingAgents
