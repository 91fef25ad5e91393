import MarketingAgents.Agents.PreviewRendering
import MarketingAgents.Api.Unsubscribe
import MarketingAgents.Content.Effects
import MarketingAgents.Content.Launched
import MarketingAgents.Content.Tenancy
import MarketingAgents.Tools.Copywriting

namespace MarketingAgents

open Lib PyText

section Kept

variable [PyText] {may : Cause → Db → Prop} {now : Int} {db db' : Db} {tenantId campaignId assetId : Uuid}

/-- A write leaves each asset in the table, with its campaign and its tenant. -/
theorem Write.holds (write : Write may now db db') (wf : db.Wf) (holds : db.Holds tenantId campaignId assetId) :
    db'.Holds tenantId campaignId assetId := by
  obtain ⟨a, here, rfl, rfl, rfl⟩ := holds
  obtain ⟨b, there, row, _⟩ := (write.drift wf).rows a here
  refine ⟨b, there, row.id, row.campaignId, ?_⟩
  -- the row it comes from is the one with its id, for the rows that are new have new ids
  rcases (write.assets wf there).origin with ⟨old, member, traced⟩ | ⟨_, _, rfl⟩ | ⟨_, _, _, _, fresh⟩
  · rw [traced.tenantId, wf.eq_of_id member here (traced.id.symm.trans row.id)]
  · exact absurd (row.id : db.nextId = a.id) (wf.assetsBelow a here).ne'
  · exact absurd (row.id ▸ fresh) (Nat.not_le.mpr (wf.assetsBelow a here))

theorem Writes.holds (writes : Writes may now db db') (wf : db.Wf) (holds : db.Holds tenantId campaignId assetId) :
    db'.Holds tenantId campaignId assetId :=
  (writes.induct (I := fun db => db.Holds tenantId campaignId assetId) wf holds fun _ _ wf held write => write.holds wf held).2

end Kept

/-- How `loads` of a timed serializer fails. -/
inductive TimedBadData where
  | signatureExpired
  | badSignature
  | badPayload
deriving DecidableEq

/-- `URLSafeTimedSerializer(secret_key, salt)` of `itsdangerous`; `dumps` is at a
second, `loads` has `max_age` and the second of the call. A signature verifies
only under the secret that made it, for `max_age` seconds from when it was made. -/
class URLSafeTimedSerializer extends PyText where
  dumps : String → String → Json → Int → String
  loads : String → String → String → Int → Int → Except TimedBadData Json
  loads_dumps : ∀ secret salt (fields : Dict String String) signedAt maxAge now, (fields.map Prod.fst).Nodup →
    loads secret salt (dumps secret salt (.obj (fields.map fun entry => (entry.1, .str entry.2))) signedAt) maxAge now =
      if now - signedAt ≤ maxAge ∧ signedAt ≤ now then .ok (.obj (fields.map fun entry => (entry.1, .str entry.2)))
      else .error .signatureExpired
  loads_other : ∀ {secret other salt token maxAge now maxAge' now'},
    loads secret salt token maxAge now ≠ .error .badSignature → other ≠ secret →
      loads other salt token maxAge' now' = .error .badSignature

namespace AssetPreview

def serializerSalt : String := "asset-preview-share"

structure Settings where
  sessionSecret : String
  previewShareSecret : String := ""
  previewShareTtlDays : Int := 7
deriving DecidableEq

def Settings.effectivePreviewShareSecret (settings : Settings) : String :=
  if settings.previewShareSecret ≠ "" then settings.previewShareSecret else settings.sessionSecret

structure PreviewResponse where
  assetId : Uuid
  assetType : String
  channelKind : Option String
  title : Option String
  rendered : Dict String String
  referencedFields : List String
  unresolvedFields : List String
  resolvedWith : Dict String String
  lengthBudgets : Dict String Nat
  requiredFields : List String
deriving DecidableEq

structure AudienceAuditEntry where
  field : String
  totalMembers : Nat
  unresolved : Nat
deriving DecidableEq

structure AudienceAuditResponse where
  assetId : Uuid
  totalMembers : Nat
  fieldAudit : List AudienceAuditEntry
deriving DecidableEq

structure ShareRequest where
  ttlDays : Option Nat := none
  bounds : ∀ days ∈ ttlDays, 1 ≤ days ∧ days ≤ 30

structure ShareResponse where
  assetId : Uuid
  token : String
  urlPath : String
  expiresAt : Int
deriving DecidableEq

section Previews

variable [PyText]

/-- `channel_constraints_for`: the length budgets and the required fields. -/
def channelConstraintsFor (assetType : String) (channelPlatform : Option String) : Dict String Nat × List String :=
  let keysToTry := ((channelPlatform.filter (· ≠ "")).map lower).toList ++ [lower assetType]
  match keysToTry.find? fun key => (CopywritingTool.defaultLengthConstraints.get? key).isSome with
  | some key => ((CopywritingTool.defaultLengthConstraints.get? key).getD [],
      (CopywritingTool.requiredFields.get? key).getD [])
  | none => ([], [])

def channelKind (a : ContentAsset) : Option String :=
  ((a.extraMetadata.get? "channel_platform").bind Json.str?).filter (· ≠ "")

def buildPreview (a : ContentAsset) (sampleValues : Dict String Json) : PreviewResponse :=
  let (rendered, report) := resolveMergeFields (assetTextFields a) sampleValues
  let constraints := channelConstraintsFor a.assetType.value (channelKind a)
  { assetId := a.id
    assetType := a.assetType.value
    channelKind := channelKind a
    title := a.title
    rendered := rendered
    referencedFields := report.referencedFields
    unresolvedFields := report.unresolvedFields
    resolvedWith := report.resolvedFields
    lengthBudgets := constraints.1
    requiredFields := constraints.2 }

def assetNotFound : AppError := .http 404 "content asset not found"

/-- `preview_asset_with_sample_values`, and `preview_asset` where there are none. -/
def previewAsset (db : Db) (user : AppUser) (assetId : Uuid) (sampleValues : Dict String String) :
    Except AppError PreviewResponse := do
  let a ← orRaise (db.tenantAsset? user assetId) assetNotFound
  pure (buildPreview a (sampleValues.map fun entry => (entry.1, .str entry.2)))

/-- The latest audience of the campaign that the user's tenant has. -/
def latestAudienceOf (db : Db) (user : AppUser) (campaignId : Uuid) : Option Audience :=
  ((db.audiences.filter fun audience => audience.tenantId = user.tenantId ∧ audience.campaignId = campaignId).insertionSort
    fun a b => b.createdAt ≤ a.createdAt).head?

def auditAgainstAudience (db : Db) (user : AppUser) (assetId : Uuid) : Except AppError AudienceAuditResponse := do
  let a ← orRaise (db.tenantAsset? user assetId) assetNotFound
  match latestAudienceOf db user a.campaignId with
  | none => pure ⟨a.id, 0, []⟩
  | some audience =>
    let payloads := (db.audienceMembers.filter (·.audienceId = audience.id)).map AudienceMember.payload
    let (_, report) := resolveMergeFields (assetTextFields a) []
    let counts := auditAudienceResolution report.referencedFields payloads
    pure ⟨a.id, payloads.length, report.referencedFields.map fun field =>
      ⟨field, payloads.length, match counts.get? field with
        | some count => count.unresolved
        | none => payloads.length⟩⟩

/-- The audit has the fields of the preview, and of each the members whose payload does not resolve it. -/
theorem auditAgainstAudience_counts {db : Db} {user : AppUser} {assetId : Uuid} {a : ContentAsset} {audience : Audience}
    (found : db.tenantAsset? user assetId = some a) (latest : latestAudienceOf db user a.campaignId = some audience) :
    auditAgainstAudience db user assetId = .ok ⟨a.id, (db.audienceMembers.filter (·.audienceId = audience.id)).length,
      (buildPreview a []).referencedFields.map fun field =>
        ⟨field, (db.audienceMembers.filter (·.audienceId = audience.id)).length,
          (db.audienceMembers.filter (·.audienceId = audience.id)).countP fun member =>
            !isResolvable (member.payload.get? field)⟩⟩ := by
  have referenced : (buildPreview a []).referencedFields = extractMergeFields ((assetTextFields a).map Prod.snd) := by
    rw [buildPreview, resolveMergeFields_eq]
  rw [auditAgainstAudience, found, referenced]
  simp only [orRaise, bind, Except.bind, latest, pure, Except.pure, resolveMergeFields_eq, List.length_map]
  refine congrArg _ (congrArg _ (List.map_congr_left fun field listed => ?_))
  rw [auditAudienceResolution_get? (extractMergeFields_nodup _) listed]
  simp only [List.countP_map]
  rfl

end Previews

section Links

variable [URLSafeTimedSerializer]

def sharePreview (settings : Settings) (db : Db) (user : AppUser) (assetId : Uuid) (body : ShareRequest) (now : Int) :
    Except AppError ShareResponse := do
  require (UserRole.marketer.rank ≤ user.role.rank) (.http 403 "requires role >= marketer")
  let a ← orRaise (db.tenantAsset? user assetId) assetNotFound
  let ttlDays := ((body.ttlDays.filter (· ≠ 0)).map Int.ofNat).getD settings.previewShareTtlDays
  let token := URLSafeTimedSerializer.dumps settings.effectivePreviewShareSecret serializerSalt
    (.obj [("asset_id", .str (uuidStr a.id)), ("tenant_id", .str (uuidStr a.tenantId))]) (now / 1000000)
  pure ⟨a.id, token, "/api/preview-links/" ++ token, now + ttlDays * 86400000000⟩

def linkNotFound : AppError := .http 404 "preview link not found"

def linkExpired : AppError := .http 410 "preview link has expired"

/-- The `except` clauses around `loads`. -/
def raiseBadData : TimedBadData → AppError
  | .signatureExpired => linkExpired
  | .badSignature => linkNotFound
  | .badPayload => .raised "BadPayload"

/-- `UUID(str(payload.get(key)))`. -/
def uuidField (payload : Dict String Json) (key : String) : Except AppError Uuid :=
  orRaise (uuidOf (str ((payload.get? key).getD .null))) linkNotFound

def consumeShareToken (settings : Settings) (db : Db) (token : String) (now : Int) : Except AppError PreviewResponse := do
  let payload ← (URLSafeTimedSerializer.loads settings.effectivePreviewShareSecret serializerSalt token
    (settings.previewShareTtlDays * 86400) (now / 1000000)).mapError raiseBadData
  let fields ← orRaise payload.dict? linkNotFound
  let assetId ← uuidField fields "asset_id"
  let tenantId ← uuidField fields "tenant_id"
  -- the query runs in the tenant of the token
  let a ← orRaise ((db.asset? assetId).filter (·.tenantId = tenantId)) linkNotFound
  pure (buildPreview a [])

/-- A link that was handed out, with who asked for it, the secret and the second of its signature. -/
structure ShareLink where
  sharedBy : AppUser
  secret : String
  signedAt : Int
  response : ShareResponse
deriving DecidableEq

/-- The links are a history, no table has them. -/
structure PreviewWorld where
  db : Db
  links : List ShareLink := []

inductive PreviewOp where
  | content (op : Op)
  | share (settings : Settings) (user : AppUser) (assetId : Uuid) (body : ShareRequest)

/-- A request that raises hands nothing out. -/
def PreviewWorld.handOut (w : PreviewWorld) (settings : Settings) (user : AppUser) (now : Int) :
    Except AppError ShareResponse → PreviewWorld
  | .ok response => { w with links := w.links ++ [⟨user, settings.effectivePreviewShareSecret, now / 1000000, response⟩] }
  | .error _ => w

def step (w : PreviewWorld) (op : PreviewOp × Int) : PreviewWorld :=
  match op.1 with
  | .content action => { w with db := action.run w.db op.2 }
  | .share settings user assetId body => w.handOut settings user op.2 (sharePreview settings w.db user assetId body op.2)

/-- The link is one to an asset of the tenant of the marketer who asked for it. -/
structure ShareLink.Granted (link : ShareLink) (db : Db) : Prop where
  rank : UserRole.marketer.rank ≤ link.sharedBy.role.rank
  held : ∃ campaignId, db.Holds link.sharedBy.tenantId campaignId link.response.assetId
  token : link.response.token = URLSafeTimedSerializer.dumps link.secret serializerSalt
    (.obj [("asset_id", .str (uuidStr link.response.assetId)), ("tenant_id", .str (uuidStr link.sharedBy.tenantId))])
    link.signedAt

theorem sharePreview_granted {settings : Settings} {db : Db} {user : AppUser} {assetId : Uuid} {body : ShareRequest}
    {now : Int} {response : ShareResponse} (shared : sharePreview settings db user assetId body now = .ok response) :
    ShareLink.Granted ⟨user, settings.effectivePreviewShareSecret, now / 1000000, response⟩ db := by
  simp only [sharePreview, bind_eq_ok, require_eq_ok, orRaise_eq_ok, pure_eq_ok] at shared
  obtain ⟨_, rank, a, found, rfl⟩ := shared
  obtain ⟨stored, own⟩ := Option.filter_eq_some_iff.mp found
  obtain ⟨member, _⟩ := Db.asset?_mem stored
  have tenant : a.tenantId = user.tenantId := of_decide_eq_true own
  refine ⟨rank, ⟨a.campaignId, a, member, rfl, rfl, tenant⟩, ?_⟩
  rw [← tenant]

/-- Links stay granted: no operation takes an asset away, or to another tenant. -/
theorem run_granted {db : Db} (wf : db.Wf) (ops : List (PreviewOp × Int)) :
    (run step ⟨db, []⟩ ops).db.Wf ∧ ∀ link ∈ (run step ⟨db, []⟩ ops).links, link.Granted (run step ⟨db, []⟩ ops).db := by
  refine run_invariant (I := fun w : PreviewWorld => w.db.Wf ∧ ∀ link ∈ w.links, link.Granted w.db)
    ⟨wf, fun _ member => absurd member List.not_mem_nil⟩ (fun w op holds => ?_) ops
  obtain ⟨wf, granted⟩ := holds
  obtain ⟨op, now⟩ := op
  cases op with
  | content action =>
    have writes : Writes (action.may w.db) now w.db (action.run w.db now) := Op.run_writes wf action
    refine ⟨writes.wf wf, fun link listed => ?_⟩
    obtain ⟨rank, ⟨campaignId, held⟩, token⟩ := granted link listed
    exact ⟨rank, ⟨campaignId, writes.holds wf held⟩, token⟩
  | share settings user assetId body =>
    change (w.handOut settings user now (sharePreview settings w.db user assetId body now)).db.Wf ∧
      ∀ link ∈ (w.handOut settings user now (sharePreview settings w.db user assetId body now)).links,
        link.Granted (w.handOut settings user now (sharePreview settings w.db user assetId body now)).db
    cases shared : sharePreview settings w.db user assetId body now with
    | error _ => exact ⟨wf, granted⟩
    | ok response =>
      refine ⟨wf, fun link listed => ?_⟩
      rcases List.mem_append.mp listed with old | new
      · exact granted link old
      · rw [List.mem_singleton.mp new]
        exact sharePreview_granted shared

theorem step_links (w : PreviewWorld) (op : PreviewOp × Int) : w.links ⊆ (step w op).links := by
  obtain ⟨op, now⟩ := op
  cases op with
  | content action => exact fun _ member => member
  | share settings user assetId body =>
    change w.links ⊆ (w.handOut settings user now (sharePreview settings w.db user assetId body now)).links
    cases sharePreview settings w.db user assetId body now with
    | error _ => exact fun _ member => member
    | ok response => exact List.subset_append_left _ _

theorem run_links (w : PreviewWorld) (ops : List (PreviewOp × Int)) : w.links ⊆ (run step w ops).links :=
  run_invariant (I := fun mid : PreviewWorld => w.links ⊆ mid.links) (fun _ member => member)
    (fun mid op sub _ member => step_links mid op (sub member)) ops

/-- No text verifies under the secret but the tokens that were handed out. -/
def Unforged (settings : Settings) (w : PreviewWorld) (now : Int) (token : String) : Prop :=
  URLSafeTimedSerializer.loads settings.effectivePreviewShareSecret serializerSalt token
    (settings.previewShareTtlDays * 86400) (now / 1000000) ≠ .error .badSignature →
      ∃ link ∈ w.links, link.response.token = token

/-- The secret is still the one of the link, and no more than the days of the settings have gone by. -/
def ShareLink.Live (link : ShareLink) (settings : Settings) (now : Int) : Prop :=
  link.secret = settings.effectivePreviewShareSecret ∧
    now / 1000000 - link.signedAt ≤ settings.previewShareTtlDays * 86400 ∧ link.signedAt ≤ now / 1000000

instance (link : ShareLink) (settings : Settings) (now : Int) : Decidable (link.Live settings now) :=
  inferInstanceAs (Decidable (_ ∧ _ ∧ _))

/-- What `loads` makes of a link. -/
theorem ShareLink.Granted.loads {link : ShareLink} {db : Db} (granted : link.Granted db) (settings : Settings) (now : Int) :
    URLSafeTimedSerializer.loads settings.effectivePreviewShareSecret serializerSalt link.response.token
        (settings.previewShareTtlDays * 86400) (now / 1000000) =
      if link.Live settings now then .ok (.obj [("asset_id", .str (uuidStr link.response.assetId)),
        ("tenant_id", .str (uuidStr link.sharedBy.tenantId))])
      else if link.secret = settings.effectivePreviewShareSecret then .error .signatureExpired
      else .error .badSignature := by
  have opened (secret : String) (maxAge now : Int) := URLSafeTimedSerializer.loads_dumps secret serializerSalt
    [("asset_id", uuidStr link.response.assetId), ("tenant_id", uuidStr link.sharedBy.tenantId)] link.signedAt maxAge now
    (by simp)
  rw [granted.token]
  by_cases same : link.secret = settings.effectivePreviewShareSecret
  · have live : link.Live settings now ↔
        now / 1000000 - link.signedAt ≤ settings.previewShareTtlDays * 86400 ∧ link.signedAt ≤ now / 1000000 :=
      and_iff_right same
    rw [if_pos same, if_congr live rfl rfl, ← same]
    exact opened link.secret _ _
  · rw [if_neg fun live => same live.1, if_neg same]
    have verifies : URLSafeTimedSerializer.loads link.secret serializerSalt (URLSafeTimedSerializer.dumps link.secret
        serializerSalt (.obj [("asset_id", .str (uuidStr link.response.assetId)),
          ("tenant_id", .str (uuidStr link.sharedBy.tenantId))]) link.signedAt) 0 link.signedAt ≠ .error .badSignature := by
      intro refused
      have accepted := (opened link.secret 0 link.signedAt).symm.trans refused
      rw [if_pos (by omega)] at accepted
      cases accepted
    exact URLSafeTimedSerializer.loads_other verifies (Ne.symm same)

/-- A link shows its asset as the one who shared it sees it. -/
theorem ShareLink.Granted.consume {link : ShareLink} {db : Db} (wf : db.Wf) (granted : link.Granted db)
    (settings : Settings) (now : Int) :
    ∃ a ∈ db.assets, a.id = link.response.assetId ∧ a.tenantId = link.sharedBy.tenantId ∧
      previewAsset db link.sharedBy link.response.assetId [] = .ok (buildPreview a []) ∧
      consumeShareToken settings db link.response.token now =
        if link.Live settings now then .ok (buildPreview a [])
        else .error (if link.secret = settings.effectivePreviewShareSecret then linkExpired else linkNotFound) := by
  obtain ⟨campaignId, a, member, same, _, tenant⟩ := granted.held
  have stored : db.asset? link.response.assetId = some a := by
    rw [← same]
    exact find?_key_eq ContentAsset.id wf.assetIds member
  have seen : (db.asset? link.response.assetId).filter (·.tenantId = link.sharedBy.tenantId) = some a := by
    rw [stored]
    exact Option.filter_eq_some_iff.mpr ⟨rfl, decide_eq_true tenant⟩
  refine ⟨a, member, same, tenant, ?_, ?_⟩
  · have found : db.tenantAsset? link.sharedBy link.response.assetId = some a := seen
    rw [previewAsset, found]
    rfl
  · rw [consumeShareToken, granted.loads]
    split
    · have assetId : uuidField [("asset_id", .str (uuidStr link.response.assetId)),
          ("tenant_id", .str (uuidStr link.sharedBy.tenantId))] "asset_id" = .ok link.response.assetId := by
        simp [uuidField, Dict.get?, str_str, uuidOf_uuidStr, orRaise]
      have tenantId : uuidField [("asset_id", .str (uuidStr link.response.assetId)),
          ("tenant_id", .str (uuidStr link.sharedBy.tenantId))] "tenant_id" = .ok link.sharedBy.tenantId := by
        simp [uuidField, Dict.get?, str_str, uuidOf_uuidStr, orRaise]
      simp only [Except.mapError, Json.dict?, orRaise, assetId, tenantId, seen, bind, Except.bind]
      rfl
    · split <;> rfl

/-- Whatever is done in the pipeline after a link was handed out to a marketer, it shows the asset as
its tenant sees it then, for as many days as the settings of the server have, whatever was asked
for; and nobody gets a preview by a token but the one of a link that is live. -/
theorem share_links_open_their_asset {db : Db} (wf : db.Wf) (ops later : List (PreviewOp × Int)) :
    let w := run step ⟨db, []⟩ ops
    let w' := run step w later
    (∀ link ∈ w.links, UserRole.marketer.rank ≤ link.sharedBy.role.rank ∧ ∃ a ∈ w'.db.assets,
      a.id = link.response.assetId ∧ a.tenantId = link.sharedBy.tenantId ∧
      previewAsset w'.db link.sharedBy link.response.assetId [] = .ok (buildPreview a []) ∧
      ∀ settings now, consumeShareToken settings w'.db link.response.token now =
        if link.Live settings now then .ok (buildPreview a [])
        else .error (if link.secret = settings.effectivePreviewShareSecret then linkExpired else linkNotFound)) ∧
    ∀ settings now token, Unforged settings w' now token → ∀ preview,
      consumeShareToken settings w'.db token now = .ok preview → ∃ link ∈ w'.links, link.response.token = token ∧
        link.Live settings now ∧ previewAsset w'.db link.sharedBy link.response.assetId [] = .ok preview := by
  intro w w'
  obtain ⟨wf', granted⟩ : w'.db.Wf ∧ ∀ link ∈ w'.links, link.Granted w'.db := by
    have reached := run_granted wf (ops ++ later)
    rwa [run_append] at reached
  refine ⟨fun link listed => ?_, fun settings now token unforged preview shown => ?_⟩
  · have grant := granted link (run_links w later listed)
    obtain ⟨a, member, same, tenant, seen, _⟩ := grant.consume wf' {sessionSecret := ""} 0
    refine ⟨grant.rank, a, member, same, tenant, seen, fun settings now => ?_⟩
    obtain ⟨b, _, _, _, seen', opens⟩ := grant.consume wf' settings now
    rw [seen, Except.ok.injEq] at seen'
    rw [opens, seen']
  · have verifies : URLSafeTimedSerializer.loads settings.effectivePreviewShareSecret serializerSalt token
        (settings.previewShareTtlDays * 86400) (now / 1000000) ≠ .error .badSignature := by
      intro refused
      rw [consumeShareToken, refused] at shown
      cases shown
    obtain ⟨link, listed, rfl⟩ := unforged verifies
    obtain ⟨a, _, _, _, seen, opens⟩ := (granted link listed).consume wf' settings now
    rw [opens] at shown
    split at shown
    · rename_i live
      exact ⟨link, listed, rfl, live, seen.trans shown⟩
    · cases shown

end Links

/-- A second as a text. -/
def secondText (n : Int) : List Char := (if 0 ≤ n then '+' else '-') :: List.replicate n.natAbs '1'

def textSecond : List Char → Option Int
  | '+' :: ones => some ones.length
  | '-' :: ones => some (-ones.length)
  | _ => none

theorem textSecond_secondText (n : Int) : textSecond (secondText n) = some n := by
  unfold secondText
  split
  · rw [textSecond, List.length_replicate]
    congr 1
    omega
  · rw [textSecond, List.length_replicate]
    congr 1
    omega

/-- `dumps` as a row of marked texts: the secret, the salt, the second, and the fields. -/
def stampWith (secret salt : String) (value : Json) (signedAt : Int) : String :=
  String.ofList (Unsubscribe.marked (secret.toList :: salt.toList :: secondText signedAt ::
    Unsubscribe.fieldTexts (value.dict?.getD [])))

def openStamped (secret salt : String) (texts : Option (List (List Char))) (maxAge now : Int) : Except TimedBadData Json :=
  match texts with
  | some (key :: purpose :: second :: rest) =>
    if key = secret.toList ∧ purpose = salt.toList then
      match textSecond second with
      | none => .error .badSignature
      | some signedAt =>
        if now - signedAt ≤ maxAge ∧ signedAt ≤ now then
          match Unsubscribe.textFields rest with
          | some fields => .ok (.obj fields)
          | none => .error .badPayload
        else .error .signatureExpired
    else .error .badSignature
  | _ => .error .badSignature

theorem openStamped_other {secret other salt : String} {texts : Option (List (List Char))} {maxAge now maxAge' now' : Int}
    (verifies : openStamped secret salt texts maxAge now ≠ .error .badSignature) (differs : other ≠ secret) :
    openStamped other salt texts maxAge' now' = .error .badSignature := by
  match texts with
  | none | some [] | some [_] | some [_, _] => rfl
  | some (key :: purpose :: second :: rest) =>
    have ours : key = secret.toList := by
      by_contra foreign
      exact verifies (by simp [openStamped, foreign])
    have theirs : key ≠ other.toList := fun same => differs (String.toList_inj.mp (same.symm.trans ours))
    simp [openStamped, theirs]

@[reducible] def stampedSerializer : URLSafeTimedSerializer where
  toPyText := PyText.plain
  dumps := stampWith
  loads secret salt token maxAge now := openStamped secret salt (Unsubscribe.unmarked token.toList) maxAge now
  loads_dumps secret salt fields signedAt maxAge now _ := by
    simp [stampWith, Unsubscribe.unmarked_marked, openStamped, textSecond_secondText, Json.dict?,
      Unsubscribe.textFields_fieldTexts]
  loads_other := openStamped_other

namespace Spring

local instance springSerializer : URLSafeTimedSerializer := stampedSerializer

open Sample

def server : Settings where
  sessionSecret := "dev"
  previewShareSecret := "share"

/-- The email of a campaign is shared for three days before it is written. -/
def shared : List (PreviewOp × Int) :=
  [(.content (.createCampaign manager launch), 0), (.content (.assistant manager (.synthesiseAudience 0 [("e", [])])), 1),
    (.content (.applyTransition manager .marketer 0 "set_strategy"), 2),
    (.content (.applyTransition manager .marketer 0 "start_content"), 3),
    (.share server manager 3 ⟨some 3, by simp⟩, 4)]

def written : List (PreviewOp × Int) :=
  [(.content (.generateAsset 3 (.drafted
    { cwOutput := [("title", .str "offer"), ("body", .str "Hi \x7b\x7bfirst_name\x7d\x7d")]
      brandCheck := .null
      seo := none
      hits := []
      rewrittenForSuppression := false
      similarity := none })), 5)]

def sharedWorld : PreviewWorld := run step ⟨planned, []⟩ shared

def writtenWorld : PreviewWorld := run step sharedWorld written

theorem sharedWorld_links : sharedWorld.links.map (fun link => (link.sharedBy, link.secret, link.signedAt,
    link.response.assetId, link.response.expiresAt)) = [(manager, "share", 0, 3, 3 * 86400000000 + 4)] := by decide +kernel

theorem writtenWorld_preview : (previewAsset writtenWorld.db manager 3 []).toOption.map PreviewResponse.rendered =
    some [("body", "Hi Alex"), ("title", "offer")] := by decide +kernel

/-- After six days the link still shows the email as it was written since, after eight it does not. -/
theorem share_links_open_their_asset_spring :
    ∃ link ∈ sharedWorld.links, link.response.expiresAt = 3 * 86400000000 + 4 ∧
      (∃ preview, consumeShareToken server writtenWorld.db link.response.token (6 * 86400000000) = .ok preview ∧
        preview.rendered = [("body", "Hi Alex"), ("title", "offer")] ∧
        ∃ live ∈ writtenWorld.links, live.response.token = link.response.token ∧ live.Live server (6 * 86400000000)) ∧
      consumeShareToken server writtenWorld.db link.response.token (8 * 86400000000) = .error linkExpired := by
  have wf : planned.Wf := ⟨by simp [planned], by simp [planned], by simp [planned], by simp [planned]⟩
  obtain ⟨opens, only⟩ := share_links_open_their_asset wf shared written
  obtain ⟨link, listed, facts⟩ : ∃ link ∈ sharedWorld.links, (link.sharedBy, link.secret, link.signedAt,
      link.response.assetId, link.response.expiresAt) = (manager, "share", (0 : Int), 3, (3 * 86400000000 + 4 : Int)) :=
    List.mem_map.mp (sharedWorld_links ▸ List.mem_singleton_self _)
  simp only [Prod.mk.injEq] at facts
  obtain ⟨sharedBy, secret, signedAt, assetId, expiresAt⟩ := facts
  obtain ⟨_, a, _, _, _, seen, consumed⟩ := opens link listed
  have own : link.secret = server.effectivePreviewShareSecret := secret
  have six : link.Live server (6 * 86400000000) := ⟨own, by rw [signedAt]; decide, by rw [signedAt]; decide⟩
  have eight : ¬ link.Live server (8 * 86400000000) := fun live => by
    have days := live.2.1
    rw [signedAt] at days
    exact absurd days (by decide)
  have shown := (consumed server (6 * 86400000000)).trans (if_pos six)
  have rendered := writtenWorld_preview
  rw [sharedBy, assetId] at seen
  have preview : previewAsset writtenWorld.db manager 3 [] = .ok (buildPreview a []) := seen
  rw [preview] at rendered
  have kept : link ∈ writtenWorld.links := run_links sharedWorld written listed
  obtain ⟨live, there, token, lives, _⟩ := only server (6 * 86400000000) link.response.token
    (fun _ => ⟨link, kept, rfl⟩) _ shown
  refine ⟨link, listed, expiresAt, ⟨_, shown, Option.some.inj rendered, live, there, token, lives⟩, ?_⟩
  exact (consumed server (8 * 86400000000)).trans ((if_neg eight).trans (congrArg _ (if_pos own)))

end Spring

end AssetPreview

end MarketingAgents
