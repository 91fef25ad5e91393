import MarketingAgents.Lib.Run
import MarketingAgents.Agents.EmailDistribution
import MarketingAgents.Tools.EmailSuppression

namespace MarketingAgents

open Lib PyText EmailDispatchTool

/-- How `loads` fails: the signature is not the secret's, or what was signed is no JSON text. -/
inductive BadData where
  | badSignature
  | badPayload
deriving DecidableEq

/-- `URLSafeSerializer(secret_key, salt)` of `itsdangerous`: its `dumps` is the
`signToken` of `PyText`. A signature verifies only under the secret that made it. -/
class URLSafeSerializer extends PyText where
  loads : String → String → String → Except BadData Json
  loads_signToken : ∀ secret salt (fields : Dict String String), (fields.map Prod.fst).Nodup →
    loads secret salt (signToken secret salt (.obj (fields.map fun entry => (entry.1, .str entry.2)))) =
      .ok (.obj (fields.map fun entry => (entry.1, .str entry.2)))
  loads_other : ∀ {secret other salt token}, loads secret salt token ≠ .error .badSignature → other ≠ secret →
    loads other salt token = .error .badSignature

inductive UnsubscribeError where
  | http (status : Nat) (detail : String)
  /-- `BadPayload`, which `except BadSignature` lets pass. -/
  | badPayload
  /-- `UUID(text)` of a text that is none, and of a value that is no text. -/
  | valueError
  | attributeError
  /-- An identifier that the column cannot hold. -/
  | dataError
  | integrityError
deriving DecidableEq

structure UnsubscribeResponse where
  tenantId : Uuid
  channelPlatform : String
  identifier : String
  alreadyExisted : Bool
deriving DecidableEq

def ChannelPlatform.members : List ChannelPlatform :=
  [.email, .linkedin, .x, .meta, .instagram, .googleAds, .metaAds, .web, .blog, .sms]

/-- `ChannelPlatform(text)`. -/
def ChannelPlatform.ofValue? (text : String) : Option ChannelPlatform := members.find? (·.value = text)

namespace Unsubscribe

def serializerSalt : String := "email-unsubscribe"

def notFound : UnsubscribeError := .http 404 "unsubscribe link not found"

section Entries

variable [PyText]

/-- The rows under the unique constraint of `suppression_entry`. -/
def entriesFor (suppressions : List SuppressionEntry) (tenantId : Uuid) (channel : ChannelPlatform)
    (identifier : String) : List SuppressionEntry :=
  suppressions.filter fun row => row.tenantId = tenantId ∧ row.channelPlatform = channel ∧
    lower row.identifier = lower identifier

/-- `INSERT INTO suppression_entry … ON CONFLICT DO NOTHING RETURNING`. -/
def insertEntry (tenants : List Uuid) (db : Db) (tenantId : Uuid) (channel : ChannelPlatform) (identifier : String) :
    Except UnsubscribeError (Db × Bool) :=
  if entriesFor db.suppressions tenantId channel identifier ≠ [] then .ok (db, true)
  else if tenantId ∉ tenants then .error .integrityError
  else
    let entry : SuppressionEntry :=
      { id := db.nextId
        tenantId := tenantId
        channelPlatform := channel
        identifier := identifier
        reason := "unsubscribe"
        sourceEventId := none }
    .ok ({ db with suppressions := db.suppressions ++ [entry], nextId := db.nextId + 1 }, false)

def SameEntry (a b : SuppressionEntry) : Prop :=
  a.tenantId = b.tenantId ∧ a.channelPlatform = b.channelPlatform ∧ lower a.identifier = lower b.identifier

/-- The unique constraint of `suppression_entry`. -/
def UniqueEntries (suppressions : List SuppressionEntry) : Prop := suppressions.Pairwise fun a b => ¬ SameEntry a b

theorem mem_entriesFor {suppressions : List SuppressionEntry} {tenantId : Uuid} {channel : ChannelPlatform}
    {identifier : String} {row : SuppressionEntry} :
    row ∈ entriesFor suppressions tenantId channel identifier ↔ row ∈ suppressions ∧ row.tenantId = tenantId ∧
      row.channelPlatform = channel ∧ lower row.identifier = lower identifier := by
  simp [entriesFor, List.mem_filter]

theorem UniqueEntries.at_most_one {suppressions : List SuppressionEntry} (unique : UniqueEntries suppressions)
    (tenantId : Uuid) (channel : ChannelPlatform) (identifier : String) :
    (entriesFor suppressions tenantId channel identifier).length ≤ 1 := by
  have distinct : (entriesFor suppressions tenantId channel identifier).Pairwise fun a b => ¬ SameEntry a b :=
    List.Pairwise.sublist List.filter_sublist unique
  cases rows : entriesFor suppressions tenantId channel identifier with
  | nil => exact Nat.zero_le _
  | cons a rest =>
    cases rest with
    | nil => exact Nat.le_refl _
    | cons b rest =>
      rw [rows] at distinct
      have first := (mem_entriesFor.mp (rows ▸ List.mem_cons_self : a ∈ entriesFor _ _ _ _)).2
      have second := (mem_entriesFor.mp
        (rows ▸ List.mem_cons_of_mem _ List.mem_cons_self : b ∈ entriesFor _ _ _ _)).2
      have differ := List.rel_of_pairwise_cons distinct (List.mem_cons_self (a := b))
      exact absurd ⟨first.1.trans second.1.symm, first.2.1.trans second.2.1.symm, first.2.2.trans second.2.2.symm⟩ differ

/-- What an insert leaves: the settings, the old entries, and one for its key. -/
structure Recorded (db db' : Db) : Prop where
  settings : db'.complianceSettings = db.complianceSettings
  kept : db.suppressions ⊆ db'.suppressions
  unique : UniqueEntries db.suppressions → UniqueEntries db'.suppressions

theorem Recorded.refl (db : Db) : Recorded db db := ⟨rfl, fun _ member => member, id⟩

theorem insertEntry_spec {tenants : List Uuid} {db : Db} {tenantId : Uuid} {channel : ChannelPlatform}
    {identifier : String} {done : Db × Bool} (inserted : insertEntry tenants db tenantId channel identifier = .ok done) :
    Recorded db done.1 ∧ entriesFor done.1.suppressions tenantId channel identifier ≠ [] := by
  unfold insertEntry at inserted
  split at inserted
  · rename_i stored
    cases inserted
    exact ⟨.refl db, stored⟩
  · rename_i fresh
    split at inserted
    · cases inserted
    · cases inserted
      refine ⟨⟨rfl, List.subset_append_left _ _, fun unique => ?_⟩, ?_⟩
      · refine List.pairwise_append.mpr ⟨unique, List.pairwise_singleton _ _, fun a old b new => ?_⟩
        rw [List.mem_singleton] at new
        subst new
        rintro ⟨tenant, platform, same⟩
        have clash : a ∈ entriesFor db.suppressions tenantId channel identifier :=
          mem_entriesFor.mpr ⟨old, tenant, platform, same⟩
        rw [not_not.mp fresh] at clash
        cases clash
      · refine List.ne_nil_of_mem (mem_entriesFor.mpr ⟨List.mem_append_right _ (List.mem_singleton.mpr rfl), ?_⟩)
        exact ⟨rfl, rfl, rfl⟩

theorem insertEntry_ok {tenants : List Uuid} {tenantId : Uuid} (tenant : tenantId ∈ tenants) (db : Db)
    (channel : ChannelPlatform) (identifier : String) :
    ∃ done, insertEntry tenants db tenantId channel identifier = .ok done := by
  by_cases stored : entriesFor db.suppressions tenantId channel identifier ≠ []
  · exact ⟨_, if_pos stored⟩
  · exact ⟨_, (if_neg stored).trans (if_neg (not_not_intro tenant))⟩

end Entries

section Code

variable [URLSafeSerializer]

def ownSecrets (db : Db) : List String :=
  db.complianceSettings.filterMap fun row => row.unsubscribeSecret.filter (· ≠ "")

/-- The secrets `_verify_token` tries, in their order. -/
def candidateSecrets (db : Db) (fallback : String) : List String :=
  if fallback ≠ "" ∧ fallback ∉ ownSecrets db then ownSecrets db ++ [fallback] else ownSecrets db

def hasKeys (payload : Dict String Json) : Bool :=
  ["tenant_id", "channel_platform", "identifier"].all fun key => (payload.get? key).isSome

/-- The loop of `_verify_token` over the candidate secrets. -/
def verifyWith (token : String) : List String → Except UnsubscribeError (Dict String Json)
  | [] => .error notFound
  | secret :: rest =>
    match URLSafeSerializer.loads secret serializerSalt token with
    | .error .badSignature => verifyWith token rest
    | .error .badPayload => .error .badPayload
    | .ok (.obj payload) => if hasKeys payload then .ok payload else verifyWith token rest
    | .ok _ => verifyWith token rest

def verifyToken (db : Db) (fallback token : String) : Except UnsubscribeError (Dict String Json) :=
  verifyWith token (candidateSecrets db fallback)

/-- `UUID(payload["tenant_id"])`. -/
def tenantOf (payload : Dict String Json) : Except UnsubscribeError Uuid := do
  let text ← orRaise ((payload.get? "tenant_id").bind Json.str?) .attributeError
  orRaise (uuidOf text) .valueError

/-- `ChannelPlatform(payload["channel_platform"])`. -/
def channelOf (payload : Dict String Json) : Except UnsubscribeError ChannelPlatform :=
  orRaise (((payload.get? "channel_platform").bind Json.str?).bind ChannelPlatform.ofValue?) notFound

/-- The identifier as the `citext` column takes it. -/
def identifierOf (payload : Dict String Json) : Except UnsubscribeError String := do
  let identifier ← orRaise ((payload.get? "identifier").bind Json.str?) .dataError
  require (Json.storable (.str identifier)) .dataError
  pure identifier

/-- `consume_unsubscribe_token`; `tenants` are the rows the foreign key of an
entry may name, `fallback` is the secret of the settings. -/
def consumeUnsubscribeToken (tenants : List Uuid) (fallback : String) (db : Db) (token : String) :
    Except UnsubscribeError (Db × UnsubscribeResponse) := do
  let payload ← verifyToken db fallback token
  let tenantId ← tenantOf payload
  let channel ← channelOf payload
  let identifier ← identifierOf payload
  let (db, alreadyExisted) ← insertEntry tenants db tenantId channel identifier
  pure (db, ⟨tenantId, channel.value, identifier, alreadyExisted⟩)

/-- The secret of `_build_unsubscribe_signer`. -/
def signingSecret (db : Db) (fallback : String) (tenantId : Uuid) : String :=
  (((db.complianceSettings.find? (·.tenantId = tenantId)).bind TenantComplianceSettings.unsubscribeSecret).filter
    (· ≠ "")).getD fallback

/-- The payload under the signature. -/
def payloadFor (tenantId : Uuid) (channel identifier : String) : Json :=
  .obj [("tenant_id", .str (uuidStr tenantId)), ("channel_platform", .str channel), ("identifier", .str identifier)]

/-- The token in the link that `_build_unsubscribe_signer` builds. -/
def unsubscribeToken (db : Db) (fallback : String) (tenantId : Uuid) (email : String) : String :=
  signToken (signingSecret db fallback tenantId) serializerSalt (payloadFor tenantId "email" (lower email))

end Code

section Binding

variable [URLSafeSerializer]

/-- The payload asks for one entry, of the tenant, the channel and the identifier. -/
structure Asks (payload : Dict String Json) (tenantId : Uuid) (channel : ChannelPlatform) (identifier : String) :
    Prop where
  tenant : ∃ text, payload.get? "tenant_id" = some (.str text) ∧ uuidOf text = some tenantId
  platform : ∃ text, payload.get? "channel_platform" = some (.str text) ∧ ChannelPlatform.ofValue? text = some channel
  addressed : payload.get? "identifier" = some (.str identifier)
  storable : Json.storable (.str identifier) = true

theorem Asks.keys {payload : Dict String Json} {tenantId : Uuid} {channel : ChannelPlatform} {identifier : String}
    (asks : Asks payload tenantId channel identifier) : hasKeys payload = true := by
  obtain ⟨_, tenant, _⟩ := asks.tenant
  obtain ⟨_, platform, _⟩ := asks.platform
  simp [hasKeys, tenant, platform, asks.addressed]

/-- Whatever the candidates are, only the secret of the signature decides. -/
theorem verifyWith_signed {secret token : String} {payload : Dict String Json}
    (signed : URLSafeSerializer.loads secret serializerSalt token = .ok (.obj payload))
    (keys : hasKeys payload = true) (secrets : List String) :
    verifyWith token secrets = if secret ∈ secrets then .ok payload else .error notFound := by
  induction secrets with
  | nil => rfl
  | cons other secrets ih =>
    by_cases same : other = secret
    · subst same
      simp [verifyWith, signed, keys]
    · have verifies : URLSafeSerializer.loads secret serializerSalt token ≠ .error .badSignature := by
        simp [signed]
      have refused := URLSafeSerializer.loads_other verifies same
      have differs : secret ≠ other := fun equal => same equal.symm
      simp only [verifyWith, refused, ih, List.mem_cons, differs, false_or]

omit [URLSafeSerializer] in
theorem mem_ownSecrets {db : Db} {secret : String} :
    secret ∈ ownSecrets db ↔ secret ≠ "" ∧ ∃ row ∈ db.complianceSettings, row.unsubscribeSecret = some secret := by
  unfold ownSecrets
  rw [List.mem_filterMap]
  constructor
  · rintro ⟨row, member, kept⟩
    rw [Option.filter_eq_some_iff] at kept
    exact ⟨by simpa using kept.2, row, member, kept.1⟩
  · rintro ⟨present, row, member, stored⟩
    exact ⟨row, member, Option.filter_eq_some_iff.mpr ⟨stored, by simpa using present⟩⟩

omit [URLSafeSerializer] in
theorem mem_candidateSecrets {db : Db} {fallback secret : String} :
    secret ∈ candidateSecrets db fallback ↔
      secret ≠ "" ∧ (secret = fallback ∨ ∃ row ∈ db.complianceSettings, row.unsubscribeSecret = some secret) := by
  unfold candidateSecrets
  split
  · rename_i added
    rw [List.mem_append, mem_ownSecrets, List.mem_singleton]
    constructor
    · rintro (⟨present, stored⟩ | rfl)
      · exact ⟨present, Or.inr stored⟩
      · exact ⟨added.1, Or.inl rfl⟩
    · rintro ⟨present, rfl | stored⟩
      · exact Or.inr rfl
      · exact Or.inl ⟨present, stored⟩
  · rename_i known
    rw [mem_ownSecrets]
    refine and_congr_right fun present => ⟨Or.inr, ?_⟩
    rintro (rfl | stored)
    · exact (mem_ownSecrets.mp (by_contra fun absent => known ⟨present, absent⟩)).2
    · exact stored

omit [URLSafeSerializer] in
theorem signingSecret_candidate {db : Db} {fallback : String} {tenantId : Uuid}
    (present : signingSecret db fallback tenantId ≠ "") :
    signingSecret db fallback tenantId ∈ candidateSecrets db fallback := by
  refine mem_candidateSecrets.mpr ⟨present, ?_⟩
  unfold signingSecret
  cases stored : ((db.complianceSettings.find? (·.tenantId = tenantId)).bind
      TenantComplianceSettings.unsubscribeSecret).filter (· ≠ "") with
  | none => exact Or.inl rfl
  | some secret =>
    obtain ⟨row, found, value⟩ := Option.bind_eq_some_iff.mp (Option.filter_eq_some_iff.mp stored).1
    exact Or.inr ⟨row, List.mem_of_find?_eq_some found, value⟩

/-- A verified payload that asks for an entry goes to the insert. -/
theorem consume_verified {tenants : List Uuid} {fallback token : String} {db : Db} {payload : Dict String Json}
    {tenantId : Uuid} {channel : ChannelPlatform} {identifier : String}
    (verified : verifyToken db fallback token = .ok payload) (asks : Asks payload tenantId channel identifier) :
    consumeUnsubscribeToken tenants fallback db token =
      (insertEntry tenants db tenantId channel identifier).map fun done =>
        (done.1, ⟨tenantId, channel.value, identifier, done.2⟩) := by
  obtain ⟨_, tenant, parsed⟩ := asks.tenant
  obtain ⟨_, platform, known⟩ := asks.platform
  have tenantIs : tenantOf payload = .ok tenantId := by
    simp [tenantOf, tenant, Json.str?, orRaise, parsed, bind, Except.bind]
  have channelIs : channelOf payload = .ok channel := by
    simp [channelOf, platform, Json.str?, orRaise, known]
  have identifierIs : identifierOf payload = .ok identifier := by
    simp [identifierOf, asks.addressed, asks.storable, Json.str?, orRaise, require, bind, Except.bind, pure, Except.pure]
  simp only [consumeUnsubscribeToken, verified, tenantIs, channelIs, identifierIs, bind, Except.bind]
  cases insertEntry tenants db tenantId channel identifier <;> rfl

/-- A token signed with a secret that is tried leaves an entry for what its payload asks. -/
theorem consume_signed {tenants : List Uuid} {fallback secret token : String} {db : Db} {payload : Dict String Json}
    {tenantId : Uuid} {channel : ChannelPlatform} {identifier : String} (tenant : tenantId ∈ tenants)
    (signed : URLSafeSerializer.loads secret serializerSalt token = .ok (.obj payload))
    (asks : Asks payload tenantId channel identifier) (tried : secret ∈ candidateSecrets db fallback) :
    ∃ done, consumeUnsubscribeToken tenants fallback db token = .ok done ∧
      entriesFor done.1.suppressions tenantId channel identifier ≠ [] := by
  have verified := (verifyWith_signed signed asks.keys (candidateSecrets db fallback)).trans (if_pos tried)
  obtain ⟨done, inserted⟩ := insertEntry_ok tenant db channel identifier
  refine ⟨(done.1, ⟨tenantId, channel.value, identifier, done.2⟩), ?_, (insertEntry_spec inserted).2⟩
  rw [consume_verified verified asks, inserted]
  rfl

/-- A signed token is accepted exactly when its secret is one of those tried. -/
theorem accepted_iff_candidate {tenants : List Uuid} {fallback secret token : String} {db : Db}
    {payload : Dict String Json} {tenantId : Uuid} {channel : ChannelPlatform} {identifier : String}
    (tenant : tenantId ∈ tenants) (signed : URLSafeSerializer.loads secret serializerSalt token = .ok (.obj payload))
    (asks : Asks payload tenantId channel identifier) :
    (∃ done, consumeUnsubscribeToken tenants fallback db token = .ok done) ↔
      secret ∈ candidateSecrets db fallback := by
  constructor
  · rintro ⟨done, accepted⟩
    by_contra foreign
    have refused := (verifyWith_signed signed asks.keys (candidateSecrets db fallback)).trans (if_neg foreign)
    simp [consumeUnsubscribeToken, verifyToken, refused] at accepted
  · intro tried
    obtain ⟨done, accepted, _⟩ := consume_signed tenant signed asks tried
    exact ⟨done, accepted⟩

/-- The key of a token is the secret that the tenant signs with, and not empty,
or else it is none of the secrets in use. -/
def TenantBound (db : Db) (fallback : String) (tenantId : Uuid) (secret : String) : Prop :=
  if secret = signingSecret db fallback tenantId then secret ≠ ""
  else secret = "" ∨ secret ≠ fallback ∧ ∀ row ∈ db.complianceSettings, row.unsubscribeSecret ≠ some secret

/-- Acceptance follows the tenant's own secret exactly as far as no other
tenant's secret, and no fallback beside an own secret, made the signature. -/
theorem accepted_by_own_secret_iff {tenants : List Uuid} {fallback secret token : String} {db : Db}
    {payload : Dict String Json} {tenantId : Uuid} {channel : ChannelPlatform} {identifier : String}
    (tenant : tenantId ∈ tenants) (signed : URLSafeSerializer.loads secret serializerSalt token = .ok (.obj payload))
    (asks : Asks payload tenantId channel identifier) :
    ((∃ done, consumeUnsubscribeToken tenants fallback db token = .ok done) ↔
        secret = signingSecret db fallback tenantId) ↔
      TenantBound db fallback tenantId secret := by
  rw [accepted_iff_candidate tenant signed asks, TenantBound]
  split
  · rename_i own
    constructor
    · intro accepted
      exact (mem_candidateSecrets.mp (accepted.mpr own)).1
    · intro present
      refine ⟨fun _ => own, fun _ => ?_⟩
      rw [own] at present ⊢
      exact signingSecret_candidate present
  · rename_i foreign
    rw [mem_candidateSecrets]
    constructor
    · intro accepted
      by_cases empty : secret = ""
      · exact Or.inl empty
      · refine Or.inr ⟨fun same => foreign (accepted.mp ⟨empty, Or.inl same⟩), fun row member stored => ?_⟩
        exact foreign (accepted.mp ⟨empty, Or.inr ⟨row, member, stored⟩⟩)
    · rintro (empty | ⟨notFallback, nobody⟩)
      · exact ⟨fun tried => absurd empty tried.1, fun own => absurd own foreign⟩
      · refine ⟨fun tried => ?_, fun own => absurd own foreign⟩
        rcases tried.2 with same | ⟨row, member, stored⟩
        · exact absurd same notFallback
        · exact absurd stored (nobody row member)

end Binding

section RoundTrip

variable [URLSafeSerializer]

/-- The committed effect of a request; one that raises is rolled back. -/
def consumeStep (tenants : List Uuid) (fallback : String) (db : Db) (token : String) : Db :=
  match consumeUnsubscribeToken tenants fallback db token with
  | .ok (db, _) => db
  | .error _ => db

theorem consumeStep_recorded (tenants : List Uuid) (fallback : String) (db : Db) (token : String) :
    Recorded db (consumeStep tenants fallback db token) := by
  unfold consumeStep
  split
  · rename_i done _ accepted
    simp only [consumeUnsubscribeToken, bind_eq_ok, pure_eq_ok, Prod.mk.injEq] at accepted
    obtain ⟨_, _, _, _, _, _, _, _, ⟨mid, existed⟩, inserted, rfl, _⟩ := accepted
    exact (insertEntry_spec inserted).1
  · exact .refl db

theorem run_recorded (tenants : List Uuid) (fallback : String) (db : Db) (tokens : List String) :
    Recorded db (run (consumeStep tenants fallback) db tokens) := by
  refine run_invariant (I := Recorded db) (.refl db) (fun mid token before => ?_) tokens
  have step := consumeStep_recorded tenants fallback mid token
  exact ⟨step.settings.trans before.settings, fun _ member => step.kept (before.kept member),
    fun unique => step.unique (before.unique unique)⟩

/-- An address as the signer receives it: stripped, in lower case, and text that a column can hold. -/
structure PlainAddress (address : String) : Prop where
  stripped : strip address = address
  lowered : lower address = address
  storable : Json.storable (.str address) = true

theorem PlainAddress.normalised {address : String} (plain : PlainAddress address) :
    PyText.normalised address = address := by
  unfold PyText.normalised
  rw [plain.stripped, plain.lowered]

theorem payloadFor_asks (tenantId : Uuid) {address : String} (storable : Json.storable (.str address) = true) :
    Asks [("tenant_id", .str (uuidStr tenantId)), ("channel_platform", .str "email"), ("identifier", .str address)]
      tenantId .email address where
  tenant := ⟨_, rfl, uuidOf_uuidStr tenantId⟩
  platform := ⟨_, rfl, rfl⟩
  addressed := rfl
  storable := storable

theorem unsubscribeToken_signed (db : Db) (fallback : String) (tenantId : Uuid) (email : String) :
    URLSafeSerializer.loads (signingSecret db fallback tenantId) serializerSalt
      (unsubscribeToken db fallback tenantId email) = .ok (payloadFor tenantId "email" (lower email)) :=
  URLSafeSerializer.loads_signToken _ _
    [("tenant_id", uuidStr tenantId), ("channel_platform", "email"), ("identifier", lower email)] (by simp)

/-- The link is good as long as the secrets stay: its token is accepted and leaves an entry for its address. -/
theorem consume_issued {tenants : List Uuid} {fallback address : String} {db mid : Db} {tenantId : Uuid}
    (tenant : tenantId ∈ tenants) (present : signingSecret db fallback tenantId ≠ "") (plain : PlainAddress address)
    (settings : mid.complianceSettings = db.complianceSettings) :
    ∃ done, consumeUnsubscribeToken tenants fallback mid (unsubscribeToken db fallback tenantId address) = .ok done ∧
      entriesFor done.1.suppressions tenantId .email address ≠ [] := by
  have asks := payloadFor_asks tenantId plain.storable
  have signed := unsubscribeToken_signed db fallback tenantId address
  rw [plain.lowered] at signed
  have tried : signingSecret db fallback tenantId ∈ candidateSecrets mid fallback := by
    have candidate := signingSecret_candidate present
    rwa [mem_candidateSecrets, ← settings, ← mem_candidateSecrets] at candidate
  exact consume_signed tenant signed asks tried

/-- The round trip, among any other requests: the token is accepted every
time, and once consumed it leaves one entry, which every later call respects. -/
theorem unsubscribe_round_trip {tenants : List Uuid} {fallback address : String} {db : Db} {tenantId : Uuid}
    (tenant : tenantId ∈ tenants) (present : signingSecret db fallback tenantId ≠ "")
    (unique : UniqueEntries db.suppressions) (plain : PlainAddress address) (tokens : List String) :
    let token := unsubscribeToken db fallback tenantId address
    let after := run (consumeStep tenants fallback) db tokens
    (∃ done, consumeUnsubscribeToken tenants fallback after token = .ok done) ∧
    (token ∈ tokens →
      (entriesFor after.suppressions tenantId .email address).length = 1 ∧
      ∀ later : List SuppressionEntry, after.suppressions ⊆ later →
        ∀ connector batchId inputs, transactional inputs = false →
          let outcome := call connector later tenantId batchId inputs
          (∀ sent ∈ outcome.handed, sent.email ≠ address) ∧
          ∀ out, outcome.result = .ok out → Addressed inputs address → refusal address ∈ out.rejections) := by
  intro token after
  have recorded : Recorded db after := run_recorded tenants fallback db tokens
  obtain ⟨done, accepted, _⟩ := consume_issued tenant present plain recorded.settings
  refine ⟨⟨done, accepted⟩, fun consumed => ?_⟩
  have listed : entriesFor after.suppressions tenantId .email address ≠ [] := by
    obtain ⟨first, rest, split⟩ := List.append_of_mem consumed
    let mid := run (consumeStep tenants fallback) db first
    have before : Recorded db mid := run_recorded tenants fallback db first
    obtain ⟨done, accepted, entered⟩ := consume_issued tenant present plain before.settings
    have step : consumeStep tenants fallback mid token = done.1 := by simp [consumeStep, token, accepted]
    have suffix := run_recorded tenants fallback done.1 rest
    have whole : after = run (consumeStep tenants fallback) done.1 rest := by
      simp only [after, split, run_append, run_cons]
      rw [← step]
    obtain ⟨row, member⟩ := List.exists_mem_of_ne_nil _ entered
    rw [mem_entriesFor] at member
    exact List.ne_nil_of_mem (mem_entriesFor.mpr ⟨whole ▸ suffix.kept member.1, member.2⟩)
  constructor
  · have some := List.length_pos_of_ne_nil listed
    have atMost := (recorded.unique unique).at_most_one tenantId .email address
    omega
  · intro later kept connector batchId inputs marketing
    obtain ⟨row, member⟩ := List.exists_mem_of_ne_nil _ listed
    obtain ⟨stored, tenantIs, platform, same⟩ := mem_entriesFor.mp member
    have suppressed : Suppressed later tenantId address :=
      ⟨row, kept stored, tenantIs, platform, by rw [same, plain.lowered, plain.normalised]⟩
    have respected := call_respects_suppression connector suppressed batchId marketing
    rwa [plain.normalised] at respected

end RoundTrip

/-! ### A serializer that writes the key in front -/

/-- Texts in one, each character after a mark and each text before a stop. -/
def marked (texts : List (List Char)) : List Char := texts.flatMap fun text => text.flatMap (['+', ·]) ++ ['.']

def unmarked : List Char → Option (List (List Char))
  | [] => some []
  | '.' :: rest => (unmarked rest).map ([] :: ·)
  | '+' :: c :: rest =>
    match unmarked rest with
    | some (text :: texts) => some ((c :: text) :: texts)
    | _ => none
  | _ => none

theorem unmarked_marked (texts : List (List Char)) : unmarked (marked texts) = some texts := by
  have word (text rest : List Char) (texts : List (List Char)) (done : unmarked rest = some texts) :
      unmarked (text.flatMap (['+', ·]) ++ '.' :: rest) = some (text :: texts) := by
    induction text with
    | nil => simp [unmarked, done]
    | cons c text ih => simp [unmarked, ih]
  induction texts with
  | nil => rfl
  | cons text texts ih =>
    have unfolded : marked (text :: texts) = text.flatMap (['+', ·]) ++ '.' :: marked texts := by
      simp [marked]
    rw [unfolded]
    exact word text _ texts ih

def fieldTexts : Dict String Json → List (List Char)
  | [] => []
  | (key, value) :: fields => key.toList :: (value.str?.getD "").toList :: fieldTexts fields

def textFields : List (List Char) → Option (Dict String Json)
  | [] => some []
  | key :: value :: rest => (textFields rest).map ((String.ofList key, .str (String.ofList value)) :: ·)
  | [_] => none

theorem textFields_fieldTexts (fields : Dict String String) :
    textFields (fieldTexts (fields.map fun entry => (entry.1, .str entry.2))) =
      some (fields.map fun entry => (entry.1, .str entry.2)) := by
  induction fields with
  | nil => rfl
  | cons entry fields ih => simp [fieldTexts, textFields, Json.str?, ih]

def markWith (secret salt : String) (value : Json) : String :=
  String.ofList (marked (secret.toList :: salt.toList :: fieldTexts (value.dict?.getD [])))

def openWith (secret salt : String) (texts : Option (List (List Char))) : Except BadData Json :=
  match texts with
  | some (key :: purpose :: rest) =>
    if key = secret.toList ∧ purpose = salt.toList then
      match textFields rest with
      | some fields => .ok (.obj fields)
      | none => .error .badPayload
    else .error .badSignature
  | _ => .error .badSignature

theorem openWith_other {secret other salt : String} {texts : Option (List (List Char))}
    (verifies : openWith secret salt texts ≠ .error .badSignature) (differs : other ≠ secret) :
    openWith other salt texts = .error .badSignature := by
  match texts with
  | none | some [] | some [_] => rfl
  | some (key :: purpose :: rest) =>
    have ours : key = secret.toList := by
      by_contra foreign
      exact verifies (by simp [openWith, foreign])
    have theirs : key ≠ other.toList := fun same => differs (String.toList_inj.mp (same.symm.trans ours))
    simp [openWith, theirs]

@[reducible] def markedSerializer : URLSafeSerializer where
  toPyText := { PyText.plain with signToken := markWith }
  loads secret salt token := openWith secret salt (unmarked token.toList)
  loads_signToken secret salt fields _ := by
    show openWith secret salt (unmarked (markWith secret salt _).toList) = _
    simp [markWith, unmarked_marked, openWith, Json.dict?, textFields_fieldTexts]
  loads_other := openWith_other

namespace Links

local instance linksSerializer : URLSafeSerializer := markedSerializer

/-- Tenant 1 signs with a secret of its own since it rotated away from the fallback, tenant 2 with another. -/
def twoTenants : Db where
  complianceSettings := [⟨1, none, some "acme"⟩, ⟨2, none, some "globex"⟩]

/-- The link that the key signs for tenant 1 suppresses its address. -/
def Suppresses (key : String) : Prop :=
  ∃ done, consumeUnsubscribeToken [1, 2] "dev" twoTenants
      (signToken key serializerSalt (payloadFor 1 "email" "ann@mail.io")) = .ok done ∧
    entriesFor done.1.suppressions 1 .email "ann@mail.io" ≠ []

theorem suppresses_of_candidate {key : String} (tried : key ∈ candidateSecrets twoTenants "dev") : Suppresses key := by
  have signed := URLSafeSerializer.loads_signToken key serializerSalt
    [("tenant_id", uuidStr 1), ("channel_platform", "email"), ("identifier", "ann@mail.io")] (by simp)
  exact consume_signed (by decide) signed (payloadFor_asks 1 (by decide)) tried

/-- The link of tenant 1 is accepted when it is signed with the secret of the other
tenant, and when it is signed with the fallback of the settings. -/
theorem foreign_links_accepted :
    ("globex" ≠ signingSecret twoTenants "dev" 1 ∧ Suppresses "globex") ∧
      ("dev" ≠ signingSecret twoTenants "dev" 1 ∧ Suppresses "dev") := by
  have tried : ∀ key ∈ ["globex", "dev"], key ∈ candidateSecrets twoTenants "dev" := by
    intro key foreign
    rcases List.mem_pair.mp foreign with rfl | rfl <;> simp [mem_candidateSecrets, twoTenants]
  exact ⟨⟨by decide, suppresses_of_candidate (tried _ (by simp))⟩, ⟨by decide, suppresses_of_candidate (tried _ (by simp))⟩⟩

theorem accepted_by_own_secret_iff_acme :
    ((∃ done, consumeUnsubscribeToken [1, 2] "dev" twoTenants
        (signToken "acme" serializerSalt (payloadFor 1 "email" "ann@mail.io")) = .ok done) ↔
      "acme" = signingSecret twoTenants "dev" 1) ↔ TenantBound twoTenants "dev" 1 "acme" :=
  accepted_by_own_secret_iff (by decide)
    (URLSafeSerializer.loads_signToken "acme" serializerSalt
      [("tenant_id", uuidStr 1), ("channel_platform", "email"), ("identifier", "ann@mail.io")] (by simp))
    (payloadFor_asks 1 (by decide))

theorem unsubscribe_round_trip_twice :
    let token := unsubscribeToken twoTenants "dev" 1 "ann@mail.io"
    let after := run (consumeStep [1, 2] "dev") twoTenants [token, token]
    (entriesFor after.suppressions 1 .email "ann@mail.io").length = 1 :=
  ((@unsubscribe_round_trip _ [1, 2] "dev" "ann@mail.io" twoTenants 1 (by decide) (by decide) List.Pairwise.nil
    ⟨rfl, rfl, by decide⟩ _).2 (List.mem_cons_self ..)).1

/-- A deployment that sets both of its secrets to the empty text: a tenant
without a secret of its own issues links that are never accepted. -/
theorem empty_fallback_refused :
    signingSecret {} "" 1 = "" ∧
      consumeUnsubscribeToken [1] "" {} (unsubscribeToken {} "" 1 "ann@mail.io") = .error notFound :=
  ⟨rfl, rfl⟩

end Links

end Unsubscribe

end MarketingAgents
