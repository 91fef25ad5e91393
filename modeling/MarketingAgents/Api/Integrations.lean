import MarketingAgents.Integrations.Social
import MarketingAgents.Lib.Transactions

namespace MarketingAgents

open Lib PyText

/-- A row of `channel` that `create_channel` writes. -/
structure SocialChannel extends Channel where
  name : String
deriving DecidableEq

/-- A row of `integration_credential`, with its payload decrypted. -/
structure StoredCredential extends IntegrationCredential where
  id : Uuid
  label : String
  keyVersion : Nat := 1
  expiresAt : Option Int := none
deriving DecidableEq

structure OAuthTokens where
  accessToken : String
  refreshToken : Option String
  expiresAt : Int
  scopes : List String

structure AuthorisedPage where
  pageId : String
  pageName : String
  urn : String

structure EmailConfigUpsert where
  provider : String
  apiKey : String
  defaultFromEmail : String
  verifiedSenders : List String
  webhookSecret : Option String := none

structure CreateSocialChannelRequest where
  pageId : String
  name : Option String := none

/-- A request, with what the session parks of it and what the provider answers. -/
inductive IntegrationRequest where
  | emailConfig (user : AppUser) (body : EmailConfigUpsert)
  | hubspotCallback (user : AppUser) (parked : Option String) (state : String) (tokens : OAuthTokens)
  | hubspotTest (user : AppUser) (now : Int) (refreshed : OAuthTokens)
  | socialCallback (user : AppUser) (provider : String) (parked : Option String) (state : String) (tokens : OAuthTokens)
  | createChannel (user : AppUser) (provider : String) (body : CreateSocialChannelRequest)
      (pages : Except SocialConnectorError (List AuthorisedPage))

/-- What a request writes: a credential over the one it has loaded, or a new one
where it found none, or a channel with a copy of the account it has loaded. -/
inductive CredentialWrite where
  | save (tenantId : Uuid) (provider : String) (loaded : Option StoredCredential) (payload : Dict String Json)
      (expiresAt : Option Int)
  | attach (account : StoredCredential) (name : String) (page : AuthorisedPage)

/-- Where a request stands: `none` is an answer that writes nothing. -/
inductive IntegrationWork where
  | started (request : IntegrationRequest)
  | ready (write : Option CredentialWrite)
  | failed (error : AppError)

/-- What was last saved for a provider. -/
structure Grant where
  tenantId : Uuid
  provider : String
  payload : Dict String Json
deriving DecidableEq

/-- The tables, and what was saved for the tenants' providers, newest first. -/
structure IntegrationTable where
  credentials : List StoredCredential := []
  channels : List SocialChannel := []
  nextId : Uuid := 0
  grants : List Grant := []

/-- `_REFRESH_LEEWAY`. -/
def refreshLeeway : Int := 120000000

def nullable : Option String → Json
  | some text => .str text
  | none => .null

namespace IntegrationTable

/-- The rows of a provider, as the email endpoints and the webhook dispatcher look them up. -/
def stored (t : IntegrationTable) (tenantId : Uuid) (provider : String) : List StoredCredential :=
  t.credentials.filter fun c => c.tenantId = tenantId ∧ c.provider = provider

/-- `_load_credential` and `_load_hubspot_credential`: the rows without a channel. -/
def account (t : IntegrationTable) (tenantId : Uuid) (provider : String) : List StoredCredential :=
  t.credentials.filter fun c => c.tenantId = tenantId ∧ c.provider = provider ∧ c.channelId = none

/-- The credentials that `dispatch_social_asset` and the test post find for a channel. -/
def attached (t : IntegrationTable) (channelId : Uuid) : List StoredCredential :=
  t.credentials.filter fun c => c.channelId = some channelId

def channelsOf (t : IntegrationTable) (tenantId : Uuid) : List SocialChannel := t.channels.filter (·.tenantId = tenantId)

/-- Two rows that the unique indexes of `integration_credential` allow beside each other. -/
def Apart (a b : StoredCredential) : Prop :=
  a.tenantId = b.tenantId → a.label = b.label →
    ¬ (a.channelId = none ∧ b.channelId = none ∧ a.provider = b.provider) ∧ (a.channelId.isSome → a.channelId ≠ b.channelId)

instance (a b : StoredCredential) : Decidable (Apart a b) :=
  inferInstanceAs (Decidable (a.tenantId = b.tenantId → a.label = b.label →
    ¬ (a.channelId = none ∧ b.channelId = none ∧ a.provider = b.provider) ∧ (a.channelId.isSome → a.channelId ≠ b.channelId)))

/-- An `INSERT` into `integration_credential`. -/
def insert (t : IntegrationTable) (row : StoredCredential) : Option IntegrationTable :=
  if row.provider.length ≤ 64 ∧ row.label.length ≤ 200 ∧ ∀ c ∈ t.credentials, Apart c row then
    some { t with credentials := t.credentials ++ [row], nextId := row.id + 1 }
  else none

/-- An `INSERT` into `channel`. -/
def insertChannel (t : IntegrationTable) (channel : SocialChannel) : Option IntegrationTable :=
  if channel.name.length ≤ 200 ∧ ∀ c ∈ t.channels, c.tenantId = channel.tenantId → c.name ≠ channel.name then
    some { t with channels := t.channels ++ [channel], nextId := channel.id + 1 }
  else none

section Requests

variable [PyText]

def emailPayload (body : EmailConfigUpsert) : Dict String Json :=
  [("api_key", .str body.apiKey), ("default_from_email", .str (lower body.defaultFromEmail)),
    ("verified_senders", .arr (body.verifiedSenders.map fun s => .str (lower s))),
    ("webhook_secret", nullable body.webhookSecret)]

def tokenPayload (tokens : OAuthTokens) : Dict String Json :=
  [("access_token", .str tokens.accessToken), ("refresh_token", nullable tokens.refreshToken),
    ("scopes", .arr (tokens.scopes.map .str))]

def upsertEmailConfig (t : IntegrationTable) (user : AppUser) (body : EmailConfigUpsert) :
    Except AppError (Option CredentialWrite) := do
  require (UserRole.admin.rank ≤ user.role.rank) (.http 403 "requires role >= admin")
  require (lower body.defaultFromEmail ∈ body.verifiedSenders.map lower)
    (.http 422 "default_from_email must appear in verified_senders")
  require (normalised body.provider = "sendgrid") (.http 422 ("unknown email provider: '" ++ body.provider ++ "'"))
  let existing ← oneOrNone (t.stored user.tenantId body.provider)
  pure (some (.save user.tenantId body.provider existing (emailPayload body) none))

/-- What both callbacks do with the tokens, once the state has been checked. -/
def connect (t : IntegrationTable) (tenantId : Uuid) (provider : String) (tokens : OAuthTokens) :
    Except AppError (Option CredentialWrite) := do
  let existing ← oneOrNone (t.account tenantId provider)
  pure (some (.save tenantId provider existing (tokenPayload tokens) (some tokens.expiresAt)))

def hubspotCallback (t : IntegrationTable) (user : AppUser) (parked : Option String) (state : String) (tokens : OAuthTokens) :
    Except AppError (Option CredentialWrite) := do
  require (UserRole.admin.rank ≤ user.role.rank) (.http 403 "requires role >= admin")
  require (parked.filter (· ≠ "") = some state) (.http 400 "oauth state mismatch")
  t.connect user.tenantId "hubspot" tokens

/-- The tokens of a refresh, over those that were loaded. -/
def refreshedPayload (loaded : Dict String Json) (refreshed : OAuthTokens) : Dict String Json :=
  let payload := loaded.set "access_token" (.str refreshed.accessToken)
  match refreshed.refreshToken.filter (· ≠ "") with
  | some token => payload.set "refresh_token" (.str token)
  | none => payload

def hubspotTest (t : IntegrationTable) (user : AppUser) (now : Int) (refreshed : OAuthTokens) :
    Except AppError (Option CredentialWrite) := do
  require (UserRole.admin.rank ≤ user.role.rank) (.http 403 "requires role >= admin")
  let found ← oneOrNone (t.account user.tenantId "hubspot")
  let cred ← orRaise found (.http 404 "no hubspot credential — run /api/integrations/hubspot/connect first")
  require (cred.payload.get? "access_token").isSome (.raised "KeyError")
  if cred.expiresAt.any (· ≤ now + refreshLeeway) then
    require (((cred.payload.get? "refresh_token").getD .null).truthy = true)
      (.http 401 "hubspot credential expired and no refresh_token available")
    pure (some (.save user.tenantId "hubspot" (some cred) (refreshedPayload cred.payload refreshed) (some refreshed.expiresAt)))
  else pure none

/-- `_PROVIDER_PLATFORM`, which also names the providers that `_provider_settings` knows. -/
def providerPlatform (provider : String) : Option ChannelPlatform :=
  if provider = "linkedin" then some .linkedin else none

def socialCallback (t : IntegrationTable) (user : AppUser) (provider : String) (parked : Option String) (state : String)
    (tokens : OAuthTokens) : Except AppError (Option CredentialWrite) := do
  require (UserRole.admin.rank ≤ user.role.rank) (.http 403 "requires role >= admin")
  require (parked.filter (· ≠ "") = some state) (.http 400 "oauth state mismatch")
  let _ ← orRaise (providerPlatform provider) (.http 404 ("unknown social provider: '" ++ provider ++ "'"))
  t.connect user.tenantId provider tokens

/-- What `create_channel` makes of an error of `list_authorised_pages`. -/
def pagesError (provider : String) : SocialConnectorError → AppError
  | .revoked _ => .http 401 (provider ++ " authorisation revoked; reconnect required")
  | .mediaRequired message | .unreachable message | .rejected message | .raised message => .raised message

def createChannel (t : IntegrationTable) (user : AppUser) (provider : String) (body : CreateSocialChannelRequest)
    (pages : Except SocialConnectorError (List AuthorisedPage)) : Except AppError (Option CredentialWrite) := do
  require (UserRole.admin.rank ≤ user.role.rank) (.http 403 "requires role >= admin")
  let _ ← orRaise (providerPlatform provider) (.http 404 ("unknown social provider: '" ++ provider ++ "'"))
  let found ← oneOrNone (t.account user.tenantId provider)
  let cred ← orRaise found (.http 404 (provider ++ " is not connected; run /connect first"))
  require (cred.payload.get? "access_token").isSome (.raised "KeyError")
  let pages ← pages.mapError (pagesError provider)
  let selected ← orRaise (pages.find? (·.pageId = body.pageId))
    (.http 422 ("page_id '" ++ body.pageId ++ "' is not in your authorised pages"))
  pure (some (.attach cred ((body.name.filter (· ≠ "")).getD selected.pageName) selected))

/-- The reads of a request. -/
def read (t : IntegrationTable) : IntegrationWork → IntegrationWork
  | .started request =>
    let outcome := match request with
      | .emailConfig user body => t.upsertEmailConfig user body
      | .hubspotCallback user parked state tokens => t.hubspotCallback user parked state tokens
      | .hubspotTest user now refreshed => t.hubspotTest user now refreshed
      | .socialCallback user provider parked state tokens => t.socialCallback user provider parked state tokens
      | .createChannel user provider body pages => t.createChannel user provider body pages
    match outcome with
    | .ok write => .ready write
    | .error error => .failed error
  | work => work

end Requests

/-- The channel of a page. -/
def pageChannel (id : Uuid) (account : StoredCredential) (name : String) (page : AuthorisedPage) : SocialChannel where
  id := id
  tenantId := account.tenantId
  platform := .linkedin
  apiConfig := [("provider", .str account.provider), ("page_id", .str page.pageId), ("page_urn", .str page.urn),
    ("page_name", .str page.pageName)]
  name := name

/-- The credential of a channel is a copy of the account. -/
def pageCredential (id channelId : Uuid) (account : StoredCredential) (page : AuthorisedPage) : StoredCredential where
  id := id
  tenantId := account.tenantId
  channelId := some channelId
  provider := account.provider
  payload := account.payload
  label := page.pageId
  expiresAt := account.expiresAt

/-- What a save over a loaded account makes of its row. -/
def overwritten (loaded : StoredCredential) (payload : Dict String Json) (expiresAt : Option Int) (c : StoredCredential) :
    StoredCredential :=
  { c with payload := payload, expiresAt := patched loaded.expiresAt c.expiresAt (expiresAt.map some) }

/-- The writes of a request and their commit. -/
def commit (t : IntegrationTable) : IntegrationWork → Option IntegrationTable
  | .ready (some (.save tenantId provider none payload expiresAt)) =>
    { t with grants := ⟨tenantId, provider, payload⟩ :: t.grants }.insert
      { id := t.nextId, tenantId := tenantId, channelId := none, provider := provider, payload := payload
        label := "default", expiresAt := expiresAt }
  | .ready (some (.save tenantId provider (some loaded) payload expiresAt)) =>
    some { t with
      credentials := updateWhere (·.id = loaded.id) (overwritten loaded payload expiresAt) t.credentials
      grants := ⟨tenantId, provider, payload⟩ :: t.grants }
  | .ready (some (.attach account name page)) => do
    let t' ← t.insertChannel (pageChannel t.nextId account name page)
    t'.insert (pageCredential t'.nextId t.nextId account page)
  | .ready none => some t
  | .started _ | .failed _ => none

end IntegrationTable

/-- Any number of requests to `/api/integrations` at work at once. -/
def integrations [PyText] : Protocol IntegrationTable IntegrationRequest IntegrationWork where
  start := .started
  read := IntegrationTable.read
  commit := IntegrationTable.commit

namespace IntegrationTable

/-- What no request changes of a row. -/
def key (c : StoredCredential) : Uuid × Uuid × String × Option Uuid := (c.id, c.tenantId, c.provider, c.channelId)

/-- The channel that a credential is for, if it is for one. -/
def copyOf (c : StoredCredential) : Option (Uuid × Uuid × String) := c.channelId.map fun id => (id, c.tenantId, c.provider)

def granted (c : StoredCredential) : Grant := ⟨c.tenantId, c.provider, c.payload⟩

/-- Each account is what was last saved for it, and each channel has a copy of an account beside the account. -/
structure Connected (t : IntegrationTable) : Prop where
  ids : (t.credentials.map StoredCredential.id).Nodup
  below : ∀ c ∈ t.credentials, c.id < t.nextId
  channelIds : (t.channels.map fun ch => ch.id).Nodup
  channelsBelow : ∀ ch ∈ t.channels, ch.id < t.nextId
  labelled : ∀ c ∈ t.credentials, c.channelId = none → c.label = "default"
  copies : t.credentials.filterMap copyOf = t.channels.map fun ch => (ch.id, ch.tenantId, "linkedin")
  linked : ∀ ch ∈ t.channels, t.account ch.tenantId "linkedin" ≠ []
  grants : ∀ c ∈ t.credentials, granted c ∈ t.grants
  register : ∀ tenantId provider, (t.account tenantId provider).map granted =
    (t.grants.find? fun g => g.tenantId = tenantId ∧ g.provider = provider).toList

/-- The loaded account stands, though its tokens may have changed since. -/
def Stands (t : IntegrationTable) (tenantId : Uuid) (provider : String) (loaded : StoredCredential) : Prop :=
  ∃ c ∈ t.account tenantId provider, c.id = loaded.id

def Grounded (t : IntegrationTable) : IntegrationWork → Prop
  | .ready (some (.save tenantId provider (some loaded) _ _)) => t.Stands tenantId provider loaded
  | .ready (some (.attach account _ _)) =>
    account.provider = "linkedin" ∧ t.Stands account.tenantId account.provider account ∧ granted account ∈ t.grants
  | _ => True

section Tables

variable {t t' : IntegrationTable} {tenantId : Uuid} {provider : String}

theorem mem_account {c : StoredCredential} :
    c ∈ t.account tenantId provider ↔ c ∈ t.credentials ∧ c.tenantId = tenantId ∧ c.provider = provider ∧ c.channelId = none := by
  rw [account, List.mem_filter, decide_eq_true_iff]

theorem insert_eq {row : StoredCredential} (done : t.insert row = some t') :
    (∀ c ∈ t.credentials, Apart c row) ∧ t' = { t with credentials := t.credentials ++ [row], nextId := row.id + 1 } := by
  unfold insert at done
  split at done
  · rename_i fits
    exact ⟨fits.2.2, (Option.some.inj done).symm⟩
  · cases done

theorem insertChannel_eq {channel : SocialChannel} (done : t.insertChannel channel = some t') :
    t' = { t with channels := t.channels ++ [channel], nextId := channel.id + 1 } := by
  unfold insertChannel at done
  split at done
  · exact (Option.some.inj done).symm
  · cases done

/-- The table with a channel and its copy of the account. -/
theorem attach_eq {account : StoredCredential} {name : String} {page : AuthorisedPage}
    (done : t.commit (.ready (some (.attach account name page))) = some t') :
    t' = { t with
      credentials := t.credentials ++ [pageCredential (t.nextId + 1) t.nextId account page]
      channels := t.channels ++ [pageChannel t.nextId account name page]
      nextId := t.nextId + 2 } := by
  obtain ⟨mid, opened, copied⟩ := Option.bind_eq_some_iff.mp done
  obtain rfl := insertChannel_eq opened
  exact (insert_eq copied).2

/-- A credential is for a channel exactly if it is listed with it. -/
theorem Connected.channel_of (connected : t.Connected) {c : StoredCredential} {id : Uuid} (member : c ∈ t.credentials)
    (attached : c.channelId = some id) : c.provider = "linkedin" ∧ ∃ ch ∈ t.channels, ch.id = id ∧ ch.tenantId = c.tenantId := by
  have listed : (id, c.tenantId, c.provider) ∈ t.credentials.filterMap copyOf :=
    List.mem_filterMap.mpr ⟨c, member, by rw [copyOf, attached]; rfl⟩
  rw [connected.copies] at listed
  obtain ⟨ch, there, same⟩ := List.mem_map.mp listed
  obtain ⟨sameId, rest⟩ := Prod.mk.inj same
  obtain ⟨tenant, linkedin⟩ := Prod.mk.inj rest
  exact ⟨linkedin.symm, ch, there, sameId, tenant⟩

theorem Connected.account_le_one (connected : t.Connected) (tenantId : Uuid) (provider : String) :
    (t.account tenantId provider).length ≤ 1 := by
  have counted := congrArg List.length (connected.register tenantId provider)
  rw [List.length_map] at counted
  rw [counted]
  exact Option.length_toList_le

/-- The register after a save: the account holds what was saved, and the others what they held. -/
theorem Connected.register_save (connected : t.Connected) (payload : Dict String Json)
    (own : (t'.account tenantId provider).map granted = [⟨tenantId, provider, payload⟩])
    (others : ∀ tenantId' provider', ¬ (tenantId = tenantId' ∧ provider = provider') →
      t'.account tenantId' provider' = t.account tenantId' provider')
    (saved : t'.grants = ⟨tenantId, provider, payload⟩ :: t.grants) (tenantId' : Uuid) (provider' : String) :
    (t'.account tenantId' provider').map granted =
      (t'.grants.find? fun g => g.tenantId = tenantId' ∧ g.provider = provider').toList := by
  rw [saved, List.find?_cons]
  by_cases mine : tenantId = tenantId' ∧ provider = provider'
  · obtain ⟨rfl, rfl⟩ := mine
    rw [decide_eq_true ⟨rfl, rfl⟩, own]
    rfl
  · rw [decide_eq_false mine, others tenantId' provider' mine]
    exact connected.register tenantId' provider'

/-- A credential that is saved for the first time has no channels to take along. -/
theorem Connected.saveNew (connected : t.Connected) {payload : Dict String Json} {expiresAt : Option Int}
    (done : t.commit (.ready (some (.save tenantId provider none payload expiresAt))) = some t') : t'.Connected := by
  obtain ⟨apart, same⟩ := insert_eq done
  have credentials : t'.credentials = t.credentials ++
      [⟨⟨tenantId, none, provider, payload⟩, t.nextId, "default", 1, expiresAt⟩] := by rw [same]
  have free : t.account tenantId provider = [] := by
    refine List.eq_nil_iff_forall_not_mem.mpr fun c member => ?_
    obtain ⟨stored, tenant, sameProvider, unattached⟩ := mem_account.mp member
    exact (apart c stored tenant (connected.labelled c stored unattached)).1 ⟨unattached, rfl, sameProvider⟩
  have accounts : ∀ tenantId' provider', t'.account tenantId' provider' = t.account tenantId' provider' ++
      if tenantId = tenantId' ∧ provider = provider' then
        [⟨⟨tenantId, none, provider, payload⟩, t.nextId, "default", 1, expiresAt⟩] else [] := by
    intro tenantId' provider'
    rw [account, credentials, List.filter_append, List.filter_singleton]
    simp only [and_true, Bool.cond_decide]
    rfl
  have fresh : ∀ c ∈ t.credentials, c.id ≠ t.nextId := fun c member => (connected.below c member).ne
  refine ⟨?_, ?_, ?_, ?_, ?_, ?_, ?_, ?_, connected.register_save payload ?_ ?_ (by rw [same])⟩
  · rw [credentials]
    exact nodup_keys_append connected.ids (List.nodup_singleton _) fun c member row new =>
      List.mem_singleton.mp new ▸ fresh c member
  · intro c member
    rw [credentials] at member
    rw [same]
    rcases List.mem_append.mp member with old | new
    · exact (connected.below c old).trans (Nat.lt_succ_self _)
    · rw [List.mem_singleton.mp new]
      exact Nat.lt_succ_self _
  · rw [same]
    exact connected.channelIds
  · rw [same]
    exact fun ch member => (connected.channelsBelow ch member).trans (Nat.lt_succ_self _)
  · intro c member unattached
    rcases List.mem_append.mp (credentials ▸ member) with old | new
    · exact connected.labelled c old unattached
    · rw [List.mem_singleton.mp new]
  · rw [credentials, List.filterMap_append, connected.copies, same]
    exact List.append_nil _
  · intro ch member
    rw [accounts]
    refine List.append_ne_nil_of_left_ne_nil (connected.linked ch ?_) _
    rwa [same] at member
  · intro c member
    rw [same]
    rcases List.mem_append.mp (credentials ▸ member) with old | new
    · exact List.mem_cons_of_mem _ (connected.grants c old)
    · rw [List.mem_singleton.mp new]
      exact List.mem_cons_self ..
  · rw [accounts, free, if_pos ⟨rfl, rfl⟩]
    rfl
  · intro tenantId' provider' differs
    rw [accounts, if_neg differs, List.append_nil]

theorem Connected.account_eq (connected : t.Connected) {loaded : StoredCredential} (stands : t.Stands tenantId provider loaded) :
    ∃ c, t.account tenantId provider = [c] ∧ c.id = loaded.id := by
  obtain ⟨c, there, same⟩ := stands
  obtain ⟨only, single⟩ := List.length_eq_one_iff.mp
    (Nat.le_antisymm (connected.account_le_one tenantId provider) (List.length_pos_of_mem there))
  rw [single] at there
  exact ⟨only, single, List.mem_singleton.mp there ▸ same⟩

/-- The rows that a save writes over are the account it has loaded. -/
theorem Connected.hit (connected : t.Connected) {loaded : StoredCredential} (stands : t.Stands tenantId provider loaded)
    {c : StoredCredential} (member : c ∈ t.credentials) (same : c.id = loaded.id) : c ∈ t.account tenantId provider := by
  obtain ⟨c', there, sameId⟩ := stands
  rwa [eq_of_key_eq connected.ids member (mem_account.mp there).1 (same.trans sameId.symm)]

/-- A credential that is saved again takes its channels along: every copy of it in a
channel is replaced in the same commit. -/
theorem Connected.saveOver (connected : t.Connected) {loaded : StoredCredential} {payload : Dict String Json}
    {expiresAt : Option Int} (stands : t.Stands tenantId provider loaded)
    (done : t.commit (.ready (some (.save tenantId provider (some loaded) payload expiresAt))) = some t') : t'.Connected := by
  have same : t' = { t with
      credentials := updateWhere (·.id = loaded.id) (overwritten loaded payload expiresAt) t.credentials
      grants := ⟨tenantId, provider, payload⟩ :: t.grants } := (Option.some.inj done).symm
  have credentials : t'.credentials = updateWhere (·.id = loaded.id) (overwritten loaded payload expiresAt) t.credentials := by
    rw [same]
  obtain ⟨only, single, sameId⟩ := connected.account_eq stands
  have keys : t'.credentials.map key = t.credentials.map key := credentials ▸ updateWhere_keys key _ fun _ _ => rfl
  have ids : t'.credentials.map StoredCredential.id = t.credentials.map StoredCredential.id :=
    credentials ▸ updateWhere_keys StoredCredential.id _ fun _ _ => rfl
  have others : ∀ tenantId' provider', ¬ (tenantId = tenantId' ∧ provider = provider') →
      t'.account tenantId' provider' = t.account tenantId' provider' := by
    intro tenantId' provider' differs
    rw [account, credentials]
    refine filter_updateWhere fun c member hit => ?_
    obtain ⟨_, rfl, rfl, _⟩ := mem_account.mp (connected.hit stands member (of_decide_eq_true hit))
    have unseen : decide (c.tenantId = tenantId' ∧ c.provider = provider' ∧ c.channelId = none) = false :=
      decide_eq_false fun both => differs ⟨both.1, both.2.1⟩
    exact ⟨unseen, unseen⟩
  have own : t'.account tenantId provider = (t.account tenantId provider).map (overwritten loaded payload expiresAt) := by
    rw [account, credentials, updateWhere, List.filter_map]
    have blind : ((fun c : StoredCredential => decide (c.tenantId = tenantId ∧ c.provider = provider ∧ c.channelId = none)) ∘
        fun c => if decide (c.id = loaded.id) = true then overwritten loaded payload expiresAt c else c) =
        fun c => decide (c.tenantId = tenantId ∧ c.provider = provider ∧ c.channelId = none) := by
      funext c
      simp only [Function.comp_apply]
      split <;> rfl
    rw [blind]
    refine List.map_congr_left fun c member => if_pos (decide_eq_true ?_)
    have mine : c ∈ t.account tenantId provider := member
    rw [single] at mine
    rw [List.mem_singleton.mp mine, sameId]
  refine ⟨ids ▸ connected.ids, fun c member => ?_, ?_, ?_, fun c member unattached => ?_, ?_, fun ch member => ?_,
    fun c member => ?_, connected.register_save payload ?_ others (by rw [same])⟩
  · have listed : c.id ∈ t.credentials.map StoredCredential.id := ids ▸ List.mem_map_of_mem member
    obtain ⟨old, there, sameId⟩ := List.mem_map.mp listed
    rw [same, ← sameId]
    exact connected.below old there
  · rw [same]
    exact connected.channelIds
  · rw [same]
    exact connected.channelsBelow
  · rw [credentials] at member
    rcases mem_updateWhere.mp member with ⟨old, there, _, rfl⟩ | ⟨old, _⟩
    · exact connected.labelled old there unattached
    · exact connected.labelled c old unattached
  · have copied : t'.credentials.filterMap copyOf = t.credentials.filterMap copyOf := by
      have through : ∀ rows : List StoredCredential, rows.filterMap copyOf =
          (rows.map key).filterMap fun k => k.2.2.2.map fun id => (id, k.2.1, k.2.2.1) := by
        intro rows
        rw [List.filterMap_map]
        rfl
      rw [through, through, keys]
    rw [copied, connected.copies, same]
  · have there : ch ∈ t.channels := by rwa [same] at member
    have linked := connected.linked ch there
    by_cases mine : tenantId = ch.tenantId ∧ provider = "linkedin"
    · obtain ⟨rfl, rfl⟩ := mine
      rw [own]
      exact fun none => linked (List.map_eq_nil_iff.mp none)
    · rwa [others _ _ mine]
  · rw [credentials] at member
    rw [same]
    rcases mem_updateWhere.mp member with ⟨old, there, hit, rfl⟩ | ⟨old, _⟩
    · obtain ⟨_, rfl, rfl, _⟩ := mem_account.mp (connected.hit stands there (of_decide_eq_true hit))
      exact List.mem_cons_self ..
    · exact List.mem_cons_of_mem _ (connected.grants c old)
  · have mine : only ∈ t.account tenantId provider := single ▸ List.mem_singleton_self _
    obtain ⟨_, rfl, rfl, _⟩ := mem_account.mp mine
    rw [own, single]
    rfl

/-- A page that is attached to a channel leaves a copy of the account's credential
with the channel, in the commit that makes the channel. -/
theorem Connected.attach (connected : t.Connected) {account : StoredCredential} {name : String} {page : AuthorisedPage}
    (grounded : t.Grounded (.ready (some (.attach account name page))))
    (done : t.commit (.ready (some (.attach account name page))) = some t') : t'.Connected := by
  obtain ⟨linkedin, stands, given⟩ := grounded
  have same := attach_eq done
  have credentials : t'.credentials = t.credentials ++ [pageCredential (t.nextId + 1) t.nextId account page] := by rw [same]
  have channels : t'.channels = t.channels ++ [pageChannel t.nextId account name page] := by rw [same]
  have next : t'.nextId = t.nextId + 2 := by rw [same]
  have accounts : ∀ tenantId provider, t'.account tenantId provider = t.account tenantId provider := by
    intro tenantId provider
    rw [IntegrationTable.account, credentials, List.filter_append, List.filter_singleton,
      decide_eq_false fun both => nomatch both.2.2]
    exact List.append_nil _
  refine ⟨?_, ?_, ?_, ?_, fun c member unattached => ?_, ?_, fun ch member => ?_, fun c member => ?_, ?_⟩
  · rw [credentials]
    refine nodup_keys_append connected.ids (List.nodup_singleton _) fun c member row new => ?_
    rw [List.mem_singleton.mp new]
    exact ((connected.below c member).trans (Nat.lt_succ_self _)).ne
  · intro c member
    rw [next]
    rcases List.mem_append.mp (credentials ▸ member) with old | new
    · exact (connected.below c old).trans (Nat.lt_add_of_pos_right Nat.two_pos)
    · rw [List.mem_singleton.mp new]
      exact Nat.lt_succ_self _
  · rw [channels]
    refine nodup_keys_append connected.channelIds (List.nodup_singleton _) fun ch member row new => ?_
    rw [List.mem_singleton.mp new]
    exact (connected.channelsBelow ch member).ne
  · intro ch member
    rw [next]
    rcases List.mem_append.mp (channels ▸ member) with old | new
    · exact (connected.channelsBelow ch old).trans (Nat.lt_add_of_pos_right Nat.two_pos)
    · rw [List.mem_singleton.mp new]
      exact Nat.lt_add_of_pos_right Nat.two_pos
  · rcases List.mem_append.mp (credentials ▸ member) with old | new
    · exact connected.labelled c old unattached
    · rw [List.mem_singleton.mp new] at unattached
      cases unattached
  · rw [credentials, channels, List.filterMap_append, List.map_append, connected.copies]
    exact congrArg _ (congrArg (fun provider => [(t.nextId, account.tenantId, provider)]) linkedin)
  · rw [accounts]
    rcases List.mem_append.mp (channels ▸ member) with old | new
    · exact connected.linked ch old
    · rw [List.mem_singleton.mp new]
      obtain ⟨c, there, _⟩ := stands
      exact List.ne_nil_of_mem (linkedin ▸ there)
  · rw [same]
    rcases List.mem_append.mp (credentials ▸ member) with old | new
    · exact connected.grants c old
    · rw [List.mem_singleton.mp new]
      exact given
  · intro tenantId provider
    rw [accounts, same]
    exact connected.register tenantId provider

theorem Connected.commit (connected : t.Connected) {work : IntegrationWork} (grounded : t.Grounded work)
    (done : t.commit work = some t') : t'.Connected := by
  cases work with
  | started | failed => cases done
  | ready write =>
    cases write with
    | none => exact Option.some.inj done ▸ connected
    | some write =>
      cases write with
      | attach account name page => exact connected.attach grounded done
      | save tenantId provider loaded payload expiresAt =>
        cases loaded with
        | none => exact connected.saveNew done
        | some loaded => exact connected.saveOver grounded done

/-- A commit keeps every row, for what it is, and everything that was saved. -/
theorem commit_grows {work : IntegrationWork} (done : t.commit work = some t') :
    t.credentials.map key <+: t'.credentials.map key ∧ t.grants <:+ t'.grants ∧ t.channels <+: t'.channels := by
  cases work with
  | started | failed => cases done
  | ready write =>
    cases write with
    | none =>
      cases Option.some.inj done
      exact ⟨List.prefix_rfl, List.suffix_rfl, List.prefix_rfl⟩
    | some write =>
      cases write with
      | attach account name page =>
        rw [attach_eq done, List.map_append]
        exact ⟨List.prefix_append .., List.suffix_rfl, List.prefix_append ..⟩
      | save tenantId provider loaded payload expiresAt =>
        cases loaded with
        | none =>
          obtain ⟨_, rfl⟩ := insert_eq done
          rw [List.map_append]
          exact ⟨List.prefix_append .., List.suffix_cons .., List.prefix_rfl⟩
        | some loaded =>
          cases Option.some.inj done
          have keys : (updateWhere (·.id = loaded.id) (overwritten loaded payload expiresAt) t.credentials).map key =
              t.credentials.map key := updateWhere_keys key _ fun _ _ => rfl
          exact ⟨keys.symm ▸ List.prefix_rfl, List.suffix_cons .., List.prefix_rfl⟩

theorem Stands.rely {work : IntegrationWork} {loaded : StoredCredential} (stands : t.Stands tenantId provider loaded)
    (done : t.commit work = some t') : t'.Stands tenantId provider loaded := by
  obtain ⟨c, there, sameId⟩ := stands
  obtain ⟨member, tenant, sameProvider, unattached⟩ := mem_account.mp there
  obtain ⟨c', member', sameKey⟩ := List.mem_map.mp ((commit_grows done).1.subset (List.mem_map_of_mem member))
  simp only [key, Prod.mk.injEq] at sameKey
  obtain ⟨id, tenant', provider', channel⟩ := sameKey
  have there' : c' ∈ t'.account tenantId provider :=
    mem_account.mpr ⟨member', tenant'.trans tenant, provider'.trans sameProvider, channel.trans unattached⟩
  exact ⟨c', there', id.trans sameId⟩

theorem Grounded.rely {work other : IntegrationWork} (done : t.commit work = some t') (grounded : t.Grounded other) :
    t'.Grounded other := by
  cases other with
  | started | failed => trivial
  | ready write =>
    cases write with
    | none => trivial
    | some write =>
      cases write with
      | attach account name page =>
        obtain ⟨linkedin, stands, given⟩ := grounded
        exact ⟨linkedin, stands.rely done, (commit_grows done).2.1.subset given⟩
      | save tenantId provider loaded payload expiresAt =>
        cases loaded with
        | none => trivial
        | some loaded => exact Stands.rely grounded done

theorem Stands.of_mem {c : StoredCredential} (member : c ∈ t.account tenantId provider) : t.Stands tenantId provider c :=
  ⟨c, member, rfl⟩

theorem connect_grounded {tokens : OAuthTokens} {write : Option CredentialWrite}
    (done : t.connect tenantId provider tokens = .ok write) : t.Grounded (.ready write) := by
  simp only [connect, bind_eq_ok, pure_eq_ok] at done
  obtain ⟨existing, found, rfl⟩ := done
  cases existing with
  | none => trivial
  | some c => exact Stands.of_mem (oneOrNone_some found ▸ List.mem_singleton_self c)

/-- Only credentials of channels are missed by a lookup of accounts, and those are LinkedIn's. -/
theorem Connected.stored_other (connected : t.Connected) (other : provider ≠ "linkedin") :
    t.stored tenantId provider = t.account tenantId provider := by
  refine List.filter_congr fun c member => decide_eq_decide.mpr ?_
  refine and_congr_right fun _ => ⟨fun same => ⟨same, ?_⟩, And.left⟩
  cases attached : c.channelId with
  | none => rfl
  | some id => exact absurd (same.symm.trans (connected.channel_of member attached).1) other

/-- There are as many credentials of channels as there are channels, whatever is asked of both. -/
theorem Connected.count_copies (connected : t.Connected) (p : Uuid × Uuid → Bool) :
    t.credentials.countP (fun c => c.channelId.any fun id => p (id, c.tenantId)) =
      t.channels.countP fun ch => p (ch.id, ch.tenantId) := by
  have counted := congrArg (List.countP fun k : Uuid × Uuid × String => p (k.1, k.2.1)) connected.copies
  rw [List.countP_filterMap, List.countP_map] at counted
  refine Eq.trans (List.countP_congr fun c _ => ?_) counted
  rw [copyOf]
  cases c.channelId <;> rfl

theorem Connected.stored_linkedin (connected : t.Connected) (tenantId : Uuid) :
    (t.stored tenantId "linkedin").length = (t.account tenantId "linkedin").length + (t.channelsOf tenantId).length := by
  have copies := connected.count_copies fun k => decide (k.2 = tenantId)
  rw [channelsOf, ← List.countP_eq_length_filter, ← copies, stored,
    List.length_eq_length_filter_add fun c => decide (c.channelId = none), List.filter_filter, List.filter_filter,
    List.countP_eq_length_filter]
  congr 2
  · refine List.filter_congr fun c _ => ?_
    by_cases unattached : c.channelId = none <;> simp [unattached]
  · refine List.filter_congr fun c member => ?_
    cases attached : c.channelId with
    | none => simp
    | some id => simp [(connected.channel_of member attached).1]

/-- The lookup of the webhook dispatcher raises for every tenant that has a channel. -/
theorem Connected.stored_raises (connected : t.Connected) (tenantId : Uuid) :
    oneOrNone (t.stored tenantId "linkedin") = .error (.raised "MultipleResultsFound") ↔ t.channelsOf tenantId ≠ [] := by
  have counted := connected.stored_linkedin tenantId
  have single := connected.account_le_one tenantId "linkedin"
  constructor
  · intro raises none
    rw [none, List.length_nil] at counted
    match rows : t.stored tenantId "linkedin" with
    | [] | [_] =>
      rw [rows] at raises
      cases raises
    | _ :: _ :: _ =>
      rw [rows, List.length_cons, List.length_cons] at counted
      omega
  · intro some
    obtain ⟨ch, member⟩ := List.exists_mem_of_ne_nil _ some
    obtain ⟨stored, tenant⟩ := List.mem_filter.mp member
    have linked := List.length_pos_iff.mpr (connected.linked ch stored)
    rw [of_decide_eq_true tenant] at linked
    have channels := List.length_pos_of_mem member
    match rows : t.stored tenantId "linkedin" with
    | [] | [_] =>
      rw [rows] at counted
      simp only [List.length_nil, List.length_singleton] at counted
      omega
    | _ :: _ :: _ => rfl

/-- Each channel has one credential, a copy of what was once saved for its tenant's account. -/
theorem Connected.attached_eq (connected : t.Connected) {ch : SocialChannel} (member : ch ∈ t.channels) :
    ∃ c, t.attached ch.id = [c] ∧ c.tenantId = ch.tenantId ∧ c.provider = "linkedin" ∧ granted c ∈ t.grants := by
  have copies := connected.count_copies fun k => decide (k.1 = ch.id)
  have one : t.channels.countP (fun x => decide (x.id = ch.id)) = 1 := by
    have counted := List.count_eq_one_of_mem connected.channelIds (List.mem_map_of_mem member)
    rwa [List.count_eq_countP, List.countP_map] at counted
  have length : (t.attached ch.id).length = 1 := by
    rw [attached, ← List.countP_eq_length_filter, ← one, ← copies]
    refine List.countP_congr fun c _ => ?_
    cases c.channelId <;> simp
  obtain ⟨c, single⟩ := List.length_eq_one_iff.mp length
  have listed : c ∈ t.attached ch.id := single ▸ List.mem_singleton_self c
  obtain ⟨stored, same⟩ := List.mem_filter.mp listed
  obtain ⟨linkedin, ch', there, sameId, tenant⟩ := connected.channel_of stored (of_decide_eq_true same)
  rw [eq_of_key_eq connected.channelIds there member sameId] at tenant
  exact ⟨c, single, tenant.symm, linkedin, connected.grants c stored⟩

/-- Every channel stays, with the credential it has. -/
def Keeps (t t' : IntegrationTable) : Prop := ∀ ch ∈ t.channels, ch ∈ t'.channels ∧ t'.attached ch.id = t.attached ch.id

theorem Keeps.trans {t'' : IntegrationTable} (first : t.Keeps t') (next : t'.Keeps t'') : t.Keeps t'' := by
  intro ch member
  obtain ⟨there, kept⟩ := first ch member
  obtain ⟨further, same⟩ := next ch there
  exact ⟨further, same.trans kept⟩

theorem Connected.keeps (connected : t.Connected) {work : IntegrationWork} (grounded : t.Grounded work)
    (done : t.commit work = some t') : t.Keeps t' := by
  intro ch member
  refine ⟨(commit_grows done).2.2.subset member, ?_⟩
  have below : ch.id ≠ t.nextId := (connected.channelsBelow ch member).ne
  cases work with
  | started | failed => cases done
  | ready write =>
    cases write with
    | none => rw [Option.some.inj done]
    | some write =>
      cases write with
      | attach account name page =>
        have other : (pageCredential (t.nextId + 1) t.nextId account page).channelId ≠ some ch.id := fun same =>
          below (Option.some.inj same).symm
        rw [attach_eq done, attached, List.filter_append, List.filter_singleton, decide_eq_false other]
        exact List.append_nil _
      | save tenantId provider loaded payload expiresAt =>
        cases loaded with
        | none =>
          rw [(insert_eq done).2, attached, List.filter_append, List.filter_singleton, decide_eq_false nofun]
          exact List.append_nil _
        | some loaded =>
          cases Option.some.inj done
          refine filter_updateWhere fun c stored hit => ?_
          have unattached := (mem_account.mp (connected.hit grounded stored (of_decide_eq_true hit))).2.2.2
          have unseen : decide (c.channelId = some ch.id) = false := by rw [unattached]; rfl
          exact ⟨unseen, unseen⟩

section Reads

variable [PyText]

/-- What a request reads before its commit is still what the tables hold of its own
rows, whatever others have committed in between. -/
theorem Connected.read (connected : t.Connected) (linkedin : normalised "linkedin" ≠ "sendgrid") {work : IntegrationWork}
    (grounded : t.Grounded work) : t.Grounded (t.read work) := by
  cases work with
  | ready | failed => exact grounded
  | started request =>
    simp only [IntegrationTable.read]
    split
    · rename_i write outcome
      cases request with
      | emailConfig user body =>
        simp only [upsertEmailConfig, bind_eq_ok, pure_eq_ok, require_eq_ok] at outcome
        obtain ⟨_, _, _, _, _, email, existing, found, rfl⟩ := outcome
        cases existing with
        | none => trivial
        | some c =>
          have other : body.provider ≠ "linkedin" := fun same => linkedin (same ▸ email)
          rw [connected.stored_other other] at found
          exact Stands.of_mem (oneOrNone_some found ▸ List.mem_singleton_self c)
      | hubspotCallback user parked state tokens =>
        simp only [hubspotCallback, bind_eq_ok, require_eq_ok] at outcome
        obtain ⟨_, _, _, _, done⟩ := outcome
        exact connect_grounded done
      | hubspotTest user now refreshed =>
        simp only [hubspotTest, bind_eq_ok, require_eq_ok, orRaise_eq_ok] at outcome
        obtain ⟨_, _, found, one, cred, rfl, _, _, outcome⟩ := outcome
        split at outcome
        · simp only [bind_eq_ok, pure_eq_ok] at outcome
          obtain ⟨_, _, rfl⟩ := outcome
          exact Stands.of_mem (oneOrNone_some one ▸ List.mem_singleton_self cred)
        · cases outcome
          trivial
      | socialCallback user provider parked state tokens =>
        simp only [socialCallback, bind_eq_ok, require_eq_ok] at outcome
        obtain ⟨_, _, _, _, _, _, done⟩ := outcome
        exact connect_grounded done
      | createChannel user provider body pages =>
        simp only [createChannel, bind_eq_ok, require_eq_ok, orRaise_eq_ok, pure_eq_ok] at outcome
        obtain ⟨_, _, _, known, found, one, cred, rfl, _, _, _, _, page, _, rfl⟩ := outcome
        have member : cred ∈ t.account user.tenantId provider := oneOrNone_some one ▸ List.mem_singleton_self cred
        obtain ⟨there, tenant, rfl, _⟩ := mem_account.mp member
        refine ⟨?_, Stands.of_mem (tenant ▸ member), connected.grants cred there⟩
        unfold providerPlatform at known
        split at known
        · assumption
        · cases known
    · trivial

theorem integrations_sound (linkedin : normalised "linkedin" ≠ "sendgrid") : integrations.Sound Connected Grounded where
  start _ _ _ := trivial
  read _ _ connected grounded := connected.read linkedin grounded
  commit _ _ _ connected grounded done := connected.commit grounded done
  rely _ _ _ _ _ _ done grounded := grounded.rely done

end Reads

end Tables

/-- Whatever the interleaving of the requests, and whichever of them fail: each
account is one row and holds what was last saved for it, each channel keeps for
good the one copy of the account it was created with, whatever is saved later,
and a lookup that does not ask for rows without a channel finds the account of
every provider but LinkedIn, for which it raises as soon as the tenant has a channel. -/
theorem channels_keep_their_copies [PyText] (linkedin : normalised "linkedin" ≠ "sendgrid")
    (ops later : List (TxOp IntegrationRequest)) :
    let s := Lib.run integrations.step { table := {} } ops
    let t := s.table
    let t' := (Lib.run integrations.step s later).table
    (∀ tenantId provider, (t.account tenantId provider).map granted =
      (t.grants.find? fun g => g.tenantId = tenantId ∧ g.provider = provider).toList) ∧
    (∀ ch ∈ t.channels, ch ∈ t'.channels ∧ ∃ c, t.attached ch.id = [c] ∧ t'.attached ch.id = [c] ∧
      c.tenantId = ch.tenantId ∧ c.provider = "linkedin" ∧ granted c ∈ t.grants) ∧
    (∀ tenantId provider, provider ≠ "linkedin" → t.stored tenantId provider = t.account tenantId provider) ∧
    ∀ tenantId,
      oneOrNone (t.stored tenantId "linkedin") = .error (.raised "MultipleResultsFound") ↔ t.channelsOf tenantId ≠ [] := by
  intro s t t'
  have start : Connected {} := ⟨List.nodup_nil, nofun, List.nodup_nil, nofun, nofun, rfl, nofun, nofun, fun _ _ => rfl⟩
  have sound := integrations_sound linkedin
  have reached := sound.run (.start start) ops
  have connected : t.Connected := reached.1
  have kept : t.Keeps t' := sound.guarantee (R := Keeps) (fun _ _ member => ⟨member, rfl⟩)
    (fun _ _ _ first next => first.trans next)
    (fun _ _ _ connected grounded done => connected.keeps grounded done) reached later
  refine ⟨connected.register, fun ch member => ?_, fun tenantId provider other => ?_, connected.stored_raises⟩
  · obtain ⟨c, single, tenant, ofLinkedin, saved⟩ := connected.attached_eq member
    exact ⟨(kept ch member).1, c, single, (kept ch member).2.trans single, tenant, ofLinkedin, saved⟩
  · exact connected.stored_other other

namespace Reconnected

local instance reconnectedText : PyText := PyText.plain

def admin : AppUser := ⟨7, 1, .admin⟩

def tokens (accessToken : String) : OAuthTokens := ⟨accessToken, none, 60, []⟩

/-- The account is connected, a channel is created of its page, and the account is connected again. -/
def reconnecting : List (TxOp IntegrationRequest) :=
  [.start (.socialCallback admin "linkedin" (some "csrf") "csrf" (tokens "old")), .read 0, .commit 0,
    .start (.createChannel admin "linkedin" { pageId := "9" } (.ok [⟨"9", "Acme", "urn:9"⟩])), .read 1, .commit 1]

def again : List (TxOp IntegrationRequest) :=
  [.start (.socialCallback admin "linkedin" (some "csrf") "csrf" (tokens "new")), .read 2, .commit 2]

/-- The account as it was when the channel was created. -/
def before : StoredCredential := ⟨⟨1, none, "linkedin", tokenPayload (tokens "old")⟩, 0, "default", 1, some 60⟩

theorem channels_keep_their_copies_reconnecting :
    let s := Lib.run integrations.step { table := {} } reconnecting
    let t' := (Lib.run integrations.step s again).table
    (t'.account 1 "linkedin").map (fun c => c.payload.get? "access_token") = [some (.str "new")] ∧
      s.table.channelsOf 1 ≠ [] ∧ ∃ c, t'.attached 1 = [c] ∧ c.payload.get? "access_token" = some (.str "old") := by
  refine ⟨by decide +kernel, by decide +kernel, ?_⟩
  have there : pageChannel 1 before "Acme" ⟨"9", "Acme", "urn:9"⟩ ∈
      (Lib.run integrations.step { table := {} } reconnecting).table.channels := by decide +kernel
  obtain ⟨_, c, first, after, _⟩ := (channels_keep_their_copies (by decide) reconnecting again).2.1 _ there
  have old : (Lib.run integrations.step { table := {} } reconnecting).table.attached 1 =
      [pageCredential 2 1 before ⟨"9", "Acme", "urn:9"⟩] := by decide +kernel
  exact ⟨c, after, List.singleton_inj.mp (first.symm.trans old) ▸ rfl⟩

end Reconnected

end IntegrationTable

end MarketingAgents
