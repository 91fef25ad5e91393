import Mathlib.Data.List.Pairwise
import MarketingAgents.Db.Models
import MarketingAgents.Db.Text
import MarketingAgents.Lib.Result
import MarketingAgents.Lib.Rows
import MarketingAgents.Lib.Transactions

namespace MarketingAgents

open Lib PyText

/-- A row of `tenant` as the login reads it. -/
structure TenantRow where
  id : Uuid
  oidcHostedDomain : Option String
deriving DecidableEq

/-- A row of `app_user`. -/
structure UserRow extends AppUser where
  email : String
  displayName : Option String := none
  isActive : Bool := true
deriving DecidableEq

/-- The claims of an ID token that the callback uses. -/
structure Claims where
  email : Option String
  hd : Option String
  name : Option String := none
deriving DecidableEq

inductive LoginRequest where
  | callback (token : Except String Claims)
  | impersonate (email : String)

/-- A session cookie, with the login that set it. A client may present any cookie it was ever given. -/
structure SessionCookie where
  userId : String
  tenantId : String
  login : LoginRequest

/-- Where a login stands: with the user it has found, or with the row that it will insert. -/
inductive LoginWork where
  | started (request : LoginRequest)
  | found (request : LoginRequest) (user : UserRow)
  | provisioning (request : LoginRequest) (tenantId : Uuid) (email : String) (displayName : String)
  | failed (error : AppError)

structure AuthTable where
  tenants : List TenantRow := []
  users : List UserRow := []
  nextId : Uuid := 0
  devImpersonationEnabled : Bool := false
  cookies : List SessionCookie := []

namespace AuthTable

section Logins

variable [PyText]

def tenantsOf (t : AuthTable) (hd : String) : List TenantRow :=
  t.tenants.filter fun tenant => tenant.oidcHostedDomain.any fun domain => lower domain = lower hd

def usersOf (t : AuthTable) (tenantId : Uuid) (email : String) : List UserRow :=
  t.users.filter fun u => u.tenantId = tenantId ∧ lower u.email = lower email

/-- The checks and the reads of `callback`. -/
def callback (t : AuthTable) (claims : Claims) : Except AppError (UserRow ⊕ Uuid × String × String) := do
  let email ← orRaise (claims.email.filter (· ≠ "")) (.http 400 "ID token missing email")
  let hd ← orRaise (claims.hd.filter (· ≠ "")) (.http 403 "ID token missing hosted-domain claim (hd)")
  let tenant? ← oneOrNone (t.tenantsOf hd)
  let tenant ← orRaise tenant? (.http 403 ("No tenant configured for hosted domain '" ++ hd ++ "'"))
  let user? ← oneOrNone (t.usersOf tenant.id email)
  match user? with
  | some user => pure (.inl user)
  | none => pure (.inr (tenant.id, email, (claims.name.filter (· ≠ "")).getD email))

def devImpersonate (t : AuthTable) (email : String) : Except AppError UserRow := do
  require (t.devImpersonationEnabled = true) (.http 404 "Not Found")
  let user? ← oneOrNone (t.users.filter fun u => lower u.email = lower email)
  orRaise user? (.http 404 ("no user with email '" ++ email ++ "'"))

def read (t : AuthTable) : LoginWork → LoginWork
  | .started (.callback (.error error)) => .failed (.http 400 ("OIDC error: " ++ error))
  | .started (.callback (.ok claims)) =>
    match t.callback claims with
    | .ok (.inl user) => .found (.callback (.ok claims)) user
    | .ok (.inr (tenantId, email, displayName)) => .provisioning (.callback (.ok claims)) tenantId email displayName
    | .error error => .failed error
  | .started (.impersonate email) =>
    match t.devImpersonate email with
    | .ok user => .found (.impersonate email) user
    | .error error => .failed error
  | work => work

/-- `request.session[...] = ...`. -/
def issue (t : AuthTable) (user : UserRow) (login : LoginRequest) : AuthTable :=
  { t with cookies := ⟨uuidStr user.id, uuidStr user.tenantId, login⟩ :: t.cookies }

def provisioned (id tenantId : Uuid) (email displayName : String) : UserRow where
  id := id
  tenantId := tenantId
  role := .viewer
  email := email
  displayName := some displayName

/-- The insert of a new user, under the unique index, and the cookie. -/
def commit (t : AuthTable) : LoginWork → Option AuthTable
  | .found request user => some (t.issue user request)
  | .provisioning request tenantId email displayName =>
    let user := provisioned t.nextId tenantId email displayName
    if displayName.length ≤ 200 ∧ t.usersOf tenantId email = [] then
      some (issue { t with users := t.users ++ [user], nextId := t.nextId + 1 } user request)
    else none
  | .started _ | .failed _ => none

/-- `get_current_user`. -/
def getCurrentUser (t : AuthTable) (cookie : SessionCookie) : Except AppError UserRow := do
  let userId ← orRaise (uuidOf cookie.userId) (.raised "ValueError")
  let user ← orRaise ((t.users.find? (·.id = userId)).filter (·.isActive)) (.http 401 "User not found or inactive")
  pure user

/-- `require_role(minimum)`. -/
def requireRole (t : AuthTable) (minimum : UserRole) (cookie : SessionCookie) : Except AppError UserRow := do
  let current ← t.getCurrentUser cookie
  require (minimum.rank ≤ current.role.rank) (.http 403 ("requires role >= " ++ minimum.value))
  pure current

end Logins

end AuthTable

/-- Any number of logins at work at once. -/
def logins [PyText] : Protocol AuthTable LoginRequest LoginWork where
  start := .started
  read := AuthTable.read
  commit := AuthTable.commit

namespace AuthTable

/-- What a login leaves as it was, and the users that it adds. -/
structure Extends (t t' : AuthTable) : Prop where
  tenants : t'.tenants = t.tenants
  settings : t'.devImpersonationEnabled = t.devImpersonationEnabled
  users : t.users <+: t'.users
  added : ∀ u ∈ t'.users, u ∈ t.users ∨ u.role = .viewer ∧ u.isActive = true

theorem Extends.refl (t : AuthTable) : t.Extends t := ⟨rfl, rfl, List.prefix_rfl, fun _ member => Or.inl member⟩

theorem Extends.trans {t t' t'' : AuthTable} (first : t.Extends t') (next : t'.Extends t'') : t.Extends t'' where
  tenants := next.tenants.trans first.tenants
  settings := next.settings.trans first.settings
  users := first.users.trans next.users
  added u member := (next.added u member).elim (first.added u) Or.inr

section Tables

variable [PyText] {t t' : AuthTable}

/-- Two rows that the unique index on the tenant and the email allows beside each other. -/
def Apart (a b : UserRow) : Prop := a.tenantId = b.tenantId → lower a.email ≠ lower b.email

/-- Two tenants that the unique index on the hosted domain allows beside each other. -/
def DomainsApart (a b : TenantRow) : Prop := ∀ x ∈ a.oidcHostedDomain, ∀ y ∈ b.oidcHostedDomain, lower x ≠ lower y

instance : Std.Symm Apart := ⟨fun _ _ apart same => (apart same.symm).symm⟩

instance : Std.Symm DomainsApart := ⟨fun _ _ apart y hy x hx => (apart x hx y hy).symm⟩

/-- What the columns and the indexes of the tables guarantee. -/
structure Wf (t : AuthTable) : Prop where
  ids : (t.users.map fun u => u.id).Nodup
  below : ∀ u ∈ t.users, u.id < t.nextId
  apart : t.users.Pairwise Apart
  domains : t.tenants.Pairwise DomainsApart

/-- The login asks for this user: by the hosted domain of the tenant and the email, or by the email alone. -/
def Names (t : AuthTable) (u : UserRow) : LoginRequest → Prop
  | .callback token => ∃ claims, token = .ok claims ∧ ∃ email hd, claims.email = some email ∧ claims.hd = some hd ∧
      lower u.email = lower email ∧ ∃ tenant ∈ t.tenantsOf hd, tenant.id = u.tenantId
  | .impersonate email => t.devImpersonationEnabled = true ∧ lower u.email = lower email

/-- Every cookie is for a user that its login asks for. -/
structure Issued (t : AuthTable) : Prop extends t.Wf where
  named : ∀ cookie ∈ t.cookies, ∃ u ∈ t.users, cookie.userId = uuidStr u.id ∧ cookie.tenantId = uuidStr u.tenantId ∧
    t.Names u cookie.login

def Grounded (t : AuthTable) : LoginWork → Prop
  | .found request user => user ∈ t.users ∧ t.Names user request
  | .provisioning request tenantId email displayName =>
    ∀ id, t.Names (provisioned id tenantId email displayName) request
  | _ => True

theorem mem_usersOf {u : UserRow} {tenantId : Uuid} {email : String} :
    u ∈ t.usersOf tenantId email ↔ u ∈ t.users ∧ u.tenantId = tenantId ∧ lower u.email = lower email := by
  rw [usersOf, List.mem_filter, decide_eq_true_iff]

theorem commit_extends {work : LoginWork} (done : t.commit work = some t') : t.Extends t' := by
  cases work with
  | started | failed => cases done
  | found request user =>
    cases Option.some.inj done
    exact ⟨rfl, rfl, List.prefix_rfl, fun _ member => Or.inl member⟩
  | provisioning request tenantId email displayName =>
    simp only [commit] at done
    split at done
    · cases Option.some.inj done
      refine ⟨rfl, rfl, List.prefix_append .., fun u member => ?_⟩
      rcases List.mem_append.mp member with old | new
      · exact Or.inl old
      · exact Or.inr (List.mem_singleton.mp new ▸ ⟨rfl, rfl⟩)
    · cases done

/-- Who a login asks for depends on the tenants and the settings only. -/
theorem Extends.names (extended : t.Extends t') {u : UserRow} {login : LoginRequest} : t'.Names u login ↔ t.Names u login := by
  cases login <;> simp only [Names, tenantsOf, extended.tenants, extended.settings]

theorem Wf.provision (wf : t.Wf) {tenantId : Uuid} {email displayName : String} (absent : t.usersOf tenantId email = []) :
    Wf { t with users := t.users ++ [provisioned t.nextId tenantId email displayName], nextId := t.nextId + 1 } where
  ids := nodup_keys_append wf.ids (List.nodup_singleton _) fun u member row new =>
    List.mem_singleton.mp new ▸ (wf.below u member).ne
  below u member := by
    rcases List.mem_append.mp member with old | new
    · exact (wf.below u old).trans (Nat.lt_succ_self _)
    · rw [List.mem_singleton.mp new]
      exact Nat.lt_succ_self _
  apart := by
    refine List.pairwise_append.mpr ⟨wf.apart, List.pairwise_singleton _ _, fun u member row new => ?_⟩
    rw [List.mem_singleton.mp new]
    intro sameTenant sameEmail
    have taken : u ∈ t.usersOf tenantId email := mem_usersOf.mpr ⟨member, sameTenant, sameEmail⟩
    rw [absent] at taken
    cases taken
  domains := wf.domains

theorem Issued.issue (issued : t.Issued) {user : UserRow} {login : LoginRequest} (member : user ∈ t.users)
    (asked : t.Names user login) : (t.issue user login).Issued where
  ids := issued.ids
  below := issued.below
  apart := issued.apart
  domains := issued.domains
  named cookie held := by
    rcases List.mem_cons.mp held with rfl | old
    · exact ⟨user, member, rfl, rfl, asked⟩
    · exact issued.named cookie old

theorem Issued.commit (issued : t.Issued) {work : LoginWork} (grounded : t.Grounded work)
    (done : t.commit work = some t') : t'.Issued := by
  cases work with
  | started | failed => cases done
  | found request user =>
    cases Option.some.inj done
    exact issued.issue grounded.1 grounded.2
  | provisioning request tenantId email displayName =>
    simp only [AuthTable.commit] at done
    split at done
    · rename_i free
      cases Option.some.inj done
      have extended : Issued
          { t with users := t.users ++ [provisioned t.nextId tenantId email displayName], nextId := t.nextId + 1 } := by
        refine ⟨issued.toWf.provision free.2, fun cookie held => ?_⟩
        obtain ⟨u, member, named⟩ := issued.named cookie held
        exact ⟨u, List.mem_append_left _ member, named⟩
      exact extended.issue (List.mem_append_right _ (List.mem_singleton_self _)) (grounded t.nextId)
    · cases done

theorem Grounded.rely {work other : LoginWork} (done : t.commit work = some t') (grounded : t.Grounded other) :
    t'.Grounded other := by
  have extended := commit_extends done
  cases other with
  | started | failed => trivial
  | found request user => exact ⟨extended.users.subset grounded.1, extended.names.mpr grounded.2⟩
  | provisioning request tenantId email displayName => exact fun id => extended.names.mpr (grounded id)

theorem devImpersonate_ok {email : String} {user : UserRow} (done : t.devImpersonate email = .ok user) :
    user ∈ t.users ∧ t.Names user (.impersonate email) := by
  simp only [devImpersonate, bind_eq_ok, require_eq_ok, orRaise_eq_ok] at done
  obtain ⟨_, enabled, _, found, rfl⟩ := done
  have member : user ∈ t.users.filter fun u => lower u.email = lower email :=
    oneOrNone_some found ▸ List.mem_singleton_self user
  obtain ⟨there, same⟩ := List.mem_filter.mp member
  exact ⟨there, enabled, of_decide_eq_true same⟩

/-- What a callback finds is the one user of the tenant with the email; without
such a user it knows the tenant and the email to enter. -/
theorem callback_ok {claims : Claims} {outcome : UserRow ⊕ Uuid × String × String} (done : t.callback claims = .ok outcome) :
    ∃ email hd tenant, claims.email = some email ∧ claims.hd = some hd ∧ t.tenantsOf hd = [tenant] ∧
      (∀ user, outcome = .inl user → t.usersOf tenant.id email = [user]) ∧
      ∀ tenantId email' displayName, outcome = .inr (tenantId, email', displayName) → tenantId = tenant.id ∧ email' = email := by
  simp only [callback, bind_eq_ok, orRaise_eq_ok] at done
  obtain ⟨email, given, hd, hosted, _, one, tenant, rfl, found, user?, rest⟩ := done
  refine ⟨email, hd, tenant, (Option.filter_eq_some_iff.mp given).1, (Option.filter_eq_some_iff.mp hosted).1,
    oneOrNone_some one, fun user same => ?_, fun tenantId email' displayName same => ?_⟩
  · subst same
    cases found with
    | none => cases Except.ok.inj rest
    | some user =>
      cases Except.ok.inj rest
      exact oneOrNone_some user?
  · subst same
    cases found with
    | none =>
      cases Except.ok.inj rest
      exact ⟨rfl, rfl⟩
    | some user => cases Except.ok.inj rest

theorem read_grounded {work : LoginWork} (grounded : t.Grounded work) : t.Grounded (t.read work) := by
  cases work with
  | found | provisioning | failed => exact grounded
  | started request =>
    cases request with
    | impersonate email =>
      simp only [AuthTable.read]
      cases outcome : t.devImpersonate email with
      | ok user => exact devImpersonate_ok outcome
      | error error => trivial
    | callback token =>
      cases token with
      | error error => trivial
      | ok claims =>
        simp only [AuthTable.read]
        cases outcome : t.callback claims with
        | error error => trivial
        | ok found =>
          obtain ⟨email, hd, tenant, given, hosted, one, present, missing⟩ := callback_ok outcome
          have listed : tenant ∈ t.tenantsOf hd := one ▸ List.mem_singleton_self tenant
          cases found with
          | inl user =>
            have member : user ∈ t.usersOf tenant.id email := present user rfl ▸ List.mem_singleton_self user
            obtain ⟨there, ofTenant, same⟩ := mem_usersOf.mp member
            exact ⟨there, claims, rfl, email, hd, given, hosted, same, tenant, listed, ofTenant.symm⟩
          | inr entry =>
            obtain ⟨tenantId, email', displayName⟩ := entry
            obtain ⟨rfl, rfl⟩ := missing _ _ _ rfl
            exact fun id => ⟨claims, rfl, email', hd, given, hosted, rfl, tenant, listed, rfl⟩

theorem logins_sound : logins.Sound Issued Grounded where
  start _ _ _ := trivial
  read _ _ _ grounded := read_grounded grounded
  commit _ _ _ issued grounded done := issued.commit grounded done
  rely _ _ _ _ _ _ done grounded := grounded.rely done

/-- A callback asks for one user at most. -/
theorem Wf.names_unique (wf : t.Wf) {token : Except String Claims} {u v : UserRow} (here : u ∈ t.users) (there : v ∈ t.users)
    (asked : t.Names u (.callback token)) (asked' : t.Names v (.callback token)) : v = u := by
  obtain ⟨claims, rfl, email, hd, given, hosted, sameEmail, tenant, ofDomain, tenantId⟩ := asked
  obtain ⟨_, same, email', hd', given', hosted', sameEmail', tenant', ofDomain', tenantId'⟩ := asked'
  cases same
  cases given.symm.trans given'
  cases hosted.symm.trans hosted'
  obtain ⟨listed, domain⟩ := List.mem_filter.mp ofDomain
  obtain ⟨listed', domain'⟩ := List.mem_filter.mp ofDomain'
  obtain ⟨x, hx, sameX⟩ := (Option.any_eq_true _ _).mp domain
  obtain ⟨y, hy, sameY⟩ := (Option.any_eq_true _ _).mp domain'
  have oneTenant : tenant = tenant' := by
    by_contra differ
    exact wf.domains.forall listed listed' differ x hx y hy ((of_decide_eq_true sameX).trans (of_decide_eq_true sameY).symm)
  subst oneTenant
  by_contra differ
  exact wf.apart.forall there here differ (tenantId'.symm.trans tenantId) (sameEmail'.trans sameEmail.symm)

/-- What `require_role` answers to a cookie of this user. -/
def answer (u : UserRow) (minimum : UserRole) : Except AppError UserRow :=
  if u.isActive = true then
    if minimum.rank ≤ u.role.rank then .ok u else .error (.http 403 ("requires role >= " ++ minimum.value))
  else .error (.http 401 "User not found or inactive")

theorem Wf.requireRole_eq (wf : t.Wf) {u : UserRow} (member : u ∈ t.users) {cookie : SessionCookie}
    (names : cookie.userId = uuidStr u.id) (minimum : UserRole) : t.requireRole minimum cookie = answer u minimum := by
  have found : t.users.find? (fun v => v.id = u.id) = some u := find?_key_eq (fun v : UserRow => v.id) wf.ids member
  unfold requireRole getCurrentUser answer
  rw [names, uuidOf_uuidStr]
  by_cases active : u.isActive = true
  · have kept : (t.users.find? fun v => v.id = u.id).filter (·.isActive) = some u := by
      rw [found, Option.filter_some, if_pos active]
    by_cases ranked : minimum.rank ≤ u.role.rank <;>
      simp [orRaise, require, bind, Except.bind, pure, Except.pure, kept, active, ranked]
  · have missing : (t.users.find? fun v => v.id = u.id).filter (·.isActive) = none := by
      rw [found, Option.filter_some, if_neg active]
    simp [orRaise, bind, Except.bind, missing, active]

end Tables

/-- Whatever the interleaving of the logins, and whichever of them fail: the users
that were there stay as they were, the others are viewers, no tenant has two of
one email, and every cookie is for a user whom its login asks for, in the tenant it
names; for a callback this is the only one, so that two callbacks with the same
claims are for the same user. What a request with the cookie may do is decided by
the row of this user. -/
theorem cookies_name_their_user [PyText] {start : AuthTable} (wf : start.Wf) (fresh : start.cookies = [])
    (ops : List (TxOp LoginRequest)) :
    let t := (Lib.run logins.step { table := start } ops).table
    start.users <+: t.users ∧ (∀ u ∈ t.users, u ∈ start.users ∨ u.role = .viewer ∧ u.isActive = true) ∧
      t.users.Pairwise Apart ∧
      ∀ cookie ∈ t.cookies, ∃ u ∈ t.users, cookie.tenantId = uuidStr u.tenantId ∧ start.Names u cookie.login ∧
        (∀ token, cookie.login = .callback token → ∀ v ∈ t.users, start.Names v cookie.login → v = u) ∧
        ∀ minimum, t.requireRole minimum cookie = answer u minimum := by
  intro t
  have issued : start.Issued := ⟨wf, by simp [fresh]⟩
  have reached : t.Issued := (logins_sound.run (.start issued) ops).1
  have extended : start.Extends t := logins_sound.guarantee (R := Extends) .refl (fun _ _ _ first next => first.trans next)
    (fun _ _ _ _ _ done => commit_extends done) (.start issued) ops
  refine ⟨extended.users, extended.added, reached.apart, fun cookie held => ?_⟩
  obtain ⟨u, member, userId, tenantId, asked⟩ := reached.named cookie held
  refine ⟨u, member, tenantId, extended.names.mp asked, fun token callback v there asked' => ?_,
    reached.requireRole_eq member userId⟩
  have again := extended.names.mpr asked'
  rw [callback] at asked again
  exact reached.names_unique member there asked again

namespace Racing

local instance racingText : PyText := PyText.plain

def ann : Claims := ⟨some "ann@acme.io", some "acme.io", none⟩

def acme : AuthTable where
  tenants := [⟨1, some "acme.io"⟩]
  users := [{ id := 0, tenantId := 1, role := .admin, email := "root@acme.io" }]
  nextId := 1

/-- Two callbacks find no user, one of them inserts it, and the other one comes too late; then Ann logs in again. -/
def racing : List (TxOp LoginRequest) :=
  [.start (.callback (.ok ann)), .start (.callback (.ok ann)), .read 0, .read 1, .commit 0, .commit 1,
    .start (.callback (.ok ann)), .read 2, .commit 2]

theorem acme_wf : acme.Wf where
  ids := List.nodup_singleton 0
  below u member := by
    rw [List.mem_singleton.mp member]
    exact Nat.zero_lt_one
  apart := List.pairwise_singleton _ _
  domains := List.pairwise_singleton _ _

theorem cookies_name_their_user_racing :
    let t := (Lib.run logins.step { table := acme } racing).table
    t.users.length = 2 ∧ t.cookies.length = 2 ∧ ∀ u ∈ t.users, u ∈ acme.users ∨ u.role = .viewer ∧ u.isActive = true :=
  ⟨by decide +kernel, by decide +kernel, (cookies_name_their_user acme_wf rfl racing).2.1⟩

end Racing

end AuthTable

end MarketingAgents
