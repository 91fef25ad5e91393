import Mathlib.Data.List.Dedup
import MarketingAgents.Audiences.Segmentation
import MarketingAgents.Db.Models
import MarketingAgents.Lib.Rows

namespace MarketingAgents

open Lib PyText Segmentation

/-- A row of `audience` with all its columns. -/
structure AudienceRow extends Audience where
  name : String
  segmentCriteria : Dict String Json
  estimatedSize : Option Nat := none
  actualSize : Option Nat := none
  refreshedAt : Option Int := none

/-- A row of `audience_member` with all its columns. -/
structure MemberRow extends AudienceMember where
  source : Option String := none
  fetchedAt : Option Int := none
  addedAt : Int

/-- The tables that a materialisation reads and writes; the members of an
audience go with it. -/
structure AudienceStore where
  campaigns : List Campaign := []
  audiences : List AudienceRow := []
  members : List MemberRow := []
  nextId : Uuid := 0
  fresh : ∀ a ∈ audiences, a.id < nextId
  linked : ∀ m ∈ members, ∃ a ∈ audiences, a.id = m.audienceId

/-- `SegmentationError`, `ValueError`, and a name that its column has no room for. -/
inductive MaterialiseError where
  | segmentation (error : SegmentationError)
  | campaignNotFound (campaignId : Uuid)
  | nameTooLong
deriving DecidableEq

namespace AudienceStore

variable [PyText] [JsonbText]

/-- `audience_member JOIN audience`, for one tenant. -/
def tenantMembers (s : AudienceStore) (tenantId : Uuid) : List MemberRow :=
  s.members.filter fun m => s.audiences.any fun a => a.id = m.audienceId ∧ a.tenantId = tenantId

/-- `build`: the contacts with a row that the criteria select. -/
def build (s : AudienceStore) (tenantId : Uuid) (criteria : SegmentationCriteria) : List String :=
  (((s.tenantMembers tenantId).filter fun m => criteria.selects m.payload).map (·.externalId)).dedup

/-- `DISTINCT ON (external_id) … ORDER BY external_id, added_at DESC`: the row of a contact that comes first. -/
def newestRow (s : AudienceStore) (tenantId : Uuid) (externalId : String) : Option MemberRow :=
  (((s.tenantMembers tenantId).filter (·.externalId = externalId)).insertionSort fun a b => b.addedAt ≤ a.addedAt).head?

/-- `payload_by_id.get(ext_id, {"email": ext_id})`. -/
def snapshotPayload (s : AudienceStore) (tenantId : Uuid) (externalId : String) : Dict String Json :=
  ((s.newestRow tenantId externalId).map (·.payload)).getD [("email", .str externalId)]

def targeted (s : AudienceStore) (tenantId : Uuid) (now : Int) (externalId : String) : MemberRow where
  audienceId := s.nextId
  externalId := externalId
  payload := s.snapshotPayload tenantId externalId
  source := some "targeted"
  fetchedAt := some now
  addedAt := now

/-- The store with a new audience of the contacts. -/
def snapshot (s : AudienceStore) (c : Campaign) (audienceName : String) (criteria : Dict String Json)
    (externalIds : List String) (now : Int) : AudienceStore where
  campaigns := s.campaigns
  audiences := s.audiences ++
    [{ id := s.nextId, tenantId := c.tenantId, campaignId := c.id, createdAt := now, name := audienceName
       segmentCriteria := criteria, estimatedSize := some externalIds.length, actualSize := some externalIds.length
       refreshedAt := some now }]
  members := s.members ++ externalIds.map (s.targeted c.tenantId now)
  nextId := s.nextId + 1
  fresh := by
    intro a member
    rcases List.mem_append.mp member with old | new
    · exact Nat.lt_succ_of_lt (s.fresh a old)
    · rw [List.mem_singleton] at new
      subst new
      exact Nat.lt_succ_self _
  linked := by
    intro m member
    rcases List.mem_append.mp member with old | new
    · obtain ⟨a, there, same⟩ := s.linked m old
      exact ⟨a, List.mem_append_left _ there, same⟩
    · obtain ⟨externalId, _, rfl⟩ := List.mem_map.mp new
      exact ⟨_, List.mem_append_right _ (List.mem_singleton_self _), rfl⟩

/-- `materialise`, with the payload it returns. -/
def materialise (s : AudienceStore) (campaignId : Uuid) (audienceName : String) (criteria : Dict String Json) (now : Int) :
    Except MaterialiseError (AudienceStore × Dict String Json) := do
  let parsed ← (validateCriteria criteria).mapError MaterialiseError.segmentation
  let c ← orRaise (s.campaigns.find? (·.id = campaignId)) (.campaignNotFound campaignId)
  let externalIds := s.build c.tenantId parsed
  require (audienceName.length ≤ 200) .nameTooLong
  pure (s.snapshot c audienceName criteria externalIds now,
    [("audience_id", .str (uuidStr s.nextId)), ("campaign_id", .str (uuidStr campaignId)),
      ("member_count", .int externalIds.length)])

/-- The newest row of each contact that the criteria select satisfies them too. -/
def NewestSatisfy (s : AudienceStore) (tenantId : Uuid) (criteria : SegmentationCriteria) : Prop :=
  ∀ m ∈ s.tenantMembers tenantId, criteria.selects m.payload = true →
    ∀ newest ∈ s.newestRow tenantId m.externalId, criteria.Satisfied newest.payload

instance decidableNewestSatisfy (s : AudienceStore) (tenantId : Uuid) (criteria : SegmentationCriteria) :
    Decidable (s.NewestSatisfy tenantId criteria) :=
  inferInstanceAs (Decidable (∀ m ∈ s.tenantMembers tenantId, _))

omit [PyText] [JsonbText] in
/-- A contact with a row has a newest one. -/
theorem newestRow_of_mem {s : AudienceStore} {tenantId : Uuid} {m : MemberRow} (member : m ∈ s.tenantMembers tenantId) :
    ∃ newest, s.newestRow tenantId m.externalId = some newest ∧ newest ∈ s.tenantMembers tenantId ∧
      newest.externalId = m.externalId ∧ m.addedAt ≤ newest.addedAt := by
  have listed : m ∈ (s.tenantMembers tenantId).filter (·.externalId = m.externalId) :=
    List.mem_filter.mpr ⟨member, decide_eq_true rfl⟩
  cases first : s.newestRow tenantId m.externalId with
  | none =>
    have empty := List.head?_eq_none_iff.mp first
    have sorted := (List.perm_insertionSort (fun a b : MemberRow => b.addedAt ≤ a.addedAt) _).symm.subset listed
    rw [empty] at sorted
    cases sorted
  | some newest =>
    have total : Std.Total fun a b : MemberRow => b.addedAt ≤ a.addedAt := ⟨fun a b => le_total b.addedAt a.addedAt⟩
    have trans : IsTrans MemberRow fun a b => b.addedAt ≤ a.addedAt := ⟨fun _ _ _ ab bc => bc.trans ab⟩
    obtain ⟨here, before⟩ := first_of_orderBy first
    have facts := List.mem_filter.mp here
    exact ⟨newest, rfl, facts.1, of_decide_eq_true facts.2, before m listed⟩

theorem mem_build {s : AudienceStore} {tenantId : Uuid} {criteria : SegmentationCriteria} {externalId : String} :
    externalId ∈ s.build tenantId criteria ↔
      ∃ m ∈ s.tenantMembers tenantId, criteria.selects m.payload = true ∧ m.externalId = externalId := by
  simp only [build, List.mem_dedup, List.mem_map, List.mem_filter, and_assoc]

omit [PyText] [JsonbText] in
/-- The members of the new audience are the contacts it was made of. -/
theorem snapshot_members {s : AudienceStore} {c : Campaign} {audienceName : String} {criteria : Dict String Json}
    {externalIds : List String} {now : Int} {m : MemberRow} :
    (m ∈ (s.snapshot c audienceName criteria externalIds now).members ∧ m.audienceId = s.nextId) ↔
      ∃ externalId ∈ externalIds, m = s.targeted c.tenantId now externalId := by
  rw [snapshot, List.mem_append, List.mem_map]
  constructor
  · rintro ⟨old | ⟨externalId, listed, rfl⟩, owned⟩
    · obtain ⟨a, there, same⟩ := s.linked m old
      exact absurd (same.trans owned) (Nat.ne_of_lt (s.fresh a there))
    · exact ⟨externalId, listed, rfl⟩
  · rintro ⟨externalId, listed, rfl⟩
    exact ⟨Or.inr ⟨externalId, listed, rfl⟩, rfl⟩

theorem materialise_ok {s s' : AudienceStore} {campaignId : Uuid} {audienceName : String} {criteria out : Dict String Json}
    {now : Int} (done : s.materialise campaignId audienceName criteria now = .ok (s', out)) :
    ∃ parsed c, validateCriteria criteria = .ok parsed ∧ s.campaigns.find? (·.id = campaignId) = some c ∧
      s' = s.snapshot c audienceName criteria (s.build c.tenantId parsed) now := by
  simp only [materialise, bind_eq_ok, mapError_eq_ok, orRaise_eq_ok, pure_eq_ok, Prod.mk.injEq] at done
  obtain ⟨parsed, accepted, c, found, _, _, rfl, _⟩ := done
  exact ⟨parsed, c, accepted, found, rfl⟩

/-- The members of a materialised audience satisfy its criteria exactly if the
newest rows of the selected contacts do. The criteria select rows, and a contact may
have several: an older one selects the contact, the newest one becomes the
member. -/
theorem members_satisfy_iff {s s' : AudienceStore} {campaignId : Uuid} {audienceName : String}
    {criteria out : Dict String Json} {now : Int} {parsed : SegmentationCriteria} {c : Campaign}
    (accepted : validateCriteria criteria = .ok parsed) (found : s.campaigns.find? (·.id = campaignId) = some c)
    (done : s.materialise campaignId audienceName criteria now = .ok (s', out)) :
    (∀ m ∈ s'.members, m.audienceId = s.nextId → parsed.Satisfied m.payload) ↔ s.NewestSatisfy c.tenantId parsed := by
  obtain ⟨parsed', c', accepted', found', rfl⟩ := materialise_ok done
  cases Except.ok.inj (accepted.symm.trans accepted')
  cases Option.some.inj (found.symm.trans found')
  constructor
  · intro satisfied m member selected newest first
    have listed : m.externalId ∈ s.build c.tenantId parsed := mem_build.mpr ⟨m, member, selected, rfl⟩
    have entered : s.targeted c.tenantId now m.externalId ∈
        (s.snapshot c audienceName criteria (s.build c.tenantId parsed) now).members :=
      (snapshot_members.mpr ⟨m.externalId, listed, rfl⟩).1
    have holds := satisfied _ entered rfl
    rwa [targeted, snapshotPayload, Option.mem_def.mp first] at holds
  · intro newestSatisfy m inside owned
    obtain ⟨externalId, listed, rfl⟩ := snapshot_members.mp ⟨inside, owned⟩
    obtain ⟨old, member, selected, rfl⟩ := mem_build.mp listed
    obtain ⟨newest, first, _⟩ := newestRow_of_mem member
    have holds := newestSatisfy old member selected newest first
    rwa [targeted, snapshotPayload, first]

end AudienceStore

namespace Snapshots

local instance snapshotsText : PyText := PyText.plain

local instance snapshotsJsonb : JsonbText := JsonbText.plain

def spring : Campaign where
  id := 5
  tenantId := 1
  name := "Spring"
  status := .drafted
  budgetTotal := 100
  currency := "EUR"
  startDate := 0
  endDate := 9

def contact (audienceId : Uuid) (tags : List String) (addedAt : Int) : MemberRow where
  audienceId := audienceId
  externalId := "ada@example.com"
  payload := [("country", .str "US"), ("tags", .arr (tags.map Json.str))]
  addedAt := addedAt

def upload (id : Uuid) : AudienceRow where
  id := id
  tenantId := 1
  campaignId := 5
  createdAt := 0
  name := "upload"
  segmentCriteria := [("source", .str "csv")]

/-- A contact uploaded twice, the second time with the given tags. -/
def uploadedTwice (tags : List String) : AudienceStore where
  campaigns := [spring]
  audiences := [upload 0, upload 1]
  members := [contact 0 [] 10, contact 1 tags 20]
  nextId := 2
  fresh := by decide
  linked := by simp [contact, upload]

/-- Contacts of one country, without the blocked ones. -/
def unblocked : Dict String Json :=
  [("include", .arr [.obj [("field", .str "country"), ("op", .str "eq"), ("value", .str "US")]]),
    ("exclude", .arr [.obj [("field", .str "tags"), ("op", .str "has"), ("value", .str "blocked")]])]

def unblockedRules : SegmentationCriteria := ⟨[⟨"country", .eq "US"⟩], [⟨"tags", .has "blocked"⟩]⟩

/-- The contact has been blocked since, and becomes a member with the tag in its payload. -/
theorem blocked_contact_is_targeted :
    ∃ result, (uploadedTwice ["blocked"]).materialise 5 "open" unblocked 30 = .ok result ∧
      validateCriteria unblocked = .ok unblockedRules ∧
      ∃ m ∈ result.1.members, m.audienceId = 2 ∧ ¬ unblockedRules.Satisfied m.payload :=
  ⟨_, rfl, by decide +kernel, by decide +kernel⟩

theorem members_satisfy_iff_vip :
    ∃ result, (uploadedTwice ["vip"]).materialise 5 "open" unblocked 30 = .ok result ∧
      ((∀ m ∈ result.1.members, m.audienceId = 2 → unblockedRules.Satisfied m.payload) ↔
        (uploadedTwice ["vip"]).NewestSatisfy 1 unblockedRules) := by
  have accepted : validateCriteria unblocked = .ok unblockedRules := by decide +kernel
  have created : ∃ result, (uploadedTwice ["vip"]).materialise 5 "open" unblocked 30 = .ok result := ⟨_, rfl⟩
  obtain ⟨⟨s', out⟩, done⟩ := created
  have exactly := AudienceStore.members_satisfy_iff (c := spring) accepted rfl done
  exact ⟨(s', out), done, exactly⟩

end Snapshots

end MarketingAgents
