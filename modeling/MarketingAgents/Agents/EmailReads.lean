import MarketingAgents.Agents.EmailHandover
import MarketingAgents.Agents.Scheduling

namespace MarketingAgents

open Lib PyText

/-- What `dispatch_email_asset` reads for an asset before it sorts the members:
those the A/B filter keeps, the raw addresses it looks up, and who is capped. -/
structure EmailReads [PyText] (db : Db) (a : ContentAsset) (now : Int) where
  members : List AudienceMember
  assignments : List AbTestAssignment
  recipients : List String
  capped : List String
  kept : filterAudienceForAbTest db a (loadAudienceMembers db a.campaignId) = .ok (members, assignments)
  addresses : recentRecipients members = .ok recipients
  caps : cappedRecipients db a.tenantId .email
    (((members.filter fun m => m.payload ≠ []).map memberEmail).filter (· ≠ "")) now = .ok capped

section Reads

variable [PyText] {db : Db} {a : ContentAsset} {c : Campaign} {now : Int} {secret : String} {plan : EmailPlan}

/-- What the loop over the members does with an address. -/
def EmailReads.verdict (reads : EmailReads db a now) (email : String) : Triage :=
  triage (existingAttempts db a.id) (recentSentRecipients db a.tenantId reads.recipients now) reads.capped email

/-- The members the loop puts on the list of a verdict, with their addresses. -/
def EmailReads.listed (reads : EmailReads db a now) (verdict : Triage) : List (AudienceMember × String) :=
  triaged (existingAttempts db a.id) (recentSentRecipients db a.tenantId reads.recipients now) reads.capped reads.members verdict

theorem EmailReads.unique (reads other : EmailReads db a now) : reads = other := by
  obtain ⟨members, assignments, recipients, capped, kept, addresses, caps⟩ := reads
  obtain ⟨members', assignments', recipients', capped', kept', addresses', caps'⟩ := other
  cases kept.symm.trans kept'
  cases addresses.symm.trans addresses'
  cases caps.symm.trans caps'
  rfl

theorem EmailReads.mem_listed {reads : EmailReads db a now} {verdict : Triage} {entry : AudienceMember × String} :
    entry ∈ reads.listed verdict ↔
      entry.1 ∈ reads.members ∧ entry.2 = memberEmail entry.1 ∧ reads.verdict entry.2 = verdict := by
  simp only [EmailReads.listed, triaged, List.mem_filter, List.mem_map, decide_eq_true_eq, EmailReads.verdict]
  constructor
  · rintro ⟨⟨m, member, rfl⟩, verdict⟩
    exact ⟨member, rfl, verdict⟩
  · rintro ⟨member, email, verdict⟩
    exact ⟨⟨entry.1, member, by rw [← email]⟩, verdict⟩

/-- The plan is what the loop makes of the reads. -/
structure EmailPlan.Follows (plan : EmailPlan) (db : Db) (secret : String) (reads : EmailReads db a now) : Prop where
  asset : plan.asset = a
  audienceSize : plan.audienceSize = reads.members.length
  toSend : plan.toSend = reads.listed .send
  capped : plan.capped = reads.listed .cap
  deduped : plan.deduped = reads.listed .dedup
  fitted : ∀ entry ∈ plan.capped, (idempotencyKey a.id entry.2).length ≤ idempotencyKeyWidth
  batch : plan.toolInputs.get? "audience_batch" =
    some (.arr (plan.toSend.map (audienceEntry db secret a.tenantId plan.footer)))
  marketing : EmailDispatchTool.transactional plan.toolInputs = false

theorem planEmail_follows (planned : planEmail db secret a c now = .ok plan) :
    ∃ reads : EmailReads db a now, plan.Follows db secret reads := by
  simp only [planEmail, bind_eq_ok, pure_eq_ok] at planned
  obtain ⟨_, _, _, _, ⟨members, assignments⟩, filtered, recipients, addresses, capped, caps, _, fitted, _, _, rfl⟩ := planned
  refine ⟨⟨members, assignments, recipients, capped, mapError_eq_ok.mp filtered, addresses, caps⟩,
    rfl, rfl, rfl, rfl, rfl, require_eq_ok.mp fitted, rfl, ?_⟩
  unfold EmailDispatchTool.transactional emailToolInputs
  split <;> rfl

theorem beginEmail_follows {assetId : Uuid} (begun : beginEmail db secret assetId now = .ok (some plan)) :
    ∃ a, db.asset? assetId = some a ∧ ∃ reads : EmailReads db a now, plan.Follows db secret reads := by
  simp only [beginEmail, bind_eq_ok, orRaise_eq_ok] at begun
  obtain ⟨a, found, _, _, _, _, rest⟩ := begun
  split at rest
  · simp at rest
  · simp only [bind_eq_ok, pure_eq_ok, Option.some.injEq] at rest
    obtain ⟨_, _, _, planned, rfl⟩ := rest
    exact ⟨a, found, planEmail_follows planned⟩

/-- The addresses are compared in normal form, and only present ones get past the first check. -/
theorem EmailReads.listed_address {reads : EmailReads db a now} {verdict : Triage} (handled : verdict ≠ .skip)
    {entry : AudienceMember × String} (member : entry ∈ reads.listed verdict) :
    entry.2 ≠ "" ∧ normalised entry.2 = entry.2 := by
  obtain ⟨_, email, isVerdict⟩ := EmailReads.mem_listed.mp member
  refine ⟨fun empty => handled ?_, ?_⟩
  · rw [← isVerdict, EmailReads.verdict, triage, if_pos empty]
  · rw [email]
    exact normalised_normalised _

/-- `dispatch_email_asset` with a connector of its own: `tool.call(tool_inputs)`. -/
def callEmailBy (connector : EmailConnector) (db : Db) (plan : EmailPlan) (batchId : Uuid) : Option DispatchOutcome :=
  if plan.toSend = [] then none
  else some (EmailDispatchTool.call connector db.suppressions plan.asset.tenantId batchId plan.toolInputs)

/-- Of whoever is counted as deduped, a message for the asset was sent, or one
of the tenant within the last day, for any asset. -/
theorem deduped_was_sent {assetId : Uuid} (begun : beginEmail db secret assetId now = .ok (some plan)) :
    ∀ entry ∈ plan.deduped, entry.2 = memberEmail entry.1 ∧ ∃ row ∈ db.dispatchAttempts,
      row.status = .sent ∧ lower row.recipientIdentifier = entry.2 ∧
        (row.contentAssetId = plan.asset.id ∨
          row.tenantId = plan.asset.tenantId ∧ ∃ sentAt ∈ row.sentAt, now - hours 24 ≤ sentAt) := by
  obtain ⟨a, _, reads, follows⟩ := beginEmail_follows begun
  intro entry member
  rw [follows.deduped] at member
  obtain ⟨_, email, verdict⟩ := EmailReads.mem_listed.mp member
  refine ⟨email, ?_⟩
  rw [follows.asset]
  unfold EmailReads.verdict triage at verdict
  split at verdict
  · cases verdict
  · split at verdict
    · rename_i before
      rcases before with existing | recent
      · obtain ⟨row, stored, address⟩ := List.mem_map.mp existing
        obtain ⟨here, sent⟩ := List.mem_filter.mp stored
        have sent : row.contentAssetId = a.id ∧ row.status = .sent := of_decide_eq_true sent
        exact ⟨row, here, sent.2, address, Or.inl sent.1⟩
      · obtain ⟨row, stored, address⟩ := List.mem_map.mp recent
        obtain ⟨here, sent⟩ := List.mem_filter.mp stored
        simp only [decide_eq_true_eq] at sent
        obtain ⟨tenant, status, since, _⟩ := sent
        exact ⟨row, here, status, address, Or.inr ⟨tenant, since⟩⟩
    · split at verdict <;> cases verdict

end Reads

namespace Dispatches

local instance dispatchText : PyText := PyText.plain

/-- A live campaign with a scheduled email, asset 3, for the given members,
and another campaign whose email, asset 5, is out. -/
def shop (members : List (String × Dict String Json)) : Db where
  campaigns := [⟨0, 1, "spring", .live, 100, "EUR", 0, 30, [], none⟩, ⟨9, 1, "winter", .live, 100, "EUR", 0, 30, [], none⟩]
  assets := [⟨3, 1, 0, none, .email, .scheduled, some "first", some "hello", [], true, none, none⟩,
    ⟨5, 1, 9, none, .email, .published, some "other", some "bye", [], true, none, some 0⟩]
  audiences := [⟨8, 1, 0, 0⟩]
  audienceMembers := members.map fun m => ⟨8, m.1, m.2⟩
  credentials := [⟨1, none, "sendgrid", [("api_key", .str "key"), ("default_from_email", .str "news@shop.io")]⟩]

def ann : String × Dict String Json := ("ann", [("email", .str "ann@mail.io")])

def bob : String × Dict String Json := ("bob", [("email", .str "bob@mail.io")])

/-- An attempt for an asset to one of them, sent at the start of time. -/
def attempt (assetId : Uuid) (address : String) (status : AttemptStatus) : DispatchAttempt :=
  ⟨1, assetId, none, address, idempotencyKey assetId address, "sendgrid", none, status, 1, none, some 0⟩

/-- An hour after the other campaign's email, ann is left out of this one's. -/
theorem unrelated_campaign_is_deduped :
    let db := { shop [ann, bob] with dispatchAttempts := [attempt 5 "ann@mail.io" .sent] }
    ∃ plan, beginEmail db "secret" 3 (hours 1) = .ok (some plan) ∧ ∃ entry ∈ plan.deduped,
      ∀ row ∈ db.dispatchAttempts, row.contentAssetId ≠ plan.asset.id ∧
        ∀ other ∈ db.asset? row.contentAssetId, other.campaignId ≠ plan.asset.campaignId := by
  intro db
  have read : ∃ plan ∈ (beginEmail db "secret" 3 (hours 1)).toOption.join, ∃ entry ∈ plan.deduped,
      ∀ row ∈ db.dispatchAttempts, row.contentAssetId ≠ plan.asset.id ∧
        ∀ other ∈ db.asset? row.contentAssetId, other.campaignId ≠ plan.asset.campaignId := by decide +kernel
  obtain ⟨plan, begun, facts⟩ := read
  exact ⟨plan, ok_some_of_mem begun, facts⟩

/-- A second run over the same asset drops whom it was sent to. -/
theorem deduped_was_sent_before :
    let db := { shop [ann, bob] with dispatchAttempts := [attempt 3 "ann@mail.io" .sent] }
    ∃ row ∈ db.dispatchAttempts, row.status = .sent ∧ lower row.recipientIdentifier = "ann@mail.io" ∧
      (row.contentAssetId = 3 ∨ row.tenantId = 1 ∧ ∃ sentAt ∈ row.sentAt, hours 100 - hours 24 ≤ sentAt) := by
  intro db
  have read : ∃ plan ∈ (beginEmail db "secret" 3 (hours 100)).toOption.join, plan.asset.id = 3 ∧ plan.asset.tenantId = 1 ∧
      ∃ entry ∈ plan.deduped, entry.2 = "ann@mail.io" := by decide +kernel
  obtain ⟨plan, begun, asset, tenant, entry, member, address⟩ := read
  obtain ⟨_, sent⟩ := deduped_was_sent (ok_some_of_mem begun) entry member
  rw [asset, tenant, address] at sent
  exact sent

end Dispatches

end MarketingAgents
