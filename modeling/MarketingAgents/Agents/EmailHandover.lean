import MarketingAgents.Agents.EmailDistribution
import MarketingAgents.Tools.EmailSuppression

namespace MarketingAgents

open Lib PyText

/-- No two members of an audience have the same normalised address. -/
def DistinctAudiences [PyText] (db : Db) : Prop :=
  ∀ audience ∈ db.audiences,
    (((db.audienceMembers.filter (·.audienceId = audience.id)).map memberEmail).filter (· ≠ "")).Nodup

instance [PyText] (db : Db) : Decidable (DistinctAudiences db) :=
  inferInstanceAs (Decidable (∀ audience ∈ db.audiences,
    (((db.audienceMembers.filter (·.audienceId = audience.id)).map memberEmail).filter (· ≠ "")).Nodup))

section Handover

variable [PyText]

/-- The addresses the tool reads from a batch. -/
def batchEmails (raw : List Json) : List String := raw.filterMap fun r => r.dict?.map EmailDispatchTool.recipientEmail

theorem sortRecipients_sublist {suppressed : List String} {raw : List Json} {sends : List EmailRecipient}
    {rejections : List Rejection}
    (sorted : EmailDispatchTool.sortRecipients suppressed raw = .ok (sends, rejections)) :
    (sends.map EmailRecipient.email).Sublist (batchEmails raw) := by
  rw [(EmailDispatchTool.sortRecipients_spec sorted).1]
  exact List.filter_sublist

theorem call_handed_sublist {connector : EmailConnector} {suppressions : List SuppressionEntry} {tenantId batchId : Uuid}
    {inputs : Dict String Json} {raw : List Json} (batch : inputs.get? "audience_batch" = some (.arr raw)) :
    ((EmailDispatchTool.call connector suppressions tenantId batchId inputs).handed.map EmailRecipient.email).Sublist
      (batchEmails raw) := by
  unfold EmailDispatchTool.call
  cases prepared : EmailDispatchTool.prepare connector suppressions tenantId inputs with
  | error error => exact List.nil_sublist _
  | ok p =>
    have handed : (p.sendPayload.map EmailRecipient.email).Sublist (batchEmails raw) := by
      simp only [EmailDispatchTool.prepare, bind_eq_ok, pure_eq_ok] at prepared
      obtain ⟨_, _, _, _, _, _, _, _, _, _, recipients, given, ⟨sends, rejections⟩, sorted, rfl⟩ := prepared
      have same : recipients = raw := by
        unfold EmailDispatchTool.audienceBatch at given
        rw [batch] at given
        cases raw with
        | nil => simp at given
        | cons r rest => exact (Except.ok.inj given).symm
      rw [← same]
      exact sortRecipients_sublist sorted
    dsimp only
    split
    · exact List.nil_sublist _
    · split
      · exact handed
      · exact handed

theorem batchEmails_audience (db : Db) (secret : String) (tenantId : Uuid) (footer : Option Json)
    (toSend : List (AudienceMember × String)) :
    batchEmails (toSend.map (audienceEntry db secret tenantId footer)) = toSend.map fun entry => normalised entry.2 := by
  induction toSend with
  | nil => rfl
  | cons entry rest ih =>
    have first : (audienceEntry db secret tenantId footer entry).dict?.map EmailDispatchTool.recipientEmail =
        some (normalised entry.2) := by
      simp [audienceEntry, Json.dict?, EmailDispatchTool.recipientEmail, Dict.get?, str_str]
    unfold batchEmails at ih ⊢
    rw [List.map_cons, List.filterMap_cons, first, ih, List.map_cons]

def EmailPlan.SendsOnce (plan : EmailPlan) : Prop :=
  ∀ db answer batchId outcome, callEmail db plan answer batchId = some outcome →
    (outcome.handed.map EmailRecipient.email).Nodup

theorem triaged_nodup {existing recent capped : List String} {members : List AudienceMember}
    (distinct : ((members.map memberEmail).filter (· ≠ "")).Nodup) :
    ((triaged existing recent capped members .send).map fun entry => normalised entry.2).Nodup := by
  have same : (triaged existing recent capped members .send).map (fun entry => normalised entry.2) =
      (triaged existing recent capped members .send).map Prod.snd := by
    refine List.map_congr_left fun entry member => ?_
    obtain ⟨m, _, rfl⟩ := List.mem_map.mp (List.mem_of_mem_filter member)
    exact normalised_normalised _
  have addressed : ∀ email, triage existing recent capped email = .send → email ≠ "" := by
    intro email sends empty
    simp [triage, empty] at sends
  have filtered : (triaged existing recent capped members .send).map Prod.snd =
      ((members.map memberEmail).filter (· ≠ "")).filter (triage existing recent capped · = .send) := by
    unfold triaged
    rw [List.filter_filter, List.filter_map, List.map_map, List.filter_map]
    refine congrArg _ (List.filter_congr fun m _ => ?_)
    simpa using addressed (memberEmail m)
  rw [same, filtered]
  exact distinct.filter _

theorem loadAudienceMembers_distinct {db : Db} (distinct : DistinctAudiences db) (campaignId : Uuid) :
    (((loadAudienceMembers db campaignId).map memberEmail).filter (· ≠ "")).Nodup := by
  unfold loadAudienceMembers
  split
  · exact List.nodup_nil
  · rename_i audience newest
    have sorted := (List.perm_insertionSort (fun a b : Audience => b.createdAt ≤ a.createdAt)
      (db.audiences.filter (·.campaignId = campaignId))).mem_iff.mp (List.mem_of_head? newest)
    exact distinct audience (List.mem_of_mem_filter sorted)

/-- Over audiences with distinct addresses one dispatch repeats no address. -/
theorem planEmail_sendsOnce {db : Db} (distinct : DistinctAudiences db) {secret : String} {a : ContentAsset}
    {c : Campaign} {now : Int} {plan : EmailPlan} (planned : planEmail db secret a c now = .ok plan) :
    plan.SendsOnce := by
  simp only [planEmail, bind_eq_ok, pure_eq_ok] at planned
  obtain ⟨payload, _, _, _, ⟨members, assignments⟩, filtered, recipients, _, capped, _, _, _, message, _, rfl⟩ := planned
  have kept : members.Sublist (loadAudienceMembers db a.campaignId) :=
    filterAudienceForAbTest_sublist (mapError_eq_ok.mp filtered)
  have addresses := (loadAudienceMembers_distinct distinct a.campaignId).sublist ((kept.map memberEmail).filter _)
  intro db' answer batchId outcome called
  unfold callEmail at called
  split at called
  · simp at called
  · rw [← Option.some.inj called]
    refine List.Nodup.sublist (call_handed_sublist rfl) ?_
    rw [batchEmails_audience]
    exact triaged_nodup addresses

end Handover

end MarketingAgents
