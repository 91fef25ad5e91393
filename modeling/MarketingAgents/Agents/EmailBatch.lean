import MarketingAgents.Agents.EmailReads

namespace MarketingAgents

open Lib PyText

section Handed

variable [PyText] {db : Db} {a : ContentAsset} {now : Int} {secret : String} {plan : EmailPlan}
  {connector : EmailConnector} {batchId : Uuid}

/-- The addresses a run passes to its connector, in their order. -/
def handedAddresses (connector : EmailConnector) (db : Db) (secret : String) (assetId batchId : Uuid) (now : Int) :
    List String :=
  match beginEmail db secret assetId now with
  | .ok (some plan) =>
    (callEmailBy connector db plan batchId).toList.flatMap fun outcome => outcome.handed.map EmailRecipient.email
  | _ => []

/-- The address would be passed on: the loop sends to it, and the tool has no objection. -/
def EmailReads.PassesOn (reads : EmailReads db a now) (email : String) : Prop :=
  reads.verdict email = .send ∧ ¬ EmailDispatchTool.Suppressed db.suppressions a.tenantId email ∧
    EmailDispatchTool.validateRecipient [] email = none

theorem validateRecipient_iff {suppressed : List String} {email : String} :
    EmailDispatchTool.validateRecipient suppressed email = none ↔
      email ∉ suppressed ∧ EmailDispatchTool.validateRecipient [] email = none := by
  unfold EmailDispatchTool.validateRecipient
  by_cases listed : email ∈ suppressed <;> simp [listed]

/-- On the batch of a plan the tool finds whom the loop sends to suppressed exactly if they are. -/
theorem EmailPlan.Follows.loaded_iff {reads : EmailReads db a now} {entry : AudienceMember × String} {footer : Option Json}
    (member : entry ∈ reads.listed .send) :
    entry.2 ∈ EmailDispatchTool.loadSuppressedEmails db.suppressions a.tenantId
        (EmailDispatchTool.candidateEmails ((reads.listed .send).map (audienceEntry db secret a.tenantId footer))) ↔
      EmailDispatchTool.Suppressed db.suppressions a.tenantId entry.2 := by
  obtain ⟨present, normal⟩ := EmailReads.listed_address (by decide) member
  constructor
  · intro loaded
    obtain ⟨stored, inside, identifier⟩ := List.mem_map.mp loaded
    obtain ⟨here, matching⟩ := List.mem_filter.mp inside
    simp only [decide_eq_true_eq] at matching
    exact ⟨stored, here, matching.1, matching.2.1, identifier.trans normal.symm⟩
  · intro suppressed
    have same : ∃ fields, Json.obj fields = audienceEntry db secret a.tenantId footer entry ∧
        EmailDispatchTool.recipientEmail fields = normalised entry.2 :=
      ⟨_, rfl, by simp [EmailDispatchTool.recipientEmail, Dict.get?, str_str]⟩
    obtain ⟨fields, isEntry, email⟩ := same
    have inside : Json.obj fields ∈ (reads.listed .send).map (audienceEntry db secret a.tenantId footer) := by
      rw [isEntry]
      exact List.mem_map_of_mem member
    have loaded := EmailDispatchTool.suppressed_loaded suppressed inside email (by rwa [normal])
    rwa [normal] at loaded

/-- What the tool makes of the batch: the addresses that pass on, in the order of the members. -/
theorem EmailPlan.Follows.sends {reads : EmailReads db a now} (follows : plan.Follows db secret reads)
    {p : EmailDispatchTool.Prepared}
    (prepared : EmailDispatchTool.prepare connector db.suppressions a.tenantId plan.toolInputs = .ok p) :
    ∃ passes : String → Bool, p.sendPayload.map EmailRecipient.email = (reads.members.map memberEmail).filter passes ∧
      ∀ m ∈ reads.members, passes (memberEmail m) = true ↔ reads.PassesOn (memberEmail m) := by
  obtain ⟨raw, batch, sorted⟩ := EmailDispatchTool.prepare_recipients prepared follows.marketing
  rw [follows.batch, follows.toSend] at batch
  cases batch
  have emails := (EmailDispatchTool.sortRecipients_spec sorted).1
  rw [← batchEmails, batchEmails_audience] at emails
  generalize listed : EmailDispatchTool.loadSuppressedEmails db.suppressions a.tenantId
    (EmailDispatchTool.candidateEmails ((reads.listed .send).map (audienceEntry db secret a.tenantId plan.footer))) = suppressed
    at emails
  have normal : (reads.listed .send).map (fun entry => normalised entry.2) =
      (reads.members.map memberEmail).filter fun email => reads.verdict email = .send := by
    rw [List.map_congr_left fun entry member => (EmailReads.listed_address (by decide) member).2, EmailReads.listed,
      triaged, List.filter_map, List.filter_map, List.map_map]
    rfl
  rw [normal, List.filter_filter] at emails
  refine ⟨_, emails, fun m member => ?_⟩
  simp only [Bool.and_eq_true, decide_eq_true_eq]
  constructor
  · rintro ⟨⟨_, valid⟩, sends⟩
    have entry : (m, memberEmail m) ∈ reads.listed .send := EmailReads.mem_listed.mpr ⟨member, rfl, sends⟩
    obtain ⟨free, valid⟩ := validateRecipient_iff.mp valid
    refine ⟨sends, fun isSuppressed => free ?_, valid⟩
    rw [← listed]
    exact (EmailPlan.Follows.loaded_iff entry).mpr isSuppressed
  · rintro ⟨sends, free, valid⟩
    have entry : (m, memberEmail m) ∈ reads.listed .send := EmailReads.mem_listed.mpr ⟨member, rfl, sends⟩
    refine ⟨⟨(EmailReads.listed_address (by decide) entry).1, validateRecipient_iff.mpr ⟨fun inside => free ?_, valid⟩⟩, sends⟩
    rw [← listed] at inside
    exact (EmailPlan.Follows.loaded_iff entry).mp inside

theorem call_handed {suppressions : List SuppressionEntry} {tenantId : Uuid} {inputs : Dict String Json}
    {p : EmailDispatchTool.Prepared} (prepared : EmailDispatchTool.prepare connector suppressions tenantId inputs = .ok p) :
    (EmailDispatchTool.call connector suppressions tenantId batchId inputs).handed = p.sendPayload := by
  unfold EmailDispatchTool.call
  rw [prepared]
  dsimp only
  split
  · rename_i none
    exact none.symm
  · split <;> rfl

/-- A batch that the tool refuses is passed on to no one. -/
theorem handedAddresses_refused {assetId : Uuid} {error : DispatchError}
    (begun : beginEmail db secret assetId now = .ok (some plan))
    (refused : EmailDispatchTool.prepare connector db.suppressions plan.asset.tenantId plan.toolInputs = .error error) :
    handedAddresses connector db secret assetId batchId now = [] := by
  simp only [handedAddresses, begun, callEmailBy]
  split
  · rfl
  · simp [EmailDispatchTool.call, refused]

/-- A run passes what the tool makes of its batch; without a batch that is nothing. -/
theorem EmailPlan.Follows.handed {assetId : Uuid} {reads : EmailReads db plan.asset now}
    (follows : plan.Follows db secret reads) (begun : beginEmail db secret assetId now = .ok (some plan))
    {p : EmailDispatchTool.Prepared}
    (prepared : EmailDispatchTool.prepare connector db.suppressions plan.asset.tenantId plan.toolInputs = .ok p) :
    handedAddresses connector db secret assetId batchId now = p.sendPayload.map EmailRecipient.email := by
  simp only [handedAddresses, begun, callEmailBy]
  split
  · rename_i empty
    obtain ⟨passes, emails, meaning⟩ := follows.sends prepared
    have none : (reads.members.map memberEmail).filter passes = [] := by
      refine List.filter_eq_nil_iff.mpr fun email listed passed => ?_
      obtain ⟨m, member, rfl⟩ := List.mem_map.mp listed
      have sends : (m, memberEmail m) ∈ reads.listed .send :=
        EmailReads.mem_listed.mpr ⟨member, rfl, ((meaning m member).mp passed).1⟩
      rw [← follows.toSend, empty] at sends
      cases sends
    rw [emails, none]
    rfl
  · simp [call_handed prepared]

/-- A run passes no address twice exactly where no two of the kept members share an
address that passes on, unless the tool refuses the batch as a whole. The look-ups
are made before the batch goes out, and neither sees the other of such a pair. -/
theorem one_message_per_address_iff (connector : EmailConnector) (db : Db) (secret : String) (assetId batchId : Uuid)
    (now : Int) :
    (handedAddresses connector db secret assetId batchId now).Nodup ↔
      ∀ plan p, beginEmail db secret assetId now = .ok (some plan) →
        EmailDispatchTool.prepare connector db.suppressions plan.asset.tenantId plan.toolInputs = .ok p →
        ∀ reads : EmailReads db plan.asset now,
          reads.members.Pairwise fun m m' => memberEmail m = memberEmail m' → ¬ reads.PassesOn (memberEmail m) := by
  cases begun : beginEmail db secret assetId now with
  | error error => simp [handedAddresses, begun]
  | ok found =>
    cases found with
    | none => simp [handedAddresses, begun]
    | some plan =>
      obtain ⟨a, _, reads, follows⟩ := beginEmail_follows begun
      have same := follows.asset
      subst same
      simp only [Except.ok.injEq, Option.some.injEq]
      cases prepared : EmailDispatchTool.prepare connector db.suppressions plan.asset.tenantId plan.toolInputs with
      | error error =>
        rw [handedAddresses_refused begun prepared]
        refine iff_of_true List.nodup_nil ?_
        rintro _ _ rfl accepted
        rw [prepared] at accepted
        cases accepted
      | ok p =>
        obtain ⟨passes, emails, meaning⟩ := follows.sends prepared
        have alike : reads.members.Pairwise (fun m m' => memberEmail m = memberEmail m' → ¬ passes (memberEmail m) = true) ↔
            reads.members.Pairwise fun m m' => memberEmail m = memberEmail m' → ¬ reads.PassesOn (memberEmail m) :=
          List.Pairwise.iff_of_mem fun {m m'} here _ => by rw [meaning m here]
        rw [follows.handed begun prepared, emails, nodup_filter_map_iff, alike]
        constructor
        · rintro apart _ _ rfl _ other
          rwa [other.unique reads]
        · intro each
          exact each plan p rfl prepared reads

end Handed

namespace Dispatches

local instance batchText : PyText := PyText.plain

/-- The connector of the shop; SendGrid takes the batch and names the message in its header. -/
def shopProvider (messageId : String) : EmailConnector :=
  sendgridConnector [("api_key", .str "key"), ("default_from_email", .str "news@shop.io")] (.response 202 "" messageId)

/-- Two members write one address: it is passed to the provider twice. -/
theorem shared_address_is_sent_twice :
    ¬ (handedAddresses (shopProvider "m1") (shop [ann, bob, ("annie", ann.2)]) "secret" 3 90 0).Nodup := by
  decide +kernel

end Dispatches

end MarketingAgents
