import MarketingAgents.Tools.EmailDispatch

namespace MarketingAgents

open Lib PyText

namespace EmailDispatchTool

variable [PyText]

/-- The address is on the tenant's email suppression list. -/
def Suppressed (suppressions : List SuppressionEntry) (tenantId : Uuid) (address : String) : Prop :=
  ∃ entry ∈ suppressions, entry.tenantId = tenantId ∧ entry.channelPlatform = .email ∧
    lower entry.identifier = normalised address

/-- The batch names the address among its recipients. -/
def Addressed (inputs : Dict String Json) (address : String) : Prop :=
  ∃ rawRecipients fields, inputs.get? "audience_batch" = some (.arr rawRecipients) ∧
    Json.obj fields ∈ rawRecipients ∧ recipientEmail fields = normalised address

theorem suppressed_loaded {suppressions : List SuppressionEntry} {tenantId : Uuid} {address : String}
    {rawRecipients : List Json} {fields : Dict String Json} (listed : Suppressed suppressions tenantId address)
    (member : Json.obj fields ∈ rawRecipients) (same : recipientEmail fields = normalised address)
    (present : normalised address ≠ "") :
    normalised address ∈ loadSuppressedEmails suppressions tenantId (candidateEmails rawRecipients) := by
  obtain ⟨entry, entryMem, tenant, platform, identifier⟩ := listed
  have candidate : str ((fields.get? "email").getD (.str "")) ∈ candidateEmails rawRecipients :=
    List.mem_filterMap.mpr ⟨_, member, rfl⟩
  have nonempty : str ((fields.get? "email").getD (.str "")) ≠ "" := by
    intro empty
    rw [recipientEmail, empty, normalised_empty] at same
    exact present same.symm
  refine List.mem_map.mpr ⟨entry, List.mem_filter.mpr ⟨entryMem, ?_⟩, identifier⟩
  simp only [decide_eq_true_eq]
  refine ⟨tenant, platform, recipientEmail fields, List.mem_map_of_mem (List.mem_filter.mpr ⟨candidate, ?_⟩), ?_⟩
  · simpa using nonempty
  · rw [identifier, same, lower_normalised]

/-- A recipient of `audience_batch` that the tool passes on. -/
def Sendable (suppressed : List String) (r : Json) : Prop :=
  ∃ fields ∈ r.dict?, recipientEmail fields ≠ "" ∧ validateRecipient suppressed (recipientEmail fields) = none

/-- What becomes of a recipient that is not passed on. -/
def rejectionOf (suppressed : List String) (r : Json) : Option Rejection :=
  match r.dict? with
  | none => some ⟨str r, "invalid_shape"⟩
  | some fields =>
    if recipientEmail fields = "" then some ⟨"", "missing_email"⟩
    else (validateRecipient suppressed (recipientEmail fields)).map fun reason => ⟨recipientEmail fields, reason⟩

theorem rejectionOf_eq_none {suppressed : List String} {r : Json} : rejectionOf suppressed r = none ↔ Sendable suppressed r := by
  unfold rejectionOf Sendable
  cases r.dict? with
  | none => simp
  | some fields => by_cases empty : recipientEmail fields = "" <;> simp [empty]

/-- One pass of the loop sends to a recipient or keeps its rejection. -/
theorem sortRecipient_cases {suppressed : List String} {r : Json} {sorted : EmailRecipient ⊕ Rejection}
    (done : sortRecipient suppressed r = .ok sorted) :
    (∃ fields recipient, r.dict? = some fields ∧ sorted = .inl recipient ∧ recipient.email = recipientEmail fields ∧
      recipientEmail fields ≠ "" ∧ validateRecipient suppressed (recipientEmail fields) = none) ∨
    ∃ rejection, rejectionOf suppressed r = some rejection ∧ sorted = .inr rejection := by
  unfold sortRecipient at done
  unfold rejectionOf
  cases shape : r.dict? with
  | none =>
    rw [shape] at done
    cases done
    exact Or.inr ⟨_, rfl, rfl⟩
  | some fields =>
    rw [shape] at done
    dsimp only at done ⊢
    split at done
    · rename_i empty
      cases done
      exact Or.inr ⟨_, if_pos empty, rfl⟩
    · rename_i present
      rw [if_neg present]
      split at done
      · rename_i reason invalid
        cases done
        exact Or.inr ⟨_, congrArg (Option.map _) invalid, rfl⟩
      · rename_i valid
        simp only [bind_eq_ok, pure_eq_ok] at done
        obtain ⟨_, _, rfl⟩ := done
        exact Or.inl ⟨fields, _, rfl, rfl, rfl, present, valid⟩

/-- The loop passes on the present and valid addresses of a batch in their
order, and rejects the rest. -/
theorem sortRecipients_spec {suppressed : List String} {raw : List Json} {sends : List EmailRecipient}
    {rejections : List Rejection} (done : sortRecipients suppressed raw = .ok (sends, rejections)) :
    sends.map EmailRecipient.email = (raw.filterMap fun r => r.dict?.map recipientEmail).filter (fun email =>
        email ≠ "" ∧ validateRecipient suppressed email = none) ∧
      rejections = raw.filterMap (rejectionOf suppressed) := by
  induction raw generalizing sends rejections with
  | nil =>
    simp only [sortRecipients, pure_eq_ok, Prod.mk.injEq] at done
    rw [← done.1, ← done.2]
    exact ⟨rfl, rfl⟩
  | cons r raw ih =>
    simp only [sortRecipients, bind_eq_ok] at done
    obtain ⟨sorted, first, ⟨laterSends, laterRejections⟩, rest, value⟩ := done
    obtain ⟨emails, refused⟩ := ih rest
    rcases sortRecipient_cases first with ⟨fields, recipient, shape, rfl, email, present, valid⟩ | ⟨rejection, here, rfl⟩
    · have kept : rejectionOf suppressed r = none := rejectionOf_eq_none.mpr ⟨fields, shape, present, valid⟩
      simp only [pure_eq_ok, Prod.mk.injEq] at value
      rw [← value.1, ← value.2, List.filterMap_cons, shape, Option.map_some, List.filter_cons_of_pos (by simp [present, valid]),
        List.filterMap_cons_none kept, List.map_cons, email, emails]
      exact ⟨rfl, refused⟩
    · have dropped : ∀ fields, r.dict? = some fields →
          ¬ (recipientEmail fields ≠ "" ∧ validateRecipient suppressed (recipientEmail fields) = none) := by
        intro fields shape sendable
        rw [rejectionOf_eq_none.mpr ⟨fields, shape, sendable⟩] at here
        cases here
      simp only [pure_eq_ok, Prod.mk.injEq] at value
      rw [← value.1, ← value.2, List.filterMap_cons_some here, refused, emails, List.filterMap_cons]
      refine ⟨?_, rfl⟩
      cases shape : r.dict? with
      | none => rfl
      | some fields =>
        rw [Option.map_some, List.filter_cons_of_neg (by simpa using dropped fields shape)]

/-- What becomes of a recipient that is missing or suppressed. -/
def refusal (email : String) : Rejection := ⟨email, if email = "" then "missing_email" else "suppressed"⟩

theorem rejectionOf_refusal {suppressed : List String} {fields : Dict String Json}
    (listed : recipientEmail fields = "" ∨ recipientEmail fields ∈ suppressed) :
    rejectionOf suppressed (.obj fields) = some (refusal (recipientEmail fields)) := by
  have shape : (Json.obj fields).dict? = some fields := rfl
  rw [rejectionOf, shape, refusal]
  by_cases empty : recipientEmail fields = ""
  · simp [empty]
  · have inside := listed.resolve_left empty
    simp [empty, validateRecipient, inside]

theorem sortRecipients_sends {suppressed : List String} {raw : List Json} {sends : List EmailRecipient}
    {rejections : List Rejection} (done : sortRecipients suppressed raw = .ok (sends, rejections)) :
    ∀ sent ∈ sends, ∃ fields, Json.obj fields ∈ raw ∧ sent.email = recipientEmail fields ∧ sent.email ≠ "" ∧
      sent.email ∉ suppressed := by
  intro sent member
  have email : sent.email ∈ sends.map EmailRecipient.email := List.mem_map_of_mem member
  rw [(sortRecipients_spec done).1] at email
  obtain ⟨listed, sendable⟩ := List.mem_filter.mp email
  simp only [decide_eq_true_eq] at sendable
  obtain ⟨r, inside, isEmail⟩ := List.mem_filterMap.mp listed
  obtain ⟨fields, shape, same⟩ := Option.map_eq_some_iff.mp isEmail
  cases r with
  | obj entries =>
    cases shape
    refine ⟨fields, inside, same.symm, sendable.1, fun blocked => ?_⟩
    simp [validateRecipient, blocked] at sendable
  | _ => cases shape

theorem sortRecipients_rejects {suppressed : List String} {raw : List Json} {sends : List EmailRecipient}
    {rejections : List Rejection} (done : sortRecipients suppressed raw = .ok (sends, rejections))
    {fields : Dict String Json} (member : Json.obj fields ∈ raw)
    (listed : recipientEmail fields = "" ∨ recipientEmail fields ∈ suppressed) :
    refusal (recipientEmail fields) ∈ rejections := by
  rw [(sortRecipients_spec done).2]
  exact List.mem_filterMap.mpr ⟨_, member, rejectionOf_refusal listed⟩

/-- Whom a call leaves out: a transactional one nobody. -/
def suppressedIn (suppressions : List SuppressionEntry) (tenantId : Uuid) (inputs : Dict String Json) (raw : List Json) :
    List String :=
  if transactional inputs then [] else loadSuppressedEmails suppressions tenantId (candidateEmails raw)

theorem prepare_sorts {connector : EmailConnector} {suppressions : List SuppressionEntry} {tenantId : Uuid}
    {inputs : Dict String Json} {p : Prepared} (done : prepare connector suppressions tenantId inputs = .ok p) :
    ∃ raw, inputs.get? "audience_batch" = some (.arr raw) ∧
      sortRecipients (suppressedIn suppressions tenantId inputs raw) raw = .ok (p.sendPayload, p.rejections) := by
  simp only [prepare, bind_eq_ok, pure_eq_ok] at done
  obtain ⟨_, _, _, _, _, _, _, _, _, _, raw, batch, ⟨sends, rejections⟩, sorted, rfl⟩ := done
  refine ⟨raw, ?_, sorted⟩
  unfold audienceBatch at batch
  split at batch
  · rename_i value
    cases batch
    exact value
  · cases batch

theorem prepare_recipients {connector : EmailConnector} {suppressions : List SuppressionEntry} {tenantId : Uuid}
    {inputs : Dict String Json} {p : Prepared} (done : prepare connector suppressions tenantId inputs = .ok p)
    (marketing : transactional inputs = false) :
    ∃ raw, inputs.get? "audience_batch" = some (.arr raw) ∧
      sortRecipients (loadSuppressedEmails suppressions tenantId (candidateEmails raw)) raw =
        .ok (p.sendPayload, p.rejections) := by
  obtain ⟨raw, batch, sorted⟩ := prepare_sorts done
  rw [suppressedIn, if_neg (by simp [marketing])] at sorted
  exact ⟨raw, batch, sorted⟩

/-- A marketing send never hands a suppressed address to the provider; when
the call returns, the address is among its rejections. -/
theorem call_respects_suppression (connector : EmailConnector) {suppressions : List SuppressionEntry}
    {tenantId : Uuid} {address : String} (listed : Suppressed suppressions tenantId address) (batchId : Uuid)
    {inputs : Dict String Json} (marketing : transactional inputs = false) :
    let outcome := call connector suppressions tenantId batchId inputs
    (∀ sent ∈ outcome.handed, sent.email ≠ normalised address) ∧
    ∀ out, outcome.result = .ok out → Addressed inputs address → refusal (normalised address) ∈ out.rejections := by
  cases prepared : prepare connector suppressions tenantId inputs with
  | error error => simp [call, prepared]
  | ok p =>
    obtain ⟨raw, batch, sorted⟩ := prepare_recipients prepared marketing
    have withheld : ∀ sent ∈ p.sendPayload, sent.email ≠ normalised address := by
      intro sent member same
      obtain ⟨fields, inside, email, present, unlisted⟩ := sortRecipients_sends sorted sent member
      rw [same] at present unlisted email
      exact unlisted (suppressed_loaded listed inside email.symm present)
    have refused (addressed : Addressed inputs address) : refusal (normalised address) ∈ p.rejections := by
      obtain ⟨raw', fields, batch', inside, email⟩ := addressed
      rw [batch] at batch'
      cases batch'
      rw [← email]
      refine sortRecipients_rejects sorted inside ?_
      by_cases empty : recipientEmail fields = ""
      · exact Or.inl empty
      · rw [email] at empty ⊢
        exact Or.inr (suppressed_loaded listed inside email empty)
    have reported (results : List SendResult) (addressed : Addressed inputs address) :
        refusal (normalised address) ∈ (report batchId connector.provider p results).rejections :=
      List.mem_append_left _ (refused addressed)
    simp only [call, prepared]
    split
    · refine ⟨by simp, fun out value addressed => ?_⟩
      cases value
      exact reported [] addressed
    · split
      · exact ⟨withheld, by simp⟩
      · refine ⟨withheld, fun out value addressed => ?_⟩
        cases value
        exact reported _ addressed

end EmailDispatchTool

end MarketingAgents
