import MarketingAgents.Agents.EmailAccounting

namespace MarketingAgents

open Lib PyText

/-- The provider gave an id for the message. -/
def SendResult.Identified (res : SendResult) : Prop := ∃ id ∈ res.providerMessageId, id ≠ ""

instance (res : SendResult) : Decidable res.Identified :=
  inferInstanceAs (Decidable (∃ id ∈ res.providerMessageId, id ≠ ""))

/-- The id to be filed for an address: the last that was given with an accepted message to it. -/
def filedId [PyText] (results : List SendResult) (email : String) : Option String :=
  (results.reverse.find? fun res => res.accepted ∧ res.Identified ∧ lower res.email = email).bind
    SendResult.providerMessageId

section Answers

variable {results : List SendResult}

/-- The ids of a report are those given with what was accepted. -/
theorem mem_readResults {entry : String × String} : entry ∈ (EmailDispatchTool.readResults results).1 ↔
    ∃ res ∈ results, res.accepted = true ∧ res.email = entry.1 ∧ res.providerMessageId = some entry.2 ∧ entry.2 ≠ "" := by
  simp only [EmailDispatchTool.readResults, List.mem_filterMap]
  refine exists_congr fun res => and_congr_right fun _ => ?_
  by_cases accepted : res.accepted = true
  · rw [if_pos accepted]
    split
    · rename_i empty
      refine iff_of_false (by simp) ?_
      rintro ⟨_, _, given, present⟩
      exact present (Option.some.inj (empty.symm.trans given)).symm
    · rename_i none
      simp [none]
    · rename_i id present given
      simp only [given, Option.some.injEq, accepted, true_and, Prod.ext_iff]
      constructor
      · rintro ⟨email, rfl⟩
        exact ⟨email, rfl, present⟩
      · rintro ⟨email, rfl, _⟩
        exact ⟨email, rfl⟩
  · simp [accepted]

/-- What the report says of each answer. -/
theorem readResults_ids : (EmailDispatchTool.readResults results).1 = results.filterMap fun res =>
    if res.accepted ∧ res.Identified then res.providerMessageId.map (res.email, ·) else none := by
  refine List.filterMap_congr fun res _ => ?_
  by_cases accepted : res.accepted = true
  · rw [if_pos accepted]
    split
    · rename_i empty
      rw [if_neg]
      rintro ⟨_, id, given, present⟩
      exact present (Option.some.inj (given.symm.trans empty))
    · rename_i absent
      rw [absent, Option.map_none, ite_self]
    · rename_i id present given
      rw [if_pos ⟨accepted, id, given, present⟩, given, Option.map_some]
  · rw [if_neg accepted, if_neg fun both => accepted both.1]

/-- The last entry of a report for an address has its id. -/
theorem readResults_filed [PyText] (email : String) :
    ((EmailDispatchTool.readResults results).1.reverse.find? fun entry => lower entry.1 = email).map Prod.snd =
      filedId results email := by
  rw [readResults_ids, filedId, ← List.filterMap_reverse, List.find?_filterMap, Option.map_bind]
  have same : ∀ res : SendResult, ((if res.accepted ∧ res.Identified then res.providerMessageId.map (res.email, ·)
      else none).any fun entry => decide (lower entry.1 = email)) =
        decide (res.accepted ∧ res.Identified ∧ lower res.email = email) := by
    intro res
    by_cases identified : res.accepted = true ∧ res.Identified
    · obtain ⟨accepted, id, given, present⟩ := identified
      rw [if_pos ⟨accepted, id, given, present⟩, Option.mem_def.mp given]
      have named : res.Identified := ⟨id, given, present⟩
      simp [accepted, named]
    · rw [if_neg identified, Option.any_none, eq_comm, decide_eq_false_iff_not]
      exact fun all => identified ⟨all.1, all.2.1⟩
  simp only [same]
  cases found : results.reverse.find? fun res => decide (res.accepted ∧ res.Identified ∧ lower res.email = email) with
  | none => rfl
  | some res =>
    have hit := List.find?_some found
    simp only [decide_eq_true_eq] at hit
    simp only [Option.bind_some, Function.comp_apply, if_pos (And.intro hit.1 hit.2.1), Option.map_map]
    cases res.providerMessageId <;> rfl

theorem readResults_refused_nil :
    (EmailDispatchTool.readResults results).2 = [] ↔ ∀ res ∈ results, res.accepted = true := by
  simp only [EmailDispatchTool.readResults, List.filterMap_eq_nil_iff]
  refine forall₂_congr fun res _ => ?_
  by_cases accepted : res.accepted = true <;> simp [accepted]

theorem readResults_ids_length : (EmailDispatchTool.readResults results).1.length =
    results.countP fun res => res.accepted ∧ res.Identified := by
  induction results with
  | nil => rfl
  | cons res results ih =>
    simp only [EmailDispatchTool.readResults] at ih ⊢
    rw [List.filterMap_cons, List.countP_cons, ← ih]
    by_cases accepted : res.accepted = true
    · rw [if_pos accepted]
      split
      · rename_i none
        have unidentified : ¬ res.Identified := by
          rintro ⟨id, given, present⟩
          split at none
          · rename_i empty
            cases empty.symm.trans given
            exact present rfl
          · rename_i absent
            cases absent.symm.trans given
          · cases none
        simp [unidentified]
      · rename_i entry some
        have identified : res.Identified := by
          split at some
          · cases some
          · cases some
          · rename_i id present given
            exact ⟨id, given, present⟩
        simp [accepted, identified]
    · simp [accepted]

end Answers

section Call

variable [PyText]

/-- A call that passes a batch to the provider, which answers for each recipient. -/
structure AnsweredCall (connector : EmailConnector) (suppressions : List SuppressionEntry) (tenantId : Uuid)
    (inputs : Dict String Json) where
  raw : List Json
  p : EmailDispatchTool.Prepared
  results : List SendResult
  batch : inputs.get? "audience_batch" = some (.arr raw)
  prepared : EmailDispatchTool.prepare connector suppressions tenantId inputs = .ok p
  handed : p.sendPayload ≠ []
  answer : connector.sendBatch p.fromEmail p.message p.sendPayload = .ok results
  perRecipient : results.map SendResult.email = p.sendPayload.map EmailRecipient.email

variable {connector : EmailConnector} {suppressions : List SuppressionEntry} {tenantId : Uuid}
  {inputs : Dict String Json}

/-- The call on the inputs, where it gets that far. -/
def AnsweredCall.of? (connector : EmailConnector) (suppressions : List SuppressionEntry) (tenantId : Uuid)
    (inputs : Dict String Json) : Option (AnsweredCall connector suppressions tenantId inputs) :=
  match batch : inputs.get? "audience_batch", prepared : EmailDispatchTool.prepare connector suppressions tenantId inputs with
  | some (.arr raw), .ok p =>
    match answer : connector.sendBatch p.fromEmail p.message p.sendPayload with
    | .ok results =>
      if each : p.sendPayload ≠ [] ∧ results.map SendResult.email = p.sendPayload.map EmailRecipient.email then
        some ⟨raw, p, results, batch, prepared, each.1, answer, each.2⟩
      else none
    | .error _ => none
  | _, _ => none

/-- The report of the call. -/
def AnsweredCall.result (call : AnsweredCall connector suppressions tenantId inputs) (batchId : Uuid) : DispatchResult :=
  EmailDispatchTool.report batchId connector.provider call.p call.results

theorem AnsweredCall.returns (call : AnsweredCall connector suppressions tenantId inputs) (batchId : Uuid) :
    (EmailDispatchTool.call connector suppressions tenantId batchId inputs).result = .ok (call.result batchId) := by
  unfold EmailDispatchTool.call
  rw [call.prepared]
  dsimp only
  rw [if_neg call.handed, call.answer]
  rfl

theorem sortRecipients_rejections_nil {suppressed : List String} {raw : List Json} {sends : List EmailRecipient}
    {rejections : List Rejection} (sorted : EmailDispatchTool.sortRecipients suppressed raw = .ok (sends, rejections)) :
    rejections = [] ↔ ∀ r ∈ raw, EmailDispatchTool.Sendable suppressed r := by
  rw [(EmailDispatchTool.sortRecipients_spec sorted).2, List.filterMap_eq_nil_iff]
  exact forall₂_congr fun r _ => EmailDispatchTool.rejectionOf_eq_none

theorem AnsweredCall.ids_nil_iff (call : AnsweredCall connector suppressions tenantId inputs) :
    (EmailDispatchTool.readResults call.results).1 = [] ↔ ∀ res ∈ call.results, ¬ (res.accepted ∧ res.Identified) := by
  rw [← List.length_eq_zero_iff, readResults_ids_length, List.countP_eq_zero]
  simp only [decide_eq_true_eq]

theorem AnsweredCall.rejections_nil_iff (call : AnsweredCall connector suppressions tenantId inputs) :
    call.p.rejections ++ (EmailDispatchTool.readResults call.results).2 = [] ↔
      (∀ r ∈ call.raw, EmailDispatchTool.Sendable (EmailDispatchTool.suppressedIn suppressions tenantId inputs call.raw) r) ∧
        ∀ res ∈ call.results, res.accepted := by
  obtain ⟨raw, batch, sorted⟩ := EmailDispatchTool.prepare_sorts call.prepared
  cases Option.some.inj (batch.symm.trans call.batch)
  rw [List.append_eq_nil_iff, sortRecipients_rejections_nil sorted, readResults_refused_nil]

/-- `accepted_count` is the number of the accepted recipients exactly where each
of them has an id, or nobody was refused and no one has an id. -/
theorem AnsweredCall.acceptedCount_iff (call : AnsweredCall connector suppressions tenantId inputs) (batchId : Uuid) :
    (call.result batchId).acceptedCount = call.results.countP SendResult.accepted ↔
      (∀ res ∈ call.results, res.accepted → res.Identified) ∨
        (∀ r ∈ call.raw,
            EmailDispatchTool.Sendable (EmailDispatchTool.suppressedIn suppressions tenantId inputs call.raw) r) ∧
          ∀ res ∈ call.results, res.accepted ∧ ¬ res.Identified := by
  have each : call.results.length = call.p.sendPayload.length := by
    simpa using congrArg List.length call.perRecipient
  have value : (call.result batchId).acceptedCount =
      if (EmailDispatchTool.readResults call.results).1 = [] ∧ call.p.sendPayload ≠ [] ∧
        call.p.rejections ++ (EmailDispatchTool.readResults call.results).2 = [] then call.p.sendPayload.length
      else (EmailDispatchTool.readResults call.results).1.length := rfl
  rw [value]
  split
  · -- the count falls back to the size of the batch
    rename_i fallback
    rw [call.ids_nil_iff, call.rejections_nil_iff] at fallback
    obtain ⟨unidentified, _, sendable, accepted⟩ := fallback
    refine iff_of_true ?_ (Or.inr ⟨sendable, fun res member =>
      ⟨accepted res member, fun identified => unidentified res member ⟨accepted res member, identified⟩⟩⟩)
    rw [← each, eq_comm, List.countP_eq_length]
    exact accepted
  · rename_i regular
    rw [call.ids_nil_iff, call.rejections_nil_iff] at regular
    have counted : (EmailDispatchTool.readResults call.results).1.length = call.results.countP SendResult.accepted ↔
        ∀ res ∈ call.results, res.accepted → res.Identified := by
      have both : (fun res : SendResult => decide (res.accepted ∧ res.Identified)) =
          fun res : SendResult => decide res.Identified && res.accepted := by
        funext res
        rw [Bool.decide_and, Bool.decide_eq_true, Bool.and_comm]
      rw [readResults_ids_length, both, ← List.countP_filter, List.countP_eq_length_filter (p := SendResult.accepted),
        List.countP_eq_length]
      simp only [List.mem_filter, decide_eq_true_eq, and_imp]
    rw [counted]
    refine ⟨Or.inl, fun either => either.resolve_right fun ⟨sendable, all⟩ => regular ?_⟩
    exact ⟨fun res member both => (all res member).2 both.2, call.handed, sendable, fun res member => (all res member).1⟩

end Call

section Dispatch

variable [PyText] {db db' : Db} {a : ContentAsset} {secret : String} {plan : EmailPlan} {connector : EmailConnector}
  {started now : Int}

theorem verdictOf_sent {result : DispatchResult} {email : String} :
    (verdictOf result email).status = .sent ↔ ∃ entry ∈ result.perMessageIds, lower entry.1 = email := by
  unfold verdictOf
  cases found : result.perMessageIds.reverse.find? fun entry => lower entry.1 = email with
  | some entry =>
    have address : lower entry.1 = email := by simpa using List.find?_some found
    exact iff_of_true rfl ⟨entry, List.mem_reverse.mp (List.mem_of_find?_eq_some found), address⟩
  | none =>
    have absent : ¬ ∃ entry ∈ result.perMessageIds, lower entry.1 = email := by
      rintro ⟨entry, member, address⟩
      have none := List.find?_eq_none.mp found entry (List.mem_reverse.mpr member)
      simp [address] at none
    refine iff_of_false (fun sent => ?_) absent
    dsimp only at sent
    split at sent
    · rename_i rejection _
      by_cases suppressed : rejection.reason = "suppressed" <;> simp [Verdict.status, suppressed] at sent
    · cases sent

theorem verdictAttempt_columns (plan : EmailPlan) (now : Int) (entry : AudienceMember × String) (verdict : Verdict) :
    (verdictAttempt plan now entry verdict).status = verdict.status ∧
      (verdictAttempt plan now entry verdict).tenantId = plan.asset.tenantId ∧
      (verdictAttempt plan now entry verdict).idempotencyKey = idempotencyKey plan.asset.id entry.2 := by
  cases verdict <;> exact ⟨rfl, rfl, rfl⟩

theorem idempotencyKey_address {id : Uuid} {email email' : String}
    (same : idempotencyKey id email = idempotencyKey id email') : lower email = lower email' := by
  have letters := congrArg String.toList same
  simp only [idempotencyKey, String.toList_append] at letters
  exact String.toList_inj.mp (List.append_cancel_left letters)

/-- The first call on the key of an address that is sent to says what the report says of the address. -/
theorem EmailPlan.Follows.first_attempt {reads : EmailReads db a started} (follows : plan.Follows db secret reads)
    {entry : AudienceMember × String} (sends : entry ∈ plan.toSend) (result : DispatchResult) (now : Int) :
    ∃ first ∈ (emailAttempts plan (some result) now).find?
        (·.under plan.asset.tenantId (idempotencyKey plan.asset.id entry.2)),
      first.status = (verdictOf result entry.2).status := by
  have listed : entry ∈ reads.listed .send := follows.toSend ▸ sends
  have address : ∀ {other : AudienceMember × String} {verdict : Triage}, verdict ≠ .skip → other ∈ reads.listed verdict →
      idempotencyKey plan.asset.id other.2 = idempotencyKey plan.asset.id entry.2 → other.2 = entry.2 := by
    intro other verdict handled member same
    have normal : ∀ {email : String}, normalised email = email → lower email = email := fun {email} normal => by
      rw [← normal, lower_normalised]
    rw [← normal (EmailReads.listed_address handled member).2,
      ← normal (EmailReads.listed_address (by decide) listed).2]
    exact idempotencyKey_address same
  cases found : (emailAttempts plan (some result) now).find?
      (·.under plan.asset.tenantId (idempotencyKey plan.asset.id entry.2)) with
  | none =>
    have recorded : verdictAttempt plan now entry (verdictOf result entry.2) ∈ emailAttempts plan (some result) now :=
      List.mem_append_right _ (List.mem_map_of_mem sends)
    obtain ⟨_, tenant, key⟩ := verdictAttempt_columns plan now entry (verdictOf result entry.2)
    exact absurd (DispatchAttempt.under_iff.mpr ⟨tenant, key⟩) (List.find?_eq_none.mp found _ recorded)
  | some first =>
    refine ⟨first, rfl, ?_⟩
    have key := (DispatchAttempt.under_iff.mp (List.find?_some found)).2
    rcases List.mem_append.mp (List.mem_of_find?_eq_some found) with skipped | attempted
    · -- whoever is capped is not sent to
      obtain ⟨other, member, rfl⟩ := List.mem_map.mp skipped
      rw [follows.capped] at member
      have same := address (by decide) member key
      have cap := (EmailReads.mem_listed.mp member).2.2
      rw [same, (EmailReads.mem_listed.mp listed).2.2] at cap
      cases cap
    · obtain ⟨other, member, rfl⟩ := List.mem_map.mp attempted
      obtain ⟨status, _, named⟩ := verdictAttempt_columns plan now other (verdictOf result other.2)
      rw [follows.toSend] at member
      rw [status, address (by decide) member (named.symm.trans key)]

/-- Whoever the provider accepts is counted by the tool, is counted as sent by
the handler, and has a sent row for the asset once the handler is through. -/
structure AcceptedRecorded (plan : EmailPlan) (results : List SendResult) (result : DispatchResult)
    (outcome : Except HandlerError Db) : Prop where
  counted : result.acceptedCount = results.countP SendResult.accepted
  sent : ∀ res ∈ results, res.accepted →
    ∃ entry ∈ plan.toSend, entry.2 = res.email ∧ (verdictOf result entry.2).status = .sent
  recorded : ∀ res ∈ results, res.accepted → ∃ db', outcome = .ok db' ∧ ∃ row ∈ db'.dispatchAttempts,
    row.under plan.asset.tenantId (idempotencyKey plan.asset.id res.email) ∧ row.status = .sent

/-- The ledger takes a sent row under the key: it has none there yet, or a sent one. -/
def Unhindered (rows : List DispatchAttempt) (tenantId : Uuid) (key : String) : Prop :=
  (∃ row ∈ rows, row.under tenantId key ∧ row.status = .sent) ∨ ∀ row ∈ rows, ¬ row.under tenantId key

theorem AnsweredCall.toSend {reads : EmailReads db plan.asset started} (follows : plan.Follows db secret reads)
    (call : AnsweredCall connector db.suppressions plan.asset.tenantId plan.toolInputs) {res : SendResult}
    (answered : res ∈ call.results) : ∃ entry ∈ plan.toSend, entry.2 = res.email ∧ lower res.email = res.email := by
  obtain ⟨passes, emails, meaning⟩ := follows.sends call.prepared
  have email : res.email ∈ (reads.members.map memberEmail).filter passes := by
    rw [← emails, ← call.perRecipient]
    exact List.mem_map_of_mem answered
  obtain ⟨inside, passed⟩ := List.mem_filter.mp email
  obtain ⟨m, member, address⟩ := List.mem_map.mp inside
  rw [← address] at passed ⊢
  have sends : (m, memberEmail m) ∈ reads.listed .send :=
    EmailReads.mem_listed.mpr ⟨member, rfl, ((meaning m member).mp passed).1⟩
  exact ⟨_, follows.toSend ▸ sends, rfl, memberEmail_normal m⟩

/-- The handler commits what the report of the call says. -/
theorem AnsweredCall.finishes {reads : EmailReads db plan.asset started} (follows : plan.Follows db secret reads)
    (call : AnsweredCall connector db.suppressions plan.asset.tenantId plan.toolInputs) (batchId : Uuid) :
    finishEmail db plan (callEmailBy connector db plan batchId) now =
      (commitEmail db plan (some (call.result batchId)) now).mapError .app := by
  have some : plan.toSend ≠ [] := by
    obtain ⟨recipient, others, payload⟩ := List.exists_cons_of_ne_nil call.handed
    have answered : call.results ≠ [] := fun empty => by
      have emails := call.perRecipient
      rw [empty, payload] at emails
      cases emails
    obtain ⟨res, rest, shape⟩ := List.exists_cons_of_ne_nil answered
    obtain ⟨entry, member, _⟩ := call.toSend follows (shape ▸ List.mem_cons_self : res ∈ call.results)
    exact List.ne_nil_of_mem member
  rw [callEmailBy, if_neg some, finishEmail, call.returns]

/-- The columns of the ledger take the keys of all who are sent to, and the ids to be filed for them. -/
def Ledgerable (plan : EmailPlan) (results : List SendResult) : Prop :=
  ∀ entry ∈ plan.toSend, (idempotencyKey plan.asset.id entry.2).length ≤ idempotencyKeyWidth ∧
    ∀ id ∈ filedId results entry.2, id.length ≤ providerMessageIdWidth

instance (plan : EmailPlan) (results : List SendResult) : Decidable (Ledgerable plan results) :=
  inferInstanceAs (Decidable (∀ entry ∈ plan.toSend, (idempotencyKey plan.asset.id entry.2).length ≤ idempotencyKeyWidth ∧
    ∀ id ∈ filedId results entry.2, id.length ≤ providerMessageIdWidth))

theorem verdictAttempt_fits (plan : EmailPlan) (now : Int) (entry : AudienceMember × String) (result : DispatchResult) :
    (verdictAttempt plan now entry (verdictOf result entry.2)).Fits ↔
      (idempotencyKey plan.asset.id entry.2).length ≤ idempotencyKeyWidth ∧
        ∀ id ∈ (result.perMessageIds.reverse.find? fun reported => lower reported.1 = entry.2).map Prod.snd,
          id.length ≤ providerMessageIdWidth := by
  unfold verdictOf
  cases result.perMessageIds.reverse.find? fun reported => lower reported.1 = entry.2 with
  | some reported => simp [DispatchAttempt.Fits, verdictAttempt, emailAttempt]
  | none =>
    cases result.rejections.reverse.find? fun refused => lower refused.email = entry.2 with
    | some refused => simp [DispatchAttempt.Fits, verdictAttempt, emailAttempt]
    | none => simp [DispatchAttempt.Fits, verdictAttempt, emailAttempt]

/-- The rows of the capped have been written before the call, so those of the report decide. -/
theorem AnsweredCall.fits_iff {reads : EmailReads db plan.asset started} (follows : plan.Follows db secret reads)
    (call : AnsweredCall connector db.suppressions plan.asset.tenantId plan.toolInputs) (batchId : Uuid) :
    (∀ row ∈ emailAttempts plan (some (call.result batchId)) now, row.Fits) ↔ Ledgerable plan call.results := by
  have filed : ∀ email,
      ((call.result batchId).perMessageIds.reverse.find? fun reported => lower reported.1 = email).map Prod.snd =
      filedId call.results email := readResults_filed
  have skipped : ∀ row ∈ plan.capped.map (fun entry => emailAttempt plan entry .skipped none (some "frequency_cap") none),
      row.Fits := by
    intro row member
    obtain ⟨entry, capped, rfl⟩ := List.mem_map.mp member
    exact ⟨follows.fitted entry capped, by simp [emailAttempt]⟩
  simp only [emailAttempts, List.forall_mem_append, List.forall_mem_map, verdictAttempt_fits, filed, Ledgerable]
  exact and_iff_right (List.forall_mem_map.mp skipped)

/-- The handler goes through exactly where the ledger takes its rows. -/
theorem AnsweredCall.commits_iff {reads : EmailReads db plan.asset started} (follows : plan.Follows db secret reads)
    (call : AnsweredCall connector db.suppressions plan.asset.tenantId plan.toolInputs) (batchId : Uuid) :
    (∃ db', finishEmail db plan (callEmailBy connector db plan batchId) now = .ok db') ↔ Ledgerable plan call.results := by
  rw [call.finishes follows, ← call.fits_iff follows batchId]
  constructor
  · rintro ⟨db', done⟩
    exact (commitEmail_eq_ok.mp (mapError_eq_ok.mp done)).1
  · intro fits
    exact ⟨_, mapError_eq_ok.mpr (commitEmail_eq_ok.mpr ⟨fits, maybeGoLive_eq _ _ _⟩)⟩

/-- The count holds the accepted recipients exactly where each has an id, or
nobody was refused and no one has an id. A dispatch records the accepted
exactly where each has an id, no row of another status stands in its place, and
the columns of the ledger take the whole batch. -/
theorem accepted_recorded_iff (connector : EmailConnector) (batchId : Uuid) :
    (∀ suppressions tenantId inputs, ∀ call : AnsweredCall connector suppressions tenantId inputs,
      (call.result batchId).acceptedCount = call.results.countP SendResult.accepted ↔
        (∀ res ∈ call.results, res.accepted → res.Identified) ∨
          (∀ r ∈ call.raw,
              EmailDispatchTool.Sendable (EmailDispatchTool.suppressedIn suppressions tenantId inputs call.raw) r) ∧
            ∀ res ∈ call.results, res.accepted ∧ ¬ res.Identified) ∧
      ∀ (db : Db) (secret : String) (assetId : Uuid) (started now : Int) (plan : EmailPlan)
        (call : AnsweredCall connector db.suppressions plan.asset.tenantId plan.toolInputs),
        beginEmail db secret assetId started = .ok (some plan) →
        (AcceptedRecorded plan call.results (call.result batchId)
            (finishEmail db plan (callEmailBy connector db plan batchId) now) ↔
          ∀ res ∈ call.results, res.accepted → res.Identified ∧
            Unhindered db.dispatchAttempts plan.asset.tenantId (idempotencyKey plan.asset.id res.email) ∧
            Ledgerable plan call.results) := by
  refine ⟨fun suppressions tenantId inputs call => call.acceptedCount_iff batchId, ?_⟩
  intro db secret assetId started now plan call begun
  obtain ⟨a, _, reads, follows⟩ := beginEmail_follows begun
  have same := follows.asset
  subst same
  have written : ∀ {db'}, finishEmail db plan (callEmailBy connector db plan batchId) now = .ok db' →
      db'.dispatchAttempts =
        (emailAttempts plan (some (call.result batchId)) now).foldl upsertDispatchAttempt db.dispatchAttempts := by
    intro db' done
    rw [call.finishes follows] at done
    exact (maybeGoLive_ledger (commitEmail_eq_ok.mp (mapError_eq_ok.mp done)).2).1
  have acknowledged : ∀ {email : String}, (verdictOf (call.result batchId) email).status = .sent ↔
      ∃ res ∈ call.results, res.accepted ∧ res.Identified ∧ lower res.email = email := by
    intro email
    rw [verdictOf_sent]
    constructor
    · rintro ⟨entry, member, address⟩
      obtain ⟨res, answered, accepted, same, given, present⟩ := mem_readResults.mp member
      exact ⟨res, answered, accepted, ⟨_, given, present⟩, same ▸ address⟩
    · rintro ⟨res, answered, accepted, ⟨id, given, present⟩, address⟩
      exact ⟨(res.email, id), mem_readResults.mpr ⟨res, answered, accepted, rfl, given, present⟩, address⟩
  constructor
  · intro holds res answered accepted
    obtain ⟨db', done, row⟩ := holds.recorded res answered accepted
    refine ⟨?_, ?_, (call.commits_iff follows batchId).mp ⟨db', done⟩⟩
    · rcases (call.acceptedCount_iff batchId).mp holds.counted with identified | ⟨_, unidentified⟩
      · exact identified res answered accepted
      · obtain ⟨entry, _, _, sent⟩ := holds.sent res answered accepted
        obtain ⟨other, there, _, identified, _⟩ := acknowledged.mp sent
        exact absurd identified (unidentified other there).2
    · rw [written done] at row
      rcases (upserts_sent_iff _ _).mp row with stored | ⟨fresh, _⟩
      · exact Or.inl stored
      · exact Or.inr fresh
  · intro each
    have sent : ∀ res ∈ call.results, res.accepted →
        ∃ entry ∈ plan.toSend, entry.2 = res.email ∧ (verdictOf (call.result batchId) entry.2).status = .sent := by
      intro res answered accepted
      obtain ⟨entry, member, address, normal⟩ := call.toSend follows answered
      refine ⟨entry, member, address, acknowledged.mpr ⟨res, answered, accepted, (each res answered accepted).1, ?_⟩⟩
      rw [normal, address]
    refine ⟨(call.acceptedCount_iff batchId).mpr (Or.inl fun res answered accepted => (each res answered accepted).1),
      sent, fun res answered accepted => ?_⟩
    obtain ⟨_, unhindered, ledgerable⟩ := each res answered accepted
    obtain ⟨db', done⟩ : ∃ db', finishEmail db plan (callEmailBy connector db plan batchId) now = .ok db' :=
      (call.commits_iff follows batchId).mpr ledgerable
    refine ⟨db', done, ?_⟩
    rw [written done]
    refine (upserts_sent_iff _ _).mpr (unhindered.imp_right fun fresh => ⟨fresh, ?_⟩)
    obtain ⟨entry, member, address, isSent⟩ := sent res answered accepted
    obtain ⟨first, found, status⟩ := follows.first_attempt member (call.result batchId) now
    rw [address] at found
    exact ⟨first, found, status.trans isSent⟩

end Dispatch

namespace Dispatches

local instance acceptanceText : PyText := PyText.plain

/-- Without a name for the message the tool counts the recipient as accepted,
and the handler counts it as rejected and records a failure. -/
theorem accepted_without_id_fails :
    ∃ plan db', beginEmail (shop [ann]) "secret" 3 0 = .ok (some plan) ∧
      finishEmail (shop [ann]) plan (callEmailBy (shopProvider "") (shop [ann]) plan 90) 0 = .ok db' ∧
      ∃ call : AnsweredCall (shopProvider "") (shop [ann]).suppressions plan.asset.tenantId plan.toolInputs,
        (∀ res ∈ call.results, res.accepted) ∧ (call.result 90).acceptedCount = 1 ∧
          countStatus plan (some (call.result 90)) [.rejected, .failed] = 1 ∧
          db'.dispatchAttempts.map DispatchAttempt.status = [.failed] ∧
          ¬ AcceptedRecorded plan call.results (call.result 90) (.ok db') := by
  have read : ∃ plan ∈ (beginEmail (shop [ann]) "secret" 3 0).toOption.join,
      ∃ db' ∈ (finishEmail (shop [ann]) plan (callEmailBy (shopProvider "") (shop [ann]) plan 90) 0).toOption,
      ∃ call ∈ AnsweredCall.of? (shopProvider "") (shop [ann]).suppressions plan.asset.tenantId plan.toolInputs,
        (∀ res ∈ call.results, res.accepted) ∧ call.results ≠ [] ∧ (call.result 90).acceptedCount = 1 ∧
          countStatus plan (some (call.result 90)) [.rejected, .failed] = 1 ∧
          db'.dispatchAttempts.map DispatchAttempt.status = [.failed] := by decide +kernel
  obtain ⟨plan, planned, db', finished, call, _, accepted, some, count, rejected, statuses⟩ := read
  refine ⟨plan, db', ok_some_of_mem planned, ok_of_mem finished, call, accepted, count, rejected, statuses, fun holds => ?_⟩
  obtain ⟨res, rest, shape⟩ := List.exists_cons_of_ne_nil some
  have answered : res ∈ call.results := shape ▸ List.mem_cons_self
  obtain ⟨_, same, row, stored, _, sent⟩ := holds.recorded res answered (accepted res answered)
  cases same
  have failed : row.status ∈ db'.dispatchAttempts.map DispatchAttempt.status := List.mem_map_of_mem stored
  rw [statuses, sent] at failed
  simp at failed

/-- With a name for it, ann is counted and recorded. -/
theorem accepted_recorded_iff_named :
    ∃ plan, beginEmail (shop [ann]) "secret" 3 0 = .ok (some plan) ∧
      ∃ call : AnsweredCall (shopProvider "m1") (shop [ann]).suppressions plan.asset.tenantId plan.toolInputs,
        (call.result 90).acceptedCount = call.results.countP SendResult.accepted ∧ call.results ≠ [] ∧
          AcceptedRecorded plan call.results (call.result 90)
            (finishEmail (shop [ann]) plan (callEmailBy (shopProvider "m1") (shop [ann]) plan 90) 0) := by
  have read : ∃ plan ∈ (beginEmail (shop [ann]) "secret" 3 0).toOption.join,
      ∃ call ∈ AnsweredCall.of? (shopProvider "m1") (shop [ann]).suppressions plan.asset.tenantId plan.toolInputs,
        (∀ res ∈ call.results, res.Identified) ∧ call.results ≠ [] ∧ Ledgerable plan call.results := by decide +kernel
  obtain ⟨plan, planned, call, _, identified, some, ledgerable⟩ := read
  have begun := ok_some_of_mem planned
  obtain ⟨tool, handler⟩ := accepted_recorded_iff (shopProvider "m1") 90
  refine ⟨plan, begun, call, (tool _ _ _ call).mpr (Or.inl fun res answered _ => identified res answered), some, ?_⟩
  exact (handler _ _ _ _ _ plan call begun).mpr fun res answered _ =>
    ⟨identified res answered, Or.inr (fun row stored => nomatch stored), ledgerable⟩

end Dispatches

end MarketingAgents
