import MarketingAgents.Content.TwinOps
import MarketingAgents.Lib.Parallel

namespace MarketingAgents

open Lib PyText

/-- A change of the approval settings. -/
def Op.changesSettings : Op → Bool
  | .upsertApprovalSettings .. => true
  | _ => false

def Db.settingsOf (db : Db) (tenantId : Uuid) : Option TenantApprovalSettings :=
  db.approvalSettings.find? (·.tenantId = tenantId)

section Steps

variable [PyText] {db : Db} {now : Int}

omit [PyText] in
theorem orKeep_related {ε : Type} {R : Db → Db → Prop} {x y : Except ε Db} {d e : Db} (alike : Alike R x y) (kept : R d e) :
    R (orKeep d x) (orKeep e y) := by
  cases alike with
  | error error => exact kept
  | ok related => exact related

/-- An operation reads the settings in the submission at its end alone. -/
theorem Op.run_forked (wf : db.Wf) (settings : List TenantApprovalSettings) {op : Op} (other : op.changesSettings = false) :
    ForkedSomewhere db settings now (op.run db now) (op.run (db.withSettings settings) now) := by
  have twin := Twin.refl db settings
  have kept : ForkedSomewhere db settings now db (db.withSettings settings) := twin.forked
  have whole : ∀ {ε : Type} {x y : Except ε Db}, Alike (Twin db settings) x y →
      ForkedSomewhere db settings now (orKeep db x) (orKeep (db.withSettings settings) y) :=
    fun alike => orKeep_related (alike.mono fun _ _ twin => twin.forked) kept
  cases op with
  | createCampaign user draft => exact whole (createCampaign_twin twin user draft)
  | patchCampaign user campaignId patch => exact whole (patchCampaign_twin twin user campaignId patch)
  | upsertApprovalSettings => cases other
  | insertProposal campaignId payload => exact (insertProposal_twin twin campaignId payload).forked
  | insertAudience tenantId campaignId members => exact (insertAudience_twin twin tenantId campaignId members now).forked
  | applyTransition user minimum campaignId name =>
    exact orKeep_related (applyTransition_forked twin user minimum campaignId name) kept
  | acceptStrategy user proposalId calendar => exact whole (acceptStrategy_twin twin user proposalId calendar)
  | analyseCampaign campaignId autoPause => exact (analyseCampaign_twin twin campaignId autoPause).forked
  | generateAsset assetId generation =>
    have own : ∀ a, db.asset? assetId = some a → a.campaignId = ((db.asset? assetId).map ContentAsset.campaignId).getD 0 := by
      intro a found
      rw [found]
      rfl
    obtain ⟨forked, same⟩ := generateAsset_forked twin own generation
    unfold Op.run
    dsimp only
    rw [same]
    cases (MarketingAgents.generateAsset db assetId generation now).2 with
    | error error => exact kept
    | ok done => exact ⟨_, forked⟩
  | regenerateAsset user apiKey assetId => exact whole (regenerateAsset_twin twin user apiKey assetId)
  | clearComplianceBlock user assetId => exact whole (clearComplianceBlock_twin twin user assetId)
  | approveAsset user assetId body => exact whole (approveAsset_twin twin user assetId body)
  | rejectAsset user assetId reason category => exact whole (rejectAsset_twin twin user assetId reason category)
  | batchApprove user assetIds dryRun writeFails =>
    exact whole ((batchApprove_twin twin user assetIds dryRun writeFails).map fun _ _ made => made.1)
  | approveViaUi user assetId form =>
    exact orKeep_related ((approveViaUi_forked twin user assetId form).map fun _ _ forked => forked) kept
  | rejectViaUi user assetId reason category =>
    exact orKeep_related ((rejectViaUi_forked twin user assetId reason category).map fun _ _ forked => forked) kept
  | addVariant user apiKey testId => exact whole (addVariant_twin twin user apiKey testId)
  | createAbTest user campaignId body => exact whole (createAbTest_twin twin user campaignId body)
  | launchAbTest user testId => exact whole (launchAbTest_twin twin user testId)
  | stopAbTest user testId => exact whole (stopAbTest_twin twin user testId)
  | promoteAbTest user testId => exact whole (promoteAbTest_twin twin user testId)
  | evaluateTest testId decision => exact (evaluateTest_twin twin testId decision).forked
  | writeSideTables tables => exact Twin.forked ⟨twin.steady.of_assets rfl rfl, rfl⟩
  | dispatchEmailAsset secret assetId answer batchId =>
    exact whole (dispatchEmailAsset_twin twin secret assetId answer batchId)
  | dispatchSocialAsset assetId answer => exact whole (dispatchSocialAsset_twin twin assetId answer)
  | assistant user call => exact ToolCall.run_forked twin wf user call

/-- A change of the settings changes nothing else. -/
theorem Op.run_settings {op : Op} (changes : op.changesSettings = true) (db : Db) :
    ∃ settings, op.run db now = db.withSettings settings := by
  cases op with
  | upsertApprovalSettings user adminAbove cap currency =>
    unfold Op.run MarketingAgents.upsertApprovalSettings
    by_cases ranked : UserRole.admin.rank ≤ user.role.rank
    · simp only [require, if_pos ranked]
      exact ⟨_, rfl⟩
    · simp only [require, if_neg ranked]
      exact ⟨db.approvalSettings, rfl⟩
  | _ => cases changes

theorem Content.step_settings {step : Op × Int} (changes : step.1.changesSettings = true) (db : Db) :
    ∃ settings, Content.step db step = db.withSettings settings := Op.run_settings changes db

theorem Content.step_wf (wf : db.Wf) (step : Op × Int) : (Content.step db step).Wf := (Op.run_writes wf step.1).wf wf

/-- The step submits the asset: it leaves the row pending, under a snapshot that
the row did not have while it was pending before. -/
def Submitted (db : Db) (step : Op × Int) (a : ContentAsset) : Prop :=
  a ∈ (Content.step db step).assets ∧ a.status = .pendingApproval ∧
    ∀ b ∈ db.assets, b.id = a.id → b.status = .pendingApproval → b.threshold ≠ a.threshold

instance (db : Db) (step : Op × Int) (a : ContentAsset) : Decidable (Submitted db step a) :=
  inferInstanceAs (Decidable (_ ∧ _ ∧ _))

/-- The row has the snapshot of the settings that its campaign's tenant had before the step. -/
def TakesSnapshot (db : Db) (step : Op × Int) (a : ContentAsset) : Prop :=
  ∃ c ∈ (Content.step db step).campaigns, c.id = a.campaignId ∧
    a.threshold = some (thresholdSnapshot (db.settingsOf c.tenantId) step.2)

theorem Unsubmitted.not_submitted {step : Op × Int} {mid : Db} (steady : Unsubmitted db mid) {a : ContentAsset}
    (here : a ∈ mid.assets) : ¬ Submitted db step a := by
  rintro ⟨_, pending, fresh⟩
  obtain ⟨old, there, same, waited, threshold⟩ := steady.pending a here pending
  exact fresh old there same waited threshold

/-- What a step submits carries the settings of that step. -/
theorem Submitted.takesSnapshot (wf : db.Wf) {step : Op × Int} {a : ContentAsset} (submitted : Submitted db step a) :
    TakesSnapshot db step a := by
  obtain ⟨op, t⟩ := step
  cases changes : op.changesSettings with
  | true =>
    obtain ⟨settings, same⟩ : ∃ settings, op.run db t = db.withSettings settings := Op.run_settings changes db
    have here : a ∈ (op.run db t).assets := submitted.1
    rw [same] at here
    exact absurd submitted ((Unsubmitted.refl db).not_submitted here)
  | false =>
    obtain ⟨campaignId, forked⟩ : ForkedSomewhere db [] t (op.run db t) (op.run (db.withSettings []) t) :=
      Op.run_forked wf [] changes
    have here : a ∈ (op.run db t).assets := submitted.1
    generalize reached : op.run db t = db' at forked here
    generalize op.run (db.withSettings []) t = e at forked
    cases forked with
    | twin twin => exact absurd submitted (twin.steady.not_submitted here)
    | @submitted mid e c twin mine found pending drafts =>
      rw [flip_eq] at here
      rcases mem_submitRows here with ⟨b, draft, rfl⟩ | old
      · refine ⟨c, ?_, (mem_draftsFor draft).2.1.symm, ?_⟩
        · change c ∈ (op.run db t).campaigns
          rw [reached, flip_eq, submitRows_campaigns]
          exact (Db.campaign?_mem found).1
        · unfold Db.settingsOf
          rw [← twin.steady.settings]
          exact Dict.get?_set_self _ _ _
      · exact absurd submitted (twin.steady.not_submitted old)

/-- The step submits its assets under the same settings in both states. -/
def SameSubmission (db db' : Db) (step : Op × Int) : Prop :=
  ∀ a, Submitted db step a ∨ Submitted db' step a →
    ∀ c ∈ (Content.step db step).campaigns, c.id = a.campaignId → db.settingsOf c.tenantId = db'.settingsOf c.tenantId

omit [PyText] in
/-- A row that a submission leaves is newly pending, or stood there under the same snapshot. -/
theorem submittedRow_fresh_or_stood (db : Db) (snapshot : Json) (b : ContentAsset) :
    (∀ x ∈ db.assets, x.id = (submittedRow snapshot b).id → x.status = .pendingApproval →
      x.threshold ≠ (submittedRow snapshot b).threshold) ∨
      ∃ x ∈ db.assets, x.id = b.id ∧ x.threshold = some snapshot := by
  by_cases stood : ∃ x ∈ db.assets, x.id = b.id ∧ x.threshold = some snapshot
  · exact Or.inr stood
  · refine Or.inl fun x member id _ threshold => stood ⟨x, member, id, threshold.trans ?_⟩
    exact Dict.get?_set_self _ _ _

/-- Stores that differ in their settings alone take a step that submits under
the same settings alike. -/
theorem step_withSettings (wf : db.Wf) {settings : List TenantApprovalSettings} {step : Op × Int}
    (other : step.1.changesSettings = false) (same : SameSubmission db (db.withSettings settings) step) :
    Content.step (db.withSettings settings) step = (Content.step db step).withSettings settings := by
  obtain ⟨op, t⟩ := step
  obtain ⟨campaignId, forked⟩ : ForkedSomewhere db settings t (op.run db t) (op.run (db.withSettings settings) t) :=
    Op.run_forked wf settings other
  unfold SameSubmission Submitted at same
  unfold Content.step at same ⊢
  dsimp only at same ⊢
  generalize op.run db t = reached at forked same ⊢
  generalize op.run (db.withSettings settings) t = reached' at forked same ⊢
  cases forked with
  | twin twin => exact twin.apart
  | @submitted d e c twin mine found pending drafts =>
    obtain ⟨steady, rfl⟩ := twin
    have taken : d.snapshotFor c t = (d.withSettings settings).snapshotFor c t := by
      by_contra differ
      have unlike : db.settingsOf c.tenantId ≠ (db.withSettings settings).settingsOf c.tenantId := by
        intro equal
        refine differ (congrArg (thresholdSnapshot · t) ?_)
        rw [steady.settings]
        exact equal
      have listed : c ∈ (flipDraftedAssetsToPendingApproval d c t).campaigns := by
        rw [flip_eq, submitRows_campaigns]
        exact (Db.campaign?_mem found).1
      obtain ⟨a, draft⟩ := List.exists_mem_of_ne_nil _ drafts
      have stored := List.mem_map_of_mem (f := ContentAsset.id) (mem_draftsFor draft).1
      obtain ⟨b, mineDraft, id, there⟩ := @submitRows_submits (d.snapshotFor c t) _ _ _ draft stored
      obtain ⟨b', mineDraft', id', there'⟩ :=
        @submitRows_submits ((d.withSettings settings).snapshotFor c t) _ (d.withSettings settings) _ draft stored
      -- what is newly pending in one of the runs has found the same settings in both
      rcases submittedRow_fresh_or_stood db (d.snapshotFor c t) b with fresh | ⟨x, member, xId, xThreshold⟩
      · exact unlike (same _ (Or.inl ⟨there, rfl, fresh⟩) c listed (mem_draftsFor mineDraft).2.1.symm)
      rcases submittedRow_fresh_or_stood db ((d.withSettings settings).snapshotFor c t) b' with
        fresh' | ⟨y, member', yId, yThreshold⟩
      · exact unlike (same _ (Or.inr ⟨there', rfl, fresh'⟩) c listed (mem_draftsFor mineDraft').2.1.symm)
      -- and one row cannot have stood there under both snapshots
      obtain rfl := eq_of_key_eq wf.assetIds member member' (((xId.trans id).trans id'.symm).trans yId.symm)
      exact differ (Option.some.inj (xThreshold.symm.trans yThreshold))
    rw [flip_eq, flip_eq, ← taken]
    exact submitRows_withSettings _ _ _ _

/-- Two runs that differ in changes of the settings, where no asset is
submitted under different settings, differ in their settings alone. -/
theorem runs_withSettings (wf : db.Wf) {ops ops' : List (Op × Int)}
    (parallel : Parallel Content.step (fun step => step.1.changesSettings = true) SameSubmission db db ops ops') :
    (Lib.run Content.step db ops).Wf ∧
      ∃ settings, Lib.run Content.step db ops' = (Lib.run Content.step db ops).withSettings settings := by
  refine parallel.invariant (R := fun d e => d.Wf ∧ ∃ settings, e = d.withSettings settings)
    ⟨wf, db.approvalSettings, rfl⟩ ?_ ?_ ?_
  · rintro d e step changes ⟨wf, settings, rfl⟩
    obtain ⟨changed, same⟩ := Content.step_settings changes d
    exact ⟨Content.step_wf wf step, settings, by rw [same]; rfl⟩
  · rintro d e step changes ⟨wf, settings, rfl⟩
    obtain ⟨changed, same⟩ := Content.step_settings changes (d.withSettings settings)
    exact ⟨wf, changed, same⟩
  · rintro d e step shared ⟨wf, settings, rfl⟩
    refine ⟨Content.step_wf wf step, ?_⟩
    cases changes : step.1.changesSettings with
    | false => exact ⟨settings, step_withSettings wf changes shared⟩
    | true =>
      obtain ⟨first, same⟩ := Content.step_settings changes d
      obtain ⟨second, same'⟩ := Content.step_settings changes (d.withSettings settings)
      exact ⟨second, same'.trans (by rw [same]; rfl)⟩

/-- The last step that submitted the asset left it the row's snapshot. -/
def LatestSubmission (db : Db) (ops : List (Op × Int)) (a : ContentAsset) : Prop :=
  ∃ before step after, ops = before ++ step :: after ∧
    (∃ b, b.id = a.id ∧ b.threshold = a.threshold ∧ Submitted (Lib.run Content.step db before) step b ∧
      TakesSnapshot (Lib.run Content.step db before) step b) ∧
    Along Content.step (fun db step => ∀ b, b.id = a.id → ¬ Submitted db step b)
      (Lib.run Content.step db (before ++ [step])) after

theorem pending_latestSubmission (fresh : db.Fresh) (ops : List (Op × Int)) :
    ∀ a ∈ (Lib.run Content.step db ops).assets, a.status = .pendingApproval → LatestSubmission db ops a := by
  induction ops using List.reverseRecOn with
  | nil =>
    intro a member
    rw [run_nil, fresh.assets] at member
    cases member
  | append_singleton ops step ih =>
    intro a member pending
    have wf : (Lib.run Content.step db ops).Wf := run_invariant fresh.wf (fun _ step wf => Content.step_wf wf step) ops
    rw [run_append, run_cons, run_nil] at member
    by_cases submitted : Submitted (Lib.run Content.step db ops) step a
    · exact ⟨ops, step, [], rfl, ⟨a, rfl, rfl, submitted, submitted.takesSnapshot wf⟩, along_nil⟩
    · have stood : ∃ b ∈ (Lib.run Content.step db ops).assets, b.id = a.id ∧ b.status = .pendingApproval ∧
          b.threshold = a.threshold := by
        by_contra none
        exact submitted ⟨member, pending, fun b here id waits threshold => none ⟨b, here, id, waits, threshold⟩⟩
      obtain ⟨b, here, id, waits, threshold⟩ := stood
      obtain ⟨before, first, after, rfl, ⟨row, rowId, rowThreshold, made⟩, quiet⟩ := ih b here waits
      refine ⟨before, first, after ++ [step], by simp, ⟨row, rowId.trans id, rowThreshold.trans threshold, made⟩, ?_⟩
      rw [id] at quiet
      refine along_append.mpr ⟨quiet, ?_, trivial⟩
      rw [← run_append, List.append_assoc, List.singleton_append]
      intro other same again
      -- the row with this id is the one that the step did not submit
      obtain rfl := eq_of_key_eq (Content.step_wf wf step).assetIds again.1 member same
      exact submitted again

/-- Approvals read the snapshot. Two runs that differ in changes of the
approval settings, where every submission finds the same settings in both,
leave an approval of an asset and a batch with the same outcome. A pending
asset has the snapshot that its latest submission took. -/
theorem approvals_read_the_snapshot (fresh : db.Fresh) :
    (∀ ops ops', Parallel Content.step (fun step => step.1.changesSettings = true) SameSubmission db db ops ops' →
      (∀ user assetId body now,
        (approveAsset (Lib.run Content.step db ops) user assetId body now).map (·.withSettings []) =
          (approveAsset (Lib.run Content.step db ops') user assetId body now).map (·.withSettings [])) ∧
      ∀ user assetIds dryRun writeFails now,
        (batchApprove (Lib.run Content.step db ops) user assetIds dryRun writeFails now).map
            (fun made => (made.1.withSettings [], made.2)) =
          (batchApprove (Lib.run Content.step db ops') user assetIds dryRun writeFails now).map
            fun made => (made.1.withSettings [], made.2)) ∧
    ∀ ops, ∀ a ∈ (Lib.run Content.step db ops).assets, a.status = .pendingApproval → LatestSubmission db ops a := by
  refine ⟨fun ops ops' parallel => ?_, pending_latestSubmission fresh⟩
  obtain ⟨_, settings, same⟩ := runs_withSettings fresh.wf parallel
  rw [same]
  have twin := Twin.refl (Lib.run Content.step db ops) settings
  constructor
  · intro user assetId body now
    refine (approveAsset_twin twin user assetId body).map_eq fun d e after => ?_
    rw [after.apart]
    rfl
  · intro user assetIds dryRun writeFails now
    refine (batchApprove_twin twin user assetIds dryRun writeFails).map_eq ?_
    rintro ⟨d, response⟩ ⟨e, response'⟩ ⟨after, rfl⟩
    rw [after.apart]
    rfl

end Steps

namespace Submissions

local instance submissionsText : PyText := PyText.plain

open Sample

/-- A tenant whose accepted proposal has two emails. -/
def twoEmails : Db := { planned with touchpoints := [⟨51, 50, "email", 0, 0⟩, ⟨52, 50, "email", 1, 1⟩] }

/-- Up to the submission of both emails, of which the first is to be generated once more. -/
def bothSubmitted : List (Op × Int) :=
  [(.createCampaign manager { launch with budgetTotal := 900 }, 1),
    (.assistant manager (.synthesiseAudience 0 [("m", [])]), 2),
    (.applyTransition manager .manager 0 "set_strategy", 3),
    (.applyTransition manager .manager 0 "start_content", 4),
    (.regenerateAsset manager true 3, 5),
    (.generateAsset 3 (draft []), 6),
    (.generateAsset 4 (draft []), 7)]

/-- Admins are to approve above 500. -/
def stricter : Op × Int := (.upsertApprovalSettings admin (some 500) 1000 "USD", 9)

/-- The second email is sent back, submitted again and approved, then the first
is approved, generated again and turned down. -/
def decided (changes : List (Op × Int)) : List (Op × Int) :=
  (.rejectAsset manager 4 "off" .other, 8) :: changes ++
    [(.generateAsset 4 (draft []), 10),
      (.approveAsset manager 4 {}, 11),
      (.approveAsset manager 3 {}, 12),
      (.generateAsset 3 (draft []), 13),
      (.regenerateAsset manager true 3, 14),
      (.rejectViaUi manager 3 "off" .other, 15)]

/-- The runs differ in a change of the settings after the last submission of
the first email, and no submission finds it except that of the second one. -/
theorem another_submission_decides :
    let db := Lib.run Content.step twoEmails bothSubmitted
    let keeps := fun db step => ∀ a ∈ (Content.step db step).assets, a.id = 3 → ¬ Submitted db step a
    twoEmails.Fresh ∧ stricter.1.changesSettings = true ∧ (∃ a ∈ db.assets, a.id = 3 ∧ a.status = .pendingApproval) ∧
      Along Content.step keeps db (decided []) ∧ Along Content.step keeps db (decided [stricter]) ∧
      (approveAsset (Lib.run Content.step db (decided [])) manager 3 {} 16).isOk = true ∧
      (approveAsset (Lib.run Content.step db (decided [stricter])) manager 3 {} 16).isOk = false := by
  refine ⟨⟨rfl, rfl, rfl, rfl⟩, rfl, ?_⟩
  decide +kernel

theorem approvals_read_the_snapshot_stricter :
    let db := Lib.run Content.step twoEmails bothSubmitted
    let changed := Lib.run Content.step twoEmails (bothSubmitted ++ [stricter])
    db.settingsOf 1 ≠ changed.settingsOf 1 ∧ (approveAsset db manager 3 {} 10).isOk = true ∧
      (approveAsset db manager 3 {} 10).map (·.withSettings []) =
        (approveAsset changed manager 3 {} 10).map (·.withSettings []) ∧
      (batchApprove db manager [3, 4] false [] 10).map (fun made => (made.1.withSettings [], made.2)) =
        (batchApprove changed manager [3, 4] false [] 10).map (fun made => (made.1.withSettings [], made.2)) ∧
      db.assets ≠ [] ∧ ∀ a ∈ db.assets, a.status = .pendingApproval ∧ LatestSubmission twoEmails bothSubmitted a := by
  intro db changed
  have start : twoEmails.Fresh := ⟨rfl, rfl, rfl, rfl⟩
  obtain ⟨alike, latest⟩ := approvals_read_the_snapshot start
  have parallel : Parallel Content.step (fun step => step.1.changesSettings = true) SameSubmission twoEmails twoEmails
      (bothSubmitted ++ []) (bothSubmitted ++ [stricter]) :=
    .same (fun _ _ _ _ _ _ _ => rfl) _ _ (.second rfl (.done _ _))
  obtain ⟨single, batch⟩ := alike _ _ parallel
  have pending : db.settingsOf 1 ≠ changed.settingsOf 1 ∧ (approveAsset db manager 3 {} 10).isOk = true ∧
      db.assets ≠ [] ∧ ∀ a ∈ db.assets, a.status = .pendingApproval := by
    decide +kernel
  obtain ⟨unlike, approved, some, pending⟩ := pending
  exact ⟨unlike, approved, single .., batch .., some, fun a member => ⟨pending a member, latest _ a member (pending a member)⟩⟩

end Submissions

end MarketingAgents
