import MarketingAgents.Delivery.World

namespace MarketingAgents

open Lib PyText

/-- No attempt is filed. -/
def SameAttempts (db db' : Db) : Prop := db'.dispatchAttempts = db.dispatchAttempts

namespace SameAttempts

variable {db mid db' : Db}

theorem refl (db : Db) : SameAttempts db db := rfl

theorem trans (first : SameAttempts db mid) (last : SameAttempts mid db') : SameAttempts db db' := Eq.trans last first

/-- Writes elsewhere come first. -/
theorem since (last : SameAttempts mid db') (first : mid.dispatchAttempts = db.dispatchAttempts) : SameAttempts db db' :=
  trans first last

theorem foldl {ι : Type} {f : Db → ι → Db} (items : List ι) (pass : ∀ db i, SameAttempts db (f db i)) (db : Db) :
    SameAttempts db (items.foldl f db) :=
  List.foldlRecOn _ _ (motive := SameAttempts db) (refl db) fun mid kept i _ => kept.trans (pass mid i)

theorem foldlM {ι : Type} {f : Db → ι → Except AppError Db} {items : List ι} (done : items.foldlM f db = .ok db')
    (pass : ∀ db i next, f db i = .ok next → SameAttempts db next) : SameAttempts db db' :=
  foldlM_invariant (I := SameAttempts db) done (refl db) fun i _ mid next kept step => kept.trans (pass mid i next step)

theorem orKeep {ε : Type} {result : Except ε Db} (step : ∀ last, result = .ok last → SameAttempts db last) :
    SameAttempts db (MarketingAgents.orKeep db result) := by
  cases result with
  | error error => exact refl db
  | ok last => exact step last rfl

theorem orKeep_map {ε α : Type} {result : Except ε α} {project : α → Db}
    (step : ∀ value, result = .ok value → SameAttempts db (project value)) :
    SameAttempts db (MarketingAgents.orKeep db (result.map project)) := by
  cases result with
  | error error => exact refl db
  | ok value => exact step value rfl

theorem ensureAgent (db : Db) (tenantId : Uuid) (kind : AgentKind) : SameAttempts db (db.ensureAgent tenantId kind).1 := by
  unfold Db.ensureAgent
  split <;> rfl

theorem enqueue {args : EnqueueArgs} {now : Int} (done : db.enqueue args now = .ok db') : SameAttempts db db' := by
  unfold Db.enqueue at done
  split at done
  · cases Except.ok.inj done
    rfl
  · cases done

theorem writeStatus (db : Db) (id : Uuid) (status : CampaignStatus) (writer : Writer) :
    SameAttempts db (db.writeStatus id status writer) := by
  unfold Db.writeStatus
  split <;> rfl

theorem tagAsset (db : Db) (key : String) (value : Json) (id : Uuid) : SameAttempts db (db.tagAsset key value id) := by
  unfold Db.tagAsset
  split <;> rfl

theorem addTouchpoints (db : Db) (proposalId : Uuid) (slots : List (String × Int × Int)) :
    SameAttempts db (db.addTouchpoints proposalId slots) := by
  induction slots generalizing db with
  | nil => rfl
  | cons slot slots ih => exact ih _

theorem insertAssets (db : Db) (rows : List ContentAsset) : SameAttempts db (MarketingAgents.insertAssets db rows).1 := by
  induction rows generalizing db with
  | nil => rfl
  | cons a rows ih => exact ih _

theorem insertGroups (db : Db) (groups : List (Option AbTestSpec × List ContentAsset)) :
    SameAttempts db (MarketingAgents.insertGroups db groups).1 := by
  induction groups generalizing db with
  | nil => rfl
  | cons group groups ih => exact (insertAssets db group.2).trans (ih _)

variable [PyText] {c : Campaign} {now : Int}

theorem seedAbTest (c : Campaign) (db : Db) (group : Option AbTestSpec × List Uuid) :
    SameAttempts db (MarketingAgents.seedAbTest c db group) := by
  unfold MarketingAgents.seedAbTest
  split
  · exact foldl _ (fun mid id => tagAsset mid _ _ id) _
  · rfl

theorem seedAssetsForCampaign {ids : List Uuid} (done : seedAssetsForCampaign db c now = .ok (db', ids)) :
    SameAttempts db db' := by
  simp only [MarketingAgents.seedAssetsForCampaign, bind_eq_ok, pure_eq_ok, Prod.mk.injEq] at done
  obtain ⟨accepted, _, _, _, _, _, last, queued, rfl, _⟩ := done
  refine trans ?_ (foldlM queued fun _ _ _ step => enqueue step)
  refine trans ?_ (foldl _ (seedAbTest c) _)
  exact (ensureAgent db c.tenantId .contentCreator).trans (insertGroups _ _)

theorem scheduleApprovedAssets (done : scheduleApprovedAssets db c now = .ok db') : SameAttempts db db' := by
  unfold MarketingAgents.scheduleApprovedAssets at done
  dsimp only at done
  split at done
  · exact Except.ok.inj done ▸ refl db
  · refine (ensureAgent db _ _).trans (foldlM done fun mid a next step => ?_)
    unfold scheduleAsset at step
    dsimp only at step
    split at step
    · exact Except.ok.inj step ▸ rfl
    · exact (enqueue step).since rfl

theorem resumeDistributionForCampaign (done : resumeDistributionForCampaign db c now = .ok db') : SameAttempts db db' := by
  unfold MarketingAgents.resumeDistributionForCampaign at done
  dsimp only at done
  split at done
  · exact Except.ok.inj done ▸ refl db
  · refine (ensureAgent db _ _).trans (foldlM done fun mid a next step => ?_)
    unfold resumeAsset at step
    split at step
    · exact Except.ok.inj step ▸ rfl
    · split at step
      · exact Except.ok.inj step ▸ refl mid
      · exact enqueue step

theorem runOnEnter {onEnter : Option OnEnter} (done : runOnEnter onEnter db c now = .ok db') : SameAttempts db db' := by
  cases onEnter with
  | none => exact Except.ok.inj done ▸ refl db
  | some hook =>
    cases hook with
    | enqueueEchoStep => exact (ensureAgent db _ _).trans (enqueue done)
    | seedContentAssets =>
      simp only [MarketingAgents.runOnEnter, OnEnter.run] at done
      obtain ⟨⟨last, ids⟩, seeded, rfl⟩ := map_eq_ok.mp done
      exact seedAssetsForCampaign seeded
    | flipDraftedAssetsToPendingApproval =>
      cases Except.ok.inj done
      unfold MarketingAgents.flipDraftedAssetsToPendingApproval
      refine foldl _ (fun mid a => ?_) db
      rfl
    | scheduleApprovedAssets => exact scheduleApprovedAssets done
    | cancelQueuedOnPause => exact Except.ok.inj done ▸ rfl
    | resumeDistribution => exact resumeDistributionForCampaign done
    | autoGenerateReport => exact Except.ok.inj done ▸ refl db

theorem apply {name : String} (done : apply db c name now = .ok db') : SameAttempts db db' := by
  obtain ⟨tr, _, _, _, _, entered⟩ := apply_eq_ok done
  exact (writeStatus db c.id tr.toState _).trans (runOnEnter entered)

theorem applyFrom {status : CampaignStatus} {name : String} {campaignId : Uuid}
    (done : applyFrom status name db campaignId now = .ok db') : SameAttempts db db' := by
  rcases applyFrom_eq_ok done with ⟨c, _, applied⟩ | rfl
  · exact apply applied
  · rfl

theorem tryAdvanceAfterApproval {campaignId : Uuid} (done : tryAdvanceAfterApproval db campaignId now = .ok db') :
    SameAttempts db db' := by
  simp only [MarketingAgents.tryAdvanceAfterApproval, bind_eq_ok] at done
  obtain ⟨mid, submitted, launched⟩ := done
  exact (applyFrom submitted).trans (applyFrom launched)

theorem generateAsset (db : Db) (assetId : Uuid) (generation : Generation) (now : Int) :
    SameAttempts db (MarketingAgents.generateAsset db assetId generation now).1 := by
  have ends := generateAsset_generates db assetId generation now
  generalize MarketingAgents.generateAsset db assetId generation now = ended at ends ⊢
  cases ends with
  | missing | raised | held | unsubmitted => rfl
  | drafted out same found submitted =>
    unfold maybeSubmitForApproval at submitted
    split at submitted
    · exact Except.ok.inj submitted ▸ rfl
    · exact (applyFrom submitted).since rfl

theorem acceptStrategy {user : AppUser} {proposalId : Uuid} {calendar : Except String (List (String × Int × Int))}
    (done : acceptStrategy db user proposalId calendar now = .ok db') : SameAttempts db db' := by
  simp only [MarketingAgents.acceptStrategy, bind_eq_ok] at done
  obtain ⟨_, _, p, _, done⟩ := done
  split at done
  · exact Except.ok.inj done ▸ refl db
  · simp only [bind_eq_ok] at done
    obtain ⟨c, _, done⟩ := done
    split at done
    · cases done
    · split at done
      · exact (apply done).since (addTouchpoints _ p.id _)
      · exact Except.ok.inj done ▸ addTouchpoints _ p.id _

omit [PyText] in
theorem analyseCampaign (db : Db) (campaignId : Uuid) (autoPause : Bool) :
    SameAttempts db (analyseCampaign db campaignId autoPause) := by
  unfold MarketingAgents.analyseCampaign
  split
  · split
    · exact writeStatus db _ _ _
    · rfl
  · rfl

omit [PyText] in
theorem pauseCampaign (db : Db) (c : Campaign) (now : Int) : SameAttempts db (pauseCampaign db c now) := by
  unfold MarketingAgents.pauseCampaign
  split
  · rfl
  · exact writeStatus db _ _ _

omit [PyText] in
theorem recordApproval (db : Db) (user : AppUser) (a : ContentAsset) (path : ApprovalPath) (body : ApproveRequest)
    (edited : Bool) : SameAttempts db (recordApproval db user a path body edited) := by
  cases edited <;> rfl

theorem rejectAsset {user : AppUser} {assetId : Uuid} {reason : String} {category : ApprovalRejectionCategory}
    (done : rejectAsset db user assetId reason category now = .ok db') : SameAttempts db db' := by
  simp only [MarketingAgents.rejectAsset, bind_eq_ok] at done
  obtain ⟨_, _, a, _, c, _, _, _, mid, queued, reverted⟩ := done
  exact (applyFrom reverted).since ((enqueue queued).since (ensureAgent _ a.tenantId .contentCreator))

theorem batchApproveOne (user : AppUser) (dryRun : Bool) (writeFails : Dict Uuid String) (st : BatchState) (assetId : Uuid) :
    SameAttempts st.db (batchApproveOne user dryRun writeFails st assetId).db := by
  unfold MarketingAgents.batchApproveOne
  repeat' split
  all_goals rfl

theorem batchApprove {user : AppUser} {assetIds : List Uuid} {dryRun : Bool} {writeFails : Dict Uuid String}
    {response : BatchApproveResponse} (done : batchApprove db user assetIds dryRun writeFails now = .ok (db', response)) :
    SameAttempts db db' := by
  simp only [MarketingAgents.batchApprove, bind_eq_ok, pure_eq_ok, Prod.mk.injEq] at done
  obtain ⟨_, _, last, advanced, rfl, _⟩ := done
  have start : SameAttempts db ({ db := db } : BatchState).db := refl db
  have swept := List.foldlRecOn (motive := fun st : BatchState => SameAttempts db st.db) assetIds
    (MarketingAgents.batchApproveOne user dryRun writeFails) start fun st reached assetId _ =>
      reached.trans (batchApproveOne user dryRun writeFails st assetId)
  unfold batchAdvance at advanced
  split at advanced
  · exact Except.ok.inj advanced ▸ swept
  · exact swept.trans (foldlM advanced fun _ _ _ step => applyFrom step)

theorem approveViaUi {user : AppUser} {assetId : Uuid} {form : Dict String String} {result : UiResult}
    (done : approveViaUi db user assetId form now = .ok (db', result)) : SameAttempts db db' := by
  simp only [MarketingAgents.approveViaUi, bind_eq_ok] at done
  obtain ⟨_, _, a, _, c, _, done⟩ := done
  split at done
  · exact (Prod.mk.inj (Except.ok.inj done)).1 ▸ refl db
  · split at done
    · exact (Prod.mk.inj (Except.ok.inj done)).1 ▸ refl db
    · simp only [bind_eq_ok, pure_eq_ok, Prod.mk.injEq] at done
      obtain ⟨last, launched, rfl, _⟩ := done
      exact (recordApproval db user a _ _ _).trans (tryAdvanceAfterApproval launched)

theorem rejectViaUi {user : AppUser} {assetId : Uuid} {reason : String} {category : ApprovalRejectionCategory}
    {result : UiResult} (done : rejectViaUi db user assetId reason category now = .ok (db', result)) :
    SameAttempts db db' := by
  simp only [MarketingAgents.rejectViaUi, bind_eq_ok] at done
  obtain ⟨_, _, done⟩ := done
  split at done
  · exact (Prod.mk.inj (Except.ok.inj done)).1 ▸ refl db
  · simp only [bind_eq_ok] at done
    obtain ⟨a, _, done⟩ := done
    split at done
    · exact (Prod.mk.inj (Except.ok.inj done)).1 ▸ refl db
    · simp only [bind_eq_ok, pure_eq_ok, Prod.mk.injEq] at done
      obtain ⟨last, launched, rfl, _⟩ := done
      exact (tryAdvanceAfterApproval launched).since rfl

theorem addVariant {user : AppUser} {apiKey : Bool} {testId : Uuid} (done : addVariant db user apiKey testId now = .ok db') :
    SameAttempts db db' := by
  simp only [MarketingAgents.addVariant, bind_eq_ok] at done
  obtain ⟨_, _, _, _, test, _, done⟩ := done
  split at done
  · cases done
  · simp only [bind_eq_ok] at done
    obtain ⟨_, _, last, _, queued⟩ := done
    exact (enqueue queued).since (ensureAgent _ _ .contentCreator)

theorem createAbTest {user : AppUser} {campaignId : Uuid} {body : CreateAbTestRequest}
    (done : createAbTest db user campaignId body = .ok db') : SameAttempts db db' := by
  obtain ⟨_, _, _, test, _, _, _, _, _, rfl⟩ := createAbTest_eq_ok done
  refine trans ?_ (foldl _ (fun mid v => ?_) _)
  · rfl
  · exact tagAsset mid _ _ _

theorem promoteAbTest {user : AppUser} {testId : Uuid} (done : promoteAbTest db user testId = .ok db') :
    SameAttempts db db' := by
  simp only [MarketingAgents.promoteAbTest, bind_eq_ok, pure_eq_ok] at done
  obtain ⟨_, _, test, _, winnerId, _, winner, _, _, _, rfl⟩ := done
  refine foldl (f := archiveLoser winner.id) _ (fun mid v => ?_) db
  unfold archiveLoser
  split <;> rfl

omit [PyText] in
theorem evaluateTest (db : Db) (testId : Uuid) (decision : AbDecision) (now : Int) :
    SameAttempts db (evaluateTest db testId decision now) := by
  unfold MarketingAgents.evaluateTest
  repeat' split
  all_goals rfl

theorem outreachDraft {audienceId : Uuid} {overwrite : Bool} {segment : Segment} {channel : String} {reply : OutreachReply}
    (done : outreachDraft c audienceId overwrite db segment channel reply = .ok db') : SameAttempts db db' := by
  rcases outreachDraft_cases done with rfl | ⟨a, _, _, rfl⟩ | ⟨_, _, _, new, _, _, rfl⟩ <;> rfl

theorem outreachDrafts (c : Campaign) (audienceId : Uuid) (overwrite : Bool) (db : Db)
    (replies : List (Segment × String × OutreachReply)) :
    SameAttempts db (outreachDrafts c audienceId overwrite db replies).1 := by
  induction replies generalizing db with
  | nil => rfl
  | cons entry replies ih =>
    unfold MarketingAgents.outreachDrafts
    split
    · rename_i mid drafted
      exact (outreachDraft drafted).trans (ih mid)
    · rfl

end SameAttempts

namespace Assistant

variable [PyText] {db : Db} {user : AppUser} {now : Int}

omit [PyText] in
theorem settle_attempts {mid : Db} (reached : SameAttempts db mid) {result : Except AppError Db}
    (step : ∀ last, result = .ok last → SameAttempts mid last) : SameAttempts db (settle mid result).1 := by
  cases result with
  | error error => exact reached
  | ok last => exact reached.trans (step last rfl)

theorem generateAll_attempts (now : Int) (db : Db) (ids : List Uuid) (generations : List Generation) :
    SameAttempts db (generateAll now db ids generations) := by
  induction ids generalizing db generations with
  | nil => rfl
  | cons id ids ih => exact (SameAttempts.generateAsset db id _ now).trans (ih _ _)

/-- No tool of the assistant touches the ledger of dispatches: that is the business
of the handlers alone. -/
theorem run_attempts (db : Db) (user : AppUser) (call : MarketingAgents.ToolCall) : SameAttempts db (call.run db user now).1 := by
  have campaign : ∀ {minimum : UserRole} {campaignId : Uuid} {run : Campaign → ToolRun},
      (∀ c, SameAttempts db (run c).1) → SameAttempts db (withCampaign db user minimum campaignId run).1 := fun kept =>
    withCampaign_rule (P := fun result => SameAttempts db result.1) (fun _ => .refl db) fun c _ _ => kept c
  have asset : ∀ {minimum : UserRole} {assetId : Uuid} {run : ContentAsset → ToolRun},
      (∀ a, SameAttempts db (run a).1) → SameAttempts db (withAsset db user minimum assetId run).1 := fun kept =>
    withAsset_rule (P := fun result => SameAttempts db result.1) (fun _ => .refl db) fun a _ _ => kept a
  cases call with
  | pauseCampaign campaignId confirm =>
    refine campaign fun c => ?_
    split
    · rfl
    · split
      · rfl
      · exact SameAttempts.pauseCampaign db c now
  | resumeCampaign campaignId =>
    refine campaign fun c => ?_
    split
    · rfl
    · exact settle_attempts (.refl db) fun last done => .apply done
  | completeCampaign campaignId confirm =>
    refine campaign fun c => ?_
    split
    · rfl
    · split
      · rfl
      · exact settle_attempts (.refl db) fun last done => .apply done
  | synthesiseAudience campaignId members =>
    simp only [MarketingAgents.ToolCall.run, synthesiseAudience]
    split
    · rfl
    · refine campaign fun c => ?_
      split
      · exact SameAttempts.writeStatus _ _ _ _
      · rfl
  | acceptStrategy campaignId confirm calendar =>
    refine campaign fun c => ?_
    split
    · rfl
    · split
      · rfl
      · split
        · rfl
        · dsimp only
          split
          · rfl
          · split
            · exact (SameAttempts.writeStatus _ _ _ _).since (SameAttempts.addTouchpoints _ _ _)
            · exact SameAttempts.addTouchpoints _ _ _
  | generateContent apiKey campaignId confirm generations =>
    refine campaign fun c => ?_
    split
    · rfl
    · split
      · rfl
      · split
        · rfl
        · split
          · rfl
          · split
            · rfl
            · rename_i seeded ids done
              have drafted := (generateAll_attempts now seeded ids generations).since
                (SameAttempts.seedAssetsForCampaign done)
              dsimp only
              split
              · exact drafted.trans (.writeStatus _ _ _ _)
              · exact drafted
  | approveAllContent campaignId confirm =>
    refine campaign fun c => ?_
    dsimp only
    split
    · rfl
    · split
      · rfl
      · exact settle_attempts (.foldl (f := fun db a => db.writeApproved a .assistantAll user.role) _ (fun _ _ => rfl) db)
          fun last done => .tryAdvanceAfterApproval done
  | approveAsset assetId =>
    refine asset fun a => ?_
    split
    · rfl
    · split
      · rfl
      · exact settle_attempts rfl fun last done => .tryAdvanceAfterApproval done
  | rejectAsset assetId reason =>
    refine asset fun a => ?_
    split
    · rfl
    · exact settle_attempts rfl fun last done => .tryAdvanceAfterApproval done
  | launchCampaign campaignId confirm =>
    refine campaign fun c => ?_
    split
    · rfl
    · split
      · rfl
      · split
        · rfl
        · have written := SameAttempts.writeStatus db c.id .live .launchCampaign
          dsimp only
          split
          · exact written
          · exact written
  | draftOutbound campaignId audienceId overwrite replies =>
    refine campaign fun c => ?_
    have drafted := SameAttempts.outreachDrafts c audienceId overwrite db replies
    split
    · rename_i mid ended
      exact (congrArg Prod.fst ended : _ = mid) ▸ drafted
    · rename_i mid error ended
      exact (congrArg Prod.fst ended : _ = mid) ▸ drafted

end Assistant

/-- Only dispatches file attempts. -/
theorem Op.run_attempts [PyText] (db : Db) {op : Op} (desk : op.dispatches = false) (now : Int) :
    SameAttempts db (op.run db now) := by
  cases op with
  | createCampaign user draft =>
    refine .orKeep fun last done => ?_
    simp only [MarketingAgents.createCampaign, bind_eq_ok, pure_eq_ok] at done
    obtain ⟨_, _, _, _, rfl⟩ := done
    rfl
  | patchCampaign user campaignId patch =>
    refine .orKeep fun last done => ?_
    simp only [MarketingAgents.patchCampaign, bind_eq_ok, pure_eq_ok] at done
    obtain ⟨_, _, _, _, _, _, _, _, rfl⟩ := done
    rfl
  | upsertApprovalSettings user adminAbove cap currency =>
    refine .orKeep fun last done => ?_
    simp only [MarketingAgents.upsertApprovalSettings, bind_eq_ok, pure_eq_ok] at done
    obtain ⟨_, _, rfl⟩ := done
    rfl
  | insertProposal campaignId payload => rfl
  | insertAudience tenantId campaignId members => rfl
  | applyTransition user minimum campaignId name =>
    refine .orKeep fun last done => ?_
    simp only [MarketingAgents.applyTransition, bind_eq_ok] at done
    obtain ⟨_, _, _, _, applied⟩ := done
    exact .apply applied
  | acceptStrategy user proposalId calendar => exact .orKeep fun _ done => .acceptStrategy done
  | analyseCampaign campaignId autoPause => exact .analyseCampaign db campaignId autoPause
  | generateAsset assetId generation => exact .orKeep_map fun _ _ => .generateAsset db assetId generation now
  | regenerateAsset user apiKey assetId =>
    refine .orKeep fun last done => ?_
    simp only [MarketingAgents.regenerateAsset, bind_eq_ok] at done
    obtain ⟨_, _, _, _, a, _, c, _, _, _, queued⟩ := done
    exact (SameAttempts.enqueue queued).since (SameAttempts.ensureAgent _ a.tenantId .contentCreator)
  | clearComplianceBlock user assetId =>
    refine .orKeep fun last done => ?_
    simp only [MarketingAgents.clearComplianceBlock, bind_eq_ok, pure_eq_ok] at done
    obtain ⟨_, _, _, _, _, _, rfl⟩ := done
    rfl
  | approveAsset user assetId body =>
    refine .orKeep fun last done => ?_
    simp only [MarketingAgents.approveAsset, bind_eq_ok] at done
    obtain ⟨_, _, a, _, c, _, _, _, _, _, _, _, launched⟩ := done
    exact (SameAttempts.applyFrom launched).since (SameAttempts.recordApproval db user a .api body body.hasEdits)
  | rejectAsset user assetId reason category => exact .orKeep fun _ done => .rejectAsset done
  | batchApprove user assetIds dryRun writeFails => exact .orKeep_map fun _ done => .batchApprove done
  | approveViaUi user assetId form => exact .orKeep_map fun _ done => .approveViaUi done
  | rejectViaUi user assetId reason category => exact .orKeep_map fun _ done => .rejectViaUi done
  | addVariant user apiKey testId => exact .orKeep fun _ done => .addVariant done
  | createAbTest user campaignId body => exact .orKeep fun _ done => .createAbTest done
  | launchAbTest user testId =>
    refine .orKeep fun last done => ?_
    simp only [MarketingAgents.launchAbTest, bind_eq_ok, pure_eq_ok] at done
    obtain ⟨_, _, _, _, _, _, _, _, _, _, rfl⟩ := done
    rfl
  | stopAbTest user testId =>
    refine .orKeep fun last done => ?_
    simp only [MarketingAgents.stopAbTest, bind_eq_ok, pure_eq_ok] at done
    obtain ⟨_, _, _, _, _, _, rfl⟩ := done
    rfl
  | promoteAbTest user testId => exact .orKeep fun _ done => .promoteAbTest done
  | evaluateTest testId decision => exact .evaluateTest db testId decision now
  | writeSideTables tables => rfl
  | dispatchEmailAsset | dispatchSocialAsset => cases desk
  | assistant user call => exact Assistant.run_attempts db user call

end MarketingAgents
