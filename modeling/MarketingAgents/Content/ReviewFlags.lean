import MarketingAgents.AbTesting.Verdicts
import MarketingAgents.Content.System

namespace MarketingAgents

open Lib PyText

/-- The key under which `promote_ab_test` looks for what a manager has to review. -/
def reviewKey : String := "compliance_violations"

def ContentAsset.Unflagged (a : ContentAsset) : Prop := a.extraMetadata.get? reviewKey = none

/-- No asset has anything under the key. -/
def Unflagged (db : Db) : Prop := ∀ a ∈ db.assets, a.Unflagged

namespace Unflagged

variable {db db' : Db}

theorem of_assets (holds : Unflagged db) (same : db'.assets = db.assets) : Unflagged db' := fun a member =>
  holds a (same ▸ member)

theorem setAsset (holds : Unflagged db) {a : ContentAsset} (row : a.Unflagged) : Unflagged (db.setAsset a) := by
  intro b member
  rcases mem_updateWhere.mp member with ⟨_, _, _, rfl⟩ | ⟨old, _⟩
  · exact row
  · exact holds b old

theorem insertAsset (holds : Unflagged db) {a : ContentAsset} (row : a.Unflagged) : Unflagged (db.insertAsset a) := by
  intro b member
  rcases List.mem_append.mp member with old | new
  · exact holds b old
  · rw [List.mem_singleton.mp new]
    exact row

theorem asset? (holds : Unflagged db) {id : Uuid} {a : ContentAsset} (found : db.asset? id = some a) : a.Unflagged :=
  holds a (Db.asset?_mem found).1

theorem tenantAsset? (holds : Unflagged db) {user : AppUser} {id : Uuid} {a : ContentAsset}
    (found : db.tenantAsset? user id = some a) : a.Unflagged :=
  holds a (Db.asset?_mem (Db.tenantAsset?_eq_some found)).1

theorem enqueue [PyText] (holds : Unflagged db) {args : EnqueueArgs} {now : Int}
    (done : db.enqueue args now = .ok db') : Unflagged db' :=
  holds.of_assets (untouched_enqueue done).assets_eq

theorem ensureAgent (holds : Unflagged db) (tenantId : Uuid) (kind : AgentKind) :
    Unflagged (db.ensureAgent tenantId kind).1 :=
  holds.of_assets (untouched_ensureAgent db tenantId kind).assets_eq

theorem writeStatus (holds : Unflagged db) (id : Uuid) (status : CampaignStatus) (writer : Writer) :
    Unflagged (db.writeStatus id status writer) :=
  holds.of_assets (writeStatus_assets db id status writer)

theorem orKeep {ε : Type} (holds : Unflagged db) {result : Except ε Db}
    (step : ∀ last, result = .ok last → Unflagged last) : Unflagged (MarketingAgents.orKeep db result) := by
  cases result with
  | error error => exact holds
  | ok last => exact step last rfl

theorem orKeep_map {ε α : Type} (holds : Unflagged db) {result : Except ε α} {project : α → Db}
    (step : ∀ value, result = .ok value → Unflagged (project value)) :
    Unflagged (MarketingAgents.orKeep db (result.map project)) := by
  cases result with
  | error error => exact holds
  | ok value => exact step value rfl

end Unflagged

theorem ContentAsset.Unflagged.set {a b : ContentAsset} (row : a.Unflagged) {key : String} {value : Json}
    (other : key ≠ reviewKey) (metadata : b.extraMetadata = a.extraMetadata.set key value) : b.Unflagged := by
  unfold ContentAsset.Unflagged
  rw [metadata, Dict.get?_set_ne _ _ other]
  exact row

theorem ContentAsset.Unflagged.merge {a b : ContentAsset} (row : a.Unflagged) {entries : Dict String Json}
    (others : ∀ entry ∈ entries, entry.1 ≠ reviewKey) (metadata : b.extraMetadata = a.extraMetadata.merge entries) :
    b.Unflagged := by
  unfold ContentAsset.Unflagged
  rw [metadata, Dict.get?_merge_of_absent others]
  exact row

section Hooks

variable [PyText] {db db' : Db} {c : Campaign} {now : Int}

theorem scheduledRow_unflagged {a : ContentAsset} (row : a.Unflagged) : (scheduledRow db now a).Unflagged := by
  have slot : (pickSlot db now a).Unflagged := by
    unfold pickSlot
    split
    · split
      · exact row
      · exact row.set (by decide) rfl
    · exact row.set (by decide) rfl
  unfold scheduledRow
  dsimp only
  split
  · exact slot
  · exact slot.set (by decide) rfl

theorem scheduleApprovedAssets_unflagged (holds : Unflagged db) (done : scheduleApprovedAssets db c now = .ok db') :
    Unflagged db' := by
  unfold scheduleApprovedAssets at done
  dsimp only at done
  split at done
  · exact Except.ok.inj done ▸ holds
  · refine foldlM_invariant done (holds.ensureAgent _ _) fun a member mid next kept step => ?_
    have row : a.Unflagged := holds a (campaignRows_mem member).1
    have scheduled : Unflagged (mid.setAsset (scheduledRow mid now a)) := kept.setAsset (scheduledRow_unflagged row)
    unfold scheduleAsset at step
    dsimp only at step
    split at step
    · exact Except.ok.inj step ▸ scheduled
    · exact scheduled.enqueue step

theorem resumeDistributionForCampaign_unflagged (holds : Unflagged db)
    (done : resumeDistributionForCampaign db c now = .ok db') : Unflagged db' := by
  unfold resumeDistributionForCampaign at done
  dsimp only at done
  split at done
  · exact Except.ok.inj done ▸ holds
  · refine foldlM_invariant done (holds.ensureAgent _ _) fun a member mid next kept step => ?_
    have row : a.Unflagged := holds a (campaignRows_mem member).1
    have skipped : (a.tag "skip_reason" (.str "slot_elapsed_during_pause")).Unflagged := row.set (by decide) rfl
    unfold resumeAsset at step
    split at step
    · exact Except.ok.inj step ▸ kept.setAsset (skipped.set (by decide) rfl)
    · split at step
      · exact Except.ok.inj step ▸ kept
      · exact kept.enqueue step

theorem flipDraftedAssetsToPendingApproval_unflagged (holds : Unflagged db) :
    Unflagged (flipDraftedAssetsToPendingApproval db c now) := by
  unfold flipDraftedAssetsToPendingApproval
  refine List.foldlRecOn _ _ (motive := Unflagged) holds fun mid kept a member => kept.setAsset ?_
  have row : a.Unflagged := holds a (campaignRows_mem (List.mem_of_mem_filter member)).1
  exact row.set (by decide) rfl

theorem seedRows_unflagged {specs : List AbTestSpec} {tp : StrategyTouchpoint}
    {group : Option AbTestSpec × List ContentAsset} (planned : seedTouchpoint db c specs tp = some group) :
    ∀ a ∈ group.2, a.Unflagged := by
  obtain ⟨plan, _, rfl⟩ := Option.map_eq_some_iff.mp planned
  intro a member
  obtain ⟨variant, _, rfl⟩ := List.mem_map.mp member
  unfold ContentAsset.Unflagged seedMetadata
  split <;> rfl

omit [PyText] in
theorem insertAssets_unflagged (holds : Unflagged db) {rows : List ContentAsset} (clean : ∀ a ∈ rows, a.Unflagged) :
    Unflagged (insertAssets db rows).1 := by
  induction rows generalizing db with
  | nil => exact holds
  | cons a rows ih =>
    exact ih (holds.insertAsset (clean a (List.mem_cons_self ..))) fun b later => clean b (List.mem_cons_of_mem _ later)

omit [PyText] in
theorem insertGroups_unflagged (holds : Unflagged db) {groups : List (Option AbTestSpec × List ContentAsset)}
    (clean : ∀ group ∈ groups, ∀ a ∈ group.2, a.Unflagged) : Unflagged (insertGroups db groups).1 := by
  induction groups generalizing db with
  | nil => exact holds
  | cons group groups ih =>
    have first := insertAssets_unflagged holds (clean group (List.mem_cons_self ..))
    exact ih first fun other later => clean other (List.mem_cons_of_mem _ later)

omit [PyText] in
theorem tagAsset_unflagged (holds : Unflagged db) {key : String} (other : key ≠ reviewKey) (value : Json) (id : Uuid) :
    Unflagged (db.tagAsset key value id) := by
  unfold Db.tagAsset
  split
  · exact holds
  · rename_i a found
    exact holds.setAsset ((holds.asset? found).set other rfl)

theorem seedAbTest_unflagged (holds : Unflagged db) (group : Option AbTestSpec × List Uuid) :
    Unflagged (seedAbTest c db group) := by
  unfold seedAbTest
  split
  · refine List.foldlRecOn _ _ (motive := Unflagged) (holds.of_assets rfl) fun mid kept id _ => ?_
    exact tagAsset_unflagged kept (by decide) _ id
  · exact holds

theorem seedAssetsForCampaign_unflagged (holds : Unflagged db) {ids : List Uuid}
    (done : seedAssetsForCampaign db c now = .ok (db', ids)) : Unflagged db' := by
  simp only [seedAssetsForCampaign, bind_eq_ok, pure_eq_ok, Prod.mk.injEq] at done
  obtain ⟨accepted, _, _, _, _, _, last, queued, rfl, _⟩ := done
  refine foldlM_invariant queued ?_ fun id _ mid next kept step => kept.enqueue step
  refine List.foldlRecOn _ _ (motive := Unflagged) ?_ fun mid kept group _ => seedAbTest_unflagged kept group
  refine insertGroups_unflagged (holds.ensureAgent _ _) fun group member => ?_
  obtain ⟨tp, _, planned⟩ := List.mem_filterMap.mp member
  exact seedRows_unflagged planned

theorem runOnEnter_unflagged (holds : Unflagged db) {onEnter : Option OnEnter}
    (done : runOnEnter onEnter db c now = .ok db') : Unflagged db' := by
  cases onEnter with
  | none => exact Except.ok.inj done ▸ holds
  | some hook =>
    cases hook with
    | enqueueEchoStep => exact (holds.ensureAgent _ _).enqueue done
    | seedContentAssets =>
      simp only [runOnEnter, OnEnter.run] at done
      cases seeded : seedAssetsForCampaign db c now with
      | error error => simp [seeded, Except.map] at done
      | ok result =>
        rw [seeded] at done
        exact Except.ok.inj done ▸ seedAssetsForCampaign_unflagged holds seeded
    | flipDraftedAssetsToPendingApproval =>
      exact Except.ok.inj done ▸ flipDraftedAssetsToPendingApproval_unflagged holds
    | scheduleApprovedAssets => exact scheduleApprovedAssets_unflagged holds done
    | cancelQueuedOnPause => exact Except.ok.inj done ▸ holds.of_assets rfl
    | resumeDistribution => exact resumeDistributionForCampaign_unflagged holds done
    | autoGenerateReport => exact Except.ok.inj done ▸ holds

theorem apply_unflagged (holds : Unflagged db) {name : String} (done : apply db c name now = .ok db') :
    Unflagged db' := by
  obtain ⟨tr, _, _, _, _, entered⟩ := apply_eq_ok done
  exact runOnEnter_unflagged (holds.writeStatus _ _ _) entered

theorem applyFrom_unflagged (holds : Unflagged db) {status : CampaignStatus} {name : String} {campaignId : Uuid}
    (done : applyFrom status name db campaignId now = .ok db') : Unflagged db' := by
  rcases applyFrom_eq_ok done with ⟨c, _, applied⟩ | rfl
  · exact apply_unflagged holds applied
  · exact holds

theorem tryAdvanceAfterApproval_unflagged (holds : Unflagged db) {campaignId : Uuid}
    (done : tryAdvanceAfterApproval db campaignId now = .ok db') : Unflagged db' := by
  simp only [tryAdvanceAfterApproval, bind_eq_ok] at done
  obtain ⟨mid, first, last⟩ := done
  exact applyFrom_unflagged (applyFrom_unflagged holds first) last

theorem maybeGoLive_unflagged (holds : Unflagged db) (done : maybeGoLive db c now = .ok db') : Unflagged db' := by
  rw [maybeGoLive_eq] at done
  cases Except.ok.inj done
  split
  · exact holds.writeStatus _ _ _
  · exact holds

omit [PyText] in
theorem pauseCampaign_unflagged (holds : Unflagged db) : Unflagged (pauseCampaign db c now) :=
  holds.of_assets (pauseCampaign_assets db c now)

end Hooks

section Creator

variable [PyText] {db db' : Db} {user : AppUser} {now : Int}

theorem draftedRow_unflagged (out : GenerationOutput) {a : ContentAsset} (row : a.Unflagged) :
    (draftedRow out a).Unflagged := by
  have bundled : ∀ entry ∈ bundleMetadata out.cwOutput out.brandCheck out.seo, entry.1 ≠ reviewKey := by
    unfold bundleMetadata
    split <;> split <;> simp [reviewKey]
  have first : ({ a with
      extraMetadata := a.extraMetadata.merge (bundleMetadata out.cwOutput out.brandCheck out.seo) } :
      ContentAsset).Unflagged := row.merge bundled rfl
  refine first.merge ?_ rfl
  split <;> simp [reviewKey]

theorem generateAsset_unflagged (holds : Unflagged db) (assetId : Uuid) (generation : Generation) :
    Unflagged (generateAsset db assetId generation now).1 := by
  unfold generateAsset
  split
  · exact holds
  · rename_i a found
    have row := holds.asset? found
    split
    · exact holds
    · dsimp only
      split
      · exact holds.setAsset row
      · cases generation with
        | complianceError message => exact holds.setAsset (row.set (by decide) rfl)
        | raised message => exact holds.setAsset row
        | drafted out =>
          have drafted := holds.setAsset (draftedRow_unflagged out row)
          dsimp only
          split
          · rename_i submitted
            unfold maybeSubmitForApproval at submitted
            split at submitted
            · exact Except.ok.inj submitted ▸ drafted
            · exact applyFrom_unflagged drafted submitted
          · exact drafted

theorem regenerateAsset_unflagged (holds : Unflagged db) {apiKey : Bool} {assetId : Uuid}
    (done : regenerateAsset db user apiKey assetId now = .ok db') : Unflagged db' := by
  simp only [regenerateAsset, bind_eq_ok, orRaise_eq_ok] at done
  obtain ⟨_, _, _, _, a, found, c, _, _, _, queued⟩ := done
  have row : a.Unflagged := holds.tenantAsset? found
  have requested : Unflagged (db.setAsset { a with status := .requested }) := holds.setAsset row
  exact (requested.ensureAgent _ _).enqueue queued

theorem clearComplianceBlock_unflagged (holds : Unflagged db) {assetId : Uuid}
    (done : clearComplianceBlock db user assetId = .ok db') : Unflagged db' := by
  simp only [clearComplianceBlock, bind_eq_ok, orRaise_eq_ok, pure_eq_ok] at done
  obtain ⟨_, _, a, found, compliance, _, rfl⟩ := done
  exact holds.setAsset ((holds.tenantAsset? found).set (by decide) rfl)

theorem outreachDraft_unflagged (holds : Unflagged db) {c : Campaign} {audienceId : Uuid} {overwrite : Bool}
    {segment : Segment} {channel : String} {reply : OutreachReply}
    (done : outreachDraft c audienceId overwrite db segment channel reply = .ok db') : Unflagged db' := by
  have keys : ∀ subject body, ∀ entry ∈ (outreachTemplate audienceId segment channel subject body).2.2.2,
      entry.1 ≠ reviewKey := by
    intro subject body
    simp [outreachTemplate, reviewKey]
  unfold outreachDraft at done
  dsimp only at done
  generalize templates : existingTemplates db c audienceId _ segment.key = existing at done
  split at done
  · cases done
  · split at done
    · exact Except.ok.inj done ▸ holds
    · split at done
      · exact Except.ok.inj done ▸ holds
      · cases done
      · split at done
        · exact Except.ok.inj done ▸ holds
        · split at done
          · rename_i a _ _ _
            have listed : a ∈ existingTemplates db c audienceId _ segment.key := templates ▸ List.mem_cons_self
            have row : a.Unflagged := holds a (campaignRows_mem listed).1
            exact Except.ok.inj done ▸ holds.setAsset (row.merge (keys _ _) rfl)
          · refine Except.ok.inj done ▸ holds.insertAsset ?_
            exact Dict.get?_eq_none (keys _ _)

theorem outreachDrafts_unflagged (holds : Unflagged db) {c : Campaign} {audienceId : Uuid} {overwrite : Bool}
    {replies : List (Segment × String × OutreachReply)} :
    Unflagged (outreachDrafts c audienceId overwrite db replies).1 := by
  induction replies generalizing db with
  | nil => exact holds
  | cons entry replies ih =>
    unfold outreachDrafts
    split
    · rename_i drafted
      exact ih (outreachDraft_unflagged holds drafted)
    · exact holds

end Creator

section Approvals

variable [PyText] {db db' : Db} {user : AppUser} {now : Int}

omit [PyText] in
theorem Unflagged.writeApproved (holds : Unflagged db) {a : ContentAsset} (row : a.Unflagged) (path : ApprovalPath)
    (role : UserRole) : Unflagged (db.writeApproved a path role) :=
  (holds.setAsset (a := { a with status := .approved }) row).of_assets rfl

omit [PyText] in
theorem Unflagged.insertDecision (holds : Unflagged db) (d : ApprovalDecisionLog) : Unflagged (db.insertDecision d) :=
  holds.of_assets rfl

omit [PyText] in
theorem recordApproval_unflagged (holds : Unflagged db) {a : ContentAsset} (row : a.Unflagged) (path : ApprovalPath)
    (body : ApproveRequest) (edited : Bool) : Unflagged (recordApproval db user a path body edited) := by
  have changed : (applyEdits body a).Unflagged := (applyEdits_get? body a (by decide)).trans row
  unfold recordApproval
  refine (holds.insertDecision _).writeApproved ?_ path user.role
  split
  · exact changed
  · exact row

theorem approveAsset_unflagged (holds : Unflagged db) {assetId : Uuid} {body : ApproveRequest}
    (done : approveAsset db user assetId body now = .ok db') : Unflagged db' := by
  simp only [approveAsset, bind_eq_ok, orRaise_eq_ok] at done
  obtain ⟨_, _, a, found, c, _, _, _, _, _, _, _, advanced⟩ := done
  exact applyFrom_unflagged (recordApproval_unflagged holds (holds.tenantAsset? found) _ _ _) advanced

theorem rejectAsset_unflagged (holds : Unflagged db) {assetId : Uuid} {reason : String}
    {category : ApprovalRejectionCategory} (done : rejectAsset db user assetId reason category now = .ok db') :
    Unflagged db' := by
  simp only [rejectAsset, bind_eq_ok, orRaise_eq_ok] at done
  obtain ⟨_, _, a, found, c, _, _, _, mid, queued, reverted⟩ := done
  have row : a.Unflagged := holds.tenantAsset? found
  have rejected : Unflagged ((db.insertDecision (decisionRow a user .rejected (some reason)
      (some [("category", .str category.value)]))).setAsset { a with status := .rejected }) :=
    (holds.insertDecision _).setAsset row
  exact applyFrom_unflagged ((rejected.ensureAgent _ _).enqueue queued) reverted

theorem batchApproveOne_unflagged {dryRun : Bool} {writeFails : Dict Uuid String} {st : BatchState}
    (holds : Unflagged st.db) (assetId : Uuid) : Unflagged (batchApproveOne user dryRun writeFails st assetId).db := by
  unfold batchApproveOne
  split
  · exact holds
  · rename_i a found
    split
    · exact holds
    · split
      · exact holds
      · dsimp only
        split
        · exact holds
        · split
          · exact holds
          · exact (holds.insertDecision _).writeApproved (holds.tenantAsset? found) .batch user.role

theorem batchApprove_unflagged (holds : Unflagged db) {assetIds : List Uuid} {dryRun : Bool}
    {writeFails : Dict Uuid String} {result : Db × BatchApproveResponse}
    (done : batchApprove db user assetIds dryRun writeFails now = .ok result) : Unflagged result.1 := by
  simp only [batchApprove, bind_eq_ok, pure_eq_ok] at done
  obtain ⟨_, _, last, advanced, rfl⟩ := done
  have approved : Unflagged (assetIds.foldl (batchApproveOne user dryRun writeFails) { db := db }).db :=
    List.foldlRecOn _ _ (motive := fun st : BatchState => Unflagged st.db) holds
      fun _ kept id _ => batchApproveOne_unflagged kept id
  unfold batchAdvance at advanced
  split at advanced
  · exact Except.ok.inj advanced ▸ approved
  · exact foldlM_invariant advanced approved fun _ _ _ _ kept step => applyFrom_unflagged kept step

theorem approveViaUi_unflagged (holds : Unflagged db) {assetId : Uuid} {form : Dict String String}
    {result : Db × UiResult} (done : approveViaUi db user assetId form now = .ok result) : Unflagged result.1 := by
  simp only [approveViaUi, bind_eq_ok, orRaise_eq_ok] at done
  obtain ⟨_, _, a, found, c, _, rest⟩ := done
  split at rest
  · exact pure_eq_ok.mp rest ▸ holds
  · split at rest
    · exact pure_eq_ok.mp rest ▸ holds
    · simp only [bind_eq_ok, pure_eq_ok] at rest
      obtain ⟨last, advanced, rfl⟩ := rest
      exact tryAdvanceAfterApproval_unflagged (recordApproval_unflagged holds (holds.tenantAsset? found) _ _ _) advanced

theorem rejectViaUi_unflagged (holds : Unflagged db) {assetId : Uuid} {reason : String}
    {category : ApprovalRejectionCategory} {result : Db × UiResult}
    (done : rejectViaUi db user assetId reason category now = .ok result) : Unflagged result.1 := by
  simp only [rejectViaUi, bind_eq_ok] at done
  obtain ⟨_, _, rest⟩ := done
  split at rest
  · exact pure_eq_ok.mp rest ▸ holds
  · simp only [bind_eq_ok, orRaise_eq_ok] at rest
    obtain ⟨a, found, rest⟩ := rest
    split at rest
    · exact pure_eq_ok.mp rest ▸ holds
    · simp only [bind_eq_ok, pure_eq_ok] at rest
      obtain ⟨last, advanced, rfl⟩ := rest
      have row : a.Unflagged := holds.tenantAsset? found
      refine tryAdvanceAfterApproval_unflagged ?_ advanced
      exact (holds.insertDecision _).setAsset row

end Approvals

section AbTests

variable [PyText] {db db' : Db} {user : AppUser} {now : Int}

theorem addVariant_unflagged (holds : Unflagged db) {apiKey : Bool} {testId : Uuid}
    (done : addVariant db user apiKey testId now = .ok db') : Unflagged db' := by
  simp only [addVariant, bind_eq_ok] at done
  obtain ⟨_, _, _, _, _, _, rest⟩ := done
  split at rest
  · cases rest
  · rename_i template others _
    simp only [bind_eq_ok] at rest
    obtain ⟨_, _, last, _, queued⟩ := rest
    have created : Unflagged (db.insertAsset (variantAsset template testId (last + 1))) := holds.insertAsset rfl
    exact (created.ensureAgent _ _).enqueue queued

theorem createAbTest_unflagged (holds : Unflagged db) {campaignId : Uuid} {body : CreateAbTestRequest}
    (done : createAbTest db user campaignId body = .ok db') : Unflagged db' := by
  obtain ⟨_, _, _, test, _, _, _, _, _, rfl⟩ := createAbTest_eq_ok done
  exact List.foldlRecOn _ _ (motive := Unflagged) (holds.of_assets rfl)
    fun _ kept v _ => tagAsset_unflagged kept (by decide) _ v.id

theorem promoteAbTest_unflagged (holds : Unflagged db) {testId : Uuid}
    (done : promoteAbTest db user testId = .ok db') : Unflagged db' := by
  simp only [promoteAbTest, bind_eq_ok, pure_eq_ok] at done
  obtain ⟨_, _, test, _, winnerId, _, winner, _, _, _, rfl⟩ := done
  have archived : Unflagged ((variantsOrPair db user test).foldl (archiveLoser winner.id) db) := by
    refine List.foldlRecOn _ _ (motive := Unflagged) holds fun mid kept v member => ?_
    unfold archiveLoser
    split
    · exact kept
    · exact kept.setAsset (holds v ((variantsOrPair_sublist db user test).subset member))
  exact archived.of_assets rfl

omit [PyText] in
theorem evaluateTest_unflagged (holds : Unflagged db) (testId : Uuid) (decision : AbDecision) :
    Unflagged (evaluateTest db testId decision now) := by
  obtain ⟨_, same⟩ | ⟨_, test, test', _, _, _, _, same⟩ := evaluateTest_cases db testId decision now
  · rw [same]
    exact holds
  · rw [same]
    exact holds.of_assets rfl

end AbTests

section Dispatches

variable [PyText] {db db' : Db} {now : Int}

omit [PyText] in
theorem publish_unflagged (holds : Unflagged db) {loaded : ContentAsset} (row : loaded.Unflagged)
    {extras : Dict String Json} (others : ∀ entry ∈ extras, entry.1 ≠ reviewKey) :
    Unflagged (db.publish loaded extras now) := by
  intro b member
  rcases mem_updateWhere.mp member with ⟨a, _, _, rfl⟩ | ⟨old, _⟩
  · exact row.merge others rfl
  · exact holds b old

theorem commitEmail_unflagged (holds : Unflagged db) {plan : EmailPlan} (row : plan.asset.Unflagged)
    {result : Option DispatchResult} (done : commitEmail db plan result now = .ok db') : Unflagged db' := by
  have recorded : Unflagged (db.recordEmail plan result now) := holds.of_assets rfl
  exact maybeGoLive_unflagged (publish_unflagged recorded row (by simp [reviewKey])) (commitEmail_eq_ok.mp done).2

theorem dispatchEmailAsset_unflagged (holds : Unflagged db) {secret : String} {assetId batchId : Uuid}
    {answer : SendgridResponse} (done : dispatchEmailAsset db secret assetId answer batchId now = .ok db') :
    Unflagged db' := by
  unfold dispatchEmailAsset at done
  split at done
  · cases done
  · exact Except.ok.inj done ▸ holds
  · rename_i plan begun
    have row : plan.asset.Unflagged := holds.asset? (beginEmail_dispatchable begun).1.asset
    unfold finishEmail at done
    split at done
    · exact commitEmail_unflagged holds row (mapError_eq_ok.mp done)
    · split at done
      · cases done
      · exact commitEmail_unflagged holds row (mapError_eq_ok.mp done)

theorem dispatchSocialAsset_unflagged (holds : Unflagged db) {assetId : Uuid} {answer : SocialAnswer}
    (done : dispatchSocialAsset db assetId answer now = .ok db') : Unflagged db' := by
  unfold dispatchSocialAsset at done
  split at done
  · cases done
  · exact Except.ok.inj done ▸ holds
  · rename_i plan begun
    have row : plan.asset.Unflagged := holds.asset? (beginSocial_dispatchable begun).asset
    unfold finishSocial at done
    split at done
    · refine Except.ok.inj done ▸ fun b member => ?_
      rcases mem_updateWhere.mp member with ⟨a, _, _, rfl⟩ | ⟨old, _⟩
      · exact row.merge (by simp [reviewKey]) rfl
      · exact pauseCampaign_unflagged holds b old
    · cases done
    · rename_i result _
      have recorded : Unflagged (db.recordSocial plan result now) := holds.of_assets rfl
      have committed := (commitSocial_eq_ok.mp (mapError_eq_ok.mp done)).2
      exact maybeGoLive_unflagged (publish_unflagged recorded row (by simp [socialExtras, reviewKey])) committed

end Dispatches

section Campaigns

variable [PyText] {db db' : Db} {user : AppUser} {now : Int}

theorem applyTransition_unflagged (holds : Unflagged db) {minimum : UserRole} {campaignId : Uuid} {name : String}
    (done : applyTransition db user minimum campaignId name now = .ok db') : Unflagged db' := by
  simp only [applyTransition, bind_eq_ok] at done
  obtain ⟨_, _, c, _, applied⟩ := done
  exact apply_unflagged holds applied

theorem acceptStrategy_unflagged (holds : Unflagged db) {proposalId : Uuid}
    {calendar : Except String (List (String × Int × Int))}
    (done : acceptStrategy db user proposalId calendar now = .ok db') : Unflagged db' := by
  simp only [acceptStrategy, bind_eq_ok] at done
  obtain ⟨_, _, p, _, rest⟩ := done
  split at rest
  · exact pure_eq_ok.mp rest ▸ holds
  · simp only [bind_eq_ok] at rest
    obtain ⟨c, _, rest⟩ := rest
    cases calendar with
    | error message => cases rest
    | ok slots =>
      have accepted : ∀ touchpoints, Unflagged
          ((({ db with touchpoints := touchpoints } : Db).acceptProposal p).addTouchpoints p.id slots) :=
        fun _ => holds.of_assets (sameCore_addTouchpoints _ p.id slots).assets
      dsimp only at rest
      split at rest
      · exact apply_unflagged (accepted _) rest
      · exact pure_eq_ok.mp rest ▸ accepted _

omit [PyText] in
theorem analyseCampaign_unflagged (holds : Unflagged db) (campaignId : Uuid) (autoPause : Bool) :
    Unflagged (analyseCampaign db campaignId autoPause) := by
  unfold analyseCampaign
  split
  · split
    · exact holds.writeStatus _ _ _
    · exact holds
  · exact holds

end Campaigns

namespace Assistant

section Tools

variable [PyText] {db : Db} {user : AppUser} {campaignId assetId : Uuid} {now : Int}

theorem withCampaign_unflagged (holds : Unflagged db) {minimum : UserRole} {tool : Campaign → ToolRun}
    (kept : ∀ c, Unflagged (tool c).1) : Unflagged (withCampaign db user minimum campaignId tool).1 :=
  withCampaign_rule (P := fun ran => Unflagged ran.1) (fun _ => holds) fun c _ _ => kept c

theorem withAsset_unflagged (holds : Unflagged db) {minimum : UserRole} {tool : ContentAsset → ToolRun}
    (kept : ∀ a, a.Unflagged → Unflagged (tool a).1) : Unflagged (withAsset db user minimum assetId tool).1 :=
  withAsset_rule (P := fun ran => Unflagged ran.1) (fun _ => holds) fun a _ found => kept a (holds.tenantAsset? found)

omit [PyText] in
theorem settle_unflagged (holds : Unflagged db) {result : Except AppError Db}
    (kept : ∀ last, result = .ok last → Unflagged last) : Unflagged (settle db result).1 := by
  cases result with
  | error error => exact holds
  | ok last => exact kept last rfl

theorem advanced_unflagged (holds : Unflagged db) (campaignId : Uuid) :
    Unflagged (settle db (tryAdvanceAfterApproval db campaignId now)).1 :=
  settle_unflagged holds fun _ advanced => tryAdvanceAfterApproval_unflagged holds advanced

theorem generateAll_unflagged (holds : Unflagged db) (ids : List Uuid) (generations : List Generation) :
    Unflagged (generateAll now db ids generations) := by
  induction ids generalizing db generations with
  | nil => exact holds
  | cons id ids ih => exact ih (generateAsset_unflagged holds id _) generations.tail

theorem synthesiseAudience_unflagged (holds : Unflagged db) (members : List (String × Dict String Json)) :
    Unflagged (synthesiseAudience db user campaignId members now).1 := by
  unfold synthesiseAudience
  split
  · exact holds
  · refine withCampaign_unflagged holds fun c => ?_
    have inserted : Unflagged (insertAudience db user.tenantId c.id members now) := holds.of_assets rfl
    dsimp only [reply]
    split
    · exact inserted.writeStatus _ _ _
    · exact inserted

theorem acceptStrategy_unflagged (holds : Unflagged db) (confirm : Bool)
    (calendar : Except String (List (String × Int × Int))) :
    Unflagged (acceptStrategy db user campaignId confirm calendar).1 := by
  refine withCampaign_unflagged holds fun c => ?_
  split
  · exact holds
  · rename_i p _
    split
    · exact holds
    · split
      · exact holds
      · have accepted : Unflagged (db.acceptProposal p) := holds.of_assets rfl
        cases calendar with
        | error message => exact accepted
        | ok slots =>
          have seeded := accepted.of_assets (sameCore_addTouchpoints _ p.id slots).assets
          dsimp only [reply]
          split
          · exact seeded.writeStatus _ _ _
          · exact seeded

theorem generateContent_unflagged (holds : Unflagged db) (apiKey confirm : Bool) (generations : List Generation) :
    Unflagged (generateContent db user apiKey campaignId confirm generations now).1 := by
  refine withCampaign_unflagged holds fun c => ?_
  split
  · exact holds
  · split
    · exact holds
    · split
      · exact holds
      · split
        · exact holds
        · split
          · exact holds
          · rename_i start ids seeded
            have drafted : Unflagged (generateAll now start ids generations) :=
              generateAll_unflagged (seedAssetsForCampaign_unflagged holds seeded) ids generations
            dsimp only [reply]
            split
            · exact drafted.writeStatus _ _ _
            · exact drafted

theorem approveAllContent_unflagged (holds : Unflagged db) (confirm : Bool) :
    Unflagged (approveAllContent db user campaignId confirm now).1 := by
  refine withCampaign_unflagged holds fun c => ?_
  dsimp only
  split
  · exact holds
  · split
    · exact holds
    · have approved : Unflagged ((openDrafts db c.id).foldl (fun db a => db.writeApproved a .assistantAll user.role) db) :=
        List.foldlRecOn _ _ (motive := Unflagged) holds fun _ kept a member =>
          kept.writeApproved (holds a (campaignRows_mem member).1) .assistantAll user.role
      exact advanced_unflagged approved c.id

theorem rejectAsset_unflagged (holds : Unflagged db) (reason : Option String) :
    Unflagged (rejectAsset db user assetId reason now).1 := by
  refine withAsset_unflagged holds fun a row => ?_
  split
  · exact holds
  · have rejected : ∀ tagged : ContentAsset, tagged.Unflagged →
        Unflagged (db.setAsset { tagged with status := .rejected, isRequired := false }) := fun tagged row =>
      holds.setAsset (a := { tagged with status := .rejected, isRequired := false }) row
    refine advanced_unflagged (rejected _ ?_) a.campaignId
    split
    · exact row
    · exact row
    · exact row.set (by decide) rfl

theorem launchCampaign_unflagged (holds : Unflagged db) (confirm : Bool) :
    Unflagged (launchCampaign db user campaignId confirm now).1 := by
  refine withCampaign_unflagged holds fun c => ?_
  split
  · exact holds
  · split
    · exact holds
    · split
      · exact holds
      · have live := holds.writeStatus c.id .live .launchCampaign
        dsimp only [reply]
        split
        · exact live.of_assets rfl
        · exact live

end Tools

end Assistant

section Run

variable [PyText] {db : Db} {now : Int}

/-- No tool of the assistant writes the key that the promotion's guard reads, though
its own approval reads it too. -/
theorem ToolCall.run_unflagged (holds : Unflagged db) (user : AppUser) (call : ToolCall) :
    Unflagged (call.run db user now).1 := by
  cases call with
  | pauseCampaign campaignId confirm =>
    refine Assistant.withCampaign_unflagged holds fun c => ?_
    split
    · exact holds
    · split
      · exact holds
      · exact pauseCampaign_unflagged holds
  | resumeCampaign campaignId =>
    refine Assistant.withCampaign_unflagged holds fun c => ?_
    split
    · exact holds
    · exact Assistant.settle_unflagged holds fun _ applied => apply_unflagged holds applied
  | completeCampaign campaignId confirm =>
    refine Assistant.withCampaign_unflagged holds fun c => ?_
    split
    · exact holds
    · split
      · exact holds
      · exact Assistant.settle_unflagged holds fun _ applied => apply_unflagged holds applied
  | synthesiseAudience campaignId members => exact Assistant.synthesiseAudience_unflagged holds members
  | acceptStrategy campaignId confirm calendar => exact Assistant.acceptStrategy_unflagged holds confirm calendar
  | generateContent apiKey campaignId confirm generations =>
    exact Assistant.generateContent_unflagged holds apiKey confirm generations
  | approveAllContent campaignId confirm => exact Assistant.approveAllContent_unflagged holds confirm
  | approveAsset assetId =>
    refine Assistant.withAsset_unflagged holds fun a row => ?_
    split
    · exact holds
    · split
      · exact holds
      · exact Assistant.advanced_unflagged (holds.writeApproved row .assistant user.role) a.campaignId
  | rejectAsset assetId reason => exact Assistant.rejectAsset_unflagged holds reason
  | launchCampaign campaignId confirm => exact Assistant.launchCampaign_unflagged holds confirm
  | draftOutbound campaignId audienceId overwrite replies =>
    refine Assistant.withCampaign_unflagged holds fun c => ?_
    have drafted : Unflagged (outreachDrafts c audienceId overwrite db replies).1 := outreachDrafts_unflagged holds
    split
    · rename_i done
      rwa [done] at drafted
    · rename_i done
      rwa [done] at drafted

/-- No operation writes the key that the promotion's guard reads into the metadata
of an asset. -/
theorem Op.run_unflagged (holds : Unflagged db) (op : Op) : Unflagged (op.run db now) := by
  cases op with
  | createCampaign user draft =>
    refine holds.orKeep fun _ done => ?_
    simp only [MarketingAgents.createCampaign, bind_eq_ok, pure_eq_ok] at done
    obtain ⟨_, _, _, _, rfl⟩ := done
    exact holds.of_assets rfl
  | patchCampaign user campaignId patch =>
    refine holds.orKeep fun _ done => ?_
    simp only [MarketingAgents.patchCampaign, bind_eq_ok, pure_eq_ok] at done
    obtain ⟨_, _, _, _, _, _, _, _, rfl⟩ := done
    exact holds.of_assets rfl
  | upsertApprovalSettings user adminAbove cap currency =>
    refine holds.orKeep fun _ done => ?_
    simp only [MarketingAgents.upsertApprovalSettings, bind_eq_ok, pure_eq_ok] at done
    obtain ⟨_, _, rfl⟩ := done
    exact holds.of_assets rfl
  | insertProposal campaignId payload => exact holds.of_assets rfl
  | insertAudience tenantId campaignId members => exact holds.of_assets rfl
  | applyTransition user minimum campaignId name => exact holds.orKeep fun _ done => applyTransition_unflagged holds done
  | acceptStrategy user proposalId calendar => exact holds.orKeep fun _ done => acceptStrategy_unflagged holds done
  | analyseCampaign campaignId autoPause => exact analyseCampaign_unflagged holds campaignId autoPause
  | generateAsset assetId generation =>
    exact holds.orKeep_map fun _ _ => generateAsset_unflagged holds assetId generation
  | regenerateAsset user apiKey assetId => exact holds.orKeep fun _ done => regenerateAsset_unflagged holds done
  | clearComplianceBlock user assetId => exact holds.orKeep fun _ done => clearComplianceBlock_unflagged holds done
  | approveAsset user assetId body => exact holds.orKeep fun _ done => approveAsset_unflagged holds done
  | rejectAsset user assetId reason category => exact holds.orKeep fun _ done => rejectAsset_unflagged holds done
  | batchApprove user assetIds dryRun writeFails =>
    exact holds.orKeep_map fun _ done => batchApprove_unflagged holds done
  | approveViaUi user assetId form => exact holds.orKeep_map fun _ done => approveViaUi_unflagged holds done
  | rejectViaUi user assetId reason category => exact holds.orKeep_map fun _ done => rejectViaUi_unflagged holds done
  | addVariant user apiKey testId => exact holds.orKeep fun _ done => addVariant_unflagged holds done
  | createAbTest user campaignId body => exact holds.orKeep fun _ done => createAbTest_unflagged holds done
  | launchAbTest user testId =>
    refine holds.orKeep fun _ done => ?_
    simp only [MarketingAgents.launchAbTest, bind_eq_ok, pure_eq_ok] at done
    obtain ⟨_, _, _, _, _, _, _, _, _, _, rfl⟩ := done
    exact holds.of_assets rfl
  | stopAbTest user testId =>
    refine holds.orKeep fun _ done => ?_
    simp only [MarketingAgents.stopAbTest, bind_eq_ok, pure_eq_ok] at done
    obtain ⟨_, _, _, _, _, _, rfl⟩ := done
    exact holds.of_assets rfl
  | promoteAbTest user testId => exact holds.orKeep fun _ done => promoteAbTest_unflagged holds done
  | evaluateTest testId decision => exact evaluateTest_unflagged holds testId decision
  | writeSideTables tables => exact holds.of_assets rfl
  | dispatchEmailAsset secret assetId answer batchId =>
    exact holds.orKeep fun _ done => dispatchEmailAsset_unflagged holds done
  | dispatchSocialAsset assetId answer => exact holds.orKeep fun _ done => dispatchSocialAsset_unflagged holds done
  | assistant user call => exact ToolCall.run_unflagged holds user call

/-- No operation writes the key that the promotion reads. -/
theorem run_unflagged (fresh : db.Fresh) (ops : List (Op × Int)) : Unflagged (Lib.run Content.step db ops) :=
  run_invariant (I := Unflagged) (fun a member => by simp [fresh.assets] at member)
    (fun _ op holds => Op.run_unflagged holds op.1) ops

end Run

end MarketingAgents
