import MarketingAgents.AbTesting.Lifecycle
import MarketingAgents.Api.Campaigns
import MarketingAgents.Content.Pipeline

namespace MarketingAgents

open Lib PyText

section Creator

variable [PyText] {may : Cause → Db → Prop} {now : Int} {db db' : Db}

theorem draftedRow_traced (out : GenerationOutput) (a : ContentAsset) : Traced a (draftedRow out a) := by
  have bundled : ∀ entry ∈ bundleMetadata out.cwOutput out.brandCheck out.seo,
      entry.1 ∉ ["touchpoint_id", "variant_index"] := by
    intro entry member
    unfold bundleMetadata at member
    split at member <;> split at member <;>
      simp only [List.mem_append, List.mem_cons, List.not_mem_nil, or_false] at member <;> aesop
  have first : Traced a
      { a with extraMetadata := a.extraMetadata.merge (bundleMetadata out.cwOutput out.brandCheck out.seo) } :=
    .of_merge ⟨rfl, rfl, rfl⟩ rfl rfl bundled id
  refine first.trans (.of_merge ⟨rfl, rfl, rfl⟩ rfl rfl ?_ id)
  intro entry member
  split at member <;> simp only [List.mem_append, List.mem_cons, List.not_mem_nil, or_false] at member <;> aesop

/-- How `generate_asset` can end: with nothing written, a row put back or
failed, or a draft, which may submit its campaign. -/
inductive Generates (db : Db) (assetId : Uuid) (generation : Generation) (now : Int) : Db × Except AppError Unit → Prop where
  | missing (error : AppError) : Generates db assetId generation now (db, .error error)
  | raised {a : ContentAsset} (new : ContentAsset) (found : db.asset? assetId = some a) (traced : Traced a new)
      (status : new.status ∈ [.failed, .requested]) (error : AppError) :
      Generates db assetId generation now (db.setAsset new, .error error)
  | held {a new : ContentAsset} (message : String) (is : generation = .complianceError message)
      (found : db.asset? assetId = some a) (traced : Traced a new) (status : new.status = .failed) :
      Generates db assetId generation now (db.setAsset new, .ok ())
  | drafted {a : ContentAsset} {db' : Db} (out : GenerationOutput) (is : generation = .drafted out)
      (found : db.asset? assetId = some a)
      (submitted : maybeSubmitForApproval (db.setAsset (draftedRow out a)) a.campaignId now = .ok db') :
      Generates db assetId generation now (db', .ok ())
  | unsubmitted {a : ContentAsset} (out : GenerationOutput) (is : generation = .drafted out)
      (found : db.asset? assetId = some a) (error : AppError) :
      Generates db assetId generation now (db.setAsset (draftedRow out a), .error error)

theorem generateAsset_generates (db : Db) (assetId : Uuid) (generation : Generation) (now : Int) :
    Generates db assetId generation now (generateAsset db assetId generation now) := by
  unfold generateAsset
  split
  · exact .missing _
  · rename_i a found
    split
    · exact .missing _
    · dsimp only
      split
      · exact .raised { a with status := .failed } found ⟨⟨rfl, rfl, rfl⟩, rfl, rfl, rfl, id⟩ (by simp) _
      · cases generation with
        | complianceError message => exact .held message rfl found (.of_set ⟨rfl, rfl, rfl⟩ rfl rfl (by decide) id) rfl
        | raised message =>
          exact .raised { a with status := .requested } found ⟨⟨rfl, rfl, rfl⟩, rfl, rfl, rfl, id⟩ (by simp) _
        | drafted out =>
          dsimp only
          split
          · rename_i submitted
            exact .drafted out rfl found submitted
          · exact .unsubmitted out rfl found _

theorem maybeSubmitForApproval_writes {campaignId : Uuid} (done : maybeSubmitForApproval db campaignId now = .ok db') :
    Writes may now db db' := by
  unfold maybeSubmitForApproval at done
  split at done
  · cases Except.ok.inj done
    exact .refl
  · exact applyFrom_writes (by decide) done

/-- What a generation that ends well leaves its row as. -/
def Generation.leaves : Generation → List AssetStatus
  | .drafted _ => [.drafted]
  | .complianceError _ => [.failed]
  | .raised _ => []

theorem generateAsset_writes (assetId : Uuid) (generation : Generation)
    (asked : ∀ a status, db.asset? assetId = some a →
      status ∈ generation.leaves ∨ (generateAsset db assetId generation now).2 ≠ .ok () → may (.generates a status) db) :
    Writes may now db (generateAsset db assetId generation now).1 := by
  have generates := generateAsset_generates db assetId generation now
  generalize generateAsset db assetId generation now = result at asked generates
  cases generates with
  | missing error => exact .refl
  | @raised a new found traced status error =>
    have listed : new.status ∈ [.failed, .requested, .drafted] := by
      simp only [List.mem_cons, List.not_mem_nil, or_false] at status ⊢
      exact status.imp_right Or.inl
    exact .rewrite (Db.asset?_mem found).1 (.generated traced listed (asked a _ found (Or.inr (by simp))))
  | @held a new message is found traced status =>
    refine .rewrite (Db.asset?_mem found).1 (.generated traced (by simp [status]) (asked a _ found (Or.inl ?_)))
    simp [is, status, Generation.leaves]
  | @drafted a last out is found submitted =>
    have drafted : Writes may now db (db.setAsset (draftedRow out a)) := by
      refine .rewrite (Db.asset?_mem found).1
        (.generated (draftedRow_traced out a) (by simp [draftedRow]) (asked a _ found (Or.inl ?_)))
      simp [is, draftedRow, Generation.leaves]
    exact drafted.trans (maybeSubmitForApproval_writes submitted)
  | @unsubmitted a out is found error =>
    exact .rewrite (Db.asset?_mem found).1
      (.generated (draftedRow_traced out a) (by simp [draftedRow]) (asked a _ found (Or.inr (by simp))))

theorem regenerateAsset_writes {user : AppUser} {apiKey : Bool} {assetId : Uuid}
    (asked : UserRole.marketer.rank ≤ user.role.rank → apiKey = true → ∀ a, db.tenantAsset? user assetId = some a →
      may (.regenerates a) db)
    (done : regenerateAsset db user apiKey assetId now = .ok db') : Writes may now db db' := by
  simp only [regenerateAsset, bind_eq_ok, orRaise_eq_ok, require_eq_ok] at done
  obtain ⟨_, ranked, _, keyed, a, found, c, campaign, _, producing, queued⟩ := done
  have here := (Db.asset?_mem (Db.tenantAsset?_eq_some found)).1
  have stored := (Option.filter_eq_some_iff.mp campaign).1
  exact .single (.regenerate here stored producing rfl rfl rfl rfl queued (asked ranked keyed a found))

theorem clearComplianceBlock_writes {user : AppUser} {assetId : Uuid}
    (done : clearComplianceBlock db user assetId = .ok db') : Writes may now db db' := by
  simp only [clearComplianceBlock, bind_eq_ok, orRaise_eq_ok, pure_eq_ok] at done
  obtain ⟨_, _, a, found, compliance, _, rfl⟩ := done
  refine .rewrite (Db.asset?_mem (Db.tenantAsset?_eq_some found)).1
    (.annotated (.of_set ⟨rfl, rfl, rfl⟩ rfl rfl (by decide) id) rfl
      ⟨rfl, rfl, Dict.get?_set_ne _ _ (by decide), Dict.get?_set_ne _ _ (by decide), ?_⟩)
  intro _
  have blocked : Dict.get? ((Dict.set compliance "blocked" (.bool false)).set "cleared_by_user_id"
      (.str (uuidStr user.id))) "blocked" = some (.bool false) := by
    rw [Dict.get?_set_ne _ _ (by decide), Dict.get?_set_self]
  simp [isComplianceBlocked, complianceOf, ContentAsset.tag, Json.dict?, blocked, Json.truthy]

theorem outreachTemplate_keys (audienceId : Uuid) (segment : Segment) (channel subject body : String) :
    ∀ entry ∈ (outreachTemplate audienceId segment channel subject body).2.2.2,
      entry.1 ∉ ["touchpoint_id", "variant_index"] := by
  simp [outreachTemplate]

/-- The templates that a reply for the segment and channel overwrites. -/
def overwrittenTemplates (db : Db) (c : Campaign) (audienceId : Uuid) (entry : Segment × String × OutreachReply) :
    List ContentAsset :=
  match entry with
  | (segment, channel, .fields subject body) =>
    if body = "" ∨ channel ≠ "linkedin_dm" ∧ subject = "" then []
    else existingTemplates db c audienceId (if channel = "linkedin_dm" then .linkedinDm else .email) segment.key
  | (_, _, .failed _) | (_, _, .raised _) => []

theorem overwrittenTemplates_mem {c : Campaign} {audienceId : Uuid} {entry : Segment × String × OutreachReply}
    {a : ContentAsset} (listed : a ∈ overwrittenTemplates db c audienceId entry) :
    a ∈ db.assets ∧ ∀ start : Db, a ∈ start.assets → a ∈ overwrittenTemplates start c audienceId entry := by
  obtain ⟨segment, channel, reply⟩ := entry
  cases reply with
  | failed message => simp [overwrittenTemplates] at listed
  | raised message => simp [overwrittenTemplates] at listed
  | fields subject body =>
    unfold overwrittenTemplates at listed ⊢
    dsimp only at listed ⊢
    split at listed
    · simp at listed
    · rename_i usable
      obtain ⟨here, mine, kind⟩ := campaignRows_mem listed
      refine ⟨here, fun start there => ?_⟩
      rw [if_neg usable]
      exact List.mem_filter.mpr ⟨List.mem_filter.mpr ⟨there, decide_eq_true mine⟩, kind⟩

/-- One template: nothing, a new row, or the one there is overwritten. -/
theorem outreachDraft_cases {c : Campaign} {audienceId : Uuid} {overwrite : Bool} {segment : Segment}
    {channel : String} {reply : OutreachReply}
    (done : outreachDraft c audienceId overwrite db segment channel reply = .ok db') :
    db' = db ∨
    (∃ a, a.status = .drafted ∧ a.extraMetadata.get? "touchpoint_id" = none ∧ db' = db.insertAsset a) ∨
    (overwrite = true ∧ ∃ old ∈ overwrittenTemplates db c audienceId (segment, channel, reply),
      ∃ new, Traced old new ∧ new.status = .drafted ∧ db' = db.setAsset new) := by
  unfold outreachDraft at done
  dsimp only at done
  generalize templates : existingTemplates db c audienceId _ segment.key = existing at done
  rcases existing with _ | ⟨a, _ | ⟨b, rest⟩⟩
  · dsimp only at done
    repeat' split at done
    all_goals cases done
    all_goals first
      | exact Or.inl rfl
      | exact Or.inr (Or.inl ⟨_, rfl, by simp [outreachTemplate, Dict.get?], rfl⟩)
  · dsimp only at done
    split at done
    · cases Except.ok.inj done
      exact Or.inl rfl
    · rename_i wanted
      have asked : overwrite = true := by
        by_contra other
        exact wanted ⟨by simp, by simpa using other⟩
      cases reply with
      | failed message =>
        cases Except.ok.inj done
        exact Or.inl rfl
      | raised message => cases done
      | fields subject body =>
        dsimp only at done
        split at done
        · cases Except.ok.inj done
          exact Or.inl rfl
        · rename_i usable
          cases Except.ok.inj done
          have listed : a ∈ overwrittenTemplates db c audienceId (segment, channel, .fields subject body) := by
            unfold overwrittenTemplates
            dsimp only
            rw [if_neg usable, templates]
            exact List.mem_singleton_self a
          have keys := outreachTemplate_keys audienceId segment channel subject body
          refine Or.inr (Or.inr ⟨asked, a, listed, _, ?_, ?_, rfl⟩)
          · exact .of_merge ⟨rfl, rfl, rfl⟩ rfl rfl keys id
          · rfl
  · simp at done

/-- The loop overwrites rows it found at its start or drafted itself. -/
theorem outreachDrafts_writes {start : Db} {overwrite : Bool} {c : Campaign} {audienceId : Uuid}
    {replies : List (Segment × String × OutreachReply)}
    (overwrites : ∀ mid a, overwrite = true → a ∈ replies.flatMap (overwrittenTemplates start c audienceId) ∨
      a.status = .drafted → may (.overwrites a) mid)
    (creates : ∀ mid a, a.extraMetadata.get? "touchpoint_id" = none → may (.creates a) mid)
    (origin : ∀ a ∈ db.assets, a ∈ start.assets ∨ a.status = .drafted) :
    Writes may now db (outreachDrafts c audienceId overwrite db replies).1 := by
  induction replies generalizing db with
  | nil => exact .refl
  | cons entry replies ih =>
    have later : ∀ {next : Db}, (∀ a ∈ next.assets, a ∈ start.assets ∨ a.status = .drafted) →
        Writes may now next (outreachDrafts c audienceId overwrite next replies).1 :=
      ih fun mid a asked listed => overwrites mid a asked (listed.imp_left fun here => by
        rw [List.flatMap_cons]
        exact List.mem_append_right _ here)
    obtain ⟨segment, channel, reply⟩ := entry
    unfold outreachDrafts
    split
    · rename_i next drafted
      rcases outreachDraft_cases drafted with rfl | ⟨a, status, unplanned, rfl⟩ | ⟨asked, old, listed, new, traced, status, rfl⟩
      · exact later origin
      · refine .head (.create (by simp [status]) (creates db a unplanned)) (later fun b member => ?_)
        rcases List.mem_append.mp member with older | newest
        · exact origin b older
        · rw [List.mem_singleton.mp newest]
          exact Or.inr status
      · obtain ⟨here, again⟩ := overwrittenTemplates_mem listed
        have permitted : may (.overwrites old) db := by
          refine overwrites db old asked ((origin old here).imp_left fun there => ?_)
          rw [List.flatMap_cons]
          exact List.mem_append_left _ (again start there)
        refine .head (.rewrite here (.overwritten traced status permitted)) (later fun b member => ?_)
        rcases mem_updateWhere.mp member with ⟨_, _, _, rfl⟩ | ⟨older, _⟩
        · exact Or.inr status
        · exact origin b older
    · exact .refl

end Creator

theorem isComplianceBlocked_congr {a b : ContentAsset}
    (same : a.extraMetadata.get? "compliance" = b.extraMetadata.get? "compliance") :
    isComplianceBlocked a = isComplianceBlocked b := by
  unfold isComplianceBlocked complianceOf
  rw [same]

theorem applyEdits_get? (body : ApproveRequest) (a : ContentAsset) {key : String} (other : "fields" ≠ key) :
    (applyEdits body a).extraMetadata.get? key = a.extraMetadata.get? key := by
  simp only [applyEdits]
  split
  · rfl
  · exact Dict.get?_set_ne _ _ other

theorem applyEdits_traced (body : ApproveRequest) (a : ContentAsset) : Traced a (applyEdits body a) where
  id := rfl
  campaignId := rfl
  assetType := rfl
  tenantId := rfl
  touchpoint := applyEdits_get? body a (by decide)
  variant := applyEdits_get? body a (by decide)
  required := id

section Approvals

variable [PyText] {may : Cause → Db → Prop} {now : Int} {db db' : Db}

theorem requiresAdmin_congr {a b : ContentAsset} (c : Campaign)
    (same : a.extraMetadata.get? "approval_threshold" = b.extraMetadata.get? "approval_threshold") :
    requiresAdmin a c = requiresAdmin b c := by
  unfold requiresAdmin thresholdOf
  rw [same]

/-- An approval with or without edits, of a row the path has vetted as it was read. -/
theorem recordApproval_writes {user : AppUser} {a : ContentAsset} {path : ApprovalPath} {body : ApproveRequest}
    {edited : Bool} (here : a ∈ db.assets) (status : a.status ∈ [.drafted, .pendingApproval, .rejected])
    (api : path ∈ [.api, .batch, .ui]) (clean : isComplianceBlocked a = false)
    (admin : path ∈ [.api, .batch] → ∀ c, db.campaign? a.campaignId = some c → requiresAdmin a c = true →
      user.role = .admin) : Writes may now db (recordApproval db user a path body edited) := by
  have unasked : path ∈ [.assistant, .assistantAll] → may (.approves a) db := by
    intro assistant
    cases path <;> simp at api assistant
  cases edited with
  | false =>
    have vetted : Vetted db a a path user.role := ⟨.refl a, here, rfl, fun _ => clean, admin⟩
    exact .single (.approve (d := some (decisionRow a user .approved body.note none)) vetted (.refl a) status
      (by simp [decisionRow]) (by simp) unasked)
  | true =>
    have vetted : Vetted db a (applyEdits body a) path user.role :=
      { id := rfl
        campaignId := rfl
        assetType := rfl
        member := here
        blocked := isComplianceBlocked_congr (applyEdits_get? body a (by decide))
        checked := fun _ => clean
        admin := fun strict c found needs => admin strict c found (by
          rw [requiresAdmin_congr c (applyEdits_get? body a (by decide))] at needs
          exact needs) }
    exact .single (.approve (d := some (decisionRow a user .approvedWithEdits body.note (some (editsPayload body a))))
      vetted (applyEdits_traced body a) status (by simp [decisionRow]) (by simp) unasked)

theorem approveAsset_writes {user : AppUser} {assetId : Uuid} {body : ApproveRequest}
    (done : approveAsset db user assetId body now = .ok db') : Writes may now db db' := by
  simp only [approveAsset, bind_eq_ok, orRaise_eq_ok, require_eq_ok] at done
  obtain ⟨_, _, a, found, c, campaign, _, status, _, clean, _, admin, advanced⟩ := done
  have here := Db.asset?_mem (Db.tenantAsset?_eq_some found)
  have approved : Writes may now db (recordApproval db user a .api body body.hasEdits) :=
    recordApproval_writes here.1 (List.mem_cons_of_mem _ status) (by decide) clean fun _ c' found' needs => by
      have same : c' = c := by
        have stored := (Option.filter_eq_some_iff.mp campaign).1
        rw [found'] at stored
        exact Option.some.inj stored
      exact admin (same ▸ needs)
  exact approved.trans (applyFrom_writes (by decide) advanced)

theorem rejectAsset_writes {user : AppUser} {assetId : Uuid} {reason : String} {category : ApprovalRejectionCategory}
    (done : rejectAsset db user assetId reason category now = .ok db') : Writes may now db db' := by
  simp only [rejectAsset, bind_eq_ok, orRaise_eq_ok, require_eq_ok] at done
  obtain ⟨_, _, a, found, c, _, _, status, mid, queued, reverted⟩ := done
  have here := (Db.asset?_mem (Db.tenantAsset?_eq_some found)).1
  have rejected : Writes may now db ((db.insertDecision (decisionRow a user .rejected (some reason)
      (some [("category", .str category.value)]))).setAsset { a with status := .rejected }) :=
    .single (.reject (d := some _) here ⟨⟨rfl, rfl, rfl⟩, rfl, rfl, rfl, id⟩ (by simp [status]) rfl
      (by simp [decisionRow]) (by simp))
  have requeued := (rejected.trans (.side (sameCore_ensureAgent _ a.tenantId .contentCreator))).tail
    (.task (by simp [dispatchSkills]) queued)
  exact Writes.trans requeued (applyFrom_writes (by decide) reverted)

theorem batchExclusion_eq_none {user : AppUser} {a : ContentAsset} {c : Campaign}
    (eligible : batchExclusion user a c = none) :
    a.status ∈ [.pendingApproval, .rejected] ∧ isComplianceBlocked a = false ∧
      (requiresAdmin a c = true → user.role = .admin) := by
  unfold batchExclusion at eligible
  split at eligible
  · simp at eligible
  · rename_i status
    split at eligible
    · simp at eligible
    · rename_i clean
      split at eligible
      · simp at eligible
      · split at eligible
        · simp at eligible
        · rename_i allowed
          refine ⟨not_not.mp status, by simpa using clean, fun needs => ?_⟩
          by_contra other
          exact allowed ⟨needs, other⟩

theorem batchApproveOne_writes (user : AppUser) (dryRun : Bool) (writeFails : Dict Uuid String)
    (st : BatchState) (assetId : Uuid) :
    Writes may now st.db (batchApproveOne user dryRun writeFails st assetId).db := by
  unfold batchApproveOne
  split
  · exact .refl
  · rename_i a found
    split
    · exact .refl
    · rename_i c campaign
      split
      · exact .refl
      · rename_i eligible
        dsimp only
        split
        · exact .refl
        · split
          · exact .refl
          · have here := (Db.asset?_mem (Db.tenantAsset?_eq_some found)).1
            obtain ⟨status, clean, admin⟩ := batchExclusion_eq_none eligible
            have vetted : Vetted st.db a a .batch user.role :=
              ⟨.refl a, here, rfl, fun _ => clean, fun _ c' found' needs => admin (by
                have stored := (Option.filter_eq_some_iff.mp campaign).1
                rw [found'] at stored
                rw [← Option.some.inj stored]
                exact needs)⟩
            exact .single (.approve (d := some (decisionRow a user .approved none (some [("batch", .bool true)])))
              vetted (.refl a) (List.mem_cons_of_mem _ status) (by simp [decisionRow]) (by simp) (by simp))

theorem batchApprove_writes {user : AppUser} {assetIds : List Uuid} {dryRun : Bool}
    {writeFails : Dict Uuid String} {response : BatchApproveResponse}
    (done : batchApprove db user assetIds dryRun writeFails now = .ok (db', response)) : Writes may now db db' := by
  simp only [batchApprove, bind_eq_ok, pure_eq_ok, Prod.mk.injEq] at done
  obtain ⟨_, _, last, advanced, rfl, _⟩ := done
  have looped : ∀ (ids : List Uuid) (st : BatchState),
      Writes may now st.db (ids.foldl (batchApproveOne user dryRun writeFails) st).db := by
    intro ids
    induction ids with
    | nil => exact fun _ => .refl
    | cons id ids ih => exact fun st => (batchApproveOne_writes user dryRun writeFails st id).trans (ih _)
  have approved := looped assetIds { db := db }
  refine approved.trans ?_
  unfold batchAdvance at advanced
  split at advanced
  · cases Except.ok.inj advanced
    exact .refl
  · exact Writes.foldlM (fun _ _ _ step => applyFrom_writes (by decide) step) advanced

theorem approveViaUi_writes {user : AppUser} {assetId : Uuid} {form : Dict String String}
    {result : UiResult} (done : approveViaUi db user assetId form now = .ok (db', result)) : Writes may now db db' := by
  simp only [approveViaUi, bind_eq_ok, orRaise_eq_ok] at done
  obtain ⟨_, _, a, found, c, _, rest⟩ := done
  have here := (Db.asset?_mem (Db.tenantAsset?_eq_some found)).1
  split at rest
  · simp only [pure_eq_ok, Prod.mk.injEq] at rest
    exact rest.1 ▸ .refl
  · rename_i eligible
    have status : a.status ∈ [.drafted, .pendingApproval, .rejected] := by
      simp only [List.mem_cons, List.not_mem_nil, or_false, not_not] at eligible ⊢
      tauto
    split at rest
    · simp only [pure_eq_ok, Prod.mk.injEq] at rest
      exact rest.1 ▸ .refl
    · rename_i clean
      simp only [bind_eq_ok, pure_eq_ok, Prod.mk.injEq] at rest
      obtain ⟨last, advanced, rfl, _⟩ := rest
      have approved : ∀ edited, Writes may now db (recordApproval db user a .ui (uiRequest form) edited) := fun _ =>
        recordApproval_writes here status (by decide) (by simpa using clean) (by simp)
      exact (approved _).trans (tryAdvanceAfterApproval_writes advanced)

theorem rejectViaUi_writes {user : AppUser} {assetId : Uuid} {reason : String}
    {category : ApprovalRejectionCategory} {result : UiResult}
    (done : rejectViaUi db user assetId reason category now = .ok (db', result)) : Writes may now db db' := by
  simp only [rejectViaUi, bind_eq_ok] at done
  obtain ⟨_, _, rest⟩ := done
  split at rest
  · simp only [pure_eq_ok, Prod.mk.injEq] at rest
    exact rest.1 ▸ .refl
  · simp only [bind_eq_ok, orRaise_eq_ok] at rest
    obtain ⟨a, found, rest⟩ := rest
    have here := (Db.asset?_mem (Db.tenantAsset?_eq_some found)).1
    split at rest
    · simp only [pure_eq_ok, Prod.mk.injEq] at rest
      exact rest.1 ▸ .refl
    · rename_i eligible
      have status : a.status ∈ [.drafted, .pendingApproval] := by
        simp only [List.mem_cons, List.not_mem_nil, or_false, not_not] at eligible ⊢
        exact eligible.symm
      simp only [bind_eq_ok, pure_eq_ok, Prod.mk.injEq] at rest
      obtain ⟨last, advanced, rfl, _⟩ := rest
      have rejected : Writes may now db ((db.insertDecision (decisionRow a user .rejected (some (strip reason))
          (some [("category", .str category.value)]))).setAsset { a with status := .rejected, isRequired := false }) :=
        .single (.reject (d := some _) here ⟨⟨rfl, rfl, rfl⟩, rfl, rfl, rfl, by simp⟩
          status rfl (by simp [decisionRow]) (by simp))
      exact rejected.trans (tryAdvanceAfterApproval_writes advanced)

theorem upsertApprovalSettings_writes {user : AppUser} {adminAbove : Option Decimal} {cap : Decimal} {currency : String}
    (done : upsertApprovalSettings db user adminAbove cap currency = .ok db') : Writes may now db db' := by
  simp only [upsertApprovalSettings, bind_eq_ok, pure_eq_ok] at done
  obtain ⟨_, _, rfl⟩ := done
  exact .side ⟨rfl, rfl, rfl, rfl, rfl, rfl, rfl, rfl, le_rfl⟩

end Approvals

theorem sameCore_insertAudience (db : Db) (tenantId campaignId : Uuid) (members : List (String × Dict String Json))
    (now : Int) : SameCore db (insertAudience db tenantId campaignId members now) :=
  ⟨rfl, rfl, rfl, rfl, rfl, rfl, rfl, rfl, Nat.le_succ _⟩

theorem sameCore_addTouchpoints (db : Db) (proposalId : Uuid) (slots : List (String × Int × Int)) :
    SameCore db (db.addTouchpoints proposalId slots) := by
  induction slots generalizing db with
  | nil => exact .refl db
  | cons slot slots ih =>
    unfold Db.addTouchpoints
    refine SameCore.trans ?_ (ih _)
    exact ⟨rfl, rfl, rfl, rfl, rfl, rfl, rfl, rfl, Nat.le_succ _⟩

section Campaigns

variable [PyText] {may : Cause → Db → Prop} {db db' : Db} {user : AppUser} {now : Int}

theorem createCampaign_writes {draft : Campaign} (done : createCampaign db user draft = .ok db') :
    Writes may now db db' := by
  simp only [createCampaign, bind_eq_ok, pure_eq_ok] at done
  obtain ⟨_, _, _, _, rfl⟩ := done
  exact .single (.found rfl rfl)

theorem patchCampaign_writes {campaignId : Uuid} {patch : CampaignPatch}
    (done : patchCampaign db user campaignId patch = .ok db') : Writes may now db db' := by
  simp only [patchCampaign, bind_eq_ok, orRaise_eq_ok, pure_eq_ok] at done
  obtain ⟨_, _, c, found, _, _, _, _, rfl⟩ := done
  exact .single (.edit (Db.campaign?_mem (Db.tenantCampaign?_eq_some found)).1 rfl rfl)

theorem insertProposal_writes (db : Db) (campaignId : Uuid) (payload : Dict String Json) :
    Writes may now db (insertProposal db campaignId payload) :=
  .side ⟨rfl, rfl, rfl, rfl, rfl, rfl, rfl, rfl, Nat.le_succ _⟩

theorem applyTransition_writes {minimum : UserRole} {campaignId : Uuid} {name : String}
    (asks : minimum.rank ≤ user.role.rank → ∀ c, db.tenantCampaign? user campaignId = some c → Asks may db campaignId name)
    (done : applyTransition db user minimum campaignId name now = .ok db') : Writes may now db db' := by
  simp only [applyTransition, bind_eq_ok, orRaise_eq_ok, require_eq_ok] at done
  obtain ⟨_, ranked, c, found, applied⟩ := done
  have sameId : c.id = campaignId := (Db.campaign?_mem (Option.filter_eq_some_iff.mp found).1).2
  exact apply_writes (Db.tenantCampaign?_eq_some found) (sameId ▸ asks ranked c found) applied

theorem acceptStrategy_writes {proposalId : Uuid} {calendar : Except String (List (String × Int × Int))}
    (done : acceptStrategy db user proposalId calendar now = .ok db') : Writes may now db db' := by
  simp only [acceptStrategy, bind_eq_ok, orRaise_eq_ok] at done
  obtain ⟨_, _, p, _, rest⟩ := done
  split at rest
  · simp only [pure_eq_ok] at rest
    exact rest ▸ .refl
  · simp only [bind_eq_ok, orRaise_eq_ok] at rest
    obtain ⟨c, found, rest⟩ := rest
    cases calendar with
    | error message => simp at rest
    | ok slots =>
      have accepted : ∀ touchpoints, SameCore db
          ((({ db with touchpoints := touchpoints } : Db).acceptProposal p).addTouchpoints p.id slots) := by
        intro touchpoints
        refine SameCore.trans ?_ (sameCore_addTouchpoints _ p.id slots)
        exact ⟨rfl, rfl, rfl, rfl, rfl, rfl, rfl, rfl, le_rfl⟩
      dsimp only at rest
      split at rest
      · refine (Writes.side (accepted _)).trans (apply_writes ?_ (.of_plain (by decide)) rest)
        rw [(accepted _).untouched.campaign?_eq]
        exact Db.tenantCampaign?_eq_some found
      · simp only [pure_eq_ok] at rest
        exact rest ▸ .side (accepted _)

theorem analyseCampaign_writes (campaignId : Uuid) (autoPause : Bool)
    (sets : ∀ c, db.campaign? campaignId = some c → autoPause = true → c.status ≠ .paused → may (.sets c.id .paused) db) :
    Writes may now db (analyseCampaign db campaignId autoPause) := by
  unfold analyseCampaign
  split
  · rename_i c found
    split
    · rename_i pauses
      exact .single (.status (Db.campaign?_self found) ⟨pauses.2, rfl⟩ (by simp) (by simp) (by simp)
        fun _ => sets c found pauses.1 pauses.2)
    · exact .refl
  · exact .refl

theorem pauseCampaign_writes {c : Campaign} (found : db.campaign? c.id = some c)
    (sets : c.status ≠ .paused → may (.sets c.id .paused) db) : Writes may now db (pauseCampaign db c now) := by
  unfold pauseCampaign
  split
  · exact .refl
  · rename_i running
    have written : Write may now db (db.writeStatus c.id .paused .pauseHelper) :=
      .status found ⟨running, rfl⟩ (by simp) (by simp) (by simp) fun _ => sets running
    have stored := campaign?_writeStatus_self found .paused .pauseHelper
    have cancelled : Write may now (db.writeStatus c.id .paused .pauseHelper)
        ((db.writeStatus c.id .paused .pauseHelper).cancelQueued ({ c with status := .paused } : Campaign).id now) :=
      .cancel stored rfl
    exact .head written (.single cancelled)

end Campaigns

theorem Db.tenantAbTest?_self {db : Db} {user : AppUser} {id : Uuid} {test : AbTest}
    (found : db.tenantAbTest? user id = some test) :
    db.abTest? test.id = some test := by
  have stored := (Option.filter_eq_some_iff.mp found).1
  have hit := List.find?_some stored
  rw [of_decide_eq_true hit]
  exact stored

/-- As many rows as ids asked for: every id is stored. -/
theorem stored_of_counted {db : Db} (wf : db.Wf) {ids : List Uuid} {tenantId : Uuid}
    (counted : (db.assets.filter fun a => a.id ∈ ids ∧ a.tenantId = tenantId).length = ids.length) {id : Uuid}
    (member : id ∈ ids) : id ∈ db.assets.map ContentAsset.id := by
  have sub : (db.assets.filter fun a => a.id ∈ ids ∧ a.tenantId = tenantId).Sublist db.assets := List.filter_sublist
  have within : (db.assets.filter fun a => a.id ∈ ids ∧ a.tenantId = tenantId).map ContentAsset.id ⊆ ids := by
    intro found here
    obtain ⟨a, aMember, rfl⟩ := List.mem_map.mp here
    exact (of_decide_eq_true (List.mem_filter.mp aMember).2).1
  have perm := (List.subperm_of_subset (wf.assetIds.sublist (sub.map _)) within).perm_of_length_le
    (by rw [List.length_map, counted])
  exact (sub.map ContentAsset.id).subset (perm.mem_iff.mpr member)

/-- The archiving loop keeps the ids of the assets, and the tests. -/
theorem archiveLosers_keep (winnerId : Uuid) (rows : List ContentAsset) (db : Db) :
    (rows.foldl (archiveLoser winnerId) db).assets.map ContentAsset.id = db.assets.map ContentAsset.id ∧
      (rows.foldl (archiveLoser winnerId) db).abTests = db.abTests := by
  induction rows generalizing db with
  | nil => exact ⟨rfl, rfl⟩
  | cons v rows ih =>
    obtain ⟨ids, tests⟩ := ih (archiveLoser winnerId db v)
    have first : (archiveLoser winnerId db v).assets.map ContentAsset.id = db.assets.map ContentAsset.id ∧
        (archiveLoser winnerId db v).abTests = db.abTests := by
      unfold archiveLoser
      split
      · exact ⟨rfl, rfl⟩
      · exact ⟨setAsset_ids db _, rfl⟩
    exact ⟨ids.trans first.1, tests.trans first.2⟩

section AbTests

variable [PyText] {may : Cause → Db → Prop} {now : Int} {db db' : Db}

theorem addVariant_writes {user : AppUser} {apiKey : Bool} {testId : Uuid}
    (creates : ∀ a, a.isRequired = false → may (.creates a) db)
    (done : addVariant db user apiKey testId now = .ok db') : Writes may now db db' := by
  simp only [addVariant, bind_eq_ok] at done
  obtain ⟨_, _, _, _, _, _, rest⟩ := done
  split at rest
  · simp at rest
  · rename_i template others _
    simp only [bind_eq_ok] at rest
    obtain ⟨_, _, last, _, queued⟩ := rest
    have created : Write may now db (db.insertAsset (variantAsset template testId (last + 1))) :=
      .create (by simp [variantAsset]) (creates _ rfl)
    exact .head created ((Writes.side (sameCore_ensureAgent _ template.tenantId .contentCreator)).tail
      (.task (by simp [dispatchSkills]) queued))

theorem tagAsset_writes {key : String} (plain : key ∉ ["fields", "approval_threshold", "compliance"])
    (untraced : key ∉ ["touchpoint_id", "variant_index"]) (value : Json) (assetId : Uuid) :
    Writes may now db (db.tagAsset key value assetId) := by
  unfold Db.tagAsset
  cases found : db.asset? assetId with
  | none => exact .refl
  | some a =>
    exact .rewrite (Db.asset?_mem found).1 (.annotated (.of_set ⟨rfl, rfl, rfl⟩ rfl rfl untraced id) rfl
      (.of_set rfl rfl rfl plain))

theorem createAbTest_writes (wf : db.Wf) {user : AppUser} {campaignId : Uuid} {body : CreateAbTestRequest}
    (done : createAbTest db user campaignId body = .ok db') : Writes may now db db' := by
  obtain ⟨total, listed, counted, test, fresh, designing, undecided, _, split, rfl⟩ := createAbTest_eq_ok done
  have stored : ∀ entry ∈ body.trafficSplit, ∃ a ∈ db.assets, a.id = entry.1 := by
    intro entry member
    exact List.mem_map.mp (stored_of_counted wf counted (listed entry.1 (List.mem_map_of_mem member)))
  have inserted : Writes may now db { db with abTests := db.abTests ++ [test], nextId := db.nextId + 1 } :=
    .single (.newTest fresh designing undecided ⟨body.trafficSplit, split, body.keys, total, stored⟩)
  have linked : ∀ (value : Json) (mid : Db) (v : ContentAsset),
      Writes may now mid (mid.tagAsset "ab_test_group_id" value v.id) :=
    fun value _ v => tagAsset_writes (by decide) (by decide) value v.id
  exact inserted.trans (Writes.foldl (linked _) _)

theorem launchAbTest_writes {user : AppUser} {testId : Uuid}
    (done : launchAbTest db user testId now = .ok db') : Writes may now db db' := by
  simp only [launchAbTest, bind_eq_ok, pure_eq_ok, orRaise_eq_ok, require_eq_ok] at done
  obtain ⟨_, _, test, found, _, designing, _, _, _, _, rfl⟩ := done
  exact .single (.setTest (Db.tenantAbTest?_self found) (.launched designing (some now) rfl) (Or.inl rfl))

theorem stopAbTest_writes {user : AppUser} {testId : Uuid}
    (done : stopAbTest db user testId now = .ok db') : Writes may now db db' := by
  simp only [stopAbTest, bind_eq_ok, pure_eq_ok, orRaise_eq_ok, require_eq_ok] at done
  obtain ⟨_, _, test, found, _, active, rfl⟩ := done
  exact .single (.setTest (Db.tenantAbTest?_self found) (.stopped active (some now) rfl) (Or.inl rfl))

theorem variantsOrPair_sublist (db : Db) (user : AppUser) (test : AbTest) :
    (variantsOrPair db user test).Sublist db.assets := by
  unfold variantsOrPair
  split
  · exact List.filter_sublist
  · exact List.filter_sublist

theorem promoteAbTest_writes (wf : db.Wf) {user : AppUser} {testId : Uuid}
    (promotes : ∀ mid, may (.promotes testId) mid)
    (done : promoteAbTest db user testId = .ok db') : Writes may now db db' := by
  simp only [promoteAbTest, bind_eq_ok, pure_eq_ok, orRaise_eq_ok] at done
  obtain ⟨_, _, test, found, winnerId, decided, winner, winnerFound, _, _, rfl⟩ := done
  have significant := (Option.filter_eq_some_iff.mp decided).2
  have variants := variantsOrPair_sublist db user test
  obtain ⟨ids, tests⟩ := archiveLosers_keep winner.id (variantsOrPair db user test) db
  have archived : Writes may now db ((variantsOrPair db user test).foldl (archiveLoser winner.id) db) := by
    refine Writes.foldl_rows (fun v _ mid here => ?_) (fun mid v b here other => ?_)
      (fun v member => variants.subset member) (wf.assetIds.sublist (variants.map _))
    · unfold archiveLoser
      split
      · exact .refl
      · rename_i loses
        exact .rewrite here (.archived ⟨⟨rfl, rfl, rfl⟩, rfl, rfl, rfl, id⟩ rfl (by tauto) ⟨testId, promotes mid⟩)
    · unfold archiveLoser
      split
      · exact here
      · exact mem_setAsset_of_ne here other
  have stored : winner.id ∈ ((variantsOrPair db user test).foldl (archiveLoser winner.id) db).assets.map ContentAsset.id := by
    rw [ids]
    exact List.mem_map_of_mem (Db.asset?_mem (Db.tenantAsset?_eq_some winnerFound)).1
  have same : ((variantsOrPair db user test).foldl (archiveLoser winner.id) db).abTest? test.id = some test := by
    unfold Db.abTest?
    rw [tests]
    exact Db.tenantAbTest?_self found
  refine archived.tail (.setTest same (.promoted (of_decide_eq_true significant) _ rfl)
    (Or.inr ⟨[(winner.id, 100)], rfl, by simp, by simp, ?_⟩))
  simpa using stored

theorem evaluateTest_writes (db : Db) (testId : Uuid) (decision : AbDecision) :
    Writes may now db (evaluateTest db testId decision now) := by
  unfold evaluateTest
  split
  · exact .refl
  · rename_i test found
    have stored : db.abTest? test.id = some test := by
      have hit := List.find?_some found
      rw [of_decide_eq_true hit]
      exact found
    split
    · exact .refl
    · rename_i running
      have evaluated : ∀ status ∈ [AbTestStatus.running, .significant, .inconclusive], ∀ winnerId lastEvaluatedAt,
          Writes may now db (db.setAbTest
            { test with status := status, winnerId := winnerId, lastEvaluatedAt := lastEvaluatedAt }) :=
        fun status verdict winnerId lastEvaluatedAt =>
          .single (.setTest stored (.evaluated (not_not.mp running) status verdict winnerId lastEvaluatedAt rfl) (Or.inl rfl))
      split
      · exact .refl
      · split
        · split
          · exact .refl
          · dsimp only
            split
            · exact evaluated _ (by simp) _ _
            · split
              · exact evaluated .inconclusive (by simp) test.winnerId _
              · have still := evaluated .running (by simp) test.winnerId (some now)
                rw [← not_not.mp running] at still
                exact still
        · exact .refl

end AbTests

end MarketingAgents
