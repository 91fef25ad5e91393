import MarketingAgents.Content.Forked

namespace MarketingAgents

open Lib PyText

section Reads

variable {start d e : Db} {settings : List TenantApprovalSettings}

theorem Twin.asset? (twin : Twin start settings d e) (id : Uuid) : e.asset? id = d.asset? id := by
  rw [twin.apart]
  rfl

theorem Twin.tenantAsset? (twin : Twin start settings d e) (user : AppUser) (id : Uuid) :
    e.tenantAsset? user id = d.tenantAsset? user id := by
  rw [twin.apart]
  rfl

theorem Twin.tenantCampaign? (twin : Twin start settings d e) (user : AppUser) (id : Uuid) :
    e.tenantCampaign? user id = d.tenantCampaign? user id := by
  rw [twin.apart]
  rfl

theorem Twin.tenantAbTest? (twin : Twin start settings d e) (user : AppUser) (id : Uuid) :
    e.tenantAbTest? user id = d.tenantAbTest? user id := by
  rw [twin.apart]
  rfl

end Reads

section Rows

variable {start d e : Db} {settings : List TenantApprovalSettings}

theorem Twin.setAsset (twin : Twin start settings d e) {new : ContentAsset} (settled : new.status ≠ .pendingApproval) :
    Twin start settings (d.setAsset new) (e.setAsset new) := by
  obtain ⟨steady, rfl⟩ := twin
  exact ⟨steady.setAsset settled, rfl⟩

theorem Twin.annotate (twin : Twin start settings d e) {old new : ContentAsset} (here : old ∈ d.assets)
    (id : new.id = old.id) (status : new.status = old.status) (threshold : new.threshold = old.threshold) :
    Twin start settings (d.setAsset new) (e.setAsset new) := by
  obtain ⟨steady, rfl⟩ := twin
  exact ⟨steady.annotate here id status threshold, rfl⟩

theorem Twin.insertAsset (twin : Twin start settings d e) {a : ContentAsset} (settled : a.status ≠ .pendingApproval) :
    Twin start settings (d.insertAsset a) (e.insertAsset a) := by
  obtain ⟨steady, rfl⟩ := twin
  exact ⟨steady.insertAsset settled, rfl⟩

theorem Twin.insertDecision (twin : Twin start settings d e) (row : ApprovalDecisionLog) :
    Twin start settings (d.insertDecision row) (e.insertDecision row) := by
  obtain ⟨steady, rfl⟩ := twin
  exact ⟨steady.of_assets rfl rfl, rfl⟩

theorem Twin.setAbTest (twin : Twin start settings d e) (test : AbTest) :
    Twin start settings (d.setAbTest test) (e.setAbTest test) := by
  obtain ⟨steady, rfl⟩ := twin
  exact ⟨steady.of_assets rfl rfl, rfl⟩

theorem Twin.writeApproved (twin : Twin start settings d e) (a : ContentAsset) (path : ApprovalPath) (role : UserRole) :
    Twin start settings (d.writeApproved a path role) (e.writeApproved a path role) := by
  obtain ⟨steady, rfl⟩ := twin
  have written : Unsubmitted start (d.setAsset { a with status := .approved }) := steady.setAsset (by simp)
  exact ⟨written.of_assets rfl rfl, rfl⟩

theorem Twin.recordApproval (twin : Twin start settings d e) (user : AppUser) (a : ContentAsset) (path : ApprovalPath)
    (body : ApproveRequest) (edited : Bool) :
    Twin start settings (recordApproval d user a path body edited) (recordApproval e user a path body edited) :=
  (twin.insertDecision _).writeApproved _ _ _

end Rows

section Reviews

variable [PyText] {start d e : Db} {settings : List TenantApprovalSettings} {now : Int}

theorem maybeAdvanceToReadyToLaunch_twin (twin : Twin start settings d e) (campaignId : Uuid) :
    Alike (Twin start settings) (maybeAdvanceToReadyToLaunch d campaignId now)
      (maybeAdvanceToReadyToLaunch e campaignId now) :=
  applyFrom_twin twin (by decide) campaignId now

theorem approveAsset_twin (twin : Twin start settings d e) (user : AppUser) (assetId : Uuid) (body : ApproveRequest) :
    Alike (Twin start settings) (approveAsset d user assetId body now) (approveAsset e user assetId body now) := by
  unfold approveAsset
  rw [twin.tenantAsset?]
  refine .read fun _ _ => .read fun a _ => ?_
  rw [twin.tenantCampaign?]
  exact .read fun c _ => .read fun _ _ => .read fun _ _ => .read fun _ _ =>
    maybeAdvanceToReadyToLaunch_twin (twin.recordApproval user a .api body body.hasEdits) c.id

theorem rejectAsset_twin (twin : Twin start settings d e) (user : AppUser) (assetId : Uuid) (reason : String)
    (category : ApprovalRejectionCategory) :
    Alike (Twin start settings) (rejectAsset d user assetId reason category now)
      (rejectAsset e user assetId reason category now) := by
  unfold rejectAsset
  rw [twin.tenantAsset?]
  refine .read fun _ _ => .read fun a _ => ?_
  rw [twin.tenantCampaign?]
  refine .read fun c _ => .read fun _ _ => ?_
  have settled : ({ a with status := .rejected } : ContentAsset).status ≠ .pendingApproval := by simp
  obtain ⟨agent, sameId⟩ := ((twin.insertDecision (decisionRow a user .rejected (some reason)
    (some [("category", .str category.value)]))).setAsset settled).ensureAgent a.tenantId .contentCreator
  dsimp only
  rw [sameId]
  exact (agent.enqueue _ now).bind fun _ _ queued => applyFrom_twin queued (by decide) c.id now

/-- The loop of a batch, less its tables. -/
structure TwinBatch (start : Db) (settings : List TenantApprovalSettings) (st st' : BatchState) : Prop where
  db : Twin start settings st.db st'.db
  rest : { st' with db := st.db } = st

theorem batchApproveOne_twin {st st' : BatchState} (twin : TwinBatch start settings st st') (user : AppUser) (dryRun : Bool)
    (writeFails : Dict Uuid String) (assetId : Uuid) :
    TwinBatch start settings (batchApproveOne user dryRun writeFails st assetId)
      (batchApproveOne user dryRun writeFails st' assetId) := by
  obtain ⟨db, channelCounts, campaignIds, currency, approved, excluded⟩ := st
  obtain ⟨db', channelCounts', campaignIds', currency', approved', excluded'⟩ := st'
  obtain ⟨tables, rest⟩ := twin
  cases rest
  dsimp only at tables
  have next : db'.nextId = db.nextId := by rw [tables.apart]; rfl
  unfold batchApproveOne
  dsimp only
  rw [tables.tenantAsset?]
  cases db.tenantAsset? user assetId with
  | none => exact ⟨tables, rfl⟩
  | some a =>
    dsimp only
    rw [tables.tenantCampaign?]
    cases db.tenantCampaign? user a.campaignId with
    | none => exact ⟨tables, rfl⟩
    | some c =>
      dsimp only
      cases batchExclusion user a c with
      | some exclusion => exact ⟨tables, rfl⟩
      | none =>
        dsimp only
        split
        · exact ⟨tables, rfl⟩
        · split
          · exact ⟨tables, rfl⟩
          · exact ⟨(tables.insertDecision _).writeApproved a .batch user.role, by rw [next]⟩

theorem batchApprove_twin (twin : Twin start settings d e) (user : AppUser) (assetIds : List Uuid) (dryRun : Bool)
    (writeFails : Dict Uuid String) :
    Alike (fun made made' => Twin start settings made.1 made'.1 ∧ made'.2 = made.2)
      (batchApprove d user assetIds dryRun writeFails now) (batchApprove e user assetIds dryRun writeFails now) := by
  have looped : TwinBatch start settings (assetIds.foldl (batchApproveOne user dryRun writeFails) { db := d })
      (assetIds.foldl (batchApproveOne user dryRun writeFails) { db := e }) :=
    List.foldl_rel ⟨twin, rfl⟩ fun assetId _ _ _ mid => batchApproveOne_twin mid user dryRun writeFails assetId
  unfold batchApprove
  dsimp only
  generalize assetIds.foldl (batchApproveOne user dryRun writeFails) { db := d } = st at looped ⊢
  generalize assetIds.foldl (batchApproveOne user dryRun writeFails) { db := e } = st' at looped ⊢
  obtain ⟨db, channelCounts, campaignIds, currency, approved, excluded⟩ := st
  obtain ⟨db', channelCounts', campaignIds', currency', approved', excluded'⟩ := st'
  obtain ⟨tables, rest⟩ := looped
  cases rest
  dsimp only at tables ⊢
  have campaigns : db'.campaign? = db.campaign? := funext tables.campaign?
  rw [campaigns]
  refine .read fun _ _ => .bind ?_ fun _ _ last => .pure ⟨last, rfl⟩
  unfold batchAdvance
  split
  · exact .ok tables
  · exact .foldlM tables fun id _ _ _ mid => maybeAdvanceToReadyToLaunch_twin mid id

omit [PyText] in
theorem asset?_of_mem (wf : d.Wf) {a : ContentAsset} (member : a ∈ d.assets) : d.asset? a.id = some a := by
  cases found : d.asset? a.id with
  | none =>
    have missed := List.find?_eq_none.mp found a member
    simp at missed
  | some b =>
    obtain ⟨here, named⟩ := Db.asset?_mem found
    rw [eq_of_key_eq wf.assetIds here member named]

theorem campaign?_flip (db : Db) (c : Campaign) (t : Int) (id : Uuid) :
    (flipDraftedAssetsToPendingApproval db c t).campaign? id = db.campaign? id := by
  unfold Db.campaign?
  rw [flip_eq, submitRows_campaigns]

/-- After a submission the launch is refused: what has been submitted waits for its approval. -/
theorem applyFrom_launch_of_submitted {c : Campaign} (found : d.campaign? c.id = some c) (drafts : draftsFor d c ≠ [])
    (pending : c.status = .approvalPending) (t : Int) :
    applyFrom .approvalPending "start_launch" (flipDraftedAssetsToPendingApproval d c t) c.id now =
      .ok (flipDraftedAssetsToPendingApproval d c t) := by
  obtain ⟨a, listed⟩ := List.exists_mem_of_ne_nil _ drafts
  obtain ⟨b, chosen, _, there⟩ := @submitRows_submits (d.snapshotFor c t) _ _ _ listed
    (List.mem_map_of_mem (mem_draftsFor listed).1)
  obtain ⟨_, mine, required, _⟩ := mem_draftsFor chosen
  have stored : (flipDraftedAssetsToPendingApproval d c t).campaign? c.id = some c := by
    rw [campaign?_flip, found]
  have refused : Guard.allRequiredAssetsApproved.holds (flipDraftedAssetsToPendingApproval d c t) c now = false := by
    have waits : submittedRow (d.snapshotFor c t) b ∈ (flipDraftedAssetsToPendingApproval d c t).requiredAssets c.id :=
      mem_requiredAssets.mpr ⟨there, mine, required⟩
    refine Bool.eq_false_iff.mpr fun holds => ?_
    have all := List.all_eq_true.mp (Bool.and_eq_true_iff.mp holds).2 _ waits
    exact absurd (of_decide_eq_true all) (by simp [submittedRow])
  unfold applyFrom
  rw [stored]
  dsimp only
  rw [if_pos pending]
  have failed : apply (flipDraftedAssetsToPendingApproval d c t) c "start_launch" now =
      .error (.guardFailed "start_launch" c.status) := by
    have chosen : campaignSm.find? (fun tr => tr.fromState = c.status ∧ tr.name = "start_launch") = some
        { name := "start_launch", fromState := .approvalPending, toState := .readyToLaunch
          guard := some .allRequiredAssetsApproved, onEnter := some .scheduleApprovedAssets } := by
      rw [pending]
      decide
    unfold apply
    rw [chosen]
    simp [orRaise, require, guardHolds, refused, bind, Except.bind]
  unfold tryApply
  rw [failed]

theorem tryAdvanceAfterApproval_forked (twin : Twin start settings d e) (campaignId : Uuid) :
    Alike (Forked start settings now campaignId) (tryAdvanceAfterApproval d campaignId now)
      (tryAdvanceAfterApproval e campaignId now) := by
  refine (applyFrom_forked twin _ _ _ _).bind fun mid mid' forked => ?_
  cases forked with
  | twin twin => exact (applyFrom_twin twin (by decide) campaignId now).mono fun _ _ => .twin
  | @submitted mid mid' c twin mine found pending drafts =>
    subst mine
    have found' := (twin.campaign? c.id).trans found
    have drafts' : draftsFor mid' c ≠ [] := by
      rw [twin.apart]
      exact drafts
    rw [applyFrom_launch_of_submitted found drafts pending, applyFrom_launch_of_submitted found' drafts' pending]
    exact .ok (.submitted twin rfl found pending drafts)

end Reviews

section Pages

variable [PyText] {start d e : Db} {settings : List TenantApprovalSettings} {now : Int}

/-- What one operation reaches under two settings, whichever campaign it submits. -/
def ForkedSomewhere (start : Db) (settings : List TenantApprovalSettings) (now : Int) (d e : Db) : Prop :=
  ∃ campaignId, Forked start settings now campaignId d e

theorem Twin.forked (twin : Twin start settings d e) : ForkedSomewhere start settings now d e := ⟨0, .twin twin⟩

theorem approveViaUi_forked (twin : Twin start settings d e) (user : AppUser) (assetId : Uuid) (form : Dict String String) :
    Alike (fun made made' => ForkedSomewhere start settings now made.1 made'.1) (approveViaUi d user assetId form now)
      (approveViaUi e user assetId form now) := by
  unfold approveViaUi
  rw [twin.tenantAsset?]
  refine .read fun _ _ => .read fun a _ => ?_
  rw [twin.tenantCampaign?]
  refine .read fun c _ => ?_
  split
  · exact .pure twin.forked
  · split
    · exact .pure twin.forked
    · exact (tryAdvanceAfterApproval_forked (twin.recordApproval user a .ui _ _) c.id).bind fun _ _ forked =>
        .pure ⟨c.id, forked⟩

theorem rejectViaUi_forked (twin : Twin start settings d e) (user : AppUser) (assetId : Uuid) (reason : String)
    (category : ApprovalRejectionCategory) :
    Alike (fun made made' => ForkedSomewhere start settings now made.1 made'.1)
      (rejectViaUi d user assetId reason category now) (rejectViaUi e user assetId reason category now) := by
  unfold rejectViaUi
  refine .read fun _ _ => ?_
  split
  · exact .pure twin.forked
  · rw [twin.tenantAsset?]
    refine .read fun a _ => ?_
    split
    · exact .pure twin.forked
    · have settled : ({ a with status := .rejected, isRequired := false } : ContentAsset).status ≠ .pendingApproval := by
        simp
      exact (tryAdvanceAfterApproval_forked ((twin.insertDecision _).setAsset settled) a.campaignId).bind
        fun _ _ forked => .pure ⟨a.campaignId, forked⟩

end Pages

section Generation

variable [PyText] {start d e : Db} {settings : List TenantApprovalSettings} {now : Int}

theorem maybeSubmitForApproval_forked (twin : Twin start settings d e) (campaignId : Uuid) :
    Alike (Forked start settings now campaignId) (maybeSubmitForApproval d campaignId now)
      (maybeSubmitForApproval e campaignId now) := by
  have required : e.requiredAssets campaignId = d.requiredAssets campaignId := by
    rw [twin.apart]
    rfl
  unfold maybeSubmitForApproval
  rw [required]
  split
  · exact .ok (.twin twin)
  · exact applyFrom_forked twin _ _ _ _

/-- The handler relates what a write of its row and the submission at its end relate. -/
theorem generateAsset_related {R : Db → Db → Prop} (twin : Twin start settings d e) {assetId : Uuid}
    (generation : Generation) (kept : R d e)
    (written : ∀ new, new.id = assetId → new.status ≠ .pendingApproval → R (d.setAsset new) (e.setAsset new))
    (submits : ∀ a out, d.asset? assetId = some a → Alike R
      (maybeSubmitForApproval (d.setAsset (draftedRow out a)) a.campaignId now)
      (maybeSubmitForApproval (e.setAsset (draftedRow out a)) a.campaignId now)) :
    R (generateAsset d assetId generation now).1 (generateAsset e assetId generation now).1 ∧
      (generateAsset e assetId generation now).2 = (generateAsset d assetId generation now).2 := by
  unfold generateAsset
  rw [twin.asset?]
  cases found : d.asset? assetId with
  | none => exact ⟨kept, rfl⟩
  | some a =>
    have named : a.id = assetId := (Db.asset?_mem found).2
    dsimp only
    rw [twin.campaign?]
    cases d.campaign? a.campaignId with
    | none => exact ⟨kept, rfl⟩
    | some c =>
      dsimp only
      cases planForPlatform (lower (str ((a.extraMetadata.get? "channel_platform").getD (.str "")))) with
      | none => exact ⟨written _ named (by simp), rfl⟩
      | some plan =>
        cases generation with
        | complianceError message => exact ⟨written _ named (by simp), rfl⟩
        | raised message => exact ⟨written _ named (by simp), rfl⟩
        | drafted out =>
          have drafted := written (draftedRow out a) named (by simp [draftedRow])
          have submitted := submits a out found
          dsimp only
          revert submitted
          generalize maybeSubmitForApproval (d.setAsset (draftedRow out a)) a.campaignId now = x
          generalize maybeSubmitForApproval (e.setAsset (draftedRow out a)) a.campaignId now = y
          intro submitted
          cases submitted with
          | error error => exact ⟨drafted, rfl⟩
          | ok related => exact ⟨related, rfl⟩

theorem generateAsset_forked (twin : Twin start settings d e) {assetId campaignId : Uuid}
    (mine : ∀ a, d.asset? assetId = some a → a.campaignId = campaignId) (generation : Generation) :
    Forked start settings now campaignId (generateAsset d assetId generation now).1
        (generateAsset e assetId generation now).1 ∧
      (generateAsset e assetId generation now).2 = (generateAsset d assetId generation now).2 :=
  generateAsset_related twin generation (.twin twin) (fun _ _ settled => .twin (twin.setAsset settled)) fun a out found => by
    rw [mine a found]
    exact maybeSubmitForApproval_forked (twin.setAsset (by simp [draftedRow])) campaignId

omit [PyText] in
theorem asset?_setAsset_of_ne (db : Db) {new : ContentAsset} {id : Uuid} (other : new.id ≠ id) :
    (db.setAsset new).asset? id = db.asset? id := by
  have passed : ∀ row : ContentAsset, decide (row.id = new.id) = true →
      decide (new.id = id) = decide (row.id = id) := by
    intro row same
    rw [of_decide_eq_true same]
  have found := find?_updateWhere (q := fun row : ContentAsset => decide (row.id = id))
    (p := fun row => decide (row.id = new.id)) (f := fun _ => new) db.assets passed
  refine found.trans ?_
  cases hit : db.assets.find? fun row => decide (row.id = id) with
  | none => exact hit.symm
  | some row =>
    have named : row.id = id := by simpa using List.find?_some hit
    have missed : decide (row.id = new.id) = false := decide_eq_false fun same => other (same.symm.trans named)
    rw [Option.map_some, missed]
    exact hit.symm

/-- While another asset of the campaign waits for its generation, nothing is
submitted, and the other assets stay as they are. -/
theorem generateAsset_waits (twin : Twin start settings d e) {assetId campaignId : Uuid}
    (mine : ∀ a, d.asset? assetId = some a → a.campaignId = campaignId) {b : ContentAsset} (here : b ∈ d.assets)
    (other : b.id ≠ assetId) (waits : b.campaignId = campaignId ∧ b.isRequired = true ∧ b.status = .requested)
    (generation : Generation) :
    Twin start settings (generateAsset d assetId generation now).1 (generateAsset e assetId generation now).1 ∧
      ∀ id ≠ assetId, (generateAsset d assetId generation now).1.asset? id = d.asset? id := by
  let R : Db → Db → Prop := fun d' e' => Twin start settings d' e' ∧ ∀ id ≠ assetId, d'.asset? id = d.asset? id
  have written : ∀ new, new.id = assetId → new.status ≠ .pendingApproval → R (d.setAsset new) (e.setAsset new) :=
    fun new named settled => ⟨twin.setAsset settled, fun id differs =>
      asset?_setAsset_of_ne d fun same => differs (same.symm.trans named)⟩
  refine (generateAsset_related (R := R) twin generation ⟨twin, fun _ _ => rfl⟩ written fun a out found => ?_).1
  have named : a.id = assetId := (Db.asset?_mem found).2
  have drafted := written (draftedRow out a) named (by simp [draftedRow])
  have required : (e.setAsset (draftedRow out a)).requiredAssets a.campaignId =
      (d.setAsset (draftedRow out a)).requiredAssets a.campaignId := by
    rw [drafted.1.apart]
    rfl
  have listed : b ∈ (d.setAsset (draftedRow out a)).requiredAssets a.campaignId :=
    mem_requiredAssets.mpr ⟨mem_setAsset_of_ne here fun same => other (same.trans named), (mine a found).symm ▸ waits.1,
      waits.2.1⟩
  have blocked : ((d.setAsset (draftedRow out a)).requiredAssets a.campaignId).any
      (fun a => a.status ∈ [.requested, .generating, .failed]) = true :=
    List.any_eq_true.mpr ⟨b, listed, by simp [waits.2.2]⟩
  unfold maybeSubmitForApproval
  rw [required, if_pos blocked, if_pos blocked]
  exact .ok drafted

/-- An asset that the loop of the assistant has still to generate. -/
def Waits (db : Db) (campaignId id : Uuid) : Prop :=
  ∃ a, db.asset? id = some a ∧ a.campaignId = campaignId ∧ a.isRequired = true ∧ a.status = .requested

/-- The loop submits at its end alone. -/
theorem generateAll_forked (twin : Twin start settings d e) {campaignId : Uuid} {ids : List Uuid} (distinct : ids.Nodup)
    (waits : ∀ id ∈ ids, Waits d campaignId id) (generations : List Generation) :
    Forked start settings now campaignId (Assistant.generateAll now d ids generations)
      (Assistant.generateAll now e ids generations) := by
  induction ids generalizing d e generations with
  | nil => exact .twin twin
  | cons id ids ih =>
    obtain ⟨fresh, distinct⟩ := List.nodup_cons.mp distinct
    obtain ⟨first, waits⟩ := List.forall_mem_cons.mp waits
    obtain ⟨a, found, mine, _⟩ := first
    have own : ∀ b, d.asset? id = some b → b.campaignId = campaignId := by
      intro b found'
      cases found.symm.trans found'
      exact mine
    unfold Assistant.generateAll
    cases ids with
    | nil => exact (generateAsset_forked twin own _).1
    | cons next ids =>
      obtain ⟨b, there, waiting⟩ := waits next (List.mem_cons_self ..)
      obtain ⟨here, named⟩ := Db.asset?_mem there
      have other : b.id ≠ id := fun same => fresh (same ▸ named ▸ List.mem_cons_self ..)
      obtain ⟨generated, untouched⟩ := generateAsset_waits twin own here other waiting (generations.headD (.raised ""))
      refine ih generated distinct (fun later member => ?_) generations.tail
      obtain ⟨row, stored, facts⟩ := waits later member
      exact ⟨row, (untouched later fun same => fresh (same ▸ member)).trans stored, facts⟩

theorem regenerateAsset_twin (twin : Twin start settings d e) (user : AppUser) (apiKey : Bool) (assetId : Uuid) :
    Alike (Twin start settings) (regenerateAsset d user apiKey assetId now) (regenerateAsset e user apiKey assetId now) := by
  unfold regenerateAsset
  rw [twin.tenantAsset?]
  refine .read fun _ _ => .read fun _ _ => .read fun a _ => ?_
  rw [twin.tenantCampaign?]
  refine .read fun c _ => .read fun _ _ => ?_
  have settled : ({ a with status := .requested } : ContentAsset).status ≠ .pendingApproval := by simp
  obtain ⟨agent, sameId⟩ := (twin.setAsset settled).ensureAgent a.tenantId .contentCreator
  dsimp only
  rw [sameId]
  exact agent.enqueue _ now

theorem clearComplianceBlock_twin (twin : Twin start settings d e) (user : AppUser) (assetId : Uuid) :
    Alike (Twin start settings) (clearComplianceBlock d user assetId) (clearComplianceBlock e user assetId) := by
  unfold clearComplianceBlock
  rw [twin.tenantAsset?]
  refine .read fun _ _ => .read fun a found => .read fun compliance _ => .pure ?_
  have here := (Db.asset?_mem (Db.tenantAsset?_eq_some (orRaise_eq_ok.mp found))).1
  exact twin.annotate here rfl rfl (Dict.get?_set_ne _ _ (by decide))

theorem outreachDraft_twin (twin : Twin start settings d e) (c : Campaign) (audienceId : Uuid) (overwrite : Bool)
    (segment : Segment) (channel : String) (reply : OutreachReply) :
    Alike (Twin start settings) (outreachDraft c audienceId overwrite d segment channel reply)
      (outreachDraft c audienceId overwrite e segment channel reply) := by
  have existing : ∀ assetType, existingTemplates e c audienceId assetType segment.key =
      existingTemplates d c audienceId assetType segment.key := fun assetType => by
    rw [twin.apart]
    rfl
  unfold outreachDraft
  dsimp only
  rw [existing]
  generalize existingTemplates d c audienceId (if channel = "linkedin_dm" then AssetType.linkedinDm else .email) segment.key =
    stored
  rcases stored with _ | ⟨a, _ | ⟨b, more⟩⟩
  · cases reply with
    | failed message => exact .ok twin
    | raised message => exact .error _
    | fields subject body =>
      dsimp only
      split
      · exact .ok twin
      · split
        · exact .ok twin
        · exact .ok (twin.insertAsset (by simp))
  · dsimp only
    split
    · exact .ok twin
    · cases reply with
      | failed message => exact .ok twin
      | raised message => exact .error _
      | fields subject body =>
        dsimp only
        split
        · exact .ok twin
        · exact .ok (twin.setAsset (by simp))
  · exact .error _

theorem outreachDrafts_twin (twin : Twin start settings d e) (c : Campaign) (audienceId : Uuid) (overwrite : Bool)
    (replies : List (Segment × String × OutreachReply)) :
    Twin start settings (outreachDrafts c audienceId overwrite d replies).1 (outreachDrafts c audienceId overwrite e replies).1 ∧
      (outreachDrafts c audienceId overwrite e replies).2 = (outreachDrafts c audienceId overwrite d replies).2 := by
  induction replies generalizing d e with
  | nil => exact ⟨twin, rfl⟩
  | cons entry replies ih =>
    obtain ⟨segment, channel, reply⟩ := entry
    have drafted := outreachDraft_twin twin c audienceId overwrite segment channel reply
    unfold outreachDrafts
    revert drafted
    generalize outreachDraft c audienceId overwrite d segment channel reply = x
    generalize outreachDraft c audienceId overwrite e segment channel reply = y
    intro drafted
    cases drafted with
    | error error => exact ⟨twin, rfl⟩
    | ok related => exact ih related

end Generation

section Campaigns

variable [PyText] {start d e : Db} {settings : List TenantApprovalSettings} {now : Int}

omit [PyText] in
theorem createCampaign_twin (twin : Twin start settings d e) (user : AppUser) (draft : Campaign) :
    Alike (Twin start settings) (createCampaign d user draft) (createCampaign e user draft) := by
  obtain ⟨steady, rfl⟩ := twin
  unfold createCampaign
  exact .read fun _ _ => .read fun _ _ => .pure ⟨steady.of_assets rfl rfl, rfl⟩

omit [PyText] in
theorem patchCampaign_twin (twin : Twin start settings d e) (user : AppUser) (campaignId : Uuid) (patch : CampaignPatch) :
    Alike (Twin start settings) (patchCampaign d user campaignId patch) (patchCampaign e user campaignId patch) := by
  unfold patchCampaign
  rw [twin.tenantCampaign?]
  obtain ⟨steady, rfl⟩ := twin
  exact .read fun _ _ => .read fun c _ => .read fun _ _ => .read fun _ _ => .pure ⟨steady.of_assets rfl rfl, rfl⟩

omit [PyText] in
theorem insertProposal_twin (twin : Twin start settings d e) (campaignId : Uuid) (payload : Dict String Json) :
    Twin start settings (insertProposal d campaignId payload) (insertProposal e campaignId payload) := by
  obtain ⟨steady, rfl⟩ := twin
  exact ⟨steady.of_assets rfl rfl, rfl⟩

omit [PyText] in
theorem insertAudience_twin (twin : Twin start settings d e) (tenantId campaignId : Uuid)
    (members : List (String × Dict String Json)) (now : Int) :
    Twin start settings (insertAudience d tenantId campaignId members now)
      (insertAudience e tenantId campaignId members now) := by
  obtain ⟨steady, rfl⟩ := twin
  exact ⟨steady.of_assets rfl rfl, rfl⟩

theorem applyTransition_forked (twin : Twin start settings d e) (user : AppUser) (minimum : UserRole) (campaignId : Uuid)
    (name : String) :
    Alike (ForkedSomewhere start settings now) (applyTransition d user minimum campaignId name now)
      (applyTransition e user minimum campaignId name now) := by
  unfold applyTransition
  rw [twin.tenantCampaign?]
  refine .read fun _ _ => .read fun c found => ?_
  have stored := Db.tenantCampaign?_eq_some (orRaise_eq_ok.mp found)
  exact (apply_forked twin stored name now).mono fun _ _ forked => ⟨c.id, forked⟩

omit [PyText] in
theorem acceptProposal_twin (twin : Twin start settings d e) (p : StrategyProposal) :
    Twin start settings (d.acceptProposal p) (e.acceptProposal p) := by
  obtain ⟨steady, rfl⟩ := twin
  exact ⟨steady.of_assets rfl rfl, rfl⟩

omit [PyText] in
theorem addTouchpoints_twin (twin : Twin start settings d e) (proposalId : Uuid) (slots : List (String × Int × Int)) :
    Twin start settings (d.addTouchpoints proposalId slots) (e.addTouchpoints proposalId slots) := by
  induction slots generalizing d e with
  | nil => exact twin
  | cons slot slots ih =>
    obtain ⟨platform, position, scheduledAt⟩ := slot
    obtain ⟨steady, rfl⟩ := twin
    exact ih ⟨steady.of_assets rfl rfl, rfl⟩

theorem acceptStrategy_twin (twin : Twin start settings d e) (user : AppUser) (proposalId : Uuid)
    (calendar : Except String (List (String × Int × Int))) :
    Alike (Twin start settings) (acceptStrategy d user proposalId calendar now)
      (acceptStrategy e user proposalId calendar now) := by
  obtain ⟨steady, rfl⟩ := twin
  have cleared : ∀ others : List Uuid, Twin start settings
      { d with touchpoints := d.touchpoints.filter (·.proposalId ∉ others) }
      { d.withSettings settings with touchpoints := d.touchpoints.filter (·.proposalId ∉ others) } :=
    fun _ => ⟨steady.of_assets rfl rfl, rfl⟩
  unfold acceptStrategy
  refine .read fun _ _ => .read fun p _ => ?_
  split
  · exact .pure ⟨steady, rfl⟩
  · refine .read fun c _ => ?_
    cases calendar with
    | error message => exact .error _
    | ok slots =>
      have seeded := addTouchpoints_twin (acceptProposal_twin (cleared ((d.proposals.filter fun q =>
        q.campaignId = p.campaignId ∧ q.id ≠ p.id).map StrategyProposal.id)) p) p.id slots
      dsimp only
      split
      · exact apply_twin seeded c (by decide : "set_strategy" ≠ "submit_for_approval") now
      · exact .pure seeded

omit [PyText] in
theorem analyseCampaign_twin (twin : Twin start settings d e) (campaignId : Uuid) (autoPause : Bool) :
    Twin start settings (analyseCampaign d campaignId autoPause) (analyseCampaign e campaignId autoPause) := by
  unfold analyseCampaign
  rw [twin.campaign?]
  cases d.campaign? campaignId with
  | none => exact twin
  | some c =>
    dsimp only
    split
    · exact twin.writeStatus _ _ _
    · exact twin

end Campaigns

section Tests

variable [PyText] {start d e : Db} {settings : List TenantApprovalSettings} {now : Int}

theorem addVariant_twin (twin : Twin start settings d e) (user : AppUser) (apiKey : Bool) (testId : Uuid) :
    Alike (Twin start settings) (addVariant d user apiKey testId now) (addVariant e user apiKey testId now) := by
  have variants : listVariants e user testId = listVariants d user testId := by
    rw [twin.apart]
    rfl
  have next : e.nextId = d.nextId := by
    rw [twin.apart]
    rfl
  unfold addVariant
  rw [twin.tenantAbTest?, variants]
  refine .read fun _ _ => .read fun _ _ => .read fun _ _ => ?_
  split
  · exact .error _
  · rename_i template rest _
    refine .read fun _ _ => .read fun last _ => ?_
    have settled : (variantAsset template testId (last + 1)).status ≠ .pendingApproval := by simp [variantAsset]
    obtain ⟨agent, sameId⟩ := (twin.insertAsset settled).ensureAgent template.tenantId .contentCreator
    dsimp only
    rw [sameId, next]
    exact agent.enqueue _ now

theorem createAbTest_twin (twin : Twin start settings d e) (user : AppUser) (campaignId : Uuid)
    (body : CreateAbTestRequest) :
    Alike (Twin start settings) (createAbTest d user campaignId body) (createAbTest e user campaignId body) := by
  obtain ⟨steady, rfl⟩ := twin
  unfold createAbTest
  refine .read fun _ _ => .read fun _ _ => .read fun _ _ => .read fun _ _ => .read fun _ _ => .read fun _ _ => ?_
  have assets : (d.withSettings settings).assets = d.assets := rfl
  rw [assets]
  split
  · exact .error _
  · exact .read fun _ _ => .pure (List.foldl_rel ⟨steady.of_assets rfl rfl, rfl⟩ fun v _ _ _ mid =>
      mid.tagAsset (by decide) _ v.id)

theorem launchAbTest_twin (twin : Twin start settings d e) (user : AppUser) (testId : Uuid) :
    Alike (Twin start settings) (launchAbTest d user testId now) (launchAbTest e user testId now) := by
  obtain ⟨steady, rfl⟩ := twin
  unfold launchAbTest
  exact .read fun _ _ => .read fun _ _ => .read fun _ _ => .read fun _ _ => .read fun _ _ =>
    .pure ⟨steady.of_assets rfl rfl, rfl⟩

omit [PyText] in
theorem stopAbTest_twin (twin : Twin start settings d e) (user : AppUser) (testId : Uuid) :
    Alike (Twin start settings) (stopAbTest d user testId now) (stopAbTest e user testId now) := by
  obtain ⟨steady, rfl⟩ := twin
  unfold stopAbTest
  exact .read fun _ _ => .read fun _ _ => .read fun _ _ => .pure ⟨steady.of_assets rfl rfl, rfl⟩

omit [PyText] in
theorem archiveLoser_twin (twin : Twin start settings d e) (winnerId : Uuid) (v : ContentAsset) :
    Twin start settings (archiveLoser winnerId d v) (archiveLoser winnerId e v) := by
  unfold archiveLoser
  split
  · exact twin
  · exact twin.setAsset (by simp)

theorem promoteAbTest_twin (twin : Twin start settings d e) (user : AppUser) (testId : Uuid) :
    Alike (Twin start settings) (promoteAbTest d user testId) (promoteAbTest e user testId) := by
  have variants : ∀ test, variantsOrPair e user test = variantsOrPair d user test := fun test => by
    rw [twin.apart]
    rfl
  unfold promoteAbTest
  rw [twin.tenantAbTest?]
  refine .read fun _ _ => .read fun test _ => .read fun winnerId _ => ?_
  rw [twin.tenantAsset?]
  refine .read fun winner _ => .read fun _ _ => .pure ?_
  rw [variants]
  have archived : Twin start settings ((variantsOrPair d user test).foldl (archiveLoser winner.id) d)
      ((variantsOrPair d user test).foldl (archiveLoser winner.id) e) :=
    List.foldl_rel twin fun v _ _ _ mid => archiveLoser_twin mid winner.id v
  exact archived.setAbTest _

omit [PyText] in
theorem evaluateTest_twin (twin : Twin start settings d e) (testId : Uuid) (decision : AbDecision) :
    Twin start settings (evaluateTest d testId decision now) (evaluateTest e testId decision now) := by
  have found : e.abTest? testId = d.abTest? testId := by
    rw [twin.apart]
    rfl
  unfold evaluateTest
  rw [found]
  cases d.abTest? testId with
  | none => exact twin
  | some test =>
    dsimp only
    split
    · exact twin
    · split
      · exact twin
      · split
        · split
          · exact twin
          · exact twin.setAbTest _
        · exact twin

end Tests

section Dispatches

variable [PyText] {start d e : Db} {settings : List TenantApprovalSettings} {now : Int}

theorem maybeGoLive_twin (twin : Twin start settings d e) (c : Campaign) :
    Alike (Twin start settings) (maybeGoLive d c now) (maybeGoLive e c now) := by
  unfold maybeGoLive
  split
  · exact tryApply_alike c (apply_twin twin c (by decide) now) twin
  · exact .ok twin

omit [PyText] in
theorem Twin.updateWhere (twin : Twin start settings d e) (p : ContentAsset → Bool) {f : ContentAsset → ContentAsset}
    (settled : ∀ a, (f a).status ≠ .pendingApproval) :
    Twin start settings { d with assets := Lib.updateWhere p f d.assets } { e with assets := Lib.updateWhere p f e.assets } := by
  obtain ⟨steady, rfl⟩ := twin
  exact ⟨steady.updateWhere fun a _ _ status => absurd status (settled a), rfl⟩

theorem keepAssigned_withSettings (db : Db) (settings : List TenantApprovalSettings) (a : ContentAsset) (test : AbTest)
    (pending : List AbTestAssignment) (members : List AudienceMember) :
    keepAssigned (db.withSettings settings) a test pending members = keepAssigned db a test pending members := by
  have assigned : assignVariant (db.withSettings settings) = assignVariant db := rfl
  induction members generalizing pending with
  | nil => rfl
  | cons m rest ih => simp only [keepAssigned, assigned, ih]

theorem beginEmail_withSettings (db : Db) (settings : List TenantApprovalSettings) (secret : String) (assetId : Uuid) :
    beginEmail (db.withSettings settings) secret assetId now = beginEmail db secret assetId now := by
  have filtered : filterAudienceForAbTest (db.withSettings settings) = filterAudienceForAbTest db := by
    funext a members
    have running : runningAbTestForAsset (db.withSettings settings) a = runningAbTestForAsset db a := rfl
    unfold filterAudienceForAbTest
    simp only [running, keepAssigned_withSettings]
  unfold beginEmail planEmail
  rw [filtered]
  rfl

theorem commitEmail_twin (twin : Twin start settings d e) (plan : EmailPlan) (result : Option DispatchResult) :
    Alike (Twin start settings) (commitEmail d plan result now) (commitEmail e plan result now) := by
  have recorded : Twin start settings (d.recordEmail plan result now) (e.recordEmail plan result now) := by
    obtain ⟨steady, rfl⟩ := twin
    exact ⟨steady.of_assets rfl rfl, rfl⟩
  exact Alike.read fun _ _ => maybeGoLive_twin (recorded.updateWhere _ (by simp [publishedRow])) plan.campaign

theorem dispatchEmailAsset_twin (twin : Twin start settings d e) (secret : String) (assetId : Uuid)
    (answer : SendgridResponse) (batchId : Uuid) :
    Alike (Twin start settings) (dispatchEmailAsset d secret assetId answer batchId now)
      (dispatchEmailAsset e secret assetId answer batchId now) := by
  have begun : beginEmail e secret assetId now = beginEmail d secret assetId now := by
    rw [twin.apart, beginEmail_withSettings]
  have called : ∀ plan, callEmail e plan answer batchId = callEmail d plan answer batchId := fun plan => by
    rw [twin.apart]
    rfl
  unfold dispatchEmailAsset
  rw [begun]
  cases beginEmail d secret assetId now with
  | error error => exact .error _
  | ok begun =>
    cases begun with
    | none => exact .ok twin
    | some plan =>
      dsimp only
      rw [called]
      unfold finishEmail
      cases callEmail d plan answer batchId with
      | none => exact (commitEmail_twin twin plan none).mapError _
      | some outcome =>
        dsimp only
        cases outcome.result with
        | error error => exact .error _
        | ok result => exact (commitEmail_twin twin plan (some result)).mapError _

omit [PyText] in
theorem pauseCampaign_twin (twin : Twin start settings d e) (c : Campaign) :
    Twin start settings (pauseCampaign d c now) (pauseCampaign e c now) := by
  unfold pauseCampaign
  split
  · exact twin
  · exact (twin.writeStatus _ _ _).cancelQueued _ _

theorem dispatchSocialAsset_twin (twin : Twin start settings d e) (assetId : Uuid) (answer : SocialAnswer) :
    Alike (Twin start settings) (dispatchSocialAsset d assetId answer now) (dispatchSocialAsset e assetId answer now) := by
  have begun : beginSocial e assetId = beginSocial d assetId := by
    rw [twin.apart]
    rfl
  have called : ∀ plan, callSocial e plan answer = callSocial d plan answer := fun plan => by
    rw [twin.apart]
    rfl
  unfold dispatchSocialAsset
  rw [begun]
  cases beginSocial d assetId with
  | error error => exact .error _
  | ok begun =>
    cases begun with
    | none => exact .ok twin
    | some plan =>
      dsimp only
      rw [called]
      unfold finishSocial
      cases (callSocial d plan answer).result with
      | error failure =>
        cases failure with
        | revoked message => exact .ok ((pauseCampaign_twin twin plan.campaign).updateWhere _ (by simp [revokedRow]))
        | other error => exact .error _
      | ok result =>
        have recorded : Twin start settings (d.recordSocial plan result now) (e.recordSocial plan result now) := by
          obtain ⟨steady, rfl⟩ := twin
          exact ⟨steady.of_assets rfl rfl, rfl⟩
        refine Alike.mapError (Alike.read fun _ _ => ?_) _
        exact maybeGoLive_twin (recorded.updateWhere _ (by simp [publishedRow])) plan.campaign

end Dispatches

section Tools

variable [PyText] {start d e : Db} {settings : List TenantApprovalSettings} {now : Int}

/-- A refusal leaves both runs as they are. -/
theorem withCampaign_forked (twin : Twin start settings d e) {user : AppUser} {minimum : UserRole} {campaignId : Uuid}
    {run run' : Campaign → Assistant.ToolRun}
    (ran : ∀ c, d.tenantCampaign? user campaignId = some c → ForkedSomewhere start settings now (run c).1 (run' c).1) :
    ForkedSomewhere start settings now (Assistant.withCampaign d user minimum campaignId run).1
      (Assistant.withCampaign e user minimum campaignId run').1 := by
  unfold Assistant.withCampaign
  rw [twin.tenantCampaign?]
  split
  · exact twin.forked
  · cases found : d.tenantCampaign? user campaignId with
    | none => exact twin.forked
    | some c => exact ran c found

theorem withAsset_forked (twin : Twin start settings d e) {user : AppUser} {minimum : UserRole} {assetId : Uuid}
    {run run' : ContentAsset → Assistant.ToolRun}
    (ran : ∀ a, d.tenantAsset? user assetId = some a → ForkedSomewhere start settings now (run a).1 (run' a).1) :
    ForkedSomewhere start settings now (Assistant.withAsset d user minimum assetId run).1
      (Assistant.withAsset e user minimum assetId run').1 := by
  unfold Assistant.withAsset
  rw [twin.tenantAsset?]
  split
  · exact twin.forked
  · cases found : d.tenantAsset? user assetId with
    | none => exact twin.forked
    | some a => exact ran a found

theorem settle_forked {R : Db → Db → Prop} {x y : Except AppError Db} (alike : Alike R x y)
    (forked : ∀ d e, R d e → ForkedSomewhere start settings now d e) (kept : ForkedSomewhere start settings now d e) :
    ForkedSomewhere start settings now (Assistant.settle d x).1 (Assistant.settle e y).1 := by
  cases alike with
  | error error => exact kept
  | ok related => exact forked _ _ related

theorem advance_forked (twin : Twin start settings d e) (campaignId : Uuid) :
    ForkedSomewhere start settings now (Assistant.settle d (tryAdvanceAfterApproval d campaignId now)).1
      (Assistant.settle e (tryAdvanceAfterApproval e campaignId now)).1 :=
  settle_forked (tryAdvanceAfterApproval_forked twin campaignId) (fun _ _ forked => ⟨campaignId, forked⟩) twin.forked

/-- The status that `generate_content` writes at its end. -/
theorem startsProduction_forked {c : Campaign} (forked : Forked start settings now c.id d e) :
    Forked start settings now c.id
      (if (d.campaign? c.id).map (·.status) = some .strategySet then
        d.writeStatus c.id .contentInProduction .generateContent else d)
      (if (e.campaign? c.id).map (·.status) = some .strategySet then
        e.writeStatus c.id .contentInProduction .generateContent else e) := by
  cases forked with
  | twin twin =>
    rw [twin.campaign?]
    split
    · exact .twin (twin.writeStatus _ _ _)
    · exact .twin twin
  | @submitted mid mid' c' twin mine found pending drafts =>
    have stored : (flipDraftedAssetsToPendingApproval mid c' now).campaign? c.id = some c' := by
      rw [campaign?_flip, found]
    have stored' : (flipDraftedAssetsToPendingApproval mid' c' now).campaign? c.id = some c' := by
      rw [campaign?_flip, twin.campaign?, found]
    rw [stored, stored', Option.map_some, pending, if_neg (by decide), if_neg (by decide)]
    exact .submitted twin mine found pending drafts

/-- The generations that one confirmation asks for submit their drafts one by one,
and each of them reads the settings anew. -/
theorem generateContent_forked (twin : Twin start settings d e) (wf : d.Wf) (user : AppUser) (apiKey : Bool)
    (campaignId : Uuid) (confirm : Bool) (generations : List Generation) :
    ForkedSomewhere start settings now (Assistant.generateContent d user apiKey campaignId confirm generations now).1
      (Assistant.generateContent e user apiKey campaignId confirm generations now).1 := by
  have proposal : ∀ id, e.acceptedProposal? id = d.acceptedProposal? id := fun id => by
    rw [twin.apart]
    rfl
  have touchpoints : e.touchpoints = d.touchpoints := by
    rw [twin.apart]
    rfl
  refine withCampaign_forked twin fun c _ => ?_
  rw [proposal, touchpoints]
  split
  · exact twin.forked
  · split
    · exact twin.forked
    · split
      · exact twin.forked
      · split
        · exact twin.forked
        · have seeds := seedAssetsForCampaign_twin twin c now
          revert seeds
          generalize seedAssetsForCampaign e c now = result'
          generalize seeded : seedAssetsForCampaign d c now = result
          intro seeds
          cases seeds with
          | error error => exact twin.forked
          | @ok made made' related =>
            obtain ⟨db, ids⟩ := made
            obtain ⟨db', ids'⟩ := made'
            obtain ⟨tables, same⟩ := related
            cases same
            have seeding : Write (fun _ _ => True) now d db := .seed trivial seeded
            have seededWf : db.Wf := seeding.wf wf
            obtain ⟨rows, assets, sameIds, _, planted⟩ := (seedAssetsForCampaign_seeded wf seeded).rows
            have distinct : ids.Nodup := by
              have all := seededWf.assetIds
              rw [assets, List.map_append, sameIds] at all
              exact (List.nodup_append.mp all).2.1
            have waits : ∀ id ∈ ids, Waits db c.id id := by
              intro id listed
              rw [← sameIds] at listed
              obtain ⟨b, here, rfl⟩ := List.mem_map.mp listed
              obtain ⟨planned, there, plant⟩ := forall₂_origin planted here
              obtain ⟨status, required, campaign, _⟩ := seedRows_planned there
              have stored : b ∈ db.assets := assets ▸ List.mem_append_right _ here
              refine ⟨b, asset?_of_mem seededWf stored, ?_, ?_, ?_⟩
              · rw [plant.row]
                exact campaign
              · rw [plant.row]
                exact required
              · rw [plant.row]
                exact status
            exact ⟨c.id, startsProduction_forked (generateAll_forked tables distinct waits generations)⟩

/-- A tool of the assistant leaves two runs that differ in the approval settings
alone as such a pair again, or ends in submissions that find different settings. -/
theorem ToolCall.run_forked (twin : Twin start settings d e) (wf : d.Wf) (user : AppUser) (call : ToolCall) :
    ForkedSomewhere start settings now (call.run d user now).1 (call.run e user now).1 := by
  cases call with
  | pauseCampaign campaignId confirm =>
    refine withCampaign_forked twin fun c _ => ?_
    split
    · exact twin.forked
    · split
      · exact twin.forked
      · exact (pauseCampaign_twin twin c).forked
  | resumeCampaign campaignId =>
    refine withCampaign_forked twin fun c _ => ?_
    split
    · exact twin.forked
    · exact settle_forked (apply_twin twin c (by decide) now) (fun _ _ twin => twin.forked) twin.forked
  | completeCampaign campaignId confirm =>
    refine withCampaign_forked twin fun c _ => ?_
    split
    · exact twin.forked
    · split
      · exact twin.forked
      · exact settle_forked (apply_twin twin c (by decide) now) (fun _ _ twin => twin.forked) twin.forked
  | synthesiseAudience campaignId members =>
    change ForkedSomewhere start settings now (Assistant.synthesiseAudience d user campaignId members now).1
      (Assistant.synthesiseAudience e user campaignId members now).1
    unfold Assistant.synthesiseAudience
    split
    · exact twin.forked
    · refine withCampaign_forked twin fun c _ => ?_
      have inserted := insertAudience_twin twin user.tenantId c.id members now
      dsimp only
      split
      · exact (inserted.writeStatus _ _ _).forked
      · exact inserted.forked
  | acceptStrategy campaignId confirm calendar =>
    have latest : ∀ id, Assistant.latestUnaccepted e id = Assistant.latestUnaccepted d id := fun id => by
      rw [twin.apart]
      rfl
    have accepted : ∀ id, e.acceptedProposal? id = d.acceptedProposal? id := fun id => by
      rw [twin.apart]
      rfl
    refine withCampaign_forked twin fun c _ => ?_
    rw [latest, accepted]
    split
    · exact twin.forked
    · split
      · exact twin.forked
      · split
        · exact twin.forked
        · cases calendar with
          | error message => exact (acceptProposal_twin twin _).forked
          | ok slots =>
            have seeded := addTouchpoints_twin (acceptProposal_twin twin ‹StrategyProposal›) (StrategyProposal.id ‹_›) slots
            dsimp only
            split
            · exact (seeded.writeStatus _ _ _).forked
            · exact seeded.forked
  | generateContent apiKey campaignId confirm generations =>
    exact generateContent_forked twin wf user apiKey campaignId confirm generations
  | approveAllContent campaignId confirm =>
    have drafts : ∀ id, Assistant.openDrafts e id = Assistant.openDrafts d id := fun id => by
      rw [twin.apart]
      rfl
    refine withCampaign_forked twin fun c _ => ?_
    rw [drafts]
    dsimp only
    split
    · exact twin.forked
    · split
      · exact twin.forked
      · exact advance_forked (List.foldl_rel twin fun a _ _ _ mid => mid.writeApproved a _ _) c.id
  | approveAsset assetId =>
    refine withAsset_forked twin fun a _ => ?_
    split
    · exact twin.forked
    · split
      · exact twin.forked
      · exact advance_forked (twin.writeApproved a _ _) a.campaignId
  | rejectAsset assetId reason =>
    refine withAsset_forked twin fun a _ => ?_
    split
    · exact twin.forked
    · exact advance_forked (twin.setAsset (by simp)) a.campaignId
  | launchCampaign campaignId confirm =>
    refine withCampaign_forked twin fun c _ => ?_
    split
    · exact twin.forked
    · split
      · exact twin.forked
      · split
        · exact twin.forked
        · have written := twin.writeStatus c.id .live .launchCampaign
          dsimp only
          rw [written.campaign?]
          split
          · obtain ⟨steady, apart⟩ := written
            rw [apart]
            exact Twin.forked ⟨steady.of_assets rfl rfl, rfl⟩
          · exact written.forked
  | draftOutbound campaignId audienceId overwrite replies =>
    refine withCampaign_forked twin fun c _ => ?_
    obtain ⟨tables, same⟩ := outreachDrafts_twin twin c audienceId overwrite replies
    revert tables same
    generalize outreachDrafts c audienceId overwrite d replies = x
    generalize outreachDrafts c audienceId overwrite e replies = y
    obtain ⟨db, result⟩ := x
    obtain ⟨db', result'⟩ := y
    rintro tables rfl
    cases result' with
    | error error => exact tables.forked
    | ok done => exact tables.forked

end Tools

end MarketingAgents
