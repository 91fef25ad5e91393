import MarketingAgents.Content.Seeded

namespace MarketingAgents

open Lib PyText

/-- A row with the same texts whose metadata agrees on the three keys that matter. -/
theorem SameShipped.of_metadata {old new : ContentAsset} (title : new.title = old.title)
    (content : new.content = old.content)
    (keys : ∀ key ∈ ["fields", "approval_threshold", "compliance"],
      new.extraMetadata.get? key = old.extraMetadata.get? key) : SameShipped old new where
  title := title
  content := content
  fields := keys "fields" (by simp)
  threshold := keys "approval_threshold" (by simp)
  unblocked clean := by
    unfold isComplianceBlocked complianceOf at clean ⊢
    rw [keys "compliance" (by simp)]
    exact clean

theorem SameShipped.of_set {old new : ContentAsset} {key : String} {value : Json} (title : new.title = old.title)
    (content : new.content = old.content) (metadata : new.extraMetadata = old.extraMetadata.set key value)
    (other : key ∉ ["fields", "approval_threshold", "compliance"]) : SameShipped old new :=
  .of_metadata title content fun _ member => by
    rw [metadata]
    exact Dict.get?_set_ne _ _ fun same => other (same ▸ member)

section Seeding

variable [PyText] {l : Licence} {db db' : Db}

theorem Moves.of_untouched (same : Untouched db db') : Moves l db db' :=
  .single (.revise (.of_untouched rowOrder_revised same))

theorem Moves.setAsset (wf : db.Wf) {old new : ContentAsset} (member : old ∈ db.assets) (revised : Revised old new) :
    Moves l db (db.setAsset new) :=
  .single (.revise (.setAsset rowOrder_revised wf member revised))

theorem insertAssets_moves {rows : List ContentAsset} (unshipped : ∀ a ∈ rows, a.status.ships = false) (db : Db) :
    Moves l db (insertAssets db rows).1 := by
  induction rows generalizing db with
  | nil => exact .refl
  | cons a rows ih =>
    have first : Move l db (db.insertAsset a) := .create (unshipped a (List.mem_cons_self ..))
    exact .head first (ih (fun b later => unshipped b (List.mem_cons_of_mem _ later)) _)

theorem insertGroups_moves {groups : List (Option AbTestSpec × List ContentAsset)}
    (unshipped : ∀ group ∈ groups, ∀ a ∈ group.2, a.status.ships = false) (db : Db) :
    Moves l db (insertGroups db groups).1 := by
  induction groups generalizing db with
  | nil => exact .refl
  | cons group groups ih =>
    have first : Moves l db (insertAssets db group.2).1 :=
      insertAssets_moves (unshipped group (List.mem_cons_self ..)) db
    exact first.trans (ih (fun later member => unshipped later (List.mem_cons_of_mem _ member)) _)

theorem tagAsset_moves (wf : db.Wf) {key : String} (other : key ∉ ["fields", "approval_threshold", "compliance"])
    (value : Json) (id : Uuid) : Moves l db (db.tagAsset key value id) := by
  unfold Db.tagAsset
  cases found : db.asset? id with
  | none => exact .refl
  | some a =>
    have revised : Revised a (a.tag key value) :=
      .of_same_status ⟨rfl, rfl, rfl⟩ rfl (.of_set rfl rfl rfl other)
    exact Moves.setAsset wf (Db.asset?_mem found).1 revised

/-- A loop whose every pass is made of moves is made of moves. -/
theorem Moves.foldl {ι : Type} {f : Db → ι → Db} (pass : ∀ db i, db.Wf → Moves l db (f db i)) (wf : db.Wf)
    (items : List ι) : Moves l db (items.foldl f db) := by
  induction items generalizing db with
  | nil => exact .refl
  | cons i items ih =>
    have first := pass db i wf
    exact first.trans (ih (first.wf wf))

theorem Moves.foldlM {ι : Type} {f : Db → ι → Except AppError Db}
    (pass : ∀ db i db', db.Wf → f db i = .ok db' → Moves l db db') (wf : db.Wf) {items : List ι}
    (done : items.foldlM f db = .ok db') : Moves l db db' :=
  (foldlM_invariant (I := fun mid => mid.Wf ∧ Moves l db mid) done ⟨wf, .refl⟩ fun i _ mid next so step =>
    have more := pass mid i next so.1 step
    ⟨more.wf so.1, so.2.trans more⟩).2

theorem seedAbTest_moves (wf : db.Wf) (c : Campaign) (group : Option AbTestSpec × List Uuid) :
    Moves l db (seedAbTest c db group) := by
  obtain ⟨spec, ids⟩ := group
  cases spec with
  | none => exact .refl
  | some spec =>
    have inserted : ∀ test, Moves l db { db with abTests := db.abTests ++ [test], nextId := db.nextId + 1 } :=
      fun _ => .of_untouched (.intro rfl rfl rfl rfl (Nat.le_succ _))
    exact (inserted _).trans
      (Moves.foldl (fun _ id midWf => tagAsset_moves midWf (by decide) _ id) ((inserted _).wf wf) ids)

theorem seedTouchpoint_unshipped {c : Campaign} {specs : List AbTestSpec} {tp : StrategyTouchpoint}
    {group : Option AbTestSpec × List ContentAsset} (seeded : seedTouchpoint db c specs tp = some group) :
    ∀ a ∈ group.2, a.status.ships = false := by
  unfold seedTouchpoint at seeded
  obtain ⟨plan, _, rfl⟩ := Option.map_eq_some_iff.mp seeded
  intro a member
  obtain ⟨variant, _, rfl⟩ := List.mem_map.mp member
  rfl

theorem seedGroups_moves (wf : db.Wf) (c : Campaign) {groups : List (Option AbTestSpec × List ContentAsset)}
    (unshipped : ∀ group ∈ groups, ∀ a ∈ group.2, a.status.ships = false) :
    Moves l db ((insertGroups db groups).2.foldl (seedAbTest c) (insertGroups db groups).1) := by
  have inserted : Moves l db (insertGroups db groups).1 := insertGroups_moves unshipped db
  exact inserted.trans (Moves.foldl (fun _ group midWf => seedAbTest_moves midWf c group) (inserted.wf wf) _)

theorem seedAssetsForCampaign_moves (wf : db.Wf) {c : Campaign} {now : Int} {ids : List Uuid}
    (done : seedAssetsForCampaign db c now = .ok (db', ids)) : Moves l db db' := by
  simp only [seedAssetsForCampaign, bind_eq_ok, pure_eq_ok, Prod.mk.injEq] at done
  obtain ⟨accepted, _, _, _, _, _, last, queued, rfl, _⟩ := done
  have agent : Moves l db (db.ensureAgent c.tenantId .contentCreator).1 :=
    .of_untouched (untouched_ensureAgent db c.tenantId .contentCreator)
  have unshipped : ∀ group ∈ List.filterMap
      (seedTouchpoint (db.ensureAgent c.tenantId .contentCreator).1 c (parseAbTestSpecs accepted.payload))
      ((db.touchpoints.filter (·.proposalId = accepted.id)).insertionSort touchpointOrder),
      ∀ a ∈ group.2, a.status.ships = false := by
    intro group member
    obtain ⟨tp, _, planned⟩ := List.mem_filterMap.mp member
    exact seedTouchpoint_unshipped planned
  have seeded := agent.trans (seedGroups_moves (agent.wf wf) c unshipped)
  exact seeded.trans
    (Moves.foldlM (fun _ _ _ _ step => .of_untouched (untouched_enqueue step)) (seeded.wf wf) queued)

end Seeding

section Scheduling

variable [PyText] {l : Licence} {db db' : Db}

theorem pickSlot_sameShipped (db : Db) (now : Int) (a : ContentAsset) : SameShipped a (pickSlot db now a) := by
  unfold pickSlot
  split
  · split
    · exact ⟨rfl, rfl, rfl, rfl, id⟩
    · exact .of_set rfl rfl rfl (by decide)
  · exact .of_set rfl rfl rfl (by decide)

theorem scheduledRow_launched (db : Db) (now : Int) {a : ContentAsset} {campaignId : Uuid}
    (mine : a.campaignId = campaignId) (approved : a.status = .approved) :
    LaunchedRow campaignId a (scheduledRow db now a) := by
  have slot : SameShipped a (pickSlot db now a) := pickSlot_sameShipped db now a
  have row : SameRow a (pickSlot db now a) := by
    unfold pickSlot
    split
    · split <;> exact ⟨rfl, rfl, rfl⟩
    · exact ⟨rfl, rfl, rfl⟩
  refine Or.inr ?_
  dsimp only [scheduledRow]
  split
  · exact ⟨⟨row.id, row.campaignId, row.assetType⟩, slot.trans ⟨rfl, rfl, rfl, rfl, id⟩, mine, approved, rfl⟩
  · exact ⟨⟨row.id, row.campaignId, row.assetType⟩, slot.trans (.of_set rfl rfl rfl (by decide)), mine, approved, rfl⟩

theorem scheduleApprovedAssets_launched (wf : db.Wf) {c : Campaign} {now : Int}
    (done : scheduleApprovedAssets db c now = .ok db') : Rewrites (LaunchedRow c.id) db db' := by
  have order := rowOrder_launchedRow c.id
  simp only [scheduleApprovedAssets] at done
  split at done
  · cases Except.ok.inj done
    exact .refl order db
  · have agent := untouched_ensureAgent db c.tenantId .channelDistribution
    refine (Rewrites.of_untouched order agent).trans order
      (Rewrites.foldlM order ?_ (agent.wf rowOrder_eq wf) ?_ (campaignRows_nodup wf c.id _) done)
    · intro a member mid next midWf here pass
      obtain ⟨_, mine, approved⟩ := campaignRows_mem member
      have launched := scheduledRow_launched mid now mine (of_decide_eq_true approved)
      unfold scheduleAsset at pass
      split at pass
      · cases Except.ok.inj pass
        exact Rewrites.setAsset_pass order midWf here launched (.refl rowOrder_eq _)
      · exact Rewrites.setAsset_pass order midWf here launched (untouched_enqueue pass)
    · intro a member
      rw [agent.assets_eq]
      exact (campaignRows_mem member).1

theorem resumeAsset_pass (wf : db.Wf) {c : Campaign} {agentId : Uuid} {now : Int} {a : ContentAsset}
    (here : a ∈ db.assets) (done : resumeAsset c agentId now db a = .ok db') :
    Rewrites Revised db db' ∧ ∀ b ∈ db.assets, b.id ≠ a.id → b ∈ db'.assets := by
  have kept : ∀ {mid : Db}, Untouched db mid →
      Rewrites Revised db mid ∧ ∀ b ∈ db.assets, b.id ≠ a.id → b ∈ mid.assets := fun same =>
    ⟨.of_untouched rowOrder_revised same, fun b member _ => same.assets_eq.symm ▸ member⟩
  unfold resumeAsset at done
  split at done
  · cases Except.ok.inj done
    have failed : Revised a (elapsedRow now a) := .of_not_ships ⟨rfl, rfl, rfl⟩ rfl
    exact Rewrites.setAsset_pass rowOrder_revised wf here failed (.refl rowOrder_eq _)
  · split at done
    · cases Except.ok.inj done
      exact kept (.refl rowOrder_eq _)
    · exact kept (untouched_enqueue done)

theorem resumeDistributionForCampaign_moves (wf : db.Wf) {c : Campaign} {now : Int}
    (done : resumeDistributionForCampaign db c now = .ok db') : Moves l db db' := by
  simp only [resumeDistributionForCampaign] at done
  split at done
  · cases Except.ok.inj done
    exact .refl
  · have agent := untouched_ensureAgent db c.tenantId .channelDistribution
    refine (Moves.of_untouched agent).tail (.revise
      (Rewrites.foldlM rowOrder_revised ?_ (agent.wf rowOrder_eq wf) ?_ (campaignRows_nodup wf c.id _) done))
    · exact fun a _ mid next midWf here pass => resumeAsset_pass midWf here pass
    · intro a member
      rw [agent.assets_eq]
      exact (campaignRows_mem member).1

theorem flipDraftedAssetsToPendingApproval_revised (wf : db.Wf) (c : Campaign) (now : Int) :
    Rewrites Revised db (flipDraftedAssetsToPendingApproval db c now) := by
  unfold flipDraftedAssetsToPendingApproval
  refine Rewrites.foldl rowOrder_revised ?_ wf ?_ ?_
  · intro a _ mid midWf here
    have flipped : ∀ snapshot, Revised a { a.tag "approval_threshold" snapshot with status := .pendingApproval } :=
      fun _ => .of_not_ships ⟨rfl, rfl, rfl⟩ rfl
    exact Rewrites.setAsset_pass rowOrder_revised midWf here (flipped _) (.refl rowOrder_eq _)
  · intro a member
    exact (campaignRows_mem (List.mem_of_mem_filter member)).1
  · exact (campaignRows_nodup wf c.id _).sublist (List.filter_sublist.map _)

end Scheduling

theorem Edited.revised {may : Cause → Db → Prop} {db : Db} {old new : ContentAsset} (edited : Edited may db old new) :
    Revised old new := by
  cases edited with
  | annotated traced status shipped => exact .of_same_status traced.toSameRow status shipped
  | generated traced status asked =>
    refine .of_not_ships traced.toSameRow ?_
    simp only [List.mem_cons, List.not_mem_nil, or_false] at status
    rcases status with status | status | status <;> rw [status] <;> rfl
  | overwritten traced status asked => exact .of_not_ships traced.toSameRow (by rw [status]; rfl)
  | archived traced status out asked => exact .of_not_ships traced.toSameRow (by rw [status]; rfl)
  | published traced scheduled status shipped =>
    refine ⟨traced.toSameRow, fun _ => ⟨by rw [scheduled]; rfl, shipped⟩, fun impossible => ?_⟩
    rw [status] at impossible
    simp at impossible
  | revoked traced scheduled status => exact .of_not_ships traced.toSameRow (by rw [status]; rfl)

theorem Revised.requested (a : ContentAsset) : Revised a { a with status := .requested } :=
  .of_not_ships ⟨rfl, rfl, rfl⟩ rfl

theorem permitted_submit : Permitted .contentInProduction .approvalPending (.transition "submit_for_approval") := by
  unfold Permitted
  decide

theorem permitted_resume : Permitted .paused .live (.transition "resume") := by
  unfold Permitted
  decide

theorem note_assets (db : Db) (decision : Option ApprovalDecisionLog) : (db.note decision).assets = db.assets := by
  cases decision <;> rfl

theorem note_campaigns (db : Db) (decision : Option ApprovalDecisionLog) :
    (db.note decision).campaigns = db.campaigns := by
  cases decision <;> rfl

theorem note_tasks (db : Db) (decision : Option ApprovalDecisionLog) : (db.note decision).tasks = db.tasks := by
  cases decision <;> rfl

theorem note_nextId (db : Db) (decision : Option ApprovalDecisionLog) : db.nextId ≤ (db.note decision).nextId := by
  cases decision with
  | none => exact le_rfl
  | some d => exact Nat.le_succ _

theorem note_campaign? (db : Db) (decision : Option ApprovalDecisionLog) (id : Uuid) :
    (db.note decision).campaign? id = db.campaign? id := by
  cases decision <;> rfl

section Writes

variable [PyText] {may : Cause → Db → Prop} {l : Licence} {now : Int} {db db' : Db}

theorem note_moves (db : Db) (decision : Option ApprovalDecisionLog) : Moves l db (db.note decision) := by
  cases decision with
  | none => exact .refl
  | some d => exact .of_untouched (untouched_insertDecision db d)

theorem Vetted.note {old new : ContentAsset} {path : ApprovalPath} {role : UserRole} (vetted : Vetted db old new path role)
    (decision : Option ApprovalDecisionLog) : Vetted (db.note decision) old new path role where
  toSameRow := vetted.toSameRow
  member := (note_assets db decision).symm ▸ vetted.member
  blocked := vetted.blocked
  checked := vetted.checked
  admin strict c found needs := vetted.admin strict c (note_campaign? db decision new.campaignId ▸ found) needs

/-- A write refines moves that a licence for its causes allows. -/
theorem Write.moves (write : Write may now db db') (wf : db.Wf)
    (completes : ∀ id db, may (.completes id) db → l.completes id db)
    (approves : ∀ a db, may (.approves a) db → l.approves a)
    (sets : ∀ id status db, may (.sets id status) db → l.sets id status db) : Moves l db db' := by
  cases write with
  | side same => exact .of_untouched same.untouched
  | task other done => exact .of_untouched (untouched_enqueue done)
  | cancel found paused => exact .of_untouched (untouched_cancelQueued db _ now)
  | found drafted fresh => exact .single (.found drafted fresh)
  | edit member sameId sameStatus => exact .single (.edit member sameId sameStatus)
  | status found permitted plain live completed direct =>
    exact .single (.write found permitted (fun done => completes _ db (completed done))
      fun unregistered => sets _ _ db (direct unregistered))
  | submit found producing drafted =>
    have written : Move l db (db.writeStatus _ .approvalPending (.transition "submit_for_approval")) :=
      .write found (producing.symm ▸ permitted_submit) (by simp) fun none => absurd (by rw [producing]; decide) none
    exact .head written (.single (.revise (flipDraftedAssetsToPendingApproval_revised (written.wf wf) _ now)))
  | launch found pending done =>
    exact .single (.launch found pending (scheduleApprovedAssets_launched (writeStatus_wf found _ _ wf) done))
  | resume found paused asked done =>
    have written : Move l db (db.writeStatus _ .live (.transition "resume")) :=
      .write found (paused.symm ▸ permitted_resume) (by simp) fun none => absurd (by rw [paused]; decide) none
    exact .head written (resumeDistributionForCampaign_moves (written.wf wf) done)
  | seed asked done => exact seedAssetsForCampaign_moves wf done
  | rewrite here edited => exact Moves.setAsset wf here edited.revised
  | regenerate here campaign producing skill owner named unkeyed done =>
    exact (Moves.setAsset wf here (.requested _)).trans
      ((Moves.of_untouched (untouched_ensureAgent _ _ .contentCreator)).trans (.of_untouched (untouched_enqueue done)))
  | approve vetted traced status logged silent assistant =>
    exact (note_moves db _).tail (.approve (vetted.note _) fun assisted => approves _ db (assistant assisted))
  | reject here traced status rejected logged silent =>
    refine (note_moves db _).trans (Moves.setAsset ((note_moves (l := l) db _).wf wf) ((note_assets db _).symm ▸ here) ?_)
    exact .of_not_ships traced.toSameRow (by rw [rejected]; rfl)
  | create status asked =>
    refine .single (.create ?_)
    simp only [List.mem_cons, List.not_mem_nil, or_false] at status
    rcases status with status | status <;> rw [status] <;> rfl
  | ledger planned => exact .of_untouched (.intro rfl rfl rfl rfl le_rfl)
  | newTest fresh designing undecided configured => exact .of_untouched (.intro rfl rfl rfl rfl (Nat.le_succ _))
  | setTest found step split => exact .of_untouched (.intro rfl rfl rfl rfl le_rfl)

def Licence.all : Licence := ⟨fun _ _ => True, fun _ => True, fun _ _ _ => True⟩

theorem Write.wf (write : Write may now db db') (wf : db.Wf) : db'.Wf :=
  (write.moves (l := .all) wf (fun _ _ _ => trivial) (fun _ _ _ => trivial) fun _ _ _ _ => trivial).wf wf

theorem Writes.trans {mid : Db} (first : Writes may now db mid) (last : Writes may now mid db') :
    Writes may now db db' :=
  Relation.ReflTransGen.trans first last

/-- The induction over the writes: a property of well-formed states that every write keeps. -/
theorem Writes.induct {I : Db → Prop} (writes : Writes may now db db') (wf : db.Wf) (start : I db)
    (keep : ∀ db db', db.Wf → I db → Write may now db db' → I db') : db'.Wf ∧ I db' := by
  induction writes with
  | refl => exact ⟨wf, start⟩
  | tail _ write ih => exact ⟨write.wf ih.1, keep _ _ ih.1 ih.2 write⟩

theorem Writes.wf (writes : Writes may now db db') (wf : db.Wf) : db'.Wf :=
  (writes.induct (I := fun _ => True) wf trivial fun _ _ _ _ _ => trivial).1

theorem Writes.moves (writes : Writes may now db db') (wf : db.Wf)
    (completes : ∀ id db, may (.completes id) db → l.completes id db)
    (approves : ∀ a db, may (.approves a) db → l.approves a)
    (sets : ∀ id status db, may (.sets id status) db → l.sets id status db) : Moves l db db' :=
  (writes.induct wf .refl fun _ _ midWf moves write =>
    Moves.trans moves (write.moves midWf completes approves sets)).2

theorem Writes.side (same : SameCore db db') : Writes may now db db' := .single (.side same)

theorem Writes.rewrite {old new : ContentAsset} (here : old ∈ db.assets) (edited : Edited may db old new) :
    Writes may now db (db.setAsset new) :=
  .single (.rewrite here edited)

/-- A loop whose every pass is made of writes is made of writes. -/
theorem Writes.foldl {ι : Type} {f : Db → ι → Db} (pass : ∀ db i, Writes may now db (f db i)) (items : List ι) :
    Writes may now db (items.foldl f db) := by
  induction items generalizing db with
  | nil => exact .refl
  | cons i items ih => exact (pass db i).trans ih

/-- A loop over rows read before it, each of whose passes leaves the other rows alone. -/
theorem Writes.foldl_rows {f : Db → ContentAsset → Db} {rows : List ContentAsset}
    (pass : ∀ a ∈ rows, ∀ mid, a ∈ mid.assets → Writes may now mid (f mid a))
    (others : ∀ mid a, ∀ b ∈ mid.assets, b.id ≠ a.id → b ∈ (f mid a).assets)
    (present : ∀ a ∈ rows, a ∈ db.assets) (distinct : (rows.map ContentAsset.id).Nodup) :
    Writes may now db (rows.foldl f db) := by
  induction rows generalizing db with
  | nil => exact .refl
  | cons a rows ih =>
    rw [List.map_cons, List.nodup_cons] at distinct
    have first := pass a (List.mem_cons_self ..) db (present a (List.mem_cons_self ..))
    refine first.trans (ih (fun b later => pass b (List.mem_cons_of_mem _ later)) (fun b later => ?_) distinct.2)
    refine others db a b (present b (List.mem_cons_of_mem _ later)) fun same => ?_
    exact distinct.1 (same ▸ List.mem_map_of_mem later)

theorem Writes.foldlM {ι : Type} {f : Db → ι → Except AppError Db}
    (pass : ∀ db i db', f db i = .ok db' → Writes may now db db') {items : List ι}
    (done : items.foldlM f db = .ok db') : Writes may now db db' :=
  foldlM_invariant (I := Writes may now db) done .refl fun i _ mid next so step => so.trans (pass mid i next step)

end Writes

theorem campaignSm_schedules : ∀ tr ∈ campaignSm, tr.onEnter = some .scheduleApprovedAssets →
    tr.name = "start_launch" ∧ tr.fromState = .approvalPending ∧ tr.toState = .readyToLaunch := by
  decide

theorem campaignSm_submits : ∀ tr ∈ campaignSm, tr.onEnter = some .flipDraftedAssetsToPendingApproval →
    tr.name = "submit_for_approval" ∧ tr.fromState = .contentInProduction ∧ tr.toState = .approvalPending ∧
      tr.guard = some .allRequiredAssetsDrafted := by
  decide

theorem campaignSm_submission : ∀ tr ∈ campaignSm, tr.name = "submit_for_approval" →
    tr.onEnter = some .flipDraftedAssetsToPendingApproval := by
  decide

theorem campaignSm_resumes : ∀ tr ∈ campaignSm, tr.onEnter = some .resumeDistribution →
    tr.name = "resume" ∧ tr.fromState = .paused ∧ tr.toState = .live := by
  decide

theorem campaignSm_pauses : ∀ tr ∈ campaignSm, tr.onEnter = some .cancelQueuedOnPause → tr.toState = .paused := by
  decide

theorem campaignSm_seeds : ∀ tr ∈ campaignSm, tr.onEnter = some .seedContentAssets →
    tr.name = "start_content" ∧ tr.fromState = .strategySet ∧ tr.toState = .contentInProduction := by
  decide

theorem campaignSm_completes : ∀ tr ∈ campaignSm, tr.toState = .completed →
    tr.name = "complete_campaign" ∧ tr.fromState ∈ [.live, .optimising, .paused] := by
  decide

/-- The transitions whose hook schedules or submits nothing. -/
theorem campaignSm_plain : ∀ tr ∈ campaignSm,
    tr.onEnter ∉ [some .flipDraftedAssetsToPendingApproval, some .scheduleApprovedAssets, some .resumeDistribution] →
    tr.toState ∉ [.approvalPending, .readyToLaunch] ∧ (tr.toState = .live → tr.name = "start_live") := by
  decide

theorem mem_setCampaign {db : Db} {c c' : Campaign} (member : c ∈ (db.setCampaign c').campaigns) :
    c = c' ∧ (∃ old ∈ db.campaigns, old.id = c'.id) ∨ c ∈ db.campaigns ∧ c.id ≠ c'.id := by
  rcases mem_updateWhere.mp member with ⟨old, here, hit, rfl⟩ | ⟨stays, miss⟩
  · exact Or.inl ⟨rfl, old, here, of_decide_eq_true hit⟩
  · exact Or.inr ⟨stays, of_decide_eq_false miss⟩

/-- A campaign after a write of the status of `c`. -/
theorem mem_writeStatus {db : Db} {c d : Campaign} {after : CampaignStatus} {writer : Writer} (found : db.campaign? c.id = some c)
    (member : d ∈ (db.writeStatus c.id after writer).campaigns) :
    d = { c with status := after } ∨ d ∈ db.campaigns ∧ d.id ≠ c.id := by
  rw [writeStatus_eq found] at member
  rcases mem_setCampaign member with ⟨same, _⟩ | other
  · exact Or.inl same
  · exact Or.inr other

theorem writeStatus_status {db : Db} {id : Uuid} {after : CampaignStatus} {writer : Writer} {d : Campaign}
    (member : d ∈ (db.writeStatus id after writer).campaigns) (same : d.id = id) : d.status = after := by
  cases found : db.campaign? id with
  | none =>
    unfold Db.writeStatus at member
    rw [found] at member
    exact absurd (decide_eq_true same) (List.find?_eq_none.mp found d member)
  | some c =>
    obtain rfl := (Db.campaign?_mem found).2
    rcases mem_writeStatus found member with rfl | ⟨_, other⟩
    · rfl
    · exact absurd same other

theorem mem_writeStatus_ne {db : Db} {id : Uuid} {after : CampaignStatus} {writer : Writer} {d : Campaign}
    (member : d ∈ (db.writeStatus id after writer).campaigns) (other : d.id ≠ id) : d ∈ db.campaigns := by
  cases found : db.campaign? id with
  | none =>
    unfold Db.writeStatus at member
    rw [found] at member
    exact member
  | some c =>
    obtain rfl := (Db.campaign?_mem found).2
    rcases mem_writeStatus found member with rfl | ⟨stays, _⟩
    · exact absurd rfl other
    · exact stays

theorem campaign?_writeStatus_self {db : Db} {c : Campaign} (found : db.campaign? c.id = some c) (after : CampaignStatus)
    (writer : Writer) : (db.writeStatus c.id after writer).campaign? c.id = some { c with status := after } := by
  rw [writeStatus_eq found]
  have hit := find?_updateWhere (p := (·.id = c.id)) (q := (·.id = c.id)) (f := fun _ => { c with status := after })
    db.campaigns fun row same => by simp [of_decide_eq_true same]
  unfold Db.campaign? at found
  rw [found] at hit
  simpa [Db.campaign?, Db.setCampaign] using hit

/-- What the named transition may cause besides its write. -/
structure Asks (may : Cause → Db → Prop) (db : Db) (campaignId : Uuid) (name : String) : Prop where
  completes : name = "complete_campaign" →
    (∃ c, db.campaign? campaignId = some c ∧ c.status ∈ [.live, .optimising, .paused]) → may (.completes campaignId) db
  starts : name = "start_live" → may (.starts campaignId) db
  resumes : name = "resume" → (∃ c, db.campaign? campaignId = some c ∧ c.status = .paused) → may (.resumes campaignId) db
  seeds : name = "start_content" → (∃ c, db.campaign? campaignId = some c ∧ c.status = .strategySet) →
    ∀ mid, mid.assets = db.assets → mid.proposals = db.proposals → mid.touchpoints = db.touchpoints →
    (∀ d ∈ mid.campaigns, d.id = campaignId → d.status = .contentInProduction) → may (.seeds campaignId) mid

/-- The transitions that cause nothing but their own write. -/
theorem Asks.of_plain {may : Cause → Db → Prop} {db : Db} {campaignId : Uuid} {name : String}
    (plain : name ∉ ["complete_campaign", "start_live", "resume", "start_content"]) : Asks may db campaignId name where
  completes same := absurd (by simp [same]) plain
  starts same := absurd (by simp [same]) plain
  resumes same := absurd (by simp [same]) plain
  seeds same := absurd (by simp [same]) plain

section Apply

variable [PyText] {may : Cause → Db → Prop} {db db' : Db} {c : Campaign} {name : String} {now : Int}

/-- The write of a transition whose hook neither schedules nor submits, and then the hook. -/
theorem plain_writes (found : db.campaign? c.id = some c) {tr : Transition} (registered : tr ∈ campaignSm)
    (fromHere : tr.fromState = c.status) (asks : Asks may db c.id tr.name)
    (plain : tr.onEnter ∉
      [some .flipDraftedAssetsToPendingApproval, some .scheduleApprovedAssets, some .resumeDistribution])
    (entered : runOnEnter tr.onEnter (db.writeStatus c.id tr.toState (.transition tr.name))
      { c with status := tr.toState } now = .ok db') : Writes may now db db' := by
  obtain ⟨unhooked, live⟩ := campaignSm_plain tr registered plain
  have written : Writes may now db (db.writeStatus c.id tr.toState (.transition tr.name)) :=
    .single (.status found ⟨tr, registered, rfl, fromHere, rfl⟩ unhooked
      (fun goes => Or.inl ⟨by rw [live goes], asks.starts (live goes)⟩)
      (fun completed => by
        obtain ⟨complete, active⟩ := campaignSm_completes tr registered completed
        exact asks.completes complete ⟨c, found, fromHere ▸ active⟩)
      fun unregistered => absurd ⟨tr, registered, fromHere, rfl⟩ unregistered)
  refine written.trans ?_
  have stored := campaign?_writeStatus_self found tr.toState (.transition tr.name)
  generalize hook : tr.onEnter = onEnter at *
  cases onEnter with
  | none =>
    cases Except.ok.inj entered
    exact .refl
  | some hooked =>
    cases hooked with
    | enqueueEchoStep =>
      exact (Writes.side (sameCore_ensureAgent _ c.tenantId .orchestrator)).tail (.task (by simp [dispatchSkills]) entered)
    | seedContentAssets =>
      simp only [runOnEnter, OnEnter.run] at entered
      cases seeded : seedAssetsForCampaign (db.writeStatus c.id tr.toState (.transition tr.name))
          { c with status := tr.toState } now with
      | error error => simp [seeded, Except.map] at entered
      | ok result =>
        rw [seeded] at entered
        cases Except.ok.inj entered
        obtain ⟨start, set, goes⟩ := campaignSm_seeds tr registered hook
        have asked := asks.seeds start ⟨c, found, fromHere.symm.trans set⟩
          (db.writeStatus c.id tr.toState (.transition tr.name))
        have producing : ∀ d ∈ (db.writeStatus c.id tr.toState (.transition tr.name)).campaigns, d.id = c.id →
            d.status = .contentInProduction := fun d member same => by
          rcases mem_writeStatus found member with rfl | ⟨_, other⟩
          · exact goes
          · exact absurd same other
        rw [writeStatus_eq found] at asked producing
        rw [writeStatus_eq found] at seeded ⊢
        exact .single (.seed (asked rfl rfl rfl producing) seeded)
    | flipDraftedAssetsToPendingApproval | scheduleApprovedAssets | resumeDistribution => simp at plain
    | cancelQueuedOnPause =>
      cases Except.ok.inj entered
      have paused := campaignSm_pauses tr registered hook
      exact .single (.cancel stored paused)
    | autoGenerateReport =>
      cases Except.ok.inj entered
      exact .refl

/-- `campaign_sm.apply` on the stored campaign: one registered write and its hook. -/
theorem apply_writes (found : db.campaign? c.id = some c) (asks : Asks may db c.id name)
    (done : apply db c name now = .ok db') : Writes may now db db' := by
  obtain ⟨tr, registered, fromHere, rfl, guarded, entered⟩ := apply_eq_ok done
  by_cases schedules : tr.onEnter = some .scheduleApprovedAssets
  · obtain ⟨launch, pending, ready⟩ := campaignSm_schedules tr registered schedules
    rw [schedules, ready, launch] at entered
    exact .single (.launch found (fromHere ▸ pending) entered)
  by_cases submits : tr.onEnter = some .flipDraftedAssetsToPendingApproval
  · obtain ⟨submit, producing, pending, guard⟩ := campaignSm_submits tr registered submits
    rw [submits, pending, submit] at entered
    rw [guard] at guarded
    cases Except.ok.inj entered
    exact .single (.submit found (fromHere ▸ producing) guarded)
  by_cases resumes : tr.onEnter = some .resumeDistribution
  · obtain ⟨resume, paused, live⟩ := campaignSm_resumes tr registered resumes
    rw [resumes, live, resume] at entered
    exact .single (.resume found (fromHere ▸ paused) (asks.resumes resume ⟨c, found, fromHere ▸ paused⟩) entered)
  exact plain_writes found registered fromHere asks (by simp [schedules, submits, resumes]) entered

theorem tryApply_writes (found : db.campaign? c.id = some c) (asks : Asks may db c.id name)
    (done : tryApply db c name now = .ok db') : Writes may now db db' := by
  rcases tryApply_eq_ok done with applied | rfl
  · exact apply_writes found asks applied
  · exact .refl

theorem applyFrom_writes {status : CampaignStatus} {campaignId : Uuid}
    (plain : name ∉ ["complete_campaign", "start_live", "resume", "start_content"])
    (done : applyFrom status name db campaignId now = .ok db') : Writes may now db db' := by
  rcases applyFrom_eq_ok done with ⟨c, found, applied⟩ | rfl
  · exact apply_writes (Db.campaign?_self found) (.of_plain plain) applied
  · exact .refl

theorem tryAdvanceAfterApproval_writes {campaignId : Uuid}
    (done : tryAdvanceAfterApproval db campaignId now = .ok db') : Writes may now db db' := by
  simp only [tryAdvanceAfterApproval, bind_eq_ok] at done
  obtain ⟨mid, first, last⟩ := done
  have moved : Writes may now db mid := applyFrom_writes (by decide) first
  exact moved.trans (applyFrom_writes (by decide) last)

/-- `start_live` has no hook, so `_maybe_go_live` raises nothing and writes at most the status. -/
theorem maybeGoLive_eq (db : Db) (c : Campaign) (now : Int) :
    maybeGoLive db c now = .ok (if c.status = .readyToLaunch ∧ Guard.readyToGoLive.holds db c now then
      db.writeStatus c.id .live (.transition "start_live") else db) := by
  unfold maybeGoLive
  by_cases ready : c.status = .readyToLaunch
  · have registered : campaignSm.find? (fun tr => tr.fromState = c.status ∧ tr.name = "start_live") =
        some { name := "start_live", fromState := .readyToLaunch, toState := .live, guard := some .readyToGoLive } := by
      rw [ready]
      decide
    rw [if_pos ready]
    unfold tryApply apply
    rw [registered]
    by_cases guarded : Guard.readyToGoLive.holds db c now = true
    · simp [orRaise, require, guardHolds, guarded, ready, bind, Except.bind, runOnEnter]
    · simp [orRaise, require, guardHolds, guarded, bind, Except.bind]
  · simp [ready]

end Apply

end MarketingAgents
