import MarketingAgents.Content.Pipeline

namespace MarketingAgents

open Lib PyText

section Loops

variable {f : Db → ContentAsset → Except AppError Db} {rows : List ContentAsset} {db db' : Db}

theorem setAsset_assets (ids : (db.assets.map ContentAsset.id).Nodup) {a new : ContentAsset} (here : a ∈ db.assets)
    (sameId : new.id = a.id) : (db.setAsset new).assets = db.assets.map fun b => if b = a then new else b := by
  refine List.map_congr_left fun b member => ?_
  have same : b.id = new.id ↔ b = a := by
    rw [sameId]
    exact ⟨eq_of_key_eq ids member here, fun equal => by rw [equal]⟩
  simp only [same, decide_eq_true_eq]

/-- A loop over rows read before it, each pass of which replaces its row: what the table is in the end. -/
theorem foldlM_rows {g : ContentAsset → ContentAsset} {I : Db → Prop} (sameId : ∀ a, (g a).id = a.id)
    (pass : ∀ a ∈ rows, ∀ mid next, I mid → (mid.assets.map ContentAsset.id).Nodup → a ∈ mid.assets →
      f mid a = .ok next → I next ∧ next.assets = mid.assets.map fun b => if b = a then g a else b)
    (distinct : (rows.map ContentAsset.id).Nodup) (ids : (db.assets.map ContentAsset.id).Nodup)
    (present : ∀ a ∈ rows, a ∈ db.assets) (start : I db) (done : rows.foldlM f db = .ok db') :
    I db' ∧ db'.assets = db.assets.map fun a => if a ∈ rows then g a else a := by
  induction rows generalizing db with
  | nil =>
    simp only [List.foldlM_nil, pure_eq_ok] at done
    subst done
    exact ⟨start, by simp⟩
  | cons a rows ih =>
    simp only [List.foldlM_cons, bind_eq_ok] at done
    obtain ⟨next, first, rest⟩ := done
    rw [List.map_cons, List.nodup_cons] at distinct
    obtain ⟨kept, assets⟩ := pass a (List.mem_cons_self ..) db next start ids (present a (List.mem_cons_self ..)) first
    have nextIds : next.assets.map ContentAsset.id = db.assets.map ContentAsset.id := by
      rw [assets, List.map_map]
      refine List.map_congr_left fun b _ => ?_
      by_cases same : b = a
      · simp [same, sameId]
      · simp [same]
    have still : ∀ b ∈ rows, b ∈ next.assets := by
      intro b later
      have other : b ≠ a := fun same => distinct.1 (same ▸ List.mem_map_of_mem later)
      rw [assets]
      exact List.mem_map.mpr ⟨b, present b (List.mem_cons_of_mem _ later), if_neg other⟩
    obtain ⟨last, value⟩ := ih (fun b later => pass b (List.mem_cons_of_mem _ later)) distinct.2 (nextIds ▸ ids) still
      kept rest
    refine ⟨last, ?_⟩
    rw [value, assets, List.map_map]
    refine List.map_congr_left fun b _ => ?_
    by_cases same : b = a
    · have gone : g a ∉ rows := fun later => distinct.1 (sameId a ▸ List.mem_map_of_mem later)
      simp [same, gone]
    · simp [same]

/-- A loop each pass of which adds one task or none: the tasks it has added. -/
theorem foldlM_tasks {q : ContentAsset → Bool} {T : ContentAsset → Task → Prop}
    (pass : ∀ a ∈ rows, ∀ mid next, f mid a = .ok next → mid.nextId ≤ next.nextId ∧
      (q a = true → ∃ t, T a t ∧ Queued mid next [t]) ∧ (q a = false → Queued mid next []))
    (done : rows.foldlM f db = .ok db') :
    db.nextId ≤ db'.nextId ∧ ∃ tasks, Queued db db' tasks ∧ List.Forall₂ T (rows.filter q) tasks := by
  induction rows generalizing db with
  | nil =>
    simp only [List.foldlM_nil, pure_eq_ok] at done
    subst done
    exact ⟨le_rfl, [], .none rfl, .nil⟩
  | cons a rows ih =>
    simp only [List.foldlM_cons, bind_eq_ok] at done
    obtain ⟨next, first, rest⟩ := done
    obtain ⟨lower, adds, skips⟩ := pass a (List.mem_cons_self ..) db next first
    obtain ⟨upper, tasks, grows, related⟩ := ih (fun b later => pass b (List.mem_cons_of_mem _ later)) rest
    refine ⟨lower.trans upper, ?_⟩
    cases queued : q a with
    | true =>
      obtain ⟨t, named, grown⟩ := adds queued
      refine ⟨t :: tasks, grown.append grows lower upper, ?_⟩
      rw [List.filter_cons_of_pos queued]
      exact .cons named related
    | false =>
      refine ⟨tasks, (skips queued).append grows lower upper, ?_⟩
      rw [List.filter_cons_of_neg (by simp [queued])]
      exact related

end Loops

/-- The tables that the loops over rows leave alone. -/
structure SameSide (db db' : Db) : Prop where
  campaigns : db'.campaigns = db.campaigns
  decisions : db'.decisions = db.decisions
  abTests : db'.abTests = db.abTests
  abTestAssignments : db'.abTestAssignments = db.abTestAssignments
  touchpoints : db'.touchpoints = db.touchpoints
  nextId : db.nextId ≤ db'.nextId

namespace SameSide

variable {db db' db'' : Db}

theorem refl (db : Db) : SameSide db db := ⟨rfl, rfl, rfl, rfl, rfl, le_rfl⟩

theorem trans (first : SameSide db db') (last : SameSide db' db'') : SameSide db db'' where
  campaigns := last.campaigns.trans first.campaigns
  decisions := last.decisions.trans first.decisions
  abTests := last.abTests.trans first.abTests
  abTestAssignments := last.abTestAssignments.trans first.abTestAssignments
  touchpoints := last.touchpoints.trans first.touchpoints
  nextId := first.nextId.trans last.nextId

theorem setAsset (db : Db) (a : ContentAsset) : SameSide db (db.setAsset a) := ⟨rfl, rfl, rfl, rfl, rfl, le_rfl⟩

theorem ensureAgent (db : Db) (tenantId : Uuid) (kind : AgentKind) : SameSide db (db.ensureAgent tenantId kind).1 := by
  unfold Db.ensureAgent
  split
  · exact .refl db
  · exact ⟨rfl, rfl, rfl, rfl, rfl, Nat.le_succ _⟩

theorem enqueue {args : EnqueueArgs} {now : Int} (done : db.enqueue args now = .ok db') : SameSide db db' := by
  unfold Db.enqueue at done
  split at done
  · cases Except.ok.inj done
    exact ⟨rfl, rfl, rfl, rfl, rfl, Nat.le_succ _⟩
  · simp at done

end SameSide

theorem mem_campaignRows {db : Db} {a : ContentAsset} (member : a ∈ db.assets) (campaignId : Uuid)
    (p : ContentAsset → Bool) : a ∈ (db.campaignAssets campaignId).filter p ↔ a.campaignId = campaignId ∧ p a = true := by
  simp [Db.campaignAssets, member, and_comm]

section Dispatch

variable [PyText]

/-- The task is of the skill, at the asset and for its campaign. -/
def Pursues (skill : Option String) (a : ContentAsset) (t : Task) : Prop :=
  skill = some t.skillName ∧ t.inputData.get? "asset_id" = some (.str (uuidStr a.id)) ∧ t.campaignId = some a.campaignId

instance (skill : Option String) (a : ContentAsset) (t : Task) : Decidable (Pursues skill a t) :=
  inferInstanceAs (Decidable (skill = some t.skillName ∧ t.inputData.get? "asset_id" = some (.str (uuidStr a.id)) ∧
    t.campaignId = some a.campaignId))

/-- The task is a queued dispatch of the asset for the campaign. -/
structure DispatchOf (c : Campaign) (a : ContentAsset) (t : Task) : Prop where
  skill : dispatchSkillFor a.assetType = some t.skillName
  named : t.inputData.get? "asset_id" = some (.str (uuidStr a.id))
  owner : t.campaignId = some c.id
  queued : t.status = .queued

/-- The type has a dispatcher. -/
def routed (a : ContentAsset) : Bool := (dispatchSkillFor a.assetType).isSome

theorem dispatchOf_newTask {c : Campaign} {agentId : Uuid} {skill : String} {a b : ContentAsset} {slot now : Int} {id : Uuid}
    (mapped : dispatchSkillFor a.assetType = some skill) (same : b.id = a.id) :
    DispatchOf c a (Queue.newTask (dispatchTask c agentId skill b slot) id now) := by
  refine ⟨mapped, ?_, rfl, rfl⟩
  rw [← same]
  rfl

/-- What `_schedule_approved_assets` does: the approved rows of the campaign
are scheduled, each with its dispatch task if its type has a dispatcher. -/
structure Schedules (db : Db) (c : Campaign) (now : Int) (db' : Db) : Prop where
  side : SameSide db db'
  assets : db'.assets = db.assets.map fun a =>
    if a.campaignId = c.id ∧ a.status = .approved then scheduledRow db now a else a
  tasks : ∃ tasks, Queued db db' tasks ∧ List.Forall₂ (DispatchOf c)
    (((db.campaignAssets c.id).filter (·.status = .approved)).filter routed) tasks

theorem pickSlot_traced (db : Db) (now : Int) (a : ContentAsset) : Traced a (pickSlot db now a) := by
  unfold pickSlot
  split
  · split
    · exact ⟨⟨rfl, rfl, rfl⟩, rfl, rfl, rfl, id⟩
    · exact .of_set ⟨rfl, rfl, rfl⟩ rfl rfl (by decide) id
  · exact .of_set ⟨rfl, rfl, rfl⟩ rfl rfl (by decide) id

theorem scheduledRow_traced (db : Db) (now : Int) (a : ContentAsset) : Traced a (scheduledRow db now a) := by
  have slot := pickSlot_traced db now a
  have marked : Traced (pickSlot db now a) { pickSlot db now a with status := .scheduled } :=
    ⟨⟨rfl, rfl, rfl⟩, rfl, rfl, rfl, id⟩
  unfold scheduledRow
  dsimp only
  split
  · exact slot.trans marked
  · exact slot.trans (marked.trans (.of_set ⟨rfl, rfl, rfl⟩ rfl rfl (by decide) id))

theorem scheduledRow_status (db : Db) (now : Int) (a : ContentAsset) : (scheduledRow db now a).status = .scheduled := by
  unfold scheduledRow
  dsimp only
  split <;> rfl

theorem scheduledRow_congr {db db' : Db} (same : db'.touchpoints = db.touchpoints) (now : Int) (a : ContentAsset) :
    scheduledRow db' now a = scheduledRow db now a := by
  unfold scheduledRow pickSlot touchpointFor
  rw [same]

theorem scheduleAsset_assets {c : Campaign} {agentId : Uuid} {now : Int} {mid next : Db} {a : ContentAsset}
    (done : scheduleAsset c agentId now mid a = .ok next) :
    SameSide mid next ∧ next.assets = (mid.setAsset (scheduledRow mid now a)).assets := by
  unfold scheduleAsset at done
  dsimp only at done
  split at done
  · cases Except.ok.inj done
    exact ⟨.setAsset mid _, rfl⟩
  · have side := SameSide.enqueue done
    refine ⟨(SameSide.setAsset mid _).trans side, ?_⟩
    rw [enqueue_eq rfl done]

theorem scheduleAsset_tasks {c : Campaign} {agentId : Uuid} {now : Int} {mid next : Db} {a : ContentAsset}
    (done : scheduleAsset c agentId now mid a = .ok next) :
    (routed a = true → ∃ t, DispatchOf c a t ∧ Queued mid next [t]) ∧ (routed a = false → Queued mid next []) := by
  unfold scheduleAsset at done
  dsimp only at done
  unfold routed
  split at done
  · rename_i unmapped
    cases Except.ok.inj done
    rw [unmapped]
    exact ⟨by simp, fun _ => .none rfl⟩
  · rename_i skill mapped
    rw [mapped]
    have grown : Queued mid next _ := (Queued.of_enqueue rfl done).widen rfl le_rfl
    exact ⟨fun _ => ⟨_, dispatchOf_newTask mapped (scheduledRow_traced mid now a).id, grown⟩, by simp⟩

theorem scheduleApprovedAssets_schedules {db db' : Db} (wf : db.Wf) {c : Campaign} {now : Int}
    (done : scheduleApprovedAssets db c now = .ok db') : Schedules db c now db' := by
  simp only [scheduleApprovedAssets] at done
  have rows : SameSide db db' ∧ db'.assets = db.assets.map fun a =>
      if a ∈ (db.campaignAssets c.id).filter (·.status = .approved) then scheduledRow db now a else a := by
    split at done
    · rename_i none
      cases Except.ok.inj done
      exact ⟨.refl db, by simp [none]⟩
    · have core := sameCore_ensureAgent db c.tenantId .channelDistribution
      have passed := foldlM_rows (g := scheduledRow db now) (I := SameSide db) (fun a => (scheduledRow_traced db now a).id)
        (fun a _ mid next kept midIds here pass => by
          obtain ⟨same, value⟩ := scheduleAsset_assets pass
          refine ⟨kept.trans same, ?_⟩
          rw [value, scheduledRow_congr kept.touchpoints, setAsset_assets midIds here (scheduledRow_traced db now a).id])
        (campaignRows_nodup wf c.id _) (core.assets.symm ▸ wf.assetIds)
        (fun a member => core.assets.symm ▸ (campaignRows_mem member).1)
        (SameSide.ensureAgent db c.tenantId .channelDistribution) done
      rwa [core.assets] at passed
  have tasks : ∃ tasks, Queued db db' tasks ∧ List.Forall₂ (DispatchOf c)
      (((db.campaignAssets c.id).filter (·.status = .approved)).filter routed) tasks := by
    split at done
    · rename_i none
      cases Except.ok.inj done
      exact ⟨[], .none rfl, by rw [none]; exact .nil⟩
    · have core := sameCore_ensureAgent db c.tenantId .channelDistribution
      obtain ⟨_, tasks, grows, related⟩ := foldlM_tasks (q := routed) (T := DispatchOf c)
        (fun a _ mid next pass => ⟨(scheduleAsset_assets pass).1.nextId, scheduleAsset_tasks pass⟩) done
      exact ⟨tasks, grows.widen core.tasks core.nextId, related⟩
  refine ⟨rows.1, ?_, tasks⟩
  rw [rows.2]
  exact List.map_congr_left fun a member => by simp only [mem_campaignRows member, decide_eq_true_eq]

/-- The asset's slot has passed. -/
def elapsed (now : Int) (a : ContentAsset) : Bool := ∃ slot ∈ a.scheduledAt, slot < now

/-- What `resume_distribution_for_campaign` does: the scheduled rows of the
campaign fail if their slot has passed, and are queued again if not. -/
structure Resumes (db : Db) (c : Campaign) (now : Int) (db' : Db) : Prop where
  side : SameSide db db'
  assets : db'.assets = db.assets.map fun a =>
    if a.campaignId = c.id ∧ a.status = .scheduled ∧ elapsed now a = true then elapsedRow now a else a
  tasks : ∃ tasks, Queued db db' tasks ∧ List.Forall₂ (DispatchOf c)
    (((db.campaignAssets c.id).filter (·.status = .scheduled)).filter fun a => !elapsed now a && routed a) tasks

theorem elapsedRow_traced (now : Int) (a : ContentAsset) : Traced a (elapsedRow now a) := by
  have first : Traced a (a.tag "skip_reason" (.str "slot_elapsed_during_pause")) :=
    .of_set ⟨rfl, rfl, rfl⟩ rfl rfl (by decide) id
  exact first.trans (.of_set ⟨rfl, rfl, rfl⟩ rfl rfl (by decide) id)

theorem resumeAsset_assets {c : Campaign} {agentId : Uuid} {now : Int} {mid next : Db} {a : ContentAsset}
    (ids : (mid.assets.map ContentAsset.id).Nodup) (here : a ∈ mid.assets)
    (done : resumeAsset c agentId now mid a = .ok next) :
    SameSide mid next ∧
      next.assets = mid.assets.map fun b => if b = a then (if elapsed now a then elapsedRow now a else a) else b := by
  have kept : mid.assets = mid.assets.map fun b => if b = a then a else b := by
    refine (List.map_id'' (fun _ => rfl) _).symm.trans (List.map_congr_left fun b _ => ?_)
    by_cases same : b = a
    · simp [same]
    · simp [same]
  unfold resumeAsset at done
  split at done
  · rename_i late
    cases Except.ok.inj done
    have passed : elapsed now a = true := decide_eq_true late
    rw [if_pos passed]
    exact ⟨.setAsset mid _, setAsset_assets ids here (elapsedRow_traced now a).id⟩
  · rename_i timely
    have early : ¬ elapsed now a = true := fun late => timely (of_decide_eq_true late)
    rw [if_neg early]
    split at done
    · cases Except.ok.inj done
      exact ⟨.refl mid, kept⟩
    · exact ⟨.enqueue done, by rw [enqueue_eq rfl done]; exact kept⟩

theorem resumeAsset_tasks {c : Campaign} {agentId : Uuid} {now : Int} {mid next : Db} {a : ContentAsset}
    (done : resumeAsset c agentId now mid a = .ok next) :
    ((!elapsed now a && routed a) = true → ∃ t, DispatchOf c a t ∧ Queued mid next [t]) ∧
      ((!elapsed now a && routed a) = false → Queued mid next []) := by
  unfold resumeAsset at done
  split at done
  · rename_i late
    have passed : elapsed now a = true := decide_eq_true late
    cases Except.ok.inj done
    exact ⟨by simp [passed], fun _ => .none rfl⟩
  · rename_i timely
    have early : elapsed now a = false := decide_eq_false timely
    unfold routed
    split at done
    · rename_i unmapped
      cases Except.ok.inj done
      exact ⟨by simp [unmapped], fun _ => .none rfl⟩
    · rename_i skill mapped
      rw [mapped, early]
      exact ⟨fun _ => ⟨_, dispatchOf_newTask mapped rfl, .of_enqueue rfl done⟩, by simp⟩

theorem resumeAsset_nextId {c : Campaign} {agentId : Uuid} {now : Int} {mid next : Db} {a : ContentAsset}
    (done : resumeAsset c agentId now mid a = .ok next) : mid.nextId ≤ next.nextId := by
  unfold resumeAsset at done
  split at done
  · cases Except.ok.inj done
    exact le_rfl
  · split at done
    · cases Except.ok.inj done
      exact le_rfl
    · exact (SameSide.enqueue done).nextId

/-- What a resume does to the assets and the tasks: an asset whose slot has passed
fails, and every other one has a new task. -/
theorem resumeDistributionForCampaign_resumes {db db' : Db} (wf : db.Wf) {c : Campaign} {now : Int}
    (done : resumeDistributionForCampaign db c now = .ok db') : Resumes db c now db' := by
  simp only [resumeDistributionForCampaign] at done
  have rows : SameSide db db' ∧ db'.assets = db.assets.map fun a =>
      if a ∈ (db.campaignAssets c.id).filter (·.status = .scheduled) then
        (if elapsed now a then elapsedRow now a else a) else a := by
    split at done
    · rename_i none
      cases Except.ok.inj done
      exact ⟨.refl db, by simp [none]⟩
    · have core := sameCore_ensureAgent db c.tenantId .channelDistribution
      have sameId : ∀ a, (if elapsed now a then elapsedRow now a else a).id = a.id := by
        intro a
        split
        · exact (elapsedRow_traced now a).id
        · rfl
      have passed := foldlM_rows (g := fun a => if elapsed now a then elapsedRow now a else a) (I := SameSide db) sameId
        (fun a _ mid next kept midIds here pass => by
          obtain ⟨same, value⟩ := resumeAsset_assets midIds here pass
          exact ⟨kept.trans same, value⟩)
        (campaignRows_nodup wf c.id _) (core.assets.symm ▸ wf.assetIds)
        (fun a member => core.assets.symm ▸ (campaignRows_mem member).1)
        (SameSide.ensureAgent db c.tenantId .channelDistribution) done
      rwa [core.assets] at passed
  have tasks : ∃ tasks, Queued db db' tasks ∧ List.Forall₂ (DispatchOf c)
      (((db.campaignAssets c.id).filter (·.status = .scheduled)).filter fun a => !elapsed now a && routed a) tasks := by
    split at done
    · rename_i none
      cases Except.ok.inj done
      exact ⟨[], .none rfl, by rw [none]; exact .nil⟩
    · have core := sameCore_ensureAgent db c.tenantId .channelDistribution
      obtain ⟨_, tasks, grows, related⟩ := foldlM_tasks (q := fun a => !elapsed now a && routed a) (T := DispatchOf c)
        (fun a _ mid next pass => ⟨resumeAsset_nextId pass, resumeAsset_tasks pass⟩) done
      exact ⟨tasks, grows.widen core.tasks core.nextId, related⟩
  refine ⟨rows.1, ?_, tasks⟩
  rw [rows.2]
  refine List.map_congr_left fun a member => ?_
  simp only [mem_campaignRows member, decide_eq_true_eq]
  by_cases mine : a.campaignId = c.id ∧ a.status = .scheduled
  · rw [if_pos mine]
    simp only [mine.1, mine.2, true_and]
  · rw [if_neg mine, if_neg fun late => mine ⟨late.1, late.2.1⟩]

end Dispatch

/-- The required drafts of the campaign go to approval, with the threshold as it stands. -/
def submittedRow (snapshot : Json) (a : ContentAsset) : ContentAsset :=
  { a.tag "approval_threshold" snapshot with status := .pendingApproval }

theorem submittedRow_traced (snapshot : Json) (a : ContentAsset) : Traced a (submittedRow snapshot a) :=
  .of_set ⟨rfl, rfl, rfl⟩ rfl rfl (by decide) id

section Submit

variable [PyText]

theorem flipDraftedAssetsToPendingApproval_flips {db : Db} (wf : db.Wf) (c : Campaign) (now : Int) :
    SameSide db (flipDraftedAssetsToPendingApproval db c now) ∧
    (flipDraftedAssetsToPendingApproval db c now).tasks = db.tasks ∧
    ∃ snapshot, (flipDraftedAssetsToPendingApproval db c now).assets = db.assets.map fun a =>
      if a.campaignId = c.id ∧ a.isRequired = true ∧ a.status = .drafted then submittedRow snapshot a else a := by
  unfold flipDraftedAssetsToPendingApproval
  generalize thresholdSnapshot (db.approvalSettings.find? (·.tenantId = c.tenantId)) now = snapshot
  have chosen : ∀ a ∈ db.assets, a ∈ (db.requiredAssets c.id).filter (·.status = .drafted) ↔
      a.campaignId = c.id ∧ a.isRequired = true ∧ a.status = .drafted := by
    intro a member
    simp [Db.requiredAssets, Db.campaignAssets, member]
    tauto
  have done : ((db.requiredAssets c.id).filter (·.status = .drafted)).foldlM
      (fun db a => (.ok (db.setAsset (submittedRow snapshot a)) : Except AppError Db)) db =
      .ok (((db.requiredAssets c.id).filter (·.status = .drafted)).foldl
        (fun db a => db.setAsset (submittedRow snapshot a)) db) := List.foldlM_pure ..
  obtain ⟨kept, assets⟩ := foldlM_rows (g := submittedRow snapshot)
    (I := fun mid => SameSide db mid ∧ mid.tasks = db.tasks)
    (fun a => (submittedRow_traced snapshot a).id)
    (fun a _ mid next so midIds here pass => by
      cases Except.ok.inj pass
      exact ⟨⟨so.1.trans (.setAsset mid _), so.2⟩, setAsset_assets midIds here (submittedRow_traced snapshot a).id⟩)
    ((campaignRows_nodup wf c.id _).sublist (List.filter_sublist.map _)) wf.assetIds
    (fun a member => (campaignRows_mem (List.mem_of_mem_filter member)).1) ⟨.refl db, rfl⟩ done
  refine ⟨kept.1, kept.2, snapshot, assets.trans ?_⟩
  exact List.map_congr_left fun a member => if_congr (chosen a member) rfl rfl

end Submit

end MarketingAgents
