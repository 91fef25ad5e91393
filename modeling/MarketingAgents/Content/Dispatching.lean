import MarketingAgents.Content.Effects
import MarketingAgents.Content.Launched

namespace MarketingAgents

open Lib PyText

/-- A campaign whose scheduled assets go out. -/
def CampaignStatus.sends (status : CampaignStatus) : Bool := status ∈ [.readyToLaunch, .live]

/-- A task that has not come to its end. -/
def Task.isOpen (t : Task) : Bool := t.status ∈ [.queued, .awaitingRetry, .running]

/-- Tasks have distinct ids, all handed out before `nextId`. -/
structure TaskIds (db : Db) : Prop where
  distinct : (db.tasks.map Task.id).Nodup
  below : ∀ t ∈ db.tasks, t.id < db.nextId

theorem TaskIds.of_ids {db db' : Db} (ids : TaskIds db) (same : db'.tasks.map Task.id = db.tasks.map Task.id)
    (nextId : db.nextId ≤ db'.nextId) : TaskIds db' where
  distinct := same ▸ ids.distinct
  below t member := by
    obtain ⟨old, here, sameId⟩ := List.mem_map.mp (same ▸ List.mem_map_of_mem (f := Task.id) member)
    exact (sameId ▸ ids.below old here).trans_le nextId

theorem TaskIds.grow {db db' : Db} {tasks : List Task} (ids : TaskIds db) (queued : Queued db db' tasks)
    (nextId : db.nextId ≤ db'.nextId) : TaskIds db' where
  distinct := by
    rw [queued.value]
    exact nodup_keys_append ids.distinct queued.distinct fun t here t' new =>
      ((ids.below t here).trans_le (queued.ids t' new).1).ne
  below t member := by
    rcases List.mem_append.mp (queued.value ▸ member) with old | new
    · exact (ids.below t old).trans_le nextId
    · exact (queued.ids t new).2

/-- What a step does to the tasks when it queues no dispatch. -/
inductive TaskSteady (db db' : Db) : Prop where
  | grows (tasks : List Task) (queued : Queued db db' tasks) (other : ∀ t ∈ tasks, t.skillName ∉ dispatchSkills)
  | cancels (c : Campaign) (here : c ∈ db.campaigns) (paused : c.status = .paused) (now : Int)
      (value : db'.tasks = (Queue.cancelQueuedForCampaign db.tasks c.id now).1)

/-- No asset becomes scheduled, no campaign starts to send and no dispatch is queued. -/
structure Steady (db db' : Db) : Prop where
  rows : ∀ b ∈ db'.assets, b.status = .scheduled → ∃ old ∈ db.assets, SameRow old b ∧ old.status = .scheduled
  campaigns : ∀ d ∈ db'.campaigns, d.status.sends = true → ∃ old ∈ db.campaigns, old.id = d.id ∧ old.status.sends = true
  nextId : db.nextId ≤ db'.nextId
  tasks : TaskSteady db db'

theorem TaskSteady.same {db db' : Db} (same : db'.tasks = db.tasks) : TaskSteady db db' :=
  .grows [] (.none same) (by simp)

theorem Steady.of_rewrites {db db' : Db} (rows : Rewrites Revised db db') (tasks : TaskSteady db db') : Steady db db' where
  rows b member scheduled := by
    obtain ⟨old, here, revised⟩ := forall₂_origin rows.assets member
    exact ⟨old, here, revised.toSameRow, revised.scheduled scheduled⟩
  campaigns d member sends := ⟨d, rows.campaigns ▸ member, rfl, sends⟩
  nextId := rows.nextId
  tasks := tasks

theorem Steady.untouched {db db' : Db} (same : Untouched db db') (tasks : TaskSteady db db') : Steady db db' :=
  .of_rewrites (.of_untouched rowOrder_revised same) tasks

theorem enqueue_queued {db db' : Db} {args : EnqueueArgs} {now : Int} (done : db.enqueue args now = .ok db') :
    ∃ tasks, Queued db db' tasks ∧ ∀ t ∈ tasks, t = Queue.newTask args db.nextId now := by
  unfold Db.enqueue Queue.enqueueTask at done
  split at done
  · rename_i queued
    cases Except.ok.inj done
    split at queued
    · simp at queued
    · split at queued
      · cases Except.ok.inj queued
        exact ⟨[], .none rfl, by simp⟩
      · split at queued
        · simp at queued
        · cases Except.ok.inj queued
          exact ⟨[_], .one rfl (Nat.lt_succ_self _), by simp⟩
  · simp at done

theorem TaskSteady.of_enqueue {db mid db' : Db} {args : EnqueueArgs} {now : Int} (other : args.skillName ∉ dispatchSkills)
    (tasks : mid.tasks = db.tasks) (nextId : db.nextId ≤ mid.nextId) (done : mid.enqueue args now = .ok db') :
    TaskSteady db db' := by
  obtain ⟨added, queued, value⟩ := enqueue_queued done
  refine .grows added (queued.widen tasks nextId) fun t member => ?_
  rw [value t member]
  exact other

theorem Permitted.sends {before after : CampaignStatus} {writer : Writer} (permitted : Permitted before after writer)
    (goes : writer = .transition "start_live" ∨ writer = .launchCampaign) : before.sends = true := by
  rcases goes with rfl | rfl
  · obtain ⟨tr, member, named, rfl, rfl⟩ := permitted
    have ready : ∀ tr ∈ campaignSm, tr.name = "start_live" → tr.fromState.sends = true := by decide
    exact ready tr member named
  · rw [permitted.1]
    rfl

section Writes

variable [PyText] {may : Cause → Db → Prop} {now : Int} {db db' : Db}

/-- How a write may bring on a dispatch: not at all, by a launch, or by a resume. -/
inductive SendStep (may : Cause → Db → Prop) (now : Int) (db db' : Db) : Prop where
  | steady (steady : Steady db db')
  | launched (c : Campaign) (found : db.campaign? c.id = some c) (pending : c.status = .approvalPending)
      (schedules : Schedules (db.writeStatus c.id .readyToLaunch (.transition "start_launch"))
        { c with status := .readyToLaunch } now db')
  | resumed (c : Campaign) (found : db.campaign? c.id = some c) (asked : may (.resumes c.id) db)
      (resumes : Resumes (db.writeStatus c.id .live (.transition "resume")) { c with status := .live } now db')

/-- One write seen from the dispatch tasks: which of them it can queue, for which
assets, and what else it can do to the tasks. -/
theorem Write.sendStep (write : Write may now db db') (wf : db.Wf) : SendStep may now db db' := by
  cases write with
  | side same => exact .steady (.untouched same.untouched (.same same.tasks))
  | task other done => exact .steady (.untouched (untouched_enqueue done) (.of_enqueue other rfl le_rfl done))
  | @cancel c found paused =>
    exact .steady (.untouched (untouched_cancelQueued db c.id now) (.cancels c (Db.campaign?_mem found).1 paused now rfl))
  | @found c drafted fresh =>
    refine .steady ⟨fun b member scheduled => ⟨b, member, .refl b, scheduled⟩, fun d member sends => ?_, Nat.le_succ _,
      .same rfl⟩
    rcases List.mem_append.mp member with old | new
    · exact ⟨d, old, rfl, sends⟩
    · rw [List.mem_singleton.mp new, drafted] at sends
      simp [CampaignStatus.sends] at sends
  | @edit c c' there sameId sameStatus =>
    refine .steady ⟨fun b member scheduled => ⟨b, member, .refl b, scheduled⟩, fun d member sends => ?_, le_rfl, .same rfl⟩
    rcases mem_setCampaign member with ⟨rfl, _⟩ | ⟨stays, _⟩
    · exact ⟨c, there, sameId.symm, sameStatus ▸ sends⟩
    · exact ⟨d, stays, rfl, sends⟩
  | @status c after writer found permitted plain live completed =>
    refine .steady ⟨fun b member scheduled => ?_, fun d member sends => ?_, ?_, ?_⟩
    · exact ⟨b, writeStatus_assets db c.id after writer ▸ member, .refl b, scheduled⟩
    · rcases mem_writeStatus found member with rfl | ⟨stays, _⟩
      · have goes : after = .live := by
          have unready : after ≠ .readyToLaunch := fun ready => plain (by simp [ready])
          simpa [CampaignStatus.sends, unready] using sends
        exact ⟨c, (Db.campaign?_mem found).1, rfl, permitted.sends ((live goes).imp And.left And.left)⟩
      · exact ⟨d, stays, rfl, sends⟩
    · exact (writeStatus_nextId db c.id after writer).ge
    · exact .same (writeStatus_tasks db c.id after writer)
  | @submit c found producing drafted =>
    have written := writeStatus_wf found .approvalPending (.transition "submit_for_approval") wf
    obtain ⟨side, tasks, _⟩ := flipDraftedAssetsToPendingApproval_flips written { c with status := .approvalPending } now
    have rows := flipDraftedAssetsToPendingApproval_revised written { c with status := .approvalPending } now
    refine .steady ⟨fun b member scheduled => ?_, fun d member sends => ?_, ?_, .same ?_⟩
    · obtain ⟨old, here, revised⟩ := forall₂_origin rows.assets member
      exact ⟨old, writeStatus_assets db c.id _ _ ▸ here, revised.toSameRow, revised.scheduled scheduled⟩
    · rw [side.campaigns] at member
      rcases mem_writeStatus found member with rfl | ⟨stays, _⟩
      · simp [CampaignStatus.sends] at sends
      · exact ⟨d, stays, rfl, sends⟩
    · exact (writeStatus_nextId db c.id _ _).ge.trans side.nextId
    · exact tasks.trans (writeStatus_tasks db c.id _ _)
  | launch found pending done =>
    exact .launched _ found pending (scheduleApprovedAssets_schedules (writeStatus_wf found _ _ wf) done)
  | resume found paused asked done =>
    exact .resumed _ found asked (resumeDistributionForCampaign_resumes (writeStatus_wf found _ _ wf) done)
  | seed asked done =>
    have seeded := seedAssetsForCampaign_seeded wf done
    obtain ⟨rows, assets, _, _, planted⟩ := seeded.rows
    obtain ⟨tasks, agentId, queued, related⟩ := seeded.tasks
    refine .steady ⟨fun b member scheduled => ?_, fun d member sends => ⟨d, seeded.campaigns ▸ member, rfl, sends⟩,
      seeded.nextId, .grows tasks queued fun t member => ?_⟩
    · rcases List.mem_append.mp (assets ▸ member) with old | new
      · exact ⟨b, old, .refl b, scheduled⟩
      · obtain ⟨planned, here, plant⟩ := forall₂_origin planted new
        rw [plant.row] at scheduled
        simp [(seedRows_planned here).1] at scheduled
    · obtain ⟨id, _, taskId, rfl⟩ := forall₂_origin related member
      simp [Queue.newTask, generateTask, dispatchSkills]
  | rewrite here edited => exact .steady (.of_rewrites (.setAsset rowOrder_revised wf here edited.revised) (.same rfl))
  | @regenerate _ a c args here campaign producing skill owner named unkeyed done =>
    have agent := sameCore_ensureAgent (db.setAsset { a with status := .requested }) a.tenantId .contentCreator
    have rows := (Rewrites.setAsset rowOrder_revised wf here (.requested a)).trans rowOrder_revised
      (.of_untouched rowOrder_revised (agent.untouched.trans rowOrder_eq (untouched_enqueue done)))
    exact .steady (.of_rewrites rows (.of_enqueue (by simp [skill, dispatchSkills]) agent.tasks agent.nextId done))
  | approve vetted traced status logged silent assistant =>
    refine .steady ⟨fun b member scheduled => ?_, fun d member sends => ⟨d, note_campaigns db _ ▸ member, rfl, sends⟩,
      note_nextId db _, .same (note_tasks db _)⟩
    rcases mem_setAsset member with rfl | stays
    · simp at scheduled
    · exact ⟨b, note_assets db _ ▸ stays, .refl b, scheduled⟩
  | reject here traced status rejected logged silent =>
    refine .steady ⟨fun b member scheduled => ?_, fun d member sends => ⟨d, note_campaigns db _ ▸ member, rfl, sends⟩,
      note_nextId db _, .same (note_tasks db _)⟩
    rcases mem_setAsset member with rfl | stays
    · simp [rejected] at scheduled
    · exact ⟨b, note_assets db _ ▸ stays, .refl b, scheduled⟩
  | @create a status asked =>
    refine .steady ⟨fun b member scheduled => ?_, fun d member sends => ⟨d, member, rfl, sends⟩, Nat.le_succ _, .same rfl⟩
    rcases List.mem_append.mp member with old | new
    · exact ⟨b, old, .refl b, scheduled⟩
    · rw [List.mem_singleton.mp new] at scheduled
      have same : a.status = .scheduled := scheduled
      simp [same] at status
  | ledger planned => exact .steady (.untouched (.intro rfl rfl rfl rfl le_rfl) (.same rfl))
  | newTest fresh designing undecided configured =>
    exact .steady (.untouched (.intro rfl rfl rfl rfl (Nat.le_succ _)) (.same rfl))
  | setTest found step split => exact .steady (.untouched (.intro rfl rfl rfl rfl le_rfl) (.same rfl))

end Writes

end MarketingAgents
