import MarketingAgents.Content.TaskRows
import MarketingAgents.Delivery.Transitions

namespace MarketingAgents

open Lib PyText

theorem update_settles (db : Db) (id : Uuid) {f : ContentAsset → ContentAsset} (settles : ∀ row, Settles row (f row)) :
    Rewrites Settles db { db with assets := updateWhere (fun a => decide (a.id = id)) f db.assets } where
  campaigns := rfl
  assets := forall₂_updateWhere rowOrder_settles.refl fun row _ _ => settles row
  approvals := rfl
  statusWrites := rfl
  nextId := le_rfl

theorem publishedRow_settles (loaded : ContentAsset) (extras : Dict String Json) (now : Int) (row : ContentAsset) :
    Settles row (publishedRow loaded extras now row) :=
  ⟨⟨rfl, rfl, rfl⟩, by simp [publishedRow]⟩

theorem revokedRow_settles (loaded : ContentAsset) (message : String) (row : ContentAsset) :
    Settles row (revokedRow loaded message row) :=
  ⟨⟨rfl, rfl, rfl⟩, by simp [revokedRow]⟩

theorem writeStatus_stale_wf {db : Db} (wf : db.Wf) (id : Uuid) (after : CampaignStatus) (writer : Writer) :
    (db.writeStatus id after writer).Wf := by
  cases found : db.campaign? id with
  | none =>
    unfold Db.writeStatus
    rw [found]
    exact wf
  | some c =>
    rw [← (Db.campaign?_mem found).2]
    exact writeStatus_wf (Db.campaign?_self found) after writer wf

theorem writeStatus_stale_drift {db : Db} (wf : db.Wf) (id : Uuid) {after : CampaignStatus} (past : after.pastLaunch = true)
    (writer : Writer) : Drift db (db.writeStatus id after writer) := by
  cases found : db.campaign? id with
  | none =>
    unfold Db.writeStatus
    rw [found]
    exact .refl db
  | some c =>
    rw [← (Db.campaign?_mem found).2]
    exact .write after writer wf (Db.campaign?_self found) fun _ => past

section Commits

variable {db db' : Db} {now : Int}

/-- What the commit of a handler transaction does to assets and campaigns. -/
inductive Committed (db : Db) (phase : Phase) (db' : Db) : Prop where
  | settles (rows : Rewrites Settles db db')
  | goesLive (mid : Db) (a : ContentAsset) (c : Campaign) (loaded : phase.loaded = some (a, c))
      (ready : c.status = .readyToLaunch) (rows : Rewrites Settles db mid)
      (wrote : db' = mid.writeStatus c.id .live (.transition "start_live"))
  | revoked (id : Uuid) (rows : Rewrites Settles (db.writeStatus id .paused .pauseHelper) db')

theorem Committed.wf {phase : Phase} (committed : Committed db phase db') (wf : db.Wf) : db'.Wf := by
  cases committed with
  | settles rows => exact rows.wf rowOrder_settles wf
  | goesLive mid a c loaded ready rows wrote =>
    rw [wrote]
    exact writeStatus_stale_wf (rows.wf rowOrder_settles wf) _ _ _
  | revoked id rows => exact rows.wf rowOrder_settles (writeStatus_stale_wf wf _ _ _)

theorem Committed.nextId {phase : Phase} (committed : Committed db phase db') : db.nextId ≤ db'.nextId := by
  cases committed with
  | settles rows => exact rows.nextId
  | goesLive mid a c loaded ready rows wrote =>
    rw [wrote, writeStatus_nextId]
    exact rows.nextId
  | revoked id rows => exact (writeStatus_nextId db id _ _).ge.trans rows.nextId

theorem Committed.origin {phase : Phase} (committed : Committed db phase db') {b : ContentAsset} (member : b ∈ db'.assets)
    (scheduled : b.status = .scheduled) : ∃ old ∈ db.assets, SameRow old b ∧ old.status = .scheduled := by
  have settled : ∀ {rows}, List.Forall₂ Settles rows db'.assets → ∃ old ∈ rows, SameRow old b ∧ old.status = .scheduled :=
    fun related => by
      obtain ⟨old, here, settles⟩ := forall₂_origin related member
      exact ⟨old, here, settles.toSameRow, settles.scheduled scheduled⟩
  cases committed with
  | settles rows => exact settled rows.assets
  | goesLive mid a c loaded ready rows wrote =>
    rw [wrote, writeStatus_assets] at settled
    exact settled rows.assets
  | revoked id rows => exact settled (writeStatus_assets db id .paused .pauseHelper ▸ rows.assets)

/-- A campaign that sends after a commit did so before, or the commit took it live. -/
theorem Committed.sends {phase : Phase} (committed : Committed db phase db') {d : Campaign} (member : d ∈ db'.campaigns)
    (sends : d.status.sends = true) : (∃ c ∈ db.campaigns, c.id = d.id ∧ c.status.sends = true) ∨
      ∃ a c, phase.loaded = some (a, c) ∧ c.status = .readyToLaunch ∧ c.id = d.id := by
  cases committed with
  | settles rows => exact Or.inl ⟨d, rows.campaigns ▸ member, rfl, sends⟩
  | goesLive mid a c loaded ready rows wrote =>
    by_cases same : d.id = c.id
    · exact Or.inr ⟨a, c, loaded, ready, same.symm⟩
    · rw [wrote] at member
      exact Or.inl ⟨d, rows.campaigns ▸ mem_writeStatus_ne member same, rfl, sends⟩
  | revoked id rows =>
    rw [rows.campaigns] at member
    by_cases same : d.id = id
    · rw [writeStatus_status member same] at sends
      simp [CampaignStatus.sends] at sends
    · exact Or.inl ⟨d, mem_writeStatus_ne member same, rfl, sends⟩

theorem Committed.drift {phase : Phase} (committed : Committed db phase db') (wf : db.Wf) : Drift db db' := by
  cases committed with
  | settles rows => exact .of_rewrites rows
  | goesLive mid a c loaded ready rows wrote =>
    rw [wrote]
    exact (Drift.of_rewrites rows).trans (writeStatus_stale_drift (rows.wf rowOrder_settles wf) _ rfl _)
  | revoked id rows => exact (writeStatus_stale_drift wf id rfl _).trans (.of_rewrites rows)

variable [PyText]

theorem publishAndGoLive_committed {recorded : Db} (same : Untouched db recorded) {phase : Phase} {a : ContentAsset}
    {c : Campaign} (loaded : phase.loaded = some (a, c)) {extras : Dict String Json}
    (done : maybeGoLive (recorded.publish a extras now) c now = .ok db') : Committed db phase db' := by
  have rows := (Rewrites.of_untouched rowOrder_settles same).trans rowOrder_settles
    (update_settles recorded a.id (publishedRow_settles a extras now))
  rw [maybeGoLive_eq] at done
  have value := (Except.ok.inj done).symm
  split at value
  · rename_i live
    exact .goesLive _ a c loaded live.1 rows value
  · rw [value]
    exact .settles rows

theorem finishHandler_committed {phase : Phase} (done : World.finishHandler db now phase = some (.ok db')) :
    Committed db phase db' := by
  cases phase with
  | calledEmail plan outcome =>
    have finished := Option.some.inj done
    unfold finishEmail at finished
    split at finished
    · exact publishAndGoLive_committed (untouched_recordEmail db plan none now) rfl
        (commitEmail_eq_ok.mp (mapError_eq_ok.mp finished)).2
    · split at finished
      · simp at finished
      · exact publishAndGoLive_committed (untouched_recordEmail db plan _ now) rfl
          (commitEmail_eq_ok.mp (mapError_eq_ok.mp finished)).2
  | calledSocial plan outcome =>
    have finished := Option.some.inj done
    unfold finishSocial at finished
    split at finished
    · cases Except.ok.inj finished
      have failed := revokedRow_settles plan.asset
      unfold commitRevoked pauseCampaign
      split
      · exact .settles (update_settles _ _ (failed _))
      · exact .revoked plan.campaign.id ((Rewrites.of_untouched rowOrder_settles (untouched_cancelQueued _ _ now)).trans
          rowOrder_settles (update_settles _ _ (failed _)))
    · simp at finished
    · have committed := (commitSocial_eq_ok.mp (mapError_eq_ok.mp finished)).2
      exact publishAndGoLive_committed (sameCore_recordSocial db plan _ now).untouched rfl committed
  | claimed | begunEmail | begunSocial | checkedSocial | returned | raised => simp [World.finishHandler] at done

end Commits

section Dealt

variable {db db' : Db} {now : Int}

/-- What a commit does to the queue: nothing, or it cancels what waits for the campaign it has paused. -/
inductive CommitTasks (db : Db) (now : Int) (c : Campaign) (db' : Db) : Prop where
  | same (value : db'.tasks = db.tasks)
  | cancels (value : db'.tasks = Queue.step db.tasks (.cancel c.id now))
      (paused : ∀ d ∈ db'.campaigns, d.id = c.id → d.status = .paused)

/-- What a commit leaves: the asset is dealt with, and so are the tasks of its campaign. -/
structure Dealt (db : Db) (now : Int) (a : ContentAsset) (c : Campaign) (db' : Db) : Prop where
  row : ∀ b ∈ db'.assets, b.id = a.id → b.status ≠ .scheduled
  tasks : CommitTasks db now c db'

theorem mem_update_status {rows : List ContentAsset} {id : Uuid} {f : ContentAsset → ContentAsset} {b : ContentAsset}
    (member : b ∈ updateWhere (fun a => decide (a.id = id)) f rows) (same : b.id = id)
    (settles : ∀ a, (f a).status ≠ .scheduled) : b.status ≠ .scheduled := by
  rcases mem_updateWhere.mp member with ⟨old, _, _, rfl⟩ | ⟨_, miss⟩
  · exact settles old
  · simp [same] at miss

theorem commitRevoked_dealt (plan : SocialPlan) (message : String) :
    Dealt db now plan.asset plan.campaign (commitRevoked db plan message now) := by
  have failed : ∀ rows, ∀ b ∈ updateWhere (fun a => decide (a.id = plan.asset.id)) (revokedRow plan.asset message) rows,
      b.id = plan.asset.id → b.status ≠ .scheduled := fun rows b member same =>
    mem_update_status member same (by simp [revokedRow])
  unfold commitRevoked pauseCampaign
  split
  · exact ⟨failed _, .same rfl⟩
  · refine ⟨failed _, .cancels ?_ fun d member same => ?_⟩
    · rw [← writeStatus_tasks db plan.campaign.id .paused .pauseHelper]
      rfl
    · exact writeStatus_status member same

variable [PyText]

theorem publishAndGoLive_dealt {recorded : Db} (tasks : recorded.tasks = db.tasks) {a : ContentAsset} {c : Campaign}
    {extras : Dict String Json} (done : maybeGoLive (recorded.publish a extras now) c now = .ok db') :
    Dealt db now a c db' := by
  have published : ∀ b ∈ (recorded.publish a extras now).assets, b.id = a.id → b.status ≠ .scheduled :=
    fun b member same => mem_update_status member same (by simp [publishedRow])
  rw [maybeGoLive_eq] at done
  have value := (Except.ok.inj done).symm
  split at value
  · subst value
    refine ⟨fun b member => ?_, .same ((writeStatus_tasks _ _ _ _).trans tasks)⟩
    rw [writeStatus_assets] at member
    exact published b member
  · rw [value]
    exact ⟨published, .same tasks⟩

theorem finishHandler_dealt {phase : Phase} {a : ContentAsset} {c : Campaign}
    (loaded : phase.loaded = some (a, c)) (done : World.finishHandler db now phase = some (.ok db')) :
    Dealt db now a c db' := by
  cases phase with
  | calledEmail plan outcome =>
    cases loaded
    have finished := Option.some.inj done
    have recorded : ∀ result, (db.recordEmail plan result now).tasks = db.tasks := fun _ => rfl
    unfold finishEmail at finished
    split at finished
    · exact publishAndGoLive_dealt (recorded none) (commitEmail_eq_ok.mp (mapError_eq_ok.mp finished)).2
    · split at finished
      · simp at finished
      · exact publishAndGoLive_dealt (recorded _) (commitEmail_eq_ok.mp (mapError_eq_ok.mp finished)).2
  | calledSocial plan outcome =>
    cases loaded
    have finished := Option.some.inj done
    unfold finishSocial at finished
    split at finished
    · cases Except.ok.inj finished
      exact commitRevoked_dealt plan _
    · simp at finished
    · exact publishAndGoLive_dealt (sameCore_recordSocial db plan _ now).tasks
        (commitSocial_eq_ok.mp (mapError_eq_ok.mp finished)).2
  | claimed | begunEmail | begunSocial | checkedSocial | returned | raised => simp [World.finishHandler] at done

theorem finishHandler_loaded {phase : Phase} (done : World.finishHandler db now phase = some (.ok db')) :
    ∃ a c, phase.loaded = some (a, c) := by
  cases phase with
  | calledEmail plan outcome => exact ⟨_, _, rfl⟩
  | calledSocial plan outcome => exact ⟨_, _, rfl⟩
  | claimed | begunEmail | begunSocial | checkedSocial | returned | raised => simp [World.finishHandler] at done

theorem finishHandler_flow {phase : Phase} (done : World.finishHandler db now phase = some (.ok db')) : TaskFlow db db' := by
  obtain ⟨a, c, loaded⟩ := finishHandler_loaded done
  have nextId := (finishHandler_committed done).nextId
  cases (finishHandler_dealt loaded done).tasks with
  | same value => exact .same value nextId
  | cancels value paused => exact .queue value nextId (by simp)

end Dealt

end MarketingAgents
