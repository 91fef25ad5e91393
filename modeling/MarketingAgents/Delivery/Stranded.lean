import MarketingAgents.Content.Undoubled
import MarketingAgents.Delivery.Turns

namespace MarketingAgents.World

open Lib PyText

/-- The handler of one of the task's executions has returned. -/
def finished (w : World) (id : Uuid) : Prop := ∃ e ∈ w.executions, e.task.id = id ∧ e.phase.isReturned = true

instance (w : World) : DecidablePred w.finished := fun id =>
  inferInstanceAs (Decidable (∃ e ∈ w.executions, e.task.id = id ∧ e.phase.isReturned = true))

/-- A worker that may complete a dispatch has seen its handler return. -/
theorem returned_of_ended {e : Execution} (done : ended e = true) (raised : e.phase.hasRaised = false)
    (skill : e.task.skillName ∈ dispatchSkills) : e.phase.isReturned = true := by
  obtain ⟨id, task, phase, startedStopped⟩ := e
  cases phase with
  | returned => rfl
  | claimed =>
    simp only [dispatchSkills, List.mem_cons, List.not_mem_nil, or_false] at skill
    rcases skill with skill | skill <;> simp [ended, skill] at done
  | raised error => simp [Phase.hasRaised] at raised
  | begunEmail | calledEmail | begunSocial | checkedSocial | calledSocial => simp [ended] at done

section Stranded

variable [PyText] {w w' : World}

/-- Every scheduled asset of the campaign but this one is under a dispatch. -/
def OthersServed (w : World) (a : ContentAsset) (c : Campaign) : Prop :=
  ∀ b ∈ w.db.assets, b.campaignId = c.id ∧ b.id ≠ a.id ∧ b.status = .scheduled ∧ routed b = true →
    Served w.finished w.db b

instance (w : World) (a : ContentAsset) (c : Campaign) : Decidable (w.OthersServed a c) :=
  inferInstanceAs (Decidable (∀ b ∈ w.db.assets, b.campaignId = c.id ∧ b.id ≠ a.id ∧ b.status = .scheduled ∧
    routed b = true → Served w.finished w.db b))

/-- A worker completes the task of no handler that has raised. A task is given
up only while another one is to dispatch its asset. A transaction that read its
campaign as `ready_to_launch` commits only while the campaign still sends, or
with every other scheduled asset of it under a dispatch. -/
def KeepsServed (w : World) : WorldOp → Prop
  | .complete id _ _ => ∀ e ∈ w.execution? id, e.phase.hasRaised = false
  | .fail id _ permanent _ _ => ∀ e ∈ w.execution? id, ended e = true → ∀ t ∈ w.db.tasks, t.id = e.task.id →
      Queue.exhausted permanent t = true → ∀ a ∈ w.db.assets, Awaits w.db a → Dispatches a t →
        Served (fun id => id = t.id ∨ w.finished id) w.db a
  | .commit id _ => ∀ e ∈ w.execution? id, ∀ loaded ∈ e.phase.loaded, loaded.2.status = .readyToLaunch →
      (∃ c ∈ w.db.campaigns, c.id = loaded.2.id ∧ c.status.sends = true) ∨ w.OthersServed loaded.1 loaded.2
  | _ => True

theorem Followed.below (followed : w.Followed) {id : Uuid} (ended : w.finished id) : id < w.db.nextId := by
  obtain ⟨e, here, rfl, _⟩ := ended
  obtain ⟨t, there, same⟩ := followed.known e here
  exact same.id ▸ followed.ids.below t there

/-- The execution of a task that dispatches an asset is of the skill for it, and at that asset. -/
theorem Followed.dispatch (followed : w.Followed) {e : Execution} (member : e ∈ w.executions) {a : ContentAsset} {t : Task}
    (here : t ∈ w.db.tasks) (same : t.id = e.task.id) (names : Dispatches a t) :
    e.task.skillName = t.skillName ∧ taskAssetId e.task = .ok a.id := by
  obtain ⟨row, there, copy⟩ := followed.known e member
  have equal : row = t := eq_of_key_eq followed.ids.distinct there here (copy.id.trans same.symm)
  subst equal
  refine ⟨copy.skillName.symm, ?_⟩
  unfold taskAssetId
  rw [← copy.inputData, names.2.1]
  simp [orRaise, uuidOf_uuidStr]

/-- A call of the queue that ends no task which serves an asset. -/
theorem NoneStranded.queue {busy : Uuid → Prop} {db : Db} (holds : NoneStranded busy db) (ids : TaskIds db) {op : QueueOp}
    (lasts : ∀ a, ∀ t ∈ db.tasks, Dispatches a t → ¬ busy t.id → ¬ Queue.Ends op t) : NoneStranded busy (db.queue op) := by
  intro a awaits
  refine (holds a awaits).keep fun t here isOpen names free => ?_
  obtain ⟨t', there, same, isOpen'⟩ := Queue.stays_open ids.distinct here isOpen (lasts a t here names free)
  exact ⟨t', there, same, isOpen', same.id.symm ▸ free⟩

theorem Followed.begin_stranded (followed : w.Followed) (holds : NoneStranded w.finished w.db) {e : Execution}
    (member : e ∈ w.executions) {phase : Phase} (begun : Begun w.db e.task phase) {busy : Uuid → Prop}
    (less : ∀ id, busy id → w.finished id ∨ (id = e.task.id ∧ phase.isReturned = true)) : NoneStranded busy w.db := by
  intro a awaits
  refine (holds a awaits).keep fun t here isOpen names free => ⟨t, here, .refl t, isOpen, fun occupied => ?_⟩
  obtain ⟨same, returned⟩ := (less t.id occupied).resolve_left free
  cases begun with
  | skips named skips =>
    obtain ⟨_, at'⟩ := followed.dispatch member here same names
    cases Except.ok.inj (named.symm.trans at')
    obtain ⟨there, _, _, d, dHere, mine, sends⟩ := awaits
    have equal := followed.wf.eq_of_id (Db.asset?_mem skips.asset).1 there (Db.asset?_mem skips.asset).2
    subst equal
    obtain ⟨cHere, owner⟩ := Db.campaign?_mem skips.campaign
    rw [eq_of_key_eq followed.wf.campaignIds dHere cHere (mine.trans owner.symm), skips.paused] at sends
    simp [CampaignStatus.sends] at sends
  | raises error | email named ready | social named ready => simp [Phase.isReturned] at returned

/-- The commit of a handler strands no asset. It may be the commit that starts a
campaign to send, so that its other assets must be served as well. -/
theorem Followed.commit_stranded (followed : w.Followed) (holds : NoneStranded w.finished w.db) {e : Execution} {now : Int}
    (member : e ∈ w.executions) {db' : Db} (finished : finishHandler w.db now e.phase = some (.ok db'))
    (keeps : ∀ loaded ∈ e.phase.loaded, loaded.2.status = .readyToLaunch →
      (∃ c ∈ w.db.campaigns, c.id = loaded.2.id ∧ c.status.sends = true) ∨ w.OthersServed loaded.1 loaded.2)
    {busy : Uuid → Prop} (less : ∀ id, busy id → w.finished id ∨ id = e.task.id) :
    NoneStranded busy db' := by
  obtain ⟨a, c, loaded⟩ := finishHandler_loaded finished
  have committed := finishHandler_committed finished
  have dealt := finishHandler_dealt loaded finished
  intro b ⟨there, scheduled, dispatched, d, dHere, mine, sends⟩
  obtain ⟨old, here, row, before⟩ := committed.origin there scheduled
  have other : b.id ≠ a.id := fun same => dealt.row b there same scheduled
  have routes : routed old = true := routed_of_sameRow row ▸ dispatched
  have sent : ∀ x ∈ w.db.campaigns, x.id = d.id → x.status.sends = true → Served w.finished w.db old :=
    fun x xHere same going => holds old ⟨here, before, routes, x, xHere, same.trans (mine.trans row.campaignId), going⟩
  have served : Served w.finished w.db old := by
    rcases committed.sends dHere sends with ⟨x, xHere, same, going⟩ | ⟨a', c', loaded', ready, same⟩
    · exact sent x xHere same going
    · cases loaded.symm.trans loaded'
      rcases keeps (a, c) loaded ready with ⟨x, xHere, stored, going⟩ | others
      · exact sent x xHere (stored.trans same) going
      · exact others old here ⟨row.campaignId.symm.trans (mine.symm.trans same.symm),
          fun equal => other (row.id.trans equal), before, routes⟩
  refine Served.of_row (served.keep fun t tHere isOpen names free => ?_) row
  have unended : t.id ≠ e.task.id := fun same => by
    have named := (followed.dispatch member tHere same names).2
    rw [followed.loaded e member a c loaded] at named
    exact other (row.id.trans (Except.ok.inj named).symm)
  have unoccupied : ¬ busy t.id := fun occupied => (less t.id occupied).elim free unended
  cases dealt.tasks with
  | same value => exact ⟨t, value ▸ tHere, .refl t, isOpen, unoccupied⟩
  | cancels value paused =>
    have lasts : ¬ Queue.Ends (.cancel c.id now) t := fun ends => by
      cases ends with
      | cancelled named owned =>
        cases named
        have same : d.id = c.id := mine.trans (row.campaignId.trans (Option.some.inj (names.2.2.symm.trans owned)))
        rw [paused d dHere same] at sends
        simp [CampaignStatus.sends] at sends
      | completed named | givenUp named => cases named
    obtain ⟨t', after, same, isOpen'⟩ := Queue.stays_open followed.ids.distinct tHere isOpen lasts
    exact ⟨t', value ▸ after, same, isOpen', same.id.symm ▸ unoccupied⟩

/-- A worker completes a dispatch whose handler has returned. -/
theorem Followed.complete_stranded (followed : w.Followed) (holds : NoneStranded w.finished w.db) {e : Execution}
    (member : e ∈ w.executions) (done : ended e = true) (raised : e.phase.hasRaised = false)
    (outputData : Dict String Json) (now : Int) :
    NoneStranded w.finished (w.db.queue (.complete e.task.id outputData now)) := by
  refine NoneStranded.queue holds followed.ids fun a t here names free ends => ?_
  cases ends with
  | completed named =>
    obtain ⟨same, _, _⟩ := QueueOp.complete.inj named
    have skill := (followed.dispatch member here same.symm names).1
    exact free ⟨e, member, same, returned_of_ended done raised (skill ▸ dispatchSkillFor_mem names.1)⟩
  | givenUp named | cancelled named => cases named

/-- A task that is given up leaves its asset to another one. -/
theorem Followed.fail_stranded (followed : w.Followed) (holds : NoneStranded w.finished w.db) {e : Execution}
    {error : String} {permanent : Bool} {draw : Fin (2 ^ 53)} {now : Int}
    (another : ∀ t ∈ w.db.tasks, t.id = e.task.id → Queue.exhausted permanent t = true → ∀ a ∈ w.db.assets,
      Awaits w.db a → Dispatches a t → Served (fun id => id = t.id ∨ w.finished id) w.db a) :
    NoneStranded w.finished (w.db.queue (.fail e.task.id error permanent draw now)) := by
  intro a awaits
  obtain ⟨t, here, isOpen, names, free⟩ := holds a awaits
  by_cases ends : Queue.Ends (.fail e.task.id error permanent draw now) t
  · cases ends with
    | givenUp named spent =>
      obtain ⟨same, _, rfl, _, _⟩ := QueueOp.fail.inj named
      refine (another t here same.symm spent a awaits.1 awaits names).keep fun t₂ here₂ isOpen₂ names₂ free₂ => ?_
      have lasts : ¬ Queue.Ends (.fail e.task.id error permanent draw now) t₂ := fun ends => by
        cases ends with
        | givenUp named₂ => exact free₂ (Or.inl ((QueueOp.fail.inj named₂).1.symm.trans same))
        | completed named₂ | cancelled named₂ => cases named₂
      obtain ⟨t', there, same', isOpen'⟩ := Queue.stays_open followed.ids.distinct here₂ isOpen₂ lasts
      exact ⟨t', there, same', isOpen', same'.id.symm ▸ fun ended => free₂ (Or.inr ended)⟩
    | completed named | cancelled named => cases named
  · obtain ⟨t', there, same, isOpen'⟩ := Queue.stays_open followed.ids.distinct here isOpen ends
    exact ⟨t', there, isOpen', names.of_same (.refl a) same, same.id.symm ▸ free⟩

theorem Followed.operate_stranded (followed : w.Followed) (holds : NoneStranded w.finished w.db) (action : Op) (now : Int) :
    NoneStranded w.finished (action.run w.db now) := by
  have writes : Writes (action.may w.db) now w.db (action.run w.db now) := Op.run_writes followed.wf action
  have reached := writes.induct (I := fun mid => NoneStranded w.finished mid ∧ TaskFlow w.db mid ∧ ScheduledLate mid)
    followed.wf ⟨holds, .refl _, followed.late⟩ fun mid next midWf ⟨served, flow, late⟩ write => by
      have below : ∀ id, w.finished id → id < mid.nextId := fun id ended => (followed.below ended).trans_le flow.nextId
      exact ⟨served.write midWf (flow.ids followed.ids) late below write, flow.trans (write.sendStep midWf).flow,
        (write.drift midWf).late late⟩
  exact reached.2.1

/-- A step that keeps its dispatches served strands no asset. Only the end of a task
can: it has to leave another open one, or an asset that has moved on. -/
theorem Followed.none_stranded_step (followed : w.Followed) (holds : NoneStranded w.finished w.db) {op : WorldOp}
    (keeps : w.KeepsServed op) : NoneStranded (w.step op).finished (w.step op).db := by
  have turn := step_turn followed.numbered op
  generalize w.step op = w' at turn ⊢
  have returns : ∀ {e e' : Execution}, Swapped w w' e e' → e'.task = e.task → ∀ id, w'.finished id →
      w.finished id ∨ (id = e.task.id ∧ e'.phase.isReturned = true) := by
    rintro e e' swapped task id ⟨x, here, rfl, returned⟩
    rcases (swapped x).mp here with rfl | old
    · exact Or.inr ⟨by rw [task], returned⟩
    · exact Or.inl ⟨x, old.1, rfl, returned⟩
  have fewer : (∀ x ∈ w'.executions, x ∈ w.executions) → ∀ id, w'.finished id → w.finished id :=
    fun subset id => fun ⟨x, here, same, returned⟩ => ⟨x, subset x here, same, returned⟩
  cases turn with
  | idle db executions =>
    rw [db]
    exact holds.mono (fewer fun x here => executions ▸ here)
  | claims next db executions =>
    rw [db]
    refine (NoneStranded.queue holds followed.ids fun a t here names free ends => ?_).mono fun id ⟨x, here, same, returned⟩ => ?_
    · cases ends with
      | completed named | givenUp named | cancelled named => cases named
    · rw [executions] at here
      rcases List.mem_cons.mp here with rfl | old
      · simp [Phase.isReturned] at returned
      · exact ⟨x, old, same, returned⟩
  | begins member begun db executions =>
    rw [db]
    exact followed.begin_stranded holds member (beginHandler_begun begun) (returns executions rfl)
  | proceeds e' member task going loaded db executions =>
    rw [db]
    exact holds.mono fun id ended => (returns executions task id ended).resolve_right fun ended => by simp [going] at ended
  | commits member finished executions =>
    refine followed.commit_stranded holds member finished (keeps _ (followed.numbered.execution?_of_mem member)) ?_
    exact fun id ended => (returns executions rfl id ended).imp_right And.left
  | crashes db executions =>
    rw [db]
    exact holds.mono (fewer executions)
  | @completes e outputData now _ member done db executions =>
    rw [db]
    have raised := keeps e (followed.numbered.execution?_of_mem member)
    exact (followed.complete_stranded holds member done raised outputData now).mono (fewer executions)
  | @fails e error permanent draw now _ member done db executions =>
    rw [db]
    have another := keeps e (followed.numbered.execution?_of_mem member) done
    exact (followed.fail_stranded holds another).mono (fewer executions)
  | reaps db executions =>
    rw [db]
    refine (NoneStranded.queue holds followed.ids fun a t here names free ends => ?_).mono (fewer fun x here => executions ▸ here)
    cases ends with
    | completed named | givenUp named | cancelled named => cases named
  | enqueues done executions =>
    obtain ⟨tasks, queued, _⟩ := enqueue_queued done
    have same := untouched_enqueue done
    refine NoneStranded.mono (fun a awaits => ?_) (fewer fun x here => executions ▸ here)
    have before : Awaits w.db a := by
      unfold Awaits
      rw [← same.assets_eq, ← same.campaigns]
      exact awaits
    exact (holds a before).keep fun t here isOpen _ free =>
      ⟨t, queued.value ▸ List.mem_append_left _ here, .refl t, isOpen, free⟩
  | @operates action now _ db executions =>
    rw [db]
    exact (followed.operate_stranded holds action now).mono (fewer fun x here => executions ▸ here)

instance (w : World) : (op : WorldOp) → Decidable (w.KeepsServed op)
  | .complete id _ _ => inferInstanceAs (Decidable (∀ e ∈ w.execution? id, e.phase.hasRaised = false))
  | .fail id _ permanent _ _ => inferInstanceAs (Decidable (∀ e ∈ w.execution? id, ended e = true → ∀ t ∈ w.db.tasks,
      t.id = e.task.id → Queue.exhausted permanent t = true → ∀ a ∈ w.db.assets, Awaits w.db a → Dispatches a t →
        Served (fun id => id = t.id ∨ w.finished id) w.db a))
  | .commit id _ => inferInstanceAs (Decidable (∀ e ∈ w.execution? id, ∀ loaded ∈ e.phase.loaded,
      loaded.2.status = .readyToLaunch → (∃ c ∈ w.db.campaigns, c.id = loaded.2.id ∧ c.status.sends = true) ∨
        w.OthersServed loaded.1 loaded.2))
  | .claim .. | .begin .. | .call .. | .abort .. | .crash .. | .reap .. | .enqueue .. | .operate .. =>
    inferInstanceAs (Decidable True)

/-- In a run that keeps its dispatches served, every scheduled email or social post
of a campaign that sends has an open dispatch task. What ends a task must have moved
its asset on, or leave another task for it. -/
theorem scheduled_assets_have_tasks {db : Db} (fresh : db.Fresh) (ids : TaskIds db) {ops : List WorldOp}
    (keeps : Along World.step KeepsServed { db := db } ops) :
    let w := Lib.run World.step { db := db } ops
    ∀ a ∈ w.db.assets, a.assetType = .email ∨ a.assetType = .socialPost → a.status = .scheduled →
      ∀ c ∈ w.db.campaigns, c.id = a.campaignId → c.status = .readyToLaunch ∨ c.status = .live →
        ∃ t ∈ w.db.tasks, Dispatches a t ∧ t.status ∈ [.queued, .awaitingRetry, .running] := by
  intro w a here kind scheduled c there mine sends
  have start : World.Followed { db := db } ∧ NoneStranded (World.finished { db := db }) db :=
    ⟨.start fresh ids, fun a awaits => absurd awaits.1 (by simp [fresh.assets])⟩
  have reached : w.Followed ∧ NoneStranded w.finished w.db :=
    keeps.invariant (I := fun w => w.Followed ∧ NoneStranded w.finished w.db) start fun w op holds permitted =>
      ⟨holds.1.step op, holds.1.none_stranded_step holds.2 permitted⟩
  have routes : routed a = true := by
    rcases kind with email | social
    · rw [routed, email]
      rfl
    · rw [routed, social]
      rfl
  have going : c.status.sends = true := by
    rcases sends with ready | live
    · rw [ready]
      rfl
    · rw [live]
      rfl
  obtain ⟨t, inside, isOpen, names, _⟩ := reached.2 a ⟨here, scheduled, routes, c, there, mine, going⟩
  exact ⟨t, inside, names, of_decide_eq_true isOpen⟩

end Stranded

namespace Stranded

open Sample

local instance strandedText : PyText := PyText.plain

/-- The dispatch of the launched email raises three times, as its tenant has no credential to send with. -/
def exhausted : List WorldOp :=
  launched ++ [(1, 1000000000), (2, 2000000000), (3, 3000000000)].flatMap fun (execution, now) =>
    [.claim "w1" 300 0 now, .begin execution "secret" now, .fail execution "no sendgrid credential" false 0 now]

/-- The queue fails the task and leaves the asset `scheduled`, without a task that could
send it. -/
theorem exhausted_retries_strand_asset :
    planned.Fresh ∧ TaskIds planned ∧
      let w := Lib.run World.step { db := planned } exhausted
      ∃ a ∈ w.db.assets, a.assetType = .email ∧ a.status = .scheduled ∧
        (∃ c ∈ w.db.campaigns, c.id = a.campaignId ∧ c.status = .readyToLaunch) ∧
        ∀ t ∈ w.db.tasks, t.status ∉ [.queued, .awaitingRetry, .running] :=
  ⟨⟨rfl, rfl, rfl, rfl⟩, ⟨by decide, by decide⟩, by decide +kernel⟩

/-- The handler finds the campaign paused, and the campaign is resumed before its task is completed. -/
def skipped : List WorldOp :=
  launched ++ [.claim "w1" 300 0 6, .operate (.applyTransition manager .manager 0 "pause") 6, .begin 1 "secret" 6,
    .operate (.applyTransition manager .manager 0 "resume") 6, .complete 1 [] 6]

theorem scheduled_assets_have_tasks_skipped :
    let w := Lib.run World.step { db := tenant } skipped
    ∃ a ∈ w.db.assets, a.status = .scheduled ∧ ∃ t ∈ w.db.tasks, Dispatches a t ∧
      t.status ∈ [.queued, .awaitingRetry, .running] := by
  have ids : TaskIds tenant := ⟨by decide, by decide⟩
  have keeps : Along World.step KeepsServed { db := tenant } skipped := by decide +kernel
  have stands : ∃ a ∈ (Lib.run World.step { db := tenant } skipped).db.assets, a.assetType = .email ∧ a.status = .scheduled ∧
      ∃ c ∈ (Lib.run World.step { db := tenant } skipped).db.campaigns, c.id = a.campaignId ∧ c.status = .live := by
    decide +kernel
  obtain ⟨a, here, email, scheduled, c, there, mine, live⟩ := stands
  exact ⟨a, here, scheduled,
    scheduled_assets_have_tasks ⟨rfl, rfl, rfl, rfl⟩ ids keeps a here (Or.inl email) scheduled c there mine (Or.inr live)⟩

end Stranded

end MarketingAgents.World
