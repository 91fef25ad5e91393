import MarketingAgents.Content.Dispatching
import MarketingAgents.Orchestrator.QueueSteps

namespace MarketingAgents

open Lib PyText

/-- The same task later in its life. -/
structure SameTask (old new : Task) : Prop where
  id : new.id = old.id
  skillName : new.skillName = old.skillName
  inputData : new.inputData = old.inputData
  campaignId : new.campaignId = old.campaignId

theorem SameTask.refl (t : Task) : SameTask t t := ⟨rfl, rfl, rfl, rfl⟩

theorem SameTask.trans {t t' t'' : Task} (first : SameTask t t') (last : SameTask t' t'') : SameTask t t'' :=
  ⟨last.id.trans first.id, last.skillName.trans first.skillName, last.inputData.trans first.inputData,
    last.campaignId.trans first.campaignId⟩

theorem SameTask.symm {t t' : Task} (same : SameTask t t') : SameTask t' t :=
  ⟨same.id.symm, same.skillName.symm, same.inputData.symm, same.campaignId.symm⟩

theorem Task.isOpen_of_waiting {t : Task} (waiting : Queue.waiting t = true) : t.isOpen = true := by
  simp only [Queue.waiting, Bool.or_eq_true, decide_eq_true_eq] at waiting
  rcases waiting with status | status <;> simp [Task.isOpen, status]

namespace Queue

variable {tasks : List Task} {op : QueueOp} {t t' : Task}

/-- The call brings the task to its end. -/
inductive Ends (op : QueueOp) (t : Task) : Prop where
  | completed {outputData : Dict String Json} {now : Int} (named : op = .complete t.id outputData now)
  | givenUp {error : String} {permanent : Bool} {draw : Fin (2 ^ 53)} {now : Int}
      (named : op = .fail t.id error permanent draw now) (spent : exhausted permanent t = true)
  | cancelled {campaignId : Uuid} {now : Int} (named : op = .cancel campaignId now) (owner : t.campaignId = some campaignId)

/-- The call puts the task back to wait, whatever its status was. -/
def Retries (op : QueueOp) (t : Task) : Prop :=
  ∃ error permanent draw now, op = .fail t.id error permanent draw now ∧ exhausted permanent t = false

theorem RowStep.same (moved : RowStep tasks op t t') : SameTask t t' := by
  cases moved <;> exact ⟨rfl, rfl, rfl, rfl⟩

theorem RowStep.stays_open (moved : RowStep tasks op t t') (isOpen : t.isOpen = true) : t'.isOpen = true ∨ Ends op t := by
  cases moved with
  | kept => exact Or.inl isOpen
  | claimed _ | retried _ | reaped _ => exact Or.inl rfl
  | succeeded => exact Or.inr (.completed rfl)
  | failedForGood spent => exact Or.inr (.givenUp rfl spent)
  | cancelled hit =>
    simp only [cancellable, Bool.and_eq_true, decide_eq_true_eq] at hit
    exact Or.inr (.cancelled rfl hit.1)

theorem RowStep.was_open (moved : RowStep tasks op t t') (isOpen : t'.isOpen = true) : t.isOpen = true ∨ Retries op t := by
  cases moved with
  | kept => exact Or.inl isOpen
  | claimed next =>
    have waits := (nextReady_mem next).2
    simp only [ready, Bool.and_eq_true] at waits
    exact Or.inl (Task.isOpen_of_waiting waits.1)
  | retried spent => exact Or.inr ⟨_, _, _, _, rfl, spent⟩
  | reaped expired =>
    simp only [Queue.expired, Bool.and_eq_true, decide_eq_true_eq] at expired
    exact Or.inl (by simp [Task.isOpen, expired.1])
  | succeeded | failedForGood _ | cancelled _ =>
    simp [Task.isOpen, Queue.succeeded, Queue.failedForGood, Queue.cancelled] at isOpen

/-- A task that a call of the queue does not end is open after it. -/
theorem stays_open (ids : (tasks.map Task.id).Nodup) (here : t ∈ tasks)
    (isOpen : t.isOpen = true) (lasts : ¬ Ends op t) :
    ∃ t' ∈ step tasks op, SameTask t t' ∧ t'.isOpen = true := by
  obtain ⟨t', there, moved⟩ := row_successor ids op here
  exact ⟨t', there, moved.same, (moved.stays_open isOpen).resolve_right lasts⟩

/-- A cancellation for one campaign leaves the open tasks of the others. -/
theorem stays_open_cancel (ids : (tasks.map Task.id).Nodup) (here : t ∈ tasks) (isOpen : t.isOpen = true) {campaignId : Uuid}
    (other : t.campaignId ≠ some campaignId) (now : Int) :
    ∃ t' ∈ step tasks (.cancel campaignId now), SameTask t t' ∧ t'.isOpen = true := by
  refine stays_open ids here isOpen fun ends => ?_
  cases ends with
  | cancelled named owned =>
    cases named
    exact other owned
  | completed named | givenUp named => cases named

end Queue

/-- Tasks stay in the table, under distinct ids. -/
structure TaskFlow (db db' : Db) : Prop where
  nextId : db.nextId ≤ db'.nextId
  ids : TaskIds db → TaskIds db'
  kept : TaskIds db → ∀ t ∈ db.tasks, ∃ t' ∈ db'.tasks, SameTask t t'

namespace TaskFlow

variable {db db' db'' : Db}

theorem refl (db : Db) : TaskFlow db db := ⟨le_rfl, id, fun _ t here => ⟨t, here, .refl t⟩⟩

theorem trans (first : TaskFlow db db') (last : TaskFlow db' db'') : TaskFlow db db'' where
  nextId := first.nextId.trans last.nextId
  ids ids := last.ids (first.ids ids)
  kept ids t here := by
    obtain ⟨t', there, same⟩ := first.kept ids t here
    obtain ⟨t'', yonder, same'⟩ := last.kept (first.ids ids) t' there
    exact ⟨t'', yonder, same.trans same'⟩

theorem grow {tasks : List Task} (queued : Queued db db' tasks) (nextId : db.nextId ≤ db'.nextId) : TaskFlow db db' where
  nextId := nextId
  ids ids := ids.grow queued nextId
  kept _ t here := ⟨t, queued.value ▸ List.mem_append_left _ here, .refl t⟩

theorem same (tasks : db'.tasks = db.tasks) (nextId : db.nextId ≤ db'.nextId) : TaskFlow db db' := grow (.none tasks) nextId

/-- A call of the queue that inserts nothing. -/
theorem queue {op : QueueOp} (value : db'.tasks = Queue.step db.tasks op) (nextId : db.nextId ≤ db'.nextId)
    (inserts : ∀ args newId now, op ≠ .enqueue args newId now) : TaskFlow db db' where
  nextId := nextId
  ids ids := by
    refine ids.of_ids ?_ nextId
    rw [value]
    exact (Queue.step_ids db.tasks op).resolve_right fun ⟨args, newId, now, named, _⟩ => inserts args newId now named
  kept ids t here := by
    obtain ⟨t', there, moved⟩ := Queue.row_successor ids.distinct op here
    exact ⟨t', value ▸ there, moved.same⟩

theorem enqueue {args : EnqueueArgs} {now : Int} (done : db.enqueue args now = .ok db') : TaskFlow db db' := by
  obtain ⟨_, queued, _⟩ := enqueue_queued done
  exact grow queued (untouched_enqueue done).nextId

end TaskFlow

theorem TaskSteady.flow {db db' : Db} (steady : TaskSteady db db') (nextId : db.nextId ≤ db'.nextId) : TaskFlow db db' := by
  cases steady with
  | grows tasks queued other => exact .grow queued nextId
  | cancels c here paused now value =>
    have value' : db'.tasks = Queue.step db.tasks (.cancel c.id now) := value
    exact .queue value' nextId (by simp)

section Writes

variable [PyText] {may : Cause → Db → Prop} {now : Int} {db db' : Db}

theorem SendStep.flow (step : SendStep may now db db') : TaskFlow db db' := by
  cases step with
  | steady steady => exact steady.tasks.flow steady.nextId
  | launched c found pending schedules =>
    obtain ⟨tasks, queued, _⟩ := schedules.tasks
    exact .trans (.same (writeStatus_tasks db c.id _ _) (writeStatus_nextId db c.id _ _).ge)
      (.grow queued schedules.side.nextId)
  | resumed c found asked resumes =>
    obtain ⟨tasks, queued, _⟩ := resumes.tasks
    exact .trans (.same (writeStatus_tasks db c.id _ _) (writeStatus_nextId db c.id _ _).ge)
      (.grow queued resumes.side.nextId)

theorem Op.run_flow (wf : db.Wf) (op : Op) : TaskFlow db (op.run db now) :=
  ((Op.run_writes wf op).induct wf (TaskFlow.refl db) fun _ _ midWf flow write => flow.trans (write.sendStep midWf).flow).2

end Writes

end MarketingAgents
