import MarketingAgents.Content.TaskRows
import MarketingAgents.Delivery.Launched

namespace MarketingAgents

open Lib PyText

namespace Phase

/-- The handler has come to its end without an exception. -/
def isReturned : Phase → Bool
  | .returned => true
  | _ => false

/-- The handler has come to its end by an exception. -/
def hasRaised : Phase → Bool
  | .raised _ => true
  | _ => false

end Phase

/-- The queue takes a call. -/
def Db.queue (db : Db) (op : QueueOp) : Db := { db with tasks := Queue.step db.tasks op }

theorem untouched_queue (db : Db) (op : QueueOp) : Untouched db (db.queue op) := .intro rfl rfl rfl rfl le_rfl

theorem flow_queue (db : Db) {op : QueueOp} (inserts : ∀ args newId now, op ≠ .enqueue args newId now) :
    TaskFlow db (db.queue op) :=
  .queue rfl le_rfl inserts

namespace World

section Turns

variable [PyText] {w w' : World}

/-- What a step of the world does to the queue and to the executions. -/
inductive Turn (w : World) : WorldOp → World → Prop where
  | idle {op : WorldOp} {w' : World} (db : w'.db = w.db) (executions : w'.executions = w.executions) : Turn w op w'
  | claims {workerId : String} {leaseSeconds : Int} {tie : Nat} {now : Int} {t : Task} {w' : World}
      (next : Queue.nextReady w.db.tasks tie now = some t)
      (db : w'.db = w.db.queue (.claim workerId leaseSeconds tie now))
      (executions : w'.executions =
        ⟨w.nextExecution, Queue.claimed workerId (now + Queue.seconds leaseSeconds) now t, .claimed, false⟩ :: w.executions) :
      Turn w (.claim workerId leaseSeconds tie now) w'
  | begins {e : Execution} {secret : String} {now : Int} {phase : Phase} {flag : Bool} {w' : World}
      (member : e ∈ w.executions) (begun : beginHandler w.db secret e.task now = some phase) (db : w'.db = w.db)
      (executions : Swapped w w' e { e with phase := phase, startedStopped := flag }) : Turn w (.begin e.id secret now) w'
  | proceeds {op : WorldOp} {e : Execution} (e' : Execution) {w' : World} (member : e ∈ w.executions) (task : e'.task = e.task)
      (going : e'.phase.isReturned = false) (loaded : ∀ row, e'.phase.loaded = some row → e.phase.loaded = some row)
      (db : w'.db = w.db) (executions : Swapped w w' e e') : Turn w op w'
  | commits {e : Execution} {now : Int} {w' : World} (member : e ∈ w.executions)
      (finished : finishHandler w.db now e.phase = some (.ok w'.db))
      (executions : Swapped w w' e { e with phase := .returned }) : Turn w (.commit e.id now) w'
  | crashes {id : Nat} {w' : World} (db : w'.db = w.db) (executions : ∀ x ∈ w'.executions, x ∈ w.executions) :
      Turn w (.crash id) w'
  | completes {e : Execution} {outputData : Dict String Json} {now : Int} {w' : World} (member : e ∈ w.executions)
      (done : ended e = true)
      (db : w'.db = w.db.queue (.complete e.task.id outputData now))
      (executions : ∀ x ∈ w'.executions, x ∈ w.executions) : Turn w (.complete e.id outputData now) w'
  | fails {e : Execution} {error : String} {permanent : Bool} {draw : Fin (2 ^ 53)} {now : Int} {w' : World}
      (member : e ∈ w.executions) (done : ended e = true)
      (db : w'.db = w.db.queue (.fail e.task.id error permanent draw now))
      (executions : ∀ x ∈ w'.executions, x ∈ w.executions) : Turn w (.fail e.id error permanent draw now) w'
  | reaps {now : Int} {w' : World} (db : w'.db = w.db.queue (.reap now))
      (executions : w'.executions = w.executions) : Turn w (.reap now) w'
  | enqueues {args : EnqueueArgs} {now : Int} {w' : World} (done : w.db.enqueue args now = .ok w'.db)
      (executions : w'.executions = w.executions) : Turn w (.enqueue args now) w'
  | operates {action : Op} {now : Int} {w' : World} (db : w'.db = action.run w.db now)
      (executions : w'.executions = w.executions) : Turn w (.operate action now) w'

theorem within_turn {op : WorldOp} {id : Nat} {f : Execution → World}
    (turn : ∀ e ∈ w.executions, e.id = id → Turn w op (f e)) : Turn w op (w.within id f) := by
  unfold within
  split
  · rename_i e found
    exact turn e (execution?_mem found).1 (execution?_mem found).2
  · exact .idle rfl rfl

theorem callStep_turn (numbered : w.Numbered) {op : WorldOp} {answer : SendgridResponse} {social : SocialAnswer}
    {batchId : Uuid} {e : Execution} (member : e ∈ w.executions) : Turn w op (w.callStep answer social batchId e) := by
  unfold callStep
  split
  · rename_i plan phase
    exact .proceeds { e with phase := .calledEmail plan (callEmail w.db plan answer batchId) } member rfl rfl
      (fun row loaded => by rw [phase]; exact loaded) rfl (numbered.swapped member rfl)
  · rename_i plan phase
    split
    · rename_i outcome _
      exact .proceeds { e with phase := .calledSocial plan outcome } member rfl rfl
        (fun row loaded => by rw [phase]; exact loaded) rfl (numbered.swapped member rfl)
    · exact .proceeds { e with phase := .checkedSocial plan } member rfl rfl
        (fun row loaded => by rw [phase]; exact loaded) rfl (numbered.swapped member rfl)
  · rename_i plan phase
    exact .proceeds { e with phase := .calledSocial plan (publishSocial social) } member rfl rfl
      (fun row loaded => by rw [phase]; exact loaded) rfl (numbered.swapped member rfl)
  · exact .idle rfl rfl

theorem raised_turn (numbered : w.Numbered) {op : WorldOp} {e : Execution} (member : e ∈ w.executions) (error : HandlerError) :
    Turn w op (w.replace { e with phase := .raised error }) :=
  .proceeds { e with phase := .raised error } member rfl rfl (by simp [Phase.loaded]) rfl (numbered.swapped member rfl)

/-- Every step of the world is one of these turns. -/
theorem step_turn (numbered : w.Numbered) (op : WorldOp) : Turn w op (w.step op) := by
  cases op with
  | claim workerId leaseSeconds tie now =>
    cases next : Queue.nextReady w.db.tasks tie now with
    | none =>
      simp only [step, Queue.claimNext_none next]
      exact .idle rfl rfl
    | some t =>
      simp only [step, Queue.claimNext_some next]
      refine .claims next ?_ rfl
      simp only [Db.queue, Queue.step, Queue.claimNext_some next, setTasks]
  | begin id secret now =>
    refine within_turn fun e member same => ?_
    subst same
    unfold beginStep
    split
    · split
      · rename_i phase begun
        exact .begins member begun rfl (numbered.swapped member rfl)
      · exact .idle rfl rfl
    · exact .idle rfl rfl
  | call id answer social batchId => exact within_turn fun e member _ => callStep_turn numbered member
  | commit id now =>
    refine within_turn fun e member same => ?_
    subst same
    unfold commitStep
    split
    · rename_i db finished
      exact .commits member finished (numbered.swapped member rfl)
    · exact raised_turn numbered member _
    · exact .idle rfl rfl
  | abort id error =>
    refine within_turn fun e member _ => ?_
    split
    · exact raised_turn numbered member error
    · exact .idle rfl rfl
  | crash id => exact .crashes rfl fun x here => List.mem_of_mem_filter here
  | complete id outputData now =>
    refine within_turn fun e member same => ?_
    subst same
    split
    · rename_i done
      exact .completes member done rfl fun x here => List.mem_of_mem_filter here
    · exact .idle rfl rfl
  | fail id error permanent draw now =>
    refine within_turn fun e member same => ?_
    subst same
    split
    · rename_i done
      exact .fails member done rfl fun x here => List.mem_of_mem_filter here
    · exact .idle rfl rfl
  | reap now => exact .reaps rfl rfl
  | enqueue args now =>
    simp only [step]
    cases queued : w.db.enqueue args now with
    | error error => exact .idle rfl rfl
    | ok db => exact .enqueues queued rfl
  | operate action now =>
    simp only [step]
    split
    · exact .idle rfl rfl
    · exact .operates rfl rfl

theorem Turn.drift {op : WorldOp} (turn : Turn w op w') (wf : w.db.Wf) : w'.db.Wf ∧ Drift w.db w'.db := by
  have untouched : Untouched w.db w'.db → w'.db.Wf ∧ Drift w.db w'.db := fun same =>
    ⟨same.wf rowOrder_eq wf, .of_rewrites (.of_untouched rowOrder_settles same)⟩
  cases turn with
  | idle db | begins member begun db | proceeds e' member task going loaded db | crashes db =>
    exact untouched (db ▸ .refl rowOrder_eq _)
  | claims next db | completes member done db | fails member done db | reaps db => exact untouched (db ▸ untouched_queue _ _)
  | commits member finished =>
    have committed := finishHandler_committed finished
    exact ⟨committed.wf wf, committed.drift wf⟩
  | enqueues done => exact untouched (untouched_enqueue done)
  | @operates action now _ db executions =>
    have moves : Moves (action.licence w.db) w.db (action.run w.db now) := Op.run_moves wf action
    exact db ▸ ⟨moves.wf wf, moves.drift wf⟩

theorem Turn.flow {op : WorldOp} (turn : Turn w op w') (wf : w.db.Wf) : TaskFlow w.db w'.db := by
  cases turn with
  | idle db | begins member begun db | proceeds e' member task going loaded db | crashes db => exact db ▸ .refl _
  | claims next db | completes member done db | fails member done db | reaps db =>
    rw [db]
    exact flow_queue _ (by simp)
  | commits member finished => exact finishHandler_flow finished
  | enqueues done => exact .enqueue done
  | operates db executions => exact db ▸ Op.run_flow wf _

/-- The executions of the world are at tasks of its table, and an open
transaction has loaded the asset that its task names. -/
structure Followed (w : World) : Prop where
  numbered : w.Numbered
  wf : w.db.Wf
  late : ScheduledLate w.db
  ids : TaskIds w.db
  known : ∀ e ∈ w.executions, ∃ t ∈ w.db.tasks, SameTask e.task t
  loaded : ∀ e ∈ w.executions, ∀ a c, e.phase.loaded = some (a, c) → taskAssetId e.task = .ok a.id

theorem Followed.start {db : Db} (fresh : db.Fresh) (ids : TaskIds db) : World.Followed { db := db } where
  numbered := ⟨List.nodup_nil, by simp⟩
  wf := fresh.wf
  late := by simp [ScheduledLate, fresh.assets]
  ids := ids
  known := by simp
  loaded := by simp

/-- How a dispatch handler may begin: it raises, finds its campaign paused, or goes on to its call. -/
inductive Begun (db : Db) (task : Task) : Phase → Prop where
  | raises (error : HandlerError) : Begun db task (.raised error)
  | skips {assetId : Uuid} {a : ContentAsset} {c : Campaign} (named : taskAssetId task = .ok assetId)
      (skips : Skips db assetId a c) : Begun db task .returned
  | email {assetId : Uuid} {plan : EmailPlan} (named : taskAssetId task = .ok assetId)
      (ready : Dispatchable db assetId plan.asset plan.campaign) : Begun db task (.begunEmail plan)
  | social {assetId : Uuid} {plan : SocialPlan} (named : taskAssetId task = .ok assetId)
      (ready : Dispatchable db assetId plan.asset plan.campaign) : Begun db task (.begunSocial plan)

theorem beginHandler_begun {db : Db} {secret : String} {task : Task} {now : Int} {phase : Phase}
    (begun : beginHandler db secret task now = some phase) : Begun db task phase := by
  obtain ⟨error, rfl⟩ | ⟨assetId, named, ⟨rfl, planned | planned⟩ | ⟨plan, planned, rfl⟩ | ⟨plan, planned, rfl⟩⟩ :=
    beginHandler_cases begun
  · exact .raises error
  · obtain ⟨a, c, skips⟩ := beginEmail_skips planned
    exact .skips named skips
  · obtain ⟨a, c, skips⟩ := beginSocial_skips planned
    exact .skips named skips
  · exact .email named (beginEmail_dispatchable planned).1
  · exact .social named (beginSocial_dispatchable planned)

theorem Begun.loaded {db : Db} {task : Task} {phase : Phase} {a : ContentAsset} {c : Campaign} (begun : Begun db task phase)
    (loaded : phase.loaded = some (a, c)) : taskAssetId task = .ok a.id := by
  cases begun with
  | email named ready | social named ready =>
    cases loaded
    rw [named, (Db.asset?_mem ready.asset).2]
  | raises error | skips named skips => simp [Phase.loaded] at loaded

/-- Where the executions after a step come from. -/
theorem Turn.executions {op : WorldOp} (turn : Turn w op w') :
    ∀ x ∈ w'.executions, (x ∈ w.executions) ∨
      (∃ e ∈ w.executions, x.task = e.task ∧ ∀ a c, x.phase.loaded = some (a, c) →
        e.phase.loaded = some (a, c) ∨ taskAssetId e.task = .ok a.id) ∨
      ∃ t ∈ w.db.tasks, SameTask t x.task ∧ x.phase.loaded = none := by
  intro x here
  cases turn with
  | idle db executions | reaps db executions | enqueues done executions | operates db executions =>
    exact Or.inl (executions ▸ here)
  | crashes db executions | completes member done db executions | fails member done db executions =>
    exact Or.inl (executions x here)
  | claims next db executions =>
    rw [executions] at here
    rcases List.mem_cons.mp here with rfl | old
    · exact Or.inr (Or.inr ⟨_, (Queue.nextReady_mem next).1, ⟨rfl, rfl, rfl, rfl⟩, rfl⟩)
    · exact Or.inl old
  | begins member begun db executions =>
    rcases (executions x).mp here with rfl | old
    · exact Or.inr (Or.inl ⟨_, member, rfl, fun a c loaded => Or.inr ((beginHandler_begun begun).loaded loaded)⟩)
    · exact Or.inl old.1
  | proceeds e' member task going loaded db executions =>
    rcases (executions x).mp here with rfl | old
    · exact Or.inr (Or.inl ⟨_, member, task, fun a c there => Or.inl (loaded _ there)⟩)
    · exact Or.inl old.1
  | commits member finished executions =>
    rcases (executions x).mp here with rfl | old
    · exact Or.inr (Or.inl ⟨_, member, rfl, by simp [Phase.loaded]⟩)
    · exact Or.inl old.1

theorem Followed.step (followed : w.Followed) (op : WorldOp) : (w.step op).Followed := by
  have turn := step_turn followed.numbered op
  have flow := turn.flow followed.wf
  obtain ⟨wf, drift⟩ := turn.drift followed.wf
  refine ⟨(step_trans followed.numbered op).2, wf, drift.late followed.late, flow.ids followed.ids, fun x here => ?_,
    fun x here a c loaded => ?_⟩
  · have kept : ∀ {task t}, t ∈ w.db.tasks → SameTask task t → ∃ t' ∈ (w.step op).db.tasks, SameTask task t' :=
      fun there same => by
        obtain ⟨t', yonder, same'⟩ := flow.kept followed.ids _ there
        exact ⟨t', yonder, same.trans same'⟩
    rcases turn.executions x here with old | ⟨e, member, task, _⟩ | ⟨t, there, same, _⟩
    · obtain ⟨t, there, same⟩ := followed.known x old
      exact kept there same
    · obtain ⟨t, there, same⟩ := followed.known e member
      exact task ▸ kept there same
    · exact kept there same.symm
  · rcases turn.executions x here with old | ⟨e, member, task, before⟩ | ⟨t, there, same, none⟩
    · exact followed.loaded x old a c loaded
    · rw [task]
      exact (before a c loaded).elim (followed.loaded e member a c) id
    · simp [none] at loaded

end Turns

end World

end MarketingAgents
