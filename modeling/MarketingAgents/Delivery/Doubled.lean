import MarketingAgents.Content.Undoubled
import MarketingAgents.Delivery.Turns

namespace MarketingAgents.World

open Lib PyText

section Doubled

variable [PyText] {w w' : World}

/-- A resume queues no asset again that an open task dispatches already, a
failure puts no ended dispatch back beside an open one, and no producer queues
a dispatch by itself. -/
def KeepsSingle (w : World) : WorldOp → Prop
  | .operate op now => ∀ id ∈ op.resumes w.db, ∀ a ∈ requeued w.db id now, ∀ t ∈ w.db.tasks, Dispatches a t →
      t.isOpen = false
  | .fail id _ permanent _ _ => ∀ e ∈ w.execution? id, ended e = true → ∀ t ∈ w.db.tasks, t.id = e.task.id →
      Queue.exhausted permanent t = false → t.isOpen = false → ∀ a ∈ w.db.assets, a.status = .scheduled → Dispatches a t →
        ∀ t' ∈ w.db.tasks, Dispatches a t' → t'.isOpen = false
  | .enqueue args _ => args.skillName ∉ dispatchSkills
  | _ => True

theorem Undoubled.queue {db : Db} (holds : Undoubled db) (ids : TaskIds db) {op : QueueOp}
    (inserts : ∀ args newId now, op ≠ .enqueue args newId now) (retries : ∀ t, ¬ Queue.Retries op t) :
    Undoubled (db.queue op) := by
  have drift : Drift db (db.queue op) := .of_rewrites (.of_untouched rowOrder_settles (untouched_queue db op))
  refine holds.step drift (fun b member scheduled => ⟨b, member, .refl b, scheduled⟩) fun t' there _ => ?_
  exact unopened_by_call ids.distinct there inserts retries

theorem Followed.commit_undoubled (followed : w.Followed) (holds : Undoubled w.db) {e : Execution} {now : Int} {db' : Db}
    (finished : finishHandler w.db now e.phase = some (.ok db')) : Undoubled db' := by
  obtain ⟨a, c, loaded⟩ := finishHandler_loaded finished
  have committed := finishHandler_committed finished
  refine holds.step (committed.drift followed.wf) (fun b member => committed.origin member) fun t' there _ => ?_
  cases (finishHandler_dealt loaded finished).tasks with
  | same value => exact ⟨t', value ▸ there, .refl t', id⟩
  | cancels value paused =>
    exact unopened_by_call followed.ids.distinct (value ▸ there) (by simp) (by simp [Queue.Retries])

/-- A failure that is retried opens its task again, beside no other open one of the
asset. -/
theorem Followed.fail_undoubled (followed : w.Followed) (holds : Undoubled w.db) {e : Execution} {error : String}
    {permanent : Bool} {draw : Fin (2 ^ 53)} {now : Int}
    (keeps : ∀ t ∈ w.db.tasks, t.id = e.task.id → Queue.exhausted permanent t = false → t.isOpen = false →
      ∀ a ∈ w.db.assets, a.status = .scheduled → Dispatches a t → ∀ t' ∈ w.db.tasks, Dispatches a t' → t'.isOpen = false) :
    Undoubled (w.db.queue (.fail e.task.id error permanent draw now)) := by
  have origin : ∀ t' ∈ Queue.step w.db.tasks (.fail e.task.id error permanent draw now), ∃ t ∈ w.db.tasks, SameTask t t' ∧
      (t'.isOpen = true → t.isOpen = true ∨ (t.id = e.task.id ∧ Queue.exhausted permanent t = false)) := fun t' there => by
    rcases Queue.row_origin followed.ids.distinct there with ⟨t, inside, moved⟩ | ⟨_, _, _, named, _⟩
    · refine ⟨t, inside, moved.same, fun isOpen => (moved.was_open isOpen).imp_right ?_⟩
      rintro ⟨_, _, _, _, named, spared⟩
      obtain ⟨same, _, rfl, _, _⟩ := QueueOp.fail.inj named
      exact ⟨same.symm, spared⟩
    · cases named
  refine ⟨fun t' there skill => ?_, fun a here scheduled t₁' mem₁ t₂' mem₂ names₁ names₂ open₁ open₂ => ?_⟩
  · obtain ⟨t, inside, same, _⟩ := origin t' there
    obtain ⟨a, here, names, past⟩ := holds.named t inside (same.skillName ▸ skill)
    exact ⟨a, here, names.of_same (.refl a) same, past⟩
  · obtain ⟨t₁, in₁, same₁, opened₁⟩ := origin t₁' mem₁
    obtain ⟨t₂, in₂, same₂, opened₂⟩ := origin t₂' mem₂
    have before₁ := names₁.of_same (.refl a) same₁.symm
    have before₂ := names₂.of_same (.refl a) same₂.symm
    rw [same₁.id, same₂.id]
    -- a task that was put back had no open one beside it
    have pair : ∀ {t t'}, t ∈ w.db.tasks → t' ∈ w.db.tasks → Dispatches a t → Dispatches a t' → t.isOpen = true →
        (t'.isOpen = true ∨ (t'.id = e.task.id ∧ Queue.exhausted permanent t' = false)) → t.id = t'.id := by
      intro t t' inside inside' names names' isOpen opened
      by_cases isOpen' : t'.isOpen = true
      · exact holds.single a here scheduled t inside t' inside' names names' isOpen isOpen'
      · obtain ⟨same, spared⟩ := opened.resolve_left isOpen'
        simp [keeps t' inside' same spared (by simpa using isOpen') a here scheduled names' t inside names] at isOpen
    rcases opened₁ open₁ with was₁ | put₁
    · exact pair in₁ in₂ before₁ before₂ was₁ (opened₂ open₂)
    · rcases opened₂ open₂ with was₂ | put₂
      · exact (pair in₂ in₁ before₂ before₁ was₂ (Or.inr put₁)).symm
      · exact put₁.1.trans put₂.1.symm

theorem Followed.undoubled_step (followed : w.Followed) (holds : Undoubled w.db) {op : WorldOp} (keeps : w.KeepsSingle op) :
    Undoubled (w.step op).db := by
  have turn := step_turn followed.numbered op
  generalize w.step op = w' at turn ⊢
  cases turn with
  | idle db | begins member begun db | proceeds e' member task going loaded db | crashes db => exact db ▸ holds
  | claims next db | completes member done db | reaps db =>
    rw [db]
    exact Undoubled.queue holds followed.ids (by simp) (by simp [Queue.Retries])
  | commits member finished => exact followed.commit_undoubled holds finished
  | fails member done db =>
    rw [db]
    exact followed.fail_undoubled holds (keeps _ (followed.numbered.execution?_of_mem member) done)
  | @enqueues args now _ done executions =>
    obtain ⟨tasks, queued, value⟩ := enqueue_queued done
    have same := untouched_enqueue done
    have drift : Drift w.db w'.db := .of_rewrites (.of_untouched rowOrder_settles same)
    refine holds.step drift (fun b member scheduled => ⟨b, same.assets_eq ▸ member, .refl b, scheduled⟩) fun t' there skill => ?_
    rcases List.mem_append.mp (queued.value ▸ there) with old | new
    · exact ⟨t', old, .refl t', id⟩
    · rw [value t' new] at skill
      exact absurd skill keeps
  | @operates action now _ db executions =>
    rw [db]
    have writes : Writes (action.may w.db) now w.db (action.run w.db now) := Op.run_writes followed.wf action
    exact (writes.induct (I := fun mid => Undoubled mid ∧ TaskFlow w.db mid) followed.wf ⟨holds, .refl _⟩
      fun mid next midWf held write => by
        obtain ⟨single, flow⟩ := held
        refine ⟨single.write midWf (flow.ids followed.ids) (fun id asked => ?_) write, flow.trans (write.sendStep midWf).flow⟩
        obtain ⟨named, rfl⟩ := asked
        exact keeps id named).2.1

instance (w : World) : (op : WorldOp) → Decidable (w.KeepsSingle op)
  | .operate op now => inferInstanceAs (Decidable (∀ id ∈ op.resumes w.db, ∀ a ∈ requeued w.db id now, ∀ t ∈ w.db.tasks,
      Dispatches a t → t.isOpen = false))
  | .fail id _ permanent _ _ => inferInstanceAs (Decidable (∀ e ∈ w.execution? id, ended e = true → ∀ t ∈ w.db.tasks,
      t.id = e.task.id → Queue.exhausted permanent t = false → t.isOpen = false → ∀ a ∈ w.db.assets, a.status = .scheduled →
        Dispatches a t → ∀ t' ∈ w.db.tasks, Dispatches a t' → t'.isOpen = false))
  | .enqueue args _ => inferInstanceAs (Decidable (args.skillName ∉ dispatchSkills))
  | .claim .. | .begin .. | .call .. | .commit .. | .abort .. | .crash .. | .complete .. | .reap .. =>
    inferInstanceAs (Decidable True)

/-- Where every resume finds the assets it queues again without an open
dispatch, and no failure puts an ended one back beside an open one, no
scheduled asset ever has two. -/
theorem one_open_dispatch {db : Db} (fresh : db.Fresh) (ids : TaskIds db)
    (undispatched : ∀ t ∈ db.tasks, t.skillName ∉ dispatchSkills) {ops : List WorldOp}
    (keeps : Along World.step KeepsSingle { db := db } ops) :
    let w := Lib.run World.step { db := db } ops
    ∀ a ∈ w.db.assets, a.status = .scheduled →
      ∀ t ∈ w.db.tasks, ∀ t' ∈ w.db.tasks, t.skillName ∈ dispatchSkills → t'.skillName ∈ dispatchSkills →
        t.inputData.get? "asset_id" = some (.str (uuidStr a.id)) → t'.inputData.get? "asset_id" = some (.str (uuidStr a.id)) →
          t.isOpen = true → t'.isOpen = true → t = t' := by
  intro w a here scheduled t inside t' inside' skill skill' aims aims' isOpen isOpen'
  have start : World.Followed { db := db } ∧ Undoubled db :=
    ⟨.start fresh ids, fun t member dispatch => absurd dispatch (undispatched t member), by simp [fresh.assets]⟩
  have reached : w.Followed ∧ Undoubled w.db :=
    keeps.invariant (I := fun w => w.Followed ∧ Undoubled w.db) start fun w op holds permitted =>
      ⟨holds.1.step op, holds.1.undoubled_step holds.2 permitted⟩
  have names : ∀ {t}, t ∈ w.db.tasks → t.skillName ∈ dispatchSkills →
      t.inputData.get? "asset_id" = some (.str (uuidStr a.id)) → Dispatches a t := fun member dispatch aims => by
    obtain ⟨b, there, named, _⟩ := reached.2.named _ member dispatch
    have same := uuidStr_injective (Json.str.inj (Option.some.inj (named.2.1.symm.trans aims)))
    exact reached.1.wf.eq_of_id there here same ▸ named
  exact eq_of_key_eq reached.1.ids.distinct inside inside'
    (reached.2.single a here scheduled t inside t' inside' (names inside skill aims) (names inside' skill' aims') isOpen isOpen')

end Doubled

namespace Doubled

open Sample

local instance doubledText : PyText := PyText.plain

/-- The dispatch is running when the campaign is paused, and still when it is resumed. -/
def resumedEarly : List WorldOp :=
  launched ++ [.claim "w1" 300 0 6, .operate (.applyTransition manager .manager 0 "pause") 6,
    .operate (.applyTransition manager .manager 0 "resume") 6]

/-- The pause cancels the tasks that wait and leaves the running one, and the resume queues
the scheduled asset once more. -/
theorem resume_doubles_running_dispatch :
    tenant.Fresh ∧ TaskIds tenant ∧
      let w := Lib.run World.step { db := tenant } resumedEarly
      ∃ a ∈ w.db.assets, a.status = .scheduled ∧ ∃ t ∈ w.db.tasks, ∃ t' ∈ w.db.tasks, t ≠ t' ∧ Dispatches a t ∧
        Dispatches a t' ∧ t.status = .running ∧ t'.status = .queued :=
  ⟨⟨rfl, rfl, rfl, rfl⟩, ⟨by decide, by decide⟩, by decide +kernel⟩

/-- The dispatch still waits when the campaign is paused. -/
def resumedLate : List WorldOp :=
  launched ++ [.operate (.applyTransition manager .manager 0 "pause") 6,
    .operate (.applyTransition manager .manager 0 "resume") 6, .claim "w1" 300 0 6]

theorem one_open_dispatch_resumed :
    let w := Lib.run World.step { db := tenant } resumedLate
    ∃ a ∈ w.db.assets, a.status = .scheduled ∧ (w.db.tasks.filter fun t => Dispatches a t).length = 2 ∧
      ∀ t ∈ w.db.tasks, ∀ t' ∈ w.db.tasks, Dispatches a t → Dispatches a t' → t.isOpen = true → t'.isOpen = true → t = t' := by
  have keeps : Along World.step KeepsSingle { db := tenant } resumedLate := by decide +kernel
  have stands : ∃ a ∈ (Lib.run World.step { db := tenant } resumedLate).db.assets, a.status = .scheduled ∧
      ((Lib.run World.step { db := tenant } resumedLate).db.tasks.filter fun t => Dispatches a t).length = 2 := by
    decide +kernel
  obtain ⟨a, here, scheduled, twice⟩ := stands
  exact ⟨a, here, scheduled, twice, fun t inside t' inside' names names' =>
    one_open_dispatch ⟨rfl, rfl, rfl, rfl⟩ ⟨by decide, by decide⟩ (by simp [tenant, planned]) keeps a here scheduled t inside
      t' inside' (dispatchSkillFor_mem names.1) (dispatchSkillFor_mem names'.1) names.2.1 names'.2.1⟩

end Doubled

end MarketingAgents.World
