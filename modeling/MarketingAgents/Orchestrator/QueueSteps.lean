import MarketingAgents.Lib.Run
import MarketingAgents.Orchestrator.Queue

namespace MarketingAgents

open Lib

/-- One call of the queue module, with the values it takes from outside:
the clock, the generated id, the random draw and the order of equal rows. -/
inductive QueueOp where
  | enqueue (args : EnqueueArgs) (newId : Uuid) (now : Int)
  | claim (workerId : String) (leaseSeconds : Int) (tie : Nat) (now : Int)
  | complete (taskId : Uuid) (outputData : Dict String Json) (now : Int)
  | fail (taskId : Uuid) (error : String) (permanent : Bool) (draw : Fin (2 ^ 53)) (now : Int)
  | reap (now : Int)
  | cancel (campaignId : Uuid) (now : Int)
deriving DecidableEq

namespace Queue

/-- The committed effect of one call; a call that raises is rolled back. -/
def step (tasks : List Task) : QueueOp → List Task
  | .enqueue args newId now =>
    match enqueueTask tasks args newId now with
    | .ok (tasks, _) => tasks
    | .error _ => tasks
  | .claim workerId leaseSeconds tie now => (claimNext tasks workerId leaseSeconds tie now).1
  | .complete taskId outputData now => complete tasks taskId outputData now
  | .fail taskId error permanent draw now =>
    match fail tasks taskId error permanent draw now with
    | .ok tasks => tasks
    | .error _ => tasks
  | .reap now => (reapExpiredLeases tasks now).1
  | .cancel campaignId now => (cancelQueuedForCampaign tasks campaignId now).1

/-- Everything one call can do to a row that is already in the table. -/
inductive RowStep (tasks : List Task) : QueueOp → Task → Task → Prop
  | kept {op t} : RowStep tasks op t t
  | claimed {workerId leaseSeconds tie now t} : nextReady tasks tie now = some t →
      RowStep tasks (.claim workerId leaseSeconds tie now) t
        (claimed workerId (now + seconds leaseSeconds) now t)
  | succeeded {outputData now t} : RowStep tasks (.complete t.id outputData now) t (succeeded outputData now t)
  | failedForGood {error permanent draw now t} : exhausted permanent t = true →
      RowStep tasks (.fail t.id error permanent draw now) t (failedForGood error now t)
  | retried {error permanent draw now t} : exhausted permanent t = false →
      RowStep tasks (.fail t.id error permanent draw now) t
        (retried error (now + computeNextAttemptDelay t.attempt draw) t)
  | reaped {now t} : expired now t = true → RowStep tasks (.reap now) t (reaped t)
  | cancelled {campaignId now t} : cancellable campaignId t = true →
      RowStep tasks (.cancel campaignId now) t (cancelled now t)

theorem RowStep.id_eq {tasks : List Task} {op : QueueOp} {t t' : Task} (moved : RowStep tasks op t t') :
    t'.id = t.id := by
  cases moved <;> rfl

theorem nextReady_mem {tasks : List Task} {tie : Nat} {now : Int} {t : Task}
    (next : nextReady tasks tie now = some t) : t ∈ tasks ∧ ready now t = true := by
  have inside : t ∈ ((tasks.rotate tie).filter (ready now)).insertionSort claimOrder :=
    List.mem_of_head? next
  rw [List.mem_insertionSort, List.mem_filter, List.mem_rotate] at inside
  exact inside

theorem claimNext_some {tasks : List Task} {workerId : String} {leaseSeconds : Int} {tie : Nat} {now : Int}
    {t : Task} (next : nextReady tasks tie now = some t) :
    claimNext tasks workerId leaseSeconds tie now =
      (updateWhere (·.id = t.id) (claimed workerId (now + seconds leaseSeconds) now) tasks,
        some (claimed workerId (now + seconds leaseSeconds) now t)) := by
  simp only [claimNext, next]

theorem claimNext_none {tasks : List Task} {workerId : String} {leaseSeconds : Int} {tie : Nat} {now : Int}
    (next : nextReady tasks tie now = none) : claimNext tasks workerId leaseSeconds tie now = (tasks, none) := by
  simp only [claimNext, next]

theorem fail_eq {tasks : List Task} {taskId : Uuid} {t : Task} (found : tasks.find? (·.id = taskId) = some t)
    (error : String) (permanent : Bool) (draw : Fin (2 ^ 53)) (now : Int) :
    step tasks (.fail taskId error permanent draw now) =
      if exhausted permanent t then updateWhere (·.id = taskId) (failedForGood error now) tasks
      else updateWhere (·.id = taskId) (retried error (now + computeNextAttemptDelay t.attempt draw)) tasks := by
  cases spent : exhausted permanent t <;> simp [step, fail, found, spent]

theorem fail_missing {tasks : List Task} {taskId : Uuid} (missing : tasks.find? (·.id = taskId) = none)
    (error : String) (permanent : Bool) (draw : Fin (2 ^ 53)) (now : Int) :
    step tasks (.fail taskId error permanent draw now) = tasks := by
  simp only [step, fail, missing]

theorem find?_id {tasks : List Task} {taskId : Uuid} {t : Task}
    (found : tasks.find? (·.id = taskId) = some t) : t ∈ tasks ∧ t.id = taskId :=
  ⟨List.mem_of_find?_eq_some found, by simpa using List.find?_some found⟩

theorem enqueue_eq (tasks : List Task) (args : EnqueueArgs) (newId : Uuid) (now : Int) :
    step tasks (.enqueue args newId now) = tasks ∨
      newId ∉ tasks.map Task.id ∧ step tasks (.enqueue args newId now) = tasks ++ [newTask args newId now] := by
  simp only [step, enqueueTask]
  split
  · rename_i tasks' t done
    split at done
    · cases done
    · split at done
      · cases done; exact Or.inl rfl
      · split at done
        · cases done
        · rename_i fresh
          cases done
          exact Or.inr ⟨by simpa using fresh, rfl⟩
  · exact Or.inl rfl

/-- Every row after a call is a row from before, moved by that call, or the
row just enqueued. The invariants below use the queue only through this. -/
theorem row_origin {tasks : List Task} (nodup : (tasks.map Task.id).Nodup) {op : QueueOp} {t' : Task}
    (member : t' ∈ step tasks op) :
    (∃ t ∈ tasks, RowStep tasks op t t') ∨
      ∃ args newId now, op = .enqueue args newId now ∧ newId ∉ tasks.map Task.id ∧ t' = newTask args newId now := by
  have unmoved (old : t' ∈ tasks) : ∃ t ∈ tasks, RowStep tasks op t t' := ⟨t', old, .kept⟩
  cases op with
  | enqueue args newId now =>
    rcases enqueue_eq tasks args newId now with same | ⟨fresh, grown⟩
    · exact Or.inl (unmoved (same ▸ member))
    · rw [grown, List.mem_append, List.mem_singleton] at member
      rcases member with old | born
      · exact Or.inl (unmoved old)
      · exact Or.inr ⟨args, newId, now, rfl, fresh, born⟩
  | claim workerId leaseSeconds tie now =>
    left
    cases next : nextReady tasks tie now with
    | none =>
      simp only [step, claimNext_none next] at member
      exact unmoved member
    | some picked =>
      simp only [step, claimNext_some next] at member
      rcases mem_updateWhere.mp member with ⟨t, old, hit, rfl⟩ | ⟨old, _⟩
      · have same : t = picked := eq_of_key_eq nodup old (nextReady_mem next).1 (by simpa using hit)
        subst same
        exact ⟨t, old, .claimed next⟩
      · exact unmoved old
  | complete taskId outputData now =>
    left
    rcases mem_updateWhere.mp member with ⟨t, old, hit, rfl⟩ | ⟨old, _⟩
    · simp only [decide_eq_true_eq] at hit
      subst hit
      exact ⟨t, old, .succeeded⟩
    · exact unmoved old
  | fail taskId error permanent draw now =>
    left
    cases found : tasks.find? (·.id = taskId) with
    | none =>
      rw [fail_missing found] at member
      exact unmoved member
    | some picked =>
      obtain ⟨pickedMem, pickedId⟩ := find?_id found
      rw [fail_eq found] at member
      cases spent : exhausted permanent picked with
      | true =>
        rw [spent, if_pos rfl] at member
        rcases mem_updateWhere.mp member with ⟨t, old, hit, rfl⟩ | ⟨old, _⟩
        · simp only [decide_eq_true_eq] at hit
          have same : t = picked := eq_of_key_eq nodup old pickedMem (hit.trans pickedId.symm)
          subst same hit
          exact ⟨t, old, .failedForGood spent⟩
        · exact unmoved old
      | false =>
        rw [spent, if_neg Bool.false_ne_true] at member
        rcases mem_updateWhere.mp member with ⟨t, old, hit, rfl⟩ | ⟨old, _⟩
        · simp only [decide_eq_true_eq] at hit
          have same : t = picked := eq_of_key_eq nodup old pickedMem (hit.trans pickedId.symm)
          subst same hit
          exact ⟨t, old, .retried spent⟩
        · exact unmoved old
  | reap now =>
    left
    rcases mem_updateWhere.mp member with ⟨t, old, hit, rfl⟩ | ⟨old, _⟩
    · exact ⟨t, old, .reaped hit⟩
    · exact unmoved old
  | cancel campaignId now =>
    left
    rcases mem_updateWhere.mp member with ⟨t, old, hit, rfl⟩ | ⟨old, _⟩
    · exact ⟨t, old, .cancelled hit⟩
    · exact unmoved old

theorem step_ids (tasks : List Task) (op : QueueOp) :
    (step tasks op).map Task.id = tasks.map Task.id ∨
      ∃ args newId now, op = .enqueue args newId now ∧ newId ∉ tasks.map Task.id ∧
        (step tasks op).map Task.id = tasks.map Task.id ++ [newId] := by
  cases op with
  | enqueue args newId now =>
    rcases enqueue_eq tasks args newId now with same | ⟨fresh, grown⟩
    · exact Or.inl (by rw [same])
    · exact Or.inr ⟨args, newId, now, rfl, fresh, by rw [grown, List.map_append]; rfl⟩
  | claim workerId leaseSeconds tie now =>
    left
    cases next : nextReady tasks tie now with
    | none => simp only [step, claimNext_none next]
    | some picked =>
      simp only [step, claimNext_some next]
      exact updateWhere_keys Task.id tasks (by intros; rfl)
  | complete taskId outputData now => exact Or.inl (updateWhere_keys Task.id tasks (by intros; rfl))
  | fail taskId error permanent draw now =>
    left
    cases found : tasks.find? (·.id = taskId) with
    | none => rw [fail_missing found]
    | some picked =>
      rw [fail_eq found]
      split
      · exact updateWhere_keys Task.id tasks (by intros; rfl)
      · exact updateWhere_keys Task.id tasks (by intros; rfl)
  | reap now => exact Or.inl (updateWhere_keys Task.id tasks (by intros; rfl))
  | cancel campaignId now => exact Or.inl (updateWhere_keys Task.id tasks (by intros; rfl))

theorem step_nodup {tasks : List Task} (nodup : (tasks.map Task.id).Nodup) (op : QueueOp) :
    ((step tasks op).map Task.id).Nodup := by
  rcases step_ids tasks op with same | ⟨_, newId, _, _, fresh, grown⟩
  · rw [same]; exact nodup
  · rw [grown]
    exact List.nodup_append.mpr ⟨nodup, List.nodup_singleton _, by
      intro a old b new
      rw [List.mem_singleton] at new
      subst new
      exact fun same => fresh (same ▸ old)⟩

theorem row_successor {tasks : List Task} (nodup : (tasks.map Task.id).Nodup) (op : QueueOp) {t : Task}
    (member : t ∈ tasks) : ∃ t' ∈ step tasks op, RowStep tasks op t t' := by
  have known : t.id ∈ tasks.map Task.id := List.mem_map_of_mem member
  have kept : t.id ∈ (step tasks op).map Task.id := by
    rcases step_ids tasks op with same | ⟨_, _, _, _, _, grown⟩
    · rw [same]; exact known
    · rw [grown]; exact List.mem_append_left _ known
  obtain ⟨t', after, sameId⟩ := List.mem_map.mp kept
  rcases row_origin nodup after with ⟨old, oldMem, moved⟩ | ⟨args, newId, now, _, fresh, born⟩
  · have same : old = t := eq_of_key_eq nodup oldMem member (moved.id_eq.symm.trans sameId)
    exact ⟨t', after, same ▸ moved⟩
  · subst born
    rw [← sameId] at known
    exact absurd known fresh

end Queue

end MarketingAgents
