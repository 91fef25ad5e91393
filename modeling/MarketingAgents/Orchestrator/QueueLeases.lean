import MarketingAgents.Orchestrator.QueueSteps

namespace MarketingAgents.Queue

open Lib

instance : Std.Total claimOrder where
  total a b := by unfold claimOrder; omega

instance : IsTrans Task claimOrder where
  trans a b c := by unfold claimOrder; omega

theorem nextReady_first {tasks : List Task} {tie : Nat} {now : Int} {t : Task}
    (next : nextReady tasks tie now = some t) :
    ∀ other ∈ tasks, ready now other = true → claimOrder t other := by
  intro other member isReady
  have first := (first_of_orderBy next).2
  exact first other (List.mem_filter.mpr ⟨List.mem_rotate.mpr member, isReady⟩)

def LeaseWf (t : Task) : Prop := t.status = .running ↔ t.workerId ≠ none ∧ t.leasedUntil ≠ none

/-- The queue's invariant: rows are identified by their ids, and a row is
leased exactly while it is running. -/
structure Wf (tasks : List Task) : Prop where
  nodup : (tasks.map Task.id).Nodup
  leases : ∀ t ∈ tasks, LeaseWf t

theorem wf_nil : Wf [] := ⟨List.nodup_nil, by simp⟩

theorem RowStep.leaseWf {tasks : List Task} {op : QueueOp} {t t' : Task} (moved : RowStep tasks op t t')
    (leased : LeaseWf t) : LeaseWf t' := by
  cases moved with
  | kept => exact leased
  | claimed => simp [LeaseWf, Queue.claimed]
  | succeeded => simp [LeaseWf, Queue.succeeded]
  | failedForGood => simp [LeaseWf, Queue.failedForGood]
  | retried => simp [LeaseWf, Queue.retried]
  | reaped => simp [LeaseWf, Queue.reaped]
  | cancelled => simp [LeaseWf, Queue.cancelled]

theorem Wf.step {tasks : List Task} (wf : Wf tasks) (op : QueueOp) : Wf (step tasks op) := by
  refine ⟨step_nodup wf.nodup op, fun t' member => ?_⟩
  rcases row_origin wf.nodup member with ⟨t, old, moved⟩ | ⟨args, newId, now, _, _, rfl⟩
  · exact moved.leaseWf (wf.leases t old)
  · simp [LeaseWf, newTask]

theorem wf_run (ops : List QueueOp) : Wf (run step [] ops) :=
  run_invariant wf_nil (fun _ op wf => wf.step op) ops

theorem claimNext_returned {tasks : List Task} {workerId : String} {leaseSeconds : Int} {tie : Nat} {now : Int}
    {t : Task} (returned : (claimNext tasks workerId leaseSeconds tie now).2 = some t) :
    ∃ row, nextReady tasks tie now = some row ∧ t = claimed workerId (now + seconds leaseSeconds) now row := by
  cases next : nextReady tasks tie now with
  | none => simp [claimNext_none next] at returned
  | some row =>
    rw [claimNext_some next] at returned
    exact ⟨row, rfl, (Option.some.inj returned).symm⟩

/-- A call that puts a task back in line: a reap of its expired lease, or a
`fail` that leaves it in `awaiting_retry`. -/
def Releases (tasks : List Task) (op : QueueOp) (taskId : Uuid) : Prop :=
  match op with
  | .reap now => ∃ t ∈ tasks, t.id = taskId ∧ expired now t = true
  | .fail id _ _ _ _ => id = taskId ∧ ∃ t ∈ step tasks op, t.id = taskId ∧ t.status = .awaitingRetry
  | _ => False

/-- No row of the task is waiting to be claimed. -/
def OutOfLine (taskId : Uuid) (tasks : List Task) : Prop := ∀ t ∈ tasks, t.id = taskId → waiting t = false

theorem OutOfLine.step {taskId : Uuid} {tasks : List Task} {op : QueueOp} (nodup : (tasks.map Task.id).Nodup)
    (known : taskId ∈ tasks.map Task.id) (out : OutOfLine taskId tasks) (kept : ¬ Releases tasks op taskId) :
    OutOfLine taskId (step tasks op) := by
  intro t' member sameId
  rcases row_origin nodup member with ⟨t, old, moved⟩ | ⟨args, newId, now, _, fresh, rfl⟩
  · have wasOut := out t old (moved.id_eq.symm.trans sameId)
    cases moved with
    | kept => exact wasOut
    | claimed => simp [waiting, claimed]
    | succeeded => simp [waiting, succeeded]
    | failedForGood => simp [waiting, failedForGood]
    | retried => exact absurd ⟨sameId, _, member, sameId, rfl⟩ kept
    | reaped lapsed => exact absurd ⟨t, old, sameId, lapsed⟩ kept
    | cancelled => simp [waiting, cancelled]
  · rw [← sameId] at known
    exact absurd known fresh

theorem known_step {tasks : List Task} {taskId : Uuid} (known : taskId ∈ tasks.map Task.id) (op : QueueOp) :
    taskId ∈ (step tasks op).map Task.id := by
  rcases step_ids tasks op with same | ⟨_, _, _, _, _, grown⟩
  · rw [same]; exact known
  · rw [grown]; exact List.mem_append_left _ known

/-- A task that is out of line at the start of a run and in line at its end
was put back by some call between. Induction on the run; the first call either
releases the task or leaves it out of line. -/
theorem released_between {taskId : Uuid} {tasks : List Task} (nodup : (tasks.map Task.id).Nodup)
    (known : taskId ∈ tasks.map Task.id) (out : OutOfLine taskId tasks) (ops : List QueueOp)
    (back : ¬ OutOfLine taskId (run step tasks ops)) :
    ∃ first op rest, ops = first ++ op :: rest ∧ Releases (run step tasks first) op taskId := by
  induction ops generalizing tasks with
  | nil => exact absurd out back
  | cons op ops ih =>
    by_cases now : Releases tasks op taskId
    · exact ⟨[], op, ops, rfl, now⟩
    · obtain ⟨first, later, rest, split, releases⟩ :=
        ih (step_nodup nodup op) (known_step known op) (out.step nodup known now) back
      exact ⟨op :: first, later, rest, by rw [split, List.cons_append], releases⟩

theorem claimed_outOfLine {tasks : List Task} {workerId : String} {leaseSeconds : Int} {tie : Nat} {now : Int}
    {row : Task} (next : nextReady tasks tie now = some row) :
    OutOfLine row.id (step tasks (.claim workerId leaseSeconds tie now)) := by
  intro t member sameId
  simp only [step, claimNext_some next] at member
  rcases mem_updateWhere.mp member with ⟨old, _, _, rfl⟩ | ⟨_, miss⟩
  · simp [waiting, claimed]
  · simp [sameId] at miss

/-- Every state of the task store: leases are well formed; a claim returns a
ready task that no ready task precedes; and two claims of one task have a reap
of its expired lease, or a `fail` into `awaiting_retry`, between them. -/
theorem leases_wellFormed_and_claims_exclusive (ops : List QueueOp) :
    (∀ t ∈ run step [] ops, LeaseWf t) ∧
    (∀ workerId leaseSeconds tie now t,
      (claimNext (run step [] ops) workerId leaseSeconds tie now).2 = some t →
      ∃ row ∈ run step [] ops, row.id = t.id ∧ (row.status = .queued ∨ row.status = .awaitingRetry) ∧
        row.scheduledFor ≤ now ∧
        ∀ other ∈ run step [] ops, ready now other = true →
          ¬ row.priority < other.priority ∧
          ¬ (other.priority = row.priority ∧ other.scheduledFor < row.scheduledFor)) ∧
    (∀ before between workerId leaseSeconds tie now workerId' leaseSeconds' tie' now' t t',
      ops = before ++ .claim workerId leaseSeconds tie now :: between →
      (claimNext (run step [] before) workerId leaseSeconds tie now).2 = some t →
      (claimNext (run step [] ops) workerId' leaseSeconds' tie' now').2 = some t' → t'.id = t.id →
      ∃ first op rest, between = first ++ op :: rest ∧
        Releases (run step [] (before ++ .claim workerId leaseSeconds tie now :: first)) op t.id) := by
  refine ⟨(wf_run ops).leases, ?_, ?_⟩
  · intro workerId leaseSeconds tie now t returned
    obtain ⟨row, next, rfl⟩ := claimNext_returned returned
    obtain ⟨member, isReady⟩ := nextReady_mem next
    simp only [ready, waiting, Bool.and_eq_true, Bool.or_eq_true, decide_eq_true_eq] at isReady
    refine ⟨row, member, rfl, isReady.1, isReady.2, fun other otherMem otherReady => ?_⟩
    have order := nextReady_first next other otherMem otherReady
    unfold claimOrder at order
    omega
  · intro before between workerId leaseSeconds tie now workerId' leaseSeconds' tie' now' t t' split first second same
    obtain ⟨row, next, rfl⟩ := claimNext_returned first
    obtain ⟨row', next', rfl⟩ := claimNext_returned second
    have wf := wf_run before
    have afterWf := wf.step (.claim workerId leaseSeconds tie now)
    have known : row.id ∈ (run step [] before).map Task.id := List.mem_map_of_mem (nextReady_mem next).1
    obtain ⟨inLine, isReady⟩ := nextReady_mem next'
    have back : ¬ OutOfLine row.id
        (run step (step (run step [] before) (.claim workerId leaseSeconds tie now)) between) := by
      rw [split, run_append, run_cons] at inLine
      intro out
      have waits := out row' inLine same
      simp [ready, waits] at isReady
    obtain ⟨early, op, rest, cut, releases⟩ :=
      released_between afterWf.nodup (known_step known _) (claimed_outOfLine next) between back
    exact ⟨early, op, rest, cut, by rw [run_append, run_cons]; exact releases⟩

end MarketingAgents.Queue
