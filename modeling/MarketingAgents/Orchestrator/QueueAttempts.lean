import MarketingAgents.Orchestrator.QueueLeases

namespace MarketingAgents.Queue

open Lib

/-- The call is a `claim_next` that returns the task. -/
def claims (tasks : List Task) (taskId : Uuid) : QueueOp → Bool
  | .claim workerId leaseSeconds tie now =>
    match (claimNext tasks workerId leaseSeconds tie now).2 with
    | some t => t.id = taskId
    | none => false
  | _ => false

/-- How many claims of a run return the task. -/
def claimCount (taskId : Uuid) : List Task → List QueueOp → Nat
  | _, [] => 0
  | tasks, op :: ops => (if claims tasks taskId op then 1 else 0) + claimCount taskId (step tasks op) ops

/-- The attempt counter of the task, 0 before it is enqueued. -/
def attemptOf (tasks : List Task) (taskId : Uuid) : Nat :=
  match tasks.find? (·.id = taskId) with
  | some t => t.attempt
  | none => 0

theorem attemptOf_mem {tasks : List Task} (nodup : (tasks.map Task.id).Nodup) {t : Task} (member : t ∈ tasks) :
    attemptOf tasks t.id = t.attempt := by
  unfold attemptOf
  cases found : tasks.find? (·.id = t.id) with
  | none => simpa using List.find?_eq_none.mp found t member
  | some other =>
    obtain ⟨otherMem, sameId⟩ := find?_id found
    rw [eq_of_key_eq nodup otherMem member sameId]

theorem attemptOf_unknown {tasks : List Task} {taskId : Uuid} (unknown : taskId ∉ tasks.map Task.id) :
    attemptOf tasks taskId = 0 := by
  unfold attemptOf
  cases found : tasks.find? (·.id = taskId) with
  | none => rfl
  | some t =>
    obtain ⟨member, sameId⟩ := find?_id found
    exact absurd (sameId ▸ List.mem_map_of_mem member) unknown

theorem claims_iff {tasks : List Task} {taskId : Uuid} {op : QueueOp} :
    claims tasks taskId op = true ↔ ∃ workerId leaseSeconds tie now t,
      op = .claim workerId leaseSeconds tie now ∧ nextReady tasks tie now = some t ∧ t.id = taskId := by
  cases op with
  | claim workerId leaseSeconds tie now =>
    cases next : nextReady tasks tie now with
    | none => simp [claims, claimNext_none next, next]
    | some t => simp [claims, claimNext_some next, next, claimed]
  | _ => simp [claims]

/-- A claim of the task raises its counter by one; no other call moves it. -/
theorem attemptOf_step {tasks : List Task} (nodup : (tasks.map Task.id).Nodup) (op : QueueOp) (taskId : Uuid) :
    attemptOf (step tasks op) taskId = attemptOf tasks taskId + if claims tasks taskId op then 1 else 0 := by
  have nodup' := step_nodup nodup op
  by_cases known : taskId ∈ tasks.map Task.id
  · obtain ⟨t, member, rfl⟩ := List.mem_map.mp known
    by_cases returned : claims tasks t.id op = true
    · obtain ⟨workerId, leaseSeconds, tie, now, row, rfl, next, sameId⟩ := claims_iff.mp returned
      have same : row = t := eq_of_key_eq nodup (nextReady_mem next).1 member sameId
      subst same
      have after : claimed workerId (now + seconds leaseSeconds) now row ∈
          step tasks (.claim workerId leaseSeconds tie now) := by
        simp only [step, claimNext_some next]
        exact mem_updateWhere.mpr (Or.inl ⟨row, member, by simp, rfl⟩)
      rw [if_pos returned, attemptOf_mem nodup member]
      exact attemptOf_mem nodup' after
    · obtain ⟨t', after, moved⟩ := row_successor nodup op member
      rw [if_neg returned, attemptOf_mem nodup member, ← moved.id_eq, attemptOf_mem nodup' after]
      cases moved with
      | claimed next => exact absurd (claims_iff.mpr ⟨_, _, _, _, t, rfl, next, rfl⟩) returned
      | kept | succeeded | failedForGood | retried | reaped | cancelled => rfl
  · have idle : claims tasks taskId op = false := by
      rw [Bool.eq_false_iff]
      intro returned
      obtain ⟨_, _, _, _, row, _, next, sameId⟩ := claims_iff.mp returned
      exact known (sameId ▸ List.mem_map_of_mem (nextReady_mem next).1)
    rw [attemptOf_unknown known, idle]
    by_cases born : taskId ∈ (step tasks op).map Task.id
    · obtain ⟨t', after, rfl⟩ := List.mem_map.mp born
      rw [attemptOf_mem nodup' after]
      rcases row_origin nodup after with ⟨t, old, moved⟩ | ⟨args, newId, now, _, _, rfl⟩
      · exact absurd (moved.id_eq ▸ List.mem_map_of_mem old) known
      · rfl
    · rw [attemptOf_unknown born]
      rfl

theorem attemptOf_run {tasks : List Task} (nodup : (tasks.map Task.id).Nodup) (ops : List QueueOp) (taskId : Uuid) :
    attemptOf (run step tasks ops) taskId = attemptOf tasks taskId + claimCount taskId tasks ops := by
  induction ops generalizing tasks with
  | nil => rfl
  | cons op ops ih =>
    rw [run_cons, ih (step_nodup nodup op), attemptOf_step nodup op, claimCount]
    omega

theorem attempt_eq_claimCount {ops : List QueueOp} {t : Task} (member : t ∈ run step [] ops) :
    t.attempt = claimCount t.id [] ops := by
  rw [← attemptOf_mem (wf_run ops).nodup member, attemptOf_run wf_nil.nodup, attemptOf_unknown (by simp)]
  exact Nat.zero_add _

/-- The reaper does not take the task away on its last permitted attempt. -/
def SparesLastAttempt (taskId : Uuid) (tasks : List Task) (op : QueueOp) : Prop :=
  match op with
  | .reap now => ∀ t ∈ tasks, t.id = taskId → 1 ≤ t.maxAttempts → expired now t = true → t.attempt < t.maxAttempts
  | _ => True

instance (taskId : Uuid) (tasks : List Task) (op : QueueOp) : Decidable (SparesLastAttempt taskId tasks op) := by
  cases op <;> unfold SparesLastAttempt <;> infer_instance

/-- Within budget, with an attempt left whenever the task waits for a claim. -/
def WithinBudget (taskId : Uuid) (tasks : List Task) : Prop :=
  ∀ t ∈ tasks, t.id = taskId → 1 ≤ t.maxAttempts →
    t.attempt ≤ t.maxAttempts ∧ (waiting t = true → t.attempt < t.maxAttempts)

theorem WithinBudget.step {taskId : Uuid} {tasks : List Task} {op : QueueOp} (nodup : (tasks.map Task.id).Nodup)
    (within : WithinBudget taskId tasks) (spares : SparesLastAttempt taskId tasks op) :
    WithinBudget taskId (step tasks op) := by
  intro t' member sameId positive
  rcases row_origin nodup member with ⟨t, old, moved⟩ | ⟨args, newId, now, _, _, rfl⟩
  · have before := within t old (moved.id_eq.symm.trans sameId)
    cases moved with
    | kept => exact before positive
    | claimed next =>
      have isReady := (nextReady_mem next).2
      simp only [ready, Bool.and_eq_true] at isReady
      have left := (before positive).2 isReady.1
      simp only [claimed, waiting]
      exact ⟨by omega, by simp⟩
    | succeeded => exact ⟨(before positive).1, by simp [waiting, succeeded]⟩
    | failedForGood => exact ⟨(before positive).1, by simp [waiting, failedForGood]⟩
    | retried budget =>
      simp only [exhausted, Bool.or_eq_false_iff, decide_eq_false_iff_not] at budget
      simp only [retried]
      exact ⟨by omega, fun _ => by omega⟩
    | reaped lapsed =>
      have left := spares t old sameId positive lapsed
      simp only [reaped]
      exact ⟨by omega, fun _ => left⟩
    | cancelled => exact ⟨(before positive).1, by simp [waiting, cancelled]⟩
  · simp only [newTask] at positive ⊢
    exact ⟨by omega, fun _ => by omega⟩

/-- While no reap takes the task's last permitted attempt, the task is never claimed
more often than its budget allows. A failure compares the attempts with the budget
before it puts the task back, a reap does not. -/
theorem attempts_bounded (taskId : Uuid) (ops : List QueueOp)
    (spares : Along step (SparesLastAttempt taskId) [] ops) :
    ∀ t ∈ run step [] ops, t.id = taskId → 1 ≤ t.maxAttempts →
      t.attempt ≤ t.maxAttempts ∧ claimCount taskId [] ops ≤ t.maxAttempts := by
  intro t member sameId positive
  have kept : Wf (run step [] ops) ∧ WithinBudget taskId (run step [] ops) :=
    spares.invariant (I := fun tasks => Wf tasks ∧ WithinBudget taskId tasks) ⟨wf_nil, by simp [WithinBudget]⟩
      fun tasks op good spare => ⟨good.1.step op, good.2.step good.1.nodup spare⟩
  have bound := (kept.2 t member sameId positive).1
  have count := attempt_eq_claimCount member
  rw [sameId] at count
  exact ⟨bound, by omega⟩

private def onceTask : EnqueueArgs where
  tenantId := 1
  agentId := 2
  skillName := "echo"
  maxAttempts := 1

private def crashOnLastAttempt : List QueueOp :=
  [.enqueue onceTask 7 0, .claim "w1" 300 0 0, .reap (seconds 301), .claim "w2" 300 0 (seconds 301)]

theorem attempts_bounded_retried_within_budget :
    let ops := [.enqueue { onceTask with maxAttempts := 2 } 7 0, .claim "w1" 300 0 0, .reap (seconds 301),
      .claim "w2" 300 0 (seconds 301)]
    (∃ t ∈ run step [] ops, t.id = 7 ∧ 1 ≤ t.maxAttempts) ∧
      ∀ t ∈ run step [] ops, t.id = 7 → 1 ≤ t.maxAttempts →
        t.attempt ≤ t.maxAttempts ∧ claimCount 7 [] ops ≤ t.maxAttempts :=
  ⟨by decide, attempts_bounded 7 _ (by decide)⟩

/-- Reaping the only attempt lets the task be claimed a second time. -/
theorem reap_exceeds_attempt_budget :
    ¬ ∀ (ops : List QueueOp), ∀ t ∈ run step [] ops, 1 ≤ t.maxAttempts → t.attempt ≤ t.maxAttempts := by
  intro always
  have twice : ∃ t ∈ run step [] crashOnLastAttempt, 1 ≤ t.maxAttempts ∧ ¬ t.attempt ≤ t.maxAttempts := by decide
  obtain ⟨t, member, positive, above⟩ := twice
  exact above (always crashOnLastAttempt t member positive)

end MarketingAgents.Queue
