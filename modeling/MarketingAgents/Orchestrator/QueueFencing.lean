import MarketingAgents.Orchestrator.QueueLeases

namespace MarketingAgents

open Lib

/-- What `run_once` keeps of the task it claimed. Attempts count the claims
of a task, so the attempt number tells its claims apart. -/
structure Claim where
  workerId : String
  taskId : Uuid
  attempt : Nat
deriving DecidableEq

/-- The task store, the claims whose worker has neither finished nor died,
and the claims whose lease a reap has taken. -/
structure Fleet where
  tasks : List Task := []
  held : List Claim := []
  reapedClaims : List Claim := []

/-- The calls of a fleet of workers; `complete` and `fail` are issued by the
worker that made the claim, any time after it. -/
inductive FleetOp where
  | enqueue (args : EnqueueArgs) (newId : Uuid) (now : Int)
  | claim (workerId : String) (leaseSeconds : Int) (tie : Nat) (now : Int)
  | complete (claim : Claim) (outputData : Dict String Json) (now : Int)
  | fail (claim : Claim) (error : String) (permanent : Bool) (draw : Fin (2 ^ 53)) (now : Int)
  | crash (claim : Claim)
  | reap (now : Int)
  | cancel (campaignId : Uuid) (now : Int)

namespace Fleet

/-- The row on which the claim was made, still as the claim left it. -/
def holds (c : Claim) (t : Task) : Bool :=
  t.id = c.taskId && t.status = .running && t.attempt = c.attempt && t.workerId = some c.workerId

/-- The claim has not been reaped, followed by another, finished or cancelled. -/
def Current (tasks : List Task) (c : Claim) : Prop := ∃ t ∈ tasks, holds c t = true

instance (tasks : List Task) (c : Claim) : Decidable (Current tasks c) :=
  inferInstanceAs (Decidable (∃ t ∈ tasks, holds c t = true))

def drop (c : Claim) (held : List Claim) : List Claim := held.filter (· ≠ c)

/-- The claims that lose their lease to a reap at `now`. -/
def losesLease (tasks : List Task) (now : Int) (c : Claim) : Bool :=
  tasks.any fun t => holds c t && Queue.expired now t

def step (s : Fleet) : FleetOp → Fleet
  | .enqueue args newId now => { s with tasks := Queue.step s.tasks (.enqueue args newId now) }
  | .claim workerId leaseSeconds tie now =>
    match Queue.claimNext s.tasks workerId leaseSeconds tie now with
    | (tasks, some t) => { s with tasks := tasks, held := ⟨workerId, t.id, t.attempt⟩ :: s.held }
    | (tasks, none) => { s with tasks := tasks }
  | .complete c outputData now =>
    if c ∈ s.held then
      { s with tasks := Queue.step s.tasks (.complete c.taskId outputData now), held := drop c s.held }
    else s
  | .fail c error permanent draw now =>
    if c ∈ s.held then
      { s with tasks := Queue.step s.tasks (.fail c.taskId error permanent draw now), held := drop c s.held }
    else s
  | .crash c => { s with held := drop c s.held }
  | .reap now =>
    { s with
      tasks := Queue.step s.tasks (.reap now)
      reapedClaims := s.held.filter (losesLease s.tasks now) ++ s.reapedClaims }
  | .cancel campaignId now => { s with tasks := Queue.step s.tasks (.cancel campaignId now) }

/-- No reap has taken the lease of the claim that the worker now finishes. -/
def BeforeReap (s : Fleet) : FleetOp → Prop
  | .complete c _ _ => c ∈ s.held → c ∉ s.reapedClaims
  | .fail c _ _ _ _ => c ∈ s.held → c ∉ s.reapedClaims
  | _ => True

instance (s : Fleet) (op : FleetOp) : Decidable (BeforeReap s op) := by
  cases op <;> unfold BeforeReap <;> infer_instance

/-- A `complete` or `fail` changes the table only for a current claim. -/
def Fenced (s : Fleet) (op : FleetOp) : Prop :=
  match op with
  | .complete c _ _ => c ∈ s.held → (s.step op).tasks ≠ s.tasks → Current s.tasks c
  | .fail c _ _ _ _ => c ∈ s.held → (s.step op).tasks ≠ s.tasks → Current s.tasks c
  | _ => True

def finished (t : Task) : Bool := t.status = .succeeded || t.status = .failed || t.status = .cancelled

/-- No finished task changes status at this step. -/
def KeepsFinished (s : Fleet) (op : FleetOp) : Prop :=
  ∀ t ∈ s.tasks, finished t = true → ∀ t' ∈ (s.step op).tasks, t'.id = t.id → t'.status = t.status

theorem holds_iff {c : Claim} {t : Task} : holds c t = true ↔
    t.id = c.taskId ∧ t.status = .running ∧ t.attempt = c.attempt ∧ t.workerId = some c.workerId := by
  simp only [holds, Bool.and_eq_true, decide_eq_true_eq, and_assoc]

theorem holds_unique {c c' : Claim} {t : Task} (first : holds c t = true) (second : holds c' t = true) : c = c' := by
  obtain ⟨id, _, attempt, worker⟩ := holds_iff.mp first
  obtain ⟨id', _, attempt', worker'⟩ := holds_iff.mp second
  obtain ⟨workerId, taskId, n⟩ := c
  obtain ⟨workerId', taskId', n'⟩ := c'
  simp only [Claim.mk.injEq]
  exact ⟨Option.some.inj (worker.symm.trans worker'), id.symm.trans id', attempt.symm.trans attempt'⟩

/-- The queue call behind a step, when there is one. -/
def calls (s : Fleet) : FleetOp → Option QueueOp
  | .enqueue args newId now => some (.enqueue args newId now)
  | .claim workerId leaseSeconds tie now => some (.claim workerId leaseSeconds tie now)
  | .complete c outputData now => if c ∈ s.held then some (.complete c.taskId outputData now) else none
  | .fail c error permanent draw now =>
    if c ∈ s.held then some (.fail c.taskId error permanent draw now) else none
  | .crash _ => none
  | .reap now => some (.reap now)
  | .cancel campaignId now => some (.cancel campaignId now)

/-- The fleet refines the task store: a step is one queue call, or none. -/
theorem step_tasks (s : Fleet) (op : FleetOp) :
    (s.step op).tasks = match calls s op with
      | some q => Queue.step s.tasks q
      | none => s.tasks := by
  cases op with
  | claim workerId leaseSeconds tie now =>
    simp only [step, calls, Queue.step]
    cases (Queue.claimNext s.tasks workerId leaseSeconds tie now) with
    | mk tasks returned => cases returned <;> rfl
  | complete c | fail c => by_cases mine : c ∈ s.held <;> simp only [step, calls, mine, if_true, if_false]
  | _ => rfl

/-- The task a call finishes, whoever holds it. -/
def finishes : QueueOp → Option Uuid
  | .complete taskId _ _ => some taskId
  | .fail taskId _ _ _ _ => some taskId
  | _ => none

structure Inv (s : Fleet) : Prop where
  wf : Queue.Wf s.tasks
  /-- Attempts of past and present claims lie behind the counter. -/
  behind : ∀ c, c ∈ s.held ∨ c ∈ s.reapedClaims → ∀ t ∈ s.tasks, t.id = c.taskId → c.attempt ≤ t.attempt
  known : ∀ c ∈ s.reapedClaims, c.taskId ∈ s.tasks.map Task.id
  current : ∀ c ∈ s.held, c ∉ s.reapedClaims → Current s.tasks c

theorem inv_start : Inv {} := ⟨Queue.wf_nil, by simp, by simp, by simp⟩

theorem attempt_le {tasks : List Task} {q : QueueOp} {t t' : Task} (moved : Queue.RowStep tasks q t t') :
    t.attempt ≤ t'.attempt := by
  cases moved with
  | claimed => exact Nat.le_succ _
  | _ => exact Nat.le_refl _

/-- A queue call that neither finishes nor reaps a current claim leaves it current. -/
theorem Current.step {tasks : List Task} (nodup : (tasks.map Task.id).Nodup) {c : Claim} (current : Current tasks c)
    (q : QueueOp) (elsewhere : finishes q ≠ some c.taskId)
    (notReaped : ∀ now, q = .reap now → losesLease tasks now c = false) : Current (Queue.step tasks q) c := by
  obtain ⟨t, member, mine⟩ := current
  obtain ⟨sameId, running, _, _⟩ := holds_iff.mp mine
  obtain ⟨t', after, moved⟩ := Queue.row_successor nodup q member
  cases moved with
  | kept => exact ⟨t, after, mine⟩
  | claimed next =>
    have isReady := (Queue.nextReady_mem next).2
    simp [Queue.ready, Queue.waiting, running] at isReady
  | succeeded | failedForGood | retried => exact absurd (congrArg some sameId) elsewhere
  | reaped lapsed =>
    have kept := notReaped _ rfl
    simp only [losesLease, List.any_eq_false] at kept
    exact absurd (by rw [mine, lapsed]; rfl) (kept t member)
  | cancelled waits => simp [Queue.cancellable, Queue.waiting, running] at waits

theorem behind_step {s : Fleet} (inv : Inv s) (q : QueueOp) {c : Claim} (past : c ∈ s.held ∨ c ∈ s.reapedClaims)
    (known : c.taskId ∈ s.tasks.map Task.id) :
    ∀ t ∈ Queue.step s.tasks q, t.id = c.taskId → c.attempt ≤ t.attempt := by
  intro t' member sameId
  rcases Queue.row_origin inv.wf.nodup member with ⟨t, old, moved⟩ | ⟨args, newId, now, _, fresh, rfl⟩
  · exact (inv.behind c past t old (moved.id_eq.symm.trans sameId)).trans (attempt_le moved)
  · rw [← sameId] at known
    exact absurd known fresh

theorem Inv.known_of {s : Fleet} (inv : Inv s) {c : Claim} (past : c ∈ s.held ∨ c ∈ s.reapedClaims) :
    c.taskId ∈ s.tasks.map Task.id := by
  by_cases reaped : c ∈ s.reapedClaims
  · exact inv.known c reaped
  · obtain ⟨t, member, mine⟩ := inv.current c (past.resolve_right reaped) reaped
    exact List.mem_map.mpr ⟨t, member, (holds_iff.mp mine).1⟩

/-- A worker's own call takes its claim off the list, and no other current
claim is on the same task. -/
theorem Inv.finish {s : Fleet} (inv : Inv s) {c : Claim} {q : QueueOp} (held : c ∈ s.held)
    (timely : c ∉ s.reapedClaims) (own : finishes q = some c.taskId) :
    Inv { s with tasks := Queue.step s.tasks q, held := drop c s.held } := by
  have isCurrent := inv.current c held timely
  have held_of {c' : Claim} (kept : c' ∈ drop c s.held) : c' ∈ s.held ∧ c' ≠ c := by
    simpa [drop] using kept
  refine ⟨inv.wf.step q, ?_, ?_, ?_⟩
  · intro c' past
    have before : c' ∈ s.held ∨ c' ∈ s.reapedClaims := past.imp_left fun kept => (held_of kept).1
    exact behind_step inv q before (inv.known_of before)
  · intro c' reaped
    exact Queue.known_step (inv.known c' reaped) q
  · intro c' kept fresh
    have other := inv.current c' (held_of kept).1 fresh
    have differs : c'.taskId ≠ c.taskId := by
      intro sameTask
      obtain ⟨t, member, mine⟩ := isCurrent
      obtain ⟨t', member', mine'⟩ := other
      have sameRow : t' = t := eq_of_key_eq inv.wf.nodup member' member
        ((holds_iff.mp mine').1.trans (sameTask.trans (holds_iff.mp mine).1.symm))
      exact (held_of kept).2 (holds_unique mine' (sameRow ▸ mine))
    refine other.step inv.wf.nodup q ?_ ?_
    · rw [own]
      exact fun same => differs (Option.some.inj same).symm
    · rintro now rfl
      cases own

theorem Inv.other {s : Fleet} (inv : Inv s) {q : QueueOp}
    (quiet : finishes q = none) (notReap : ∀ now, q ≠ .reap now) :
    Inv { s with tasks := Queue.step s.tasks q } := by
  refine ⟨inv.wf.step q, fun c past => behind_step inv q past (inv.known_of past),
    fun c reaped => Queue.known_step (inv.known c reaped) q, fun c held fresh => ?_⟩
  exact (inv.current c held fresh).step inv.wf.nodup q (by simp [quiet]) fun now same => absurd same (notReap now)

/-- A claim makes its worker the only one with a current claim of the task. It takes
a ready task, and no worker holds a current claim of one. -/
theorem Inv.claim {s : Fleet} (inv : Inv s) (workerId : String) (leaseSeconds : Int) (tie : Nat) (now : Int) :
    Inv (s.step (.claim workerId leaseSeconds tie now)) := by
  cases next : Queue.nextReady s.tasks tie now with
  | none =>
    simp only [step, Queue.claimNext_none next]
    exact inv
  | some row =>
    have same : Queue.step s.tasks (.claim workerId leaseSeconds tie now) =
        updateWhere (·.id = row.id) (Queue.claimed workerId (now + Queue.seconds leaseSeconds) now) s.tasks := by
      simp only [Queue.step, Queue.claimNext_some next]
    obtain ⟨member, isReady⟩ := Queue.nextReady_mem next
    have known : row.id ∈ s.tasks.map Task.id := List.mem_map_of_mem member
    have born : Queue.claimed workerId (now + Queue.seconds leaseSeconds) now row ∈
        Queue.step s.tasks (.claim workerId leaseSeconds tie now) := by
      rw [same]
      exact mem_updateWhere.mpr (Or.inl ⟨row, member, by simp, rfl⟩)
    have wf' := inv.wf.step (.claim workerId leaseSeconds tie now)
    simp only [step, Queue.claimNext_some next]
    rw [← same]
    refine ⟨wf', ?_, ?_, ?_⟩
    · intro c past
      have cases : c = ⟨workerId, row.id, row.attempt + 1⟩ ∨ (c ∈ s.held ∨ c ∈ s.reapedClaims) := by
        simpa [Queue.claimed, or_assoc] using past
      rcases cases with rfl | before
      · intro t after sameId
        rw [eq_of_key_eq wf'.nodup after born sameId]
        exact Nat.le_refl _
      · exact behind_step inv (.claim workerId leaseSeconds tie now) before (inv.known_of before)
    · intro c reaped
      exact Queue.known_step (inv.known c reaped) (.claim workerId leaseSeconds tie now)
    · intro c held fresh
      rcases List.mem_cons.mp held with rfl | old
      · exact ⟨_, born, by simp [holds, Queue.claimed]⟩
      · exact (inv.current c old fresh).step inv.wf.nodup (.claim workerId leaseSeconds tie now)
          (by simp [finishes]) (by simp)

theorem Inv.reap {s : Fleet} (inv : Inv s) (now : Int) : Inv (s.step (.reap now)) := by
  have past_of {c : Claim} (past : c ∈ s.held ∨ c ∈ s.held.filter (losesLease s.tasks now) ++ s.reapedClaims) :
      c ∈ s.held ∨ c ∈ s.reapedClaims := by
    rcases past with held | lost
    · exact Or.inl held
    · exact (List.mem_append.mp lost).imp_left fun kept => (List.mem_filter.mp kept).1
  refine ⟨inv.wf.step (.reap now), ?_, ?_, ?_⟩
  · intro c past
    have before := past_of past
    exact behind_step inv (.reap now) before (inv.known_of before)
  · intro c lost
    exact Queue.known_step (inv.known_of (past_of (Or.inr lost))) (.reap now)
  · intro c held fresh
    simp only [step, List.mem_append, List.mem_filter, not_or, not_and, Bool.not_eq_true] at fresh
    refine (inv.current c held fresh.2).step inv.wf.nodup (.reap now) (by simp [finishes]) ?_
    intro later same
    cases same
    exact fresh.1 held

theorem Inv.step {s : Fleet} (inv : Inv s) {op : FleetOp} (timely : BeforeReap s op) : Inv (s.step op) := by
  cases op with
  | enqueue args newId now => exact inv.other rfl (by simp)
  | claim workerId leaseSeconds tie now => exact inv.claim workerId leaseSeconds tie now
  | complete c outputData now =>
    by_cases held : c ∈ s.held
    · simp only [Fleet.step, if_pos held]
      exact inv.finish held (timely held) rfl
    · simpa only [Fleet.step, if_neg held] using inv
  | fail c error permanent draw now =>
    by_cases held : c ∈ s.held
    · simp only [Fleet.step, if_pos held]
      exact inv.finish held (timely held) rfl
    · simpa only [Fleet.step, if_neg held] using inv
  | crash c =>
    have held_of {c' : Claim} (kept : c' ∈ drop c s.held) : c' ∈ s.held := (List.mem_filter.mp kept).1
    exact ⟨inv.wf, fun c' past => inv.behind c' (past.imp_left held_of), inv.known,
      fun c' kept => inv.current c' (held_of kept)⟩
  | reap now => exact inv.reap now
  | cancel campaignId now => exact inv.other rfl (by simp)

theorem Inv.row_kept {s : Fleet} (inv : Inv s) (op : FleetOp) {t : Task} (member : t ∈ s.tasks) :
    ∃ t' ∈ (s.step op).tasks, t'.id = t.id := by
  rw [step_tasks]
  cases calls s op with
  | none => exact ⟨t, member, rfl⟩
  | some q =>
    obtain ⟨t', after, moved⟩ := Queue.row_successor inv.wf.nodup q member
    exact ⟨t', after, moved.id_eq⟩

theorem Inv.fenced {s : Fleet} (inv : Inv s) {op : FleetOp} (timely : BeforeReap s op) : Fenced s op := by
  cases op with
  | complete c | fail c => exact fun held _ => inv.current c held (timely held)
  | _ => trivial

theorem finishes_held {s : Fleet} {op : FleetOp} {q : QueueOp} {taskId : Uuid} (called : calls s op = some q)
    (timely : BeforeReap s op) (own : finishes q = some taskId) :
    ∃ c ∈ s.held, c ∉ s.reapedClaims ∧ taskId = c.taskId := by
  cases op with
  | complete c | fail c =>
    simp only [calls, Option.ite_none_right_eq_some, Option.some.injEq] at called
    obtain ⟨held, rfl⟩ := called
    exact ⟨c, held, timely held, (Option.some.inj own).symm⟩
  | crash c => cases called
  | _ =>
    cases called
    cases own

/-- Under the invariant only a running row is finished or reaped and only a
waiting row is claimed or cancelled, so a finished row stays where it is. -/
theorem Inv.keepsFinished {s : Fleet} (inv : Inv s) {op : FleetOp} (timely : BeforeReap s op) :
    KeepsFinished s op := by
  intro t member done t' after sameId
  have onlyRow {c : Claim} (held : c ∈ s.held) (fresh : c ∉ s.reapedClaims) : t.id ≠ c.taskId := by
    intro own
    obtain ⟨row, rowMem, mine⟩ := inv.current c held fresh
    obtain ⟨rowId, running, _, _⟩ := holds_iff.mp mine
    have same : row = t := eq_of_key_eq inv.wf.nodup rowMem member (rowId.trans own.symm)
    rw [← same] at done
    simp [finished, running] at done
  rw [step_tasks] at after
  cases called : calls s op with
  | none =>
    simp only [called] at after
    rw [eq_of_key_eq inv.wf.nodup after member sameId]
  | some q =>
    simp only [called] at after
    obtain ⟨next, nextMem, moved⟩ := Queue.row_successor inv.wf.nodup q member
    have same : next = t' := eq_of_key_eq (Queue.step_nodup inv.wf.nodup q) nextMem after
      (moved.id_eq.trans sameId.symm)
    subst same
    cases moved with
    | kept => rfl
    | claimed next =>
      have isReady := (Queue.nextReady_mem next).2
      simp only [Queue.ready, Queue.waiting, Bool.and_eq_true, Bool.or_eq_true, decide_eq_true_eq] at isReady
      rcases isReady.1 with waits | waits <;> simp [finished, waits] at done
    | succeeded | failedForGood | retried =>
      obtain ⟨c, held, fresh, own⟩ := finishes_held called timely rfl
      exact absurd own (onlyRow held fresh)
    | reaped lapsed =>
      simp only [Queue.expired, Bool.and_eq_true, decide_eq_true_eq] at lapsed
      simp [finished, lapsed.1] at done
    | cancelled waits =>
      simp only [Queue.cancellable, Queue.waiting, Bool.and_eq_true, Bool.or_eq_true, decide_eq_true_eq] at waits
      rcases waits.2 with waits | waits <;> simp [finished, waits] at done

/-- Nothing a permitted run does changes the status of a task finished at its start. -/
theorem finished_forever {s : Fleet} {ops : List FleetOp} (inv : Inv s) (timely : Along step BeforeReap s ops)
    {t : Task} (member : t ∈ s.tasks) (done : finished t = true) :
    ∀ t' ∈ (run step s ops).tasks, t'.id = t.id → t'.status = t.status := by
  have kept : Inv (run step s ops) ∧ ∃ t' ∈ (run step s ops).tasks, t'.id = t.id ∧ t'.status = t.status := by
    refine timely.invariant (I := fun s => Inv s ∧ ∃ t' ∈ s.tasks, t'.id = t.id ∧ t'.status = t.status)
      ⟨inv, t, member, rfl, rfl⟩ ?_
    rintro s op ⟨inv, row, rowMem, rowId, rowStatus⟩ permitted
    refine ⟨inv.step permitted, ?_⟩
    have same := inv.keepsFinished permitted row rowMem (by rw [finished, rowStatus]; exact done)
    obtain ⟨row', after, moved⟩ := inv.row_kept op rowMem
    exact ⟨row', after, moved.trans rowId, (same row' after moved).trans rowStatus⟩
  obtain ⟨inv', row, rowMem, rowId, rowStatus⟩ := kept
  intro t' after sameId
  rw [eq_of_key_eq inv'.wf.nodup after rowMem (sameId.trans rowId.symm)]
  exact rowStatus

/-- As long as no worker finishes a task after a reap took its lease, every
`complete` and `fail` acts on a current claim and finished tasks stay finished. Both
name the task alone, so that nothing else tells an overtaken worker from the current
one. -/
theorem finish_acts_on_current_claim (ops : List FleetOp) (timely : Along step BeforeReap {} ops) :
    Along step Fenced {} ops ∧
    ∀ first last, ops = first ++ last → ∀ t ∈ (run step {} first).tasks, finished t = true →
      ∀ t' ∈ (run step {} ops).tasks, t'.id = t.id → t'.status = t.status := by
  refine ⟨timely.imp inv_start (fun _ _ inv permitted => inv.step permitted)
    fun _ _ inv permitted => inv.fenced permitted, ?_⟩
  rintro first last rfl t member done
  obtain ⟨early, late⟩ := along_append.mp timely
  have inv : Inv (run step {} first) := early.invariant inv_start fun _ _ inv permitted => inv.step permitted
  rw [run_append]
  exact finished_forever inv late member done

private def sharedTask : EnqueueArgs where
  tenantId := 1
  agentId := 2
  skillName := "distribution.send_email"

/-- The first worker outlives its lease; the second claims the task and completes it. -/
private def overtaken : List FleetOp :=
  [.enqueue sharedTask 7 0, .claim "w1" 300 0 0, .reap (Queue.seconds 301),
    .claim "w2" 300 0 (Queue.seconds 301), .complete ⟨"w2", 7, 2⟩ [] (Queue.seconds 302)]

theorem finish_acts_on_current_claim_overtaken :
    let ops := overtaken ++ [.crash ⟨"w1", 7, 1⟩]
    (∃ t ∈ (run step {} ops).tasks, finished t = true) ∧ Along step Fenced {} ops ∧
      ∀ first last, ops = first ++ last → ∀ t ∈ (run step {} first).tasks, finished t = true →
        ∀ t' ∈ (run step {} ops).tasks, t'.id = t.id → t'.status = t.status :=
  ⟨by decide, finish_acts_on_current_claim _ (by decide)⟩

/-- When the overtaken worker then fails, the succeeded task goes back in line. -/
theorem late_fail_reopens_succeeded_task :
    let s := run step {} overtaken
    let op : FleetOp := .fail ⟨"w1", 7, 1⟩ "timed out" false 0 (Queue.seconds 303)
    ¬ Fenced s op ∧ ¬ KeepsFinished s op := by
  have moved : (∃ t ∈ (run step {} overtaken).tasks, finished t = true ∧ ∃ t' ∈ ((run step {} overtaken).step
      (.fail ⟨"w1", 7, 1⟩ "timed out" false 0 (Queue.seconds 303))).tasks, t'.id = t.id ∧ t'.status ≠ t.status) ∧
      ¬ Current (run step {} overtaken).tasks ⟨"w1", 7, 1⟩ ∧ ⟨"w1", 7, 1⟩ ∈ (run step {} overtaken).held := by
    decide
  obtain ⟨⟨t, member, done, t', after, sameId, differs⟩, stale, held⟩ := moved
  refine ⟨fun fenced => stale (fenced held ?_), fun keeps => differs (keeps t member done t' after sameId)⟩
  intro same
  rw [same] at after
  have wf : Queue.Wf (run step {} overtaken).tasks := by
    have timely : Along step BeforeReap {} overtaken := by decide
    exact (timely.invariant inv_start fun _ _ inv permitted => inv.step permitted).wf
  exact differs (congrArg Task.status (eq_of_key_eq wf.nodup after member sameId))

end Fleet

end MarketingAgents
