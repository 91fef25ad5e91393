import Mathlib.Algebra.Group.Int.Defs
import Mathlib.Algebra.GroupWithZero.Nat
import Mathlib.Data.List.Rotate
import Mathlib.Data.List.Sort
import MarketingAgents.Lib.Rows
import MarketingAgents.Db.Enums
import MarketingAgents.Db.Json

namespace MarketingAgents

open Lib

/-- A row of the `task` table. -/
structure Task where
  id : Uuid
  tenantId : Uuid
  campaignId : Option Uuid
  agentId : Uuid
  parentTaskId : Option Uuid
  skillName : String
  status : TaskStatus
  priority : Int
  attempt : Nat
  maxAttempts : Int
  idempotencyKey : Option String
  leasedUntil : Option Int
  workerId : Option String
  inputData : Dict String Json
  outputData : Dict String Json
  errorMessage : Option String
  scheduledFor : Int
  startedAt : Option Int
  completedAt : Option Int
deriving DecidableEq

/-- The arguments of `enqueue_task`, with its defaults. -/
structure EnqueueArgs where
  tenantId : Uuid
  agentId : Uuid
  skillName : String
  inputData : Dict String Json := []
  campaignId : Option Uuid := none
  parentTaskId : Option Uuid := none
  idempotencyKey : Option String := none
  scheduledFor : Option Int := none
  maxAttempts : Int := 3
  priority : Int := 5
deriving DecidableEq

inductive QueueError where
  /-- `CHECK (priority BETWEEN 1 AND 10)`. -/
  | priorityCheck
  /-- The primary key of `task`. -/
  | duplicateId
  /-- `assert task is not None` in `fail`. -/
  | taskNotFound (id : Uuid)
deriving DecidableEq

namespace Queue

/-- The row `enqueue_task` inserts; columns it does not name get the schema's defaults. -/
def newTask (args : EnqueueArgs) (newId : Uuid) (now : Int) : Task where
  id := newId
  tenantId := args.tenantId
  campaignId := args.campaignId
  agentId := args.agentId
  parentTaskId := args.parentTaskId
  skillName := args.skillName
  status := .queued
  priority := args.priority
  attempt := 0
  maxAttempts := args.maxAttempts
  idempotencyKey := args.idempotencyKey
  leasedUntil := none
  workerId := none
  inputData := args.inputData
  outputData := []
  errorMessage := none
  scheduledFor := args.scheduledFor.getD now
  startedAt := none
  completedAt := none

/-- The row the partial unique index on `(tenant_id, idempotency_key)` conflicts with. -/
def conflict? (tasks : List Task) (args : EnqueueArgs) : Option Task :=
  match args.idempotencyKey with
  | none => none
  | some key => tasks.find? fun t => t.tenantId = args.tenantId ∧ t.idempotencyKey = some key

/-- `enqueue_task`. `newId` is what `gen_random_uuid()` returns. -/
def enqueueTask (tasks : List Task) (args : EnqueueArgs) (newId : Uuid) (now : Int) :
    Except QueueError (List Task × Task) :=
  if ¬ (1 ≤ args.priority ∧ args.priority ≤ 10) then .error .priorityCheck
  else match conflict? tasks args with
    | some existing => .ok (tasks, existing)
    | none =>
      if ∃ t ∈ tasks, t.id = newId then .error .duplicateId
      else .ok (tasks ++ [newTask args newId now], newTask args newId now)

/-- `status IN (queued, awaiting_retry)`. -/
def waiting (t : Task) : Bool := t.status = .queued || t.status = .awaitingRetry

/-- The `WHERE` of `claim_next`. -/
def ready (now : Int) (t : Task) : Bool := waiting t && t.scheduledFor ≤ now

/-- `ORDER BY priority DESC, scheduled_for ASC`: `a` may stand before `b`. -/
def claimOrder (a b : Task) : Prop :=
  b.priority < a.priority ∨ a.priority = b.priority ∧ a.scheduledFor ≤ b.scheduledFor

instance : DecidableRel claimOrder := fun a b =>
  inferInstanceAs (Decidable (b.priority < a.priority ∨ a.priority = b.priority ∧ a.scheduledFor ≤ b.scheduledFor))

/-- The row `claim_next` locks. `tie` is where the scan of the table starts:
SQL leaves open which of several rows equal in the `ORDER BY` comes first. -/
def nextReady (tasks : List Task) (tie : Nat) (now : Int) : Option Task :=
  (((tasks.rotate tie).filter (ready now)).insertionSort claimOrder).head?

def claimed (workerId : String) (leasedUntil now : Int) (t : Task) : Task :=
  { t with
    status := .running
    workerId := some workerId
    leasedUntil := some leasedUntil
    startedAt := some now
    attempt := t.attempt + 1
    errorMessage := none }

def seconds (n : Int) : Int := n * 1000000

/-- `claim_next`: the table after the `UPDATE` and the row it returns. -/
def claimNext (tasks : List Task) (workerId : String) (leaseSeconds : Int) (tie : Nat) (now : Int) :
    List Task × Option Task :=
  match nextReady tasks tie now with
  | none => (tasks, none)
  | some t =>
    (updateWhere (·.id = t.id) (claimed workerId (now + seconds leaseSeconds) now) tasks,
      some (claimed workerId (now + seconds leaseSeconds) now t))

def succeeded (outputData : Dict String Json) (now : Int) (t : Task) : Task :=
  { t with
    status := .succeeded
    outputData := outputData
    completedAt := some now
    leasedUntil := none
    workerId := none
    errorMessage := none }

def complete (tasks : List Task) (taskId : Uuid) (outputData : Dict String Json) (now : Int) : List Task :=
  updateWhere (·.id = taskId) (succeeded outputData now) tasks

/-- `min(_BACKOFF_BASE_SECONDS * 2**attempt, _BACKOFF_MAX_SECONDS)`. -/
def backoff (attempt : Nat) : Int := seconds (min (30 * 2 ^ attempt) 3600)

instance instNeZeroDraw : NeZero (2 ^ 53) := ⟨by decide⟩

/-- `_compute_next_attempt_delay`. `draw / 2^53` is the value of `random.random()`
behind `random.uniform(0, delay * 0.1)`. -/
def computeNextAttemptDelay (attempt : Nat) (draw : Fin (2 ^ 53)) : Int :=
  backoff attempt + backoff attempt * draw.val / (10 * 2 ^ 53)

def failedForGood (error : String) (now : Int) (t : Task) : Task :=
  { t with
    status := .failed
    errorMessage := some error
    completedAt := some now
    leasedUntil := none
    workerId := none }

def retried (error : String) (scheduledFor : Int) (t : Task) : Task :=
  { t with
    status := .awaitingRetry
    errorMessage := some error
    scheduledFor := scheduledFor
    leasedUntil := none
    workerId := none }

/-- `permanent or task.attempt >= task.max_attempts`. -/
def exhausted (permanent : Bool) (t : Task) : Bool := permanent || t.maxAttempts ≤ t.attempt

def fail (tasks : List Task) (taskId : Uuid) (error : String) (permanent : Bool) (draw : Fin (2 ^ 53))
    (now : Int) : Except QueueError (List Task) :=
  match tasks.find? (·.id = taskId) with
  | none => .error (.taskNotFound taskId)
  | some t =>
    if exhausted permanent t then .ok (updateWhere (·.id = taskId) (failedForGood error now) tasks)
    else .ok (updateWhere (·.id = taskId)
      (retried error (now + computeNextAttemptDelay t.attempt draw)) tasks)

/-- The `WHERE` of `reap_expired_leases`; a null lease compares as not expired. -/
def expired (now : Int) (t : Task) : Bool :=
  t.status = .running && match t.leasedUntil with
    | none => false
    | some leasedUntil => leasedUntil < now

def reaped (t : Task) : Task :=
  { t with status := .awaitingRetry, leasedUntil := none, workerId := none }

/-- `reap_expired_leases`, with the number of rows it reports. -/
def reapExpiredLeases (tasks : List Task) (now : Int) : List Task × Nat :=
  (updateWhere (expired now) reaped tasks, (tasks.filter (expired now)).length)

def cancelled (now : Int) (t : Task) : Task :=
  { t with status := .cancelled, completedAt := some now, leasedUntil := none, workerId := none }

/-- The `WHERE` of `cancel_queued_for_campaign`. -/
def cancellable (campaignId : Uuid) (t : Task) : Bool := t.campaignId = some campaignId && waiting t

/-- `cancel_queued_for_campaign`, with the number of rows it reports. -/
def cancelQueuedForCampaign (tasks : List Task) (campaignId : Uuid) (now : Int) : List Task × Nat :=
  (updateWhere (cancellable campaignId) (cancelled now) tasks,
    (tasks.filter (cancellable campaignId)).length)

end Queue

end MarketingAgents
