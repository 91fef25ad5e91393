import MarketingAgents.Content.System

namespace MarketingAgents

open Lib PyText

/-- Where a worker stands between its claim and its `complete` or `fail`. The
handler's transaction is open from `begun` to `called`. -/
inductive Phase where
  | claimed
  | begunEmail (plan : EmailPlan)
  | calledEmail (plan : EmailPlan) (outcome : Option DispatchOutcome)
  | begunSocial (plan : SocialPlan)
  /-- The tool has found no post in the ledger and is about to make one. -/
  | checkedSocial (plan : SocialPlan)
  | calledSocial (plan : SocialPlan) (outcome : SocialOutcome)
  | returned
  | raised (error : HandlerError)

/-- One pass of `run_once` over the task it claimed. The last field is a
history variable: the campaign stood stopped when the handler began. -/
structure Execution where
  id : Nat
  task : Task
  phase : Phase
  startedStopped : Bool := false

structure ProviderCall where
  assetId : Uuid
  startedStopped : Bool

/-- The database, the workers at work, and the history of the providers: the
pairs of asset and address handed over in accepted email calls, and all calls. -/
structure World where
  db : Db
  executions : List Execution := []
  nextExecution : Nat := 0
  accepted : List (Uuid × String) := []
  calls : List ProviderCall := []

/-- The write pauses, completes or resumes its campaign. -/
def StatusWrite.marks (w : StatusWrite) : Bool :=
  w.after = .paused ∨ w.after = .completed ∨ w.writer = .transition "resume"

/-- The newest write that paused, completed or resumed the campaign did not
resume it. -/
def Db.stopped (db : Db) (campaignId : Uuid) : Bool :=
  match db.statusWrites.find? fun w => w.campaignId = campaignId ∧ w.marks with
  | some w => w.after = .paused ∨ w.after = .completed
  | none => false

namespace Phase

/-- The asset and campaign that an open handler transaction has loaded. -/
def loaded : Phase → Option (ContentAsset × Campaign)
  | .begunEmail plan | .calledEmail plan _ => some (plan.asset, plan.campaign)
  | .begunSocial plan | .checkedSocial plan | .calledSocial plan _ => some (plan.asset, plan.campaign)
  | _ => none

def emailAsset : Phase → Option Uuid
  | .begunEmail plan | .calledEmail plan _ => some plan.asset.id
  | _ => none

end Phase

/-- What an accepted call handed over. -/
def acceptedSends (plan : EmailPlan) : Option DispatchOutcome → List (Uuid × String)
  | some ⟨handed, .ok _⟩ => handed.map fun r => (plan.asset.id, r.email)
  | _ => []

def Phase.acceptedSends : Phase → List (Uuid × String)
  | .calledEmail plan outcome => MarketingAgents.acceptedSends plan outcome
  | _ => []

/-- The ledger takes the rows of the call. -/
def Phase.Fits [PyText] (now : Int) : Phase → Prop
  | .calledEmail plan (some ⟨_, .ok result⟩) => ∀ row ∈ emailAttempts plan (some result) now, row.Fits
  | .calledSocial plan ⟨_, .ok result⟩ => (socialAttempt plan result now).Fits
  | _ => True

instance Phase.decidableFits [PyText] (now : Int) : (phase : Phase) → Decidable (phase.Fits now)
  | .calledEmail plan (some ⟨_, .ok result⟩) =>
    inferInstanceAs (Decidable (∀ row ∈ emailAttempts plan (some result) now, row.Fits))
  | .calledSocial plan ⟨_, .ok result⟩ => inferInstanceAs (Decidable (socialAttempt plan result now).Fits)
  | .calledEmail _ (some ⟨_, .error _⟩) | .calledEmail _ none | .calledSocial _ ⟨_, .error _⟩ | .claimed | .begunEmail _
  | .begunSocial _ | .checkedSocial _ | .returned | .raised _ => inferInstanceAs (Decidable True)

/-- `send_batch` was reached. -/
def emailCalled : Option DispatchOutcome → Bool
  | some outcome => !outcome.handed.isEmpty
  | none => false

/-- The steps of workers, reaper, producers and operators. -/
inductive WorldOp where
  | claim (workerId : String) (leaseSeconds : Int) (tie : Nat) (now : Int)
  | begin (execution : Nat) (secret : String) (now : Int)
  | call (execution : Nat) (answer : SendgridResponse) (social : SocialAnswer) (batchId : Uuid)
  | commit (execution : Nat) (now : Int)
  /-- An exception in the handler, or a commit that fails. -/
  | abort (execution : Nat) (error : HandlerError)
  | crash (execution : Nat)
  | complete (execution : Nat) (outputData : Dict String Json) (now : Int)
  | fail (execution : Nat) (error : String) (permanent : Bool) (draw : Fin (2 ^ 53)) (now : Int)
  | reap (now : Int)
  | enqueue (args : EnqueueArgs) (now : Int)
  | operate (op : Op) (now : Int)

/-- The execution whose open transaction the step may discard. -/
def WorldOp.discards : WorldOp → Option Nat
  | .abort id _ | .crash id => some id
  | _ => none

/-- Dispatches run as handlers of a worker, step by step. -/
def Op.dispatches : Op → Bool
  | .dispatchEmailAsset .. | .dispatchSocialAsset .. => true
  | _ => false

namespace World

def execution? (w : World) (id : Nat) : Option Execution := w.executions.find? (·.id = id)

def remove (w : World) (id : Nat) : World := { w with executions := w.executions.filter (·.id ≠ id) }

def replace (w : World) (e : Execution) : World :=
  { w with executions := e :: w.executions.filter (·.id ≠ e.id) }

def setTasks (w : World) (tasks : List Task) : World := { w with db := { w.db with tasks := tasks } }

def within (w : World) (id : Nat) (f : Execution → World) : World :=
  match w.execution? id with
  | some e => f e
  | none => w

section Steps

variable [PyText]

/-- `UUID(inputs["asset_id"])`. -/
def taskAssetId (task : Task) : Except HandlerError Uuid :=
  match task.inputData.get? "asset_id" with
  | none => .error .keyError
  | some (.str raw) => orRaise (uuidOf raw) .valueError
  | some _ => .error .attributeError

/-- The two dispatch handlers up to their provider call; other skills are not followed here. -/
def beginHandler (db : Db) (secret : String) (task : Task) (now : Int) : Option Phase :=
  if task.skillName = "distribution.dispatch_email" then
    some (match taskAssetId task with
      | .error error => .raised error
      | .ok assetId => match beginEmail db secret assetId now with
        | .error error => .raised error
        | .ok none => .returned
        | .ok (some plan) => .begunEmail plan)
  else if task.skillName = "distribution.dispatch_social" then
    some (match taskAssetId task with
      | .error error => .raised error
      | .ok assetId => match beginSocial db assetId with
        | .error error => .raised error
        | .ok none => .returned
        | .ok (some plan) => .begunSocial plan)
  else none

/-- A handler raises, returns early, or has a plan to call the provider with. -/
theorem beginHandler_cases {db : Db} {secret : String} {task : Task} {now : Int} {phase : Phase}
    (begun : beginHandler db secret task now = some phase) :
    (∃ error, phase = .raised error) ∨ ∃ assetId, taskAssetId task = .ok assetId ∧
      (phase = .returned ∧ (beginEmail db secret assetId now = .ok none ∨ beginSocial db assetId = .ok none) ∨
        (∃ plan, beginEmail db secret assetId now = .ok (some plan) ∧ phase = .begunEmail plan) ∨
        ∃ plan, beginSocial db assetId = .ok (some plan) ∧ phase = .begunSocial plan) := by
  unfold beginHandler at begun
  split at begun
  · cases Option.some.inj begun
    split
    · exact Or.inl ⟨_, rfl⟩
    · rename_i assetId named
      split
      · exact Or.inl ⟨_, rfl⟩
      · rename_i planned
        exact Or.inr ⟨assetId, named, Or.inl ⟨rfl, Or.inl planned⟩⟩
      · rename_i plan planned
        exact Or.inr ⟨assetId, named, Or.inr (Or.inl ⟨plan, planned, rfl⟩)⟩
  · split at begun
    · cases Option.some.inj begun
      split
      · exact Or.inl ⟨_, rfl⟩
      · rename_i assetId named
        split
        · exact Or.inl ⟨_, rfl⟩
        · rename_i planned
          exact Or.inr ⟨assetId, named, Or.inl ⟨rfl, Or.inr planned⟩⟩
        · rename_i plan planned
          exact Or.inr ⟨assetId, named, Or.inr (Or.inr ⟨plan, planned, rfl⟩)⟩
    · cases begun

def stoppedAt (db : Db) (phase : Phase) : Bool :=
  match phase.loaded with
  | some (_, c) => db.stopped c.id
  | none => false

def beginStep (w : World) (secret : String) (now : Int) (e : Execution) : World :=
  match e.phase with
  | .claimed =>
    match beginHandler w.db secret e.task now with
    | some phase => w.replace { e with phase := phase, startedStopped := stoppedAt w.db phase }
    | none => w
  | _ => w

def callStep (w : World) (answer : SendgridResponse) (social : SocialAnswer) (batchId : Uuid) (e : Execution) : World :=
  match e.phase with
  | .begunEmail plan =>
    let outcome := callEmail w.db plan answer batchId
    { w.replace { e with phase := .calledEmail plan outcome } with
      accepted := MarketingAgents.acceptedSends plan outcome ++ w.accepted
      calls := if emailCalled outcome then ⟨plan.asset.id, e.startedStopped⟩ :: w.calls else w.calls }
  | .begunSocial plan =>
    match lookUpSocial w.db plan with
    | some outcome => w.replace { e with phase := .calledSocial plan outcome }
    | none => w.replace { e with phase := .checkedSocial plan }
  | .checkedSocial plan =>
    { w.replace { e with phase := .calledSocial plan (publishSocial social) } with
      calls := ⟨plan.asset.id, e.startedStopped⟩ :: w.calls }
  | _ => w

/-- The handler's remaining writes and the commit of its transaction. -/
def finishHandler (db : Db) (now : Int) : Phase → Option (Except HandlerError Db)
  | .calledEmail plan outcome => some (finishEmail db plan outcome now)
  | .calledSocial plan outcome => some (finishSocial db plan outcome now)
  | _ => none

def commitStep (w : World) (now : Int) (e : Execution) : World :=
  match finishHandler w.db now e.phase with
  | some (.ok db) => { w.replace { e with phase := .returned } with db := db }
  | some (.error error) => w.replace { e with phase := .raised error }
  | none => w

/-- The handler has ended, or the skill is one that is not followed here. -/
def ended (e : Execution) : Bool :=
  match e.phase with
  | .returned | .raised _ => true
  | .claimed => e.task.skillName ≠ "distribution.dispatch_email" && e.task.skillName ≠ "distribution.dispatch_social"
  | _ => false

def failTask (tasks : List Task) (taskId : Uuid) (error : String) (permanent : Bool) (draw : Fin (2 ^ 53)) (now : Int) :
    List Task :=
  match Queue.fail tasks taskId error permanent draw now with
  | .ok tasks => tasks
  | .error _ => tasks

def step (w : World) : WorldOp → World
  | .claim workerId leaseSeconds tie now =>
    match Queue.claimNext w.db.tasks workerId leaseSeconds tie now with
    | (tasks, some t) =>
      { w.setTasks tasks with
        executions := ⟨w.nextExecution, t, .claimed, false⟩ :: w.executions
        nextExecution := w.nextExecution + 1 }
    | (_, none) => w
  | .begin id secret now => w.within id (w.beginStep secret now)
  | .call id answer social batchId => w.within id (w.callStep answer social batchId)
  | .commit id now => w.within id (w.commitStep now)
  | .abort id error => w.within id fun e =>
    if e.phase.loaded.isSome then w.replace { e with phase := .raised error } else w
  | .crash id => w.remove id
  | .complete id outputData now => w.within id fun e =>
    if ended e then (w.remove id).setTasks (Queue.complete w.db.tasks e.task.id outputData now) else w
  | .fail id error permanent draw now => w.within id fun e =>
    if ended e then (w.remove id).setTasks (failTask w.db.tasks e.task.id error permanent draw now) else w
  | .reap now => w.setTasks (Queue.reapExpiredLeases w.db.tasks now).1
  | .enqueue args now => { w with db := orKeep w.db (w.db.enqueue args now) }
  | .operate op now => if op.dispatches then w else { w with db := op.run w.db now }

end Steps

end World

namespace Sample

/-- A tenant that mails, whose first campaign will have an accepted proposal with one email. -/
def tenant : Db :=
  { planned with
    credentials := [⟨1, none, "sendgrid", [("api_key", .str "key"), ("default_from_email", .str "news@shop.io")]⟩] }

/-- The campaign is launched: its email, asset 3, is scheduled for one member. -/
def launched : List WorldOp :=
  [.operate (.createCampaign manager launch) 1,
    .operate (.assistant manager (.synthesiseAudience 0 [("ann", [("email", .str "ann@mail.io")])])) 2,
    .operate (.applyTransition manager .manager 0 "set_strategy") 3,
    .operate (.applyTransition manager .manager 0 "start_content") 4,
    .claim "w1" 300 0 5,
    .operate (.generateAsset 3 (draft [])) 5,
    .complete 0 [] 5,
    .operate (.approveAsset manager 3 {}) 6]

/-- The worker claims the dispatch of asset 3 and its call is accepted. -/
def mailed : List WorldOp :=
  [.claim "w1" 300 0 7, .begin 1 "secret" 7, .call 1 (.response 202 "" "m1") (.posted "unused") 90]

end Sample

end MarketingAgents
