import MarketingAgents.Delivery.World

namespace MarketingAgents

open Lib PyText

/-- Why the handler of `content_creator.generate_asset` raises. -/
inductive CreatorFailure where
  | notConfigured
  | input (error : HandlerError)
  | generation (error : AppError)

/-- What one pass of `run_once` meets: the arguments of its calls, and what
other processes commit between its three transactions. -/
structure Pass where
  workerId : String
  leaseSeconds : Int := 300
  tie : Nat := 0
  claimedAt : Int
  whileClaimed : List (Op × Int) := []
  whileEnded : List (Op × Int) := []
  error : String := ""
  draw : Fin (2 ^ 53) := 0
  endedAt : Int

section RunOnce

variable [PyText]

/-- A handler: its session when it ends, and what it returns or raises. -/
abbrev Handler := Db → Task → Db × Except CreatorFailure (Dict String Json)

/-- `content_creator_generate_asset_handler`. -/
def contentCreatorGenerateAssetHandler (apiKey : Bool) (generation : Generation) (summary : Dict String Json) (now : Int) :
    Handler := fun db task =>
  if apiKey = false then (db, .error .notConfigured)
  else match World.taskAssetId task with
    | .error error => (db, .error (.input error))
    | .ok assetId => match generateAsset db assetId generation now with
      | (session, .ok ()) => (session, .ok summary)
      | (session, .error error) => (session, .error (.generation error))

/-- The pass's `claim_next`. -/
def Pass.claim (p : Pass) (db : Db) : List Task × Option Task :=
  Queue.claimNext db.tasks p.workerId p.leaseSeconds p.tie p.claimedAt

/-- What the transaction of the handler finds. -/
def Pass.found (p : Pass) (db : Db) : Db := Lib.run Content.step { db with tasks := (p.claim db).1 } p.whileClaimed

/-- `run_once`: the claim, the handler and the end of the task are transactions of their own, and an exception of
the handler rolls its transaction back. -/
def runOnce (getHandler : String → Option Handler) (db : Db) (p : Pass) : Db :=
  match (p.claim db).2 with
  | none => db
  | some task =>
    match getHandler task.skillName with
    | none =>
      let left := Lib.run Content.step (p.found db) p.whileEnded
      { left with tasks := World.failTask left.tasks task.id p.error true p.draw p.endedAt }
    | some handler =>
      match handler (p.found db) task with
      | (session, .ok output) =>
        let left := Lib.run Content.step session p.whileEnded
        { left with tasks := Queue.complete left.tasks task.id output p.endedAt }
      | (_, .error _) =>
        let left := Lib.run Content.step (p.found db) p.whileEnded
        { left with tasks := World.failTask left.tasks task.id p.error false p.draw p.endedAt }

/-- The platform by which `generate_asset` looks for a plan. -/
def ContentAsset.channelPlatform (a : ContentAsset) : String :=
  lower (str ((a.extraMetadata.get? "channel_platform").getD (.str "")))

/-- The status that a failed generation gives an asset. -/
def ContentAsset.failureStatus (a : ContentAsset) : AssetStatus :=
  if planForPlatform a.channelPlatform = none then .failed else .requested

/-- The stored asset is in the status of a failed generation. -/
def Failure (db : Db) (assetId : Uuid) : Prop := ∀ a, db.asset? assetId = some a → a.status = a.failureStatus

instance decidableFailure (db : Db) (assetId : Uuid) : Decidable (Failure db assetId) :=
  decidable_of_iff (∀ a ∈ db.asset? assetId, a.status = a.failureStatus) Iff.rfl

/-- A generation that fails leaves its asset in that status, in the session that is rolled back with it. -/
theorem generateAsset_marks {db : Db} {assetId : Uuid} {a : ContentAsset} {c : Campaign} (stored : db.asset? assetId = some a)
    (campaign : db.campaign? a.campaignId = some c) (message : String) (now : Int) :
    (generateAsset db assetId (.raised message) now).1 = db.setAsset { a with status := a.failureStatus } ∧
      (generateAsset db assetId (.raised message) now).2 ≠ .ok () := by
  cases plan : planForPlatform a.channelPlatform with
  | none =>
    have status : a.failureStatus = .failed := if_pos plan
    unfold ContentAsset.channelPlatform at plan
    simp [generateAsset, stored, campaign, plan, status]
  | some mapped =>
    have status : a.failureStatus = .requested := if_neg (by simp [plan])
    unfold ContentAsset.channelPlatform at plan
    simp [generateAsset, stored, campaign, plan, status]

/-- After a pass whose handler raised, the assets are those that the other processes alone have left. -/
theorem runOnce_rolls_back {getHandler : String → Option Handler} {db : Db} {p : Pass} {task : Task} {handler : Handler}
    {error : CreatorFailure} (claimed : (p.claim db).2 = some task)
    (registered : getHandler task.skillName = some handler) (raised : (handler (p.found db) task).2 = .error error)
    (assetId : Uuid) :
    (runOnce getHandler db p).asset? assetId = (Lib.run Content.step (p.found db) p.whileEnded).asset? assetId := by
  have ended : handler (p.found db) task = ((handler (p.found db) task).1, .error error) := Prod.ext rfl raised
  rw [runOnce, claimed]
  dsimp only
  rw [registered]
  dsimp only
  rw [ended]
  rfl

/-- A pass whose handler raised leaves the asset in the status of a failed
generation exactly where the other processes alone leave it there. The worker rolls
the transaction of the handler back, and with it the status that the handler wrote
before it raised. -/
theorem failure_persisted_iff {getHandler : String → Option Handler} {db : Db} {p : Pass} {task : Task} {apiKey : Bool}
    {generation : Generation} {summary : Dict String Json} {now : Int} {assetId : Uuid} {error : CreatorFailure}
    (claimed : (p.claim db).2 = some task)
    (registered : getHandler task.skillName = some (contentCreatorGenerateAssetHandler apiKey generation summary now))
    (raised : (contentCreatorGenerateAssetHandler apiKey generation summary now (p.found db) task).2 = .error error) :
    Failure (runOnce getHandler db p) assetId ↔
      Failure (Lib.run Content.step (p.found db) p.whileEnded) assetId := by
  have rolled := runOnce_rolls_back claimed registered raised assetId
  simp only [Failure, rolled]

end RunOnce

namespace FailedGenerations

local instance failedText : PyText := PyText.plain

open Sample

/-- While content is produced, an outreach email, asset 5, is drafted for the campaign and asked for anew. It names no
platform, and so has no plan. -/
def templateRegenerated : List (Op × Int) :=
  [(.createCampaign manager launch, 0),
    (.assistant manager (.synthesiseAudience 0 [("m", [])]), 1),
    (.applyTransition manager .manager 0 "set_strategy", 2),
    (.applyTransition manager .manager 0 "start_content", 3),
    (.assistant manager (.draftOutbound 0 1 false [(⟨"a", "A", 1⟩, "email", .fields "Hello" "We should talk")]), 4),
    (.regenerateAsset manager true 5, 5)]

/-- The content creator is the only handler; its generations go well. -/
def creator (skillName : String) : Option Handler :=
  if skillName = "content_creator.generate_asset" then
    some (contentCreatorGenerateAssetHandler true (draft []) [("status", .str "drafted")] 7)
  else none

/-- The seeded asset is drafted by a first pass, and the template is what the second pass finds in the queue. -/
def templateQueued : Db :=
  runOnce creator (Lib.run Content.step planned templateRegenerated) { workerId := "w", claimedAt := 6, endedAt := 8 }

def secondPass : Pass := { workerId := "w", claimedAt := 9, endedAt := 11 }

/-- The row without a plan stays `requested`, and its task waits for a retry. -/
theorem no_plan_leaves_requested :
    (templateQueued.asset? 5).map (planForPlatform ·.channelPlatform) = some none ∧
      ((runOnce creator templateQueued secondPass).asset? 5).map ContentAsset.status = some .requested ∧
      (runOnce creator templateQueued secondPass).tasks.map Task.status = [.succeeded, .awaitingRetry] ∧
      ¬ Failure (runOnce creator templateQueued secondPass) 5 :=
  ⟨by decide +kernel, by decide +kernel, by decide +kernel, by decide +kernel⟩

theorem failure_persisted_iff_template :
    Failure (runOnce creator templateQueued secondPass) 5 ↔
      Failure (Lib.run Content.step (secondPass.found templateQueued) []) 5 := by
  have claims : (secondPass.claim templateQueued).2.map Task.skillName = some "content_creator.generate_asset" := by
    decide +kernel
  have raises : ((secondPass.claim templateQueued).2.map fun t => (contentCreatorGenerateAssetHandler true (draft [])
      [("status", .str "drafted")] 7 (secondPass.found templateQueued) t).2.toOption.isNone) = some true := by
    decide +kernel
  obtain ⟨task, claimed, skill⟩ := Option.map_eq_some_iff.mp claims
  rw [claimed, Option.map_some, Option.some_inj] at raises
  have registered : creator task.skillName =
      some (contentCreatorGenerateAssetHandler true (draft []) [("status", .str "drafted")] 7) := by
    rw [creator, if_pos skill]
  cases result : (contentCreatorGenerateAssetHandler true (draft []) [("status", .str "drafted")] 7
      (secondPass.found templateQueued) task).2 with
  | ok output => simp [result, Except.toOption] at raises
  | error error => exact failure_persisted_iff (p := secondPass) claimed registered result

end FailedGenerations

end MarketingAgents
