import MarketingAgents.Api.Strategy
import MarketingAgents.Content.Hooks

namespace MarketingAgents

open Lib PyText Queue

section Slots

variable [PyText] {db db' : Db}

/-- The task is a dispatch of the asset. -/
def SendTask (t : Task) (a : ContentAsset) : Prop :=
  dispatchSkillFor a.assetType = some t.skillName ∧ t.inputData.get? "asset_id" = some (.str (uuidStr a.id))

instance (t : Task) (a : ContentAsset) : Decidable (SendTask t a) :=
  inferInstanceAs (Decidable (dispatchSkillFor a.assetType = some t.skillName ∧
    t.inputData.get? "asset_id" = some (.str (uuidStr a.id))))

theorem SendTask.same_asset {t : Task} {a b : ContentAsset} (left : SendTask t a) (right : SendTask t b) :
    a.id = b.id := by
  have same : uuidStr a.id = uuidStr b.id := by simpa using left.2.symm.trans right.2
  exact uuidStr_injective same

/-- Scheduled assets have a slot, their pending dispatches are due then, and
nothing approved has one yet. -/
structure TaskSlots (db : Db) : Prop where
  ids : (db.assets.map ContentAsset.id).Nodup
  dated : ∀ a ∈ db.assets, a.status = .scheduled → a.scheduledAt.isSome = true
  none : ∀ t ∈ db.tasks, waiting t = true → ∀ a ∈ db.assets, SendTask t a → a.status ≠ .approved
  due : ∀ t ∈ db.tasks, waiting t = true → ∀ a ∈ db.assets, SendTask t a → a.status = .scheduled →
    a.scheduledAt = some t.scheduledFor

theorem TaskSlots.congr (holds : TaskSlots db) (assets : db'.assets = db.assets) (tasks : db'.tasks = db.tasks) :
    TaskSlots db' := by
  refine ⟨?_, ?_, ?_, ?_⟩
  · rw [assets]
    exact holds.ids
  · rw [assets]
    exact holds.dated
  · rw [assets, tasks]
    exact holds.none
  · rw [assets, tasks]
    exact holds.due

/-- One row is replaced, and the tasks that are added dispatch it at its slot. -/
theorem TaskSlots.replace (holds : TaskSlots db) {a new : ContentAsset} {tasks : List Task} (here : a ∈ db.assets)
    (sameId : new.id = a.id) (sameType : new.assetType = a.assetType) (pending : new.status ≠ .approved)
    (slot : new.status = .scheduled → new.scheduledAt.isSome = true)
    (kept : new.status = .scheduled → a.status = .approved ∨ a.status = .scheduled ∧ new.scheduledAt = a.scheduledAt)
    (assets : db'.assets = db.assets.map fun b => if b = a then new else b) (grown : db'.tasks = db.tasks ++ tasks)
    (added : ∀ t ∈ tasks, SendTask t a ∧ new.scheduledAt = some t.scheduledFor) : TaskSlots db' := by
  have rows : ∀ b' ∈ db'.assets, b' = new ∨ b' ∈ db.assets ∧ b' ≠ a := by
    intro b' member
    obtain ⟨b, there, value⟩ := List.mem_map.mp (assets ▸ member)
    by_cases same : b = a
    · exact Or.inl (by rw [← value, if_pos same])
    · rw [if_neg same] at value
      exact Or.inr (value ▸ ⟨there, same⟩)
  have others : ∀ b ∈ db.assets, b ≠ a → ∀ t ∈ tasks, ¬ SendTask t b := by
    intro b there differs t listed sent
    exact differs (eq_of_key_eq holds.ids there here (sent.same_asset (added t listed).1))
  have onto : ∀ t, SendTask t new → SendTask t a := by
    intro t sent
    exact ⟨sameType ▸ sent.1, sameId ▸ sent.2⟩
  refine ⟨?_, fun b' member scheduled => ?_, fun t listed waits b' member sent => ?_,
    fun t listed waits b' member sent scheduled => ?_⟩
  · rw [assets, List.map_map]
    have same : db.assets.map (ContentAsset.id ∘ fun b => if b = a then new else b) =
        db.assets.map ContentAsset.id := by
      refine List.map_congr_left fun b _ => ?_
      by_cases equal : b = a
      · simp [equal, sameId]
      · simp [equal]
    exact same ▸ holds.ids
  · rcases rows b' member with rfl | ⟨there, _⟩
    · exact slot scheduled
    · exact holds.dated b' there scheduled
  · rcases rows b' member with rfl | ⟨there, differs⟩
    · exact pending
    · rcases List.mem_append.mp (grown ▸ listed) with old | fresh
      · exact holds.none t old waits b' there sent
      · exact absurd sent (others b' there differs t fresh)
  · rcases rows b' member with rfl | ⟨there, differs⟩
    · rcases List.mem_append.mp (grown ▸ listed) with old | fresh
      · rcases kept scheduled with approved | ⟨before, same⟩
        · exact absurd approved (holds.none t old waits a here (onto t sent))
        · rw [same]
          exact holds.due t old waits a here (onto t sent) before
      · exact (added t fresh).2
    · rcases List.mem_append.mp (grown ▸ listed) with old | fresh
      · exact holds.due t old waits b' there sent scheduled
      · exact absurd sent (others b' there differs t fresh)

theorem pickSlot_isSome (db : Db) (now : Int) (a : ContentAsset) : (pickSlot db now a).scheduledAt.isSome = true := by
  unfold pickSlot
  split
  · split <;> rfl
  · rfl

theorem scheduledRow_scheduledAt (db : Db) (now : Int) (a : ContentAsset) :
    (scheduledRow db now a).scheduledAt = (pickSlot db now a).scheduledAt := by
  unfold scheduledRow
  dsimp only
  split <;> rfl

/-- An asset whose touchpoint lies ahead is scheduled for it. -/
theorem pickSlot_ahead {now : Int} {a : ContentAsset} {tp : StrategyTouchpoint} (linked : touchpointFor db a = some tp)
    (ahead : now < tp.scheduledAt) : (pickSlot db now a).scheduledAt = some tp.scheduledAt := by
  unfold pickSlot
  rw [linked]
  simp only [if_pos ahead.le]

section Hooks

variable {c : Campaign} {agentId : Uuid} {now : Int} {mid next : Db} {a : ContentAsset}

theorem scheduleAsset_taskSlots (holds : TaskSlots mid) (here : a ∈ mid.assets) (approved : a.status = .approved)
    (done : scheduleAsset c agentId now mid a = .ok next) :
    TaskSlots next ∧ next.assets = mid.assets.map fun b => if b = a then scheduledRow mid now a else b := by
  have traced := scheduledRow_traced mid now a
  have status := scheduledRow_status mid now a
  have dated : (scheduledRow mid now a).scheduledAt.isSome = true := by
    rw [scheduledRow_scheduledAt]
    exact pickSlot_isSome mid now a
  have rows := setAsset_assets holds.ids here traced.id
  have pending : (scheduledRow mid now a).status ≠ .approved := by
    rw [status]
    decide
  have replaced : ∀ {tasks : List Task}, next.assets = (mid.assets.map fun b => if b = a then scheduledRow mid now a else b) →
      next.tasks = mid.tasks ++ tasks →
      (∀ t ∈ tasks, SendTask t a ∧ (scheduledRow mid now a).scheduledAt = some t.scheduledFor) → TaskSlots next :=
    holds.replace here traced.id traced.assetType pending (fun _ => dated) (fun _ => Or.inl approved)
  unfold scheduleAsset at done
  dsimp only at done
  split at done
  · cases Except.ok.inj done
    exact ⟨replaced rows (List.append_nil _).symm (fun t member => by cases member), rows⟩
  · rename_i skill mapped
    have value := enqueue_eq rfl done
    have assets : next.assets = mid.assets.map fun b => if b = a then scheduledRow mid now a else b := by
      rw [value]
      exact rows
    refine ⟨replaced assets (by rw [value]; rfl) fun t member => ?_, assets⟩
    rw [List.mem_singleton.mp member]
    refine ⟨⟨mapped, ?_⟩, ?_⟩
    · rw [← traced.id]
      rfl
    · obtain ⟨slot, found⟩ := Option.isSome_iff_exists.mp dated
      rw [found]
      simp only [newTask, dispatchTask, Option.getD_some]

theorem resumeAsset_taskSlots (holds : TaskSlots mid) (here : a ∈ mid.assets) (scheduled : a.status = .scheduled)
    (done : resumeAsset c agentId now mid a = .ok next) : TaskSlots next := by
  obtain ⟨_, assets⟩ := resumeAsset_assets holds.ids here done
  unfold resumeAsset at done
  split at done
  · rename_i late
    rw [if_pos (show elapsed now a = true from decide_eq_true late)] at assets
    have failed : (elapsedRow now a).status = .failed := rfl
    have traced := elapsedRow_traced now a
    cases Except.ok.inj done
    refine holds.replace here traced.id traced.assetType ?_ (fun still => ?_) (fun still => ?_) assets
      (List.append_nil _).symm fun t member => by cases member
    · rw [failed]
      decide
    · rw [failed] at still
      cases still
    · rw [failed] at still
      cases still
  · rename_i timely
    rw [if_neg (show ¬ elapsed now a = true from fun late => timely (of_decide_eq_true late))] at assets
    split at done
    · cases Except.ok.inj done
      exact holds
    · rename_i skill mapped
      have dated := holds.dated a here scheduled
      refine holds.replace here rfl rfl (by rw [scheduled]; decide) (fun _ => dated) (fun _ => Or.inr ⟨scheduled, rfl⟩)
        assets (by rw [enqueue_eq rfl done]) fun t member => ?_
      rw [List.mem_singleton.mp member]
      refine ⟨⟨mapped, rfl⟩, ?_⟩
      obtain ⟨slot, found⟩ := Option.isSome_iff_exists.mp dated
      rw [found]
      simp only [newTask, dispatchTask, Option.getD_some]

/-- A launch schedules the approved assets of the campaign and leaves the calendar alone. -/
theorem scheduleApprovedAssets_taskSlots (holds : TaskSlots db) (done : scheduleApprovedAssets db c now = .ok db') :
    TaskSlots db' ∧ SameSide db db' ∧ db'.assets = db.assets.map fun a =>
      if a ∈ (db.campaignAssets c.id).filter (·.status = .approved) then scheduledRow db now a else a := by
  simp only [scheduleApprovedAssets] at done
  split at done
  · rename_i none
    cases Except.ok.inj done
    exact ⟨holds, .refl db, by simp [none]⟩
  · have core := sameCore_ensureAgent db c.tenantId .channelDistribution
    obtain ⟨⟨side, slots⟩, assets⟩ := foldlM_rows (g := scheduledRow db now)
      (I := fun mid => SameSide db mid ∧ TaskSlots mid) (fun a => (scheduledRow_traced db now a).id)
      (fun a member mid next kept _ here pass => by
        have approved : a.status = .approved := of_decide_eq_true (List.mem_filter.mp member).2
        obtain ⟨slots, value⟩ := scheduleAsset_taskSlots kept.2 here approved pass
        refine ⟨⟨kept.1.trans (scheduleAsset_assets pass).1, slots⟩, ?_⟩
        rw [value, scheduledRow_congr kept.1.touchpoints])
      (holds.ids.sublist ((List.filter_sublist.trans List.filter_sublist).map _)) (core.assets.symm ▸ holds.ids)
      (fun a member => core.assets.symm ▸ (campaignRows_mem member).1)
      ⟨.ensureAgent db c.tenantId .channelDistribution, holds.congr core.assets core.tasks⟩ done
    rw [core.assets] at assets
    exact ⟨slots, side, assets⟩

/-- A resumption fails the scheduled assets whose slot has passed and queues the others again. -/
theorem resumeDistributionForCampaign_taskSlots (holds : TaskSlots db)
    (done : resumeDistributionForCampaign db c now = .ok db') :
    TaskSlots db' ∧ SameSide db db' ∧ db'.assets = db.assets.map fun a =>
      if a ∈ (db.campaignAssets c.id).filter (·.status = .scheduled) then
        (if elapsed now a then elapsedRow now a else a) else a := by
  simp only [resumeDistributionForCampaign] at done
  split at done
  · rename_i none
    cases Except.ok.inj done
    exact ⟨holds, .refl db, by simp [none]⟩
  · have core := sameCore_ensureAgent db c.tenantId .channelDistribution
    have sameId : ∀ a, (if elapsed now a then elapsedRow now a else a).id = a.id := by
      intro a
      split
      · exact (elapsedRow_traced now a).id
      · rfl
    obtain ⟨⟨side, slots⟩, assets⟩ := foldlM_rows (g := fun a => if elapsed now a then elapsedRow now a else a)
      (I := fun mid => SameSide db mid ∧ TaskSlots mid) sameId
      (fun a member mid next kept midIds here pass => by
        have scheduled : a.status = .scheduled := of_decide_eq_true (List.mem_filter.mp member).2
        obtain ⟨same, value⟩ := resumeAsset_assets midIds here pass
        exact ⟨⟨kept.1.trans same, resumeAsset_taskSlots kept.2 here scheduled pass⟩, value⟩)
      (holds.ids.sublist ((List.filter_sublist.trans List.filter_sublist).map _)) (core.assets.symm ▸ holds.ids)
      (fun a member => core.assets.symm ▸ (campaignRows_mem member).1)
      ⟨.ensureAgent db c.tenantId .channelDistribution, holds.congr core.assets core.tasks⟩ done
    rw [core.assets] at assets
    exact ⟨slots, side, assets⟩

end Hooks

/-- The scheduled assets whose touchpoint lies ahead are scheduled for it, and
so are their pending dispatches. -/
def FollowsCalendar (now : Int) (db : Db) : Prop :=
  ∀ a ∈ db.assets, a.status = .scheduled → ∀ tp ∈ touchpointFor db a, now < tp.scheduledAt →
    a.scheduledAt = some tp.scheduledAt ∧
      ∀ t ∈ db.tasks, waiting t = true → SendTask t a → t.scheduledFor = tp.scheduledAt

/-- The part of it that is about the assets. -/
def AssetsFollow (now : Int) (db : Db) : Prop :=
  ∀ a ∈ db.assets, a.status = .scheduled → ∀ tp ∈ touchpointFor db a, now < tp.scheduledAt →
    a.scheduledAt = some tp.scheduledAt

theorem AssetsFollow.tasks {now : Int} (follow : AssetsFollow now db) (slots : TaskSlots db) : FollowsCalendar now db := by
  intro a member scheduled tp linked ahead
  have copied := follow a member scheduled tp linked ahead
  refine ⟨copied, fun t listed waits sent => ?_⟩
  have due := slots.due t listed waits a member sent scheduled
  exact Option.some.inj (due.symm.trans copied)

theorem AssetsFollow.later {clock now : Int} (follow : AssetsFollow clock db) (later : clock ≤ now) : AssetsFollow now db :=
  fun a member scheduled tp linked ahead => follow a member scheduled tp linked (by omega)

theorem touchpointIdFor_traced {a b : ContentAsset} (traced : Traced a b) : touchpointIdFor b = touchpointIdFor a := by
  unfold touchpointIdFor
  rw [traced.touchpoint]

theorem touchpointFor_congr {a b : ContentAsset} (rows : db'.touchpoints = db.touchpoints)
    (same : touchpointIdFor b = touchpointIdFor a) : touchpointFor db' b = touchpointFor db a := by
  unfold touchpointFor
  rw [rows, same]

/-- What a transition leaves scheduled was so before, or has its slot from the calendar. -/
theorem AssetsFollow.step {clock now : Int} (follow : AssetsFollow clock db) (later : clock ≤ now)
    (touchpoints : db'.touchpoints = db.touchpoints)
    (rows : ∀ a' ∈ db'.assets, a'.status = .scheduled → ∃ a ∈ db.assets, touchpointIdFor a' = touchpointIdFor a ∧
      (a.status = .scheduled ∧ a'.scheduledAt = a.scheduledAt ∨ a'.scheduledAt = (pickSlot db now a).scheduledAt)) :
    AssetsFollow now db' := by
  intro a' member scheduled tp linked ahead
  obtain ⟨a, here, sameLink, ⟨before, sameSlot⟩ | picked⟩ := rows a' member scheduled
  · rw [touchpointFor_congr touchpoints sameLink] at linked
    rw [sameSlot]
    exact follow a here before tp linked (by omega)
  · rw [touchpointFor_congr touchpoints sameLink] at linked
    rw [picked]
    exact pickSlot_ahead linked ahead

section Transitions

variable {c : Campaign} {clock now : Int}

theorem scheduleApprovedAssets_follow (slots : TaskSlots db) (follow : AssetsFollow clock db) (later : clock ≤ now)
    (done : scheduleApprovedAssets db c now = .ok db') : TaskSlots db' ∧ AssetsFollow now db' := by
  obtain ⟨slots', side, assets⟩ := scheduleApprovedAssets_taskSlots slots done
  refine ⟨slots', follow.step later side.touchpoints fun a' member scheduled => ?_⟩
  obtain ⟨a, here, value⟩ := List.mem_map.mp (assets ▸ member)
  split at value
  · subst value
    exact ⟨a, here, touchpointIdFor_traced (scheduledRow_traced db now a), Or.inr (scheduledRow_scheduledAt db now a)⟩
  · subst value
    exact ⟨a, here, rfl, Or.inl ⟨scheduled, rfl⟩⟩

theorem resumeDistributionForCampaign_follow (slots : TaskSlots db) (follow : AssetsFollow clock db) (later : clock ≤ now)
    (done : resumeDistributionForCampaign db c now = .ok db') : TaskSlots db' ∧ AssetsFollow now db' := by
  obtain ⟨slots', side, assets⟩ := resumeDistributionForCampaign_taskSlots slots done
  refine ⟨slots', follow.step later side.touchpoints fun a' member scheduled => ?_⟩
  obtain ⟨a, here, value⟩ := List.mem_map.mp (assets ▸ member)
  have unchanged : a' = a := by
    split at value
    · split at value
      · -- a row that failed is no longer scheduled
        subst value
        cases scheduled
      · exact value.symm
    · exact value.symm
  subst unchanged
  exact ⟨a', here, rfl, Or.inl ⟨scheduled, rfl⟩⟩

theorem cancelQueued_follow (slots : TaskSlots db) (follow : AssetsFollow clock db) (later : clock ≤ now)
    (campaignId : Uuid) : TaskSlots (db.cancelQueued campaignId now) ∧ AssetsFollow now (db.cancelQueued campaignId now) := by
  have old : ∀ t ∈ (db.cancelQueued campaignId now).tasks, waiting t = true → t ∈ db.tasks := by
    intro t listed waits
    rcases mem_updateWhere.mp listed with ⟨_, _, _, rfl⟩ | ⟨here, _⟩
    · cases waits
    · exact here
  refine ⟨⟨slots.ids, slots.dated, fun t listed waits => slots.none t (old t listed waits) waits,
    fun t listed waits => slots.due t (old t listed waits) waits⟩, ?_⟩
  exact fun a member scheduled tp linked ahead => follow.later later a member scheduled tp linked ahead

theorem writeStatus_follow (slots : TaskSlots db) (follow : AssetsFollow clock db) (id : Uuid) (status : CampaignStatus)
    (writer : Writer) : TaskSlots (db.writeStatus id status writer) ∧ AssetsFollow clock (db.writeStatus id status writer) := by
  have assets := writeStatus_assets db id status writer
  refine ⟨slots.congr assets (writeStatus_tasks ..), fun a member scheduled tp linked ahead => ?_⟩
  rw [touchpointFor_congr (writeStatus_calendar db id status writer).1 rfl] at linked
  exact follow a (assets ▸ member) scheduled tp linked ahead

end Transitions

/-- The transitions that move what is scheduled. -/
inductive LaunchStep where
  | startLaunch
  | pause
  | resume
deriving DecidableEq

namespace LaunchStep

def name : LaunchStep → String
  | .startLaunch => "start_launch"
  | .pause => "pause"
  | .resume => "resume"

def hook : LaunchStep → OnEnter
  | .startLaunch => .scheduleApprovedAssets
  | .pause => .cancelQueuedOnPause
  | .resume => .resumeDistribution

omit [PyText] in
theorem hook_registered (step : LaunchStep) : ∀ tr ∈ campaignSm, tr.name = step.name → tr.onEnter = some step.hook := by
  cases step <;> decide

theorem apply_follow {c : Campaign} {clock now : Int} (slots : TaskSlots db) (follow : AssetsFollow clock db)
    (later : clock ≤ now) {step : LaunchStep} (done : apply db c step.name now = .ok db') :
    TaskSlots db' ∧ AssetsFollow now db' := by
  obtain ⟨tr, registered, _, named, _, entered⟩ := apply_eq_ok done
  rw [step.hook_registered tr registered named] at entered
  obtain ⟨written, dated⟩ := writeStatus_follow slots follow c.id tr.toState (.transition step.name)
  cases step with
  | startLaunch => exact scheduleApprovedAssets_follow written dated later entered
  | pause =>
    cases Except.ok.inj entered
    exact cancelQueued_follow written dated later c.id
  | resume => exact resumeDistributionForCampaign_follow written dated later entered

end LaunchStep

/-- The tables with the time of the last request. -/
structure Timed where
  db : Db
  clock : Int

/-- The requests that a slot passes through. -/
inductive SlotOp where
  | transition (step : LaunchStep) (user : AppUser) (minimum : UserRole) (campaignId : Uuid)
  | pauseHelper (campaignId : Uuid)
  | patch (user : AppUser) (touchpointId : Uuid) (body : TouchpointPatch)

namespace SlotOp

variable (constraints : List TenantConstraint)

def request (db : Db) (now : Int) : SlotOp → Except AppError Db
  | .transition step user minimum campaignId => applyTransition db user minimum campaignId step.name now
  | .pauseHelper campaignId =>
    match db.campaign? campaignId with
    | some c => .ok (pauseCampaign db c now)
    | none => .ok db
  | .patch user touchpointId body => patchTouchpoint constraints db user touchpointId body

/-- A request some time after the last one. One that raises is rolled back. -/
def step (w : Timed) (op : SlotOp × Nat) : Timed :=
  ⟨(op.1.request constraints w.db (w.clock + op.2)).toOption.getD w.db, w.clock + op.2⟩

/-- A drag that is accepted moves the touchpoint to a time that is over, or
to where its scheduled assets already are. -/
def Clean (w : Timed) (op : SlotOp × Nat) : Prop :=
  match op.1 with
  | .transition .. | .pauseHelper .. => True
  | .patch user touchpointId body =>
    (patchTouchpoint constraints w.db user touchpointId body).toOption.isSome = true →
      w.clock + op.2 < body.scheduledAt → ∀ a ∈ w.db.assets, a.status = .scheduled →
        touchpointIdFor a = some touchpointId → a.scheduledAt = some body.scheduledAt

instance : ∀ (w : Timed) (op : SlotOp × Nat), Decidable (Clean constraints w op)
  | _, (.transition .., _) | _, (.pauseHelper .., _) => inferInstanceAs (Decidable True)
  | w, (.patch user touchpointId body, wait) =>
    inferInstanceAs (Decidable ((patchTouchpoint constraints w.db user touchpointId body).toOption.isSome = true →
      w.clock + wait < body.scheduledAt → ∀ a ∈ w.db.assets, a.status = .scheduled →
        touchpointIdFor a = some touchpointId → a.scheduledAt = some body.scheduledAt))

/-- What a step leaves behind follows the calendar from then on. -/
def LeavesInStep (w : Timed) (op : SlotOp × Nat) : Prop :=
  ∀ now, (step constraints w op).clock ≤ now → FollowsCalendar now (step constraints w op).db

variable {constraints}

theorem patch_effect {user : AppUser} {touchpointId : Uuid} {body : TouchpointPatch}
    (done : patchTouchpoint constraints db user touchpointId body = .ok db') :
    (db.touchpoints.find? (·.id = touchpointId)).isSome = true ∧ db'.assets = db.assets ∧ db'.tasks = db.tasks ∧
      ∀ a, touchpointFor db' a = (touchpointFor db a).map fun row =>
        if row.id = touchpointId then { row with scheduledAt := body.scheduledAt } else row := by
  obtain ⟨tp, p, c, found, _, _, rfl, _⟩ := patchTouchpoint_cases done
  have sameId : tp.id = touchpointId := by simpa using List.find?_some found
  refine ⟨by rw [found]; rfl, rfl, rfl, fun a => ?_⟩
  unfold touchpointFor
  cases touchpointIdFor a with
  | none => rfl
  | some id =>
    have rows := find?_updateWhere (p := fun row => decide (row.id = tp.id)) (q := fun row => decide (row.id = id))
      (f := fun row => { row with scheduledAt := body.scheduledAt }) db.touchpoints fun _ _ => rfl
    simp only [sameId, decide_eq_true_eq] at rows
    simp only [Option.bind_some, sameId]
    exact rows

/-- A request keeps slots and dispatches together, and leaves the assets where
the calendar has them if it is no drag, or a permitted one. -/
theorem step_follow {w : Timed} (slots : TaskSlots w.db) (follow : AssetsFollow w.clock w.db) {op : SlotOp × Nat}
    (clean : Clean constraints w op) :
    TaskSlots (step constraints w op).db ∧ AssetsFollow (step constraints w op).clock (step constraints w op).db := by
  have later : w.clock ≤ w.clock + op.2 := by omega
  obtain ⟨op, wait⟩ := op
  cases outcome : op.request constraints w.db (w.clock + wait) with
  | error error =>
    simp only [step, outcome, Except.toOption, Option.getD_none]
    exact ⟨slots, follow.later later⟩
  | ok db' =>
    simp only [step, outcome, Except.toOption, Option.getD_some]
    cases op with
    | transition name user minimum campaignId =>
      simp only [request, applyTransition, bind_eq_ok, orRaise_eq_ok] at outcome
      obtain ⟨_, _, c, _, applied⟩ := outcome
      exact LaunchStep.apply_follow slots follow later applied
    | pauseHelper campaignId =>
      simp only [request] at outcome
      split at outcome
      · rename_i c found
        cases Except.ok.inj outcome
        unfold pauseCampaign
        split
        · exact ⟨slots, follow.later later⟩
        · obtain ⟨written, dated⟩ := writeStatus_follow slots follow c.id .paused .pauseHelper
          exact cancelQueued_follow written dated later c.id
      · cases Except.ok.inj outcome
        exact ⟨slots, follow.later later⟩
    | patch user touchpointId body =>
      obtain ⟨_, assets, tasks, moved⟩ := patch_effect outcome
      have accepted : (patchTouchpoint constraints w.db user touchpointId body).toOption.isSome = true := by
        rw [show patchTouchpoint constraints w.db user touchpointId body = .ok db' from outcome]
        rfl
      refine ⟨slots.congr assets tasks, fun a member scheduled tp' linked ahead => ?_⟩
      rw [assets] at member
      rw [moved a, Option.mem_map] at linked
      obtain ⟨tp, before, value⟩ := linked
      by_cases dragged : tp.id = touchpointId
      · rw [if_pos dragged] at value
        subst value
        have link : touchpointIdFor a = some touchpointId := by
          obtain ⟨id, named, found⟩ := Option.bind_eq_some_iff.mp before
          have same : tp.id = id := by simpa using List.find?_some found
          rw [named, ← same, dragged]
        exact clean accepted ahead a member scheduled link
      · rw [if_neg dragged] at value
        subst value
        exact follow a member scheduled tp before (by omega)

/-- A step that leaves the assets where the calendar has them was permitted. -/
theorem clean_of_leavesInStep {w : Timed} {op : SlotOp × Nat} (leaves : LeavesInStep constraints w op) :
    Clean constraints w op := by
  obtain ⟨op, wait⟩ := op
  cases op with
  | transition name user minimum campaignId => trivial
  | pauseHelper campaignId => trivial
  | patch user touchpointId body =>
    intro accepted ahead a member scheduled link
    cases outcome : patchTouchpoint constraints w.db user touchpointId body with
    | error error => simp [outcome, Except.toOption] at accepted
    | ok db' =>
      obtain ⟨stored, assets, _, moved⟩ := patch_effect outcome
      obtain ⟨tp, found⟩ := Option.isSome_iff_exists.mp stored
      have sameId : tp.id = touchpointId := by simpa using List.find?_some found
      have reached : (step constraints w (.patch user touchpointId body, wait)).db = db' := by
        simp only [step, request, outcome, Except.toOption, Option.getD_some]
      have before : touchpointFor w.db a = some tp := by
        rw [touchpointFor, link]
        exact found
      have linked : { tp with scheduledAt := body.scheduledAt } ∈ touchpointFor db' a := by
        rw [moved a, before]
        simp [sameId]
      have follows := leaves (w.clock + wait) le_rfl
      rw [reached] at follows
      exact (follows a (assets.symm ▸ member) scheduled _ linked ahead).1

/-- Where nothing is scheduled yet: after any launches, pauses, resumptions and
drags the slots of the scheduled assets and their dispatches are those of the
calendar, exactly as long as every drag is one that they need not follow. -/
theorem slots_follow_calendar_iff (w : Timed) (ids : (w.db.assets.map ContentAsset.id).Nodup)
    (start : ∀ a ∈ w.db.assets, a.status ≠ .scheduled)
    (idle : ∀ t ∈ w.db.tasks, waiting t = true → ∀ a ∈ w.db.assets, ¬ SendTask t a) (ops : List (SlotOp × Nat)) :
    Along (step constraints) (LeavesInStep constraints) w ops ↔ Along (step constraints) (Clean constraints) w ops := by
  constructor
  · intro leaves
    exact leaves.imp (I := fun _ => True) trivial (fun _ _ _ _ => trivial) fun _ _ _ leaves => clean_of_leavesInStep leaves
  · intro clean
    have initially : TaskSlots w.db ∧ AssetsFollow w.clock w.db := by
      refine ⟨⟨ids, fun a member scheduled => absurd scheduled (start a member), fun t listed waits a member sent =>
        absurd sent (idle t listed waits a member), fun t listed waits a member sent =>
        absurd sent (idle t listed waits a member)⟩, fun a member scheduled => absurd scheduled (start a member)⟩
    refine clean.imp (I := fun w => TaskSlots w.db ∧ AssetsFollow w.clock w.db) initially
      (fun _ _ holds clean => step_follow holds.1 holds.2 clean) fun _ _ holds clean now later => ?_
    obtain ⟨slots, follow⟩ := step_follow holds.1 holds.2 clean
    exact (follow.later later).tasks slots

end SlotOp

end Slots

namespace SlotOp

local instance slotsText : PyText := PyText.plain

private def owner : AppUser := ⟨9, 1, .manager⟩

private def newsletter : ContentAsset where
  id := 5
  tenantId := 1
  campaignId := 0
  assetType := .email
  status := .approved
  extraMetadata := [("touchpoint_id", .str "111")]

/-- A campaign that is ready to launch, with one email planned for the time 1000. -/
private def approved : Timed where
  db :=
    { campaigns := [⟨0, 1, "spring", .approvalPending, 100, "EUR", 0, 27, [], none⟩]
      assets := [newsletter]
      proposals := [⟨2, 0, 1, [], true⟩]
      touchpoints := [⟨3, 2, "email", 0, 1000⟩]
      nextId := 10 }
  clock := 10

private def launched (op : LaunchStep) : SlotOp := .transition op owner .manager 0

theorem slots_follow_calendar_iff_resumed :
    Along (step []) (LeavesInStep []) approved
      [(launched .startLaunch, 0), (launched .pause, 5), (launched .resume, 5), (.patch owner 3 ⟨1000, true⟩, 1),
        (.patch owner 3 ⟨20, true⟩, 1)] :=
  (slots_follow_calendar_iff approved (by decide) (by decide) (by decide) _).mpr (by decide +kernel)

/-- A drag after the launch moves the touchpoint alone: the asset and its task stay due at 1000. -/
theorem drag_leaves_slot_behind :
    let after := run (step []) approved [(launched .startLaunch, 0), (.patch owner 3 ⟨2000, true⟩, 1)]
    (after.db.touchpoints.map fun tp => tp.scheduledAt) = [2000] ∧
      (after.db.assets.map fun a => (a.status, a.scheduledAt)) = [(.scheduled, some 1000)] ∧
      (after.db.tasks.map fun t => (t.skillName, t.status, t.scheduledFor)) =
        [("distribution.dispatch_email", .queued, 1000)] ∧
      ¬ FollowsCalendar after.clock after.db := by
  refine ⟨by decide +kernel, by decide +kernel, by decide +kernel, fun follows => ?_⟩
  have linked := follows { newsletter with status := .scheduled, scheduledAt := some 1000 } (by decide +kernel) rfl
    ⟨3, 2, "email", 0, 2000⟩ (by decide +kernel) (by decide +kernel)
  exact absurd linked.1 (by decide)

end SlotOp

end MarketingAgents
