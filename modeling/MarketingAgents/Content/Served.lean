import MarketingAgents.Content.TaskRows

namespace MarketingAgents

open Lib PyText

theorem routed_of_sameRow {old new : ContentAsset} (row : SameRow old new) : routed new = routed old := by
  unfold routed
  rw [row.assetType]

section Served

variable [PyText] {busy busy' : Uuid → Prop} {db db' : Db}

/-- The task is a dispatch of the asset. -/
abbrev Dispatches (a : ContentAsset) (t : Task) : Prop := Pursues (dispatchSkillFor a.assetType) a t

/-- The asset is to go out: it is scheduled, its type has a dispatcher and its campaign sends. -/
def Awaits (db : Db) (a : ContentAsset) : Prop :=
  a ∈ db.assets ∧ a.status = .scheduled ∧ routed a = true ∧
    ∃ c ∈ db.campaigns, c.id = a.campaignId ∧ c.status.sends = true

instance (db : Db) (a : ContentAsset) : Decidable (Awaits db a) :=
  inferInstanceAs (Decidable (a ∈ db.assets ∧ a.status = .scheduled ∧ routed a = true ∧
    ∃ c ∈ db.campaigns, c.id = a.campaignId ∧ c.status.sends = true))

/-- An open task of the skill that is not `busy` is at the asset. -/
def Pursued (skill : Option String) (busy : Uuid → Prop) (db : Db) (a : ContentAsset) : Prop :=
  ∃ t ∈ db.tasks, t.isOpen = true ∧ Pursues skill a t ∧ ¬ busy t.id

instance (skill : Option String) (busy : Uuid → Prop) [DecidablePred busy] (db : Db) (a : ContentAsset) :
    Decidable (Pursued skill busy db a) :=
  inferInstanceAs (Decidable (∃ t ∈ db.tasks, t.isOpen = true ∧ Pursues skill a t ∧ ¬ busy t.id))

abbrev Served (busy : Uuid → Prop) (db : Db) (a : ContentAsset) : Prop := Pursued (dispatchSkillFor a.assetType) busy db a

def NoneStranded (busy : Uuid → Prop) (db : Db) : Prop := ∀ a, Awaits db a → Served busy db a

theorem Pursues.of_same {skill : Option String} {a a' : ContentAsset} {t t' : Task} (names : Pursues skill a t)
    (row : SameRow a a') (same : SameTask t t') : Pursues skill a' t' := by
  unfold Pursues
  rw [row.id, row.campaignId, same.skillName, same.inputData, same.campaignId]
  exact names

theorem Dispatches.of_same {a a' : ContentAsset} {t t' : Task} (names : Dispatches a t) (row : SameRow a a')
    (same : SameTask t t') : Dispatches a' t' := by
  unfold Dispatches
  rw [row.assetType]
  exact Pursues.of_same names row same

theorem DispatchOf.dispatches {c : Campaign} {a : ContentAsset} {t : Task} (dispatch : DispatchOf c a t)
    (mine : a.campaignId = c.id) : Dispatches a t :=
  ⟨dispatch.skill, dispatch.named, mine ▸ dispatch.owner⟩

theorem Pursued.of_row {skill : Option String} {a a' : ContentAsset} (pursued : Pursued skill busy db a)
    (row : SameRow a a') : Pursued skill busy db a' := by
  obtain ⟨t, here, isOpen, names, free⟩ := pursued
  exact ⟨t, here, isOpen, names.of_same row (.refl t), free⟩

/-- The asset stays pursued when the task that pursues it stays open. -/
theorem Pursued.keep {skill : Option String} {a : ContentAsset} (pursued : Pursued skill busy db a)
    (keeps : ∀ t ∈ db.tasks, t.isOpen = true → Pursues skill a t → ¬ busy t.id →
      ∃ t' ∈ db'.tasks, SameTask t t' ∧ t'.isOpen = true ∧ ¬ busy' t'.id) : Pursued skill busy' db' a := by
  obtain ⟨t, here, isOpen, names, free⟩ := pursued
  obtain ⟨t', there, same, isOpen', free'⟩ := keeps t here isOpen names free
  exact ⟨t', there, isOpen', names.of_same (.refl a) same, free'⟩

theorem Served.of_row {a a' : ContentAsset} (served : Served busy db a) (row : SameRow a a') : Served busy db a' := by
  unfold Served
  rw [row.assetType]
  exact Pursued.of_row served row

theorem NoneStranded.mono (holds : NoneStranded busy db) (less : ∀ id, busy' id → busy id) : NoneStranded busy' db :=
  fun a awaits => (holds a awaits).keep fun t here isOpen _ free => ⟨t, here, .refl t, isOpen, fun occupied =>
    free (less t.id occupied)⟩

theorem NoneStranded.steady (holds : NoneStranded busy db) (wf : db.Wf) (ids : TaskIds db) (steady : Steady db db') :
    NoneStranded busy db' := by
  intro a' ⟨there, scheduled, dispatched, d, dHere, mine, sends⟩
  obtain ⟨a, here, row, before⟩ := steady.rows a' there scheduled
  obtain ⟨c, cHere, sameId, sent⟩ := steady.campaigns d dHere sends
  have owner : c.id = a.campaignId := sameId.trans (mine.trans row.campaignId)
  have served := holds a ⟨here, before, routed_of_sameRow row ▸ dispatched, c, cHere, owner, sent⟩
  refine Served.of_row (served.keep fun t member isOpen names free => ?_) row
  cases steady.tasks with
  | grows tasks queued other => exact ⟨t, queued.value ▸ List.mem_append_left _ member, .refl t, isOpen, free⟩
  | cancels p pHere paused now value =>
    have value' : db'.tasks = Queue.step db.tasks (.cancel p.id now) := value
    obtain ⟨t', after, same, isOpen'⟩ :=
      Queue.stays_open ids.distinct member isOpen fun ends : Queue.Ends (.cancel p.id now) t => by
      cases ends with
      | cancelled named owned =>
        cases named
        have equal : p.id = c.id := (Option.some.inj (owned.symm.trans names.2.2)).trans owner.symm
        rw [← eq_of_key_eq wf.campaignIds pHere cHere equal, paused] at sent
        simp [CampaignStatus.sends] at sent
      | completed named | givenUp named => cases named
    exact ⟨t', value' ▸ after, same, isOpen', same.id.symm ▸ free⟩

theorem served_of_queued {start : Db} {c : Campaign} {a : ContentAsset} {rows : List ContentAsset} {tasks : List Task}
    (queued : Queued start db' tasks) (related : List.Forall₂ (DispatchOf c) rows tasks) (listed : a ∈ rows)
    (mine : a.campaignId = c.id) (below : ∀ id, busy id → id < start.nextId) : Served busy db' a := by
  obtain ⟨t, member, dispatch⟩ := forall₂_image related listed
  refine ⟨t, queued.value ▸ List.mem_append_right _ member, ?_, dispatch.dispatches mine, fun occupied => ?_⟩
  · simp [Task.isOpen, dispatch.queued]
  · exact absurd (below t.id occupied) (Nat.not_lt.mpr (queued.ids t member).1)

/-- A step that queues tasks for one campaign leaves the others as they were. -/
theorem NoneStranded.enters (holds : NoneStranded busy db) {c : Campaign} (found : db.campaign? c.id = some c)
    {after : CampaignStatus} {writer : Writer} {tasks : List Task}
    (campaigns : db'.campaigns = (db.writeStatus c.id after writer).campaigns)
    (queued : Queued (db.writeStatus c.id after writer) db' tasks)
    (mine : ∀ a ∈ db'.assets, a.campaignId = c.id → a.status = .scheduled → routed a = true → Served busy db' a)
    (others : ∀ a ∈ db'.assets, a.campaignId ≠ c.id → a ∈ db.assets) : NoneStranded busy db' := by
  intro a ⟨there, scheduled, dispatched, d, dHere, owner, sends⟩
  by_cases same : a.campaignId = c.id
  · exact mine a there same scheduled dispatched
  · have before : d ∈ db.campaigns := by
      rw [campaigns] at dHere
      rcases mem_writeStatus found dHere with rfl | ⟨stays, _⟩
      · exact absurd owner.symm same
      · exact stays
    refine (holds a ⟨others a there same, scheduled, dispatched, d, before, owner, sends⟩).keep fun t here isOpen _ free => ?_
    rw [← writeStatus_tasks db c.id after writer] at here
    exact ⟨t, queued.value ▸ List.mem_append_left _ here, .refl t, isOpen, free⟩

section Writes

variable {may : Cause → Db → Prop} {now : Int}

/-- A write leaves no scheduled asset of a sending campaign without an open
dispatch: what schedules an asset queues its task in the same write. -/
theorem NoneStranded.write (holds : NoneStranded busy db) (wf : db.Wf) (ids : TaskIds db) (late : ScheduledLate db)
    (below : ∀ id, busy id → id < db.nextId) (write : Write may now db db') : NoneStranded busy db' := by
  have below' : ∀ {c : Campaign} (after : CampaignStatus) (writer : Writer), ∀ id, busy id →
      id < (db.writeStatus c.id after writer).nextId :=
    fun after writer id occupied => writeStatus_nextId db _ after writer ▸ below id occupied
  have listed : ∀ {c : Campaign} {a : ContentAsset} {status : AssetStatus} (after : CampaignStatus) (writer : Writer),
      a ∈ db.assets → a.campaignId = c.id → a.status = status →
        a ∈ ((db.writeStatus c.id after writer).campaignAssets c.id).filter (·.status = status) :=
    fun after writer here mine stands =>
      (mem_campaignRows (writeStatus_assets db _ after writer ▸ here) _ _).mpr ⟨mine, decide_eq_true stands⟩
  cases write.sendStep wf with
  | steady steady => exact holds.steady wf ids steady
  | launched c found pending schedules =>
    obtain ⟨tasks, queued, related⟩ := schedules.tasks
    have assets := schedules.assets
    rw [writeStatus_assets] at assets
    refine holds.enters found schedules.side.campaigns queued (fun a there mine scheduled dispatched => ?_)
      fun a there other => ?_
    · obtain ⟨old, here, value⟩ := List.mem_map.mp (assets ▸ there)
      by_cases chosen : old.campaignId = c.id ∧ old.status = .approved
      · have row : SameRow old a := value ▸ if_pos chosen ▸ (scheduledRow_traced _ now old).toSameRow
        rw [routed_of_sameRow row] at dispatched
        have chosenRow := List.mem_filter.mpr
          ⟨listed .readyToLaunch (.transition "start_launch") here chosen.1 chosen.2, dispatched⟩
        exact Served.of_row (served_of_queued queued related chosenRow chosen.1 (below' _ _)) row
      · rw [if_neg chosen] at value
        subst value
        exact absurd (mine ▸ late old here scheduled) (not_pastLaunch_of_pending wf found pending)
    · obtain ⟨old, here, value⟩ := List.mem_map.mp (assets ▸ there)
      split at value
      · rename_i chosen
        exact absurd (value ▸ (scheduledRow_traced _ now old).campaignId.trans chosen.1) other
      · exact value ▸ here
  | resumed c found asked resumes =>
    obtain ⟨tasks, queued, related⟩ := resumes.tasks
    have assets := resumes.assets
    rw [writeStatus_assets] at assets
    refine holds.enters found resumes.side.campaigns queued (fun a there mine scheduled dispatched => ?_)
      fun a there other => ?_
    · obtain ⟨old, here, value⟩ := List.mem_map.mp (assets ▸ there)
      split at value
      · rw [← value] at scheduled
        simp [elapsedRow] at scheduled
      · rename_i timely
        subst value
        have early : elapsed now old = false := by simpa [mine, scheduled] using timely
        have chosenRow := listed .live (.transition "resume") here mine scheduled
        exact served_of_queued queued related (List.mem_filter.mpr ⟨chosenRow, by simp [early, dispatched]⟩) mine (below' _ _)
    · obtain ⟨old, here, value⟩ := List.mem_map.mp (assets ▸ there)
      split at value
      · rename_i chosen
        exact absurd (value ▸ (elapsedRow_traced now old).campaignId.trans chosen.1) other
      · exact value ▸ here

end Writes

end Served

end MarketingAgents
