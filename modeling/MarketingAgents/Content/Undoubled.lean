import MarketingAgents.Content.Served

namespace MarketingAgents

open Lib PyText

theorem dispatchSkillFor_mem {kind : AssetType} {skill : String} (mapped : dispatchSkillFor kind = some skill) :
    skill ∈ dispatchSkills := by
  cases kind <;> simp_all [dispatchSkillFor, dispatchSkills]

/-- A call of the queue that puts no task back. -/
theorem unopened_by_call {tasks : List Task} (ids : (tasks.map Task.id).Nodup) {op : QueueOp} {t' : Task}
    (member : t' ∈ Queue.step tasks op) (inserts : ∀ args newId now, op ≠ .enqueue args newId now)
    (retries : ∀ t, ¬ Queue.Retries op t) : ∃ t ∈ tasks, SameTask t t' ∧ (t'.isOpen = true → t.isOpen = true) := by
  rcases Queue.row_origin ids member with ⟨t, inside, moved⟩ | ⟨args, newId, now, named, _⟩
  · exact ⟨t, inside, moved.same, fun isOpen => (moved.was_open isOpen).resolve_right (retries t)⟩
  · exact absurd named (inserts args newId now)

section Undoubled

variable [PyText] {db db' : Db}

/-- Every dispatch task is of an asset whose campaign has been launched, and
no two open ones are of one scheduled asset. -/
structure Undoubled (db : Db) : Prop where
  named : ∀ t ∈ db.tasks, t.skillName ∈ dispatchSkills → ∃ a ∈ db.assets, Dispatches a t ∧ PastLaunch db a.campaignId
  single : ∀ a ∈ db.assets, a.status = .scheduled → ∀ t ∈ db.tasks, ∀ t' ∈ db.tasks, Dispatches a t → Dispatches a t' →
    t.isOpen = true → t'.isOpen = true → t.id = t'.id

theorem Undoubled.keeps_name (holds : Undoubled db) (drift : Drift db db') {t t' : Task} (here : t ∈ db.tasks)
    (same : SameTask t t') (skill : t'.skillName ∈ dispatchSkills) :
    ∃ a ∈ db'.assets, Dispatches a t' ∧ PastLaunch db' a.campaignId := by
  obtain ⟨a, inside, names, past⟩ := holds.named t here (same.skillName ▸ skill)
  obtain ⟨b, after, row, _⟩ := drift.rows a inside
  exact ⟨b, after, names.of_same row same, row.campaignId.symm ▸ drift.launched _ past⟩

/-- A step that schedules no asset and opens no dispatch task. -/
theorem Undoubled.step (holds : Undoubled db) (drift : Drift db db')
    (rows : ∀ b ∈ db'.assets, b.status = .scheduled → ∃ old ∈ db.assets, SameRow old b ∧ old.status = .scheduled)
    (tasks : ∀ t' ∈ db'.tasks, t'.skillName ∈ dispatchSkills →
      ∃ t ∈ db.tasks, SameTask t t' ∧ (t'.isOpen = true → t.isOpen = true)) : Undoubled db' where
  named t' there skill := by
    obtain ⟨t, here, same, _⟩ := tasks t' there skill
    exact holds.keeps_name drift here same skill
  single b there scheduled t₁' mem₁ t₂' mem₂ names₁ names₂ open₁ open₂ := by
    obtain ⟨a, here, row, before⟩ := rows b there scheduled
    obtain ⟨t₁, here₁, same₁, opened₁⟩ := tasks t₁' mem₁ (dispatchSkillFor_mem names₁.1)
    obtain ⟨t₂, here₂, same₂, opened₂⟩ := tasks t₂' mem₂ (dispatchSkillFor_mem names₂.1)
    rw [same₁.id, same₂.id]
    exact holds.single a here before t₁ here₁ t₂ here₂ (names₁.of_same row.symm same₁.symm)
      (names₂.of_same row.symm same₂.symm) (opened₁ open₁) (opened₂ open₂)

theorem Undoubled.steady (holds : Undoubled db) (ids : TaskIds db) (drift : Drift db db') (steady : Steady db db') :
    Undoubled db' := by
  refine holds.step drift steady.rows fun t' there skill => ?_
  cases steady.tasks with
  | grows tasks queued other =>
    rcases List.mem_append.mp (queued.value ▸ there) with old | new
    · exact ⟨t', old, .refl t', id⟩
    · exact absurd skill (other t' new)
  | cancels c here paused now value =>
    have value' : db'.tasks = Queue.step db.tasks (.cancel c.id now) := value
    exact unopened_by_call ids.distinct (value' ▸ there) (by simp) (by simp [Queue.Retries])

/-- A step that queues dispatches of rows of one campaign, of which none had an open one. -/
theorem Undoubled.enters (holds : Undoubled db) (drift : Drift db db') {c : Campaign} {start : Db}
    {chosen : List ContentAsset} {tasks : List Task} (old : start.tasks = db.tasks) (queued : Queued start db' tasks)
    (related : List.Forall₂ (DispatchOf c) chosen tasks) (distinct : (chosen.map ContentAsset.id).Nodup)
    (listed : ∀ a ∈ chosen, a.campaignId = c.id ∧ ∃ b ∈ db'.assets, SameRow a b) (past : PastLaunch db' c.id)
    (mine : ∀ b ∈ db'.assets, b.status = .scheduled → b.campaignId = c.id → ∀ t ∈ db.tasks, Dispatches b t →
      t.isOpen = false)
    (others : ∀ b ∈ db'.assets, b.status = .scheduled → b.campaignId ≠ c.id → b ∈ db.assets) : Undoubled db' := by
  have origin : ∀ t ∈ db'.tasks, t ∈ db.tasks ∨ (t ∈ tasks ∧ ∃ a ∈ chosen, DispatchOf c a t) := fun t there => by
    rw [queued.value, old] at there
    exact (List.mem_append.mp there).imp_right fun new => ⟨new, forall₂_origin related new⟩
  refine ⟨fun t there skill => ?_, fun b there scheduled t₁ mem₁ t₂ mem₂ names₁ names₂ open₁ open₂ => ?_⟩
  · rcases origin t there with here | ⟨_, a, member, dispatch⟩
    · exact holds.keeps_name drift here (.refl t) skill
    · obtain ⟨owner, b, after, row⟩ := listed a member
      exact ⟨b, after, (dispatch.dispatches owner).of_same row (.refl t), row.campaignId.symm ▸ owner.symm ▸ past⟩
  · by_cases own : b.campaignId = c.id
    · have new : ∀ {t}, t ∈ db'.tasks → Dispatches b t → t.isOpen = true → t ∈ tasks := fun inside names isOpen => by
        rcases origin _ inside with here | ⟨added, _⟩
        · simp [mine b there scheduled own _ here names] at isOpen
        · exact added
      have same := forall₂_inj related (distinct.of_map _) (new mem₁ names₁ open₁) (new mem₂ names₂ open₂)
        fun a₁ in₁ a₂ in₂ dispatch₁ dispatch₂ => by
          have id₁ := uuidStr_injective (Json.str.inj (Option.some.inj (dispatch₁.named.symm.trans names₁.2.1)))
          have id₂ := uuidStr_injective (Json.str.inj (Option.some.inj (dispatch₂.named.symm.trans names₂.2.1)))
          exact eq_of_key_eq distinct in₁ in₂ (id₁.trans id₂.symm)
      rw [same]
    · have before : ∀ {t}, t ∈ db'.tasks → Dispatches b t → t ∈ db.tasks := fun inside names => by
        rcases origin _ inside with here | ⟨_, a, _, dispatch⟩
        · exact here
        · exact absurd (Option.some.inj (names.2.2.symm.trans dispatch.owner)) own
      exact holds.single b (others b there scheduled own) scheduled t₁ (before mem₁ names₁) t₂ (before mem₂ names₂) names₁ names₂
        open₁ open₂

section Writes

variable {may : Cause → Db → Prop} {now : Int}

/-- The assets a resume of the campaign queues again. -/
def requeued (db : Db) (campaignId : Uuid) (now : Int) : List ContentAsset :=
  ((db.campaignAssets campaignId).filter (·.status = .scheduled)).filter fun a => !elapsed now a && routed a

/-- A write doubles no open dispatch, where a resume finds none beside the assets
that it queues. -/
theorem Undoubled.write (holds : Undoubled db) (wf : db.Wf) (ids : TaskIds db)
    (resumes : ∀ id, may (.resumes id) db → ∀ a ∈ requeued db id now, ∀ t ∈ db.tasks, Dispatches a t → t.isOpen = false)
    (write : Write may now db db') : Undoubled db' := by
  have drift := write.drift wf
  have listed : ∀ {c : Campaign} {after : CampaignStatus} {writer : Writer} {p q : ContentAsset → Bool},
      ∀ a ∈ (((db.writeStatus c.id after writer).campaignAssets c.id).filter p).filter q,
        a.campaignId = c.id ∧ ∃ b ∈ db'.assets, SameRow a b := fun a member => by
    obtain ⟨inside, owner, _⟩ := campaignRows_mem (List.mem_of_mem_filter member)
    rw [writeStatus_assets] at inside
    obtain ⟨b, after, row, _⟩ := drift.rows a inside
    exact ⟨owner, b, after, row⟩
  have distinct : ∀ {c : Campaign} {after : CampaignStatus} {writer : Writer} {p q : ContentAsset → Bool},
      (((((db.writeStatus c.id after writer).campaignAssets c.id).filter p).filter q).map ContentAsset.id).Nodup := by
    intro c after writer p q
    have rows := wf.assetIds
    rw [← writeStatus_assets db c.id after writer] at rows
    exact rows.sublist ((List.filter_sublist.trans (List.filter_sublist.trans List.filter_sublist)).map _)
  cases write.sendStep wf with
  | steady steady => exact holds.steady ids drift steady
  | launched c found pending schedules =>
    obtain ⟨tasks, queued, related⟩ := schedules.tasks
    have assets := schedules.assets
    rw [writeStatus_assets] at assets
    refine holds.enters drift (writeStatus_tasks db c.id _ _) queued related distinct listed ?_
      (fun b there scheduled own t here names => ?_) fun b there scheduled other => ?_
    · unfold PastLaunch
      rw [schedules.side.campaigns]
      exact writeStatus_pastLaunch found rfl _
    · obtain ⟨a, _, known, past⟩ := holds.named t here (dispatchSkillFor_mem names.1)
      have same : a.campaignId = c.id := (Option.some.inj (known.2.2.symm.trans names.2.2)).trans own
      exact absurd (same ▸ past) (not_pastLaunch_of_pending wf found pending)
    · obtain ⟨old, here, value⟩ := List.mem_map.mp (assets ▸ there)
      split at value
      · rename_i chosen
        exact absurd (value ▸ (scheduledRow_traced _ now old).campaignId.trans chosen.1) other
      · exact value ▸ here
  | resumed c found asked resumed =>
    obtain ⟨tasks, queued, related⟩ := resumed.tasks
    have assets := resumed.assets
    rw [writeStatus_assets] at assets
    have kept : ∀ b ∈ db'.assets, b.status = .scheduled → b ∈ db.assets ∧ (b.campaignId = c.id → elapsed now b = false) := by
      intro b there scheduled
      obtain ⟨old, here, value⟩ := List.mem_map.mp (assets ▸ there)
      split at value
      · rw [← value] at scheduled
        simp [elapsedRow] at scheduled
      · rename_i timely
        subst value
        exact ⟨here, fun own => by simpa [own, scheduled] using timely⟩
    refine holds.enters drift (writeStatus_tasks db c.id _ _) queued related distinct listed ?_
      (fun b there scheduled own t here names => ?_) fun b there scheduled _ => (kept b there scheduled).1
    · unfold PastLaunch
      rw [resumed.side.campaigns]
      exact writeStatus_pastLaunch found rfl _
    · obtain ⟨inside, early⟩ := kept b there scheduled
      refine resumes c.id asked b ?_ t here names
      refine List.mem_filter.mpr ⟨(mem_campaignRows inside c.id _).mpr ⟨own, decide_eq_true scheduled⟩, ?_⟩
      simp [early own, routed, names.1]

end Writes

end Undoubled

end MarketingAgents
