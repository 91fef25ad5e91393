import MarketingAgents.Content.Forward
import MarketingAgents.Content.Served

namespace MarketingAgents

open Lib PyText

/-- The campaign waits for approvals. -/
def AwaitsApproval (db : Db) (campaignId : Uuid) : Prop :=
  ∃ c ∈ db.campaigns, c.id = campaignId ∧ c.status = .approvalPending

instance (db : Db) (campaignId : Uuid) : Decidable (AwaitsApproval db campaignId) :=
  inferInstanceAs (Decidable (∃ c ∈ db.campaigns, c.id = campaignId ∧ c.status = .approvalPending))

/-- A reviewer can approve the asset. -/
def AssetStatus.reviewable (status : AssetStatus) : Bool := status ∈ [.pendingApproval, .approved, .rejected]

theorem AwaitsApproval.not_past {db : Db} {campaignId : Uuid} (pending : AwaitsApproval db campaignId) (wf : db.Wf) :
    ¬ PastLaunch db campaignId := by
  obtain ⟨c, here, rfl, status⟩ := pending
  rintro ⟨d, there, same, past⟩
  rw [eq_of_key_eq wf.campaignIds there here same, status] at past
  simp [CampaignStatus.pastLaunch] at past

section Gathered

variable [PyText] {busy : Uuid → Prop} {db db' : Db}

/-- An open task that is not `busy` is to make the asset. -/
abbrev Making (busy : Uuid → Prop) (db : Db) (a : ContentAsset) : Prop :=
  Pursued (some "content_creator.generate_asset") busy db a

/-- Every required asset of a campaign that waits for approvals is reviewable
or being made. No asset is measured or archived, and none is out before its launch. -/
structure Gathered (busy : Uuid → Prop) (db : Db) : Prop where
  late : OutLate db
  kept : ∀ a ∈ db.assets, a.status ∉ [.measuring, .variantWinner, .archived]
  gathered : ∀ a ∈ db.assets, a.isRequired = true → AwaitsApproval db a.campaignId →
    a.status.reviewable = true ∨ Making busy db a

/-- What the writer leaves to others: it makes no required asset while its
campaign waits for approvals, overwrites and archives nothing, and creates no required asset. -/
structure Tame (may : Cause → Db → Prop) : Prop where
  generates : ∀ a status db, may (.generates a status) db → a.isRequired = true → ¬ AwaitsApproval db a.campaignId
  overwrites : ∀ a db, ¬ may (.overwrites a) db
  promotes : ∀ testId db, ¬ may (.promotes testId) db
  creates : ∀ a db, may (.creates a) db → a.isRequired = false

section Writes

variable {may : Cause → Db → Prop} {now : Int}

theorem Write.kept_unshelved (write : Write may now db db') (tame : Tame may) (wf : db.Wf)
    (kept : ∀ a ∈ db.assets, a.status ∉ [.measuring, .variantWinner, .archived]) :
    ∀ a ∈ db'.assets, a.status ∉ [.measuring, .variantWinner, .archived] := by
  intro b member
  cases write.assets wf member with
  | kept here => exact kept b here
  | edited old here edited =>
    cases edited with
    | annotated traced status shipped => exact status ▸ kept old here
    | generated traced status asked =>
      simp only [List.mem_cons, List.not_mem_nil, or_false] at status
      rcases status with status | status | status <;> simp [status]
    | overwritten traced status asked => simp [status]
    | archived traced status out asked => exact absurd asked.choose_spec (tame.promotes _ _)
    | published traced scheduled status shipped | revoked traced scheduled status => simp [status]
  | regenerated old here traced status | approved old here traced reviewable status
  | rejected old here traced reviewable status | submitted old here traced drafted status
  | scheduled old here traced approved status | elapsed old here traced scheduled status => simp [status]
  | created a asked status value =>
    rw [value]
    simp only [List.mem_cons, List.not_mem_nil, or_false] at status
    rcases status with status | status <;> simp [status]
  | seeded c ids asked done fresh campaign status => simp [status]

/-- No write ends a task of a campaign that waits for approvals. -/
theorem Write.keeps_pursued (write : Write may now db db') (wf : db.Wf) (ids : TaskIds db) {skill : Option String}
    {a : ContentAsset} (pending : AwaitsApproval db a.campaignId) (pursued : Pursued skill busy db a) :
    Pursued skill busy db' a := by
  refine pursued.keep fun t here isOpen names free => ?_
  have appended : ∀ {start : Db} {tasks : List Task}, start.tasks = db.tasks → Queued start db' tasks →
      ∃ t' ∈ db'.tasks, SameTask t t' ∧ t'.isOpen = true ∧ ¬ busy t'.id := fun same queued =>
    ⟨t, queued.value ▸ List.mem_append_left _ (same ▸ here), .refl t, isOpen, free⟩
  cases write.sendStep wf with
  | steady steady =>
    cases steady.tasks with
    | grows tasks queued other => exact appended rfl queued
    | cancels p pHere paused now value =>
      have value' : db'.tasks = Queue.step db.tasks (.cancel p.id now) := value
      have other : t.campaignId ≠ some p.id := fun owned => by
        obtain ⟨c, cHere, mine, status⟩ := pending
        have equal : p.id = c.id := (Option.some.inj (owned.symm.trans names.2.2)).trans mine.symm
        rw [← eq_of_key_eq wf.campaignIds pHere cHere equal, paused] at status
        simp at status
      obtain ⟨t', after, same, isOpen'⟩ := Queue.stays_open_cancel ids.distinct here isOpen other now
      exact ⟨t', value' ▸ after, same, isOpen', same.id.symm ▸ free⟩
  | launched c found pending schedules =>
    obtain ⟨tasks, queued, _⟩ := schedules.tasks
    exact appended (writeStatus_tasks db c.id _ _) queued
  | resumed c found asked resumes =>
    obtain ⟨tasks, queued, _⟩ := resumes.tasks
    exact appended (writeStatus_tasks db c.id _ _) queued

/-- A campaign that waits for approvals did so before the write, or was just submitted. -/
theorem Write.awaited (write : Write may now db db') (wf : db.Wf) {id : Uuid} (pending : AwaitsApproval db' id) :
    AwaitsApproval db id ∨ ∃ c ∈ db.campaigns, c.id = id ∧ c.status = .contentInProduction ∧
      Guard.allRequiredAssetsDrafted.holds db c now = true ∧
        ∀ a ∈ db'.assets, a.campaignId = c.id → a.isRequired = true →
          a.status = .pendingApproval ∨ a ∈ db.assets ∧ a.status ≠ .drafted := by
  obtain ⟨d, member, rfl, status⟩ := pending
  rcases write.campaigns wf member with ⟨drafted, _⟩ | ⟨c, here, same, step⟩
  · simp [status] at drafted
  · rw [status] at step
    cases step with
    | kept equal => exact Or.inl ⟨c, here, same, equal.symm⟩
    | wrote writer permitted plain live => simp at plain
    | submitted producing drafted pending flipped => exact Or.inr ⟨c, here, same, producing, drafted, flipped⟩
    | launched pending ready => simp at ready
    | resumed paused asked live => simp at live

/-- A required row that the submission does not flip is past its draft. -/
theorem Gathered.unflipped (holds : Gathered busy db) (wf : db.Wf) {c : Campaign} (here : c ∈ db.campaigns)
    (producing : c.status = .contentInProduction) (drafted : Guard.allRequiredAssetsDrafted.holds db c now = true)
    {a : ContentAsset} (member : a ∈ db.assets) (mine : a.campaignId = c.id) (required : a.isRequired = true)
    (moved : a.status ≠ .drafted) : a.status.reviewable = true := by
  have notPast : ¬ PastLaunch db a.campaignId := by
    rintro ⟨d, there, same, past⟩
    rw [eq_of_key_eq wf.campaignIds there here (same.trans mine), producing] at past
    simp [CampaignStatus.pastLaunch] at past
  have inside : a.status.out = false := by
    by_contra out
    exact notPast (holds.late a member (by simpa using out))
  simp only [Guard.holds, Bool.and_eq_true, List.all_eq_true, decide_eq_true_eq] at drafted
  have made := drafted.1.2 a (mem_requiredAssets.mpr ⟨member, mine, required⟩)
  have unshelved := holds.kept a member
  unfold AssetStatus.out at inside
  unfold AssetStatus.reviewable
  cases status : a.status <;> simp_all

/-- A seeded row has its task. -/
theorem making_of_seeded (wf : db.Wf) {c : Campaign} {ids : List Uuid}
    (done : seedAssetsForCampaign db c now = .ok (db', ids)) (below : ∀ id, busy id → id < db.nextId) {b : ContentAsset}
    (member : b ∈ db'.assets) (fresh : db.nextId ≤ b.id) (mine : b.campaignId = c.id) : Making busy db' b := by
  have seeded := seedAssetsForCampaign_seeded wf done
  obtain ⟨rows, assets, listed, _, _⟩ := seeded.rows
  obtain ⟨tasks, agentId, queued, related⟩ := seeded.tasks
  have new : b ∈ rows := by
    rcases List.mem_append.mp (assets ▸ member) with old | new
    · exact absurd (wf.assetsBelow b old) (Nat.not_lt.mpr fresh)
    · exact new
  obtain ⟨t, there, taskId, rfl⟩ := forall₂_image related (listed ▸ List.mem_map_of_mem new)
  refine ⟨_, queued.value ▸ List.mem_append_right _ there, rfl, ⟨rfl, rfl, ?_⟩, fun occupied => ?_⟩
  · rw [mine]
    rfl
  · exact absurd (below _ occupied) (Nat.not_lt.mpr (queued.ids _ there).1)

theorem Gathered.write (holds : Gathered busy db) (wf : db.Wf) (ids : TaskIds db) (tame : Tame may)
    (below : ∀ id, busy id → id < db.nextId) (write : Write may now db db') : Gathered busy db' where
  late := write.outLate wf holds.late
  kept := write.kept_unshelved tame wf holds.kept
  gathered b member required pending := by
    rcases write.awaited wf pending with before | ⟨c, here, same, producing, drafted, flipped⟩
    · have still : ∀ {old : ContentAsset}, old ∈ db.assets → Traced old b → b.status = old.status →
          b.status.reviewable = true ∨ Making busy db' b := fun here traced status => by
        have waiting : AwaitsApproval db _ := traced.campaignId ▸ before
        rcases holds.gathered _ here (traced.required required) waiting with reviewable | making
        · exact Or.inl (status ▸ reviewable)
        · exact Or.inr ((write.keeps_pursued wf ids waiting making).of_row traced.toSameRow)
      have unlaunched : ∀ {old : ContentAsset}, old ∈ db.assets → Traced old b → old.status ≠ .scheduled :=
        fun here traced scheduled =>
          before.not_past wf (traced.campaignId ▸ holds.late _ here (by rw [scheduled]; rfl))
      cases write.assets wf member with
      | kept here => exact still here (.refl b) rfl
      | edited old here edited =>
        cases edited with
        | annotated traced status shipped => exact still here traced status
        | generated traced status asked =>
          exact absurd (traced.campaignId ▸ before) (tame.generates _ _ _ asked (traced.required required))
        | overwritten traced status asked => exact absurd asked (tame.overwrites _ _)
        | archived traced status out asked => exact absurd asked.choose_spec (tame.promotes _ _)
        | published traced scheduled status shipped => exact absurd scheduled (unlaunched here traced)
        | revoked traced scheduled status => exact absurd scheduled (unlaunched here traced)
      | regenerated old here traced status producing queued =>
        obtain ⟨t, there, fresh, queued, names⟩ := queued
        refine Or.inr ⟨t, there, by simp [Task.isOpen, queued], names, fun occupied => ?_⟩
        exact absurd (below t.id occupied) (Nat.not_lt.mpr fresh)
      | approved old here traced reviewable status | rejected old here traced reviewable status
      | submitted old here traced drafted status => exact Or.inl (by rw [status]; rfl)
      | scheduled old here traced approved status =>
        have past : PastLaunch db' b.campaignId := write.outLate wf holds.late b member (by rw [status]; rfl)
        exact absurd past (pending.not_past (write.wf wf))
      | elapsed old here traced scheduled status => exact absurd scheduled (unlaunched here traced)
      | created a asked status value =>
        rw [value] at required
        simp [tame.creates _ _ asked] at required
      | seeded c ids asked done fresh campaign status => exact Or.inr (making_of_seeded wf done below member fresh campaign)
    · rcases flipped b member same.symm required with status | ⟨stays, moved⟩
      · exact Or.inl (by rw [status]; rfl)
      · exact Or.inl (holds.unflipped wf here producing drafted stays same.symm required moved)

end Writes

end Gathered

end MarketingAgents
