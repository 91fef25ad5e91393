import MarketingAgents.Content.Effects
import MarketingAgents.Content.Launched

namespace MarketingAgents

open Lib PyText

/-- The asset is on its way out, or out. -/
def AssetStatus.out (status : AssetStatus) : Bool := status ∈ [.scheduled, .published]

/-- The statuses of an asset whose content is still to be made or reviewed. -/
def AssetStatus.unmade (status : AssetStatus) : Bool := status ∈ [.requested, .generating, .drafted]

/-- Only campaigns past their launch have assets that are out. -/
def OutLate (db : Db) : Prop := ∀ a ∈ db.assets, a.status.out = true → PastLaunch db a.campaignId

/-- The rows the operation drafts anew: a generation that ends with a draft, and the templates `draft_outbound` overwrites. -/
def Op.redrafts [PyText] (db : Db) : Op → List ContentAsset
  | .generateAsset assetId (.drafted _) => (db.asset? assetId).toList
  | .assistant user call => call.overwrites db user
  | _ => []

theorem Edited.out {may : Cause → Db → Prop} {db : Db} {old new : ContentAsset} (edited : Edited may db old new)
    (out : new.status.out = true) : old.status.out = true := by
  rcases edited.status with same | inside | ⟨scheduled, _⟩
  · exact same ▸ out
  · have within : ∀ status ∈ [AssetStatus.failed, .requested, .drafted, .archived], status.out = false := by decide
    rw [within _ inside] at out
    cases out
  · rw [scheduled]
    rfl

/-- The row of the asset `a`, which was out, is not to be made again. -/
structure StaysMade (a : ContentAsset) (db : Db) : Prop where
  past : PastLaunch db a.campaignId
  present : ∃ b ∈ db.assets, b.id = a.id
  rows : ∀ b ∈ db.assets, b.id = a.id → b.campaignId = a.campaignId ∧ b.status.unmade = false

theorem StaysMade.start {db : Db} (wf : db.Wf) (late : OutLate db) {a : ContentAsset} (member : a ∈ db.assets)
    (out : a.status.out = true) : StaysMade a db where
  past := late a member out
  present := ⟨a, member, rfl⟩
  rows b here same := by
    rw [wf.eq_of_id here member same]
    refine ⟨rfl, ?_⟩
    unfold AssetStatus.out at out
    unfold AssetStatus.unmade
    cases status : a.status <;> simp [status] at out ⊢

theorem not_producing {db : Db} (wf : db.Wf) {campaignId : Uuid} (past : PastLaunch db campaignId) :
    ¬ ∃ c ∈ db.campaigns, c.id = campaignId ∧ c.status ∈ [.contentInProduction, .approvalPending] := by
  rintro ⟨c, here, rfl, producing⟩
  obtain ⟨d, there, same, launched⟩ := past
  rw [eq_of_key_eq wf.campaignIds there here same] at launched
  simp only [List.mem_cons, List.not_mem_nil, or_false] at producing
  rcases producing with status | status <;> simp [status, CampaignStatus.pastLaunch] at launched

section Steps

variable [PyText] {may : Cause → Db → Prop} {now : Int} {db db' : Db}

theorem Write.outLate (write : Write may now db db') (wf : db.Wf) (late : OutLate db) : OutLate db' := by
  have drift := write.drift wf
  have scheduledLate : ScheduledLate db' := drift.late fun a member scheduled => late a member (by rw [scheduled]; rfl)
  have before : ∀ {old b : ContentAsset}, old ∈ db.assets → Traced old b → old.status.out = true →
      PastLaunch db' b.campaignId := fun here traced out =>
    traced.campaignId.symm ▸ drift.launched _ (late _ here out)
  intro b member out
  cases write.assets wf member with
  | kept here => exact before here (.refl b) out
  | edited old here edited => exact before here edited.traced (edited.out out)
  | regenerated old here traced status => simp [status, AssetStatus.out] at out
  | approved old here traced reviewable status => simp [status, AssetStatus.out] at out
  | rejected old here traced reviewable status => simp [status, AssetStatus.out] at out
  | submitted old here traced drafted status => simp [status, AssetStatus.out] at out
  | scheduled old here traced approved status => exact scheduledLate b member status
  | elapsed old here traced scheduled status => simp [status, AssetStatus.out] at out
  | created a asked status value =>
    rw [value] at out
    simp only [List.mem_cons, List.not_mem_nil, or_false] at status
    rcases status with status | status <;> simp [status, AssetStatus.out] at out
  | seeded c ids asked done fresh campaign status => simp [status, AssetStatus.out] at out

theorem ToolCall.overwrites_mem {user : AppUser} {call : ToolCall} {a : ContentAsset} (listed : a ∈ call.overwrites db user) :
    a ∈ db.assets := by
  unfold ToolCall.overwrites at listed
  split at listed
  · split at listed
    · obtain ⟨c, _, inner⟩ := List.mem_flatMap.mp listed
      obtain ⟨entry, _, template⟩ := List.mem_flatMap.mp inner
      exact (overwrittenTemplates_mem template).1
    · simp at listed
  · simp at listed

/-- An edit that makes a row again is one the operation was asked for. -/
theorem Edited.redrafts {before : Db} {op : Op} (wf : before.Wf) {old new : ContentAsset}
    (edited : Edited (op.may before) db old new) (made : old.status.unmade = false) (unmade : new.status.unmade = true)
    {a : ContentAsset} (member : a ∈ before.assets) (same : old.id = a.id) : a ∈ op.redrafts before := by
  cases edited with
  | annotated traced status shipped => simp [← status, unmade] at made
  | generated traced status asked =>
    cases op with
    | generateAsset assetId generation =>
      obtain ⟨⟨found, left⟩, _⟩ := asked
      rw [← wf.eq_of_id (Db.asset?_mem found).1 member same]
      cases generation with
      | drafted out => simp [Op.redrafts, found]
      | complianceError message => simp [List.mem_singleton.mp left, AssetStatus.unmade] at unmade
      | raised message => simp [Generation.leaves] at left
    | assistant user call =>
      cases call with
      | generateContent apiKey campaignId confirm generations =>
        exact absurd (wf.assetsBelow a member) (Nat.not_lt.mpr (same ▸ asked.1))
      | _ => exact asked.1.elim
    | _ => exact asked.1.elim
  | overwritten traced status asked =>
    cases op with
    | assistant user call =>
      rcases asked with listed | drafted
      · have here := ToolCall.overwrites_mem listed
        rwa [← wf.eq_of_id here member same]
      · simp [drafted, AssetStatus.unmade] at made
    | _ => exact asked.elim
  | archived traced status out asked => simp [status, AssetStatus.unmade] at unmade
  | published traced scheduled status shipped => simp [status, AssetStatus.unmade] at unmade
  | revoked traced scheduled status => simp [status, AssetStatus.unmade] at unmade

theorem Write.staysMade {before : Db} {op : Op} (write : Write (op.may before) now db db') (wf : db.Wf)
    (beforeWf : before.Wf) {a : ContentAsset} (member : a ∈ before.assets) (kept : a ∉ op.redrafts before)
    (made : StaysMade a db) : StaysMade a db' := by
  have drift := write.drift wf
  obtain ⟨row, here, sameId⟩ := made.present
  have below : a.id < db.nextId := sameId ▸ wf.assetsBelow row here
  refine ⟨drift.launched _ made.past, ?_, fun b there same => ?_⟩
  · obtain ⟨new, there, sameRow, _⟩ := drift.rows row here
    exact ⟨new, there, sameRow.id.trans sameId⟩
  · have settled : ∀ {old : ContentAsset}, old ∈ db.assets → Traced old b → b.status.unmade = false →
        b.campaignId = a.campaignId ∧ b.status.unmade = false := fun inside traced status =>
      ⟨traced.campaignId.trans (made.rows _ inside (traced.id.symm.trans same)).1, status⟩
    cases write.assets wf there with
    | kept inside => exact made.rows b inside same
    | edited old inside edited =>
      have oldId : old.id = a.id := edited.traced.id.symm.trans same
      refine settled inside edited.traced ?_
      by_contra unmade
      exact kept (edited.redrafts beforeWf (made.rows old inside oldId).2 (by simpa using unmade) member oldId)
    | regenerated old inside traced status producing =>
      have mine := (made.rows old inside (traced.id.symm.trans same)).1
      rw [mine] at producing
      exact absurd producing (not_producing wf made.past)
    | approved old inside traced reviewable status => exact settled inside traced (by rw [status]; rfl)
    | rejected old inside traced reviewable status => exact settled inside traced (by rw [status]; rfl)
    | submitted old inside traced drafted status => exact settled inside traced (by rw [status]; rfl)
    | scheduled old inside traced approved status => exact settled inside traced (by rw [status]; rfl)
    | elapsed old inside traced scheduled status => exact settled inside traced (by rw [status]; rfl)
    | created new asked status value =>
      rw [value] at same
      exact absurd below (same ▸ Nat.lt_irrefl _)
    | seeded c ids asked done fresh => exact absurd below (Nat.not_lt.mpr (same ▸ fresh))

end Steps

section Runs

variable [PyText] {db : Db}

/-- The operation drafts no asset anew that is scheduled or published. -/
def Op.keepsOut (db : Db) (op : Op × Int) : Prop := ∀ a ∈ op.1.redrafts db, a.status.out = false

instance (db : Db) (op : Op × Int) : Decidable (Op.keepsOut db op) :=
  inferInstanceAs (Decidable (∀ a ∈ op.1.redrafts db, a.status.out = false))

/-- Where no scheduled or published asset is drafted anew, no operation puts one
back. A generation that has been asked for drafts its asset from whatever status it
finds. -/
theorem out_assets_stay_made (fresh : db.Fresh) {ops : List (Op × Int)} (keeps : Along Content.step Op.keepsOut db ops) :
    Along Content.step (fun before op => ∀ a ∈ before.assets, a.status = .scheduled ∨ a.status = .published →
      ∀ b ∈ (Content.step before op).assets, b.id = a.id → b.status ∉ [.requested, .generating, .drafted]) db ops := by
  have start : db.Wf ∧ OutLate db := by
    refine ⟨fresh.wf, fun a member => ?_⟩
    simp [fresh.assets] at member
  refine keeps.imp (I := fun db => db.Wf ∧ OutLate db) start (fun before op holds _ => ?_)
    fun before op holds kept a member outgoing b there same => ?_
  · have writes : Writes (op.1.may before) op.2 before (op.1.run before op.2) := Op.run_writes holds.1 op.1
    exact writes.induct holds.1 holds.2 fun mid next midWf late write => write.outLate midWf late
  · have writes : Writes (op.1.may before) op.2 before (op.1.run before op.2) := Op.run_writes holds.1 op.1
    have out : a.status.out = true := by
      rcases outgoing with status | status <;> rw [status] <;> rfl
    have free : a ∉ op.1.redrafts before := fun listed => by simp [kept a listed] at out
    have made := (writes.induct holds.1 (StaysMade.start holds.1 holds.2 member out) fun mid next midWf made write =>
      write.staysMade midWf holds.1 member free made).2
    exact of_decide_eq_false (made.rows b there same).2

end Runs

namespace Forward

local instance forwardText : PyText := PyText.plain

open Sample

/-- The email of the campaign, asset 3, is asked for twice before its first draft, and that draft is approved. -/
def approvedFirst : List (Op × Int) :=
  [(.createCampaign manager launch, 0),
    (.assistant manager (.synthesiseAudience 0 [("m", [])]), 1),
    (.applyTransition manager .manager 0 "set_strategy", 2),
    (.applyTransition manager .manager 0 "start_content", 3),
    (.regenerateAsset manager true 3, 4),
    (.generateAsset 3 (draft []), 5),
    (.approveAsset manager 3 {}, 6)]

def secondGeneration : Op × Int := (.generateAsset 3 (draft []), 7)

/-- Two requests for a generation leave two tasks behind. The first is served, the
asset is approved and scheduled, and the second makes it a draft again. -/
theorem second_generation_puts_back :
    let before := Lib.run Content.step planned approvedFirst
    planned.Fresh ∧
      (before.tasks.filter fun t => t.skillName = "content_creator.generate_asset" ∧
        t.inputData.get? "asset_id" = some (.str (PyText.uuidStr 3))).length = 2 ∧
      (∃ a ∈ before.assets, a.id = 3 ∧ a.status = .scheduled) ∧
      ∃ b ∈ (Content.step before secondGeneration).assets, b.id = 3 ∧ b.status = .drafted :=
  ⟨⟨rfl, rfl, rfl, rfl⟩, by decide +kernel, by decide +kernel, by decide +kernel⟩

/-- The second generation cannot check its draft, which fails the row. -/
def heldGeneration : Op × Int := (.generateAsset 3 (.complianceError "unavailable"), 7)

theorem out_assets_stay_made_held :
    let before := Lib.run Content.step planned approvedFirst
    ∃ a ∈ before.assets, a.status = .scheduled ∧ ∃ b ∈ (Content.step before heldGeneration).assets, b.id = a.id ∧
      b.status ∉ [.requested, .generating, .drafted] := by
  intro before
  have keeps : Along Content.step Op.keepsOut planned (approvedFirst ++ [heldGeneration]) := by decide +kernel
  obtain ⟨last, _⟩ := (along_append.mp (out_assets_stay_made ⟨rfl, rfl, rfl, rfl⟩ keeps)).2
  have run : ∃ a ∈ before.assets, a.status = .scheduled ∧ ∃ b ∈ (Content.step before heldGeneration).assets,
      b.id = a.id := by
    decide +kernel
  obtain ⟨a, member, scheduled, b, there, same⟩ := run
  exact ⟨a, member, scheduled, b, there, same, last a member (Or.inl scheduled) b there same⟩

end Forward

end MarketingAgents
