import MarketingAgents.Content.System

namespace MarketingAgents

open Lib PyText

/-- The statuses from `ready_to_launch` on. -/
def CampaignStatus.pastLaunch : CampaignStatus → Bool
  | .readyToLaunch | .live | .optimising | .paused | .completed => true
  | _ => false

def PastLaunch (db : Db) (campaignId : Uuid) : Prop :=
  ∃ c ∈ db.campaigns, c.id = campaignId ∧ c.status.pastLaunch = true

/-- The row does not become scheduled. -/
structure Settles (old new : ContentAsset) : Prop extends SameRow old new where
  scheduled : new.status = .scheduled → old.status = .scheduled

theorem rowOrder_settles : RowOrder Settles where
  refl a := ⟨.refl a, id⟩
  trans first last := ⟨first.toSameRow.trans last.toSameRow, fun scheduled => first.scheduled (last.scheduled scheduled)⟩
  id related := related.id

/-- Only campaigns past their launch have scheduled assets. -/
def ScheduledLate (db : Db) : Prop := ∀ a ∈ db.assets, a.status = .scheduled → PastLaunch db a.campaignId

/-- Assets and campaigns stay, launched campaigns stay launched, and no asset
of a launched campaign becomes scheduled. -/
structure Drift (db db' : Db) : Prop where
  rows : ∀ old ∈ db.assets, ∃ new ∈ db'.assets, SameRow old new ∧
    (PastLaunch db old.campaignId → new.status = .scheduled → old.status = .scheduled)
  launched : ∀ id, PastLaunch db id → PastLaunch db' id
  late : ScheduledLate db → ScheduledLate db'

namespace Drift

variable {db db' db'' : Db}

theorem refl (db : Db) : Drift db db := ⟨fun old here => ⟨old, here, .refl old, fun _ => id⟩, fun _ => id, id⟩

theorem trans (first : Drift db db') (last : Drift db' db'') : Drift db db'' where
  rows old here := by
    obtain ⟨mid, there, row, back⟩ := first.rows old here
    obtain ⟨new, yonder, row', back'⟩ := last.rows mid there
    refine ⟨new, yonder, row.trans row', fun past scheduled => back past (back' ?_ scheduled)⟩
    rw [row.campaignId]
    exact first.launched _ past
  launched id past := last.launched id (first.launched id past)
  late all := last.late (first.late all)

theorem of_rewrites (rows : Rewrites Settles db db') : Drift db db' where
  rows old here := by
    obtain ⟨new, there, settles⟩ := forall₂_image rows.assets here
    exact ⟨new, there, settles.toSameRow, fun _ => settles.scheduled⟩
  launched id past := by
    unfold PastLaunch
    rw [rows.campaigns]
    exact past
  late all a member scheduled := by
    obtain ⟨old, here, settles⟩ := forall₂_origin rows.assets member
    rw [settles.campaignId]
    unfold PastLaunch
    rw [rows.campaigns]
    exact all old here (settles.scheduled scheduled)

theorem of_campaigns (assets : db'.assets = db.assets) (launched : ∀ id, PastLaunch db id → PastLaunch db' id) :
    Drift db db' where
  rows old here := ⟨old, assets.symm ▸ here, .refl old, fun _ => id⟩
  launched := launched
  late all a member scheduled := launched _ (all a (assets ▸ member) scheduled)

/-- An update of one campaign that keeps its id and, if it was launched, keeps it so. -/
theorem setCampaign {c : Campaign} (c' : Campaign) (wf : db.Wf) (member : c ∈ db.campaigns) (sameId : c'.id = c.id)
    (launched : c.status.pastLaunch = true → c'.status.pastLaunch = true) : Drift db (db.setCampaign c') := by
  refine of_campaigns rfl fun id => ?_
  rintro ⟨d, here, rfl, past⟩
  by_cases same : d.id = c.id
  · have equal : d = c := eq_of_key_eq wf.campaignIds here member same
    exact ⟨c', mem_updateWhere.mpr (Or.inl ⟨d, here, by simp [same, sameId], rfl⟩), by rw [sameId, same],
      launched (equal ▸ past)⟩
  · exact ⟨d, mem_updateWhere.mpr (Or.inr ⟨here, by simp [same, sameId]⟩), rfl, past⟩

theorem write {c : Campaign} (after : CampaignStatus) (writer : Writer) (wf : db.Wf) (found : db.campaign? c.id = some c)
    (launched : c.status.pastLaunch = true → after.pastLaunch = true) : Drift db (db.writeStatus c.id after writer) := by
  rw [writeStatus_eq found]
  have set := setCampaign { c with status := after } wf (Db.campaign?_mem found).1 rfl launched
  exact ⟨set.rows, set.launched, set.late⟩

end Drift

theorem Permitted.pastLaunch {before after : CampaignStatus} {writer : Writer} (permitted : Permitted before after writer)
    (past : before.pastLaunch = true) : after.pastLaunch = true := by
  cases writer with
  | transition name =>
    obtain ⟨tr, member, _, rfl, rfl⟩ := permitted
    have closed : ∀ tr ∈ campaignSm, tr.fromState.pastLaunch = true → tr.toState.pastLaunch = true := by decide
    exact closed tr member past
  | pauseHelper | autoPause =>
    rw [permitted.2]
    rfl
  | synthesiseAudience | generateContent =>
    rw [permitted.1] at past
    simp [CampaignStatus.pastLaunch] at past
  | acceptStrategy =>
    rcases permitted.1 with early | early <;> simp [early, CampaignStatus.pastLaunch] at past
  | launchCampaign =>
    rw [permitted.2]
    rfl

theorem writeStatus_pastLaunch {db : Db} {c : Campaign} {after : CampaignStatus} (found : db.campaign? c.id = some c)
    (past : after.pastLaunch = true) (writer : Writer) : PastLaunch (db.writeStatus c.id after writer) c.id := by
  unfold PastLaunch
  rw [writeStatus_eq found]
  exact ⟨{ c with status := after }, mem_updateWhere.mpr (Or.inl ⟨c, (Db.campaign?_mem found).1, by simp, rfl⟩), rfl, past⟩

theorem not_pastLaunch_of_pending {db : Db} {c : Campaign} (wf : db.Wf) (found : db.campaign? c.id = some c)
    (pending : c.status = .approvalPending) : ¬ PastLaunch db c.id := by
  rintro ⟨d, here, same, past⟩
  rw [eq_of_key_eq wf.campaignIds here (Db.campaign?_mem found).1 same, pending] at past
  simp [CampaignStatus.pastLaunch] at past

theorem Drift.launch {db db' : Db} {c : Campaign} (wf : db.Wf) (found : db.campaign? c.id = some c)
    (pending : c.status = .approvalPending)
    (rows : Rewrites (LaunchedRow c.id) (db.writeStatus c.id .readyToLaunch (.transition "start_launch")) db') :
    Drift db db' := by
  have written := Drift.write .readyToLaunch (.transition "start_launch") wf found fun _ => rfl
  have kept : ∀ id, PastLaunch db id → PastLaunch db' id := fun id past => by
    unfold PastLaunch
    rw [rows.campaigns]
    exact written.launched id past
  have ready : PastLaunch db' c.id := by
    unfold PastLaunch
    rw [rows.campaigns]
    exact writeStatus_pastLaunch found rfl (.transition "start_launch")
  have notYet := not_pastLaunch_of_pending wf found pending
  have assets := rows.assets
  rw [writeStatus_assets] at assets
  refine ⟨fun old here => ?_, kept, fun all a member scheduled => ?_⟩
  · obtain ⟨new, there, related⟩ := forall₂_image assets here
    rcases related with rfl | ⟨row, _, mine, _, _⟩
    · exact ⟨new, there, .refl new, fun _ => id⟩
    · exact ⟨new, there, row, fun past => absurd (mine ▸ past) notYet⟩
  · obtain ⟨old, here, related⟩ := forall₂_origin assets member
    rcases related with rfl | ⟨row, _, mine, _, _⟩
    · exact kept _ (all a here scheduled)
    · rw [row.campaignId, mine]
      exact ready

theorem Rewrites.revise {db db' : Db} (rows : Rewrites Revised db db') : Rewrites Settles db db' :=
  ⟨rows.campaigns, rows.assets.imp fun _ _ revised => ⟨revised.toSameRow, revised.scheduled⟩, rows.approvals,
    rows.statusWrites, rows.nextId⟩

section Moves

variable [PyText] {l : Licence} {db db' : Db}

theorem Rewrites.approve {old new : ContentAsset} {path : ApprovalPath} {role : UserRole} (wf : db.Wf)
    (vetted : Vetted db old new path role) : Rewrites Settles db (db.setAsset { new with status := .approved }) :=
  .setAsset rowOrder_settles wf vetted.member ⟨⟨vetted.id, vetted.campaignId, vetted.assetType⟩, by simp⟩

theorem Move.drift (move : Move l db db') (wf : db.Wf) : Drift db db' := by
  cases move with
  | revise rows => exact .of_rewrites rows.revise
  | edit member sameId sameStatus => exact .setCampaign _ wf member sameId (by rw [sameStatus]; exact id)
  | create unshipped =>
    refine ⟨fun old here => ⟨old, List.mem_append_left _ here, .refl old, fun _ => id⟩, fun _ => id,
      fun all a member scheduled => ?_⟩
    rcases List.mem_append.mp member with old | new
    · exact all a old scheduled
    · rw [List.mem_singleton.mp new] at scheduled
      have status : AssetStatus.scheduled.ships = false := scheduled ▸ unshipped
      simp [AssetStatus.ships] at status
  | found drafted fresh =>
    refine .of_campaigns rfl fun id => ?_
    rintro ⟨c, here, same, past⟩
    exact ⟨c, List.mem_append_left _ here, same, past⟩
  | approve vetted licensed =>
    have set := Drift.of_rewrites (Rewrites.approve wf vetted)
    exact ⟨set.rows, set.launched, set.late⟩
  | write found permitted licensed => exact .write _ _ wf found permitted.pastLaunch
  | launch found pending rows => exact .launch wf found pending rows

theorem Moves.drift (moves : Moves l db db') (wf : db.Wf) : Drift db db' :=
  (moves.induct wf (Drift.refl db) fun _ _ midWf drift move => drift.trans (move.drift midWf)).2

theorem Write.drift {may : Cause → Db → Prop} {now : Int} (write : Write may now db db') (wf : db.Wf) : Drift db db' :=
  (write.moves (l := .all) wf (fun _ _ _ => trivial) (fun _ _ _ => trivial) fun _ _ _ _ => trivial).drift wf

end Moves

end MarketingAgents
