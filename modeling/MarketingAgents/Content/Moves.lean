import MarketingAgents.Api.Approvals
import MarketingAgents.Content.Rewrites

namespace MarketingAgents

open Lib

/-- The statuses in which an asset is on its way out. -/
def AssetStatus.ships : AssetStatus → Bool
  | .approved | .scheduled | .published => true
  | _ => false

/-- The columns of a row that no operation changes. -/
structure SameRow (old new : ContentAsset) : Prop where
  id : new.id = old.id
  campaignId : new.campaignId = old.campaignId
  assetType : new.assetType = old.assetType

/-- The parts of a row that an approval vouches for are as they were. -/
structure SameShipped (old new : ContentAsset) : Prop where
  title : new.title = old.title
  content : new.content = old.content
  fields : new.extraMetadata.get? "fields" = old.extraMetadata.get? "fields"
  threshold : new.extraMetadata.get? "approval_threshold" = old.extraMetadata.get? "approval_threshold"
  unblocked : isComplianceBlocked old = false → isComplianceBlocked new = false

/-- What an operation other than an approval or a launch may do to a row: if
the row ships afterwards it shipped before, with the same parts. -/
structure Revised (old new : ContentAsset) : Prop extends SameRow old new where
  ships : new.status.ships = true → old.status.ships = true ∧ SameShipped old new
  scheduled : new.status = .scheduled → old.status = .scheduled

/-- What `start_launch` does to a row: the approved ones of its campaign are scheduled. -/
def LaunchedRow (campaignId : Uuid) (old new : ContentAsset) : Prop :=
  new = old ∨ (SameRow old new ∧ SameShipped old new ∧ old.campaignId = campaignId ∧ old.status = .approved ∧
    new.status = .scheduled)

theorem SameRow.refl (a : ContentAsset) : SameRow a a := ⟨rfl, rfl, rfl⟩

theorem SameRow.symm {a b : ContentAsset} (row : SameRow a b) : SameRow b a :=
  ⟨row.id.symm, row.campaignId.symm, row.assetType.symm⟩

theorem SameRow.trans {a b c : ContentAsset} (first : SameRow a b) (last : SameRow b c) : SameRow a c :=
  ⟨last.id.trans first.id, last.campaignId.trans first.campaignId, last.assetType.trans first.assetType⟩

theorem SameShipped.refl (a : ContentAsset) : SameShipped a a := ⟨rfl, rfl, rfl, rfl, id⟩

theorem SameShipped.trans {a b c : ContentAsset} (first : SameShipped a b) (last : SameShipped b c) :
    SameShipped a c where
  title := last.title.trans first.title
  content := last.content.trans first.content
  fields := last.fields.trans first.fields
  threshold := last.threshold.trans first.threshold
  unblocked clean := last.unblocked (first.unblocked clean)

theorem rowOrder_revised : RowOrder Revised where
  refl a := ⟨.refl a, fun ships => ⟨ships, .refl a⟩, id⟩
  trans first last :=
    { toSameRow := first.toSameRow.trans last.toSameRow
      ships := fun ships => by
        obtain ⟨middle, lastSame⟩ := last.ships ships
        obtain ⟨start, firstSame⟩ := first.ships middle
        exact ⟨start, firstSame.trans lastSame⟩
      scheduled := fun scheduled => first.scheduled (last.scheduled scheduled) }
  id related := related.id

theorem rowOrder_launchedRow (campaignId : Uuid) : RowOrder (LaunchedRow campaignId) where
  refl _ := Or.inl rfl
  trans := by
    rintro a b c (rfl | ⟨row, same, mine, approved, scheduled⟩) last
    · exact last
    · rcases last with rfl | ⟨_, _, _, approved', _⟩
      · exact Or.inr ⟨row, same, mine, approved, scheduled⟩
      · rw [scheduled] at approved'
        simp at approved'
  id := by
    rintro a b (rfl | ⟨row, _⟩)
    · rfl
    · exact row.id

theorem Revised.of_not_ships {old new : ContentAsset} (row : SameRow old new) (still : new.status.ships = false) :
    Revised old new where
  toSameRow := row
  ships ships := by simp [still] at ships
  scheduled scheduled := by simp [scheduled, AssetStatus.ships] at still

theorem Revised.of_same_status {old new : ContentAsset} (row : SameRow old new) (status : new.status = old.status)
    (same : SameShipped old new) : Revised old new :=
  ⟨row, fun ships => ⟨status ▸ ships, same⟩, fun scheduled => status ▸ scheduled⟩

/-- The writes of a campaign's status that the writers make. -/
def Permitted (before after : CampaignStatus) : Writer → Prop
  | .transition name => ∃ tr ∈ campaignSm, tr.name = name ∧ tr.fromState = before ∧ tr.toState = after
  | .pauseHelper | .autoPause => before ≠ .paused ∧ after = .paused
  | .synthesiseAudience => before = .drafted ∧ after = .audienceBuilt
  | .acceptStrategy => (before = .audienceBuilt ∨ before = .drafted) ∧ after = .strategySet
  | .generateContent => before = .strategySet ∧ after = .contentInProduction
  | .launchCampaign => before = .readyToLaunch ∧ after = .live

section Ids

variable {db : Db}

theorem writeStatus_eq {c : Campaign} (found : db.campaign? c.id = some c) (after : CampaignStatus) (writer : Writer) :
    db.writeStatus c.id after writer =
      { db.setCampaign { c with status := after } with
        statusWrites := ⟨c.id, c.status, after, writer⟩ :: db.statusWrites } := by
  unfold Db.writeStatus
  rw [found]

theorem setCampaign_ids (db : Db) (c : Campaign) :
    (db.setCampaign c).campaigns.map Campaign.id = db.campaigns.map Campaign.id :=
  updateWhere_keys Campaign.id db.campaigns fun _ hit => (of_decide_eq_true hit).symm

theorem setAsset_ids (db : Db) (a : ContentAsset) :
    (db.setAsset a).assets.map ContentAsset.id = db.assets.map ContentAsset.id :=
  updateWhere_keys ContentAsset.id db.assets fun _ hit => (of_decide_eq_true hit).symm

theorem Db.Wf.of_ids {db' : Db} (wf : db.Wf) (assets : db'.assets.map ContentAsset.id = db.assets.map ContentAsset.id)
    (campaigns : db'.campaigns.map Campaign.id = db.campaigns.map Campaign.id) (nextId : db'.nextId = db.nextId) :
    db'.Wf where
  assetIds := assets ▸ wf.assetIds
  campaignIds := campaigns ▸ wf.campaignIds
  assetsBelow a member := by
    have old : a.id ∈ db.assets.map ContentAsset.id := assets ▸ List.mem_map_of_mem member
    obtain ⟨b, bMember, same⟩ := List.mem_map.mp old
    rw [nextId, ← same]
    exact wf.assetsBelow b bMember
  campaignsBelow c member := by
    have old : c.id ∈ db.campaigns.map Campaign.id := campaigns ▸ List.mem_map_of_mem member
    obtain ⟨d, dMember, same⟩ := List.mem_map.mp old
    rw [nextId, ← same]
    exact wf.campaignsBelow d dMember

theorem writeStatus_wf {c : Campaign} (found : db.campaign? c.id = some c) (after : CampaignStatus) (writer : Writer)
    (wf : db.Wf) : (db.writeStatus c.id after writer).Wf := by
  rw [writeStatus_eq found]
  exact wf.of_ids rfl (setCampaign_ids db { c with status := after }) rfl

theorem Db.Wf.insertAsset (wf : db.Wf) (a : ContentAsset) : (db.insertAsset a).Wf where
  assetIds := by
    refine nodup_keys_append wf.assetIds (List.nodup_singleton _) fun b old added new => ?_
    rw [List.mem_singleton.mp new]
    exact (wf.assetsBelow b old).ne
  campaignIds := wf.campaignIds
  assetsBelow b member := by
    rcases List.mem_append.mp member with old | new
    · exact (wf.assetsBelow b old).trans (Nat.lt_succ_self _)
    · rw [List.mem_singleton.mp new]
      exact Nat.lt_succ_self _
  campaignsBelow c member := (wf.campaignsBelow c member).trans (Nat.lt_succ_self _)

theorem Db.Wf.insertCampaign (wf : db.Wf) {c : Campaign} (fresh : c.id = db.nextId) :
    ({ db with campaigns := db.campaigns ++ [c], nextId := db.nextId + 1 } : Db).Wf where
  campaignIds := by
    refine nodup_keys_append wf.campaignIds (List.nodup_singleton _) fun b old added new => ?_
    rw [List.mem_singleton.mp new, fresh]
    exact (wf.campaignsBelow b old).ne
  assetIds := wf.assetIds
  campaignsBelow b member := by
    rcases List.mem_append.mp member with old | new
    · exact (wf.campaignsBelow b old).trans (Nat.lt_succ_self _)
    · rw [List.mem_singleton.mp new, fresh]
      exact Nat.lt_succ_self _
  assetsBelow a member := (wf.assetsBelow a member).trans (Nat.lt_succ_self _)

end Ids

section Moves

variable [PyText]

/-- What holds when the row `new`, read as `old`, is set to `approved`. -/
structure Vetted (db : Db) (old new : ContentAsset) (path : ApprovalPath) (role : UserRole) : Prop
    extends SameRow old new where
  member : old ∈ db.assets
  blocked : isComplianceBlocked new = isComplianceBlocked old
  checked : path ∈ [.api, .batch, .ui] → isComplianceBlocked old = false
  admin : path ∈ [.api, .batch] → ∀ c, db.campaign? new.campaignId = some c → requiresAdmin new c = true → role = .admin

/-- What one operation is about: the campaigns it may complete, in which
state, the rows it may approve without a compliance check, and the statuses it
may set past the state machine. -/
structure Licence where
  completes : Uuid → Db → Prop
  approves : ContentAsset → Prop
  sets : Uuid → CampaignStatus → Db → Prop

inductive Move (l : Licence) : Db → Db → Prop where
  | revise {db db' : Db} (rows : Rewrites Revised db db') : Move l db db'
  | edit {db : Db} {c c' : Campaign} (member : c ∈ db.campaigns) (sameId : c'.id = c.id)
      (sameStatus : c'.status = c.status) : Move l db (db.setCampaign c')
  | create {db : Db} {a : ContentAsset} (unshipped : a.status.ships = false) : Move l db (db.insertAsset a)
  | found {db : Db} {c : Campaign} (drafted : c.status = .drafted) (fresh : c.id = db.nextId) :
      Move l db { db with campaigns := db.campaigns ++ [c], nextId := db.nextId + 1 }
  | approve {db : Db} {old new : ContentAsset} {path : ApprovalPath} {role : UserRole}
      (vetted : Vetted db old new path role) (licensed : path ∈ [.assistant, .assistantAll] → l.approves old) :
      Move l db (db.writeApproved new path role)
  | write {db : Db} {c : Campaign} {after : CampaignStatus} {writer : Writer} (found : db.campaign? c.id = some c)
      (permitted : Permitted c.status after writer) (licensed : after = .completed → l.completes c.id db)
      (direct : ¬ Registered c.status after → l.sets c.id after db) :
      Move l db (db.writeStatus c.id after writer)
  | launch {db db' : Db} {c : Campaign} (found : db.campaign? c.id = some c) (pending : c.status = .approvalPending)
      (rows : Rewrites (LaunchedRow c.id) (db.writeStatus c.id .readyToLaunch (.transition "start_launch")) db') :
      Move l db db'

abbrev Moves (l : Licence) : Db → Db → Prop := Relation.ReflTransGen (Move l)

variable {l : Licence} {db db' : Db}

theorem Move.wf (move : Move l db db') (wf : db.Wf) : db'.Wf := by
  cases move with
  | revise rows => exact rows.wf rowOrder_revised wf
  | edit member sameId sameStatus => exact wf.of_ids rfl (setCampaign_ids db _) rfl
  | create unshipped => exact wf.insertAsset _
  | found drafted fresh => exact wf.insertCampaign fresh
  | approve vetted licensed => exact wf.of_ids (setAsset_ids db _) rfl rfl
  | write found permitted licensed => exact writeStatus_wf found _ _ wf
  | launch found pending rows => exact rows.wf (rowOrder_launchedRow _) (writeStatus_wf found _ _ wf)

theorem Moves.trans {mid : Db} (first : Moves l db mid) (last : Moves l mid db') : Moves l db db' :=
  Relation.ReflTransGen.trans first last

/-- The induction over the moves: a property of well-formed states that every move keeps. -/
theorem Moves.induct {I : Db → Prop} (moves : Moves l db db') (wf : db.Wf) (start : I db)
    (keep : ∀ db db', db.Wf → I db → Move l db db' → I db') : db'.Wf ∧ I db' := by
  induction moves with
  | refl => exact ⟨wf, start⟩
  | tail _ move ih => exact ⟨move.wf ih.1, keep _ _ ih.1 ih.2 move⟩

theorem Moves.wf (moves : Moves l db db') (wf : db.Wf) : db'.Wf :=
  (moves.induct (I := fun _ => True) wf trivial fun _ _ _ _ _ => trivial).1

end Moves

end MarketingAgents
