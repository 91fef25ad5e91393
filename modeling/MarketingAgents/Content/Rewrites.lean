import MarketingAgents.Lib.Rows
import MarketingAgents.Lib.Result
import MarketingAgents.Db.Models
import MarketingAgents.Agents.Scheduling

namespace MarketingAgents

open Lib

/-- Rows have distinct ids, all handed out before `nextId`. -/
structure Db.Wf (db : Db) : Prop where
  assetIds : (db.assets.map ContentAsset.id).Nodup
  assetsBelow : ∀ a ∈ db.assets, a.id < db.nextId
  campaignIds : (db.campaigns.map Campaign.id).Nodup
  campaignsBelow : ∀ c ∈ db.campaigns, c.id < db.nextId

namespace Db

theorem asset?_mem {db : Db} {id : Uuid} {a : ContentAsset} (found : db.asset? id = some a) :
    a ∈ db.assets ∧ a.id = id := by
  have hit := List.find?_some found
  exact ⟨List.mem_of_find?_eq_some found, by simpa using hit⟩

theorem tenantAsset?_eq_some {db : Db} {user : AppUser} {id : Uuid} {a : ContentAsset}
    (found : db.tenantAsset? user id = some a) : db.asset? id = some a := by
  unfold tenantAsset? at found
  exact (Option.filter_eq_some_iff.mp found).1

theorem campaign?_mem {db : Db} {id : Uuid} {c : Campaign} (found : db.campaign? id = some c) :
    c ∈ db.campaigns ∧ c.id = id := by
  have hit := List.find?_some found
  exact ⟨List.mem_of_find?_eq_some found, by simpa using hit⟩

theorem tenantCampaign?_eq_some {db : Db} {user : AppUser} {id : Uuid} {c : Campaign}
    (found : db.tenantCampaign? user id = some c) : db.campaign? c.id = some c := by
  unfold tenantCampaign? at found
  have here := (Option.filter_eq_some_iff.mp found).1
  rw [(campaign?_mem here).2]
  exact here

theorem campaign?_self {db : Db} {id : Uuid} {c : Campaign} (found : db.campaign? id = some c) :
    db.campaign? c.id = some c := by
  rw [(campaign?_mem found).2]
  exact found

theorem Wf.eq_of_id {db : Db} (wf : db.Wf) {a b : ContentAsset} (left : a ∈ db.assets) (right : b ∈ db.assets)
    (same : a.id = b.id) : a = b :=
  eq_of_key_eq wf.assetIds left right same

end Db

@[simp] theorem writeStatus_assets (db : Db) (id : Uuid) (status : CampaignStatus) (writer : Writer) :
    (db.writeStatus id status writer).assets = db.assets := by
  unfold Db.writeStatus
  split <;> rfl

@[simp] theorem writeStatus_approvals (db : Db) (id : Uuid) (status : CampaignStatus) (writer : Writer) :
    (db.writeStatus id status writer).approvals = db.approvals := by
  unfold Db.writeStatus
  split <;> rfl

theorem writeStatus_tasks (db : Db) (id : Uuid) (status : CampaignStatus) (writer : Writer) :
    (db.writeStatus id status writer).tasks = db.tasks := by
  unfold Db.writeStatus
  split <;> rfl

theorem writeStatus_nextId (db : Db) (id : Uuid) (status : CampaignStatus) (writer : Writer) :
    (db.writeStatus id status writer).nextId = db.nextId := by
  unfold Db.writeStatus
  split <;> rfl

/-- The asset table changes row by row along `R`; campaigns and histories stay. -/
structure Rewrites (R : ContentAsset → ContentAsset → Prop) (db db' : Db) : Prop where
  campaigns : db'.campaigns = db.campaigns
  assets : List.Forall₂ R db.assets db'.assets
  approvals : db'.approvals = db.approvals
  statusWrites : db'.statusWrites = db.statusWrites
  nextId : db.nextId ≤ db'.nextId

/-- The relations a row may change along: they compose, and leave the id alone. -/
structure RowOrder (R : ContentAsset → ContentAsset → Prop) : Prop where
  refl : ∀ a, R a a
  trans : ∀ {a b c}, R a b → R b c → R a c
  id : ∀ {a b}, R a b → b.id = a.id

/-- Nothing of the asset, campaign and history tables changes. -/
abbrev Untouched : Db → Db → Prop := Rewrites Eq

theorem rowOrder_eq : RowOrder Eq where
  refl _ := rfl
  trans := Eq.trans
  id same := by rw [same]

namespace Rewrites

variable {R : ContentAsset → ContentAsset → Prop} {db db' db'' : Db}

theorem refl (order : RowOrder R) (db : Db) : Rewrites R db db :=
  ⟨rfl, List.forall₂_same.mpr fun a _ => order.refl a, rfl, rfl, le_rfl⟩

theorem trans (order : RowOrder R) (first : Rewrites R db db') (last : Rewrites R db' db'') : Rewrites R db db'' where
  campaigns := last.campaigns.trans first.campaigns
  assets := forall₂_trans (R := R) order.trans first.assets last.assets
  approvals := last.approvals.trans first.approvals
  statusWrites := last.statusWrites.trans first.statusWrites
  nextId := first.nextId.trans last.nextId

theorem of_untouched (order : RowOrder R) (same : Untouched db db') : Rewrites R db db' where
  campaigns := same.campaigns
  assets := same.assets.imp fun a _ equal => equal ▸ order.refl a
  approvals := same.approvals
  statusWrites := same.statusWrites
  nextId := same.nextId

theorem wf (order : RowOrder R) (rewrites : Rewrites R db db') (wf : db.Wf) : db'.Wf where
  assetIds := by
    rw [forall₂_map_eq ContentAsset.id order.id rewrites.assets]
    exact wf.assetIds
  assetsBelow := by
    intro a member
    obtain ⟨old, oldMember, related⟩ := forall₂_origin rewrites.assets member
    rw [order.id related]
    exact (wf.assetsBelow old oldMember).trans_le rewrites.nextId
  campaignIds := by
    rw [rewrites.campaigns]
    exact wf.campaignIds
  campaignsBelow := by
    rw [rewrites.campaigns]
    exact fun c member => (wf.campaignsBelow c member).trans_le rewrites.nextId

/-- An update of every row with the id of `old`, of which there is only one. -/
theorem update (order : RowOrder R) (wf : db.Wf) {old : ContentAsset} (member : old ∈ db.assets) {id : Uuid}
    (sameId : old.id = id) {f : ContentAsset → ContentAsset} (related : R old (f old)) :
    Rewrites R db { db with assets := updateWhere (fun a => decide (a.id = id)) f db.assets } where
  campaigns := rfl
  assets := forall₂_updateWhere order.refl fun row rowMember hit => by
    have same : row = old := wf.eq_of_id rowMember member ((of_decide_eq_true hit).trans sameId.symm)
    rw [same]
    exact related
  approvals := rfl
  statusWrites := rfl
  nextId := le_rfl

theorem setAsset (order : RowOrder R) (wf : db.Wf) {old new : ContentAsset} (member : old ∈ db.assets)
    (related : R old new) : Rewrites R db (db.setAsset new) :=
  update order wf member (order.id related).symm (f := fun _ => new) related

end Rewrites

/-- An update by id of a stored row is an update with what that row becomes. -/
theorem update_eq_setAsset {db : Db} (wf : db.Wf) {a : ContentAsset} (here : a ∈ db.assets)
    {f : ContentAsset → ContentAsset} (sameId : (f a).id = a.id) :
    { db with assets := updateWhere (fun row => decide (row.id = a.id)) f db.assets } = db.setAsset (f a) := by
  have rows : updateWhere (fun row => decide (row.id = a.id)) f db.assets =
      updateWhere (fun row => decide (row.id = (f a).id)) (fun _ => f a) db.assets := by
    refine List.map_congr_left fun row member => ?_
    rw [sameId]
    split
    · rename_i hit
      rw [wf.eq_of_id member here (of_decide_eq_true hit)]
    · rfl
  rw [rows]
  rfl

section Untouched

variable {db db' : Db}

theorem Untouched.intro (campaigns : db'.campaigns = db.campaigns) (assets : db'.assets = db.assets)
    (approvals : db'.approvals = db.approvals) (statusWrites : db'.statusWrites = db.statusWrites)
    (nextId : db.nextId ≤ db'.nextId) : Untouched db db' :=
  ⟨campaigns, by rw [assets]; exact List.forall₂_same.mpr fun _ _ => rfl, approvals, statusWrites, nextId⟩

theorem Untouched.assets_eq (same : Untouched db db') : db'.assets = db.assets :=
  (List.forall₂_eq_eq_eq ▸ same.assets : db.assets = db'.assets).symm

theorem Untouched.campaign?_eq (same : Untouched db db') (id : Uuid) : db'.campaign? id = db.campaign? id := by
  unfold Db.campaign?
  rw [same.campaigns]

theorem untouched_enqueue {args : EnqueueArgs} {now : Int} (done : db.enqueue args now = .ok db') :
    Untouched db db' := by
  unfold Db.enqueue at done
  split at done
  · cases Except.ok.inj done
    exact .intro rfl rfl rfl rfl (Nat.le_succ _)
  · simp at done

theorem untouched_ensureAgent (db : Db) (tenantId : Uuid) (kind : AgentKind) :
    Untouched db (db.ensureAgent tenantId kind).1 := by
  unfold Db.ensureAgent
  split
  · exact .intro rfl rfl rfl rfl le_rfl
  · exact .intro rfl rfl rfl rfl (Nat.le_succ _)

theorem untouched_insertDecision (db : Db) (d : ApprovalDecisionLog) : Untouched db (db.insertDecision d) :=
  .intro rfl rfl rfl rfl (Nat.le_succ _)

theorem untouched_cancelQueued (db : Db) (campaignId : Uuid) (now : Int) :
    Untouched db (db.cancelQueued campaignId now) :=
  .intro rfl rfl rfl rfl le_rfl

end Untouched

section Loop

variable {R : ContentAsset → ContentAsset → Prop} {db db' : Db} {rows : List ContentAsset}

/-- A loop over rows read before it: each pass rewrites its own row, so the
rows still to come are in the table as they were read. -/
theorem Rewrites.foldlM (order : RowOrder R) {f : Db → ContentAsset → Except AppError Db}
    (pass : ∀ a ∈ rows, ∀ db db', db.Wf → a ∈ db.assets → f db a = .ok db' →
      Rewrites R db db' ∧ ∀ b ∈ db.assets, b.id ≠ a.id → b ∈ db'.assets)
    (wf : db.Wf) (present : ∀ a ∈ rows, a ∈ db.assets) (distinct : (rows.map ContentAsset.id).Nodup)
    (done : rows.foldlM f db = .ok db') : Rewrites R db db' := by
  induction rows generalizing db with
  | nil =>
    simp only [List.foldlM_nil, pure_eq_ok] at done
    exact done ▸ Rewrites.refl order db
  | cons a rows ih =>
    simp only [List.foldlM_cons, bind_eq_ok] at done
    obtain ⟨next, first, rest⟩ := done
    obtain ⟨step, others⟩ := pass a (List.mem_cons_self ..) db next wf (present a (List.mem_cons_self ..)) first
    rw [List.map_cons, List.nodup_cons] at distinct
    have still : ∀ b ∈ rows, b ∈ next.assets := fun b later =>
      others b (present b (List.mem_cons_of_mem _ later)) fun same =>
        distinct.1 (same ▸ List.mem_map_of_mem later)
    exact step.trans order
      (ih (fun b later => pass b (List.mem_cons_of_mem _ later)) (step.wf order wf) still distinct.2 rest)

theorem Rewrites.foldl (order : RowOrder R) {f : Db → ContentAsset → Db}
    (pass : ∀ a ∈ rows, ∀ db, db.Wf → a ∈ db.assets →
      Rewrites R db (f db a) ∧ ∀ b ∈ db.assets, b.id ≠ a.id → b ∈ (f db a).assets)
    (wf : db.Wf) (present : ∀ a ∈ rows, a ∈ db.assets) (distinct : (rows.map ContentAsset.id).Nodup) :
    Rewrites R db (rows.foldl f db) := by
  refine Rewrites.foldlM (f := fun db a => .ok (f db a)) order ?_ wf present distinct (List.foldlM_pure ..)
  intro a member db db' wf here done
  cases Except.ok.inj done
  exact pass a member db wf here

theorem mem_setAsset_of_ne {new b : ContentAsset} (member : b ∈ db.assets) (different : b.id ≠ new.id) :
    b ∈ (db.setAsset new).assets :=
  mem_updateWhere.mpr (Or.inr ⟨member, decide_eq_false different⟩)

/-- The rows of a campaign, filtered by status, are rows of the table with distinct ids. -/
theorem campaignRows_mem {campaignId : Uuid} {p : ContentAsset → Bool} {a : ContentAsset}
    (member : a ∈ (db.campaignAssets campaignId).filter p) : a ∈ db.assets ∧ a.campaignId = campaignId ∧ p a = true := by
  obtain ⟨inner, holds⟩ := List.mem_filter.mp member
  obtain ⟨here, mine⟩ := List.mem_filter.mp inner
  exact ⟨here, of_decide_eq_true mine, holds⟩

theorem campaignRows_nodup (wf : db.Wf) (campaignId : Uuid) (p : ContentAsset → Bool) :
    (((db.campaignAssets campaignId).filter p).map ContentAsset.id).Nodup :=
  wf.assetIds.sublist ((List.filter_sublist.trans List.filter_sublist).map _)

theorem Rewrites.setAsset_pass (order : RowOrder R) (wf : db.Wf)
    {a new : ContentAsset} (here : a ∈ db.assets) (related : R a new) {mid : Db}
    (same : Untouched (db.setAsset new) mid) :
    Rewrites R db mid ∧ ∀ b ∈ db.assets, b.id ≠ a.id → b ∈ mid.assets := by
  refine ⟨(Rewrites.setAsset order wf here related).trans order (.of_untouched order same), fun b member different => ?_⟩
  rw [same.assets_eq]
  refine mem_setAsset_of_ne member ?_
  rw [order.id related]
  exact different

end Loop

end MarketingAgents
