import MarketingAgents.Lib.Alike
import MarketingAgents.Content.Effects
import MarketingAgents.Content.System

namespace MarketingAgents

open Lib PyText

/-- The approval settings of the database replaced. -/
def Db.withSettings (db : Db) (settings : List TenantApprovalSettings) : Db := { db with approvalSettings := settings }

/-- The snapshot that a submission leaves on a row. -/
def ContentAsset.threshold (a : ContentAsset) : Option Json := a.extraMetadata.get? "approval_threshold"

/-- Since `start` no asset has been submitted, and the settings stand. -/
structure Unsubmitted (start db : Db) : Prop where
  settings : db.approvalSettings = start.approvalSettings
  pending : ∀ b ∈ db.assets, b.status = .pendingApproval →
    ∃ a ∈ start.assets, a.id = b.id ∧ a.status = .pendingApproval ∧ a.threshold = b.threshold

/-- What two runs from `start` reach that differ in their settings alone. -/
structure Twin (start : Db) (settings : List TenantApprovalSettings) (d e : Db) : Prop where
  steady : Unsubmitted start d
  apart : e = d.withSettings settings

section Unsubmitted

variable {start db db' : Db}

theorem Unsubmitted.refl (start : Db) : Unsubmitted start start := ⟨rfl, fun b member status => ⟨b, member, rfl, status, rfl⟩⟩

theorem Unsubmitted.of_assets (steady : Unsubmitted start db) (assets : db'.assets = db.assets)
    (settings : db'.approvalSettings = db.approvalSettings) : Unsubmitted start db' :=
  ⟨settings.trans steady.settings, assets ▸ steady.pending⟩

/-- A row that is written does not become pending, and keeps its snapshot while it is. -/
theorem Unsubmitted.updateWhere (steady : Unsubmitted start db) {p : ContentAsset → Bool} {f : ContentAsset → ContentAsset}
    (kept : ∀ a ∈ db.assets, p a = true → (f a).status = .pendingApproval →
      ∃ old ∈ db.assets, old.id = (f a).id ∧ old.status = .pendingApproval ∧ old.threshold = (f a).threshold) :
    Unsubmitted start { db with assets := Lib.updateWhere p f db.assets } := by
  refine ⟨steady.settings, fun b member status => ?_⟩
  rcases mem_updateWhere.mp member with ⟨a, here, hit, rfl⟩ | ⟨stays, _⟩
  · obtain ⟨old, there, sameId, wasPending, sameThreshold⟩ := kept a here hit status
    obtain ⟨first, member, id, pending, threshold⟩ := steady.pending old there wasPending
    exact ⟨first, member, id.trans sameId, pending, threshold.trans sameThreshold⟩
  · exact steady.pending b stays status

theorem Unsubmitted.setAsset (steady : Unsubmitted start db) {new : ContentAsset} (settled : new.status ≠ .pendingApproval) :
    Unsubmitted start (db.setAsset new) :=
  steady.updateWhere fun _ _ _ status => absurd status settled

/-- Writing a stored row back with its status and its snapshot. -/
theorem Unsubmitted.annotate (steady : Unsubmitted start db) {old new : ContentAsset} (here : old ∈ db.assets)
    (id : new.id = old.id)
    (status : new.status = old.status) (threshold : new.threshold = old.threshold) : Unsubmitted start (db.setAsset new) :=
  steady.updateWhere fun _ _ _ pending => ⟨old, here, id.symm, status ▸ pending, threshold.symm⟩

theorem Unsubmitted.insertAsset (steady : Unsubmitted start db) {a : ContentAsset} (settled : a.status ≠ .pendingApproval) :
    Unsubmitted start (db.insertAsset a) := by
  refine ⟨steady.settings, fun b member status => ?_⟩
  rcases List.mem_append.mp member with old | new
  · exact steady.pending b old status
  · rw [List.mem_singleton.mp new] at status
    exact absurd status settled

end Unsubmitted

section Primitives

variable {start d e : Db} {settings : List TenantApprovalSettings}

theorem Twin.refl (start : Db) (settings : List TenantApprovalSettings) :
    Twin start settings start (start.withSettings settings) := ⟨.refl start, rfl⟩

theorem Twin.writeStatus (twin : Twin start settings d e) (campaignId : Uuid) (status : CampaignStatus) (writer : Writer) :
    Twin start settings (d.writeStatus campaignId status writer) (e.writeStatus campaignId status writer) := by
  obtain ⟨steady, rfl⟩ := twin
  have same : (d.withSettings settings).campaign? campaignId = d.campaign? campaignId := rfl
  unfold Db.writeStatus
  rw [same]
  cases d.campaign? campaignId with
  | none => exact ⟨steady, rfl⟩
  | some c => exact ⟨steady.of_assets rfl rfl, rfl⟩

theorem Twin.ensureAgent (twin : Twin start settings d e) (tenantId : Uuid) (kind : AgentKind) :
    Twin start settings (d.ensureAgent tenantId kind).1 (e.ensureAgent tenantId kind).1 ∧
      (e.ensureAgent tenantId kind).2 = (d.ensureAgent tenantId kind).2 := by
  obtain ⟨steady, rfl⟩ := twin
  have same : (d.withSettings settings).agents = d.agents := rfl
  unfold Db.ensureAgent
  rw [same]
  cases d.agents.find? fun agent => agent.tenantId = tenantId ∧ agent.agentType = kind with
  | none => exact ⟨⟨steady.of_assets rfl rfl, rfl⟩, rfl⟩
  | some agent => exact ⟨⟨steady, rfl⟩, rfl⟩

theorem Twin.enqueue (twin : Twin start settings d e) (args : EnqueueArgs) (now : Int) :
    Alike (Twin start settings) (d.enqueue args now) (e.enqueue args now) := by
  obtain ⟨steady, rfl⟩ := twin
  have same : Queue.enqueueTask (d.withSettings settings).tasks args (d.withSettings settings).nextId now =
      Queue.enqueueTask d.tasks args d.nextId now := rfl
  unfold Db.enqueue
  rw [same]
  cases Queue.enqueueTask d.tasks args d.nextId now with
  | error error => exact .error _
  | ok queued => exact .ok ⟨steady.of_assets rfl rfl, rfl⟩

end Primitives

section Hooks

variable [PyText] {start d e : Db} {settings : List TenantApprovalSettings}

theorem scheduledRow_settled (db : Db) (now : Int) (a : ContentAsset) :
    (scheduledRow db now a).status ≠ .pendingApproval := by
  rw [scheduledRow_status]
  decide

theorem scheduleAsset_twin (twin : Twin start settings d e) (c : Campaign) (agentId : Uuid) (now : Int) (a : ContentAsset) :
    Alike (Twin start settings) (scheduleAsset c agentId now d a) (scheduleAsset c agentId now e a) := by
  obtain ⟨steady, rfl⟩ := twin
  have same : scheduledRow (d.withSettings settings) now a = scheduledRow d now a := rfl
  have written : Twin start settings (d.setAsset (scheduledRow d now a))
      ((d.withSettings settings).setAsset (scheduledRow d now a)) :=
    ⟨steady.setAsset (scheduledRow_settled d now a), rfl⟩
  unfold scheduleAsset
  rw [same]
  cases dispatchSkillFor a.assetType with
  | none => exact .ok written
  | some skill => exact written.enqueue _ now

theorem scheduleApprovedAssets_twin (twin : Twin start settings d e) (c : Campaign) (now : Int) :
    Alike (Twin start settings) (scheduleApprovedAssets d c now) (scheduleApprovedAssets e c now) := by
  have same : e.campaignAssets c.id = d.campaignAssets c.id := by rw [twin.apart]; rfl
  obtain ⟨agent, sameId⟩ := twin.ensureAgent c.tenantId .channelDistribution
  unfold scheduleApprovedAssets
  rw [same]
  dsimp only
  split
  · exact .ok twin
  · rw [sameId]
    exact .foldlM agent fun a _ _ _ mid => scheduleAsset_twin mid c _ now a

theorem resumeAsset_twin (twin : Twin start settings d e) (c : Campaign) (agentId : Uuid) (now : Int) (a : ContentAsset) :
    Alike (Twin start settings) (resumeAsset c agentId now d a) (resumeAsset c agentId now e a) := by
  have late : Twin start settings (d.setAsset (elapsedRow now a)) (e.setAsset (elapsedRow now a)) := by
    obtain ⟨steady, rfl⟩ := twin
    exact ⟨steady.setAsset (by simp [elapsedRow]), rfl⟩
  unfold resumeAsset
  split
  · exact .ok late
  · split
    · exact .ok twin
    · exact twin.enqueue _ now

theorem resumeDistributionForCampaign_twin (twin : Twin start settings d e) (c : Campaign) (now : Int) :
    Alike (Twin start settings) (resumeDistributionForCampaign d c now) (resumeDistributionForCampaign e c now) := by
  have same : e.campaignAssets c.id = d.campaignAssets c.id := by rw [twin.apart]; rfl
  obtain ⟨agent, sameId⟩ := twin.ensureAgent c.tenantId .channelDistribution
  unfold resumeDistributionForCampaign
  rw [same]
  dsimp only
  split
  · exact .ok twin
  · rw [sameId]
    exact .foldlM agent fun a _ _ _ mid => resumeAsset_twin mid c _ now a

omit [PyText] in
theorem Twin.cancelQueued (twin : Twin start settings d e) (campaignId : Uuid) (now : Int) :
    Twin start settings (d.cancelQueued campaignId now) (e.cancelQueued campaignId now) := by
  obtain ⟨steady, rfl⟩ := twin
  exact ⟨steady.of_assets rfl rfl, rfl⟩

theorem enqueueEchoStep_twin (twin : Twin start settings d e) (c : Campaign) (now : Int) :
    Alike (Twin start settings) (enqueueEchoStep d c now) (enqueueEchoStep e c now) := by
  obtain ⟨agent, sameId⟩ := twin.ensureAgent c.tenantId .orchestrator
  unfold enqueueEchoStep
  dsimp only
  rw [sameId]
  exact agent.enqueue _ now

omit [PyText] in
theorem Twin.tagAsset (twin : Twin start settings d e) {key : String} (other : key ≠ "approval_threshold") (value : Json)
    (id : Uuid) : Twin start settings (d.tagAsset key value id) (e.tagAsset key value id) := by
  obtain ⟨steady, rfl⟩ := twin
  have same : (d.withSettings settings).asset? id = d.asset? id := rfl
  unfold Db.tagAsset
  rw [same]
  cases found : d.asset? id with
  | none => exact ⟨steady, rfl⟩
  | some a =>
    exact ⟨steady.annotate (Db.asset?_mem found).1 rfl rfl (Dict.get?_set_ne _ _ other), rfl⟩

omit [PyText] in
theorem insertAssets_twin (twin : Twin start settings d e) {rows : List ContentAsset}
    (settled : ∀ a ∈ rows, a.status ≠ .pendingApproval) :
    Twin start settings (insertAssets d rows).1 (insertAssets e rows).1 ∧ (insertAssets e rows).2 = (insertAssets d rows).2 := by
  induction rows generalizing d e with
  | nil => exact ⟨twin, rfl⟩
  | cons a rows ih =>
    obtain ⟨here, settled⟩ := List.forall_mem_cons.mp settled
    obtain ⟨steady, rfl⟩ := twin
    obtain ⟨rest, sameIds⟩ := @ih (d.insertAsset a) ((d.withSettings settings).insertAsset a)
      ⟨steady.insertAsset here, rfl⟩ settled
    exact ⟨rest, congrArg (d.nextId :: ·) sameIds⟩

omit [PyText] in
theorem insertGroups_twin (twin : Twin start settings d e) {groups : List (Option AbTestSpec × List ContentAsset)}
    (settled : ∀ group ∈ groups, ∀ a ∈ group.2, a.status ≠ .pendingApproval) :
    Twin start settings (insertGroups d groups).1 (insertGroups e groups).1 ∧
      (insertGroups e groups).2 = (insertGroups d groups).2 := by
  induction groups generalizing d e with
  | nil => exact ⟨twin, rfl⟩
  | cons group groups ih =>
    obtain ⟨spec, rows⟩ := group
    obtain ⟨here, settled⟩ := List.forall_mem_cons.mp settled
    obtain ⟨first, sameIds⟩ := insertAssets_twin twin here
    obtain ⟨rest, sameGroups⟩ := ih first settled
    refine ⟨rest, ?_⟩
    simp only [insertGroups]
    rw [sameIds, sameGroups]

theorem seedAbTest_twin (twin : Twin start settings d e) (c : Campaign) (group : Option AbTestSpec × List Uuid) :
    Twin start settings (seedAbTest c d group) (seedAbTest c e group) := by
  obtain ⟨spec, ids⟩ := group
  cases spec with
  | none => exact twin
  | some spec =>
    obtain ⟨steady, rfl⟩ := twin
    exact List.foldl_rel ⟨steady.of_assets rfl rfl, rfl⟩ fun id _ _ _ mid => mid.tagAsset (by decide) _ id

theorem seedTouchpoint_requested {db : Db} {c : Campaign} {specs : List AbTestSpec} {tp : StrategyTouchpoint}
    {group : Option AbTestSpec × List ContentAsset} (planned : seedTouchpoint db c specs tp = some group) :
    ∀ a ∈ group.2, a.status = .requested := by
  obtain ⟨plan, _, rfl⟩ := Option.map_eq_some_iff.mp planned
  intro a member
  obtain ⟨variant, _, rfl⟩ := List.mem_map.mp member
  rfl

theorem seedAssetsForCampaign_twin (twin : Twin start settings d e) (c : Campaign) (now : Int) :
    Alike (fun made made' => Twin start settings made.1 made'.1 ∧ made'.2 = made.2) (seedAssetsForCampaign d c now)
      (seedAssetsForCampaign e c now) := by
  obtain ⟨agent, sameId⟩ := twin.ensureAgent c.tenantId .contentCreator
  have channels : (e.ensureAgent c.tenantId .contentCreator).1.channels =
      (d.ensureAgent c.tenantId .contentCreator).1.channels := by rw [agent.apart]; rfl
  have proposal : e.acceptedProposal? c.id = d.acceptedProposal? c.id := by rw [twin.apart]; rfl
  have touchpoints : e.touchpoints = d.touchpoints := by rw [twin.apart]; rfl
  unfold seedAssetsForCampaign
  rw [proposal, touchpoints]
  refine .read fun accepted _ => .read fun _ _ => ?_
  have sameGroups : seedTouchpoint (e.ensureAgent c.tenantId .contentCreator).1 c (parseAbTestSpecs accepted.payload) =
      seedTouchpoint (d.ensureAgent c.tenantId .contentCreator).1 c (parseAbTestSpecs accepted.payload) := by
    funext tp
    unfold seedTouchpoint
    rw [channels]
  dsimp only
  rw [sameGroups, sameId]
  refine .read fun _ _ => ?_
  generalize planned : List.filterMap (seedTouchpoint (d.ensureAgent c.tenantId .contentCreator).1 c
    (parseAbTestSpecs accepted.payload)) _ = groups
  have settled : ∀ group ∈ groups, ∀ a ∈ group.2, a.status ≠ .pendingApproval := by
    intro group member a here
    subst planned
    obtain ⟨tp, _, planned⟩ := List.mem_filterMap.mp member
    rw [seedTouchpoint_requested planned a here]
    decide
  obtain ⟨inserted, sameIds⟩ := insertGroups_twin agent settled
  rw [sameIds]
  refine .bind (.foldlM ?_ fun id _ _ _ mid => mid.enqueue _ now) fun _ _ last => .pure ⟨last, rfl⟩
  exact List.foldl_rel inserted fun group _ _ _ mid => seedAbTest_twin mid c group

end Hooks

section Submission

/-- The drafts that a submission of the campaign takes along. -/
def draftsFor (db : Db) (c : Campaign) : List ContentAsset := (db.requiredAssets c.id).filter (·.status = .drafted)

theorem mem_draftsFor {db : Db} {c : Campaign} {a : ContentAsset} (member : a ∈ draftsFor db c) :
    a ∈ db.assets ∧ a.campaignId = c.id ∧ a.isRequired = true ∧ a.status = .drafted := by
  obtain ⟨required, drafted⟩ := List.mem_filter.mp member
  obtain ⟨here, mine, isRequired⟩ := mem_requiredAssets.mp required
  exact ⟨here, mine, isRequired, of_decide_eq_true drafted⟩

/-- The rows go to approval, under the snapshot. -/
def submitRows (snapshot : Json) (rows : List ContentAsset) (db : Db) : Db :=
  rows.foldl (fun db a => db.setAsset (submittedRow snapshot a)) db

/-- The snapshot that a submission of the campaign takes. -/
def Db.snapshotFor [PyText] (db : Db) (c : Campaign) (now : Int) : Json :=
  thresholdSnapshot (db.approvalSettings.find? (·.tenantId = c.tenantId)) now

theorem flip_eq [PyText] (db : Db) (c : Campaign) (now : Int) :
    flipDraftedAssetsToPendingApproval db c now = submitRows (db.snapshotFor c now) (draftsFor db c) db := rfl

theorem submitRows_withSettings (snapshot : Json) (rows : List ContentAsset) (db : Db)
    (settings : List TenantApprovalSettings) :
    submitRows snapshot rows (db.withSettings settings) = (submitRows snapshot rows db).withSettings settings := by
  induction rows generalizing db with
  | nil => rfl
  | cons a rows ih => exact ih (db.setAsset (submittedRow snapshot a))

theorem submitRows_campaigns (snapshot : Json) (rows : List ContentAsset) (db : Db) :
    (submitRows snapshot rows db).campaigns = db.campaigns := by
  induction rows generalizing db with
  | nil => rfl
  | cons a rows ih => exact ih (db.setAsset (submittedRow snapshot a))

/-- A row after the submission has been taken along, or stood there before. -/
theorem mem_submitRows {snapshot : Json} {rows : List ContentAsset} {db : Db} {b : ContentAsset}
    (member : b ∈ (submitRows snapshot rows db).assets) : (∃ a ∈ rows, b = submittedRow snapshot a) ∨ b ∈ db.assets := by
  induction rows generalizing db with
  | nil => exact Or.inr member
  | cons a rows ih =>
    rcases ih member with ⟨other, listed, value⟩ | here
    · exact Or.inl ⟨other, List.mem_cons_of_mem _ listed, value⟩
    · exact (mem_setAsset here).imp_left fun value => ⟨a, List.mem_cons_self .., value⟩

/-- What has been submitted is replaced by what is submitted under its id alone. -/
theorem submitRows_keeps {snapshot : Json} {rows : List ContentAsset} {db : Db} {a : ContentAsset}
    (submitted : submittedRow snapshot a ∈ db.assets) :
    ∃ b ∈ a :: rows, b.id = a.id ∧ submittedRow snapshot b ∈ (submitRows snapshot rows db).assets := by
  induction rows generalizing db a with
  | nil => exact ⟨a, List.mem_cons_self .., rfl, submitted⟩
  | cons next rows ih =>
    by_cases same : next.id = a.id
    · have written : submittedRow snapshot next ∈ (db.setAsset (submittedRow snapshot next)).assets :=
        mem_updateWhere.mpr (Or.inl ⟨_, submitted, decide_eq_true same.symm, rfl⟩)
      obtain ⟨b, listed, id, there⟩ := ih written
      exact ⟨b, List.mem_cons_of_mem _ listed, id.trans same, there⟩
    · have kept : submittedRow snapshot a ∈ (db.setAsset (submittedRow snapshot next)).assets :=
        mem_updateWhere.mpr (Or.inr ⟨submitted, decide_eq_false (Ne.symm same)⟩)
      obtain ⟨b, listed, id, there⟩ := ih kept
      exact ⟨b, (List.mem_cons.mp listed).elim (fun same => List.mem_cons.mpr (Or.inl same))
        fun later => List.mem_cons_of_mem _ (List.mem_cons_of_mem _ later), id, there⟩

/-- Every row that is taken along is pending afterwards. -/
theorem submitRows_submits {snapshot : Json} {rows : List ContentAsset} {db : Db} {a : ContentAsset} (listed : a ∈ rows)
    (stored : a.id ∈ db.assets.map ContentAsset.id) :
    ∃ b ∈ rows, b.id = a.id ∧ submittedRow snapshot b ∈ (submitRows snapshot rows db).assets := by
  induction rows generalizing db with
  | nil => cases listed
  | cons first rows ih =>
    rcases List.mem_cons.mp listed with rfl | later
    · obtain ⟨old, here, same⟩ := List.mem_map.mp stored
      exact submitRows_keeps (mem_updateWhere.mpr (Or.inl ⟨old, here, decide_eq_true same, rfl⟩))
    · obtain ⟨b, member, id, there⟩ := @ih (db.setAsset (submittedRow snapshot first)) later
        (by rwa [setAsset_ids])
      exact ⟨b, List.mem_cons_of_mem _ member, id, there⟩

end Submission

end MarketingAgents
