import MarketingAgents.Content.Hooks

namespace MarketingAgents

open Lib PyText

/-- What a write may do to the status of the campaign `c`. -/
inductive StatusStep (may : Cause → Db → Prop) (now : Int) (db db' : Db) (c : Campaign) (after : CampaignStatus) : Prop where
  | kept (same : after = c.status)
  | wrote (writer : Writer) (permitted : Permitted c.status after writer)
      (plain : after ∉ [.approvalPending, .readyToLaunch])
      (live : after = .live → writer = .transition "start_live" ∧ may (.starts c.id) db ∨
        writer = .launchCampaign ∧ may (.launches c.id) db)
  | submitted (producing : c.status = .contentInProduction)
      (drafted : Guard.allRequiredAssetsDrafted.holds db c now = true) (pending : after = .approvalPending)
      (flipped : ∀ a ∈ db'.assets, a.campaignId = c.id → a.isRequired = true →
        a.status = .pendingApproval ∨ a ∈ db.assets ∧ a.status ≠ .drafted)
  | launched (pending : c.status = .approvalPending) (ready : after = .readyToLaunch)
  | resumed (paused : c.status = .paused) (asked : may (.resumes c.id) db) (live : after = .live)

theorem mem_requiredAssets {db : Db} {campaignId : Uuid} {a : ContentAsset} :
    a ∈ db.requiredAssets campaignId ↔ a ∈ db.assets ∧ a.campaignId = campaignId ∧ a.isRequired = true := by
  simp only [Db.requiredAssets, Db.campaignAssets, List.mem_filter, decide_eq_true_eq, and_assoc]

section Campaigns

variable [PyText] {may : Cause → Db → Prop} {now : Int} {db db' : Db}

/-- Where a campaign behind a write comes from: it is new and drafted, or an old one
whose status has made a step that the operation may make. -/
theorem Write.campaigns (write : Write may now db db') (wf : db.Wf) {d : Campaign} (member : d ∈ db'.campaigns) :
    (d.status = .drafted ∧ d.id = db.nextId) ∨
      ∃ old ∈ db.campaigns, old.id = d.id ∧ StatusStep may now db db' old d.status := by
  have still : ∀ {mid : Db}, mid.campaigns = db.campaigns → d ∈ mid.campaigns →
      ∃ old ∈ db.campaigns, old.id = d.id ∧ StatusStep may now db db' old d.status := fun same here =>
    ⟨d, same ▸ here, rfl, .kept rfl⟩
  have wrote : ∀ {c : Campaign} {after : CampaignStatus} {writer : Writer}, db.campaign? c.id = some c →
      StatusStep may now db db' c after → d ∈ (db.writeStatus c.id after writer).campaigns →
      ∃ old ∈ db.campaigns, old.id = d.id ∧ StatusStep may now db db' old d.status := by
    intro c after writer found step here
    rcases mem_writeStatus found here with rfl | ⟨stays, _⟩
    · exact ⟨c, (Db.campaign?_mem found).1, rfl, step⟩
    · exact ⟨d, stays, rfl, .kept rfl⟩
  cases write with
  | side same => exact Or.inr (still same.campaigns member)
  | task other done => exact Or.inr (still (untouched_enqueue done).campaigns member)
  | cancel found paused => exact Or.inr (still rfl member)
  | found drafted fresh =>
    rcases List.mem_append.mp member with old | new
    · exact Or.inr ⟨d, old, rfl, .kept rfl⟩
    · rw [List.mem_singleton.mp new]
      exact Or.inl ⟨drafted, fresh⟩
  | edit there sameId sameStatus =>
    rcases mem_setCampaign member with ⟨rfl, _⟩ | ⟨stays, _⟩
    · exact Or.inr ⟨_, there, sameId.symm, .kept sameStatus⟩
    · exact Or.inr ⟨d, stays, rfl, .kept rfl⟩
  | status found permitted plain live completed => exact Or.inr (wrote found (.wrote _ permitted plain live) member)
  | submit found producing drafted =>
    obtain ⟨side, _, snapshot, assets⟩ := flipDraftedAssetsToPendingApproval_flips (writeStatus_wf found _ _ wf) _ now
    rw [side.campaigns] at member
    refine Or.inr (wrote found (.submitted producing drafted rfl fun a there mine required => ?_) member)
    rw [assets, writeStatus_assets] at there
    obtain ⟨old, here, value⟩ := List.mem_map.mp there
    split at value
    · exact Or.inl (by simp [← value, submittedRow])
    · rename_i unchosen
      subst value
      exact Or.inr ⟨here, fun status => unchosen ⟨mine, required, status⟩⟩
  | launch found pending done =>
    rw [(scheduleApprovedAssets_schedules (writeStatus_wf found _ _ wf) done).side.campaigns] at member
    exact Or.inr (wrote found (.launched pending rfl) member)
  | resume found paused asked done =>
    rw [(resumeDistributionForCampaign_resumes (writeStatus_wf found _ _ wf) done).side.campaigns] at member
    exact Or.inr (wrote found (.resumed paused asked rfl) member)
  | seed asked done => exact Or.inr (still (seedAssetsForCampaign_seeded wf done).campaigns member)
  | rewrite here edited => exact Or.inr (still rfl member)
  | regenerate here campaign producing skill owner named unkeyed done =>
    have same := (sameCore_ensureAgent _ _ .contentCreator).campaigns.symm.trans (untouched_enqueue done).campaigns.symm
    exact Or.inr (still same.symm member)
  | approve vetted traced status logged silent assistant => exact Or.inr (still (note_campaigns db _) member)
  | reject here traced status rejected logged silent => exact Or.inr (still (note_campaigns db _) member)
  | create status asked => exact Or.inr (still rfl member)
  | ledger planned => exact Or.inr (still rfl member)
  | newTest fresh designing undecided configured => exact Or.inr (still rfl member)
  | setTest found step split => exact Or.inr (still rfl member)

end Campaigns

section Assets

variable [PyText]

/-- Where a row of the table after a write comes from. -/
inductive AssetStep (may : Cause → Db → Prop) (now : Int) (db db' : Db) (new : ContentAsset) : Prop where
  | kept (here : new ∈ db.assets)
  | edited (old : ContentAsset) (here : old ∈ db.assets) (edited : Edited may db old new)
  | regenerated (old : ContentAsset) (here : old ∈ db.assets) (traced : Traced old new) (status : new.status = .requested)
      (producing : ∃ c ∈ db.campaigns, c.id = old.campaignId ∧ c.status ∈ [.contentInProduction, .approvalPending])
      (queued : ∃ t ∈ db'.tasks, db.nextId ≤ t.id ∧ t.status = .queued ∧
        Pursues (some "content_creator.generate_asset") new t)
      (asked : may (.regenerates old) db)
  | approved (old : ContentAsset) (here : old ∈ db.assets) (traced : Traced old new)
      (reviewable : old.status ∈ [.drafted, .pendingApproval, .rejected]) (status : new.status = .approved)
  | rejected (old : ContentAsset) (here : old ∈ db.assets) (traced : Traced old new)
      (reviewable : old.status ∈ [.drafted, .pendingApproval]) (status : new.status = .rejected)
  | submitted (old : ContentAsset) (here : old ∈ db.assets) (traced : Traced old new) (drafted : old.status = .drafted)
      (status : new.status = .pendingApproval)
  | scheduled (old : ContentAsset) (here : old ∈ db.assets) (traced : Traced old new) (approved : old.status = .approved)
      (status : new.status = .scheduled)
      (pending : ∃ c ∈ db.campaigns, c.id = old.campaignId ∧ c.status = .approvalPending)
  | elapsed (old : ContentAsset) (here : old ∈ db.assets) (traced : Traced old new) (scheduled : old.status = .scheduled)
      (status : new.status = .failed)
  | created (a : ContentAsset) (asked : may (.creates a) db) (status : a.status ∈ [.requested, .drafted])
      (value : new = { a with id := db.nextId })
  | seeded (c : Campaign) (ids : List Uuid) (asked : may (.seeds c.id) db)
      (done : seedAssetsForCampaign db c now = .ok (db', ids)) (fresh : db.nextId ≤ new.id) (campaign : new.campaignId = c.id)
      (status : new.status = .requested) (required : new.isRequired = true)

theorem AssetStep.origin {may : Cause → Db → Prop} {now : Int} {db db' : Db} {new : ContentAsset}
    (step : AssetStep may now db db' new) :
    (∃ old ∈ db.assets, Traced old new) ∨ (∃ a, may (.creates a) db ∧ new = { a with id := db.nextId }) ∨
      ∃ c ids, may (.seeds c.id) db ∧ seedAssetsForCampaign db c now = .ok (db', ids) ∧ db.nextId ≤ new.id := by
  cases step with
  | kept here => exact Or.inl ⟨new, here, .refl new⟩
  | edited old here edited => exact Or.inl ⟨old, here, edited.traced⟩
  | regenerated old here traced | approved old here traced | rejected old here traced | submitted old here traced
  | scheduled old here traced | elapsed old here traced => exact Or.inl ⟨old, here, traced⟩
  | created a asked status value => exact Or.inr (Or.inl ⟨a, asked, value⟩)
  | seeded c ids asked done fresh => exact Or.inr (Or.inr ⟨c, ids, asked, done, fresh⟩)

end Assets

theorem mem_setAsset {db : Db} {new b : ContentAsset} (member : b ∈ (db.setAsset new).assets) : b = new ∨ b ∈ db.assets := by
  rcases mem_updateWhere.mp member with ⟨_, _, _, rfl⟩ | ⟨stays, _⟩
  · exact Or.inl rfl
  · exact Or.inr stays

section Assets

variable [PyText] {may : Cause → Db → Prop} {now : Int} {db db' : Db}

/-- Where an asset behind a write comes from: it is new, or an old one that the
write has left alone, edited or moved to another status, for a cause that the
operation has. -/
theorem Write.assets (write : Write may now db db') (wf : db.Wf) {b : ContentAsset} (member : b ∈ db'.assets) :
    AssetStep may now db db' b := by
  cases write with
  | side same => exact .kept (same.assets ▸ member)
  | task other done => exact .kept ((untouched_enqueue done).assets_eq ▸ member)
  | cancel found paused => exact .kept member
  | found drafted fresh => exact .kept member
  | edit there sameId sameStatus => exact .kept member
  | status found permitted plain live completed => exact .kept (writeStatus_assets db _ _ _ ▸ member)
  | submit found producing drafted =>
    obtain ⟨_, _, snapshot, assets⟩ := flipDraftedAssetsToPendingApproval_flips (writeStatus_wf found _ _ wf) _ now
    rw [assets, writeStatus_assets] at member
    obtain ⟨a, here, value⟩ := List.mem_map.mp member
    split at value
    · rename_i chosen
      subst value
      exact .submitted a here (submittedRow_traced snapshot a) chosen.2.2 rfl
    · exact .kept (value ▸ here)
  | launch found pending done =>
    have assets := (scheduleApprovedAssets_schedules (writeStatus_wf found _ _ wf) done).assets
    rw [assets, writeStatus_assets] at member
    obtain ⟨a, here, value⟩ := List.mem_map.mp member
    split at value
    · rename_i chosen
      subst value
      exact .scheduled a here (scheduledRow_traced _ now a) chosen.2 (scheduledRow_status _ now a)
        ⟨_, (Db.campaign?_mem found).1, chosen.1.symm, pending⟩
    · exact .kept (value ▸ here)
  | resume found paused asked done =>
    have assets := (resumeDistributionForCampaign_resumes (writeStatus_wf found _ _ wf) done).assets
    rw [assets, writeStatus_assets] at member
    obtain ⟨a, here, value⟩ := List.mem_map.mp member
    split at value
    · rename_i chosen
      subst value
      exact .elapsed a here (elapsedRow_traced now a) chosen.2.1 rfl
    · exact .kept (value ▸ here)
  | seed asked done =>
    obtain ⟨rows, assets, _, numbered, planted⟩ := (seedAssetsForCampaign_seeded wf done).rows
    rw [assets] at member
    rcases List.mem_append.mp member with old | new
    · exact .kept old
    · obtain ⟨planned, here, plant⟩ := forall₂_origin planted new
      obtain ⟨status, required, campaign, _⟩ := seedRows_planned here
      refine .seeded _ _ asked done (numbered b new).1 ?_ ?_ ?_
      · rw [plant.row]
        exact campaign
      · rw [plant.row]
        exact status
      · rw [plant.row]
        exact required
  | rewrite here edited =>
    rcases mem_setAsset member with rfl | stays
    · exact .edited _ here edited
    · exact .kept stays
  | @regenerate _ a c args here campaign producing skill owner named unkeyed done asked =>
    have agent := sameCore_ensureAgent (db.setAsset { a with status := .requested }) a.tenantId .contentCreator
    rw [(untouched_enqueue done).assets_eq, agent.assets] at member
    rcases mem_setAsset member with rfl | stays
    · refine .regenerated _ here ⟨⟨rfl, rfl, rfl⟩, rfl, rfl, rfl, id⟩ rfl
        ⟨_, (Db.campaign?_mem campaign).1, (Db.campaign?_mem campaign).2, producing⟩
        ⟨_, (Queued.of_enqueue unkeyed done).last, agent.nextId, rfl, ?_⟩ asked
      exact ⟨congrArg some skill.symm, named, owner⟩
    · exact .kept stays
  | approve vetted traced status logged silent assistant =>
    rcases mem_setAsset member with rfl | stays
    · refine .approved _ vetted.member ?_ status rfl
      exact ⟨⟨traced.id, traced.campaignId, traced.assetType⟩, traced.tenantId, traced.touchpoint, traced.variant,
        traced.required⟩
    · exact .kept (note_assets db _ ▸ stays)
  | reject here traced status rejected logged silent =>
    rcases mem_setAsset member with rfl | stays
    · exact .rejected _ here traced status rejected
    · exact .kept (note_assets db _ ▸ stays)
  | create status asked =>
    rcases List.mem_append.mp member with old | new
    · exact .kept old
    · exact .created _ asked status (List.mem_singleton.mp new)
  | ledger planned => exact .kept member
  | newTest fresh designing undecided configured => exact .kept member
  | setTest found step split => exact .kept member

end Assets

end MarketingAgents
