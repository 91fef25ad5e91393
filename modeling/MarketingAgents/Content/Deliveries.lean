import MarketingAgents.Agents.SocialDistribution
import MarketingAgents.Content.Operations

namespace MarketingAgents

open Lib PyText

theorem publishedRow_sameShipped {a : ContentAsset} {extras : Dict String Json} {now : Int}
    (absent : ∀ entry ∈ extras, entry.1 ∉ ["fields", "approval_threshold", "compliance"]) :
    SameShipped a (publishedRow a extras now a) :=
  .of_metadata rfl rfl fun _ member =>
    Dict.get?_merge_of_absent fun entry listed same => absent entry listed (same ▸ member)

theorem pauseCampaign_assets (db : Db) (c : Campaign) (now : Int) : (pauseCampaign db c now).assets = db.assets := by
  unfold pauseCampaign
  split
  · rfl
  · exact writeStatus_assets db c.id .paused .pauseHelper

section Begin

variable [PyText] {db : Db} {secret : String} {assetId : Uuid} {now : Int}

/-- What a handler has checked when it goes on to its reads: the asset is
stored and scheduled, the campaign is stored and not paused. -/
structure Dispatchable (db : Db) (assetId : Uuid) (a : ContentAsset) (c : Campaign) : Prop where
  asset : db.asset? assetId = some a
  campaign : db.campaign? a.campaignId = some c
  scheduled : a.status = .scheduled
  running : c.status ≠ .paused
  routed : a.assetType = .email ∨ a.assetType = .socialPost

theorem beginEmail_dispatchable {plan : EmailPlan} (begun : beginEmail db secret assetId now = .ok (some plan)) :
    Dispatchable db assetId plan.asset plan.campaign ∧
      planEmail db secret plan.asset plan.campaign now = .ok plan := by
  simp only [beginEmail, bind_eq_ok, orRaise_eq_ok, require_eq_ok] at begun
  obtain ⟨a, asset, _, scheduled, c, campaign, rest⟩ := begun
  split at rest
  · simp at rest
  · rename_i running
    simp only [bind_eq_ok, pure_eq_ok, require_eq_ok, Option.some.injEq] at rest
    obtain ⟨_, email, planned, reads, rfl⟩ := rest
    have reads' := reads
    simp only [planEmail, bind_eq_ok, pure_eq_ok] at reads'
    obtain ⟨_, _, _, _, _, _, _, _, _, _, _, _, _, _, rfl⟩ := reads'
    exact ⟨⟨asset, campaign, scheduled, running, Or.inl email⟩, reads⟩

theorem beginSocial_dispatchable {plan : SocialPlan} (begun : beginSocial db assetId = .ok (some plan)) :
    Dispatchable db assetId plan.asset plan.campaign := by
  simp only [beginSocial, bind_eq_ok, orRaise_eq_ok, require_eq_ok] at begun
  obtain ⟨a, asset, _, scheduled, _, social, channelId, _, c, campaign, rest⟩ := begun
  split at rest
  · simp at rest
  · rename_i running
    simp only [bind_eq_ok, pure_eq_ok, Option.some.injEq] at rest
    obtain ⟨planned, reads, rfl⟩ := rest
    simp only [planSocial, bind_eq_ok, pure_eq_ok] at reads
    obtain ⟨_, _, _, _, _, _, _, _, _, _, _, _, _, _, rfl⟩ := reads
    exact ⟨asset, campaign, scheduled, running, Or.inr social⟩

/-- What a handler has found when it returns without a plan: the campaign of its asset is paused. -/
structure Skips (db : Db) (assetId : Uuid) (a : ContentAsset) (c : Campaign) : Prop where
  asset : db.asset? assetId = some a
  campaign : db.campaign? a.campaignId = some c
  paused : c.status = .paused

theorem beginEmail_skips (begun : beginEmail db secret assetId now = .ok none) : ∃ a c, Skips db assetId a c := by
  simp only [beginEmail, bind_eq_ok, orRaise_eq_ok, require_eq_ok] at begun
  obtain ⟨a, asset, _, _, c, campaign, rest⟩ := begun
  split at rest
  · rename_i paused
    exact ⟨a, c, asset, campaign, paused⟩
  · simp only [bind_eq_ok, pure_eq_ok] at rest
    obtain ⟨_, _, _, _, planned⟩ := rest
    simp at planned

theorem beginSocial_skips (begun : beginSocial db assetId = .ok none) : ∃ a c, Skips db assetId a c := by
  simp only [beginSocial, bind_eq_ok, orRaise_eq_ok, require_eq_ok] at begun
  obtain ⟨a, asset, _, _, _, _, _, _, c, campaign, rest⟩ := begun
  split at rest
  · rename_i paused
    exact ⟨a, c, asset, campaign, paused⟩
  · simp only [bind_eq_ok, pure_eq_ok] at rest
    obtain ⟨_, _, planned⟩ := rest
    simp at planned

end Begin

section Atomic

variable [PyText] {may : Cause → Db → Prop} {db db' : Db} {now : Int}

theorem publish_writes (wf : db.Wf) {a : ContentAsset} (here : a ∈ db.assets) (scheduled : a.status = .scheduled)
    {extras : Dict String Json} (absent : ∀ entry ∈ extras, entry.1 ∉ ["fields", "approval_threshold", "compliance"])
    (untraced : ∀ entry ∈ extras, entry.1 ∉ ["touchpoint_id", "variant_index"]) :
    Writes may now db (db.publish a extras now) := by
  have edited : Edited may db a (publishedRow a extras now a) :=
    .published (.of_merge ⟨rfl, rfl, rfl⟩ rfl rfl untraced id) scheduled rfl (publishedRow_sameShipped absent)
  unfold Db.publish
  rw [update_eq_setAsset wf here rfl]
  exact .rewrite here edited

theorem maybeGoLive_writes {c : Campaign} (found : db.campaign? c.id = some c) (starts : may (.starts c.id) db)
    (done : maybeGoLive db c now = .ok db') : Writes may now db db' := by
  unfold maybeGoLive at done
  split at done
  · exact tryApply_writes found ⟨by simp, fun _ => starts, by simp, by simp⟩ done
  · cases Except.ok.inj done
    exact .refl

/-- The rows of the ledger, the published asset, and then the campaign goes live or not. -/
theorem publishAndGoLive_writes (wf : db.Wf) {recorded : Db} (ledger : Writes may now db recorded)
    (same : Untouched db recorded) {assetId : Uuid} {a : ContentAsset} {c : Campaign} (ready : Dispatchable db assetId a c)
    {extras : Dict String Json} (absent : ∀ entry ∈ extras, entry.1 ∉ ["fields", "approval_threshold", "compliance"])
    (untraced : ∀ entry ∈ extras, entry.1 ∉ ["touchpoint_id", "variant_index"])
    (starts : ∀ mid, may (.starts c.id) mid)
    (done : maybeGoLive (recorded.publish a extras now) c now = .ok db') : Writes may now db db' := by
  have here : a ∈ recorded.assets := same.assets_eq.symm ▸ (Db.asset?_mem ready.asset).1
  have published := ledger.trans (publish_writes (ledger.wf wf) here ready.scheduled absent untraced)
  have stored : recorded.campaign? c.id = some c := (same.campaign?_eq c.id).trans (Db.campaign?_self ready.campaign)
  exact published.trans (maybeGoLive_writes stored (starts _) done)

theorem untouched_recordEmail (db : Db) (plan : EmailPlan) (result : Option DispatchResult) (now : Int) :
    Untouched db (db.recordEmail plan result now) :=
  .intro rfl rfl rfl rfl le_rfl

theorem sameCore_recordSocial (db : Db) (plan : SocialPlan) (result : SocialResult) (now : Int) :
    SameCore db (db.recordSocial plan result now) :=
  ⟨rfl, rfl, rfl, rfl, rfl, rfl, rfl, rfl, le_rfl⟩

theorem dispatchEmailAsset_writes (wf : db.Wf) {secret : String} {assetId batchId : Uuid} {answer : SendgridResponse}
    (starts : ∀ id mid, may (.starts id) mid)
    (done : dispatchEmailAsset db secret assetId answer batchId now = .ok db') : Writes may now db db' := by
  unfold dispatchEmailAsset at done
  split at done
  · simp at done
  · cases Except.ok.inj done
    exact .refl
  · rename_i plan begun
    obtain ⟨ready, planned⟩ := beginEmail_dispatchable begun
    have committed : ∀ result, commitEmail db plan result now = .ok db' → Writes may now db db' := fun result commit =>
      publishAndGoLive_writes wf (.single (.ledger planned)) (untouched_recordEmail db plan result now) ready (by simp)
        (by simp) (starts _) (commitEmail_eq_ok.mp commit).2
    unfold finishEmail at done
    split at done
    · exact committed none (mapError_eq_ok.mp done)
    · split at done
      · simp at done
      · exact committed _ (mapError_eq_ok.mp done)

/-- The campaign that a dispatch pauses, its platform having revoked the credential. -/
def Db.revokedBy (db : Db) (assetId : Uuid) (answer : SocialAnswer) : Option Campaign :=
  match beginSocial db assetId with
  | .ok (some plan) =>
    match (callSocial db plan answer).result with
    | .error (.revoked _) => some plan.campaign
    | _ => none
  | _ => none

theorem dispatchSocialAsset_writes (wf : db.Wf) {assetId : Uuid} {answer : SocialAnswer}
    (starts : ∀ id mid, may (.starts id) mid)
    (sets : ∀ c, db.revokedBy assetId answer = some c → db.campaign? c.id = some c → may (.sets c.id .paused) db)
    (done : dispatchSocialAsset db assetId answer now = .ok db') : Writes may now db db' := by
  unfold dispatchSocialAsset at done
  split at done
  · simp at done
  · cases Except.ok.inj done
    exact .refl
  · rename_i plan begun
    have ready := beginSocial_dispatchable begun
    unfold finishSocial at done
    split at done
    · rename_i message revoked
      cases Except.ok.inj done
      have paused : Writes may now db (pauseCampaign db plan.campaign now) :=
        pauseCampaign_writes (Db.campaign?_self ready.campaign) fun _ =>
          sets _ (by simp [Db.revokedBy, begun, revoked]) (Db.campaign?_self ready.campaign)
      have here : plan.asset ∈ (pauseCampaign db plan.campaign now).assets := by
        rw [pauseCampaign_assets]
        exact (Db.asset?_mem ready.asset).1
      have edited : Edited may (pauseCampaign db plan.campaign now) plan.asset (revokedRow plan.asset message plan.asset) :=
        .revoked (.of_merge ⟨rfl, rfl, rfl⟩ rfl rfl (by simp) id) ready.scheduled rfl
      unfold commitRevoked
      rw [update_eq_setAsset (paused.wf wf) here rfl]
      exact paused.tail (.rewrite here edited)
    · simp at done
    · rename_i result _
      have same := sameCore_recordSocial db plan result now
      exact publishAndGoLive_writes wf (.side same) same.untouched ready (by simp [socialExtras]) (by simp [socialExtras])
        (starts _) (commitSocial_eq_ok.mp (mapError_eq_ok.mp done)).2

end Atomic

end MarketingAgents
