import MarketingAgents.Content.Twins

namespace MarketingAgents

open Lib PyText

/-- What one operation reaches under two settings: twins, or twins that end in
the same submission of the campaign, each under its own snapshot. -/
inductive Forked [PyText] (start : Db) (settings : List TenantApprovalSettings) (now : Int) (campaignId : Uuid) :
    Db → Db → Prop
  | twin {d e : Db} (twin : Twin start settings d e) : Forked start settings now campaignId d e
  | submitted {d e : Db} {c : Campaign} (twin : Twin start settings d e) (mine : c.id = campaignId)
      (found : d.campaign? campaignId = some c) (pending : c.status = .approvalPending) (drafts : draftsFor d c ≠ []) :
      Forked start settings now campaignId (flipDraftedAssetsToPendingApproval d c now)
        (flipDraftedAssetsToPendingApproval e c now)

section Transitions

variable [PyText] {start d e : Db} {settings : List TenantApprovalSettings}

omit [PyText] in
theorem Twin.campaign? (twin : Twin start settings d e) (id : Uuid) : e.campaign? id = d.campaign? id := by
  rw [twin.apart]
  rfl

omit [PyText] in
theorem Twin.guardHolds (twin : Twin start settings d e) (guard : Option Guard) (c : Campaign) (now : Int) :
    MarketingAgents.guardHolds guard e c now = MarketingAgents.guardHolds guard d c now := by
  rw [twin.apart]
  cases guard with
  | none => rfl
  | some guard => cases guard <;> rfl

theorem runOnEnter_twin (twin : Twin start settings d e) {onEnter : Option OnEnter}
    (plain : onEnter ≠ some .flipDraftedAssetsToPendingApproval) (c : Campaign) (now : Int) :
    Alike (Twin start settings) (runOnEnter onEnter d c now) (runOnEnter onEnter e c now) := by
  cases onEnter with
  | none => exact .ok twin
  | some hook =>
    cases hook with
    | enqueueEchoStep => exact enqueueEchoStep_twin twin c now
    | seedContentAssets => exact (seedAssetsForCampaign_twin twin c now).map fun _ _ made => made.1
    | flipDraftedAssetsToPendingApproval => exact absurd rfl plain
    | scheduleApprovedAssets => exact scheduleApprovedAssets_twin twin c now
    | cancelQueuedOnPause => exact .ok (twin.cancelQueued c.id now)
    | resumeDistribution => exact resumeDistributionForCampaign_twin twin c now
    | autoGenerateReport => exact .ok twin

theorem apply_twin (twin : Twin start settings d e) (c : Campaign) {name : String} (other : name ≠ "submit_for_approval")
    (now : Int) : Alike (Twin start settings) (apply d c name now) (apply e c name now) := by
  unfold apply
  refine .read fun tr found => ?_
  rw [twin.guardHolds]
  refine .read fun _ _ => runOnEnter_twin (twin.writeStatus _ _ _) (fun submits => other ?_) _ now
  have chosen := List.find?_some (orRaise_eq_ok.mp found)
  have named : tr.fromState = c.status ∧ tr.name = name := by simpa using chosen
  exact named.2.symm.trans (campaignSm_submits tr (List.mem_of_find?_eq_some (orRaise_eq_ok.mp found)) submits).1

/-- A submission of no drafts leaves everything as it is. -/
theorem flip_of_no_drafts {db : Db} {c : Campaign} (none : draftsFor db c = []) (now : Int) :
    flipDraftedAssetsToPendingApproval db c now = db := by
  rw [flip_eq, none]
  rfl

theorem flip_forked (twin : Twin start settings d e) {c : Campaign} (found : d.campaign? c.id = some c)
    (pending : c.status = .approvalPending) (now : Int) :
    Forked start settings now c.id (flipDraftedAssetsToPendingApproval d c now)
      (flipDraftedAssetsToPendingApproval e c now) := by
  by_cases drafts : draftsFor d c = []
  · have none : draftsFor e c = [] := by
      rw [twin.apart]
      exact drafts
    rw [flip_of_no_drafts drafts, flip_of_no_drafts none]
    exact .twin twin
  · exact .submitted twin rfl found pending drafts

theorem apply_forked (twin : Twin start settings d e) {c : Campaign} (found : d.campaign? c.id = some c) (name : String)
    (now : Int) : Alike (Forked start settings now c.id) (apply d c name now) (apply e c name now) := by
  by_cases submits : name = "submit_for_approval"
  · subst submits
    unfold apply
    refine .read fun tr chosen => ?_
    rw [twin.guardHolds]
    refine .read fun _ _ => ?_
    have listed := List.mem_of_find?_eq_some (orRaise_eq_ok.mp chosen)
    have named : tr.fromState = c.status ∧ tr.name = "submit_for_approval" := by
      simpa using List.find?_some (orRaise_eq_ok.mp chosen)
    have hook := campaignSm_submission tr listed named.2
    rw [hook, (campaignSm_submits tr listed hook).2.2.1]
    have stored := campaign?_writeStatus_self found .approvalPending (.transition "submit_for_approval")
    have written := twin.writeStatus c.id .approvalPending (.transition "submit_for_approval")
    have forked := flip_forked (c := { c with status := .approvalPending }) written stored rfl now
    unfold runOnEnter OnEnter.run
    exact .ok forked
  · exact (apply_twin twin c submits now).mono fun _ _ => .twin

theorem tryApply_alike {R : Db → Db → Prop} (c : Campaign) {name : String} {now : Int}
    (applied : Alike R (apply d c name now) (apply e c name now)) (kept : R d e) :
    Alike R (tryApply d c name now) (tryApply e c name now) := by
  unfold tryApply
  revert applied
  generalize apply d c name now = x
  generalize apply e c name now = y
  intro applied
  cases applied with
  | ok related => exact .ok related
  | error error =>
    cases error with
    | unknownTransition | guardFailed => exact .ok kept
    | http | contentCreator | precondition | outreach | tool | queue | integrity | raised => exact .error _

theorem applyFrom_alike {R : Db → Db → Prop} (twin : Twin start settings d e) {status : CampaignStatus} {name : String}
    {campaignId : Uuid} {now : Int}
    (applied : ∀ c, d.campaign? campaignId = some c → Alike R (apply d c name now) (apply e c name now)) (kept : R d e) :
    Alike R (applyFrom status name d campaignId now) (applyFrom status name e campaignId now) := by
  unfold applyFrom
  rw [twin.campaign?]
  cases found : d.campaign? campaignId with
  | none => exact .ok kept
  | some c =>
    dsimp only
    split
    · exact tryApply_alike c (applied c found) kept
    · exact .ok kept

theorem applyFrom_twin (twin : Twin start settings d e) {status : CampaignStatus} {name : String}
    (other : name ≠ "submit_for_approval") (campaignId : Uuid) (now : Int) :
    Alike (Twin start settings) (applyFrom status name d campaignId now) (applyFrom status name e campaignId now) :=
  applyFrom_alike twin (fun c _ => apply_twin twin c other now) twin

theorem applyFrom_forked (twin : Twin start settings d e) (status : CampaignStatus) (name : String) (campaignId : Uuid)
    (now : Int) :
    Alike (Forked start settings now campaignId) (applyFrom status name d campaignId now)
      (applyFrom status name e campaignId now) := by
  refine applyFrom_alike twin (fun c found => ?_) (.twin twin)
  obtain rfl := (Db.campaign?_mem found).2
  exact apply_forked twin found name now

end Transitions

end MarketingAgents
