import MarketingAgents.Content.TenantOps

namespace MarketingAgents

open Lib PyText

namespace Op

/-- The tenant an operation acts for: its user's, or that of the row it works on. -/
def actsFor (db : Db) : Op → Option Uuid
  | .createCampaign user _ | .patchCampaign user .. | .upsertApprovalSettings user .. | .applyTransition user ..
  | .acceptStrategy user .. | .regenerateAsset user .. | .clearComplianceBlock user _ | .approveAsset user ..
  | .rejectAsset user .. | .batchApprove user .. | .approveViaUi user .. | .rejectViaUi user .. | .addVariant user ..
  | .createAbTest user .. | .launchAbTest user _ | .stopAbTest user _ | .promoteAbTest user _
  | .assistant user _ => some user.tenantId
  | .insertProposal campaignId _ | .analyseCampaign campaignId _ => (db.campaign? campaignId).map Campaign.tenantId
  | .insertAudience tenantId .. => some tenantId
  | .generateAsset assetId _ | .dispatchEmailAsset _ assetId .. | .dispatchSocialAsset assetId _ =>
    (db.asset? assetId).map ContentAsset.tenantId
  | .evaluateTest testId _ => (db.abTest? testId).map AbTest.tenantId
  | .writeSideTables _ => none

/-- A proposal or an audience is for a campaign that the request has loaded,
and the requests outside the pipeline write settings, not plans. -/
def Loaded (db : Db) : Op → Prop
  | .insertProposal campaignId _ => (db.campaign? campaignId).isSome = true
  | .insertAudience tenantId campaignId _ => (db.campaign? campaignId).map Campaign.tenantId = some tenantId
  | .writeSideTables tables => tables.proposals = db.proposals ∧ tables.touchpoints = db.touchpoints ∧
    tables.audiences = db.audiences ∧ tables.audienceMembers = db.audienceMembers
  | _ => True

section Confinement

variable [PyText] {db : Db} {tenantId : Uuid} {now : Int}

/-- One operation changes rows of the tenant it acts for and of no other. -/
theorem run_confined (owned : db.Owned) (op : Op) (loaded : op.Loaded db) (acts : ∀ s ∈ op.actsFor db, s = tenantId) :
    Confined tenantId db (op.run db now) := by
  cases op with
  | createCampaign user draft =>
    obtain rfl := acts _ rfl
    exact .orKeep owned fun _ done => createCampaign_confined owned done
  | patchCampaign user campaignId patch =>
    obtain rfl := acts _ rfl
    exact .orKeep owned fun _ done => patchCampaign_confined owned done
  | upsertApprovalSettings user adminAbove cap currency =>
    obtain rfl := acts _ rfl
    exact .orKeep owned fun _ done => upsertApprovalSettings_confined owned done
  | insertProposal campaignId payload =>
    obtain ⟨c, found⟩ := Option.isSome_iff_exists.mp loaded
    obtain rfl := acts c.tenantId (by simp [actsFor, found])
    exact .insertProposal owned (Db.runs_of_found found) payload
  | insertAudience owner campaignId members =>
    obtain rfl := acts _ rfl
    obtain ⟨c, found, rfl⟩ := Option.map_eq_some_iff.mp loaded
    exact .insertAudience owned (Db.runs_of_found found) members now
  | applyTransition user minimum campaignId name =>
    obtain rfl := acts _ rfl
    exact .orKeep owned fun _ done => applyTransition_confined owned done
  | acceptStrategy user proposalId calendar =>
    obtain rfl := acts _ rfl
    exact .orKeep owned fun _ done => acceptStrategy_confined owned done
  | analyseCampaign campaignId autoPause =>
    cases found : db.campaign? campaignId with
    | none => exact .idle owned (by simp [run, MarketingAgents.analyseCampaign, found])
    | some c =>
      obtain rfl := acts c.tenantId (by simp [actsFor, found])
      exact analyseCampaign_confined owned (Db.runs_of_found found) autoPause
  | generateAsset assetId generation =>
    have drafted : Confined tenantId db (MarketingAgents.generateAsset db assetId generation now).1 := by
      cases found : db.asset? assetId with
      | none => exact .idle owned (by simp [MarketingAgents.generateAsset, found])
      | some a =>
        obtain rfl := acts a.tenantId (by simp [actsFor, found])
        obtain ⟨member, same⟩ := Db.asset?_mem found
        exact generateAsset_confined owned (same ▸ Db.holds_of_mem member) generation
    exact .orKeep_map owned fun _ _ => drafted
  | regenerateAsset user apiKey assetId =>
    obtain rfl := acts _ rfl
    exact .orKeep owned fun _ done => regenerateAsset_confined owned done
  | clearComplianceBlock user assetId =>
    obtain rfl := acts _ rfl
    exact .orKeep owned fun _ done => clearComplianceBlock_confined owned done
  | approveAsset user assetId body =>
    obtain rfl := acts _ rfl
    exact .orKeep owned fun _ done => approveAsset_confined owned done
  | rejectAsset user assetId reason category =>
    obtain rfl := acts _ rfl
    exact .orKeep owned fun _ done => rejectAsset_confined owned done
  | batchApprove user assetIds dryRun writeFails =>
    obtain rfl := acts _ rfl
    exact .orKeep_map owned fun _ done => batchApprove_confined owned done
  | approveViaUi user assetId form =>
    obtain rfl := acts _ rfl
    exact .orKeep_map owned fun _ done => approveViaUi_confined owned done
  | rejectViaUi user assetId reason category =>
    obtain rfl := acts _ rfl
    exact .orKeep_map owned fun _ done => rejectViaUi_confined owned done
  | addVariant user apiKey testId =>
    obtain rfl := acts _ rfl
    exact .orKeep owned fun _ done => addVariant_confined owned done
  | createAbTest user campaignId body =>
    obtain rfl := acts _ rfl
    exact .orKeep owned fun _ done => createAbTest_confined owned done
  | launchAbTest user testId =>
    obtain rfl := acts _ rfl
    exact .orKeep owned fun _ done => launchAbTest_confined owned done
  | stopAbTest user testId =>
    obtain rfl := acts _ rfl
    exact .orKeep owned fun _ done => stopAbTest_confined owned done
  | promoteAbTest user testId =>
    obtain rfl := acts _ rfl
    exact .orKeep owned fun _ done => promoteAbTest_confined owned done
  | evaluateTest testId decision =>
    cases found : db.abTest? testId with
    | none => exact .idle owned (by simp [run, MarketingAgents.evaluateTest, found])
    | some test =>
      obtain rfl := acts test.tenantId (by simp [actsFor, found])
      exact evaluateTest_confined owned found decision
  | writeSideTables tables =>
    obtain ⟨proposals, touchpoints, audiences, audienceMembers⟩ := loaded
    exact .of_core owned ⟨rfl, rfl, rfl, rfl, rfl, le_rfl⟩ ⟨proposals, touchpoints, audiences, audienceMembers⟩
      owned.assigned owned.attempted fun _ _ => ⟨rfl, rfl, rfl, rfl⟩
  | dispatchEmailAsset secret assetId answer batchId =>
    refine .orKeep owned fun last done => ?_
    cases found : db.asset? assetId with
    | none => simp [MarketingAgents.dispatchEmailAsset, beginEmail, found, orRaise, bind, Except.bind] at done
    | some a =>
      obtain rfl := acts a.tenantId (by simp [actsFor, found])
      exact dispatchEmailAsset_confined owned found done
  | dispatchSocialAsset assetId answer =>
    refine .orKeep owned fun last done => ?_
    cases found : db.asset? assetId with
    | none => simp [MarketingAgents.dispatchSocialAsset, beginSocial, found, orRaise, bind, Except.bind] at done
    | some a =>
      obtain rfl := acts a.tenantId (by simp [actsFor, found])
      exact dispatchSocialAsset_confined owned found done
  | assistant user call =>
    obtain rfl := acts _ rfl
    exact Assistant.run_confined owned call

end Confinement

end Op

section Isolation

variable [PyText] {db : Db}

/-- Whoever an operation acts for, it is confined to a tenant that is not this one unless it acts for this one. -/
theorem Op.run_foreign (owned : db.Owned) {tenantId : Uuid} {op : Op × Int} (loaded : op.1.Loaded db)
    (foreign : op.1.actsFor db ≠ some tenantId) : ∃ s, tenantId ≠ s ∧ Confined s db (Content.step db op) := by
  cases acts : op.1.actsFor db with
  | none =>
    refine ⟨tenantId + 1, (Nat.succ_ne_self tenantId).symm, Op.run_confined owned op.1 loaded ?_⟩
    simp [acts]
  | some s => exact ⟨s, fun equal => foreign (equal ▸ acts), Op.run_confined owned op.1 loaded (by simp [acts])⟩

theorem step_owned (owned : db.Owned) {op : Op × Int} (loaded : op.1.Loaded db) : (Content.step db op).Owned := by
  have confined : Confined ((op.1.actsFor db).getD 0) db (Content.step db op) :=
    Op.run_confined owned op.1 loaded fun s acts => by rw [Option.mem_def.mp acts, Option.getD_some]
  exact confined.owned

theorem run_owned (owned : db.Owned) {ops : List (Op × Int)} (loaded : Along Content.step (fun db op => op.1.Loaded db) db ops) :
    (Lib.run Content.step db ops).Owned :=
  loaded.invariant owned fun _ _ owned loaded => step_owned owned loaded

/-- Over any run, what the pipeline holds of a tenant does not change by what
is done for other tenants, whether their users do it, the assistant for them,
or the workers on their rows: neither its campaigns and what was planned for
them, nor its content, tasks, tests and decisions, nor its ledger. And no row
comes to name a row of another tenant: proposals, audiences, assets, tasks and
tests name campaigns of their own tenant, touchpoints its proposals, members
its audiences, assignments its tests, decisions and attempts its assets. -/
theorem tenants_are_isolated (owned : db.Owned) {tenantId : Uuid} {ops : List (Op × Int)}
    (loaded : Along Content.step (fun db op => op.1.Loaded db) db ops)
    (foreign : Along Content.step (fun db op => op.1.actsFor db ≠ some tenantId) db ops) :
    (Lib.run Content.step db ops).viewOf tenantId = db.viewOf tenantId ∧ (Lib.run Content.step db ops).Owned := by
  refine ⟨?_, run_owned owned loaded⟩
  have reached := Along.invariant (I := fun mid => mid.Owned ∧ mid.viewOf tenantId = db.viewOf tenantId)
    (loaded.and foreign) ⟨owned, rfl⟩ fun mid op holds allowed => ?_
  · exact reached.2
  · obtain ⟨owned, same⟩ := holds
    obtain ⟨loaded, other⟩ := allowed
    obtain ⟨s, foreign, step⟩ := Op.run_foreign owned loaded other
    exact ⟨step.owned, (step.others tenantId foreign).trans same⟩

end Isolation

namespace Isolation

local instance isolationText : PyText := PyText.plain

open Sample

/-- The first tenant plans a campaign with one email and has it seeded. -/
def renting : List (Op × Int) :=
  [(.createCampaign manager launch, 0), (.assistant manager (.synthesiseAudience 0 [("e", [])]), 1),
    (.insertProposal 0 [], 2), (.acceptStrategy manager 2 (.ok [("email", 0, 0)]), 3),
    (.applyTransition manager .marketer 0 "start_content", 4)]

def rented : Db := Lib.run Content.step {} renting

def stranger : AppUser := ⟨8, 2, .admin⟩

/-- A user of another tenant accepts the strategy once more, approves the
email, pauses the campaign, and opens and plans one of their own. -/
def intrusion : List (Op × Int) :=
  [(.acceptStrategy stranger 2 (.ok []), 5), (.approveViaUi stranger 5 [], 6), (.assistant stranger (.pauseCampaign 0 true), 7),
    (.createCampaign stranger launch, 8), (.insertProposal 7 [], 9)]

theorem empty_owned : ({} : Db).Owned where
  assetIds := List.nodup_nil
  assetsBelow := by simp
  campaignIds := List.nodup_nil
  campaignsBelow := by simp
  proposalIds := List.nodup_nil
  proposalsBelow := by simp
  proposed := by simp
  planned := by simp
  audienceIds := List.nodup_nil
  audiencesBelow := by simp
  gathered := by simp
  joined := by simp
  testIds := List.nodup_nil
  testsBelow := by simp
  home := by simp
  queued := by simp
  tested := by simp
  assigned := by simp
  decided := by simp
  attempted := by simp

theorem tenants_are_isolated_stranger :
    (rented.viewOf 1).assets ≠ [] ∧ (rented.viewOf 1).plans.touchpoints ≠ [] ∧
      ((Lib.run Content.step rented intrusion).viewOf 2).plans.proposals ≠ [] ∧
      (Lib.run Content.step rented intrusion).viewOf 1 = rented.viewOf 1 ∧ (Lib.run Content.step rented intrusion).Owned := by
  have rents : Along Content.step (fun db op => op.1.Loaded db) {} renting :=
    ⟨trivial, trivial, (by decide +kernel : ((Lib.run Content.step {} (renting.take 2)).campaign? 0).isSome = true), trivial,
      trivial, trivial⟩
  have loaded : Along Content.step (fun db op => op.1.Loaded db) rented intrusion :=
    ⟨trivial, trivial, trivial, trivial,
      (by decide +kernel : ((Lib.run Content.step rented (intrusion.take 4)).campaign? 7).isSome = true), trivial⟩
  have foreign : Along Content.step (fun db op => op.1.actsFor db ≠ some 1) rented intrusion :=
    ⟨by decide, by decide, by decide, by decide, by decide +kernel, trivial⟩
  exact ⟨by decide +kernel, by decide +kernel, by decide +kernel,
    tenants_are_isolated (run_owned empty_owned rents) loaded foreign⟩

end Isolation

end MarketingAgents
