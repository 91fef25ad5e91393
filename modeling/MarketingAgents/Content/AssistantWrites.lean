import MarketingAgents.Assistant.Tools
import MarketingAgents.Content.Operations

namespace MarketingAgents.Assistant

open Lib PyText

section Tools

variable [PyText] {may : Cause → Db → Prop} {db : Db} {user : AppUser} {campaignId assetId : Uuid} {now : Int}

theorem withCampaign_writes {minimum : UserRole} {tool : Campaign → ToolRun}
    (writes : ∀ c, minimum.rank ≤ user.role.rank → db.tenantCampaign? user campaignId = some c →
      db.campaign? c.id = some c → c.id = campaignId → Writes may now db (tool c).1) :
    Writes may now db (withCampaign db user minimum campaignId tool).1 := by
  refine withCampaign_rule (P := fun ran => Writes may now db ran.1) (fun _ => .refl) fun c ranked found => ?_
  exact writes c ranked found (Db.tenantCampaign?_eq_some found) (Db.campaign?_mem (Option.filter_eq_some_iff.mp found).1).2

theorem withAsset_writes {minimum : UserRole} {tool : ContentAsset → ToolRun}
    (writes : ∀ a, minimum.rank ≤ user.role.rank → db.tenantAsset? user assetId = some a → Writes may now db (tool a).1) :
    Writes may now db (withAsset db user minimum assetId tool).1 :=
  withAsset_rule (P := fun ran => Writes may now db ran.1) (fun _ => .refl) writes

theorem settle_writes {start : Db} {result : Except AppError Db} (before : Writes may now db start)
    (writes : ∀ last, result = .ok last → Writes may now start last) : Writes may now db (settle start result).1 := by
  cases result with
  | error error => exact before
  | ok last => exact before.trans (writes last rfl)

theorem pauseCampaign_writes (confirm : Bool) (sets : UserRole.manager.rank ≤ user.role.rank → confirm = true →
      ∀ c, db.tenantCampaign? user campaignId = some c → c.status ≠ .paused → may (.sets c.id .paused) db) :
    Writes may now db (pauseCampaign db user campaignId confirm now).1 := by
  refine withCampaign_writes fun c ranked stored found _ => ?_
  split
  · exact .refl
  · rename_i running
    split
    · exact .refl
    · rename_i confirmed
      exact MarketingAgents.pauseCampaign_writes found fun _ => sets ranked (by simpa using confirmed) c stored running

theorem resumeCampaign_writes (asked : UserRole.manager.rank ≤ user.role.rank →
      ∀ c, db.tenantCampaign? user campaignId = some c → c.status = .paused → may (.resumes campaignId) db) :
    Writes may now db (resumeCampaign db user campaignId now).1 := by
  refine withCampaign_writes fun c ranked stored found same => ?_
  split
  · exact .refl
  · rename_i paused
    refine settle_writes .refl fun last applied => apply_writes found ?_ applied
    exact ⟨by simp, by simp, fun _ _ => same ▸ asked ranked c stored (not_not.mp paused), by simp⟩

theorem completeCampaign_writes {confirm : Bool} (asked : UserRole.manager.rank ≤ user.role.rank → confirm = true →
      ∀ c, db.tenantCampaign? user campaignId = some c → c.status ∈ [.live, .optimising, .paused] →
      may (.completes campaignId) db) :
    Writes may now db (completeCampaign db user campaignId confirm now).1 := by
  refine withCampaign_writes fun c ranked stored found same => ?_
  split
  · exact .refl
  · split
    · exact .refl
    · rename_i confirmed
      refine settle_writes .refl fun last applied => apply_writes found ?_ applied
      refine ⟨fun _ ⟨d, found', active⟩ => ?_, by simp, by simp, by simp⟩
      obtain rfl := Option.some.inj (found.symm.trans found')
      exact same ▸ asked ranked (by simpa using confirmed) c stored active

theorem write_writes {mid : Db} (same : SameCore db mid) {c : Campaign} (found : db.campaign? c.id = some c)
    {after : CampaignStatus} {writer : Writer} (permitted : Permitted c.status after writer)
    (plain : after ∉ [.approvalPending, .readyToLaunch, .live, .completed])
    (sets : ¬ Registered c.status after → mid.campaign? c.id = some c → may (.sets c.id after) mid) :
    Writes may now db (mid.writeStatus c.id after writer) := by
  have stored := (same.untouched.campaign?_eq c.id).trans found
  refine (Writes.side same).tail (.status stored permitted ?_ ?_ ?_ fun unregistered => sets unregistered stored)
  · exact fun hooked => plain (List.mem_append_left _ hooked)
  · exact fun live => absurd (by simp [live]) plain
  · exact fun completed => absurd (by simp [completed]) plain

theorem synthesiseAudience_writes (members : List (String × Dict String Json))
    (sets : ¬ (members.length < 1 ∨ 200 < members.length) → UserRole.marketer.rank ≤ user.role.rank →
      ∀ c, db.tenantCampaign? user campaignId = some c → c.status = .drafted →
      ∀ mid, mid.campaign? c.id = some c → may (.sets c.id .audienceBuilt) mid) :
    Writes may now db (synthesiseAudience db user campaignId members now).1 := by
  unfold synthesiseAudience
  split
  · exact .refl
  · rename_i sized
    refine withCampaign_writes fun c ranked stored found _ => ?_
    have same := sameCore_insertAudience db user.tenantId c.id members now
    dsimp only [reply]
    split
    · rename_i drafted
      exact write_writes same found ⟨drafted, rfl⟩ (by decide) fun _ => sets sized ranked c stored drafted _
    · exact .side same

theorem acceptStrategy_writes (confirm : Bool) (calendar : Except String (List (String × Int × Int)))
    (sets : UserRole.marketer.rank ≤ user.role.rank → ∀ c, db.tenantCampaign? user campaignId = some c →
      (latestUnaccepted db c.id).isSome → confirm = true → db.acceptedProposal? c.id = none →
      (∃ slots, calendar = .ok slots) → c.status = .drafted →
      ∀ mid, mid.campaign? c.id = some c → may (.sets c.id .strategySet) mid) :
    Writes may now db (acceptStrategy db user campaignId confirm calendar).1 := by
  refine withCampaign_writes fun c ranked stored found _ => ?_
  dsimp only
  split
  · exact .refl
  · rename_i p latest
    split
    · exact .refl
    · rename_i unconfirmed
      split
      · exact .refl
      · rename_i beside
        have flagged : SameCore db (db.acceptProposal p) := ⟨rfl, rfl, rfl, rfl, rfl, rfl, rfl, rfl, le_rfl⟩
        cases calendar with
        | error message => exact .side flagged
        | ok slots =>
          have same := flagged.trans (sameCore_addTouchpoints _ p.id slots)
          dsimp only [reply]
          split
          · rename_i early
            refine write_writes same found ⟨early, rfl⟩ (by decide) fun unregistered => ?_
            have drafted : c.status = .drafted := early.resolve_left fun built => unregistered (by rw [built]; decide)
            exact sets ranked c stored (by rw [latest]; rfl) (by simpa using unconfirmed) (by simpa using beside)
              ⟨slots, rfl⟩ drafted _
          · exact .side same

theorem generateAll_writes {ids : List Uuid} (asked : ∀ mid a status, a.id ∈ ids → may (.generates a status) mid)
    (generations : List Generation) : Writes may now db (generateAll now db ids generations) := by
  induction ids generalizing db generations with
  | nil => exact .refl
  | cons id ids ih =>
    have first : Writes may now db (generateAsset db id (generations.headD (.raised "")) now).1 := by
      refine generateAsset_writes id _ fun a status found _ => asked db a status ?_
      simp [(Db.asset?_mem found).2]
    exact first.trans (ih (fun mid a status listed => asked mid a status (List.mem_cons_of_mem _ listed)) _)

theorem generateContent_writes (wf : db.Wf) {apiKey confirm : Bool} (generations : List Generation)
    (seeds : UserRole.marketer.rank ≤ user.role.rank → ∀ c, db.tenantCampaign? user campaignId = some c →
      apiKey = true → confirm = true → may (.seeds campaignId) db)
    (asked : ∀ mid a status, db.nextId ≤ a.id → may (.generates a status) mid) :
    Writes may now db (generateContent db user apiKey campaignId confirm generations now).1 := by
  refine withCampaign_writes fun c ranked found _ same => ?_
  dsimp only
  split
  · exact .refl
  · rename_i keyed
    split
    · exact .refl
    · split
      · exact .refl
      · split
        · exact .refl
        · rename_i confirmed
          split
          · exact .refl
          · rename_i seeded ids done
            have allowed := same ▸ seeds ranked c found (not_not.mp keyed) (by simpa using confirmed)
            have started : Writes may now db seeded := .single (.seed allowed done)
            have drafted : Writes may now db (generateAll now seeded ids generations) := by
              refine started.trans (generateAll_writes (fun mid a status listed => asked mid a status ?_) generations)
              obtain ⟨rows, _, sameIds, numbered, _⟩ := (seedAssetsForCampaign_seeded wf done).rows
              rw [← sameIds] at listed
              obtain ⟨b, here, same⟩ := List.mem_map.mp listed
              exact same ▸ (numbered b here).1
            dsimp only [reply]
            split
            · rename_i waiting
              obtain ⟨stored, found', status⟩ := Option.map_eq_some_iff.mp waiting
              rw [← (Db.campaign?_mem found').2]
              exact drafted.tail (.status (Db.campaign?_self found') ⟨status, rfl⟩ (by simp) (by simp) (by simp)
                fun unregistered => absurd (by rw [status]; decide) unregistered)
            · exact drafted

theorem approveAllContent_writes (wf : db.Wf) {confirm : Bool}
    (asked : UserRole.manager.rank ≤ user.role.rank → confirm = true → ∀ c, db.tenantCampaign? user campaignId = some c →
      ∀ a ∈ openDrafts db c.id, ∀ mid, may (.approves a) mid) :
    Writes may now db (approveAllContent db user campaignId confirm now).1 := by
  refine withCampaign_writes fun c ranked found _ _ => ?_
  dsimp only
  split
  · exact .refl
  · split
    · exact .refl
    · rename_i confirmed
      have approves := asked ranked (by simpa using confirmed) c found
      have approved : Writes may now db
          ((openDrafts db c.id).foldl (fun db a => db.writeApproved a .assistantAll user.role) db) := by
        refine Writes.foldl_rows (fun a member mid here => ?_) (fun mid a b here other => mem_setAsset_of_ne here other)
          (fun a member => (campaignRows_mem member).1) (campaignRows_nodup wf c.id _)
        have status : a.status ∈ [.drafted, .pendingApproval] := of_decide_eq_true (campaignRows_mem member).2.2
        have vetted : Vetted mid a a .assistantAll user.role := ⟨.refl a, here, rfl, by simp, by simp⟩
        exact .single (.approve (d := none) vetted (.refl a) (List.mem_append_left _ status) (by simp)
          (fun _ => approves a member mid) fun _ => approves a member mid)
      exact settle_writes approved fun last advanced => tryAdvanceAfterApproval_writes advanced

theorem approveAsset_writes
    (asked : UserRole.manager.rank ≤ user.role.rank → ∀ a, db.tenantAsset? user assetId = some a →
      a.status ∈ [.drafted, .pendingApproval, .rejected] → hasBlockerViolation a = false → may (.approves a) db) :
    Writes may now db (approveAsset db user assetId now).1 := by
  refine withAsset_writes fun a ranked found => ?_
  dsimp only
  split
  · exact .refl
  · rename_i eligible
    split
    · exact .refl
    · rename_i clean
      have here := (Db.asset?_mem (Db.tenantAsset?_eq_some found)).1
      have approves := asked ranked a found (not_not.mp eligible) (by simpa using clean)
      have vetted : Vetted db a a .assistant user.role := ⟨.refl a, here, rfl, by simp, by simp⟩
      have approved : Writes may now db (db.writeApproved a .assistant user.role) :=
        .single (.approve (d := none) vetted (.refl a) (not_not.mp eligible) (by simp) (fun _ => approves) fun _ => approves)
      exact settle_writes approved fun last advanced => tryAdvanceAfterApproval_writes advanced

theorem rejectAsset_writes (reason : Option String)
    (asked : UserRole.manager.rank ≤ user.role.rank → ∀ a, db.tenantAsset? user assetId = some a →
      a.status ∈ [.drafted, .pendingApproval] → may (.rejects a) db) :
    Writes may now db (rejectAsset db user assetId reason now).1 := by
  refine withAsset_writes fun a ranked found => ?_
  dsimp only
  split
  · exact .refl
  · rename_i eligible
    have here := (Db.asset?_mem (Db.tenantAsset?_eq_some found)).1
    have rejected : ∀ tagged : ContentAsset, Traced a tagged →
        Writes may now db (db.setAsset { tagged with status := .rejected, isRequired := false }) := fun tagged traced =>
      .single (.reject (d := none) here
        ⟨⟨traced.id, traced.campaignId, traced.assetType⟩, traced.tenantId, traced.touchpoint, traced.variant, by simp⟩
        (not_not.mp eligible) rfl (by simp) fun _ => asked ranked a found (not_not.mp eligible))
    refine settle_writes (rejected _ ?_) fun last advanced => tryAdvanceAfterApproval_writes advanced
    split
    · exact .refl a
    · exact .refl a
    · exact .of_set ⟨rfl, rfl, rfl⟩ rfl rfl (by decide) id

theorem launchCampaign_writes (confirm : Bool) (asked : confirm = true → may (.launches campaignId) db) :
    Writes may now db (launchCampaign db user campaignId confirm now).1 := by
  refine withCampaign_writes fun c _ _ found same => ?_
  dsimp only
  split
  · exact .refl
  · split
    · exact .refl
    · rename_i ready
      split
      · exact .refl
      · rename_i confirmed
        have written : Writes may now db (db.writeStatus c.id .live .launchCampaign) :=
          .single (.status found ⟨not_not.mp ready, rfl⟩ (by simp)
            (fun _ => Or.inr ⟨rfl, same ▸ asked (by simpa using confirmed)⟩) (by simp)
            fun unregistered => absurd (by rw [not_not.mp ready]; decide) unregistered)
        dsimp only [reply]
        split
        · rename_i live stored
          exact written.tail (.edit (Db.campaign?_mem stored).1 rfl rfl)
        · exact written

theorem draftOutbound_writes (audienceId : Uuid) (overwrite : Bool) (replies : List (Segment × String × OutreachReply))
    (overwrites : UserRole.marketer.rank ≤ user.role.rank → ∀ c, db.tenantCampaign? user campaignId = some c → ∀ mid a,
      overwrite = true → a ∈ replies.flatMap (overwrittenTemplates db c audienceId) ∨ a.status = .drafted →
      may (.overwrites a) mid)
    (creates : ∀ mid a, a.extraMetadata.get? "touchpoint_id" = none → may (.creates a) mid) :
    Writes may now db (draftOutbound db user campaignId audienceId overwrite replies).1 := by
  refine withCampaign_writes fun c ranked found _ _ => ?_
  have drafted : Writes may now db (outreachDrafts c audienceId overwrite db replies).1 :=
    outreachDrafts_writes (overwrites ranked c found) creates fun a here => Or.inl here
  split
  · rename_i last done
    rw [done] at drafted
    exact drafted
  · rename_i last error done
    rw [done] at drafted
    exact drafted

end Tools

end MarketingAgents.Assistant
