import MarketingAgents.Api.CalendarEdits
import MarketingAgents.Content.Tenancy

namespace MarketingAgents

open Lib PyText

namespace Confined

variable {tenantId : Uuid} {db db' : Db}

/-- Touchpoints of the tenant's proposals go. -/
theorem dropTouchpoints (owned : db.Owned) {keep : StrategyTouchpoint → Bool}
    (mine : ∀ tp ∈ db.touchpoints, keep tp = false → db.Proposes tenantId tp.proposalId) :
    Confined tenantId db { db with touchpoints := db.touchpoints.filter keep } := by
  refine of_plans owned ⟨rfl, rfl, rfl, rfl, rfl, le_rfl⟩ ?plans ⟨rfl, rfl, rfl, rfl⟩ (fun _ _ proposes => proposes) ?others
  case plans =>
    exact ⟨owned.proposalIds, owned.proposalsBelow, owned.proposed,
      fun tp member => owned.planned tp (List.mem_of_mem_filter member), owned.audienceIds, owned.audiencesBelow,
      owned.gathered, owned.joined⟩
  case others =>
    intro _ s other
    have touchpoints : ((db.touchpoints.filter keep).filter fun tp => db.ownsProposal s tp.proposalId) =
        db.touchpoints.filter fun tp => db.ownsProposal s tp.proposalId := by
      rw [List.filter_filter]
      refine List.filter_congr fun tp member => ?_
      cases kept : keep tp with
      | true => exact Bool.and_true _
      | false => rw [owned.ownsProposal_eq (mine tp member kept), decide_eq_false other.symm, Bool.and_false]
    exact congrArg (fun rows => { db.plansOf s with touchpoints := rows }) touchpoints

/-- The accepted flag moves among the proposals of one campaign. -/
theorem acceptProposal (owned : db.Owned) {p : StrategyProposal} (runs : db.Runs tenantId p.campaignId) :
    Confined tenantId db (db.acceptProposal p) := by
  have proposes : ∀ s proposalId, db.Proposes s proposalId → (db.acceptProposal p).Proposes s proposalId := by
    rintro s _ ⟨q, member, rfl, run⟩
    refine ⟨_, List.mem_map_of_mem member, ?_⟩
    split <;> exact ⟨rfl, run⟩
  have plans : (db.acceptProposal p).PlansOwned := by
    refine ⟨acceptProposal_ids db p ▸ owned.proposalIds, fun q member => ?_, fun q member => ?_,
      fun tp member => (owned.planned tp member).imp fun s named => proposes s _ named, owned.audienceIds,
      owned.audiencesBelow, owned.gathered, owned.joined⟩
    · obtain ⟨old, here, same, _⟩ := mem_acceptProposal member
      exact same ▸ owned.proposalsBelow old here
    · obtain ⟨old, here, _, home, _⟩ := mem_acceptProposal member
      exact home ▸ owned.proposed old here
  refine of_plans owned ⟨rfl, rfl, rfl, rfl, rfl, le_rfl⟩ plans ⟨rfl, rfl, rfl, rfl⟩ proposes fun owned' s other => ?_
  have foreign : ∀ campaignId, campaignId = p.campaignId → db.ownsCampaign s campaignId = false := by
    rintro _ rfl
    rw [owned.ownsCampaign_eq runs, decide_eq_false other.symm]
  have flagged : (db.acceptProposal p).proposals = updateWhere (fun q => decide (q.campaignId = p.campaignId))
      (fun q => { q with isAccepted := q.id = p.id }) db.proposals := by
    simp only [Db.acceptProposal, updateWhere, decide_eq_true_eq]
  have proposals : ((db.acceptProposal p).proposals.filter fun q => db.ownsCampaign s q.campaignId) =
      db.proposals.filter fun q => db.ownsCampaign s q.campaignId := by
    rw [flagged]
    refine filter_updateWhere fun q _ hit => ?_
    exact ⟨foreign _ (of_decide_eq_true hit), foreign _ (of_decide_eq_true hit)⟩
  exact congrArg₂ (fun listed planned => { db.plansOf s with proposals := listed, touchpoints := planned }) proposals
    (owned.touchpoints_kept owned' proposes s)

/-- A calendar for one of the tenant's proposals. -/
theorem addTouchpoints (owned : db.Owned) {proposalId : Uuid} (proposes : db.Proposes tenantId proposalId)
    (slots : List (String × Int × Int)) : Confined tenantId db (db.addTouchpoints proposalId slots) := by
  rw [addTouchpoints_eq]
  refine of_plans owned ⟨rfl, rfl, rfl, rfl, rfl, Nat.le_add_right ..⟩ ?plans ⟨rfl, rfl, rfl, rfl⟩ (fun _ _ named => named)
    ?others
  case plans =>
    refine ⟨owned.proposalIds, fun p member => (owned.proposalsBelow p member).trans_le (Nat.le_add_right ..), owned.proposed,
      fun tp member => ?_, owned.audienceIds, fun a member => (owned.audiencesBelow a member).trans_le (Nat.le_add_right ..),
      owned.gathered, owned.joined⟩
    rcases List.mem_append.mp member with old | new
    · exact owned.planned tp old
    · exact ⟨tenantId, touchpointRows_proposal new ▸ proposes⟩
  case others =>
    intro _ s other
    have foreign : ∀ tp ∈ touchpointRows proposalId db.nextId slots, ¬ db.ownsProposal s tp.proposalId = true := by
      intro tp member
      rw [touchpointRows_proposal member, owned.ownsProposal_eq proposes, decide_eq_false other.symm]
      exact Bool.false_ne_true
    have touchpoints : ((db.touchpoints ++ touchpointRows proposalId db.nextId slots).filter fun tp =>
        db.ownsProposal s tp.proposalId) = db.touchpoints.filter fun tp => db.ownsProposal s tp.proposalId := by
      rw [List.filter_append, List.filter_eq_nil_iff.mpr foreign, List.append_nil]
    exact congrArg (fun rows => { db.plansOf s with touchpoints := rows }) touchpoints

/-- A new proposal for a campaign of the tenant. -/
theorem insertProposal (owned : db.Owned) {campaignId : Uuid} (runs : db.Runs tenantId campaignId)
    (payload : Dict String Json) : Confined tenantId db (insertProposal db campaignId payload) := by
  have proposes : ∀ s proposalId, db.Proposes s proposalId →
      (MarketingAgents.insertProposal db campaignId payload).Proposes s proposalId :=
    fun s proposalId ⟨p, member, row⟩ => ⟨p, List.mem_append_left _ member, row⟩
  have plans : (MarketingAgents.insertProposal db campaignId payload).PlansOwned := by
    refine ⟨?_, fun p member => ?_, fun p member => ?_,
      fun tp member => (owned.planned tp member).imp fun s named => proposes s _ named, owned.audienceIds,
      fun a member => (owned.audiencesBelow a member).trans (Nat.lt_succ_self _), owned.gathered, owned.joined⟩
    · refine nodup_keys_append owned.proposalIds (List.nodup_singleton _) fun old member added new => ?_
      rw [List.mem_singleton.mp new]
      exact (owned.proposalsBelow old member).ne
    · rcases List.mem_append.mp member with old | new
      · exact (owned.proposalsBelow p old).trans (Nat.lt_succ_self _)
      · rw [List.mem_singleton.mp new]
        exact Nat.lt_succ_self _
    · rcases List.mem_append.mp member with old | new
      · exact owned.proposed p old
      · exact ⟨tenantId, List.mem_singleton.mp new ▸ runs⟩
  refine of_plans owned ⟨rfl, rfl, rfl, rfl, rfl, Nat.le_succ _⟩ plans ⟨rfl, rfl, rfl, rfl⟩ proposes fun owned' s other => ?_
  have foreign : db.ownsCampaign s campaignId = false := by
    rw [owned.ownsCampaign_eq runs, decide_eq_false other.symm]
  have proposals : ((MarketingAgents.insertProposal db campaignId payload).proposals.filter fun p =>
      db.ownsCampaign s p.campaignId) = db.proposals.filter fun p => db.ownsCampaign s p.campaignId := by
    simp only [MarketingAgents.insertProposal, List.filter_append, List.filter_singleton, foreign, cond_false, List.append_nil]
  exact congrArg₂ (fun listed planned => { db.plansOf s with proposals := listed, touchpoints := planned }) proposals
    (owned.touchpoints_kept owned' proposes s)

/-- A new audience of the tenant, with its members, for one of its campaigns. -/
theorem insertAudience (owned : db.Owned) {campaignId : Uuid} (runs : db.Runs tenantId campaignId)
    (members : List (String × Dict String Json)) (now : Int) :
    Confined tenantId db (insertAudience db tenantId campaignId members now) := by
  have gathers : ∀ s audienceId, db.Gathers s audienceId →
      (MarketingAgents.insertAudience db tenantId campaignId members now).Gathers s audienceId :=
    fun s audienceId ⟨a, member, row⟩ => ⟨a, List.mem_append_left _ member, row⟩
  have gathered : (MarketingAgents.insertAudience db tenantId campaignId members now).Gathers tenantId db.nextId :=
    ⟨_, List.mem_append_right _ (List.mem_singleton_self _), rfl, rfl⟩
  have plans : (MarketingAgents.insertAudience db tenantId campaignId members now).PlansOwned := by
    refine ⟨owned.proposalIds, fun p member => (owned.proposalsBelow p member).trans (Nat.lt_succ_self _), owned.proposed,
      owned.planned, ?_, fun a member => ?_, fun a member => ?_, fun m member => ?_⟩
    · refine nodup_keys_append owned.audienceIds (List.nodup_singleton _) fun old member added new => ?_
      rw [List.mem_singleton.mp new]
      exact (owned.audiencesBelow old member).ne
    · rcases List.mem_append.mp member with old | new
      · exact (owned.audiencesBelow a old).trans (Nat.lt_succ_self _)
      · rw [List.mem_singleton.mp new]
        exact Nat.lt_succ_self _
    · rcases List.mem_append.mp member with old | new
      · exact owned.gathered a old
      · exact List.mem_singleton.mp new ▸ runs
    · rcases List.mem_append.mp member with old | new
      · exact (owned.joined m old).imp fun s named => gathers s _ named
      · obtain ⟨entry, _, rfl⟩ := List.mem_map.mp new
        exact ⟨tenantId, gathered⟩
  refine of_plans owned ⟨rfl, rfl, rfl, rfl, rfl, Nat.le_succ _⟩ plans ⟨rfl, rfl, rfl, rfl⟩ (fun _ _ named => named)
    fun owned' s other => ?_
  have audiences : (MarketingAgents.insertAudience db tenantId campaignId members now).audiences.filter (·.tenantId = s) =
      db.audiences.filter (·.tenantId = s) := by
    simp [MarketingAgents.insertAudience, List.filter_append, other.symm]
  have joined : ((MarketingAgents.insertAudience db tenantId campaignId members now).audienceMembers.filter fun m =>
      (MarketingAgents.insertAudience db tenantId campaignId members now).ownsAudience s m.audienceId) =
      db.audienceMembers.filter fun m => db.ownsAudience s m.audienceId := by
    have old : ∀ m ∈ db.audienceMembers, (MarketingAgents.insertAudience db tenantId campaignId members now).ownsAudience s
        m.audienceId = db.ownsAudience s m.audienceId := by
      intro m member
      obtain ⟨t, named⟩ := owned.joined m member
      rw [owned.ownsAudience_eq named, owned'.ownsAudience_eq (gathers t _ named)]
    have new : ∀ m ∈ members.map (fun m => (⟨db.nextId, m.1, m.2⟩ : AudienceMember)),
        ¬ (MarketingAgents.insertAudience db tenantId campaignId members now).ownsAudience s m.audienceId = true := by
      intro m member
      obtain ⟨entry, _, rfl⟩ := List.mem_map.mp member
      rw [owned'.ownsAudience_eq gathered, decide_eq_false other.symm]
      exact Bool.false_ne_true
    refine (List.filter_append ..).trans ?_
    rw [List.filter_eq_nil_iff.mpr new, List.append_nil]
    exact List.filter_congr old
  exact congrArg₂ (fun rows listed => { db.plansOf s with audiences := rows, audienceMembers := listed }) audiences joined

end Confined

end MarketingAgents
