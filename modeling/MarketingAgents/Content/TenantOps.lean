import MarketingAgents.AbTesting.Verdicts
import MarketingAgents.Assistant.Calendars
import MarketingAgents.Content.System
import MarketingAgents.Content.TenantPlans

namespace MarketingAgents

open Lib PyText

namespace Confined

variable {tenantId : Uuid} {db mid db' : Db}

theorem idle (owned : db.Owned) (same : db' = db) : Confined tenantId db db' := by
  subst same
  exact refl owned

theorem andThen (first : Confined tenantId db mid) (next : Confined tenantId db mid → Confined tenantId mid db') :
    Confined tenantId db db' :=
  first.trans (next first)

theorem foldl {ι : Type} {f : Db → ι → Db} {items : List ι} (owned : db.Owned)
    (pass : ∀ mid, Confined tenantId db mid → ∀ i ∈ items, Confined tenantId mid (f mid i)) :
    Confined tenantId db (items.foldl f db) :=
  List.foldlRecOn _ _ (motive := Confined tenantId db) (refl owned) fun mid reached i member =>
    reached.trans (pass mid reached i member)

theorem foldlM {ι : Type} {f : Db → ι → Except AppError Db} {items : List ι} (owned : db.Owned)
    (done : items.foldlM f db = .ok db')
    (pass : ∀ mid, Confined tenantId db mid → ∀ i ∈ items, ∀ next, f mid i = .ok next → Confined tenantId mid next) :
    Confined tenantId db db' :=
  foldlM_invariant (I := Confined tenantId db) done (refl owned) fun i member mid next reached step =>
    reached.trans (pass mid reached i member next step)

theorem orKeep {ε : Type} (owned : db.Owned) {result : Except ε Db}
    (step : ∀ last, result = .ok last → Confined tenantId db last) :
    Confined tenantId db (MarketingAgents.orKeep db result) := by
  cases result with
  | error error => exact refl owned
  | ok last => exact step last rfl

theorem orKeep_map {ε α : Type} (owned : db.Owned) {result : Except ε α} {project : α → Db}
    (step : ∀ value, result = .ok value → Confined tenantId db (project value)) :
    Confined tenantId db (MarketingAgents.orKeep db (result.map project)) := by
  cases result with
  | error error => exact refl owned
  | ok value => exact step value rfl

/-- The history variables belong to no tenant. -/
theorem approvals (owned : db.Owned) (entries : List Approval) : Confined tenantId db { db with approvals := entries } :=
  of_core owned ⟨rfl, rfl, rfl, rfl, rfl, le_rfl⟩ ⟨rfl, rfl, rfl, rfl⟩ owned.assigned owned.attempted
    fun _ _ => ⟨rfl, rfl, rfl, rfl⟩

theorem writeApproved (owned : db.Owned) {a : ContentAsset} (held : db.Holds tenantId a.campaignId a.id)
    (mine : a.tenantId = tenantId) (path : ApprovalPath) (role : UserRole) :
    Confined tenantId db (db.writeApproved a path role) := by
  have set : Confined tenantId db (db.setAsset { a with status := .approved }) := setAsset owned held mine
  exact set.trans (approvals set.owned _)

theorem tagAsset (owned : db.Owned) {campaignId id : Uuid} (held : db.Holds tenantId campaignId id) (key : String)
    (value : Json) : Confined tenantId db (db.tagAsset key value id) := by
  unfold Db.tagAsset
  split
  · exact refl owned
  · rename_i a found
    obtain ⟨member, same⟩ := Db.asset?_mem found
    obtain ⟨mine, home⟩ := owned.one_holder held member same
    have here : db.Holds tenantId a.campaignId a.id := ⟨a, member, rfl, rfl, mine⟩
    exact setAsset owned here mine

end Confined

section Hooks

variable [PyText] {tenantId : Uuid} {db db' : Db} {c : Campaign} {now : Int}

omit [PyText] in
theorem insertAssets_confined (owned : db.Owned) (runs : db.Runs tenantId c.id) {rows : List ContentAsset}
    (mine : ∀ a ∈ rows, a.tenantId = tenantId ∧ a.campaignId = c.id) :
    Confined tenantId db (insertAssets db rows).1 ∧
      ∀ id ∈ (insertAssets db rows).2, (insertAssets db rows).1.Holds tenantId c.id id := by
  induction rows generalizing db with
  | nil => exact ⟨.refl owned, fun id member => by cases member⟩
  | cons a rows ih =>
    obtain ⟨owner, home⟩ := mine a (List.mem_cons_self ..)
    have first : Confined tenantId db (db.insertAsset a) := .insertAsset owned (home ▸ runs) owner
    obtain ⟨rest, ids⟩ := ih first.owned (first.runs _ _ runs) fun b later => mine b (List.mem_cons_of_mem _ later)
    refine ⟨first.trans rest, fun id member => ?_⟩
    rcases List.mem_cons.mp member with rfl | later
    · exact rest.holds _ _ _ ⟨_, List.mem_append_right _ (List.mem_singleton_self _), rfl, home, owner⟩
    · exact ids id later

omit [PyText] in
theorem insertGroups_confined (owned : db.Owned) (runs : db.Runs tenantId c.id)
    {groups : List (Option AbTestSpec × List ContentAsset)}
    (mine : ∀ group ∈ groups, ∀ a ∈ group.2, a.tenantId = tenantId ∧ a.campaignId = c.id) :
    Confined tenantId db (insertGroups db groups).1 ∧
      ∀ group ∈ (insertGroups db groups).2, ∀ id ∈ group.2, (insertGroups db groups).1.Holds tenantId c.id id := by
  induction groups generalizing db with
  | nil => exact ⟨.refl owned, fun group member => by cases member⟩
  | cons group groups ih =>
    obtain ⟨first, ids⟩ := insertAssets_confined owned runs (mine group (List.mem_cons_self ..))
    obtain ⟨rest, later⟩ := ih first.owned (first.runs _ _ runs) fun other member => mine other (List.mem_cons_of_mem _ member)
    refine ⟨first.trans rest, fun other member => ?_⟩
    rcases List.mem_cons.mp member with rfl | deeper
    · exact fun id inside => rest.holds _ _ _ (ids id inside)
    · exact later other deeper

theorem seedAbTest_confined (owned : db.Owned) (runs : db.Runs tenantId c.id) (owner : c.tenantId = tenantId)
    {group : Option AbTestSpec × List Uuid}
    (held : ∀ id ∈ group.2, db.Holds tenantId c.id id) : Confined tenantId db (seedAbTest c db group) := by
  unfold seedAbTest
  split
  · refine Confined.andThen ?test fun added => .foldl added.owned fun mid reached id member => ?tag
    case test => exact .insertAbTest owned rfl owner runs
    case tag => exact .tagAsset reached.owned (reached.holds _ _ _ (added.holds _ _ _ (held id member))) _ _
  · exact .refl owned

theorem generateTasks_confined (owned : db.Owned) (runs : db.Runs tenantId c.id) (owner : c.tenantId = tenantId)
    {agentId : Uuid} {ids : List Uuid}
    (done : ids.foldlM (fun db id => db.enqueue (generateTask c agentId id) now) db = .ok db') :
    Confined tenantId db db' :=
  .foldlM owned done fun mid reached id _ next step =>
    .enqueue reached.owned owner (fun other named => by cases named; exact reached.runs _ _ runs) step

theorem seedAssetsForCampaign_confined (owned : db.Owned) (runs : db.Runs tenantId c.id) (owner : c.tenantId = tenantId)
    {ids : List Uuid} (done : seedAssetsForCampaign db c now = .ok (db', ids)) :
    Confined tenantId db db' ∧ ∀ id ∈ ids, db'.Holds tenantId c.id id := by
  simp only [seedAssetsForCampaign, bind_eq_ok, pure_eq_ok, Prod.mk.injEq] at done
  obtain ⟨accepted, _, _, _, _, _, last, queued, rfl, rfl⟩ := done
  have agent : Confined tenantId db (db.ensureAgent c.tenantId .contentCreator).1 :=
    .ensureAgent owned owner .contentCreator
  have planned : ∀ group ∈ ((db.touchpoints.filter (·.proposalId = accepted.id)).insertionSort touchpointOrder).filterMap
      (seedTouchpoint (db.ensureAgent c.tenantId .contentCreator).1 c (parseAbTestSpecs accepted.payload)),
      ∀ a ∈ group.2, a.tenantId = tenantId ∧ a.campaignId = c.id := by
    intro group member a inside
    obtain ⟨tp, _, planned⟩ := List.mem_filterMap.mp member
    obtain ⟨plan, _, rfl⟩ := Option.map_eq_some_iff.mp planned
    obtain ⟨variant, _, rfl⟩ := List.mem_map.mp inside
    exact ⟨owner, rfl⟩
  obtain ⟨rows, held⟩ := insertGroups_confined agent.owned (agent.runs _ _ runs) planned
  have tests : Confined tenantId _ (List.foldl (seedAbTest c) _ _) := .foldl rows.owned fun mid reached group member =>
    seedAbTest_confined reached.owned (reached.runs _ _ (rows.runs _ _ (agent.runs _ _ runs))) owner fun id inside =>
      reached.holds _ _ _ (held group member id inside)
  have upto := (agent.trans rows).trans tests
  have tasks := generateTasks_confined upto.owned (upto.runs _ _ runs) owner queued
  refine ⟨upto.trans tasks, fun id member => ?_⟩
  obtain ⟨group, listed, inside⟩ := List.mem_flatMap.mp member
  exact tasks.holds _ _ _ (tests.holds _ _ _ (held group listed id inside))

theorem scheduledRow_columns (db : Db) (now : Int) (a : ContentAsset) : (scheduledRow db now a).id = a.id ∧
    (scheduledRow db now a).tenantId = a.tenantId ∧ (scheduledRow db now a).campaignId = a.campaignId := by
  have slot : (pickSlot db now a).id = a.id ∧ (pickSlot db now a).tenantId = a.tenantId ∧
      (pickSlot db now a).campaignId = a.campaignId := by
    unfold pickSlot
    split
    · split <;> exact ⟨rfl, rfl, rfl⟩
    · exact ⟨rfl, rfl, rfl⟩
  unfold scheduledRow
  dsimp only
  split <;> exact slot

theorem scheduleAsset_confined (owned : db.Owned) (runs : db.Runs tenantId c.id) {a : ContentAsset}
    (held : db.Holds tenantId a.campaignId a.id) (mine : a.tenantId = tenantId) {agentId : Uuid}
    (done : scheduleAsset c agentId now db a = .ok db') : Confined tenantId db db' := by
  obtain ⟨sameId, sameTenant, sameHome⟩ := scheduledRow_columns db now a
  have owner : (scheduledRow db now a).tenantId = tenantId := sameTenant.trans mine
  have here : db.Holds tenantId (scheduledRow db now a).campaignId (scheduledRow db now a).id := by
    rw [sameHome, sameId]
    exact held
  have row : Confined tenantId db (db.setAsset (scheduledRow db now a)) := .setAsset owned here owner
  unfold scheduleAsset at done
  dsimp only at done
  split at done
  · exact Except.ok.inj done ▸ row
  · exact row.trans (.enqueue row.owned owner (fun id named => by cases named; exact row.runs _ _ runs) done)

omit [PyText] in
/-- A loop of the distributor over assets of the campaign, each step of which stays with the tenant. -/
theorem distribute_confined (owned : db.Owned) (runs : db.Runs tenantId c.id) (owner : c.tenantId = tenantId)
    {chosen : ContentAsset → Bool} {pass : Db → ContentAsset → Except AppError Db}
    (done : ((db.campaignAssets c.id).filter chosen).foldlM pass (db.ensureAgent c.tenantId .channelDistribution).1 = .ok db')
    (step : ∀ mid a next, mid.Owned → mid.Runs tenantId c.id → mid.Holds tenantId a.campaignId a.id →
      a.tenantId = tenantId → pass mid a = .ok next → Confined tenantId mid next) : Confined tenantId db db' := by
  have agent : Confined tenantId db (db.ensureAgent c.tenantId .channelDistribution).1 :=
    .ensureAgent owned owner .channelDistribution
  refine agent.trans (.foldlM agent.owned done fun mid reached a member next passed => ?_)
  obtain ⟨held, mine⟩ := owned.holds_of_campaign runs (List.mem_of_mem_filter member)
  have here : mid.Holds tenantId a.campaignId a.id := reached.holds _ _ _ (agent.holds _ _ _ held)
  exact step mid a next reached.owned (reached.runs _ _ (agent.runs _ _ runs)) here mine passed

theorem scheduleApprovedAssets_confined (owned : db.Owned) (runs : db.Runs tenantId c.id) (owner : c.tenantId = tenantId)
    (done : scheduleApprovedAssets db c now = .ok db') : Confined tenantId db db' := by
  unfold scheduleApprovedAssets at done
  dsimp only at done
  split at done
  · exact Except.ok.inj done ▸ .refl owned
  · exact distribute_confined owned runs owner done fun mid a next owned' runs' here mine scheduled =>
      scheduleAsset_confined owned' runs' here mine scheduled

theorem resumeDistributionForCampaign_confined (owned : db.Owned) (runs : db.Runs tenantId c.id)
    (owner : c.tenantId = tenantId) (done : resumeDistributionForCampaign db c now = .ok db') :
    Confined tenantId db db' := by
  unfold resumeDistributionForCampaign at done
  dsimp only at done
  split at done
  · exact Except.ok.inj done ▸ .refl owned
  · refine distribute_confined owned runs owner done fun mid a next owned' runs' here mine resumed => ?_
    unfold resumeAsset at resumed
    split at resumed
    · exact Except.ok.inj resumed ▸ .setAsset (a := elapsedRow now a) owned' here mine
    · split at resumed
      · exact Except.ok.inj resumed ▸ .refl owned'
      · exact .enqueue owned' mine (fun id named => by cases named; exact runs') resumed

theorem flipDraftedAssetsToPendingApproval_confined (owned : db.Owned) (runs : db.Runs tenantId c.id) :
    Confined tenantId db (flipDraftedAssetsToPendingApproval db c now) := by
  unfold flipDraftedAssetsToPendingApproval
  refine .foldl owned fun mid reached a member => ?_
  have listed : a ∈ db.campaignAssets c.id := List.mem_of_mem_filter (List.mem_of_mem_filter member)
  obtain ⟨held, mine⟩ := owned.holds_of_campaign runs listed
  exact .setAsset reached.owned (reached.holds _ _ _ held) mine

theorem runOnEnter_confined (owned : db.Owned) (runs : db.Runs tenantId c.id) (owner : c.tenantId = tenantId)
    {onEnter : Option OnEnter} (done : runOnEnter onEnter db c now = .ok db') : Confined tenantId db db' := by
  cases onEnter with
  | none => exact Except.ok.inj done ▸ .refl owned
  | some hook =>
    cases hook with
    | enqueueEchoStep =>
      have agent : Confined tenantId db (db.ensureAgent c.tenantId .orchestrator).1 :=
        .ensureAgent owned owner .orchestrator
      exact agent.trans (.enqueue agent.owned owner (fun id named => by cases named; exact agent.runs _ _ runs) done)
    | seedContentAssets =>
      simp only [runOnEnter, OnEnter.run] at done
      obtain ⟨⟨last, ids⟩, seeded, rfl⟩ := map_eq_ok.mp done
      exact (seedAssetsForCampaign_confined owned runs owner seeded).1
    | flipDraftedAssetsToPendingApproval =>
      exact Except.ok.inj done ▸ flipDraftedAssetsToPendingApproval_confined owned runs
    | scheduleApprovedAssets => exact scheduleApprovedAssets_confined owned runs owner done
    | cancelQueuedOnPause => exact Except.ok.inj done ▸ .cancelQueued owned runs now
    | resumeDistribution => exact resumeDistributionForCampaign_confined owned runs owner done
    | autoGenerateReport => exact Except.ok.inj done ▸ .refl owned

theorem apply_confined (owned : db.Owned) (runs : db.Runs tenantId c.id) (owner : c.tenantId = tenantId) {name : String}
    (done : apply db c name now = .ok db') : Confined tenantId db db' := by
  obtain ⟨tr, _, _, _, _, entered⟩ := apply_eq_ok done
  have written : Confined tenantId db (db.writeStatus c.id tr.toState (.transition name)) := .writeStatus owned runs _ _
  exact written.trans (runOnEnter_confined written.owned (written.runs _ _ runs) owner entered)

theorem tryApply_confined (owned : db.Owned) (runs : db.Runs tenantId c.id) (owner : c.tenantId = tenantId) {name : String}
    (done : tryApply db c name now = .ok db') : Confined tenantId db db' := by
  rcases tryApply_eq_ok done with applied | rfl
  · exact apply_confined owned runs owner applied
  · exact .refl owned

theorem applyFrom_confined (owned : db.Owned) {campaignId : Uuid} (runs : db.Runs tenantId campaignId)
    {status : CampaignStatus} {name : String} (done : applyFrom status name db campaignId now = .ok db') :
    Confined tenantId db db' := by
  rcases applyFrom_eq_ok done with ⟨c, found, applied⟩ | rfl
  · have owner : c.tenantId = tenantId := owned.one_runner (Db.runs_of_found found) runs
    exact apply_confined owned ⟨c, (Db.campaign?_mem found).1, rfl, owner⟩ owner applied
  · exact .refl owned

theorem maybeSubmitForApproval_confined (owned : db.Owned) {campaignId : Uuid} (runs : db.Runs tenantId campaignId)
    (done : maybeSubmitForApproval db campaignId now = .ok db') : Confined tenantId db db' := by
  unfold maybeSubmitForApproval at done
  split at done
  · exact Except.ok.inj done ▸ .refl owned
  · exact applyFrom_confined owned runs done

theorem maybeGoLive_confined (owned : db.Owned) (runs : db.Runs tenantId c.id) (owner : c.tenantId = tenantId)
    (done : maybeGoLive db c now = .ok db') : Confined tenantId db db' := by
  unfold maybeGoLive at done
  split at done
  · exact tryApply_confined owned runs owner done
  · exact Except.ok.inj done ▸ .refl owned

theorem tryAdvanceAfterApproval_confined (owned : db.Owned) {campaignId : Uuid} (runs : db.Runs tenantId campaignId)
    (done : tryAdvanceAfterApproval db campaignId now = .ok db') : Confined tenantId db db' := by
  simp only [tryAdvanceAfterApproval, bind_eq_ok] at done
  obtain ⟨mid, submitted, launched⟩ := done
  have first := applyFrom_confined owned runs submitted
  exact first.trans (applyFrom_confined first.owned (first.runs _ _ runs) launched)

end Hooks

section Requests

variable [PyText] {db db' : Db} {user : AppUser} {now : Int}

omit [PyText] in
theorem createCampaign_confined (owned : db.Owned) {draft : Campaign} (done : createCampaign db user draft = .ok db') :
    Confined user.tenantId db db' := by
  simp only [createCampaign, bind_eq_ok, pure_eq_ok] at done
  obtain ⟨_, _, _, _, rfl⟩ := done
  exact .insertCampaign owned rfl rfl

omit [PyText] in
theorem patchCampaign_confined (owned : db.Owned) {campaignId : Uuid} {patch : CampaignPatch}
    (done : patchCampaign db user campaignId patch = .ok db') : Confined user.tenantId db db' := by
  simp only [patchCampaign, bind_eq_ok, orRaise_eq_ok, pure_eq_ok] at done
  obtain ⟨_, _, c, found, _, _, _, _, rfl⟩ := done
  obtain ⟨runs, owner, _⟩ := Db.runs_of_tenantCampaign? found
  exact .setCampaign (c := patch.apply c) owned runs owner

omit [PyText] in
theorem upsertApprovalSettings_confined (owned : db.Owned) {adminAbove : Option Decimal} {cap : Decimal} {currency : String}
    (done : upsertApprovalSettings db user adminAbove cap currency = .ok db') : Confined user.tenantId db db' := by
  simp only [upsertApprovalSettings, bind_eq_ok, pure_eq_ok] at done
  obtain ⟨_, _, rfl⟩ := done
  refine .of_core owned ⟨rfl, rfl, rfl, rfl, rfl, le_rfl⟩ ⟨rfl, rfl, rfl, rfl⟩ owned.assigned owned.attempted
    fun s other => ⟨rfl, rfl, rfl, ?_⟩
  have kept : (db.approvalSettings.filter (·.tenantId ≠ user.tenantId)).filter (·.tenantId = s) =
      db.approvalSettings.filter (·.tenantId = s) := by
    rw [List.filter_filter]
    refine List.filter_congr fun row _ => ?_
    by_cases mine : row.tenantId = s
    · simp [mine, other]
    · simp [mine]
  rw [List.filter_append, kept, List.filter_cons_of_neg (by simpa using other.symm), List.filter_nil, List.append_nil]

theorem applyTransition_confined (owned : db.Owned) {minimum : UserRole} {campaignId : Uuid} {name : String}
    (done : applyTransition db user minimum campaignId name now = .ok db') : Confined user.tenantId db db' := by
  simp only [applyTransition, bind_eq_ok, orRaise_eq_ok] at done
  obtain ⟨_, _, c, found, applied⟩ := done
  obtain ⟨runs, owner, _⟩ := Db.runs_of_tenantCampaign? found
  exact apply_confined owned runs owner applied

omit [PyText] in
/-- The calendar of a proposal replaces those of proposals that are dropped, all of the tenant. -/
theorem replan_confined {tenantId : Uuid} (owned : db.Owned) {p : StrategyProposal} (proposes : db.Proposes tenantId p.id)
    (runs : db.Runs tenantId p.campaignId) {others : List Uuid} (dropped : ∀ id ∈ others, db.Proposes tenantId id)
    (slots : List (String × Int × Int)) : Confined tenantId db
      ((({ db with touchpoints := db.touchpoints.filter (·.proposalId ∉ others) } : Db).acceptProposal p).addTouchpoints
        p.id slots) := by
  have cleared : Confined tenantId db { db with touchpoints := db.touchpoints.filter (·.proposalId ∉ others) } := by
    refine .dropTouchpoints owned fun tp _ gone => dropped _ ?_
    simpa using gone
  have flagged := cleared.trans (.acceptProposal cleared.owned (cleared.runs _ _ runs))
  exact flagged.trans (.addTouchpoints flagged.owned (flagged.proposes _ _ proposes) slots)

theorem acceptStrategy_confined (owned : db.Owned) {proposalId : Uuid} {calendar : Except String (List (String × Int × Int))}
    (done : acceptStrategy db user proposalId calendar now = .ok db') : Confined user.tenantId db db' := by
  simp only [acceptStrategy, bind_eq_ok, orRaise_eq_ok] at done
  obtain ⟨_, _, p, listed, done⟩ := done
  split at done
  · exact Except.ok.inj done ▸ .refl owned
  · simp only [bind_eq_ok, orRaise_eq_ok] at done
    obtain ⟨c, found, done⟩ := done
    obtain ⟨runs, owner, same⟩ := Db.runs_of_tenantCampaign? found
    have ours : db.Runs user.tenantId p.campaignId := same ▸ runs
    have proposes : db.Proposes user.tenantId p.id := ⟨p, List.mem_of_find?_eq_some listed, rfl, ours⟩
    split at done
    · cases done
    · rename_i slots
      have dropped : ∀ id ∈ (db.proposals.filter fun q => q.campaignId = p.campaignId ∧ q.id ≠ p.id).map StrategyProposal.id,
          db.Proposes user.tenantId id := by
        intro id member
        obtain ⟨q, here, rfl⟩ := List.mem_map.mp member
        obtain ⟨stored, home⟩ := List.mem_filter.mp here
        exact ⟨q, stored, rfl, (of_decide_eq_true home).1 ▸ ours⟩
      have planned := replan_confined owned proposes ours dropped slots
      split at done
      · exact planned.andThen fun upto => apply_confined upto.owned (upto.runs _ _ runs) owner done
      · exact Except.ok.inj done ▸ planned

omit [PyText] in
theorem analyseCampaign_confined (owned : db.Owned) {campaignId tenantId : Uuid} (runs : db.Runs tenantId campaignId)
    (autoPause : Bool) : Confined tenantId db (analyseCampaign db campaignId autoPause) := by
  unfold analyseCampaign
  split
  · rename_i c found
    have owner : c.tenantId = tenantId := owned.one_runner (Db.runs_of_found found) runs
    split
    · exact .writeStatus owned ⟨c, (Db.campaign?_mem found).1, rfl, owner⟩ _ _
    · exact .refl owned
  · exact .refl owned

theorem generateAsset_confined (owned : db.Owned) {campaignId assetId tenantId : Uuid}
    (held : db.Holds tenantId campaignId assetId) (generation : Generation) :
    Confined tenantId db (generateAsset db assetId generation now).1 := by
  have row : ∀ {a b : ContentAsset}, db.asset? assetId = some a → Traced a b →
      Confined tenantId db (db.setAsset b) ∧ db.Runs tenantId a.campaignId := by
    intro a b found traced
    obtain ⟨member, same⟩ := Db.asset?_mem found
    obtain ⟨mine, home⟩ := owned.one_holder held member same
    have here : db.Holds tenantId b.campaignId b.id := ⟨a, member, traced.id.symm, traced.campaignId.symm, mine⟩
    exact ⟨.setAsset owned here (traced.tenantId.trans mine), mine ▸ owned.home a member⟩
  have ends := generateAsset_generates db assetId generation now
  generalize generateAsset db assetId generation now = ended at ends ⊢
  cases ends with
  | missing error => exact .refl owned
  | raised new found traced status error => exact (row found traced).1
  | held message same found traced status => exact (row found traced).1
  | drafted out same found submitted =>
    obtain ⟨drafted, runs⟩ := row found (draftedRow_traced out _)
    exact drafted.trans (maybeSubmitForApproval_confined drafted.owned (drafted.runs _ _ runs) submitted)
  | unsubmitted out same found error => exact (row found (draftedRow_traced out _)).1

theorem regenerateAsset_confined (owned : db.Owned) {apiKey : Bool} {assetId : Uuid}
    (done : regenerateAsset db user apiKey assetId now = .ok db') : Confined user.tenantId db db' := by
  simp only [regenerateAsset, bind_eq_ok, orRaise_eq_ok] at done
  obtain ⟨_, _, _, _, a, found, c, foundCampaign, _, _, queued⟩ := done
  obtain ⟨held, mine⟩ := Db.holds_of_tenantAsset? found
  have row : Confined user.tenantId db (db.setAsset { a with status := .requested }) := .setAsset owned held mine
  have agent := row.trans (.ensureAgent row.owned mine .contentCreator)
  refine agent.trans (.enqueue agent.owned mine (fun id named => ?_) queued)
  cases named
  exact agent.runs _ _ (owned.runs_of_holds held)

theorem clearComplianceBlock_confined (owned : db.Owned) {assetId : Uuid}
    (done : clearComplianceBlock db user assetId = .ok db') : Confined user.tenantId db db' := by
  simp only [clearComplianceBlock, bind_eq_ok, orRaise_eq_ok, pure_eq_ok] at done
  obtain ⟨_, _, a, found, compliance, _, rfl⟩ := done
  obtain ⟨held, mine⟩ := Db.holds_of_tenantAsset? found
  exact .setAsset (a := a.tag "compliance" _) owned held mine

omit [PyText] in
/-- A decision on an asset of the tenant, and its approval. -/
theorem decide_confined (owned : db.Owned) {d : ApprovalDecisionLog} {a : ContentAsset} (about : d.contentAssetId = a.id)
    (held : db.Holds user.tenantId a.campaignId a.id) (mine : a.tenantId = user.tenantId) (path : ApprovalPath) :
    Confined user.tenantId db ((db.insertDecision d).writeApproved a path user.role) := by
  have decided : Confined user.tenantId db (db.insertDecision d) := .insertDecision owned (about.symm ▸ held)
  exact decided.trans (.writeApproved decided.owned (decided.holds _ _ _ held) mine path user.role)

omit [PyText] in
theorem recordApproval_confined (owned : db.Owned) {a : ContentAsset} (held : db.Holds user.tenantId a.campaignId a.id)
    (mine : a.tenantId = user.tenantId) (path : ApprovalPath) (body : ApproveRequest) (edited : Bool) :
    Confined user.tenantId db (recordApproval db user a path body edited) := by
  cases edited with
  | true => exact decide_confined (a := applyEdits body a) owned rfl held mine path
  | false => exact decide_confined owned rfl held mine path

theorem approveAsset_confined (owned : db.Owned) {assetId : Uuid} {body : ApproveRequest}
    (done : approveAsset db user assetId body now = .ok db') : Confined user.tenantId db db' := by
  simp only [approveAsset, bind_eq_ok, orRaise_eq_ok] at done
  obtain ⟨_, _, a, found, c, foundCampaign, _, _, _, _, _, _, launched⟩ := done
  obtain ⟨held, mine⟩ := Db.holds_of_tenantAsset? found
  have recorded := recordApproval_confined owned held mine .api body body.hasEdits
  exact recorded.trans
    (applyFrom_confined recorded.owned (recorded.runs _ _ (Db.runs_of_tenantCampaign? foundCampaign).1) launched)

theorem rejectAsset_confined (owned : db.Owned) {assetId : Uuid} {reason : String} {category : ApprovalRejectionCategory}
    (done : rejectAsset db user assetId reason category now = .ok db') : Confined user.tenantId db db' := by
  simp only [rejectAsset, bind_eq_ok, orRaise_eq_ok] at done
  obtain ⟨_, _, a, found, c, foundCampaign, _, _, mid, queued, reverted⟩ := done
  obtain ⟨held, mine⟩ := Db.holds_of_tenantAsset? found
  have decided := Confined.insertDecision (d := decisionRow a user .rejected (some reason)
    (some [("category", .str category.value)])) owned held
  have row : Confined user.tenantId _ _ :=
    .setAsset (a := { a with status := .rejected }) decided.owned (decided.holds _ _ _ held) mine
  have upto := decided.trans row
  have agent := upto.trans (.ensureAgent upto.owned mine .contentCreator)
  have runs := agent.runs _ _ (owned.runs_of_holds held)
  have tasks := agent.trans (.enqueue agent.owned mine (fun id named => by cases named; exact runs) queued)
  exact tasks.trans
    (applyFrom_confined tasks.owned (tasks.runs _ _ (Db.runs_of_tenantCampaign? foundCampaign).1) reverted)

theorem batchApproveOne_confined {st : BatchState} (owned : st.db.Owned) (dryRun : Bool) (writeFails : Dict Uuid String)
    (assetId : Uuid) (mine : ∀ id ∈ st.campaignIds, st.db.Runs user.tenantId id) :
    Confined user.tenantId st.db (batchApproveOne user dryRun writeFails st assetId).db ∧
      ∀ id ∈ (batchApproveOne user dryRun writeFails st assetId).campaignIds,
        (batchApproveOne user dryRun writeFails st assetId).db.Runs user.tenantId id := by
  unfold batchApproveOne
  split
  · exact ⟨.refl owned, mine⟩
  · rename_i a found
    obtain ⟨held, owner⟩ := Db.holds_of_tenantAsset? found
    split
    · exact ⟨.refl owned, mine⟩
    · rename_i c foundCampaign
      split
      · exact ⟨.refl owned, mine⟩
      · have more : ∀ id ∈ (if c.id ∈ st.campaignIds then st.campaignIds else st.campaignIds ++ [c.id]),
            st.db.Runs user.tenantId id := by
          intro id member
          split at member
          · exact mine id member
          · rcases List.mem_append.mp member with old | new
            · exact mine id old
            · exact List.mem_singleton.mp new ▸ (Db.runs_of_tenantCampaign? foundCampaign).1
        dsimp only
        split
        · exact ⟨.refl owned, more⟩
        · split
          · exact ⟨.refl owned, more⟩
          · have approved := decide_confined (d := decisionRow a user .approved none
              (some [("batch", .bool true)])) owned rfl held owner .batch
            exact ⟨approved, fun id member => approved.runs _ _ (more id member)⟩

theorem batchApprove_confined (owned : db.Owned) {assetIds : List Uuid} {dryRun : Bool} {writeFails : Dict Uuid String}
    {response : BatchApproveResponse} (done : batchApprove db user assetIds dryRun writeFails now = .ok (db', response)) :
    Confined user.tenantId db db' := by
  simp only [batchApprove, bind_eq_ok, pure_eq_ok, Prod.mk.injEq] at done
  obtain ⟨_, _, last, advanced, rfl, _⟩ := done
  have start : Confined user.tenantId db ({ db := db } : BatchState).db ∧
      ∀ id ∈ ({ db := db } : BatchState).campaignIds, db.Runs user.tenantId id :=
    ⟨.refl owned, fun id member => absurd member List.not_mem_nil⟩
  have swept := List.foldlRecOn (motive := fun st : BatchState => Confined user.tenantId db st.db ∧
      ∀ id ∈ st.campaignIds, st.db.Runs user.tenantId id) assetIds (batchApproveOne user dryRun writeFails) start
    fun st reached assetId _ =>
      have pass := batchApproveOne_confined reached.1.owned dryRun writeFails assetId reached.2
      ⟨reached.1.trans pass.1, pass.2⟩
  unfold batchAdvance at advanced
  split at advanced
  · exact Except.ok.inj advanced ▸ swept.1
  · exact swept.1.trans (.foldlM swept.1.owned advanced fun mid reached id member next step =>
      applyFrom_confined reached.owned (reached.runs _ _ (swept.2 id member)) step)

theorem approveViaUi_confined (owned : db.Owned) {assetId : Uuid} {form : Dict String String} {result : UiResult}
    (done : approveViaUi db user assetId form now = .ok (db', result)) : Confined user.tenantId db db' := by
  simp only [approveViaUi, bind_eq_ok, orRaise_eq_ok] at done
  obtain ⟨_, _, a, found, c, foundCampaign, done⟩ := done
  obtain ⟨held, mine⟩ := Db.holds_of_tenantAsset? found
  split at done
  · obtain ⟨rfl, _⟩ := Prod.mk.inj (Except.ok.inj done)
    exact .refl owned
  · split at done
    · obtain ⟨rfl, _⟩ := Prod.mk.inj (Except.ok.inj done)
      exact .refl owned
    · simp only [bind_eq_ok, pure_eq_ok, Prod.mk.injEq] at done
      obtain ⟨last, launched, rfl, _⟩ := done
      have recorded := recordApproval_confined owned held mine .ui (uiRequest form)
        ((uiRequest form).hasEdits || (uiRequest form).note.isSome)
      exact recorded.trans (tryAdvanceAfterApproval_confined recorded.owned
        (recorded.runs _ _ (Db.runs_of_tenantCampaign? foundCampaign).1) launched)

theorem rejectViaUi_confined (owned : db.Owned) {assetId : Uuid} {reason : String} {category : ApprovalRejectionCategory}
    {result : UiResult} (done : rejectViaUi db user assetId reason category now = .ok (db', result)) :
    Confined user.tenantId db db' := by
  simp only [rejectViaUi, bind_eq_ok] at done
  obtain ⟨_, _, done⟩ := done
  split at done
  · obtain ⟨rfl, _⟩ := Prod.mk.inj (Except.ok.inj done)
    exact .refl owned
  · simp only [bind_eq_ok, orRaise_eq_ok] at done
    obtain ⟨a, found, done⟩ := done
    obtain ⟨held, mine⟩ := Db.holds_of_tenantAsset? found
    split at done
    · obtain ⟨rfl, _⟩ := Prod.mk.inj (Except.ok.inj done)
      exact .refl owned
    · simp only [bind_eq_ok, pure_eq_ok, Prod.mk.injEq] at done
      obtain ⟨last, launched, rfl, _⟩ := done
      have decided := Confined.insertDecision (d := decisionRow a user .rejected (some (strip reason))
        (some [("category", .str category.value)])) owned held
      have row := decided.trans (.setAsset (a := { a with status := .rejected, isRequired := false }) decided.owned
        (decided.holds _ _ _ held) mine)
      exact row.trans (tryAdvanceAfterApproval_confined row.owned (row.runs _ _ (owned.runs_of_holds held)) launched)

theorem listVariants_mine {testId : Uuid} {a : ContentAsset} (member : a ∈ listVariants db user testId) :
    a ∈ db.assets ∧ a.tenantId = user.tenantId :=
  have row := List.mem_filter.mp member
  ⟨row.1, (of_decide_eq_true row.2).1⟩

theorem variantsOrPair_mine {test : AbTest} {a : ContentAsset} (member : a ∈ variantsOrPair db user test) :
    a ∈ db.assets ∧ a.tenantId = user.tenantId := by
  unfold variantsOrPair at member
  split at member
  · have row := List.mem_filter.mp member
    exact ⟨row.1, (of_decide_eq_true row.2).1⟩
  · exact listVariants_mine member

theorem addVariant_confined (owned : db.Owned) {apiKey : Bool} {testId : Uuid}
    (done : addVariant db user apiKey testId now = .ok db') : Confined user.tenantId db db' := by
  simp only [addVariant, bind_eq_ok, orRaise_eq_ok] at done
  obtain ⟨_, _, _, _, test, _, done⟩ := done
  split at done
  · cases done
  · rename_i template rest listed
    simp only [bind_eq_ok, orRaise_eq_ok] at done
    obtain ⟨_, _, last, _, queued⟩ := done
    obtain ⟨member, mine⟩ := listVariants_mine (listed ▸ List.mem_cons_self .. : template ∈ listVariants db user testId)
    have runs : db.Runs user.tenantId template.campaignId := mine ▸ owned.home template member
    have row := Confined.insertAsset (a := variantAsset template testId (last + 1)) owned runs mine
    have agent := row.trans (.ensureAgent row.owned mine .contentCreator)
    exact agent.trans (.enqueue agent.owned mine (fun id named => by cases named; exact agent.runs _ _ runs) queued)

omit [PyText] in
/-- A test of the tenant as the lookup returns it. -/
theorem tenantAbTest?_mine {testId : Uuid} {test : AbTest} (found : db.tenantAbTest? user testId = some test) :
    test ∈ db.abTests ∧ test.tenantId = user.tenantId :=
  have ⟨here, mine⟩ := Option.filter_eq_some_iff.mp found
  ⟨List.mem_of_find?_eq_some here, of_decide_eq_true mine⟩

theorem launchAbTest_confined (owned : db.Owned) {testId : Uuid} (done : launchAbTest db user testId now = .ok db') :
    Confined user.tenantId db db' := by
  simp only [launchAbTest, bind_eq_ok, orRaise_eq_ok, pure_eq_ok] at done
  obtain ⟨_, _, test, found, _, _, _, _, _, _, rfl⟩ := done
  obtain ⟨here, mine⟩ := tenantAbTest?_mine found
  exact .setAbTest owned here mine rfl rfl mine

omit [PyText] in
theorem stopAbTest_confined (owned : db.Owned) {testId : Uuid} (done : stopAbTest db user testId now = .ok db') :
    Confined user.tenantId db db' := by
  simp only [stopAbTest, bind_eq_ok, orRaise_eq_ok, pure_eq_ok] at done
  obtain ⟨_, _, test, found, _, _, rfl⟩ := done
  obtain ⟨here, mine⟩ := tenantAbTest?_mine found
  exact .setAbTest owned here mine rfl rfl mine

omit [PyText] in
theorem archiveLoser_confined (owned : db.Owned) {v : ContentAsset} (held : db.Holds user.tenantId v.campaignId v.id)
    (mine : v.tenantId = user.tenantId) (winnerId : Uuid) : Confined user.tenantId db (archiveLoser winnerId db v) := by
  unfold archiveLoser
  split
  · exact .refl owned
  · exact .setAsset (a := { v with status := .archived }) owned held mine

theorem promoteAbTest_confined (owned : db.Owned) {testId : Uuid} (done : promoteAbTest db user testId = .ok db') :
    Confined user.tenantId db db' := by
  simp only [promoteAbTest, bind_eq_ok, orRaise_eq_ok, pure_eq_ok] at done
  obtain ⟨_, _, test, found, winnerId, _, winner, _, _, _, rfl⟩ := done
  obtain ⟨here, mine⟩ := tenantAbTest?_mine found
  have archived : Confined user.tenantId db ((variantsOrPair db user test).foldl (archiveLoser winner.id) db) :=
    .foldl owned fun mid reached v member =>
      have ⟨stored, owner⟩ := variantsOrPair_mine member
      archiveLoser_confined reached.owned (reached.holds _ _ _ (owner ▸ Db.holds_of_mem stored)) owner winner.id
  refine archived.trans (.setAbTest archived.owned (?_ : test ∈ _) mine rfl rfl mine)
  exact (archiveLosers_keep winner.id (variantsOrPair db user test) db).2 ▸ here

theorem createAbTest_confined (owned : db.Owned) {campaignId : Uuid} {body : CreateAbTestRequest}
    (done : createAbTest db user campaignId body = .ok db') : Confined user.tenantId db db' := by
  simp only [createAbTest, bind_eq_ok, orRaise_eq_ok] at done
  obtain ⟨_, _, c, campaign, _, _, _, _, _, _, _, _, rest⟩ := done
  obtain ⟨runs, _, same⟩ := Db.runs_of_tenantCampaign? campaign
  split at rest
  · cases rest
  · simp only [bind_eq_ok, pure_eq_ok] at rest
    obtain ⟨_, _, rfl⟩ := rest
    refine Confined.andThen ?test fun added => .foldl added.owned fun mid reached v member => ?tag
    case test => exact .insertAbTest owned rfl rfl (same ▸ runs)
    case tag =>
      have row := List.mem_filter.mp member
      have mine : v.tenantId = user.tenantId := (of_decide_eq_true row.2).2
      exact .tagAsset reached.owned (reached.holds _ _ _ (added.holds _ _ _ (mine ▸ Db.holds_of_mem row.1))) _ _

omit [PyText] in
theorem evaluateTest_confined (owned : db.Owned) {testId : Uuid} {test : AbTest} (found : db.abTest? testId = some test)
    (decision : AbDecision) : Confined test.tenantId db (evaluateTest db testId decision now) := by
  rcases evaluateTest_cases db testId decision now with ⟨_, same⟩ | ⟨_, _, test', found', _, _, judged, set⟩
  · rw [same]
    exact .refl owned
  · cases found.symm.trans found'
    rw [set]
    exact .setAbTest owned (List.mem_of_find?_eq_some found) rfl (by cases judged <;> rfl) (by cases judged <;> rfl)
      (by cases judged <;> rfl)

end Requests

section Dispatches

variable [PyText] {tenantId : Uuid} {db db' : Db} {assetId : Uuid} {now : Int}

omit [PyText] in
/-- A dispatched asset and its campaign are of one tenant. -/
theorem Dispatchable.mine {a : ContentAsset} {c : Campaign} (owned : db.Owned) (begun : Dispatchable db assetId a c) :
    db.Holds a.tenantId a.campaignId a.id ∧ db.Runs a.tenantId c.id ∧ c.tenantId = a.tenantId := by
  obtain ⟨member, _⟩ := Db.asset?_mem begun.asset
  have owner : c.tenantId = a.tenantId := owned.one_runner (Db.runs_of_found begun.campaign) (owned.home a member)
  exact ⟨Db.holds_of_mem member, ⟨c, (Db.campaign?_mem begun.campaign).1, rfl, owner⟩, owner⟩

theorem recordEmail_confined (owned : db.Owned) {secret : String} {a : ContentAsset} {c : Campaign} {plan : EmailPlan}
    (held : db.Holds a.tenantId a.campaignId a.id) (planned : planEmail db secret a c now = .ok plan)
    (result : Option DispatchResult) : Confined a.tenantId db (db.recordEmail plan result now) := by
  obtain ⟨rfl, assigned⟩ := planEmail_tests planned
  have attempts := emailAttempts_asset plan result now
  refine .of_core owned ⟨rfl, rfl, rfl, rfl, rfl, le_rfl⟩ ⟨rfl, rfl, rfl, rfl⟩ (fun row member => ?_) ?_
    fun s other => ⟨rfl, ?_, ?_, rfl⟩
  · rcases List.mem_append.mp member with old | new
    · exact owned.assigned row old
    · obtain ⟨mine, tests⟩ := assigned row (List.mem_of_mem_filter new)
      exact mine ▸ tests
  · refine upsertDispatchAttempts_forall (P := fun s id => ∃ campaignId, db.Holds s campaignId id) (fun row member => ?_)
      owned.attempted
    obtain ⟨mine, about⟩ := attempts row member
    exact ⟨plan.asset.campaignId, by rw [mine, about]; exact held⟩
  · exact insertAssignments_others (fun row member => (assigned row member).1) other _
  · exact upsertDispatchAttempts_others (fun row member => (attempts row member).1) other _

omit [PyText] in
theorem publish_confined (owned : db.Owned) {a : ContentAsset} (held : db.Holds a.tenantId a.campaignId a.id)
    (extras : Dict String Json) : Confined a.tenantId db (db.publish a extras now) :=
  .rewrite owned held (fun _ same => same) fun _ home mine => ⟨home, mine⟩

theorem commitEmail_confined (owned : db.Owned) {secret : String} {plan : EmailPlan}
    (begun : Dispatchable db assetId plan.asset plan.campaign)
    (planned : planEmail db secret plan.asset plan.campaign now = .ok plan) {result : Option DispatchResult}
    (done : commitEmail db plan result now = .ok db') : Confined plan.asset.tenantId db db' := by
  obtain ⟨held, runs, owner⟩ := begun.mine owned
  have recorded := recordEmail_confined owned held planned result
  have published : Confined plan.asset.tenantId db ((db.recordEmail plan result now).publish plan.asset
      [("dispatch_summary", emailSummary plan result), ("dispatch_provider", .str "sendgrid")] now) :=
    recorded.trans (publish_confined recorded.owned (recorded.holds _ _ _ held) _)
  exact published.trans (maybeGoLive_confined published.owned (published.runs _ _ runs) owner (commitEmail_eq_ok.mp done).2)

theorem dispatchEmailAsset_confined (owned : db.Owned) {secret : String} {answer : SendgridResponse} {batchId : Uuid}
    {a : ContentAsset} (found : db.asset? assetId = some a)
    (done : dispatchEmailAsset db secret assetId answer batchId now = .ok db') : Confined a.tenantId db db' := by
  unfold dispatchEmailAsset at done
  split at done
  · cases done
  · exact Except.ok.inj done ▸ .refl owned
  · rename_i plan begun
    obtain ⟨dispatchable, planned⟩ := beginEmail_dispatchable begun
    have same : plan.asset = a := Option.some.inj (dispatchable.asset.symm.trans found)
    rw [← same]
    unfold finishEmail at done
    split at done
    · exact commitEmail_confined owned dispatchable planned (mapError_eq_ok.mp done)
    · split at done
      · cases done
      · exact commitEmail_confined owned dispatchable planned (mapError_eq_ok.mp done)

omit [PyText] in
theorem pauseCampaign_confined (owned : db.Owned) {c : Campaign} (runs : db.Runs tenantId c.id) :
    Confined tenantId db (pauseCampaign db c now) := by
  unfold pauseCampaign
  split
  · exact .refl owned
  · have written := Confined.writeStatus owned runs .paused .pauseHelper
    exact written.trans (.cancelQueued written.owned (written.runs _ _ runs) now)

theorem finishSocial_confined (owned : db.Owned) {plan : SocialPlan}
    (begun : Dispatchable db assetId plan.asset plan.campaign) {outcome : SocialOutcome}
    (done : finishSocial db plan outcome now = .ok db') : Confined plan.asset.tenantId db db' := by
  obtain ⟨held, runs, owner⟩ := begun.mine owned
  unfold finishSocial at done
  split at done
  · rename_i message _
    cases Except.ok.inj done
    have paused : Confined plan.asset.tenantId db (pauseCampaign db plan.campaign now) := pauseCampaign_confined owned runs
    exact paused.trans (.rewrite paused.owned (paused.holds _ _ _ held) (fun _ same => same) fun _ home mine => ⟨home, mine⟩)
  · cases done
  · rename_i result _
    have recorded : Confined plan.asset.tenantId db (db.recordSocial plan result now) :=
      .of_core owned ⟨rfl, rfl, rfl, rfl, rfl, le_rfl⟩ ⟨rfl, rfl, rfl, rfl⟩ owned.assigned
        (upsertDispatchAttempt_forall (P := fun s id => ∃ campaignId, db.Holds s campaignId id) ⟨_, held⟩ owned.attempted)
        fun s other => ⟨rfl, rfl, upsertDispatchAttempt_others rfl other _, rfl⟩
    have published : Confined plan.asset.tenantId db
        ((db.recordSocial plan result now).publish plan.asset (socialExtras plan result) now) :=
      recorded.trans (publish_confined recorded.owned (recorded.holds _ _ _ held) _)
    have committed := (commitSocial_eq_ok.mp (mapError_eq_ok.mp done)).2
    exact published.trans (maybeGoLive_confined published.owned (published.runs _ _ runs) owner committed)

theorem dispatchSocialAsset_confined (owned : db.Owned) {answer : SocialAnswer} {a : ContentAsset}
    (found : db.asset? assetId = some a) (done : dispatchSocialAsset db assetId answer now = .ok db') :
    Confined a.tenantId db db' := by
  unfold dispatchSocialAsset at done
  split at done
  · cases done
  · exact Except.ok.inj done ▸ .refl owned
  · rename_i plan begun
    have dispatchable := beginSocial_dispatchable begun
    have same : plan.asset = a := Option.some.inj (dispatchable.asset.symm.trans found)
    rw [← same]
    exact finishSocial_confined owned dispatchable done

end Dispatches

namespace Assistant

variable [PyText] {db : Db} {user : AppUser} {now : Int}

/-- A tool on a campaign that the user's tenant runs. -/
theorem withCampaign_confined (owned : db.Owned) {minimum : UserRole} {campaignId : Uuid} {run : Campaign → ToolRun}
    (kept : ∀ c, db.Runs user.tenantId c.id → c.tenantId = user.tenantId → Confined user.tenantId db (run c).1) :
    Confined user.tenantId db (withCampaign db user minimum campaignId run).1 :=
  withCampaign_rule (P := fun result => Confined user.tenantId db result.1) (fun _ => .refl owned) fun c _ found =>
    have row := Db.runs_of_tenantCampaign? found
    kept c row.1 row.2.1

/-- A tool on an asset that the user's tenant holds. -/
theorem withAsset_confined (owned : db.Owned) {minimum : UserRole} {assetId : Uuid} {run : ContentAsset → ToolRun}
    (kept : ∀ a, db.Holds user.tenantId a.campaignId a.id → a.tenantId = user.tenantId →
      Confined user.tenantId db (run a).1) :
    Confined user.tenantId db (withAsset db user minimum assetId run).1 :=
  withAsset_rule (P := fun result => Confined user.tenantId db result.1) (fun _ => .refl owned) fun a _ found =>
    have row := Db.holds_of_tenantAsset? found
    kept a row.1 row.2

omit [PyText] in
theorem settle_confined {tenantId : Uuid} {mid : Db} (reached : Confined tenantId db mid) {result : Except AppError Db}
    (step : ∀ last, result = .ok last → Confined tenantId mid last) : Confined tenantId db (settle mid result).1 := by
  cases result with
  | error error => exact reached
  | ok last => exact reached.trans (step last rfl)

theorem generateAll_confined {tenantId campaignId : Uuid} (owned : db.Owned) {ids : List Uuid}
    (held : ∀ id ∈ ids, db.Holds tenantId campaignId id) (generations : List Generation) :
    Confined tenantId db (generateAll now db ids generations) := by
  induction ids generalizing db generations with
  | nil => exact .refl owned
  | cons id ids ih =>
    have first : Confined tenantId db (generateAsset db id (generations.headD (.raised "")) now).1 :=
      generateAsset_confined owned (held id (List.mem_cons_self ..)) _
    exact first.trans (ih first.owned (fun other later => first.holds _ _ _ (held other (List.mem_cons_of_mem _ later))) _)

theorem outreachDraft_confined {db' : Db} {c : Campaign} {tenantId audienceId : Uuid} {overwrite : Bool} {segment : Segment}
    {channel : String} {reply : OutreachReply} (owned : db.Owned) (runs : db.Runs tenantId c.id) (owner : c.tenantId = tenantId)
    (done : outreachDraft c audienceId overwrite db segment channel reply = .ok db') : Confined tenantId db db' := by
  unfold outreachDraft at done
  dsimp only at done
  generalize templates : existingTemplates db c audienceId _ segment.key = existing at done
  have mine : ∀ a ∈ existing, db.Holds tenantId a.campaignId a.id ∧ a.tenantId = tenantId := fun a member =>
    owned.holds_of_campaign runs (List.mem_of_mem_filter (templates ▸ member))
  rcases existing with _ | ⟨a, _ | ⟨b, rest⟩⟩
  · dsimp only at done
    repeat' split at done
    all_goals cases done
    all_goals first
      | exact .refl owned
      | exact .insertAsset owned runs owner
  · obtain ⟨held, same⟩ := mine a (List.mem_singleton_self a)
    dsimp only at done
    repeat' split at done
    all_goals cases done
    all_goals first
      | exact .refl owned
      | exact .setAsset owned held same
  · simp at done

theorem outreachDrafts_confined {c : Campaign} {tenantId audienceId : Uuid} {overwrite : Bool} (owned : db.Owned)
    (runs : db.Runs tenantId c.id) (owner : c.tenantId = tenantId) (replies : List (Segment × String × OutreachReply)) :
    Confined tenantId db (outreachDrafts c audienceId overwrite db replies).1 := by
  induction replies generalizing db with
  | nil => exact .refl owned
  | cons entry replies ih =>
    obtain ⟨segment, channel, reply⟩ := entry
    unfold outreachDrafts
    split
    · rename_i mid drafted
      have first := outreachDraft_confined owned runs owner drafted
      exact first.trans (ih first.owned (first.runs _ _ runs))
    · exact .refl owned

theorem acceptStrategy_confined (owned : db.Owned) (campaignId : Uuid) (confirm : Bool)
    (calendar : Except String (List (String × Int × Int))) :
    Confined user.tenantId db (acceptStrategy db user campaignId confirm calendar).1 := by
  refine withCampaign_confined owned fun c runs owner => ?_
  split
  · exact .refl owned
  · rename_i p latest
    obtain ⟨member, home, _⟩ := latestUnaccepted_mem latest
    have proposes : db.Proposes user.tenantId p.id := ⟨p, member, rfl, home ▸ runs⟩
    split
    · exact .refl owned
    · split
      · exact .refl owned
      · have flagged := Confined.acceptProposal (p := p) owned (home ▸ runs)
        dsimp only
        split
        · exact flagged
        · rename_i slots
          have planned := flagged.trans (.addTouchpoints flagged.owned (flagged.proposes _ _ proposes) slots)
          split
          · exact planned.trans (.writeStatus planned.owned (planned.runs _ _ runs) _ _)
          · exact planned

theorem generateContent_confined (owned : db.Owned) (apiKey : Bool) (campaignId : Uuid) (confirm : Bool)
    (generations : List Generation) :
    Confined user.tenantId db (generateContent db user apiKey campaignId confirm generations now).1 := by
  refine withCampaign_confined owned fun c runs owner => ?_
  split
  · exact .refl owned
  · split
    · exact .refl owned
    · split
      · exact .refl owned
      · split
        · exact .refl owned
        · split
          · exact .refl owned
          · rename_i seeded ids done
            obtain ⟨rows, held⟩ := seedAssetsForCampaign_confined owned runs owner done
            have drafted : Confined user.tenantId db (generateAll now seeded ids generations) :=
              rows.trans (generateAll_confined rows.owned held generations)
            dsimp only
            split
            · exact drafted.trans (.writeStatus drafted.owned (drafted.runs _ _ runs) _ _)
            · exact drafted

theorem approveAllContent_confined (owned : db.Owned) (campaignId : Uuid) (confirm : Bool) :
    Confined user.tenantId db (approveAllContent db user campaignId confirm now).1 := by
  refine withCampaign_confined owned fun c runs owner => ?_
  dsimp only
  split
  · exact .refl owned
  · split
    · exact .refl owned
    · have approved : Confined user.tenantId db
          ((openDrafts db c.id).foldl (fun db a => db.writeApproved a .assistantAll user.role) db) := by
        refine .foldl owned fun mid reached a member => ?_
        have listed : a ∈ db.campaignAssets c.id := List.mem_of_mem_filter member
        obtain ⟨held, mine⟩ := owned.holds_of_campaign runs listed
        exact .writeApproved reached.owned (reached.holds _ _ _ held) mine _ _
      exact settle_confined approved fun last done =>
        tryAdvanceAfterApproval_confined approved.owned (approved.runs _ _ runs) done

theorem rejectAsset_confined (owned : db.Owned) (assetId : Uuid) (reason : Option String) :
    Confined user.tenantId db (rejectAsset db user assetId reason now).1 := by
  refine withAsset_confined owned fun a held mine => ?_
  split
  · exact .refl owned
  · have tagged : ∀ b : ContentAsset, b.id = a.id ∧ b.campaignId = a.campaignId ∧ b.tenantId = a.tenantId →
        Confined user.tenantId db (db.setAsset b) := fun b row =>
      .setAsset owned (by rw [row.1, row.2.1]; exact held) (row.2.2.trans mine)
    have finished : ∀ b : ContentAsset, b.id = a.id ∧ b.campaignId = a.campaignId ∧ b.tenantId = a.tenantId →
        Confined user.tenantId db (settle (db.setAsset b) (tryAdvanceAfterApproval (db.setAsset b) a.campaignId now)).1 :=
      fun b row => settle_confined (tagged b row) fun last done => tryAdvanceAfterApproval_confined (tagged b row).owned
        ((tagged b row).runs _ _ (owned.runs_of_holds held)) done
    dsimp only
    split <;> exact finished _ ⟨rfl, rfl, rfl⟩

theorem launchCampaign_confined (owned : db.Owned) (campaignId : Uuid) (confirm : Bool) :
    Confined user.tenantId db (launchCampaign db user campaignId confirm now).1 := by
  refine withCampaign_confined owned fun c runs owner => ?_
  split
  · exact .refl owned
  · split
    · exact .refl owned
    · split
      · exact .refl owned
      · have written := Confined.writeStatus owned runs .live .launchCampaign
        dsimp only
        split
        · rename_i live found
          have mine : live.tenantId = user.tenantId :=
            written.owned.one_runner (Db.runs_of_found found) (written.runs _ _ runs)
          obtain ⟨member, same⟩ := Db.campaign?_mem found
          have here : (db.writeStatus c.id .live .launchCampaign).Runs user.tenantId live.id := ⟨live, member, rfl, mine⟩
          exact written.trans (.setCampaign (c := { live with launchedAt := some now }) written.owned here mine)
        · exact written

/-- Each tool stays with the tenant of the user. -/
theorem run_confined (owned : db.Owned) (call : MarketingAgents.ToolCall) :
    Confined user.tenantId db (call.run db user now).1 := by
  cases call with
  | pauseCampaign campaignId confirm =>
    refine withCampaign_confined owned fun c runs owner => ?_
    split
    · exact .refl owned
    · split
      · exact .refl owned
      · exact pauseCampaign_confined owned runs
  | resumeCampaign campaignId =>
    refine withCampaign_confined owned fun c runs owner => ?_
    split
    · exact .refl owned
    · exact settle_confined (.refl owned) fun last done => apply_confined owned runs owner done
  | completeCampaign campaignId confirm =>
    refine withCampaign_confined owned fun c runs owner => ?_
    split
    · exact .refl owned
    · split
      · exact .refl owned
      · exact settle_confined (.refl owned) fun last done => apply_confined owned runs owner done
  | synthesiseAudience campaignId members =>
    simp only [MarketingAgents.ToolCall.run, synthesiseAudience]
    split
    · exact .refl owned
    · refine withCampaign_confined owned fun c runs owner => ?_
      have added := Confined.insertAudience owned runs members now
      split
      · exact added.trans (.writeStatus added.owned (added.runs _ _ runs) _ _)
      · exact added
  | acceptStrategy campaignId confirm calendar => exact acceptStrategy_confined owned campaignId confirm calendar
  | generateContent apiKey campaignId confirm generations =>
    exact generateContent_confined owned apiKey campaignId confirm generations
  | approveAllContent campaignId confirm => exact approveAllContent_confined owned campaignId confirm
  | approveAsset assetId =>
    refine withAsset_confined owned fun a held mine => ?_
    split
    · exact .refl owned
    · split
      · exact .refl owned
      · have approved := Confined.writeApproved owned held mine .assistant user.role
        exact settle_confined approved fun last done =>
          tryAdvanceAfterApproval_confined approved.owned (approved.runs _ _ (owned.runs_of_holds held)) done
  | rejectAsset assetId reason => exact rejectAsset_confined owned assetId reason
  | launchCampaign campaignId confirm => exact launchCampaign_confined owned campaignId confirm
  | draftOutbound campaignId audienceId overwrite replies =>
    refine withCampaign_confined owned fun c runs owner => ?_
    have drafted : Confined user.tenantId db (outreachDrafts c audienceId overwrite db replies).1 :=
      outreachDrafts_confined owned runs owner replies
    split
    · rename_i mid ended
      exact (congrArg Prod.fst ended : _ = mid) ▸ drafted
    · rename_i mid error ended
      exact (congrArg Prod.fst ended : _ = mid) ▸ drafted

end Assistant

end MarketingAgents
