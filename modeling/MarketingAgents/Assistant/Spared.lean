import MarketingAgents.Assistant.Handlers
import MarketingAgents.Outbound.Drafts

namespace MarketingAgents

open Lib PyText

section Errors

variable [PyText] {db : Db} {c : Campaign} {campaignId : Uuid} {name : String} {now : Int} {error : AppError}

omit [PyText] in
theorem enqueue_error {args : EnqueueArgs} (failed : db.enqueue args now = .error error) :
    error.losesTransaction = true := by
  unfold Db.enqueue Queue.enqueueTask at failed
  split at failed
  · cases failed
  · rename_i refused outcome
    cases failed
    split at outcome
    · cases outcome
      rfl
    · split at outcome
      · cases outcome
      · split at outcome
        · cases outcome
          rfl
        · cases outcome

theorem scheduleApprovedAssets_error (failed : scheduleApprovedAssets db c now = .error error) :
    error.losesTransaction = true := by
  unfold scheduleApprovedAssets at failed
  dsimp only at failed
  split at failed
  · cases failed
  · obtain ⟨a, _, mid, fails⟩ := foldlM_error failed
    unfold scheduleAsset at fails
    dsimp only at fails
    split at fails
    · cases fails
    · exact enqueue_error fails

theorem resumeDistribution_error (failed : resumeDistributionForCampaign db c now = .error error) :
    error.losesTransaction = true := by
  unfold resumeDistributionForCampaign at failed
  dsimp only at failed
  split at failed
  · cases failed
  · obtain ⟨a, _, mid, fails⟩ := foldlM_error failed
    unfold resumeAsset at fails
    split at fails
    · cases fails
    · split at fails
      · cases fails
      · exact enqueue_error fails

omit [PyText] in
theorem seedless : ∀ tr ∈ campaignSm, tr.name ≠ "start_content" → tr.onEnter ≠ some .seedContentAssets := by decide

/-- A transition fails before its writes, or with the transaction. -/
theorem apply_error (failed : apply db c name now = .error error) (seeds : name ≠ "start_content") :
    (∃ allowed, error = .unknownTransition name c.status allowed) ∨ error = .guardFailed name c.status ∨
      error.losesTransaction = true := by
  simp only [apply, bind_eq_error, orRaise_eq_error, require_eq_error, orRaise_eq_ok, require_eq_ok] at failed
  rcases failed with ⟨_, rfl⟩ | ⟨tr, found, ⟨_, rfl⟩ | ⟨_, _, entered⟩⟩
  · exact Or.inl ⟨_, rfl⟩
  · exact Or.inr (Or.inl rfl)
  · refine Or.inr (Or.inr ?_)
    have named : tr.fromState = c.status ∧ tr.name = name := by simpa using List.find?_some found
    have plain := seedless tr (List.mem_of_find?_eq_some found) (named.2 ▸ seeds)
    unfold runOnEnter at entered
    cases hook : tr.onEnter with
    | none =>
      rw [hook] at entered
      cases entered
    | some hooked =>
      rw [hook] at entered plain
      cases hooked with
      | enqueueEchoStep => exact enqueue_error entered
      | seedContentAssets => exact absurd rfl plain
      | flipDraftedAssetsToPendingApproval => cases entered
      | scheduleApprovedAssets => exact scheduleApprovedAssets_error entered
      | cancelQueuedOnPause => cases entered
      | resumeDistribution => exact resumeDistribution_error entered
      | autoGenerateReport => cases entered

theorem applyFrom_error {status : CampaignStatus} (failed : applyFrom status name db campaignId now = .error error)
    (seeds : name ≠ "start_content") : error.losesTransaction = true := by
  unfold applyFrom at failed
  split at failed
  · split at failed
    · unfold tryApply at failed
      split at failed
      · cases failed
      · cases failed
      · cases failed
      · rename_i unknown refused outcome
        cases failed
        rcases apply_error outcome seeds with ⟨allowed, rfl⟩ | rfl | lost
        · exact absurd rfl (unknown _ _ _)
        · exact absurd rfl (refused _ _)
        · exact lost
    · cases failed
  · cases failed

theorem tryAdvanceAfterApproval_error (failed : tryAdvanceAfterApproval db campaignId now = .error error) :
    error.losesTransaction = true := by
  rcases bind_eq_error.mp failed with submitting | ⟨mid, _, launching⟩
  · exact applyFrom_error submitting (by decide)
  · exact applyFrom_error launching (by decide)

end Errors

/-- The rows of the business: campaigns, proposals, touchpoints, assets and tasks. -/
structure SameBusiness (db db' : Db) : Prop where
  campaigns : db'.campaigns = db.campaigns
  proposals : db'.proposals = db.proposals
  touchpoints : db'.touchpoints = db.touchpoints
  assets : db'.assets = db.assets
  tasks : db'.tasks = db.tasks

theorem SameBusiness.refl (db : Db) : SameBusiness db db := ⟨rfl, rfl, rfl, rfl, rfl⟩

namespace Assistant

/-- Where the tool raises with the transaction at hand, the rows are those it started from. -/
def Spares (db : Db) (run : ToolRun) : Prop :=
  ∀ error, run.2 = .error error → error.losesTransaction = false → SameBusiness db run.1

section Spares

variable [PyText] {db : Db} {user : AppUser} {campaignId assetId : Uuid} {identifier : String} {minimum : UserRole}
  {now : Int}

omit [PyText] in
theorem spares_self (outcome : Except AppError ToolResult) : Spares db (db, outcome) := fun _ _ _ => .refl db

omit [PyText] in
theorem spares_ok {run : ToolRun} {result : ToolResult} (returns : run.2 = .ok result) : Spares db run := by
  intro error raised
  rw [returns] at raised
  cases raised

omit [PyText] in
theorem spares_lost {run : ToolRun} {error : AppError} (raises : run.2 = .error error)
    (lost : error.losesTransaction = true) : Spares db run := by
  intro other raised kept
  cases Except.error.inj (raises.symm.trans raised)
  rw [lost] at kept
  cases kept

omit [PyText] in
theorem asRole_spares {run : ToolRun} :
    Spares db (asRole db user minimum run) ↔ (minimum.rank ≤ user.role.rank → Spares db run) := by
  unfold asRole
  by_cases short : user.role.rank < minimum.rank
  · rw [if_pos short]
    exact ⟨fun _ ranked => absurd short (Nat.not_lt.mpr ranked), fun _ => spares_self _⟩
  · rw [if_neg short]
    exact ⟨fun holds _ => holds, fun holds => holds (Nat.not_lt.mp short)⟩

theorem withNamed_spares {run : Campaign → ToolRun} : Spares db (withNamed db user minimum identifier run) ↔
    ∀ c, minimum.rank ≤ user.role.rank → findCampaign db user identifier = .ok c → Spares db (run c) := by
  rw [withNamed, asRole_spares]
  cases found : findCampaign db user identifier with
  | error message => exact ⟨fun _ c _ here => (by cases here), fun _ _ => spares_self _⟩
  | ok c =>
    constructor
    · intro holds c' ranked here
      cases Except.ok.inj here
      exact holds ranked
    · exact fun holds ranked => holds c ranked rfl

theorem withAssetId_spares {run : Uuid → ToolRun} (holds : ∀ id, Spares db (run id)) :
    Spares db (withAssetId db user identifier run) := by
  rw [withAssetId, asRole_spares]
  intro _
  cases uuidOf identifier with
  | none => exact spares_self _
  | some id => exact holds id

theorem withCampaign_spares {run : Campaign → ToolRun} (holds : ∀ c, Spares db (run c)) :
    Spares db (withCampaign db user minimum campaignId run) :=
  withCampaign_rule (fun _ => spares_self _) fun c _ _ => holds c

theorem withAsset_spares {run : ContentAsset → ToolRun} (holds : ∀ a, Spares db (run a)) :
    Spares db (withAsset db user minimum assetId run) :=
  withAsset_rule (fun _ => spares_self _) fun a _ _ => holds a

omit [PyText] in
theorem settle_spares {start : Db} {result : Except AppError Db}
    (lost : ∀ error, result = .error error → error.losesTransaction = true) : Spares db (settle start result) := by
  cases result with
  | error error => exact spares_lost rfl (lost error rfl)
  | ok last => exact spares_ok rfl

theorem pauseCampaign_spares (confirm : Bool) : Spares db (pauseCampaign db user campaignId confirm now) := by
  refine withCampaign_spares fun c => ?_
  split
  · exact spares_self _
  · split
    · exact spares_self _
    · exact spares_ok rfl

theorem resumeCampaign_spares : Spares db (resumeCampaign db user campaignId now) := by
  refine withCampaign_spares fun c => ?_
  split
  · exact spares_self _
  · cases outcome : apply db c "resume" now with
    | ok last => exact spares_ok rfl
    | error error =>
      -- refused by the state machine before its write, or with the transaction
      rcases apply_error outcome (by decide) with ⟨allowed, rfl⟩ | rfl | lost
      · exact spares_self _
      · exact spares_self _
      · exact spares_lost rfl lost

theorem synthesiseNamed_spares (size : Int) : Spares db (synthesiseNamed db user identifier size now) := by
  rw [synthesiseNamed, asRole_spares]
  intro _
  split
  · exact spares_self _
  · refine withNamed_spares.mpr fun c _ _ => ?_
    unfold synthesiseAudience
    split
    · exact spares_self _
    · exact withCampaign_spares fun c => spares_ok rfl

theorem createCampaign_spares [PyInput] (input : CampaignInput) : Spares db (createCampaign db user input) := by
  rw [createCampaign, asRole_spares]
  intro _
  split
  · exact spares_self _
  · split
    · exact spares_self _
    · split
      · split
        · exact spares_self _
        · split
          · exact spares_self _
          · exact spares_ok rfl
      · exact spares_self _

theorem generateContent_spares (apiKey confirm : Bool) (generations : List Generation) :
    Spares db (generateContent db user apiKey campaignId confirm generations now) := by
  refine withCampaign_spares fun c => ?_
  split
  · exact spares_self _
  · split
    · exact spares_self _
    · split
      · exact spares_self _
      · split
        · exact spares_self _
        · split
          · exact spares_self _
          · exact spares_ok rfl

theorem approveAllContent_spares (confirm : Bool) :
    Spares db (approveAllContent db user campaignId confirm now) := by
  refine withCampaign_spares fun c => ?_
  dsimp only
  split
  · exact spares_self _
  · split
    · exact spares_self _
    · exact settle_spares fun error failed => tryAdvanceAfterApproval_error failed

theorem approveAsset_spares : Spares db (approveAsset db user assetId now) := by
  refine withAsset_spares fun a => ?_
  split
  · exact spares_self _
  · split
    · exact spares_self _
    · exact settle_spares fun error failed => tryAdvanceAfterApproval_error failed

theorem rejectAsset_spares (reason : Option String) : Spares db (rejectAsset db user assetId reason now) := by
  refine withAsset_spares fun a => ?_
  split
  · exact spares_self _
  · exact settle_spares fun error failed => tryAdvanceAfterApproval_error failed

theorem launchCampaign_spares (confirm : Bool) : Spares db (launchCampaign db user campaignId confirm now) := by
  refine withCampaign_spares fun c => ?_
  split
  · exact spares_self _
  · split
    · exact spares_self _
    · split
      · exact spares_self _
      · exact spares_ok rfl

theorem enrichAudience_spares (apiKey : Bool) (maxToEnrich : Int) (answers : AudienceMember → ApolloAnswer) :
    Spares db (enrichAudience apiKey db user identifier maxToEnrich answers) := by
  refine withNamed_spares.mpr fun c _ _ => ?_
  split
  · exact spares_self _
  · split
    · exact spares_self _
    · exact fun _ _ _ => ⟨rfl, rfl, rfl, rfl, rfl⟩

end Spares

end Assistant

end MarketingAgents
