import MarketingAgents.Content.Effects
import MarketingAgents.Content.Statuses

namespace MarketingAgents

open Lib PyText

/-- Some write has set the campaign to `live`. -/
def Db.hasBeenLive (db : Db) (campaignId : Uuid) : Bool :=
  db.statusWrites.any fun w => w.campaignId = campaignId ∧ w.after = .live

/-- The condition of `start_live`, at the instant `now`. -/
structure GateOpen (db : Db) (c : Campaign) (now : Int) : Prop where
  started : c.startDate ≤ dayOf now
  required : db.requiredAssets c.id ≠ []
  finished : ∀ a ∈ db.requiredAssets c.id,
    a.status ∉ [.requested, .generating, .drafted, .pendingApproval, .approved, .rejected, .failed]

theorem readyToGoLive_iff {db : Db} {c : Campaign} {now : Int} :
    Guard.readyToGoLive.holds db c now = true ↔ GateOpen db c now := by
  simp only [Guard.holds, Bool.and_eq_true, decide_eq_true_eq, Bool.not_eq_true', List.isEmpty_eq_false_iff,
    List.all_eq_true]
  exact ⟨fun ⟨⟨started, required⟩, finished⟩ => ⟨started, required, finished⟩,
    fun gate => ⟨⟨gate.started, gate.required⟩, gate.finished⟩⟩

instance (db : Db) (c : Campaign) (now : Int) : Decidable (GateOpen db c now) := decidable_of_iff _ readyToGoLive_iff

theorem GateOpen.congr {db db' : Db} {c c' : Campaign} {now : Int} (gate : GateOpen db c now)
    (assets : db'.assets = db.assets) (id : c'.id = c.id) (startDate : c'.startDate = c.startDate) :
    GateOpen db' c' now := by
  have rows : db'.requiredAssets c'.id = db.requiredAssets c.id := by
    unfold Db.requiredAssets Db.campaignAssets
    rw [assets, id]
  exact ⟨startDate ▸ gate.started, rows ▸ gate.required, rows ▸ gate.finished⟩

/-- A campaign that stands live has been written live. -/
theorem Accounted.hasBeenLive {db : Db} (accounted : Accounted db) {c : Campaign} (member : c ∈ db.campaigns)
    (live : c.status = .live) : db.hasBeenLive c.id = true := by
  have leads := accounted.leadsTo c member
  cases writes : db.writesOf c.id with
  | nil =>
    rw [writes, live] at leads
    simp [LeadsTo] at leads
  | cons w older =>
    rw [writes, live] at leads
    have listed : w ∈ db.writesOf c.id := by
      rw [writes]
      exact List.mem_cons_self ..
    obtain ⟨here, mine⟩ := List.mem_filter.mp listed
    exact List.any_eq_true.mpr ⟨w, here, by simpa using ⟨of_decide_eq_true mine, leads.1⟩⟩

theorem campaignSm_startLive : ∀ tr ∈ campaignSm, tr.name = "start_live" →
    tr.toState = .live ∧ tr.guard = some .readyToGoLive ∧ tr.onEnter = none := by
  decide

theorem campaignSm_resume : ∀ tr ∈ campaignSm, tr.name = "resume" →
    tr.fromState = .paused ∧ tr.toState = .live ∧ tr.onEnter = some .resumeDistribution := by
  decide

/-- A campaign that stands live and has never been so stood live before the step, or has just passed the gate. -/
def LiveThroughGate (db db' : Db) (now : Int) : Prop :=
  ∀ d ∈ db'.campaigns, d.status = .live → db.hasBeenLive d.id = false →
    (∃ old ∈ db.campaigns, old.id = d.id ∧ old.status = .live) ∨ GateOpen db' d now

namespace LiveThroughGate

variable {db db' : Db} {now : Int}

theorem refl (db : Db) (now : Int) : LiveThroughGate db db now := fun d member live _ => Or.inl ⟨d, member, rfl, live⟩

theorem startLive {c : Campaign} (found : db.campaign? c.id = some c) (gate : GateOpen db c now) :
    LiveThroughGate db (db.writeStatus c.id .live (.transition "start_live")) now := by
  intro d member live _
  rcases mem_writeStatus found member with rfl | ⟨stays, _⟩
  · exact Or.inr (gate.congr (writeStatus_assets db c.id _ _) rfl rfl)
  · exact Or.inl ⟨d, stays, rfl, live⟩

theorem of_untouched {mid : Db} (campaigns : mid.campaigns = db.campaigns) (writes : mid.statusWrites = db.statusWrites)
    (gated : LiveThroughGate mid db' now) : LiveThroughGate db db' now := by
  intro d member live first
  have never : mid.hasBeenLive d.id = false := by
    unfold Db.hasBeenLive
    rw [writes]
    exact first
  rcases gated d member live never with ⟨old, here, sameId, was⟩ | gate
  · exact Or.inl ⟨old, campaigns ▸ here, sameId, was⟩
  · exact Or.inr gate

theorem orKeep {ε : Type} {result : Except ε Db} (gated : ∀ db', result = .ok db' → LiveThroughGate db db' now) :
    LiveThroughGate db (MarketingAgents.orKeep db result) now := by
  cases result with
  | error error => exact .refl db now
  | ok db' => exact gated db' rfl

end LiveThroughGate

section Steps

variable [PyText] {db db' : Db} {now : Int}

theorem apply_startLive {c : Campaign} (done : apply db c "start_live" now = .ok db') :
    GateOpen db c now ∧ db' = db.writeStatus c.id .live (.transition "start_live") := by
  obtain ⟨tr, registered, _, named, guarded, entered⟩ := apply_eq_ok done
  obtain ⟨live, guard, hook⟩ := campaignSm_startLive tr registered named
  rw [guard] at guarded
  rw [hook, live] at entered
  exact ⟨readyToGoLive_iff.mp guarded, (Except.ok.inj entered).symm⟩

theorem apply_resume {c : Campaign} (done : apply db c "resume" now = .ok db') :
    c.status = .paused ∧ resumeDistributionForCampaign (db.writeStatus c.id .live (.transition "resume"))
      { c with status := .live } now = .ok db' := by
  obtain ⟨tr, registered, fromHere, named, _, entered⟩ := apply_eq_ok done
  obtain ⟨paused, live, hook⟩ := campaignSm_resume tr registered named
  rw [hook, live] at entered
  exact ⟨fromHere ▸ paused, entered⟩

theorem maybeGoLive_gated {c : Campaign} (found : db.campaign? c.id = some c) (done : maybeGoLive db c now = .ok db') :
    LiveThroughGate db db' now := by
  rw [maybeGoLive_eq] at done
  have value := (Except.ok.inj done).symm
  split at value
  · rename_i ready
    rw [value]
    exact .startLive found (readyToGoLive_iff.mp ready.2)
  · rw [value]
    exact .refl _ now

/-- An operation that asks for nothing of the kind takes no campaign live. -/
theorem Writes.live_origin {may : Cause → Db → Prop} (writes : Writes may now db db') (wf : db.Wf)
    (starts : ∀ id mid, ¬ may (.starts id) mid) (resumes : ∀ id mid, ¬ may (.resumes id) mid)
    (launches : ∀ id mid, ¬ may (.launches id) mid) {d : Campaign} (member : d ∈ db'.campaigns) (live : d.status = .live) :
    ∃ old ∈ db.campaigns, old.id = d.id ∧ old.status = .live := by
  have kept := writes.induct (I := fun mid => ∀ d ∈ mid.campaigns, d.status = .live →
      ∃ old ∈ db.campaigns, old.id = d.id ∧ old.status = .live) wf
    (fun d member live => ⟨d, member, rfl, live⟩) fun mid next midWf holds write d member live => by
      rcases write.campaigns midWf member with ⟨drafted, _⟩ | ⟨old, here, sameId, step⟩
      · simp [live] at drafted
      · have was : old.status = .live := by
          cases step with
          | kept same => exact same.symm.trans live
          | wrote writer permitted plain asked =>
            rcases asked live with ⟨_, start⟩ | ⟨_, launch⟩
            · exact absurd start (starts _ _)
            · exact absurd launch (launches _ _)
          | submitted producing drafted pending => simp [live] at pending
          | launched pending ready => simp [live] at ready
          | resumed paused asked goes => exact absurd asked (resumes _ _)
        obtain ⟨first, there, firstId, firstLive⟩ := holds old here was
        exact ⟨first, there, firstId.trans sameId, firstLive⟩
  exact kept.2 d member live

theorem publishAndGoLive_gated {recorded : Db} (same : Untouched db recorded) {assetId : Uuid} {a : ContentAsset}
    {c : Campaign} (ready : Dispatchable db assetId a c) {extras : Dict String Json}
    (done : maybeGoLive (recorded.publish a extras now) c now = .ok db') : LiveThroughGate db db' now := by
  have stored : (recorded.publish a extras now).campaign? c.id = some c :=
    (same.campaign?_eq c.id).trans (Db.campaign?_self ready.campaign)
  have campaigns : (recorded.publish a extras now).campaigns = db.campaigns := same.campaigns
  exact (maybeGoLive_gated stored done).of_untouched campaigns same.statusWrites

theorem dispatchEmailAsset_gated {secret : String} {assetId batchId : Uuid} {answer : SendgridResponse}
    (done : dispatchEmailAsset db secret assetId answer batchId now = .ok db') : LiveThroughGate db db' now := by
  unfold dispatchEmailAsset at done
  split at done
  · simp at done
  · cases Except.ok.inj done
    exact .refl _ now
  · rename_i plan begun
    have ready := (beginEmail_dispatchable begun).1
    unfold finishEmail at done
    split at done
    · exact publishAndGoLive_gated (untouched_recordEmail db plan none now) ready
        (commitEmail_eq_ok.mp (mapError_eq_ok.mp done)).2
    · split at done
      · simp at done
      · exact publishAndGoLive_gated (untouched_recordEmail db plan _ now) ready (commitEmail_eq_ok.mp (mapError_eq_ok.mp done)).2

theorem dispatchSocialAsset_gated (wf : db.Wf) {assetId : Uuid} {answer : SocialAnswer}
    (done : dispatchSocialAsset db assetId answer now = .ok db') : LiveThroughGate db db' now := by
  unfold dispatchSocialAsset at done
  split at done
  · simp at done
  · cases Except.ok.inj done
    exact .refl _ now
  · rename_i plan begun
    have ready := beginSocial_dispatchable begun
    unfold finishSocial at done
    split at done
    · cases Except.ok.inj done
      have paused : Writes (fun cause _ => ∃ id, cause = .sets id .paused) now db (pauseCampaign db plan.campaign now) :=
        pauseCampaign_writes (Db.campaign?_self ready.campaign) fun _ => ⟨_, rfl⟩
      exact fun d member live _ => Or.inl (paused.live_origin wf (by simp) (by simp) (by simp) member live)
    · simp at done
    · have committed := (commitSocial_eq_ok.mp (mapError_eq_ok.mp done)).2
      exact publishAndGoLive_gated (sameCore_recordSocial db plan _ now).untouched ready committed

/-- A resume of a campaign that passes the gate anyway, with no required slot missed, leaves the gate open. -/
theorem resume_gated (wf : db.Wf) {c : Campaign} (found : db.campaign? c.id = some c) (gate : GateOpen db c now)
    (timely : ∀ a ∈ db.requiredAssets c.id, a.status = .scheduled → elapsed now a = false)
    (done : resumeDistributionForCampaign (db.writeStatus c.id .live (.transition "resume")) { c with status := .live } now =
      .ok db') : LiveThroughGate db db' now := by
  have resumed := resumeDistributionForCampaign_resumes (writeStatus_wf found _ _ wf) done
  have assets := resumed.assets
  rw [writeStatus_assets] at assets
  -- a required row of the campaign is neither failed by the resume nor changed otherwise
  have rows : ∀ b, b ∈ db'.requiredAssets c.id ↔ b ∈ db.requiredAssets c.id := by
    intro b
    simp only [mem_requiredAssets, assets, List.mem_map]
    constructor
    · rintro ⟨⟨a, here, value⟩, mine, required⟩
      split at value
      · rename_i late
        subst value
        have wanted : a ∈ db.requiredAssets c.id :=
          mem_requiredAssets.mpr ⟨here, late.1, (elapsedRow_traced now a).required required⟩
        simp [timely a wanted late.2.1] at late
      · exact ⟨value ▸ here, mine, required⟩
    · rintro ⟨here, mine, required⟩
      refine ⟨⟨b, here, if_neg fun late => ?_⟩, mine, required⟩
      simp [timely b (mem_requiredAssets.mpr ⟨here, mine, required⟩) late.2.1] at late
  intro d member live _
  rw [resumed.side.campaigns] at member
  rcases mem_writeStatus found member with rfl | ⟨stays, _⟩
  · refine Or.inr ⟨gate.started, fun none => ?_, fun a wanted => gate.finished a ((rows a).mp wanted)⟩
    obtain ⟨a, wanted⟩ := List.exists_mem_of_ne_nil _ gate.required
    have still := (rows a).mpr wanted
    rw [show db'.requiredAssets c.id = [] from none] at still
    simp at still
  · exact Or.inl ⟨d, stays, rfl, live⟩

theorem applied_resume_gated (wf : db.Wf) {c : Campaign} (found : db.campaign? c.id = some c)
    (ready : c.status = .paused → db.hasBeenLive c.id = false → GateOpen db c now ∧
      ∀ a ∈ db.requiredAssets c.id, a.status = .scheduled → elapsed now a = false)
    (done : apply db c "resume" now = .ok db') : LiveThroughGate db db' now := by
  obtain ⟨paused, resumed⟩ := apply_resume done
  by_cases before : db.hasBeenLive c.id = true
  · intro d member live first
    rw [(resumeDistributionForCampaign_resumes (writeStatus_wf found _ _ wf) resumed).side.campaigns] at member
    rcases mem_writeStatus found member with rfl | ⟨stays, _⟩
    · exact absurd before (by simp [show db.hasBeenLive c.id = false from first])
    · exact Or.inl ⟨d, stays, rfl, live⟩
  · obtain ⟨gate, timely⟩ := ready paused (by simpa using before)
    exact resume_gated wf found gate timely resumed

end Steps

/-- A resume meets a campaign that has been live, or one that `start_live`
would let through and none of whose required slots has passed. -/
def ResumesReady (db : Db) (op : Op × Int) : Prop :=
  ∀ c ∈ db.campaigns, op.1.resumes db = some c.id → db.hasBeenLive c.id = false →
    GateOpen db c op.2 ∧ ∀ a ∈ db.requiredAssets c.id, a.status = .scheduled → elapsed op.2 a = false

instance (db : Db) (op : Op × Int) : Decidable (ResumesReady db op) :=
  inferInstanceAs (Decidable (∀ c ∈ db.campaigns, op.1.resumes db = some c.id → db.hasBeenLive c.id = false →
    GateOpen db c op.2 ∧ ∀ a ∈ db.requiredAssets c.id, a.status = .scheduled → elapsed op.2 a = false))

section Runs

variable [PyText] {db : Db}

/-- An operation that launches nothing by hand and resumes only what is ready takes
campaigns to their first `live` through the gate. -/
theorem Op.run_gated (wf : db.Wf) {op : Op} {now : Int} (ready : ResumesReady db (op, now)) (byHand : op.launches = none) :
    LiveThroughGate db (op.run db now) now := by
  by_cases quiet : (∀ id, op.starts id = false) ∧ op.resumes db = none
  · refine fun d member live _ => Or.inl ((Op.run_writes wf op).live_origin wf ?_ ?_ ?_ member live)
    · simp [Op.may, quiet.1]
    · simp [Op.may, quiet.2]
    · simp [Op.may, byHand]
  cases op with
  | applyTransition user minimum campaignId name =>
    refine .orKeep fun db' done => ?_
    simp only [MarketingAgents.applyTransition, bind_eq_ok, orRaise_eq_ok, require_eq_ok] at done
    obtain ⟨_, ranked, c, found, applied⟩ := done
    have stored := Db.tenantCampaign?_eq_some found
    by_cases starts : name = "start_live"
    · subst starts
      obtain ⟨gate, rfl⟩ := apply_startLive applied
      exact .startLive stored gate
    by_cases resumes : name = "resume"
    · subst resumes
      refine applied_resume_gated wf stored (fun paused => ready c (Db.campaign?_mem stored).1 ?_) applied
      simp [Op.resumes, ranked, found, Option.filter, paused]
    refine absurd ⟨?_, ?_⟩ quiet
    · simp [Op.starts, starts]
    · simp [Op.resumes, resumes]
  | dispatchEmailAsset secret assetId answer batchId => exact .orKeep fun _ done => dispatchEmailAsset_gated done
  | dispatchSocialAsset assetId answer => exact .orKeep fun _ done => dispatchSocialAsset_gated wf done
  | assistant user call =>
    cases call with
    | resumeCampaign campaignId =>
      simp only [Op.run, ToolCall.run, Assistant.resumeCampaign, Assistant.withCampaign]
      split
      · exact .refl db now
      · rename_i ranked
        split
        · exact .refl db now
        · rename_i c found
          have stored := Db.tenantCampaign?_eq_some found
          split
          · exact .refl db now
          · cases done : apply db c "resume" now with
            | error error => exact .refl db now
            | ok db' =>
              refine applied_resume_gated wf stored (fun paused => ready c (Db.campaign?_mem stored).1 ?_) done
              simp [Op.resumes, Nat.le_of_not_lt ranked, found, Option.filter, paused]
    | _ => simp [Op.starts, Op.resumes] at quiet
  | _ => simp [Op.starts, Op.resumes] at quiet

/-- Between any operations, a campaign that enters `live` for the first time, other than by a launch by hand, does so
with the condition of `start_live` met. -/
theorem first_live_passes_gate (fresh : db.Fresh) {ops : List (Op × Int)} (ready : Along Content.step ResumesReady db ops) :
    Along Content.step (fun before op => op.1.launches = none → ∀ c ∈ (Content.step before op).campaigns,
      c.status = .live → before.hasBeenLive c.id = false → GateOpen (Content.step before op) c op.2) db ops := by
  have start : db.Wf ∧ Accounted db := by
    obtain ⟨campaigns, assets, _, writes⟩ := fresh
    refine ⟨?_, ?_⟩ <;> constructor <;> simp [campaigns, assets, writes]
  refine ready.imp (I := fun db => db.Wf ∧ Accounted db) start (fun before op holds _ => ?_)
    fun before op holds condition byHand c member live first => ?_
  · have moved : Moves (op.1.licence before) before (op.1.run before op.2) := Op.run_moves holds.1 op.1
    exact moved.induct holds.1 holds.2 fun _ _ midWf accounted move => accounted.move move midWf
  · rcases Op.run_gated holds.1 condition byHand c member live first with ⟨old, here, sameId, was⟩ | gate
    · have before := holds.2.hasBeenLive here was
      rw [sameId, first] at before
      simp at before
    · exact gate

end Runs

namespace GoLive

local instance goLiveText : PyText := PyText.plain

open Sample

/-- A tenant whose first campaign will have an accepted proposal with one email, due on its sixth day. -/
def plannedAhead : Db := { planned with touchpoints := [⟨51, 50, "email", 0, 500000000000⟩] }

/-- The campaign that starts on the given day is approved, and then paused before it has been live. -/
def pausedEarly (startDate : Int) : List (Op × Int) :=
  [(.createCampaign manager { launch with startDate := startDate }, 0),
    (.assistant manager (.synthesiseAudience 0 [("m", [])]), 1),
    (.applyTransition manager .manager 0 "set_strategy", 2),
    (.applyTransition manager .manager 0 "start_content", 3),
    (.generateAsset 3 (draft []), 4),
    (.approveAsset manager 3 {}, 5),
    (.applyTransition manager .manager 0 "pause", 6)]

def resumed : Op × Int := (.applyTransition manager .manager 0 "resume", 7)

/-- A campaign that is paused before its start date is resumed into `live`, which it
has never been. -/
theorem resumed_before_start_date :
    let before := Lib.run Content.step plannedAhead (pausedEarly 5)
    plannedAhead.Fresh ∧ before.hasBeenLive 0 = false ∧
      ∃ c ∈ (Content.step before resumed).campaigns, c.id = 0 ∧ c.status = .live ∧
        ¬ GateOpen (Content.step before resumed) c resumed.2 :=
  ⟨⟨rfl, rfl, rfl, rfl⟩, by decide +kernel, by decide +kernel⟩

theorem first_live_passes_gate_resumed :
    let before := Lib.run Content.step plannedAhead (pausedEarly 0)
    before.hasBeenLive 0 = false ∧ ∃ c ∈ (Content.step before resumed).campaigns, c.id = 0 ∧ c.status = .live ∧
      GateOpen (Content.step before resumed) c resumed.2 := by
  intro before
  have ready : Along Content.step ResumesReady plannedAhead (pausedEarly 0 ++ [resumed]) := by decide +kernel
  have gated := first_live_passes_gate ⟨rfl, rfl, rfl, rfl⟩ ready
  obtain ⟨last, _⟩ := (along_append.mp gated).2
  have first : before.hasBeenLive 0 = false := by decide +kernel
  have goes : ∃ c ∈ (Content.step before resumed).campaigns, c.id = 0 ∧ c.status = .live := by decide +kernel
  obtain ⟨c, member, same, live⟩ := goes
  exact ⟨first, c, member, same, live, last rfl c member live (by rw [same]; exact first)⟩

end GoLive

end MarketingAgents
