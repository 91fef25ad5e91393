import MarketingAgents.Delivery.Launched

namespace MarketingAgents

open Lib PyText

/-- The campaign has no scheduled asset with a dispatch handler. -/
def Drained (db : Db) (campaignId : Uuid) : Prop :=
  ∀ a ∈ db.assets, a.campaignId = campaignId → (dispatchSkillFor a.assetType).isSome → a.status ≠ .scheduled

instance (db : Db) (campaignId : Uuid) : Decidable (Drained db campaignId) :=
  inferInstanceAs (Decidable (∀ a ∈ db.assets, a.campaignId = campaignId → (dispatchSkillFor a.assetType).isSome →
    a.status ≠ .scheduled))

/-- A stopped campaign is paused, or completed with nothing left to dispatch. -/
structure Quiet (db : Db) : Prop where
  below : ∀ w ∈ db.statusWrites, w.campaignId < db.nextId
  rest : ∀ c ∈ db.campaigns, db.stopped c.id = true → c.status = .paused ∨ (c.status = .completed ∧ Drained db c.id)

section Stopped

variable {db db' : Db} {w : StatusWrite} {id : Uuid}

theorem stopped_congr (same : db'.statusWrites = db.statusWrites) (id : Uuid) : db'.stopped id = db.stopped id := by
  unfold Db.stopped
  rw [same]

theorem stopped_of_marks (writes : db'.statusWrites = w :: db.statusWrites) (mine : w.campaignId = id)
    (marks : w.marks = true) : db'.stopped id = decide (w.after = .paused ∨ w.after = .completed) := by
  unfold Db.stopped
  rw [writes, List.find?_cons_of_pos (by simp [mine, marks])]

theorem stopped_of_not_marks (writes : db'.statusWrites = w :: db.statusWrites) (other : w.campaignId = id → w.marks = false) :
    db'.stopped id = db.stopped id := by
  unfold Db.stopped
  rw [writes, List.find?_cons_of_neg (by simpa using other)]

theorem stopped_of_no_writes (none : ∀ w ∈ db.statusWrites, w.campaignId ≠ id) : db.stopped id = false := by
  have missing : db.statusWrites.find? (fun w => w.campaignId = id ∧ w.marks) = Option.none :=
    List.find?_eq_none.mpr fun w listed hit => none w listed (of_decide_eq_true hit).1
  unfold Db.stopped
  rw [missing]

end Stopped

namespace Quiet

variable {db db' : Db}

/-- A change that empties no campaign again after its completion. -/
theorem of_rows (quiet : Quiet db) (campaigns : db'.campaigns = db.campaigns)
    (writes : db'.statusWrites = db.statusWrites) (nextId : db.nextId ≤ db'.nextId)
    (drained : ∀ c ∈ db.campaigns, c.status = .completed → Drained db c.id → Drained db' c.id) : Quiet db' where
  below w listed := (quiet.below w (writes ▸ listed)).trans_le nextId
  rest c member stopped := by
    rw [campaigns] at member
    rw [stopped_congr writes] at stopped
    exact (quiet.rest c member stopped).imp_right fun ⟨completed, empty⟩ =>
      ⟨completed, drained c member completed empty⟩

theorem rewrites (quiet : Quiet db) (rows : Rewrites Settles db db') : Quiet db' := by
  refine quiet.of_rows rows.campaigns rows.statusWrites rows.nextId fun c _ _ empty a member mine routed scheduled => ?_
  obtain ⟨old, here, settles⟩ := forall₂_origin rows.assets member
  exact empty old here (settles.campaignId ▸ mine) (settles.assetType ▸ routed) (settles.scheduled scheduled)

theorem edit (quiet : Quiet db) {c c' : Campaign} (member : c ∈ db.campaigns) (sameId : c'.id = c.id)
    (sameStatus : c'.status = c.status) : Quiet (db.setCampaign c') where
  below := quiet.below
  rest d dMember stopped := by
    rcases mem_updateWhere.mp dMember with ⟨_, _, _, rfl⟩ | ⟨stays, _⟩
    · have old := quiet.rest c member (sameId ▸ stopped)
      rw [← sameStatus, ← sameId] at old
      exact old
    · exact quiet.rest d stays stopped

theorem found (quiet : Quiet db) {c : Campaign} (fresh : c.id = db.nextId) :
    Quiet { db with campaigns := db.campaigns ++ [c], nextId := db.nextId + 1 } where
  below w listed := (quiet.below w listed).trans (Nat.lt_succ_self _)
  rest d member stopped := by
    rcases List.mem_append.mp member with old | new
    · exact quiet.rest d old stopped
    · have running : db.stopped d.id = false := stopped_of_no_writes fun w listed same => by
        rw [List.mem_singleton.mp new, fresh] at same
        exact (quiet.below w listed).ne same
      have stopped' : db.stopped d.id = true := stopped
      simp [running] at stopped'

/-- A status written to a campaign keeps the others as they were. A completed one
has to be drained first, a paused one is drained by the pause. -/
theorem write (quiet : Quiet db) (wf : db.Wf) {id : Uuid} {after : CampaignStatus} {writer : Writer}
    (leaves : db.stopped id = true → after = .paused ∨ after = .completed ∨ writer = .transition "resume")
    (drained : after = .completed → Drained db id) : Quiet (db.writeStatus id after writer) := by
  cases here : db.campaign? id with
  | none =>
    unfold Db.writeStatus
    rw [here]
    exact quiet
  | some c =>
    obtain ⟨member, rfl⟩ := Db.campaign?_mem here
    have writes : (db.writeStatus c.id after writer).statusWrites =
        ⟨c.id, c.status, after, writer⟩ :: db.statusWrites := by rw [writeStatus_eq here]
    refine ⟨fun w listed => ?_, fun d dMember stopped => ?_⟩
    · rw [writes] at listed
      rw [writeStatus_eq here]
      rcases List.mem_cons.mp listed with rfl | old
      · exact wf.campaignsBelow c member
      · exact quiet.below w old
    · have empty : Drained db d.id → Drained (db.writeStatus c.id after writer) d.id := by
        unfold Drained
        rw [writeStatus_assets]
        exact id
      rw [writeStatus_eq here] at dMember
      rcases mem_updateWhere.mp dMember with ⟨_, _, _, rfl⟩ | ⟨stays, miss⟩
      · by_cases paused : after = .paused
        · exact Or.inl paused
        by_cases completed : after = .completed
        · exact Or.inr ⟨completed, empty (drained completed)⟩
        -- neither stops the campaign: it resumes it, or leaves a running one
        exfalso
        by_cases resumes : writer = .transition "resume"
        · rw [stopped_of_marks writes rfl (by simp [StatusWrite.marks, resumes])] at stopped
          simp [paused, completed] at stopped
        · rw [stopped_of_not_marks writes fun _ => by simp [StatusWrite.marks, paused, completed, resumes]] at stopped
          have impossible := leaves stopped
          simp [paused, completed, resumes] at impossible
      · have other : c.id ≠ d.id := fun same => by simp [same] at miss
        rw [stopped_of_not_marks writes fun same => absurd same other] at stopped
        exact (quiet.rest d stays stopped).imp_right fun ⟨completed, left⟩ => ⟨completed, empty left⟩

end Quiet

/-- Writers leave a stopped status only by a resume, or for the other one. -/
theorem Permitted.leaves_stopped {before after : CampaignStatus} {writer : Writer}
    (permitted : Permitted before after writer) (stopped : before = .paused ∨ before = .completed) :
    after = .paused ∨ after = .completed ∨ writer = .transition "resume" := by
  cases writer with
  | transition name =>
    obtain ⟨tr, member, rfl, rfl, rfl⟩ := permitted
    have closed : ∀ tr ∈ campaignSm, tr.fromState = .paused ∨ tr.fromState = .completed →
        tr.toState = .completed ∨ tr.name = "resume" := by decide
    rcases closed tr member stopped with completed | resumes
    · exact Or.inr (Or.inl completed)
    · exact Or.inr (Or.inr (by rw [resumes]))
  | pauseHelper | autoPause => exact Or.inl permitted.2
  | synthesiseAudience | generateContent | launchCampaign =>
    rw [permitted.1] at stopped
    simp at stopped
  | acceptStrategy =>
    rcases permitted.1 with early | early <;> simp [early] at stopped

section Moves

variable {l : Licence} {db db' : Db}

/-- The launch schedules assets of its own campaign only, which is not completed. -/
theorem Quiet.launch (quiet : Quiet db) (wf : db.Wf) {c : Campaign} (found : db.campaign? c.id = some c)
    (pending : c.status = .approvalPending)
    (rows : Rewrites (LaunchedRow c.id) (db.writeStatus c.id .readyToLaunch (.transition "start_launch")) db') :
    Quiet db' := by
  have member := (Db.campaign?_mem found).1
  have written : Quiet (db.writeStatus c.id .readyToLaunch (.transition "start_launch")) := by
    refine quiet.write wf (fun stopped => ?_) (by simp)
    have at' := quiet.rest c member stopped
    simp [pending] at at'
  refine written.of_rows rows.campaigns rows.statusWrites rows.nextId
    fun d dMember completed empty a aMember mine routed scheduled => ?_
  obtain ⟨old, here, rfl | ⟨row, _, launched, _, _⟩⟩ := forall₂_origin rows.assets aMember
  · exact empty a here mine routed scheduled
  · have same : d.id = c.id := mine.symm.trans (row.campaignId.trans launched)
    rw [writeStatus_eq found] at dMember
    rcases mem_updateWhere.mp dMember with ⟨_, _, _, rfl⟩ | ⟨_, miss⟩
    · simp at completed
    · simp [same] at miss

theorem Quiet.commit (quiet : Quiet db) (wf : db.Wf) {phase : Phase} (committed : Committed db phase db')
    (fresh : ∀ loaded ∈ phase.loaded, loaded.2.status = .readyToLaunch → db.stopped loaded.2.id = false) :
    Quiet db' := by
  cases committed with
  | settles rows => exact quiet.rewrites rows
  | goesLive mid a c loaded ready rows wrote =>
    have running : mid.stopped c.id = false := (stopped_congr rows.statusWrites c.id).trans (fresh (a, c) loaded ready)
    rw [wrote]
    exact (quiet.rewrites rows).write (rows.wf rowOrder_settles wf) (by simp [running]) (by simp)
  | revoked id rows => exact (quiet.write wf (fun _ => Or.inl rfl) (by simp)).rewrites rows

theorem Quiet.move [PyText] (quiet : Quiet db) (wf : db.Wf) (move : Move l db db')
    (completes : ∀ c ∈ db.campaigns, l.completes c.id db → Drained db c.id) :
    Quiet db' := by
  cases move with
  | revise rows => exact quiet.rewrites rows.revise
  | edit member sameId sameStatus => exact quiet.edit member sameId sameStatus
  | create unshipped =>
    refine quiet.of_rows rfl rfl (Nat.le_succ _) fun c _ _ empty a member mine routed scheduled => ?_
    rcases List.mem_append.mp member with old | new
    · exact empty a old mine routed scheduled
    · rw [List.mem_singleton.mp new] at scheduled
      have status : AssetStatus.scheduled.ships = false := scheduled ▸ unshipped
      simp [AssetStatus.ships] at status
  | found drafted fresh => exact quiet.found fresh
  | approve vetted licensed =>
    have set := quiet.rewrites (Rewrites.approve wf vetted)
    exact ⟨set.below, set.rest⟩
  | write found permitted licensed direct =>
    rename_i c after writer
    have member := (Db.campaign?_mem found).1
    refine quiet.write wf (fun stopped => permitted.leaves_stopped ?_) fun completed => ?_
    · exact (quiet.rest c member stopped).imp_right And.left
    · subst completed
      exact completes c member (licensed rfl)
  | launch found pending rows => exact quiet.launch wf found pending rows

end Moves

namespace World

/-- A campaign is completed only with nothing left to dispatch, and no
transaction that read its campaign as `ready_to_launch` commits after a pause
or a completion of it. -/
def Undisturbed [PyText] (w : World) : WorldOp → Prop
  | .operate op _ => ∀ id ∈ op.completes w.db, Drained w.db id
  | .commit id _ => ∀ e ∈ w.execution? id, ∀ loaded ∈ e.phase.loaded,
      loaded.2.status = .readyToLaunch → w.db.stopped loaded.2.id = false
  | _ => True

instance [PyText] (w : World) : (op : WorldOp) → Decidable (w.Undisturbed op)
  | .operate op _ => inferInstanceAs (Decidable (∀ id ∈ op.completes w.db, Drained w.db id))
  | .commit id _ => inferInstanceAs (Decidable (∀ e ∈ w.execution? id, ∀ loaded ∈ e.phase.loaded,
      loaded.2.status = .readyToLaunch → w.db.stopped loaded.2.id = false))
  | .claim .. | .begin .. | .call .. | .abort .. | .crash .. | .complete .. | .fail .. | .reap .. | .enqueue .. =>
    inferInstanceAs (Decidable True)

/-- No open transaction, and no call, was begun on a stopped campaign. -/
structure Calm (w : World) : Prop where
  numbered : w.Numbered
  wf : w.db.Wf
  quiet : Quiet w.db
  begun : ∀ e ∈ w.executions, e.phase.loaded ≠ none → e.startedStopped = false
  calls : ∀ call ∈ w.calls, call.startedStopped = false

section Calm

variable {w w' : World}

theorem Calm.step_of (calm : w.Calm) (numbered : w'.Numbered) (wf : w'.db.Wf) (quiet : Quiet w'.db)
    (fresh : ∀ e ∈ w'.executions, e ∈ w.executions ∨ e.phase.loaded = none ∨ e.startedStopped = false)
    (calls : ∀ call ∈ w'.calls, call ∈ w.calls ∨ call.startedStopped = false) : w'.Calm where
  numbered := numbered
  wf := wf
  quiet := quiet
  begun e here loaded := by
    rcases fresh e here with old | closed | running
    · exact calm.begun e old loaded
    · exact absurd closed loaded
    · exact running
  calls call here := (calls call here).elim (calm.calls call) id

theorem Calm.start {db : Db} (fresh : db.Fresh) : World.Calm { db := db } where
  numbered := ⟨List.nodup_nil, by simp⟩
  wf := fresh.wf
  quiet := ⟨by simp [fresh.statusWrites], by simp [fresh.campaigns]⟩
  begun := by simp
  calls := by simp

variable [PyText]

theorem stoppedAt_of_opened (quiet : Quiet w.db) {e e' : Execution} (opened : Opened w.db e e') :
    stoppedAt w.db e'.phase = false := by
  have running : ∀ {assetId a c}, Dispatchable w.db assetId a c → w.db.stopped c.id = false := by
    intro assetId a c ready
    obtain ⟨member, same⟩ := Db.campaign?_mem ready.campaign
    by_contra stopped
    rcases quiet.rest c member (by simpa using stopped) with paused | ⟨_, empty⟩
    · exact ready.running paused
    · refine empty a (Db.asset?_mem ready.asset).1 same.symm ?_ ready.scheduled
      rcases ready.routed with email | social
      · rw [email]
        rfl
      · rw [social]
        rfl
  cases opened with
  | email named begun phase =>
    rw [phase]
    exact running (beginEmail_dispatchable begun).1
  | social named begun phase =>
    rw [phase]
    exact running (beginSocial_dispatchable begun)

/-- An undisturbed step keeps the stopped campaigns drained: no open dispatch task
is left for one, and none is begun. -/
theorem Calm.step (calm : w.Calm) {op : WorldOp} (undisturbed : w.Undisturbed op) : (w.step op).Calm := by
  obtain ⟨trans, numbered⟩ := step_trans calm.numbered op
  cases trans with
  | idle db fresh kept accepted calls =>
    exact calm.step_of numbered (db.wf rowOrder_eq calm.wf) (calm.quiet.rewrites (.of_untouched rowOrder_settles db))
      (fun x there => (fresh x there).imp_right Or.inl) (fun call there => Or.inl (calls ▸ there))
  | close e member cause db fresh kept accepted calls =>
    exact calm.step_of numbered (db ▸ calm.wf) (db ▸ calm.quiet)
      (fun x there => (fresh x there).imp And.left Or.inl) (fun call there => Or.inl (calls ▸ there))
  | opens e e' secret now named member waiting opened flag db executions accepted calls =>
    have running : e'.startedStopped = false := flag.trans (stoppedAt_of_opened calm.quiet opened)
    exact calm.step_of numbered (db ▸ calm.wf) (db ▸ calm.quiet) (executions.fresh (Or.inr running))
      (fun call there => Or.inl (calls ▸ there))
  | callsEmail e plan answer social batchId outcome named member phase called db executions accepted calls =>
    have running := calm.begun e member (by simp [phase, Phase.loaded])
    exact calm.step_of numbered (db ▸ calm.wf) (db ▸ calm.quiet) (executions.fresh (Or.inr running))
      (fun call there => (calls call there).imp_right fun same => same.trans running)
  | callsSocial e plan next member phase goes db executions accepted calls =>
    have running := calm.begun e member (by rcases phase with phase | phase <;> simp [phase, Phase.loaded])
    exact calm.step_of numbered (db ▸ calm.wf) (db ▸ calm.quiet) (executions.fresh (Or.inr running))
      (fun call there => (calls call there).imp_right fun same => same.trans running)
  | commits e now named member finished executions accepted calls =>
    subst named
    have committed := finishHandler_committed finished
    have quiet := calm.quiet.commit calm.wf committed (undisturbed e (calm.numbered.execution?_of_mem member))
    exact calm.step_of numbered (committed.wf calm.wf) quiet (executions.fresh (Or.inl rfl))
      (fun call there => Or.inl (calls ▸ there))
  | operates action now named db executions accepted calls =>
    subst named
    have moves : Moves (action.licence w.db) w.db (w.step (.operate action now)).db := db ▸ Op.run_moves calm.wf action
    obtain ⟨wf, quiet⟩ := moves.induct calm.wf calm.quiet fun mid _ midWf midQuiet move =>
      midQuiet.move midWf move fun c _ completes => by
        obtain ⟨asked, rfl⟩ := completes
        exact undisturbed c.id asked
    exact calm.step_of numbered wf quiet (fun x there => Or.inl (executions ▸ there))
      (fun call there => Or.inl (calls ▸ there))

end Calm

namespace Stopped

open Sample

local instance stoppedText : PyText := PyText.plain

end Stopped

end World

end MarketingAgents
