import MarketingAgents.Agents.EmailHandover
import MarketingAgents.Delivery.Launched

namespace MarketingAgents

open Lib PyText

/-- The asset of an email handler that stands before its call. -/
def Phase.mailing : Phase → Option Uuid
  | .begunEmail plan => some plan.asset.id
  | _ => none

theorem Phase.acceptedSends_of_not_loaded {phase : Phase} (closed : phase.loaded = none) : phase.acceptedSends = [] := by
  cases phase with
  | calledEmail => simp [Phase.loaded] at closed
  | claimed | begunEmail | begunSocial | checkedSocial | calledSocial | returned | raised => rfl

/-- What an email phase holds is of its asset. -/
theorem Phase.acceptedSends_asset {phase : Phase} {pair : Uuid × String} (member : pair ∈ phase.acceptedSends) :
    phase.emailAsset = some pair.1 := by
  cases phase with
  | calledEmail plan outcome =>
    rcases outcome with _ | ⟨handed, _ | result⟩
    · simp [Phase.acceptedSends, MarketingAgents.acceptedSends] at member
    · simp [Phase.acceptedSends, MarketingAgents.acceptedSends] at member
    · obtain ⟨recipient, _, rfl⟩ := List.mem_map.mp member
      rfl
  | claimed | begunEmail | begunSocial | checkedSocial | calledSocial | returned | raised => simp [Phase.acceptedSends] at member

namespace World

/-- An open transaction of the asset holds an accepted call. -/
def Pending (w : World) (id : Uuid) : Prop :=
  ∃ e ∈ w.executions, e.phase.emailAsset = some id ∧ e.phase.acceptedSends ≠ []

instance (w : World) (id : Uuid) : Decidable (w.Pending id) :=
  inferInstanceAs (Decidable (∃ e ∈ w.executions, e.phase.emailAsset = some id ∧ e.phase.acceptedSends ≠ []))

/-- No email transaction is lost after an accepted call, nor does the ledger
refuse its rows, and none calls for an asset that another one has mailed since
it was read. -/
def Careful [PyText] (w : World) : WorldOp → Prop
  | .call id _ _ _ => ∀ e ∈ w.execution? id, ∀ assetId ∈ e.phase.mailing,
      (∃ a ∈ w.db.assets, a.id = assetId ∧ a.status = .scheduled) ∧ ¬ w.Pending assetId
  | .abort id _ | .crash id => ∀ e ∈ w.execution? id, e.phase.acceptedSends = []
  | .commit id now => ∀ e ∈ w.execution? id, e.phase.acceptedSends ≠ [] → e.phase.Fits now
  | _ => True

instance [PyText] (w : World) : (op : WorldOp) → Decidable (w.Careful op)
  | .call id _ _ _ => inferInstanceAs (Decidable (∀ e ∈ w.execution? id, ∀ assetId ∈ e.phase.mailing,
      (∃ a ∈ w.db.assets, a.id = assetId ∧ a.status = .scheduled) ∧ ¬ w.Pending assetId))
  | .abort id _ | .crash id => inferInstanceAs (Decidable (∀ e ∈ w.execution? id, e.phase.acceptedSends = []))
  | .commit id now => inferInstanceAs (Decidable (∀ e ∈ w.execution? id, e.phase.acceptedSends ≠ [] → e.phase.Fits now))
  | .claim .. | .begin .. | .complete .. | .fail .. | .reap .. | .enqueue .. | .operate .. =>
    inferInstanceAs (Decidable True)

/-- The asset is stored and its campaign has been launched. -/
def OnRecord (db : Db) (id : Uuid) : Prop := ∃ a ∈ db.assets, a.id = id ∧ PastLaunch db a.campaignId

/-- The asset has left `scheduled` for good. -/
def Retired (db : Db) (id : Uuid) : Prop :=
  ∃ a ∈ db.assets, a.id = id ∧ a.status ≠ .scheduled ∧ PastLaunch db a.campaignId

theorem OnRecord.drift {db db' : Db} {id : Uuid} (drift : Drift db db') : OnRecord db id → OnRecord db' id := by
  rintro ⟨a, member, rfl, past⟩
  obtain ⟨new, there, row, _⟩ := drift.rows a member
  exact ⟨new, there, row.id, row.campaignId ▸ drift.launched _ past⟩

theorem Retired.drift {db db' : Db} {id : Uuid} (drift : Drift db db') : Retired db id → Retired db' id := by
  rintro ⟨a, member, rfl, left, past⟩
  obtain ⟨new, there, row, back⟩ := drift.rows a member
  exact ⟨new, there, row.id, fun again => left (back past again), row.campaignId ▸ drift.launched _ past⟩

theorem Careful.keeps_accepted [PyText] {w : World} {op : WorldOp} (careful : w.Careful op) (numbered : w.Numbered)
    {e : Execution}
    (member : e ∈ w.executions) (discards : op.discards = some e.id) : e.phase.acceptedSends = [] := by
  have found := numbered.execution?_of_mem member
  cases op with
  | abort id error =>
    cases Option.some.inj discards
    exact careful e found
  | crash id =>
    cases Option.some.inj discards
    exact careful e found
  | claim | begin | call | commit | complete | fail | reap | enqueue | operate => simp [WorldOp.discards] at discards

theorem Swapped.holders {w w' : World} {e e' : Execution} (swapped : Swapped w w' e e')
    (nothing : e.phase.acceptedSends = []) :
    ∀ x ∈ w.executions, x.phase.acceptedSends ≠ [] → x ∈ w'.executions :=
  swapped.kept (P := fun x => x.phase.acceptedSends ≠ []) (not_not.mpr nothing)

section Sound

variable [PyText]

/-- What an email handler relies on from its reads to its commit. -/
structure Admitted (db : Db) (phase : Phase) : Prop where
  record : ∀ id ∈ phase.emailAsset, OnRecord db id
  once : ∀ plan, phase = .begunEmail plan → plan.SendsOnce

/-- An accepted pair is of an asset that no longer dispatches, or whose
transaction is still open. -/
structure Sound (w : World) : Prop where
  numbered : w.Numbered
  wf : w.db.Wf
  late : ScheduledLate w.db
  admitted : ∀ e ∈ w.executions, Admitted w.db e.phase
  sent : ∀ pair ∈ w.accepted, Retired w.db pair.1 ∨ w.Pending pair.1
  nodup : w.accepted.Nodup

theorem Admitted.of_not_loaded {db : Db} {phase : Phase} (closed : phase.loaded = none) : Admitted db phase := by
  cases phase with
  | claimed | returned | raised => exact ⟨by simp [Phase.emailAsset], by simp⟩
  | begunEmail | calledEmail | begunSocial | checkedSocial | calledSocial => simp [Phase.loaded] at closed

theorem Admitted.of_social {db : Db} {phase : Phase} (other : phase.emailAsset = none) : Admitted db phase :=
  ⟨by simp [other], fun plan same => by simp [same, Phase.emailAsset] at other⟩

theorem Admitted.drift {db db' : Db} {phase : Phase} (drift : Drift db db') (admitted : Admitted db phase) :
    Admitted db' phase :=
  ⟨fun id named => (admitted.record id named).drift drift, admitted.once⟩

variable {w w' : World}

/-- The step lemma behind every case: the database drifts, new executions are
admitted, and whoever held an accepted call still does or has retired its asset. -/
theorem Sound.step_of (sound : w.Sound) (numbered : w'.Numbered) (wf : w'.db.Wf) (drift : Drift w.db w'.db)
    (fresh : ∀ e ∈ w'.executions, e ∈ w.executions ∨ Admitted w'.db e.phase)
    (held : ∀ e ∈ w.executions, e.phase.acceptedSends ≠ [] →
      e ∈ w'.executions ∨ ∀ id ∈ e.phase.emailAsset, Retired w'.db id)
    (accepted : ∀ pair ∈ w'.accepted, pair ∈ w.accepted ∨ w'.Pending pair.1) (nodup : w'.accepted.Nodup) :
    w'.Sound where
  numbered := numbered
  wf := wf
  late := drift.late sound.late
  admitted e here := (fresh e here).elim (fun old => (sound.admitted e old).drift drift) id
  sent pair here := by
    rcases accepted pair here with old | pending
    · rcases sound.sent pair old with retired | ⟨e, member, named, holds⟩
      · exact Or.inl (retired.drift drift)
      · rcases held e member holds with there | retired
        · exact Or.inr ⟨e, there, named, holds⟩
        · exact Or.inl (retired _ named)
    · exact Or.inr pending
  nodup := nodup

theorem Admitted.of_opened (late : ScheduledLate w.db) (distinct : DistinctAudiences w.db)
    {e e' : Execution} (opened : Opened w.db e e') : Admitted w.db e'.phase := by
  cases opened with
  | email named begun phase =>
    rename_i plan
    obtain ⟨ready, planned⟩ := beginEmail_dispatchable begun
    rw [phase]
    refine ⟨fun id named => ?_, fun plan' same => ?_⟩
    · have here := (Db.asset?_mem ready.asset).1
      exact ⟨plan.asset, here, Option.some.inj named, late _ here ready.scheduled⟩
    · cases same
      exact planEmail_sendsOnce distinct planned
  | social named begun phase =>
    rw [phase]
    exact .of_social rfl

theorem acceptedSends_nodup {db : Db} {plan : EmailPlan} (once : plan.SendsOnce) (answer : SendgridResponse)
    (batchId : Uuid) : (MarketingAgents.acceptedSends plan (callEmail db plan answer batchId)).Nodup := by
  cases called : callEmail db plan answer batchId with
  | none => exact List.nodup_nil
  | some outcome =>
    have distinct := once db answer batchId outcome called
    obtain ⟨handed, _ | result⟩ := outcome
    · exact List.nodup_nil
    · have paired := distinct.map (Prod.mk_right_injective plan.asset.id)
      rwa [List.map_map] at paired

theorem commitEmail_publishes {db db' : Db} {plan : EmailPlan} {result : Option DispatchResult} {now : Int}
    (done : commitEmail db plan result now = .ok db') {a : ContentAsset} (member : a ∈ db.assets)
    (same : a.id = plan.asset.id) : ∃ new ∈ db'.assets, SameRow a new ∧ new.status = .published := by
  have done := (commitEmail_eq_ok.mp done).2
  rw [maybeGoLive_eq] at done
  let extras : Dict String Json :=
    [("dispatch_summary", emailSummary plan result), ("dispatch_provider", .str "sendgrid")]
  refine ⟨publishedRow plan.asset extras now a, ?_, ⟨rfl, rfl, rfl⟩, rfl⟩
  have row : publishedRow plan.asset extras now a ∈
      ((db.recordEmail plan result now).publish plan.asset extras now).assets :=
    mem_updateWhere.mpr (Or.inl ⟨a, member, decide_eq_true same, rfl⟩)
  rw [← Except.ok.inj done]
  split
  · rw [writeStatus_assets]
    exact row
  · exact row

/-- The commit of an email handler takes its asset out of dispatch. -/
theorem finishEmail_retires {db db' : Db} {plan : EmailPlan} {outcome : Option DispatchOutcome} {now : Int}
    (done : finishEmail db plan outcome now = .ok db') (drift : Drift db db') (record : OnRecord db plan.asset.id) :
    Retired db' plan.asset.id := by
  obtain ⟨a, member, same, past⟩ := record
  have published : ∃ new ∈ db'.assets, SameRow a new ∧ new.status = .published := by
    unfold finishEmail at done
    split at done
    · exact commitEmail_publishes (mapError_eq_ok.mp done) member same
    · split at done
      · simp at done
      · exact commitEmail_publishes (mapError_eq_ok.mp done) member same
  obtain ⟨new, there, row, status⟩ := published
  exact ⟨new, there, row.id.trans same, by simp [status], row.campaignId ▸ drift.launched _ past⟩

/-- The call of the provider hands over what no earlier call has: the asset was
still scheduled when the handler began, and no other transaction holds a call for
it. -/
theorem Sound.call (sound : w.Sound) {e : Execution} {plan : EmailPlan} {answer : SendgridResponse}
    {social : SocialAnswer} {batchId : Uuid} (careful : w.Careful (.call e.id answer social batchId))
    (numbered : w'.Numbered) (member : e ∈ w.executions) (phase : e.phase = .begunEmail plan) (db : w'.db = w.db)
    (executions : Swapped w w' e { e with phase := .calledEmail plan (callEmail w.db plan answer batchId) })
    (accepted : w'.accepted = MarketingAgents.acceptedSends plan (callEmail w.db plan answer batchId) ++ w.accepted) :
    w'.Sound := by
  have admitted := sound.admitted e member
  rw [phase] at admitted
  have mailing : plan.asset.id ∈ e.phase.mailing := by rw [phase]; rfl
  obtain ⟨⟨row, here, same, scheduled⟩, alone⟩ :=
    careful e (sound.numbered.execution?_of_mem member) plan.asset.id mailing
  -- nothing of this asset has been accepted so far
  have unsent : ∀ pair ∈ w.accepted, pair.1 ≠ plan.asset.id := by
    intro pair sent equal
    rcases sound.sent pair sent with ⟨a, there, named, left, _⟩ | pending
    · rw [sound.wf.eq_of_id there here (named.trans (equal.trans same.symm))] at left
      exact left scheduled
    · exact alone (equal ▸ pending)
  have held : ∀ pair ∈ MarketingAgents.acceptedSends plan (callEmail w.db plan answer batchId),
      pair.1 = plan.asset.id ∧ w'.Pending pair.1 := by
    intro pair new
    have holds : pair ∈ Phase.acceptedSends (.calledEmail plan (callEmail w.db plan answer batchId)) := new
    have asset := Phase.acceptedSends_asset holds
    exact ⟨(Option.some.inj asset).symm, _, (executions _).mpr (Or.inl rfl), asset, List.ne_nil_of_mem new⟩
  have still : Admitted w'.db (.calledEmail plan (callEmail w.db plan answer batchId)) :=
    ⟨fun id named => db ▸ admitted.record id named, by simp⟩
  have nothing : e.phase.acceptedSends = [] := by rw [phase]; rfl
  refine sound.step_of numbered (db ▸ sound.wf) (db ▸ Drift.refl _) (executions.fresh still)
    (fun x there holds => Or.inl (executions.holders nothing x there holds)) (fun pair there => ?_) ?_
  · rw [accepted] at there
    exact (List.mem_append.mp there).elim (fun new => Or.inr (held pair new).2) Or.inl
  · rw [accepted, List.nodup_append]
    refine ⟨acceptedSends_nodup (admitted.once plan rfl) answer batchId, sound.nodup, ?_⟩
    rintro pair new old listed rfl
    exact unsent _ listed (held _ new).1

theorem Sound.commit (sound : w.Sound) {e : Execution} {now : Int} (numbered : w'.Numbered)
    (member : e ∈ w.executions) (finished : finishHandler w.db now e.phase = some (.ok w'.db))
    (executions : Swapped w w' e { e with phase := .returned }) (accepted : w'.accepted = w.accepted) : w'.Sound := by
  have committed := finishHandler_committed finished
  have drift := committed.drift sound.wf
  refine sound.step_of numbered (committed.wf sound.wf) drift (executions.fresh (.of_not_loaded rfl))
    (fun x there holds => ?_) (fun pair there => Or.inl (accepted ▸ there)) (accepted ▸ sound.nodup)
  by_cases mine : x = e
  · refine Or.inr fun id named => ?_
    have record := (sound.admitted x there).record id named
    subst mine
    cases phase : x.phase with
    | calledEmail plan outcome =>
      rw [phase] at finished named
      cases Option.some.inj named
      exact finishEmail_retires (Option.some.inj finished) drift record
    | claimed | begunEmail | begunSocial | checkedSocial | calledSocial | returned | raised =>
      rw [phase] at holds
      exact absurd rfl holds
  · exact Or.inl ((executions x).mpr (Or.inr ⟨there, mine⟩))

/-- A careful step over audiences with distinct addresses keeps the account of what
has been handed over: it is published, or an open transaction is about to record
it. -/
theorem Sound.step (sound : w.Sound) {op : WorldOp} (careful : w.Careful op) (distinct : DistinctAudiences w.db) :
    (w.step op).Sound := by
  obtain ⟨trans, numbered⟩ := step_trans sound.numbered op
  cases trans with
  | idle db fresh kept accepted calls =>
    exact sound.step_of numbered (db.wf rowOrder_eq sound.wf) (.of_rewrites (.of_untouched rowOrder_settles db))
      (fun x there => (fresh x there).imp_right .of_not_loaded)
      (fun x there holds => Or.inl (kept x there fun closed => holds (Phase.acceptedSends_of_not_loaded closed)))
      (fun pair there => Or.inl (accepted ▸ there)) (accepted ▸ sound.nodup)
  | close e member cause db fresh kept accepted calls =>
    have nothing : e.phase.acceptedSends = [] := by
      rcases cause with discards | ⟨now, rfl, refused⟩ | nothing
      · exact careful.keeps_accepted sound.numbered member discards
      · by_contra holds
        exact refused (careful e (sound.numbered.execution?_of_mem member) holds)
      · exact nothing
    exact sound.step_of numbered (db ▸ sound.wf) (db ▸ Drift.refl _)
      (fun x there => (fresh x there).imp And.left .of_not_loaded)
      (fun x there holds => Or.inl (kept x there fun same => holds (same ▸ nothing)))
      (fun pair there => Or.inl (accepted ▸ there)) (accepted ▸ sound.nodup)
  | opens e e' secret now named member waiting opened flag db executions accepted calls =>
    have admitted : Admitted (w.step op).db e'.phase := db ▸ Admitted.of_opened sound.late distinct opened
    have nothing := Phase.acceptedSends_of_not_loaded waiting
    exact sound.step_of numbered (db ▸ sound.wf) (db ▸ Drift.refl _) (executions.fresh admitted)
      (fun x there holds => Or.inl (executions.holders nothing x there holds))
      (fun pair there => Or.inl (accepted ▸ there)) (accepted ▸ sound.nodup)
  | callsEmail e plan answer social batchId outcome named member phase called db executions accepted calls =>
    subst called named
    exact sound.call careful numbered member phase db executions accepted
  | callsSocial e plan next member phase goes db executions accepted calls =>
    have nothing : e.phase.acceptedSends = [] := by rcases phase with phase | phase <;> rw [phase] <;> rfl
    have social : next.emailAsset = none := by rcases goes with rfl | ⟨outcome, rfl⟩ <;> rfl
    exact sound.step_of numbered (db ▸ sound.wf) (db ▸ Drift.refl _) (executions.fresh (.of_social social))
      (fun x there holds => Or.inl (executions.holders nothing x there holds))
      (fun pair there => Or.inl (accepted ▸ there)) (accepted ▸ sound.nodup)
  | commits e now named member finished executions accepted calls =>
    exact sound.commit numbered member finished executions accepted
  | operates action now named db executions accepted calls =>
    have moves : Moves (action.licence w.db) w.db (w.step op).db := db ▸ Op.run_moves sound.wf action
    exact sound.step_of numbered (moves.wf sound.wf) (moves.drift sound.wf) (fun x there => Or.inl (executions ▸ there))
      (fun x there _ => Or.inl (executions.symm ▸ there)) (fun pair there => Or.inl (accepted ▸ there))
      (accepted ▸ sound.nodup)

theorem Sound.start {db : Db} (fresh : db.Fresh) : World.Sound { db := db } where
  numbered := ⟨List.nodup_nil, by simp⟩
  wf := fresh.wf
  late := by simp [ScheduledLate, fresh.assets]
  admitted := by simp
  sent := by simp
  nodup := List.nodup_nil

/-- In every run over audiences with distinct addresses that discards no
transaction after an accepted call and overlaps no two of one asset, each pair
of asset and address is handed over at most once. -/
theorem emails_handed_at_most_once {db : Db} (fresh : db.Fresh) {ops : List WorldOp}
    (distinct : Along World.step (fun w _ => DistinctAudiences w.db) { db := db } ops)
    (careful : Along World.step Careful { db := db } ops) : (Lib.run World.step { db := db } ops).accepted.Nodup :=
  ((careful.and distinct).invariant (Sound.start fresh) fun _ _ sound permitted =>
    sound.step permitted.1 permitted.2).nodup

end Sound

namespace AtMostOnce

open Sample

local instance mailText : PyText := PyText.plain

/-- The commit after the accepted call fails, and the task is retried. -/
def lostCommit : List WorldOp :=
  launched ++ mailed ++
    [.abort 1 (.precondition "commit failed"),
      .fail 1 "commit failed" false 0 8,
      .claim "w1" 300 0 60000008,
      .begin 2 "secret" 60000008,
      .call 2 (.response 202 "" "m2") (.posted "unused") 91]

/-- The provider has accepted the email when the commit fails. The retry finds neither
a ledger row nor a published asset, and the email is accepted a second time. -/
theorem lost_commit_mails_twice :
    tenant.Fresh ∧ Along World.step (fun w _ => DistinctAudiences w.db) { db := tenant } lostCommit ∧
      (Lib.run World.step { db := tenant } lostCommit).accepted = [(3, "ann@mail.io"), (3, "ann@mail.io")] ∧
      ¬ (Lib.run World.step { db := tenant } lostCommit).accepted.Nodup :=
  ⟨⟨rfl, rfl, rfl, rfl⟩, by decide +kernel, by decide +kernel, by decide +kernel⟩

/-- The dispatch commits, and a duplicate task for the asset finds it published. -/
def duplicateTask : List WorldOp :=
  launched ++ mailed ++
    [.commit 1 8, .complete 1 [] 8,
      .enqueue
        { tenantId := 1, agentId := 6, skillName := "distribution.dispatch_email"
          inputData := [("asset_id", .str "111")] } 9,
      .claim "w2" 300 0 9, .begin 2 "secret" 9, .fail 2 "not eligible" true 0 9]

theorem emails_handed_at_most_once_duplicate :
    (Lib.run World.step { db := tenant } duplicateTask).accepted ≠ [] ∧
      (Lib.run World.step { db := tenant } duplicateTask).accepted.Nodup :=
  ⟨by decide +kernel,
    emails_handed_at_most_once ⟨rfl, rfl, rfl, rfl⟩ (by decide +kernel) (by decide +kernel)⟩

end AtMostOnce

end World

end MarketingAgents
