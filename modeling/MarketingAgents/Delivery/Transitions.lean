import MarketingAgents.Delivery.World

namespace MarketingAgents.World

open Lib PyText

/-- Executions have distinct numbers, all given out. -/
structure Numbered (w : World) : Prop where
  nodup : (w.executions.map Execution.id).Nodup
  below : ∀ e ∈ w.executions, e.id < w.nextExecution

/-- The executions of `w'` are those of `w`, with `e'` in the place of `e`. -/
def Swapped (w w' : World) (e e' : Execution) : Prop := ∀ x, x ∈ w'.executions ↔ x = e' ∨ (x ∈ w.executions ∧ x ≠ e)

section Numbers

variable {w w' : World} {e e' : Execution}

theorem Swapped.fresh {P : Execution → Prop} (swapped : Swapped w w' e e') (new : P e') :
    ∀ x ∈ w'.executions, x ∈ w.executions ∨ P x := by
  intro x here
  rcases (swapped x).mp here with rfl | old
  · exact Or.inr new
  · exact Or.inl old.1

/-- An execution that differs from the swapped one in some respect stays. -/
theorem Swapped.kept {P : Execution → Prop} (swapped : Swapped w w' e e') (lacks : ¬ P e) :
    ∀ x ∈ w.executions, P x → x ∈ w'.executions := by
  intro x here holds
  refine (swapped x).mpr (Or.inr ⟨here, fun same => lacks ?_⟩)
  rw [← same]
  exact holds

theorem execution?_mem {id : Nat} (found : w.execution? id = some e) : e ∈ w.executions ∧ e.id = id := by
  have hit := List.find?_some found
  exact ⟨List.mem_of_find?_eq_some found, by simpa using hit⟩

theorem Numbered.execution?_of_mem (numbered : w.Numbered) (member : e ∈ w.executions) :
    w.execution? e.id = some e := by
  cases found : w.execution? e.id with
  | none => exact absurd (List.find?_eq_none.mp found e member) (by simp)
  | some x => rw [eq_of_key_eq numbered.nodup (execution?_mem found).1 member (execution?_mem found).2]

theorem Numbered.mem_remove (numbered : w.Numbered) (member : e ∈ w.executions) (x : Execution) :
    x ∈ (w.remove e.id).executions ↔ x ∈ w.executions ∧ x ≠ e := by
  simp only [remove, List.mem_filter, decide_eq_true_eq]
  refine and_congr_right fun here => not_congr ⟨fun same => ?_, fun same => by rw [same]⟩
  exact eq_of_key_eq numbered.nodup here member same

theorem Numbered.swapped (numbered : w.Numbered) (member : e ∈ w.executions) (sameId : e'.id = e.id) :
    Swapped w (w.replace e') e e' := by
  intro x
  simp only [replace, List.mem_cons, sameId]
  exact or_congr_right (numbered.mem_remove member x)

theorem Numbered.remove (numbered : w.Numbered) (id : Nat) : (w.remove id).Numbered where
  nodup := numbered.nodup.sublist (List.filter_sublist.map _)
  below x member := numbered.below x (List.mem_of_mem_filter member)

theorem Numbered.replace (numbered : w.Numbered) (member : e ∈ w.executions) (sameId : e'.id = e.id) :
    (w.replace e').Numbered where
  nodup := by
    simp only [World.replace, List.map_cons, List.nodup_cons]
    refine ⟨fun again => ?_, (numbered.remove e'.id).nodup⟩
    obtain ⟨x, kept, same⟩ := List.mem_map.mp again
    have other := (List.mem_filter.mp kept).2
    simp [same] at other
  below x here := by
    rcases List.mem_cons.mp here with rfl | old
    · rw [sameId]
      exact numbered.below e member
    · exact numbered.below x (List.mem_of_mem_filter old)

end Numbers

theorem ended_loaded {e : Execution} (done : ended e = true) : e.phase.loaded = none := by
  obtain ⟨id, task, phase, startedStopped⟩ := e
  cases phase <;> first | rfl | simp [ended] at done

section Trans

variable [PyText]

/-- The handler of the execution has passed its checks and stands before its provider call. -/
inductive Opened (db : Db) (e e' : Execution) : Prop where
  | email {secret : String} {assetId : Uuid} {now : Int} {plan : EmailPlan} (named : taskAssetId e.task = .ok assetId)
      (begun : beginEmail db secret assetId now = .ok (some plan)) (phase : e'.phase = .begunEmail plan)
  | social {assetId : Uuid} {plan : SocialPlan} (named : taskAssetId e.task = .ok assetId)
      (begun : beginSocial db assetId = .ok (some plan)) (phase : e'.phase = .begunSocial plan)

/-- What a step of the world can do: nothing that matters here, discard an
open transaction, open one, call a provider, commit, or run an operation. -/
inductive Trans (w : World) (op : WorldOp) (w' : World) : Prop where
  | idle (db : Untouched w.db w'.db) (fresh : ∀ e ∈ w'.executions, e ∈ w.executions ∨ e.phase.loaded = none)
      (kept : ∀ e ∈ w.executions, e.phase.loaded ≠ none → e ∈ w'.executions)
      (accepted : w'.accepted = w.accepted) (calls : w'.calls = w.calls)
  | close (e : Execution) (member : e ∈ w.executions)
      (cause : op.discards = some e.id ∨ (∃ now, op = .commit e.id now ∧ ¬ e.phase.Fits now) ∨ e.phase.acceptedSends = [])
      (db : w'.db = w.db)
      (fresh : ∀ x ∈ w'.executions, (x ∈ w.executions ∧ x ≠ e) ∨ x.phase.loaded = none)
      (kept : ∀ x ∈ w.executions, x ≠ e → x ∈ w'.executions)
      (accepted : w'.accepted = w.accepted) (calls : w'.calls = w.calls)
  | opens (e e' : Execution) (secret : String) (now : Int) (named : op = .begin e.id secret now)
      (member : e ∈ w.executions) (waiting : e.phase.loaded = none) (opened : Opened w.db e e')
      (flag : e'.startedStopped = stoppedAt w.db e'.phase) (db : w'.db = w.db) (executions : Swapped w w' e e')
      (accepted : w'.accepted = w.accepted) (calls : w'.calls = w.calls)
  | callsEmail (e : Execution) (plan : EmailPlan) (answer : SendgridResponse) (social : SocialAnswer) (batchId : Uuid)
      (outcome : Option DispatchOutcome) (named : op = .call e.id answer social batchId) (member : e ∈ w.executions)
      (phase : e.phase = .begunEmail plan) (called : outcome = callEmail w.db plan answer batchId) (db : w'.db = w.db)
      (executions : Swapped w w' e { e with phase := .calledEmail plan outcome })
      (accepted : w'.accepted = MarketingAgents.acceptedSends plan outcome ++ w.accepted)
      (calls : ∀ call ∈ w'.calls, call ∈ w.calls ∨ call.startedStopped = e.startedStopped)
  | callsSocial (e : Execution) (plan : SocialPlan) (next : Phase) (member : e ∈ w.executions)
      (phase : e.phase = .begunSocial plan ∨ e.phase = .checkedSocial plan)
      (goes : next = .checkedSocial plan ∨ ∃ outcome, next = .calledSocial plan outcome) (db : w'.db = w.db)
      (executions : Swapped w w' e { e with phase := next }) (accepted : w'.accepted = w.accepted)
      (calls : ∀ call ∈ w'.calls, call ∈ w.calls ∨ call.startedStopped = e.startedStopped)
  | commits (e : Execution) (now : Int) (named : op = .commit e.id now) (member : e ∈ w.executions)
      (finished : finishHandler w.db now e.phase = some (.ok w'.db))
      (executions : Swapped w w' e { e with phase := .returned })
      (accepted : w'.accepted = w.accepted) (calls : w'.calls = w.calls)
  | operates (action : Op) (now : Int) (named : op = .operate action now) (db : w'.db = action.run w.db now)
      (executions : w'.executions = w.executions) (accepted : w'.accepted = w.accepted) (calls : w'.calls = w.calls)

variable {w : World}

theorem Trans.refl (w : World) (op : WorldOp) : Trans w op w :=
  .idle (.refl rowOrder_eq _) (fun _ here => Or.inl here) (fun _ here _ => here) rfl rfl

theorem within_trans {op : WorldOp} {id : Nat} {f : Execution → World} (numbered : w.Numbered)
    (step : ∀ e ∈ w.executions, e.id = id → Trans w op (f e) ∧ (f e).Numbered) :
    Trans w op (w.within id f) ∧ (w.within id f).Numbered := by
  unfold within
  split
  · rename_i e found
    exact step e (execution?_mem found).1 (execution?_mem found).2
  · exact ⟨.refl w op, numbered⟩

theorem settle_trans {op : WorldOp} {e e' : Execution} (numbered : w.Numbered) (member : e ∈ w.executions)
    (sameId : e'.id = e.id) (waiting : e.phase.loaded = none) (ended : e'.phase.loaded = none) :
    Trans w op (w.replace e') ∧ (w.replace e').Numbered := by
  have swapped := numbered.swapped member sameId
  exact ⟨.idle (.refl rowOrder_eq _) (swapped.fresh ended) (swapped.kept (not_not.mpr waiting)) rfl rfl,
    numbered.replace member sameId⟩

theorem beginStep_trans (numbered : w.Numbered) {secret : String} {now : Int} {e : Execution}
    (member : e ∈ w.executions) :
    Trans w (.begin e.id secret now) (w.beginStep secret now e) ∧ (w.beginStep secret now e).Numbered := by
  unfold beginStep
  split
  · rename_i claimed
    have waiting : e.phase.loaded = none := by rw [claimed]; rfl
    have opens : ∀ phase, Opened w.db e { e with phase := phase, startedStopped := stoppedAt w.db phase } →
        Trans w (.begin e.id secret now) (w.replace { e with phase := phase, startedStopped := stoppedAt w.db phase }) ∧
          (w.replace { e with phase := phase, startedStopped := stoppedAt w.db phase }).Numbered := fun phase opened =>
      ⟨.opens e _ secret now rfl member waiting opened rfl rfl (numbered.swapped member rfl) rfl rfl,
        numbered.replace member rfl⟩
    split
    · rename_i phase begun
      obtain ⟨error, rfl⟩ | ⟨assetId, named, ⟨rfl, _⟩ | ⟨plan, planned, rfl⟩ | ⟨plan, planned, rfl⟩⟩ :=
        beginHandler_cases begun
      · exact settle_trans numbered member rfl waiting rfl
      · exact settle_trans numbered member rfl waiting rfl
      · exact opens _ (.email named planned rfl)
      · exact opens _ (.social named planned rfl)
    · exact ⟨.refl w _, numbered⟩
  · exact ⟨.refl w _, numbered⟩

theorem callStep_trans (numbered : w.Numbered) {answer : SendgridResponse} {social : SocialAnswer} {batchId : Uuid}
    {e : Execution} (member : e ∈ w.executions) :
    Trans w (.call e.id answer social batchId) (w.callStep answer social batchId e) ∧
      (w.callStep answer social batchId e).Numbered := by
  have made : ∀ assetId, ∀ call ∈ (⟨assetId, e.startedStopped⟩ :: w.calls : List ProviderCall),
      call ∈ w.calls ∨ call.startedStopped = e.startedStopped := by
    intro assetId call here
    rcases List.mem_cons.mp here with rfl | old
    · exact Or.inr rfl
    · exact Or.inl old
  have logged : ∀ (reached : Bool) (assetId : Uuid),
      ∀ call ∈ (if reached then ⟨assetId, e.startedStopped⟩ :: w.calls else w.calls),
        call ∈ w.calls ∨ call.startedStopped = e.startedStopped := by
    intro reached assetId call here
    cases reached with
    | false => exact Or.inl here
    | true => exact made assetId call here
  unfold callStep
  split
  · rename_i plan phase
    have sameId : ({ e with phase := .calledEmail plan (callEmail w.db plan answer batchId) } : Execution).id = e.id := rfl
    have renumbered := numbered.replace member sameId
    exact ⟨.callsEmail e plan answer social batchId _ rfl member phase rfl rfl (numbered.swapped member sameId) rfl
      (logged _ _), renumbered.nodup, renumbered.below⟩
  · rename_i plan phase
    split
    · rename_i outcome _
      exact ⟨.callsSocial e plan _ member (Or.inl phase) (Or.inr ⟨outcome, rfl⟩) rfl (numbered.swapped member rfl) rfl
        fun call here => Or.inl here, numbered.replace member rfl⟩
    · exact ⟨.callsSocial e plan _ member (Or.inl phase) (Or.inl rfl) rfl (numbered.swapped member rfl) rfl
        fun call here => Or.inl here, numbered.replace member rfl⟩
  · rename_i plan phase
    have sameId : ({ e with phase := .calledSocial plan (publishSocial social) } : Execution).id = e.id := rfl
    have renumbered := numbered.replace member sameId
    exact ⟨.callsSocial e plan _ member (Or.inr phase) (Or.inr ⟨_, rfl⟩) rfl (numbered.swapped member sameId) rfl (made _),
      renumbered.nodup, renumbered.below⟩
  · exact ⟨.refl w _, numbered⟩

/-- An open transaction is discarded: its execution goes on without one, or goes. -/
theorem close_trans {op : WorldOp} {e : Execution} (numbered : w.Numbered) (member : e ∈ w.executions)
    (cause : op.discards = some e.id ∨ (∃ now, op = .commit e.id now ∧ ¬ e.phase.Fits now) ∨ e.phase.acceptedSends = [])
    (error : HandlerError) :
    Trans w op (w.replace { e with phase := .raised error }) ∧
      (w.replace { e with phase := .raised error }).Numbered := by
  have sameId : ({ e with phase := .raised error } : Execution).id = e.id := rfl
  have swapped := numbered.swapped member sameId
  refine ⟨.close e member cause rfl (fun x here => ?_) (fun x here other => ?_) rfl rfl, numbered.replace member sameId⟩
  · rcases (swapped x).mp here with rfl | old
    · exact Or.inr rfl
    · exact Or.inl old
  · exact (swapped x).mpr (Or.inr ⟨here, other⟩)

/-- A handler that raises in its last part has had nothing accepted, or the ledger refuses its rows. -/
theorem acceptedSends_of_error {db : Db} {now : Int} {phase : Phase} {error : HandlerError}
    (failed : finishHandler db now phase = some (.error error)) : ¬ phase.Fits now ∨ phase.acceptedSends = [] := by
  cases phase with
  | calledEmail plan outcome =>
    rcases outcome with _ | ⟨handed, _ | result⟩
    · exact Or.inr rfl
    · exact Or.inr rfl
    · refine Or.inl fun fits => ?_
      have committed := commitEmail_eq_ok.mpr ⟨fits, maybeGoLive_eq ((db.recordEmail plan (some result) now).publish
        plan.asset _ now) plan.campaign now⟩
      simp [finishHandler, finishEmail, committed, Except.mapError] at failed
  | claimed | begunEmail | begunSocial | checkedSocial | calledSocial | returned | raised => exact Or.inr rfl

theorem commitStep_trans (numbered : w.Numbered) {now : Int} {e : Execution} (member : e ∈ w.executions) :
    Trans w (.commit e.id now) (w.commitStep now e) ∧ (w.commitStep now e).Numbered := by
  unfold commitStep
  split
  · rename_i db finished
    have sameId : ({ e with phase := .returned } : Execution).id = e.id := rfl
    have renumbered := numbered.replace member sameId
    exact ⟨.commits e now rfl member finished (numbered.swapped member sameId) rfl rfl,
      renumbered.nodup, renumbered.below⟩
  · rename_i error failed
    refine close_trans numbered member (Or.inr ?_) error
    exact (acceptedSends_of_error failed).imp_left fun refused => ⟨now, rfl, refused⟩
  · exact ⟨.refl w _, numbered⟩

theorem leave_trans {op : WorldOp} {e : Execution} (numbered : w.Numbered) (member : e ∈ w.executions)
    (waiting : e.phase.loaded = none) (tasks : List Task) :
    Trans w op ((w.remove e.id).setTasks tasks) ∧ ((w.remove e.id).setTasks tasks).Numbered := by
  have gone := numbered.mem_remove member
  have renumbered := numbered.remove e.id
  refine ⟨.idle (.intro rfl rfl rfl rfl le_rfl) (fun x here => Or.inl ((gone x).mp here).1)
    (fun x here loaded => (gone x).mpr ⟨here, fun same => loaded ?_⟩) rfl rfl, renumbered.nodup, renumbered.below⟩
  rw [same]
  exact waiting

theorem crash_trans (numbered : w.Numbered) (id : Nat) : Trans w (.crash id) (w.remove id) ∧ (w.remove id).Numbered := by
  refine ⟨?_, numbered.remove id⟩
  by_cases there : ∃ e ∈ w.executions, e.id = id
  · obtain ⟨e, member, rfl⟩ := there
    have gone := numbered.mem_remove member
    exact .close e member (Or.inl rfl) rfl (fun x here => Or.inl ((gone x).mp here))
      (fun x here other => (gone x).mpr ⟨here, other⟩) rfl rfl
  · have stays : (w.remove id).executions = w.executions :=
      List.filter_eq_self.mpr fun e here => decide_eq_true fun same => there ⟨e, here, same⟩
    exact .idle (.refl rowOrder_eq _) (fun x here => Or.inl (stays ▸ here)) (fun x here _ => stays.symm ▸ here) rfl rfl

theorem claim_trans (numbered : w.Numbered) (workerId : String) (leaseSeconds : Int) (tie : Nat) (now : Int) :
    Trans w (.claim workerId leaseSeconds tie now) (w.step (.claim workerId leaseSeconds tie now)) ∧
      (w.step (.claim workerId leaseSeconds tie now)).Numbered := by
  simp only [step]
  split
  · refine ⟨.idle (.intro rfl rfl rfl rfl le_rfl) (fun x here => ?_)
      (fun x here _ => List.mem_cons_of_mem _ here) rfl rfl, ?_, fun x here => ?_⟩
    · rcases List.mem_cons.mp here with rfl | old
      · exact Or.inr rfl
      · exact Or.inl old
    · rw [List.map_cons, List.nodup_cons]
      refine ⟨fun again => ?_, numbered.nodup⟩
      obtain ⟨x, here, same⟩ := List.mem_map.mp again
      exact (numbered.below x here).ne same
    · rcases List.mem_cons.mp here with rfl | old
      · exact Nat.lt_succ_self _
      · exact (numbered.below x old).trans (Nat.lt_succ_self _)
  · exact ⟨.refl w _, numbered⟩

/-- Every step of the world is one of these transitions. -/
theorem step_trans (numbered : w.Numbered) (op : WorldOp) : Trans w op (w.step op) ∧ (w.step op).Numbered := by
  cases op with
  | claim workerId leaseSeconds tie now => exact claim_trans numbered workerId leaseSeconds tie now
  | begin id secret now => exact within_trans numbered fun e member same => same ▸ beginStep_trans numbered member
  | call id answer social batchId => exact within_trans numbered fun e member same => same ▸ callStep_trans numbered member
  | commit id now => exact within_trans numbered fun e member same => same ▸ commitStep_trans numbered member
  | abort id error =>
    refine within_trans numbered fun e member same => ?_
    split
    · exact same ▸ close_trans numbered member (Or.inl rfl) error
    · exact ⟨.refl w _, numbered⟩
  | crash id => exact crash_trans numbered id
  | complete id outputData now =>
    refine within_trans numbered fun e member same => ?_
    split
    · rename_i done
      exact same ▸ leave_trans numbered member (ended_loaded done) _
    · exact ⟨.refl w _, numbered⟩
  | fail id error permanent draw now =>
    refine within_trans numbered fun e member same => ?_
    split
    · rename_i done
      exact same ▸ leave_trans numbered member (ended_loaded done) _
    · exact ⟨.refl w _, numbered⟩
  | reap now =>
    exact ⟨.idle (.intro rfl rfl rfl rfl le_rfl) (fun _ here => Or.inl here) (fun _ here _ => here) rfl rfl,
      numbered.nodup, numbered.below⟩
  | enqueue args now =>
    refine ⟨.idle ?_ (fun _ here => Or.inl here) (fun _ here _ => here) rfl rfl, numbered.nodup, numbered.below⟩
    simp only [step]
    cases queued : w.db.enqueue args now with
    | error error => exact .refl rowOrder_eq _
    | ok db => exact untouched_enqueue queued
  | operate action now =>
    simp only [step]
    split
    · exact ⟨.refl w _, numbered⟩
    · exact ⟨.operates action now rfl rfl rfl rfl rfl, numbered.nodup, numbered.below⟩

end Trans

end MarketingAgents.World
