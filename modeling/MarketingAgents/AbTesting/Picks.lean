import Mathlib.Algebra.Order.BigOperators.Group.List
import Mathlib.Algebra.Order.Group.Int
import MarketingAgents.Content.Dispatching
import MarketingAgents.AbTesting.Sessions

namespace MarketingAgents

open Lib PyText

section Split

variable [PyText] {db : Db}

/-- The variant the split of the test gives to a recipient. -/
def AbTest.pick (test : AbTest) (externalId : String) : Except AssignmentError Uuid := do
  let split ← coerceSplit test.trafficSplit
  let picked ← pickVariantIndex test.id externalId split
  orRaise (uuidOf picked) (.raised "badly formed hexadecimal UUID string")

/-- The stored split has a weight that counts. -/
def AbTest.Splits (test : AbTest) : Prop := ∃ split, coerceSplit test.trafficSplit = .ok split ∧ split ≠ []

theorem coerceWeight_positive {entry : String × Json} {weight : Option (String × Int)}
    (done : coerceWeight entry = .ok weight) : ∀ kept ∈ weight, 0 < kept.2 := by
  unfold coerceWeight at done
  split at done
  · simp at done
  · rename_i amount _
    cases Except.ok.inj done
    intro kept member
    split at member
    · simp at member
    · rename_i positive
      cases Option.some.inj member
      exact Int.not_le.mp positive

theorem coerceSplit_positive {raw : Json} {split : Dict String Int} (done : coerceSplit raw = .ok split) :
    ∀ entry ∈ split, 0 < entry.2 := by
  simp only [coerceSplit, bind_eq_ok, pure_eq_ok] at done
  obtain ⟨fields, _, weights, coerced, rfl⟩ := done
  have each := mapM_ok_forall (P := fun weight => ∀ kept ∈ weight, 0 < kept.2)
    (fun _ _ weighed => coerceWeight_positive weighed) coerced
  intro entry member
  obtain ⟨weight, listed, value⟩ := List.mem_filterMap.mp member
  exact each weight listed entry value

theorem coerceWeights_misconfigured {fields : List (String × Json)} {error : AssignmentError}
    (failed : fields.mapM coerceWeight = .error error) : ∃ message, error = .misconfigured message := by
  induction fields with
  | nil => simp [pure, Except.pure] at failed
  | cons entry fields ih =>
    rw [List.mapM_cons, bind_eq_error] at failed
    rcases failed with here | ⟨_, _, later⟩
    · unfold coerceWeight at here
      split at here
      · exact ⟨_, (Except.error.inj here).symm⟩
      · simp at here
    · rcases bind_eq_error.mp later with there | ⟨_, _, done⟩
      · exact ih there
      · simp [pure, Except.pure] at done

theorem coerceSplit_misconfigured {raw : Json} {error : AssignmentError} (failed : coerceSplit raw = .error error) :
    ∃ message, error = .misconfigured message := by
  simp only [coerceSplit, bind_eq_error, orRaise_eq_error] at failed
  rcases failed with ⟨_, value⟩ | ⟨fields, _, weights | ⟨_, _, done⟩⟩
  · exact ⟨_, value.symm⟩
  · exact coerceWeights_misconfigured weights
  · simp [pure, Except.pure] at done

/-- A split that has no weight that counts is what `assign_variant` calls misconfigured. -/
theorem AbTest.pick_unsplit {test : AbTest} (unsplit : ¬ test.Splits) (externalId : String) :
    ∃ message, test.pick externalId = .error (.misconfigured message) := by
  unfold AbTest.pick
  cases coerced : coerceSplit test.trafficSplit with
  | error error =>
    obtain ⟨message, rfl⟩ := coerceSplit_misconfigured coerced
    exact ⟨message, rfl⟩
  | ok split =>
    have empty : split = [] := by_contra fun weighs => unsplit ⟨split, coerced, weighs⟩
    subst empty
    exact ⟨_, rfl⟩

theorem AbTest.pick_split {test : AbTest} (splits : test.Splits) (externalId message : String) :
    test.pick externalId ≠ .error (.misconfigured message) := by
  obtain ⟨split, coerced, weighs⟩ := splits
  have total : 0 < (split.map Prod.snd).sum := by
    refine List.sum_pos _ (fun weight member => ?_) (by simpa using weighs)
    obtain ⟨entry, listed, rfl⟩ := List.mem_map.mp member
    exact coerceSplit_positive coerced entry listed
  intro failed
  simp only [AbTest.pick, coerced, pickVariantIndex, bind_eq_error, orRaise_eq_error, require_eq_error] at failed
  simp [weighs, total.not_ge, pure, Except.pure] at failed

end Split

section Rows

variable [PyText] {db : Db} {test : AbTest} {tenantId : Uuid} {externalId : String}

/-- The assignment is of a recipient with an id and a test that has been
launched, and the split of the test made it if the test still runs. -/
def Earned (db : Db) (row : AbTestAssignment) : Prop :=
  row.audienceExternalId ≠ "" ∧
  ∃ test ∈ db.abTests, test.id = row.abTestId ∧ test.tenantId = row.tenantId ∧ test.status ≠ .designing ∧
    (test.status = .running → test.pick row.audienceExternalId = .ok row.variantId)

theorem Earned.pick {row : AbTestAssignment} (earned : Earned db row) (ids : (db.abTests.map AbTest.id).Nodup)
    (here : test ∈ db.abTests) (running : test.status = .running) (same : row.abTestId = test.id) :
    test.pick row.audienceExternalId = .ok row.variantId := by
  obtain ⟨_, other, there, sameId, _, _, picked⟩ := earned
  have equal : other = test := eq_of_key_eq ids there here (sameId.trans same)
  subst equal
  exact picked running

theorem pickFor_eq (ids : (db.abTests.map AbTest.id).Nodup) (here : test ∈ db.abTests) (externalId : String) :
    Sessions.pickFor db ⟨test.tenantId, test.id, externalId⟩ = test.pick externalId := by
  have found : db.abTests.find? (fun other => other.id = test.id ∧ other.tenantId = test.tenantId) = some test :=
    find?_of_key AbTest.id ids here (by simp) (by simp +contextual)
  unfold Sessions.pickFor AbTest.pick
  rw [found]
  rfl

theorem pickFor_foreign (ids : (db.abTests.map AbTest.id).Nodup) (here : test ∈ db.abTests)
    (foreign : test.tenantId ≠ tenantId) (externalId : String) :
    ∃ message, Sessions.pickFor db ⟨tenantId, test.id, externalId⟩ = .error (.misconfigured message) := by
  have missing : db.abTests.find? (fun other => other.id = test.id ∧ other.tenantId = tenantId) = none := by
    refine List.find?_eq_none.mpr fun other there found => ?_
    obtain ⟨sameId, tenant⟩ := of_decide_eq_true found
    exact foreign (eq_of_key_eq ids there here sameId ▸ tenant)
  unfold Sessions.pickFor
  rw [missing]
  exact ⟨_, rfl⟩

/-- What a running test assigns is what its split gives, whether it is stored already or not. -/
theorem assignVariant_pick {pending inserted : List AbTestAssignment} {variantId : Uuid}
    (ids : (db.abTests.map AbTest.id).Nodup) (here : test ∈ db.abTests) (running : test.status = .running)
    (named : externalId ≠ "") (earned : ∀ row ∈ db.abTestAssignments ++ pending, Earned db row)
    (done : assignVariant db pending tenantId test.id externalId = .ok (variantId, inserted)) :
    test.pick externalId = .ok variantId ∧ ∀ row ∈ db.abTestAssignments ++ inserted, Earned db row := by
  rw [Sessions.assignVariant_eq db pending ⟨tenantId, test.id, externalId⟩] at done
  split at done
  · rename_i row found
    simp only [Except.ok.injEq, Prod.mk.injEq] at done
    obtain ⟨rfl, rfl⟩ := done
    have key : row.tenantId = tenantId ∧ row.abTestId = test.id ∧ row.audienceExternalId = externalId := by
      simpa [AbTestAssignment.key] using List.find?_some found
    refine ⟨?_, earned⟩
    rw [← key.2.2]
    exact (earned row (List.mem_of_find?_eq_some found)).pick ids here running key.2.1
  · simp only [bind_eq_ok, require_eq_ok, pure_eq_ok, Prod.mk.injEq] at done
    obtain ⟨picked, chosen, _, _, rfl, rfl⟩ := done
    have mine : test.tenantId = tenantId := by
      by_contra foreign
      obtain ⟨message, failed⟩ := pickFor_foreign ids here foreign externalId
      rw [failed] at chosen
      cases chosen
    subst mine
    rw [pickFor_eq ids here] at chosen
    refine ⟨chosen, fun row member => ?_⟩
    rw [← List.append_assoc] at member
    rcases List.mem_append.mp member with old | new
    · exact earned row old
    · rw [List.mem_singleton.mp new]
      exact ⟨named, test, here, rfl, rfl, by simp [running], fun _ => chosen⟩

theorem assignVariant_error {pending : List AbTestAssignment} {message : String}
    (ids : (db.abTests.map AbTest.id).Nodup) (here : test ∈ db.abTests)
    (failed : assignVariant db pending test.tenantId test.id externalId = .error (.misconfigured message)) :
    test.pick externalId = .error (.misconfigured message) := by
  rw [Sessions.assignVariant_eq db pending ⟨test.tenantId, test.id, externalId⟩] at failed
  split at failed
  · cases failed
  · rw [pickFor_eq ids here, bind_eq_error] at failed
    rcases failed with picks | ⟨_, _, stores⟩
    · exact picks
    · rw [bind_eq_error] at stores
      rcases stores with refused | ⟨_, _, done⟩
      · simp [require_eq_error] at refused
      · cases done

/-- A test whose split is misconfigured keeps everybody on the asset. -/
theorem assignVariant_unsplit {pending : List AbTestAssignment} (ids : (db.abTests.map AbTest.id).Nodup)
    (here : test ∈ db.abTests) (running : test.status = .running)
    (earned : ∀ row ∈ db.abTestAssignments ++ pending, Earned db row) (unsplit : ¬ test.Splits) (externalId : String)
    (named : externalId ≠ "") :
    ∃ message, assignVariant db pending test.tenantId test.id externalId = .error (.misconfigured message) := by
  obtain ⟨message, failed⟩ := AbTest.pick_unsplit unsplit externalId
  cases assigned : assignVariant db pending test.tenantId test.id externalId with
  | ok result =>
    have picked := (assignVariant_pick ids here running named earned assigned).1
    rw [failed] at picked
    cases picked
  | error error =>
    rw [Sessions.assignVariant_eq db pending ⟨test.tenantId, test.id, externalId⟩] at assigned
    split at assigned
    · cases assigned
    · rw [pickFor_eq ids here, failed] at assigned
      exact ⟨message, assigned.symm⟩

/-- The members that stay with the asset are those its test gives it and
those that the test is misconfigured for. -/
theorem keepAssigned_kept {a : ContentAsset} {members kept : List AudienceMember} {pending inserted : List AbTestAssignment}
    (ids : (db.abTests.map AbTest.id).Nodup) (here : test ∈ db.abTests) (running : test.status = .running)
    (earned : ∀ row ∈ db.abTestAssignments ++ pending, Earned db row)
    (done : keepAssigned db a test pending members = .ok (kept, inserted)) :
    (∀ row ∈ db.abTestAssignments ++ inserted, Earned db row) ∧ ∀ m ∈ kept, m.externalId ≠ "" → test.tenantId = a.tenantId →
      test.Splits → test.pick m.externalId = .ok a.id := by
  induction members generalizing pending kept inserted with
  | nil =>
    simp only [keepAssigned, Except.ok.injEq, Prod.mk.injEq] at done
    obtain ⟨rfl, rfl⟩ := done
    exact ⟨earned, by simp⟩
  | cons m rest ih =>
    unfold keepAssigned at done
    split at done
    · rename_i unnamed
      simp only [bind_eq_ok, pure_eq_ok, Prod.mk.injEq, Prod.exists] at done
      obtain ⟨tail, _, deeper, rfl, rfl⟩ := done
      obtain ⟨rows, others⟩ := ih earned deeper
      exact ⟨rows, List.forall_mem_cons.mpr ⟨fun named => absurd unnamed named, others⟩⟩
    · rename_i named
      split at done
      · simp at done
      · rename_i message failed
        simp only [bind_eq_ok, pure_eq_ok, Prod.mk.injEq, Prod.exists] at done
        obtain ⟨tail, _, deeper, rfl, rfl⟩ := done
        obtain ⟨rows, others⟩ := ih earned deeper
        refine ⟨rows, List.forall_mem_cons.mpr ⟨fun _ tenant splits => ?_, others⟩⟩
        rw [← tenant] at failed
        exact absurd (assignVariant_error ids here failed) (AbTest.pick_split splits _ _)
      · rename_i variantId stored assigned
        simp only [bind_eq_ok, pure_eq_ok, Prod.mk.injEq, Prod.exists] at done
        obtain ⟨tail, _, deeper, rfl, rfl⟩ := done
        obtain ⟨picked, grown⟩ := assignVariant_pick ids here running named earned assigned
        obtain ⟨rows, others⟩ := ih grown deeper
        refine ⟨rows, ?_⟩
        split
        · rename_i mine
          exact List.forall_mem_cons.mpr ⟨fun _ _ _ => mine ▸ picked, others⟩
        · exact others

theorem keepAssigned_unsplit {a : ContentAsset} {pending : List AbTestAssignment} (ids : (db.abTests.map AbTest.id).Nodup)
    (here : test ∈ db.abTests) (running : test.status = .running) (tenant : test.tenantId = a.tenantId)
    (earned : ∀ row ∈ db.abTestAssignments ++ pending, Earned db row) (unsplit : ¬ test.Splits)
    (members : List AudienceMember) : keepAssigned db a test pending members = .ok (members, pending) := by
  induction members with
  | nil => rfl
  | cons m rest ih =>
    unfold keepAssigned
    rw [ih]
    split
    · rfl
    · rename_i named
      obtain ⟨message, failed⟩ := assignVariant_unsplit ids here running earned unsplit m.externalId named
      rw [← tenant, failed]
      rfl

end Rows

theorem writeStatus_tests (db : Db) (id : Uuid) (after : CampaignStatus) (writer : Writer) :
    (db.writeStatus id after writer).abTests = db.abTests ∧
      (db.writeStatus id after writer).abTestAssignments = db.abTestAssignments := by
  unfold Db.writeStatus
  split <;> exact ⟨rfl, rfl⟩

theorem note_tests (db : Db) (decision : Option ApprovalDecisionLog) :
    (db.note decision).abTests = db.abTests ∧ (db.note decision).abTestAssignments = db.abTestAssignments := by
  cases decision <;> exact ⟨rfl, rfl⟩

section Writes

variable [PyText] {may : Cause → Db → Prop} {now : Int} {db db' : Db}

/-- What a write does to the tests and their assignments: nothing, new tests
in design, one move of one test, or the assignments of a dispatch. -/
inductive TestTables (db db' : Db) : Prop where
  | kept (tests : db'.abTests = db.abTests) (rows : db'.abTestAssignments = db.abTestAssignments)
  | entered (tests : List AbTest) (value : db'.abTests = db.abTests ++ tests)
      (designing : ∀ test ∈ tests, test.status = .designing)
      (ids : ∀ test ∈ tests, db.nextId ≤ test.id ∧ test.id < db'.nextId) (distinct : (tests.map AbTest.id).Nodup)
      (rows : db'.abTestAssignments = db.abTestAssignments)
  | moved (test test' : AbTest) (found : db.abTest? test.id = some test) (step : TestStep test test')
      (tests : db'.abTests = (db.setAbTest test').abTests) (rows : db'.abTestAssignments = db.abTestAssignments)
  | assigned (tests : db'.abTests = db.abTests) (a : ContentAsset) (members kept : List AudienceMember)
      (inserted : List AbTestAssignment) (filtered : filterAudienceForAbTest db a members = .ok (kept, inserted))
      (rows : db'.abTestAssignments = insertAssignments db.abTestAssignments inserted)

theorem SameSide.testTables (same : SameSide db db') : TestTables db db' := .kept same.abTests same.abTestAssignments

theorem SameCore.testTables (same : SameCore db db') : TestTables db db' := .kept same.abTests same.abTestAssignments

theorem planEmail_filtered {secret : String} {a : ContentAsset} {c : Campaign} {plan : EmailPlan}
    (planned : planEmail db secret a c now = .ok plan) : ∃ members,
      filterAudienceForAbTest db a (loadAudienceMembers db a.campaignId) = .ok (members, plan.assignments) := by
  simp only [planEmail, bind_eq_ok, pure_eq_ok] at planned
  obtain ⟨_, _, _, _, ⟨members, assignments⟩, filtered, _, _, _, _, _, _, _, _, rfl⟩ := planned
  exact ⟨members, mapError_eq_ok.mp filtered⟩

theorem Write.testTables (write : Write may now db db') (wf : db.Wf) : TestTables db db' := by
  have written : ∀ {c : Campaign} {after : CampaignStatus} {writer : Writer},
      SameSide (db.writeStatus c.id after writer) db' → TestTables db db' := by
    intro c after writer side
    obtain ⟨tests, rows⟩ := writeStatus_tests db c.id after writer
    exact .kept (side.abTests.trans tests) (side.abTestAssignments.trans rows)
  cases write with
  | side same => exact same.testTables
  | task other done => exact (SameSide.enqueue done).testTables
  | cancel found paused => exact .kept rfl rfl
  | found drafted fresh => exact .kept rfl rfl
  | edit there sameId sameStatus => exact .kept rfl rfl
  | status found permitted plain live completed => exact written (.refl _)
  | submit found producing drafted =>
    exact written (flipDraftedAssetsToPendingApproval_flips (writeStatus_wf found _ _ wf) _ now).1
  | launch found pending done => exact written (scheduleApprovedAssets_schedules (writeStatus_wf found _ _ wf) done).side
  | resume found paused asked done =>
    exact written (resumeDistributionForCampaign_resumes (writeStatus_wf found _ _ wf) done).side
  | seed asked done =>
    have seeded := seedAssetsForCampaign_seeded wf done
    obtain ⟨tests, value, new⟩ := seeded.tests
    exact .entered tests value (fun test member => (new.rows test member).1) new.ids new.distinct seeded.abTestAssignments
  | rewrite here edited => exact .kept rfl rfl
  | @regenerate _ a c args here campaign producing skill owner named unkeyed done =>
    exact (((SameSide.setAsset db _).trans (.ensureAgent _ _ .contentCreator)).trans (.enqueue done)).testTables
  | approve vetted traced status logged silent assistant => exact .kept (note_tests db _).1 (note_tests db _).2
  | reject here traced status rejected logged silent => exact .kept (note_tests db _).1 (note_tests db _).2
  | create status asked => exact .kept rfl rfl
  | ledger planned =>
    obtain ⟨members, filtered⟩ := planEmail_filtered planned
    exact .assigned rfl _ _ members _ filtered rfl
  | newTest fresh designing undecided configured =>
    exact .entered [_] rfl (by simpa using designing) (by simp [fresh]) (List.nodup_singleton _) rfl
  | setTest found step split => exact .moved _ _ found step rfl rfl

theorem Write.nextId_le (write : Write may now db db') (wf : db.Wf) : db.nextId ≤ db'.nextId := by
  cases write.sendStep wf with
  | steady steady => exact steady.nextId
  | launched c found pending schedules => exact (writeStatus_nextId db c.id _ _).ge.trans schedules.side.nextId
  | resumed c found asked resumes => exact (writeStatus_nextId db c.id _ _).ge.trans resumes.side.nextId

end Writes

/-- The row of a test at a later time: once launched it is never in design
again, and it only runs on with the split it ran with. -/
structure Later (old new : AbTest) : Prop where
  id : new.id = old.id
  tenantId : new.tenantId = old.tenantId
  launched : old.status ≠ .designing → new.status ≠ .designing
  running : old.status ≠ .designing → new.status = .running → old.status = .running ∧ new.trafficSplit = old.trafficSplit

theorem Later.refl (test : AbTest) : Later test test := ⟨rfl, rfl, fun past => past, fun _ running => ⟨running, rfl⟩⟩

theorem Later.trans {first mid last : AbTest} (left : Later first mid) (right : Later mid last) : Later first last where
  id := right.id.trans left.id
  tenantId := right.tenantId.trans left.tenantId
  launched past := right.launched (left.launched past)
  running past runs := by
    obtain ⟨ran, split⟩ := right.running (left.launched past) runs
    obtain ⟨before, split'⟩ := left.running past ran
    exact ⟨before, split.trans split'⟩

theorem TestStep.later {test test' : AbTest} (step : TestStep test test') : Later test test' := by
  cases step with
  | launched designing startedAt value =>
    subst value
    exact ⟨rfl, rfl, fun past => absurd designing past, fun past => absurd designing past⟩
  | stopped active stoppedAt value =>
    subst value
    exact ⟨rfl, rfl, by simp, by simp⟩
  | evaluated running status verdict winnerId lastEvaluatedAt value =>
    subst value
    refine ⟨rfl, rfl, fun _ designing => ?_, fun _ _ => ⟨running, rfl⟩⟩
    have designing : status = .designing := designing
    simp [designing] at verdict
  | promoted significant split value =>
    subst value
    refine ⟨rfl, rfl, fun past => past, fun _ runs => ?_⟩
    have runs : test.status = .running := runs
    simp [significant] at runs

/-- Tests only move on, and assignments stay. -/
structure Progress (db db' : Db) : Prop where
  tests : ∀ old ∈ db.abTests, ∃ new ∈ db'.abTests, Later old new
  rows : db.abTestAssignments ⊆ db'.abTestAssignments

theorem Progress.refl (db : Db) : Progress db db := ⟨fun old here => ⟨old, here, .refl old⟩, List.Subset.refl _⟩

theorem Progress.trans {db db' db'' : Db} (first : Progress db db') (last : Progress db' db'') : Progress db db'' where
  tests old here := by
    obtain ⟨mid, there, left⟩ := first.tests old here
    obtain ⟨new, after, right⟩ := last.tests mid there
    exact ⟨new, after, left.trans right⟩
  rows _ here := last.rows (first.rows here)

theorem insertAssignments_mem {rows inserted : List AbTestAssignment} {row : AbTestAssignment}
    (member : row ∈ insertAssignments rows inserted) : row ∈ rows ++ inserted := by
  rcases List.mem_append.mp member with old | new
  · exact List.mem_append_left _ old
  · exact List.mem_append_right _ (List.mem_of_mem_filter new)

section Earned

variable [PyText] {db db' : Db}

theorem TestTables.progress (tables : TestTables db db') (ids : (db.abTests.map AbTest.id).Nodup) : Progress db db' := by
  cases tables with
  | kept tests rows =>
    exact ⟨fun old here => ⟨old, tests ▸ here, .refl old⟩, rows ▸ List.Subset.refl _⟩
  | entered tests value designing numbered distinct rows =>
    exact ⟨fun old here => ⟨old, value ▸ List.mem_append_left _ here, .refl old⟩, rows ▸ List.Subset.refl _⟩
  | moved test test' found step tests rows =>
    refine ⟨fun old here => ?_, rows ▸ List.Subset.refl _⟩
    rw [tests]
    by_cases same : old.id = test.id
    · have equal : old = test := eq_of_key_eq ids here (List.mem_of_find?_eq_some found) same
      subst equal
      exact ⟨test', mem_updateWhere.mpr (Or.inl ⟨old, here, by simpa using step.later.id.symm, rfl⟩), step.later⟩
    · have other : old.id ≠ test'.id := step.later.id.symm ▸ same
      exact ⟨old, mem_updateWhere.mpr (Or.inr ⟨here, by simpa using other⟩), .refl old⟩
  | assigned tests a members kept inserted filtered rows =>
    exact ⟨fun old here => ⟨old, tests ▸ here, .refl old⟩, rows ▸ List.subset_append_left _ _⟩

/-- Tests have distinct ids, all handed out before `nextId`, and every stored
assignment is earned. -/
structure EarnedRows (db : Db) : Prop where
  ids : (db.abTests.map AbTest.id).Nodup
  below : ∀ test ∈ db.abTests, test.id < db.nextId
  rows : ∀ row ∈ db.abTestAssignments, Earned db row

theorem Earned.progress {row : AbTestAssignment} (earned : Earned db row) (progress : Progress db db') : Earned db' row := by
  obtain ⟨named, test, here, sameId, tenant, past, picked⟩ := earned
  obtain ⟨test', there, later⟩ := progress.tests test here
  refine ⟨named, test', there, later.id.trans sameId, later.tenantId.trans tenant, later.launched past, fun runs => ?_⟩
  obtain ⟨ran, split⟩ := later.running past runs
  have same : test'.pick row.audienceExternalId = test.pick row.audienceExternalId := by
    unfold AbTest.pick
    rw [split, later.id]
  rw [same]
  exact picked ran

theorem runningAbTestForAsset_running {a : ContentAsset} {test : AbTest} (found : runningAbTestForAsset db a = some test) :
    test ∈ db.abTests ∧ test.status = .running := by
  have byVariant : ∀ {test}, abTestByVariant db a = some test → test ∈ db.abTests ∧ test.status = .running := by
    intro test found
    have holds := List.find?_some found
    rw [decide_eq_true_eq] at holds
    exact ⟨List.mem_of_find?_eq_some found, holds.2.1⟩
  unfold runningAbTestForAsset at found
  split at found
  · split at found
    · simp at found
    · split at found
      · rename_i other here
        cases Option.some.inj found
        have holds := List.find?_some here
        rw [decide_eq_true_eq] at holds
        exact ⟨List.mem_of_find?_eq_some here, holds.2⟩
      · exact byVariant found
  · exact byVariant found

theorem filterAudienceForAbTest_earned {a : ContentAsset} {members kept : List AudienceMember}
    {inserted : List AbTestAssignment} (holds : EarnedRows db)
    (filtered : filterAudienceForAbTest db a members = .ok (kept, inserted)) : ∀ row ∈ inserted, Earned db row := by
  unfold filterAudienceForAbTest at filtered
  split at filtered
  · simp only [Except.ok.injEq, Prod.mk.injEq] at filtered
    simp [← filtered.2]
  · rename_i test found
    obtain ⟨here, running⟩ := runningAbTestForAsset_running found
    have earned := keepAssigned_kept holds.ids here running (by simpa using holds.rows) filtered
    exact fun row member => earned.1 row (List.mem_append_right _ member)

theorem EarnedRows.step (holds : EarnedRows db) (tables : TestTables db db') (nextId : db.nextId ≤ db'.nextId) :
    EarnedRows db' := by
  have progress := tables.progress holds.ids
  have rest : ∀ row ∈ db.abTestAssignments, Earned db' row := fun row here => (holds.rows row here).progress progress
  cases tables with
  | kept tests rows =>
    exact ⟨tests ▸ holds.ids, fun test here => (holds.below test (tests ▸ here)).trans_le nextId, rows ▸ rest⟩
  | entered tests value designing numbered distinct rows =>
    refine ⟨?_, fun test member => ?_, rows ▸ rest⟩
    · rw [value]
      exact nodup_keys_append holds.ids distinct fun old here new there =>
        ((holds.below old here).trans_le (numbered new there).1).ne
    · rcases List.mem_append.mp (value ▸ member) with old | new
      · exact (holds.below test old).trans_le nextId
      · exact (numbered test new).2
  | moved test test' found step tests rows =>
    have same : db'.abTests.map AbTest.id = db.abTests.map AbTest.id := by
      rw [tests]
      exact updateWhere_keys AbTest.id db.abTests fun row hit => (of_decide_eq_true hit).symm
    refine ⟨same ▸ holds.ids, fun new member => ?_, rows ▸ rest⟩
    obtain ⟨old, here, sameId⟩ := List.mem_map.mp (same ▸ List.mem_map_of_mem (f := AbTest.id) member)
    exact (sameId ▸ holds.below old here).trans_le nextId
  | assigned tests a members kept inserted filtered rows =>
    refine ⟨tests ▸ holds.ids, fun test here => (holds.below test (tests ▸ here)).trans_le nextId, fun row member => ?_⟩
    rcases List.mem_append.mp (insertAssignments_mem (rows ▸ member)) with old | new
    · exact rest row old
    · exact (filterAudienceForAbTest_earned holds filtered row new).progress progress

/-- Whatever happens: assignments stay earned, and the tests and their assignments progress. -/
theorem run_earned {db : Db} (wf : db.Wf) (holds : EarnedRows db) (ops : List (Op × Int)) :
    (Lib.run Content.step db ops).Wf ∧ EarnedRows (Lib.run Content.step db ops) ∧
      Progress db (Lib.run Content.step db ops) := by
  refine run_invariant (I := fun mid => mid.Wf ∧ EarnedRows mid ∧ Progress db mid) ⟨wf, holds, .refl db⟩ ?_ ops
  intro mid op ⟨midWf, earned, progress⟩
  have writes : Writes (op.1.may mid) op.2 mid (op.1.run mid op.2) := Op.run_writes midWf op.1
  refine writes.induct (I := fun mid => EarnedRows mid ∧ Progress db mid) midWf ⟨earned, progress⟩ ?_
  intro first last firstWf ⟨earned, progress⟩ write
  have tables := write.testTables firstWf
  exact ⟨earned.step tables (write.nextId_le firstWf), progress.trans (tables.progress earned.ids)⟩

theorem EarnedRows.start {db : Db} (tests : db.abTests = []) (rows : db.abTestAssignments = []) : EarnedRows db := by
  constructor <;> simp [tests, rows]

end Earned

end MarketingAgents
