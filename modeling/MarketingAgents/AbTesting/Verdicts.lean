import MarketingAgents.AbTesting.Lifecycle
import MarketingAgents.Lib.Run

namespace MarketingAgents

open Lib PyText

/-- What the evaluator reports, less the numbers of the tool. -/
structure EvalResult where
  abTestId : Uuid
  status : AbTestStatus
  skipped : Bool
  skipReason : Option String := none
  decision : Option AbDecision := none
  winnerId : Option Uuid := none
deriving DecidableEq

/-- Why `evaluate_test` leaves a test alone, `none` where it evaluates it. -/
def AbTest.skipReason (test : AbTest) (now : Int) : Option String :=
  if test.status = .stopped ∨ test.status = .significant then some ("already_" ++ test.status.value)
  else if test.status ≠ .running then some ("status_" ++ test.status.value)
  else if ∃ last ∈ test.lastEvaluatedAt, now - last < Queue.seconds 900 then some "throttled"
  else if test.variantAId = none ∨ test.variantBId = none then some "single_variant_test"
  else if test.primaryMetric ∉ supportedMetrics then some ("unsupported_metric:" ++ test.primaryMetric)
  else none

/-- The result of `evaluate_test`. -/
def evalResult (db : Db) (testId : Uuid) (decision : AbDecision) (now : Int) : EvalResult :=
  match db.abTest? testId with
  | none => ⟨testId, .designing, true, some "not_found", none, none⟩
  | some test =>
    match test.skipReason now with
    | some reason => ⟨testId, test.status, true, some reason, none, none⟩
    | none =>
      let test' := ((evaluateTest db testId decision now).abTest? testId).getD test
      ⟨testId, test'.status, false, none, some decision,
        match decision with
        | .winner armB => if armB then test.variantBId else test.variantAId
        | .undecided => none⟩

/-- The operations that write `ab_test` rows. -/
inductive TestOp where
  | create (user : AppUser) (campaignId : Uuid) (body : CreateAbTestRequest)
  | seed (c : Campaign) (now : Int)
  | launch (user : AppUser) (testId : Uuid) (now : Int)
  | stop (user : AppUser) (testId : Uuid) (now : Int)
  | promote (user : AppUser) (testId : Uuid)
  /-- `decision` is `none` where the tool raises. -/
  | evaluate (testId : Uuid) (decision : Option AbDecision) (now : Int)
  /-- Whatever else the program does: nothing else writes a test. -/
  | other (edit : Db → Db) (leaves : ∀ db, (edit db).abTests = db.abTests)

namespace TestOp

variable [PyText]

/-- The committed effect of an operation; one that raises is rolled back. -/
def step (db : Db) : TestOp → Db
  | .create user campaignId body => (createAbTest db user campaignId body).toOption.getD db
  | .seed c now => ((seedAssetsForCampaign db c now).toOption.map Prod.fst).getD db
  | .launch user testId now => (launchAbTest db user testId now).toOption.getD db
  | .stop user testId now => (stopAbTest db user testId now).toOption.getD db
  | .promote user testId => (promoteAbTest db user testId).toOption.getD db
  | .evaluate testId decision now => (decision.map fun d => evaluateTest db testId d now).getD db
  | .other edit _ => edit db

end TestOp

/-- How a status may change. -/
def statusMoves : List (AbTestStatus × AbTestStatus) :=
  [(.designing, .running), (.designing, .stopped), (.running, .stopped), (.running, .significant),
    (.running, .inconclusive)]

namespace AbTest

/-- A winner is named exactly when the test is significant, and is one of its variants. -/
structure Verdict (test : AbTest) : Prop where
  named : test.winnerId.isSome ↔ test.status = .significant
  variant : ∀ winner, test.winnerId = some winner → test.variantAId = some winner ∨ test.variantBId = some winner

/-- A row as it is inserted. -/
structure Fresh (test : AbTest) : Prop where
  status : test.status = .designing
  winner : test.winnerId = none
  evaluated : test.lastEvaluatedAt = none

theorem Fresh.verdict {test : AbTest} (fresh : test.Fresh) : test.Verdict where
  named := by simp [fresh.status, fresh.winner]
  variant winner named := by simp [fresh.winner] at named

/-- What an evaluation that is not skipped makes of the row. -/
inductive Judged (now : Int) (test : AbTest) : AbTest → Prop
  | significant (winner : Uuid) (variant : test.variantAId = some winner ∨ test.variantBId = some winner) :
      Judged now test { test with lastEvaluatedAt := some now, status := .significant, winnerId := some winner }
  | inconclusive : Judged now test { test with lastEvaluatedAt := some now, status := .inconclusive }
  | undecided : Judged now test { test with lastEvaluatedAt := some now }

/-- What one operation makes of the row that it names. -/
inductive Change (test : AbTest) : TestOp → AbTest → Prop
  | launch {user : AppUser} {now : Int} (designing : test.status = .designing) :
      Change test (.launch user test.id now) { test with status := .running, startedAt := some now }
  | stop {user : AppUser} {now : Int} (active : test.status = .designing ∨ test.status = .running) :
      Change test (.stop user test.id now) { test with status := .stopped, stoppedAt := some now }
  | promote {user : AppUser} (split : Json) : Change test (.promote user test.id) { test with trafficSplit := split }
  | evaluate {decision : AbDecision} {now : Int} {test' : AbTest} (running : test.status = .running)
      (rested : ∀ last, test.lastEvaluatedAt = some last → Queue.seconds 900 ≤ now - last)
      (judged : Judged now test test') : Change test (.evaluate test.id (some decision) now) test'

section Change

variable {test test' : AbTest} {op : TestOp} (change : test.Change op test')

include change

theorem Change.id_eq : test'.id = test.id := by
  cases change with
  | launch => rfl
  | stop => rfl
  | promote => rfl
  | evaluate _ _ judged => cases judged <;> rfl

theorem Change.moves : test'.status = test.status ∨ (test.status, test'.status) ∈ statusMoves := by
  cases change with
  | launch designing => exact Or.inr (by simp [designing, statusMoves])
  | stop active => exact Or.inr (by rcases active with here | here <;> simp [here, statusMoves])
  | promote => exact Or.inl rfl
  | evaluate running _ judged =>
    cases judged with
    | significant => exact Or.inr (by simp [running, statusMoves])
    | inconclusive => exact Or.inr (by simp [running, statusMoves])
    | undecided => exact Or.inl rfl

/-- A test that is not significant yet has no winner to keep, and only the
evaluator names one. -/
theorem Change.verdict (sound : test.Verdict) : test'.Verdict := by
  have unnamed : test.status ≠ .significant → test.winnerId = none := by
    intro open'
    rw [← Option.not_isSome_iff_eq_none]
    exact fun named => open' (sound.named.mp named)
  cases change with
  | launch designing =>
    have none := unnamed (by simp [designing])
    exact ⟨by simp [none], by simp [none]⟩
  | stop active =>
    have none := unnamed (by rcases active with here | here <;> simp [here])
    exact ⟨by simp [none], by simp [none]⟩
  | promote => exact ⟨sound.named, sound.variant⟩
  | evaluate running _ judged =>
    have none := unnamed (by simp [running])
    cases judged with
    | significant winner variant => exact ⟨by simp, fun w named => by cases named; exact variant⟩
    | inconclusive => exact ⟨by simp [none], by simp [none]⟩
    | undecided => exact ⟨by simp [none, running], by simp [none]⟩

end Change

end AbTest

/-- What an operation can do to the table of tests: leave it, add rows in
design, or change the row that it names. -/
inductive TestEffect (db : Db) (op : TestOp) : List AbTest → Prop
  | appends (new : List AbTest) (fresh : ∀ test ∈ new, test.Fresh) : TestEffect db op (db.abTests ++ new)
  | sets (test test' : AbTest) (found : db.abTest? test.id = some test) (change : test.Change op test') :
      TestEffect db op (updateWhere (·.id = test.id) (fun _ => test') db.abTests)

theorem TestEffect.unchanged (db : Db) (op : TestOp) : TestEffect db op db.abTests := by
  have same : TestEffect db op (db.abTests ++ []) := .appends [] (by simp)
  rwa [List.append_nil] at same

theorem Db.abTest?_id {db : Db} {id : Uuid} {test : AbTest} (found : db.abTest? id = some test) : test.id = id := by
  simpa using List.find?_some found

theorem Db.setAbTest_abTests (db : Db) {test test' : AbTest} (same : test'.id = test.id) :
    (db.setAbTest test').abTests = updateWhere (·.id = test.id) (fun _ => test') db.abTests := by
  simp only [Db.setAbTest, same]

theorem Db.tagAsset_abTests (db : Db) (key : String) (value : Json) (id : Uuid) :
    (db.tagAsset key value id).abTests = db.abTests := by
  unfold Db.tagAsset
  split <;> rfl

theorem foldl_tagAsset_abTests {ι : Type} (key : String) (value : Json) (id : ι → Uuid) (items : List ι) (db : Db) :
    (items.foldl (fun db item => db.tagAsset key value (id item)) db).abTests = db.abTests := by
  induction items generalizing db with
  | nil => rfl
  | cons item items ih => rw [List.foldl_cons, ih, Db.tagAsset_abTests]

theorem insertAssets_abTests (db : Db) (rows : List ContentAsset) : (insertAssets db rows).1.abTests = db.abTests := by
  induction rows generalizing db with
  | nil => rfl
  | cons a rows ih => exact ih (db.insertAsset a)

theorem insertGroups_abTests (db : Db) (groups : List (Option AbTestSpec × List ContentAsset)) :
    (insertGroups db groups).1.abTests = db.abTests := by
  induction groups generalizing db with
  | nil => rfl
  | cons group groups ih => exact (ih (insertAssets db group.2).1).trans (insertAssets_abTests db group.2)

theorem enqueue_abTests {db db' : Db} {args : EnqueueArgs} {now : Int} (done : db.enqueue args now = .ok db') :
    db'.abTests = db.abTests := by
  unfold Db.enqueue at done
  split at done
  · cases done
    rfl
  · cases done

theorem enqueueAll_abTests {ι : Type} {args : ι → EnqueueArgs} {now : Int} {items : List ι} {db db' : Db}
    (done : items.foldlM (fun db item => db.enqueue (args item) now) db = .ok db') : db'.abTests = db.abTests :=
  foldlM_invariant (I := fun mid : Db => mid.abTests = db.abTests) done rfl
    fun _ _ _ _ same step => (enqueue_abTests step).trans same

theorem ensureAgent_abTests (db : Db) (tenantId : Uuid) (kind : AgentKind) :
    (db.ensureAgent tenantId kind).1.abTests = db.abTests := by
  unfold Db.ensureAgent
  split <;> rfl

theorem foldl_archiveLoser_abTests (winnerId : Uuid) (rows : List ContentAsset) (db : Db) :
    (rows.foldl (archiveLoser winnerId) db).abTests = db.abTests := by
  induction rows generalizing db with
  | nil => rfl
  | cons v rows ih =>
    rw [List.foldl_cons, ih]
    unfold archiveLoser
    split <;> rfl

theorem TestEffect.stop {db db' : Db} {user : AppUser} {testId : Uuid} {now : Int}
    (done : stopAbTest db user testId now = .ok db') : TestEffect db (.stop user testId now) db'.abTests := by
  simp only [stopAbTest, bind_eq_ok, require_eq_ok, orRaise_eq_ok, pure_eq_ok] at done
  obtain ⟨_, _, test, found, _, active, rfl⟩ := done
  have here := (Option.filter_eq_some_iff.mp found).1
  cases Db.abTest?_id here
  exact .sets test _ here (.stop active)

/-- The evaluator goes past its checks for a running test with two variants
and a metric that it can count, if the last evaluation is old enough. -/
theorem AbTest.skipReason_eq_none {test : AbTest} {now : Int} :
    test.skipReason now = none ↔ test.status = .running ∧
      (¬ ∃ last ∈ test.lastEvaluatedAt, now - last < Queue.seconds 900) ∧
      ¬ (test.variantAId = none ∨ test.variantBId = none) ∧ test.primaryMetric ∈ supportedMetrics := by
  unfold AbTest.skipReason
  by_cases running : test.status = .running
  · have unsettled : ¬ (test.status = .stopped ∨ test.status = .significant) := by simp [running]
    rw [if_neg unsettled, if_neg (not_not_intro running)]
    by_cases recent : ∃ last ∈ test.lastEvaluatedAt, now - last < Queue.seconds 900
    · rw [if_pos recent]
      exact iff_of_false (by simp) fun passes => passes.2.1 recent
    · rw [if_neg recent]
      by_cases single : test.variantAId = none ∨ test.variantBId = none
      · rw [if_pos single]
        exact iff_of_false (by simp) fun passes => passes.2.2.1 single
      · rw [if_neg single]
        by_cases supported : test.primaryMetric ∈ supportedMetrics
        · rw [if_neg (not_not_intro supported)]
          exact iff_of_true rfl ⟨running, recent, single, supported⟩
        · rw [if_pos supported]
          exact iff_of_false (by simp) fun passes => supported passes.2.2.2
  · refine iff_of_false ?_ fun passes => running passes.1
    by_cases settled : test.status = .stopped ∨ test.status = .significant
    · simp [settled]
    · simp [settled, running]

theorem evaluateTest_skipped {db : Db} {testId : Uuid} {test : AbTest} {now : Int}
    (found : db.abTest? testId = some test) (skipped : test.skipReason now ≠ none) (decision : AbDecision) :
    evaluateTest db testId decision now = db := by
  unfold evaluateTest
  simp only [found]
  split
  · rfl
  · rename_i running
    split
    · rfl
    · rename_i recent
      split
      · rename_i variantA variantB
        split
        · rfl
        · rename_i supported
          refine absurd (AbTest.skipReason_eq_none.mpr ⟨not_not.mp running, recent, ?_, not_not.mp supported⟩) skipped
          simp [variantA, variantB]
      · rfl

/-- Past the checks the test takes what the tool decides. -/
theorem evaluateTest_eq {db : Db} {testId : Uuid} {test : AbTest} {now : Int} (found : db.abTest? testId = some test)
    (passes : test.skipReason now = none) (decision : AbDecision) :
    ∃ a b, test.variantAId = some a ∧ test.variantBId = some b ∧
      ∃ timedOut : Bool, (timedOut = true ↔ ∃ hours ∈ test.maxRuntimeHours, ∃ started ∈ test.startedAt,
          Queue.seconds (3600 * hours) ≤ now - started) ∧
        evaluateTest db testId decision now = db.setAbTest (match decision with
          | .winner armB => { test with
              lastEvaluatedAt := some now, status := .significant, winnerId := some (if armB then b else a) }
          | .undecided =>
            if timedOut then { test with lastEvaluatedAt := some now, status := .inconclusive }
            else { test with lastEvaluatedAt := some now }) := by
  obtain ⟨running, recent, paired, supported⟩ := AbTest.skipReason_eq_none.mp passes
  obtain ⟨a, variantA⟩ := Option.ne_none_iff_exists'.mp fun none => paired (Or.inl none)
  obtain ⟨b, variantB⟩ := Option.ne_none_iff_exists'.mp fun none => paired (Or.inr none)
  refine ⟨a, b, variantA, variantB, ?_⟩
  unfold evaluateTest
  rw [found]
  dsimp only
  rw [if_neg (not_not_intro running), if_neg recent]
  split
  · rename_i x y first second
    cases Option.some.inj (first.symm.trans variantA)
    cases Option.some.inj (second.symm.trans variantB)
    refine ⟨_, ?_, if_neg (not_not_intro supported)⟩
    exact decide_eq_true_iff
  · rename_i single
    exact absurd variantB (single a b variantA)

theorem evaluateTest_judges {db : Db} {testId : Uuid} {test : AbTest} {now : Int}
    (found : db.abTest? testId = some test) (passes : test.skipReason now = none) (decision : AbDecision) :
    ∃ test', test.Judged now test' ∧ evaluateTest db testId decision now = db.setAbTest test' := by
  obtain ⟨a, b, variantA, variantB, timedOut, _, set⟩ := evaluateTest_eq found passes decision
  refine ⟨_, ?_, set⟩
  cases decision with
  | winner armB =>
    refine .significant (if armB then b else a) ?_
    cases armB
    · exact Or.inl variantA
    · exact Or.inr variantB
  | undecided =>
    dsimp only
    split
    · exact .inconclusive
    · exact .undecided

/-- An evaluation is skipped with the table as it was, or finds a running
test whose last evaluation is old enough. -/
theorem evaluateTest_cases (db : Db) (testId : Uuid) (decision : AbDecision) (now : Int) :
    ((evalResult db testId decision now).skipped = true ∧ evaluateTest db testId decision now = db) ∨
    ((evalResult db testId decision now).skipped = false ∧
      ∃ test test', db.abTest? testId = some test ∧ test.status = .running ∧
        (∀ last, test.lastEvaluatedAt = some last → Queue.seconds 900 ≤ now - last) ∧ test.Judged now test' ∧
        evaluateTest db testId decision now = db.setAbTest test') := by
  cases found : db.abTest? testId with
  | none => exact Or.inl ⟨by simp only [evalResult, found], by simp only [evaluateTest, found]⟩
  | some test =>
    cases verdict : test.skipReason now with
    | some reason =>
      exact Or.inl ⟨by simp only [evalResult, found, verdict], evaluateTest_skipped found (by simp [verdict]) decision⟩
    | none =>
      obtain ⟨running, recent, _⟩ := AbTest.skipReason_eq_none.mp verdict
      obtain ⟨test', judged, set⟩ := evaluateTest_judges found verdict decision
      refine Or.inr ⟨by simp only [evalResult, found, verdict], test, test', rfl, running, ?_, judged, set⟩
      intro last stored
      by_contra early
      exact recent ⟨last, stored, by omega⟩

theorem evaluateTest_not_running {db : Db} {testId : Uuid}
    (idle : ∀ test, db.abTest? testId = some test → test.status ≠ .running) (decision : AbDecision) (now : Int) :
    evaluateTest db testId decision now = db := by
  rcases evaluateTest_cases db testId decision now with ⟨_, same⟩ | ⟨_, test, _, found, running, _⟩
  · exact same
  · exact absurd running (idle test found)

theorem TestEffect.evaluate (db : Db) (testId : Uuid) (decision : AbDecision) (now : Int) :
    TestEffect db (.evaluate testId (some decision) now) (evaluateTest db testId decision now).abTests := by
  rcases evaluateTest_cases db testId decision now with ⟨_, same⟩ | ⟨_, test, test', found, running, rested, judged, set⟩
  · rw [same]
    exact .unchanged db _
  · cases Db.abTest?_id found
    have change : test.Change (.evaluate test.id (some decision) now) test' := .evaluate running rested judged
    rw [set, db.setAbTest_abTests change.id_eq]
    exact .sets test test' found change

section Effects

variable [PyText]

theorem seedAbTest_abTests (c : Campaign) (db : Db) (group : Option AbTestSpec × List Uuid) :
    ∃ new, (seedAbTest c db group).abTests = db.abTests ++ new ∧ ∀ test ∈ new, test.Fresh := by
  obtain ⟨spec, ids⟩ := group
  cases spec with
  | none => exact ⟨[], by simp [seedAbTest], by simp⟩
  | some spec =>
    refine ⟨_, foldl_tagAsset_abTests _ _ id ids _, ?_⟩
    intro test member
    rw [List.mem_singleton.mp member]
    exact ⟨rfl, rfl, rfl⟩

theorem foldl_seedAbTest_abTests (c : Campaign) (groups : List (Option AbTestSpec × List Uuid)) (db : Db) :
    ∃ new, (groups.foldl (seedAbTest c) db).abTests = db.abTests ++ new ∧ ∀ test ∈ new, test.Fresh := by
  induction groups generalizing db with
  | nil => exact ⟨[], by simp, by simp⟩
  | cons group groups ih =>
    obtain ⟨first, grown, fresh⟩ := seedAbTest_abTests c db group
    obtain ⟨rest, grown', fresh'⟩ := ih (seedAbTest c db group)
    refine ⟨first ++ rest, by rw [List.foldl_cons, grown', grown, List.append_assoc], fun test member => ?_⟩
    exact (List.mem_append.mp member).elim (fresh test) (fresh' test)

theorem seedAssetsForCampaign_abTests {db db' : Db} {c : Campaign} {now : Int} {ids : List Uuid}
    (done : seedAssetsForCampaign db c now = .ok (db', ids)) :
    ∃ new, db'.abTests = db.abTests ++ new ∧ ∀ test ∈ new, test.Fresh := by
  simp only [seedAssetsForCampaign, bind_eq_ok, pure_eq_ok, Prod.mk.injEq] at done
  obtain ⟨_, _, _, _, _, _, last, queued, rfl, _⟩ := done
  rw [enqueueAll_abTests queued]
  obtain ⟨new, grown, fresh⟩ := foldl_seedAbTest_abTests c (insertGroups _ _).2 (insertGroups _ _).1
  refine ⟨new, grown.trans ?_, fresh⟩
  rw [insertGroups_abTests, ensureAgent_abTests]

theorem createAbTest_abTests {db db' : Db} {user : AppUser} {campaignId : Uuid} {body : CreateAbTestRequest}
    (done : createAbTest db user campaignId body = .ok db') :
    ∃ new, db'.abTests = db.abTests ++ new ∧ ∀ test ∈ new, test.Fresh := by
  obtain ⟨_, _, _, test, _, designing, undecided, unevaluated, _, rfl⟩ := createAbTest_eq_ok done
  refine ⟨[test], foldl_tagAsset_abTests _ _ ContentAsset.id _ _, fun created member => ?_⟩
  rw [List.mem_singleton.mp member]
  exact ⟨designing, undecided, unevaluated⟩

theorem TestEffect.launch {db db' : Db} {user : AppUser} {testId : Uuid} {now : Int}
    (done : launchAbTest db user testId now = .ok db') : TestEffect db (.launch user testId now) db'.abTests := by
  simp only [launchAbTest, bind_eq_ok, require_eq_ok, orRaise_eq_ok, pure_eq_ok] at done
  obtain ⟨_, _, test, found, _, designing, _, _, _, _, rfl⟩ := done
  have here := (Option.filter_eq_some_iff.mp found).1
  cases Db.abTest?_id here
  exact .sets test _ here (.launch designing)

theorem TestEffect.promote {db db' : Db} {user : AppUser} {testId : Uuid}
    (done : promoteAbTest db user testId = .ok db') : TestEffect db (.promote user testId) db'.abTests := by
  simp only [promoteAbTest, bind_eq_ok, require_eq_ok, orRaise_eq_ok, pure_eq_ok] at done
  obtain ⟨_, _, test, found, _, _, winner, _, _, _, rfl⟩ := done
  have here := (Option.filter_eq_some_iff.mp found).1
  cases Db.abTest?_id here
  simp only [Db.setAbTest, foldl_archiveLoser_abTests]
  exact .sets test _ here (.promote _)

theorem TestOp.step_effect (db : Db) (op : TestOp) : TestEffect db op (op.step db).abTests := by
  cases op with
  | create user campaignId body =>
    cases outcome : createAbTest db user campaignId body with
    | error e => simpa [step, outcome, Except.toOption] using .unchanged db _
    | ok db' =>
      obtain ⟨new, grown, fresh⟩ := createAbTest_abTests outcome
      simpa [step, outcome, Except.toOption, grown] using .appends new fresh
  | seed c now =>
    cases outcome : seedAssetsForCampaign db c now with
    | error e => simpa [step, outcome, Except.toOption] using .unchanged db _
    | ok done =>
      obtain ⟨new, grown, fresh⟩ := seedAssetsForCampaign_abTests outcome
      simpa [step, outcome, Except.toOption, grown] using .appends new fresh
  | launch user testId now =>
    cases outcome : launchAbTest db user testId now with
    | error e => simpa [step, outcome, Except.toOption] using .unchanged db _
    | ok db' => simpa [step, outcome, Except.toOption] using .launch outcome
  | stop user testId now =>
    cases outcome : stopAbTest db user testId now with
    | error e => simpa [step, outcome, Except.toOption] using .unchanged db _
    | ok db' => simpa [step, outcome, Except.toOption] using .stop outcome
  | promote user testId =>
    cases outcome : promoteAbTest db user testId with
    | error e => simpa [step, outcome, Except.toOption] using .unchanged db _
    | ok db' => simpa [step, outcome, Except.toOption] using .promote outcome
  | evaluate testId decision now =>
    cases decision with
    | none => exact .unchanged db _
    | some decision => exact .evaluate db testId decision now
  | other edit leaves =>
    simp only [step, leaves]
    exact .unchanged db _

end Effects

theorem AbTest.Judged.evaluated {now : Int} {test test' : AbTest} (judged : test.Judged now test') :
    test'.lastEvaluatedAt = some now := by
  cases judged <;> rfl

namespace TestOp

variable [PyText] {db : Db} {op : TestOp}

omit [PyText] in
/-- The row under the same id after the change of another or of this row. -/
theorem find?_changed {rows : List AbTest} {test test' : AbTest} (same : test'.id = test.id) (id : Uuid) :
    (updateWhere (·.id = test.id) (fun _ => test') rows).find? (·.id = id) =
      (rows.find? (·.id = id)).map fun row => if row.id = test.id then test' else row := by
  rw [find?_updateWhere rows fun row hit => by simp_all]
  simp only [decide_eq_true_eq]

theorem abTest?_step (op : TestOp) {id : Uuid} {test : AbTest} (found : db.abTest? id = some test) :
    ∃ test', (op.step db).abTest? id = some test' ∧ (test' = test ∨ test.Change op test') := by
  have effect := step_effect db op
  unfold Db.abTest? at found ⊢
  generalize (op.step db).abTests = rows at effect ⊢
  cases effect with
  | appends new fresh => exact ⟨test, by rw [List.find?_append, found, Option.some_or], Or.inl rfl⟩
  | sets changed changed' here change =>
    rw [find?_changed change.id_eq, found, Option.map_some]
    by_cases named : test.id = changed.id
    · have same : changed = test := by
        rw [Db.abTest?, ← named, Db.abTest?_id found, found] at here
        exact (Option.some.inj here).symm
      rw [if_pos named]
      exact ⟨changed', rfl, Or.inr (same ▸ change)⟩
    · rw [if_neg named]
      exact ⟨test, rfl, Or.inl rfl⟩

theorem abTest?_step_new {id : Uuid} {test : AbTest} (absent : db.abTest? id = none)
    (found : (op.step db).abTest? id = some test) : test.Fresh := by
  have effect := step_effect db op
  unfold Db.abTest? at absent found
  generalize (op.step db).abTests = rows at effect found
  cases effect with
  | appends new fresh =>
    rw [List.find?_append, absent, Option.none_or] at found
    exact fresh test (List.mem_of_find?_eq_some found)
  | sets changed changed' here change =>
    rw [find?_changed change.id_eq, absent] at found
    cases found

theorem step_verdicts (sound : ∀ test ∈ db.abTests, test.Verdict) : ∀ test ∈ (op.step db).abTests, test.Verdict := by
  have effect := step_effect db op
  generalize (op.step db).abTests = rows at effect
  cases effect with
  | appends new fresh =>
    intro test member
    exact (List.mem_append.mp member).elim (sound test) fun here => (fresh test here).verdict
  | sets changed changed' here change =>
    intro test member
    rcases mem_updateWhere.mp member with ⟨_, _, _, rfl⟩ | ⟨old, _⟩
    · exact change.verdict (sound changed (List.mem_of_find?_eq_some here))
    · exact sound test old

/-- The clock of an evaluation of the test that was not skipped. -/
def effective (db : Db) (id : Uuid) : TestOp → Option Int
  | .evaluate testId (some decision) now =>
    if testId = id ∧ (evalResult db testId decision now).skipped = false then some now else none
  | _ => none

/-- The clocks of the evaluations of the test in a run that were not skipped. -/
def evaluations (id : Uuid) : Db → List TestOp → List Int
  | _, [] => []
  | db, op :: ops => (op.effective db id).toList ++ evaluations id (op.step db) ops

def lastEvaluated (db : Db) (id : Uuid) : Option Int := (db.abTest? id).bind AbTest.lastEvaluatedAt

/-- An evaluation that goes through comes a quarter of an hour after the last
one and leaves its own clock. -/
theorem lastEvaluated_effective {id : Uuid} {now : Int} (here : op.effective db id = some now) :
    (∀ last, lastEvaluated db id = some last → last + Queue.seconds 900 ≤ now) ∧
      lastEvaluated (op.step db) id = some now := by
  unfold effective at here
  split at here
  · rename_i testId decision clock
    split at here
    · rename_i passes
      obtain ⟨rfl, unskipped⟩ := passes
      cases here
      rcases evaluateTest_cases db testId decision now with ⟨skipped, _⟩ | ⟨_, test, test', found, _, rested, judged, set⟩
      · rw [skipped] at unskipped
        cases unskipped
      · have sameId : test'.id = test.id := by cases judged <;> rfl
        refine ⟨fun last stored => ?_, ?_⟩
        · have rest := rested last (by simpa [lastEvaluated, found] using stored)
          omega
        · simp only [step, Option.map_some, Option.getD_some, lastEvaluated, set, Db.abTest?,
            Db.setAbTest_abTests db sameId]
          rw [find?_changed sameId, ← Db.abTest?, found, Option.map_some, if_pos rfl, Option.bind_some]
          exact judged.evaluated
    · cases here
  · cases here

theorem lastEvaluated_ineffective {id : Uuid} (here : op.effective db id = none) :
    lastEvaluated (op.step db) id = lastEvaluated db id := by
  cases found : db.abTest? id with
  | none =>
    cases found' : (op.step db).abTest? id with
    | none => simp only [lastEvaluated, found, found']
    | some test =>
      have unevaluated := (abTest?_step_new found found').evaluated
      simp only [lastEvaluated, found, found', Option.bind_none, Option.bind_some, unevaluated]
  | some test =>
    obtain ⟨test', found', same | change⟩ := abTest?_step op found
    · simp only [lastEvaluated, found, found', same]
    · have kept : test'.lastEvaluatedAt = test.lastEvaluatedAt := by
        cases change with
        | launch => rfl
        | stop => rfl
        | promote => rfl
        | evaluate running rested judged =>
          -- an evaluation that changes the row was not skipped
          rename_i decision now
          cases Db.abTest?_id found
          rcases evaluateTest_cases db test.id decision now with ⟨_, same⟩ | ⟨unskipped, _⟩
          · simp only [step, Option.map_some, Option.getD_some, same] at found'
            rw [found] at found'
            exact congrArg AbTest.lastEvaluatedAt (Option.some.inj found').symm
          · simp [effective, unskipped] at here
      simp only [lastEvaluated, found, found', Option.bind_some, kept]

theorem evaluations_spaced (id : Uuid) (db : Db) (ops : List TestOp) :
    ((lastEvaluated db id).toList ++ evaluations id db ops).IsChain fun a b => a + Queue.seconds 900 ≤ b := by
  induction ops generalizing db with
  | nil =>
    cases lastEvaluated db id <;> simp [evaluations]
  | cons op ops ih =>
    have rest := ih (op.step db)
    unfold evaluations
    cases here : op.effective db id with
    | none =>
      rw [lastEvaluated_ineffective here] at rest
      simpa using rest
    | some now =>
      obtain ⟨spaced, left⟩ := lastEvaluated_effective here
      rw [left] at rest
      cases last : lastEvaluated db id with
      | none => simpa using rest
      | some last' =>
        have first := spaced last' last
        simp only [Option.toList_some, List.cons_append, List.nil_append] at rest ⊢
        exact List.isChain_cons_cons.mpr ⟨first, rest⟩

/-- Over any run that starts without tests: a winner is named exactly by the
significant tests and is one of their variants, a status only makes its
moves, evaluating a test that is not running writes nothing, and the
evaluations that are not skipped lie a quarter of an hour apart. -/
theorem ab_test_lifecycle (db : Db) (start : db.abTests = []) (ops : List TestOp) :
    (∀ test ∈ (run step db ops).abTests,
      (test.winnerId.isSome ↔ test.status = .significant) ∧
      ∀ winner, test.winnerId = some winner → test.variantAId = some winner ∨ test.variantBId = some winner) ∧
    Along step (fun db op => ∀ id,
      (∀ test, db.abTest? id = some test → ∃ test', (op.step db).abTest? id = some test' ∧
        (test'.status = test.status ∨ (test.status, test'.status) ∈ statusMoves)) ∧
      ∀ test, db.abTest? id = none → (op.step db).abTest? id = some test → test.status = .designing) db ops ∧
    Along step (fun db op => ∀ testId decision now, op = .evaluate testId decision now →
      (∀ test, db.abTest? testId = some test → test.status ≠ .running) → op.step db = db) db ops ∧
    ∀ id, (evaluations id db ops).IsChain fun a b => a + Queue.seconds 900 ≤ b := by
  refine ⟨?_, ?_, ?_, ?_⟩
  · have sound : ∀ test ∈ (run step db ops).abTests, test.Verdict :=
      run_invariant (I := fun db : Db => ∀ test ∈ db.abTests, test.Verdict) (by simp [start])
        (fun _ _ sound => step_verdicts sound) ops
    exact fun test member => ⟨(sound test member).named, (sound test member).variant⟩
  · refine Along.of_forall (fun db op id => ⟨fun test found => ?_, fun test absent found => ?_⟩) db ops
    · obtain ⟨test', found', same | change⟩ := abTest?_step op found
      · exact ⟨test', found', Or.inl (congrArg AbTest.status same)⟩
      · exact ⟨test', found', change.moves⟩
    · exact (abTest?_step_new absent found).status
  · refine Along.of_forall (fun db op testId decision now evaluates idle => ?_) db ops
    subst evaluates
    cases decision with
    | none => rfl
    | some decision => exact evaluateTest_not_running idle decision now
  · intro id
    have spaced := evaluations_spaced id db ops
    have unevaluated : lastEvaluated db id = none := by simp [lastEvaluated, Db.abTest?, start]
    simpa [unevaluated] using spaced

end TestOp

namespace TestOp

local instance verdictsText : PyText := PyText.plain

/-- Two approved emails of a campaign. -/
private def approvedPair : Db where
  campaigns := [⟨0, 1, "spring", .live, 100, "EUR", 0, 30, [], none⟩]
  assets := [⟨3, 1, 0, none, .email, .approved, none, none, [], true, none, none⟩,
    ⟨4, 1, 0, none, .email, .approved, none, none, [], true, none, none⟩]
  nextId := 10

private def subjectTest : CreateAbTestRequest where
  name := "subject"
  primaryMetric := "open"
  variantIds := [3, 4]
  trafficSplit := [(3, 50), (4, 50)]
  named := by decide
  measured := by decide
  sized := by decide
  keys := by decide
  minBounded := by simp
  maxBounded := by simp

private def judged : List TestOp :=
  [.create ⟨7, 1, .manager⟩ 0 subjectTest, .launch ⟨7, 1, .manager⟩ 10 0, .evaluate 10 (some .undecided) 1000,
    .evaluate 10 (some (.winner false)) 2000, .evaluate 10 (some (.winner true)) 900001000]

/-- The second evaluation comes too early and is skipped, the third names the winner. -/
theorem ab_test_lifecycle_judged :
    ((run step approvedPair judged).abTests.map fun test => (test.status, test.winnerId)) = [(.significant, some 4)] ∧
      evaluations 10 approvedPair judged = [1000, 900001000] ∧
      (∀ test ∈ (run step approvedPair judged).abTests, test.winnerId.isSome ↔ test.status = .significant) ∧
      (evaluations 10 approvedPair judged).IsChain fun a b => a + Queue.seconds 900 ≤ b := by
  obtain ⟨sound, _, _, spaced⟩ := ab_test_lifecycle approvedPair rfl judged
  exact ⟨by decide +kernel, by decide +kernel, fun test member => (sound test member).1, spaced 10⟩

end TestOp

end MarketingAgents
