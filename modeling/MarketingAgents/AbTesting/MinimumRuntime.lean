import MarketingAgents.AbTesting.Verdicts

namespace MarketingAgents

open Lib PyText

/-- The test had its minimum runtime by `now`, or has none. -/
def AbTest.Ripe (test : AbTest) (now : Int) : Prop :=
  ∀ hours, test.minRuntimeHours = some hours → ∀ started, test.startedAt = some started →
    started + Queue.seconds (3600 * hours) ≤ now

instance AbTest.decidableRipe (test : AbTest) (now : Int) : Decidable (test.Ripe now) :=
  decidable_of_iff (∀ hours ∈ test.minRuntimeHours, ∀ started ∈ test.startedAt,
    started + Queue.seconds (3600 * hours) ≤ now) Iff.rfl

/-- An evaluation that goes past its checks makes the test significant exactly when the tool finds a winner. -/
theorem evaluateTest_settles {db : Db} {testId : Uuid} {test : AbTest} {now : Int}
    (found : db.abTest? testId = some test) (passes : test.skipReason now = none) (decision : AbDecision) :
    ∃ test', evaluateTest db testId decision now = db.setAbTest test' ∧ test'.id = test.id ∧
      (test'.status = .significant ↔ decision ≠ .undecided) := by
  have running : test.status = .running := (AbTest.skipReason_eq_none.mp passes).1
  obtain ⟨a, b, _, _, timedOut, _, set⟩ := evaluateTest_eq found passes decision
  refine ⟨_, set, ?_⟩
  cases decision with
  | winner armB => exact ⟨rfl, by simp⟩
  | undecided =>
    dsimp only
    split
    · exact ⟨rfl, by simp⟩
    · exact ⟨rfl, by simp [running]⟩

theorem Db.abTest?_setAbTest {db : Db} {id : Uuid} {test test' : AbTest} (found : db.abTest? id = some test)
    (same : test'.id = test.id) : (db.setAbTest test').abTest? id = some test' := by
  have here := Db.abTest?_id found
  rw [Db.abTest?, Db.setAbTest_abTests db same, TestOp.find?_changed same, ← Db.abTest?, found, Option.map_some, if_pos rfl]

namespace TestOp

variable [PyText]

/-- The step moves no test to significant by an evaluation that comes before
the start of the test plus its minimum runtime. -/
def Honoured (db : Db) (op : TestOp) : Prop :=
  ∀ testId decision now, op = .evaluate testId decision now → ∀ test test', db.abTest? testId = some test →
    (op.step db).abTest? testId = some test' → test.status ≠ .significant → test'.status = .significant →
      test.Ripe now

omit [PyText] in
/-- When the step is an evaluation that goes past the checks of the evaluator and
whose samples have a winner, the test had its minimum runtime. -/
def Waits (db : Db) (op : TestOp) : Prop :=
  ∀ testId armB now, op = .evaluate testId (some (.winner armB)) now → ∀ test, db.abTest? testId = some test →
    test.skipReason now = none → test.Ripe now

theorem honoured_iff_waits (db : Db) (op : TestOp) : Honoured db op ↔ Waits db op := by
  constructor
  · rintro honoured testId armB now rfl test found passes
    obtain ⟨test', judged, same, significant⟩ := evaluateTest_settles found passes (.winner armB)
    have running := (AbTest.skipReason_eq_none.mp passes).1
    refine honoured testId _ now rfl test test' found ?_ (by simp [running]) (significant.mpr (by simp))
    simp only [step, Option.map_some, Option.getD_some, judged]
    exact Db.abTest?_setAbTest found same
  · rintro waits testId decision now rfl test test' found found' before after
    have kept : decision = none ∨ (∃ d, decision = some d ∧ test.skipReason now ≠ none) → test' = test := by
      intro idle
      have unmoved : step db (.evaluate testId decision now) = db := by
        rcases idle with rfl | ⟨d, rfl, skipped⟩
        · rfl
        · exact evaluateTest_skipped found skipped d
      rw [unmoved, found] at found'
      exact (Option.some.inj found').symm
    cases decision with
    | none => exact absurd (kept (Or.inl rfl) ▸ after) before
    | some d =>
      cases passes : test.skipReason now with
      | some reason => exact absurd (kept (Or.inr ⟨d, rfl, by simp [passes]⟩) ▸ after) before
      | none =>
        obtain ⟨judged, set, same, significant⟩ := evaluateTest_settles found passes d
        have result : (step db (.evaluate testId (some d) now)).abTest? testId = some judged := by
          simp only [step, Option.map_some, Option.getD_some, set]
          exact Db.abTest?_setAbTest found same
        cases Option.some.inj (result.symm.trans found')
        cases d with
        | undecided => exact absurd rfl (significant.mp after)
        | winner armB => exact waits testId armB now rfl test found passes

/-- The minimum runtime is honoured in exactly the runs in which no early evaluation
finds a winner: the evaluator does not read it. Whether a test names a winner is
decided by its samples alone, however little time they have had. -/
theorem minimum_runtime_iff (db : Db) (ops : List TestOp) : Along step Honoured db ops ↔ Along step Waits db ops :=
  along_congr (I := fun _ => True) trivial (fun _ _ _ => trivial) fun db op _ => honoured_iff_waits db op

end TestOp

namespace MinimumRuntime

local instance runtimeText : PyText := PyText.plain

def approvedPair : Db where
  campaigns := [⟨0, 1, "spring", .live, 100, "EUR", 0, 30, [], none⟩]
  assets := [⟨5, 1, 0, none, .email, .approved, none, none, [], true, none, none⟩,
    ⟨6, 1, 0, none, .email, .approved, none, none, [], true, none, none⟩]
  nextId := 10

/-- A test that is to run for two days at least, and for twenty at most. -/
def twoDays : CreateAbTestRequest where
  name := "footer"
  primaryMetric := "reply"
  variantIds := [5, 6]
  trafficSplit := [(5, 50), (6, 50)]
  minRuntimeHours := some 48
  maxRuntimeHours := some 480
  named := by decide
  measured := by decide
  sized := by decide
  keys := by decide
  minBounded := by simp
  maxBounded := by simp

def launched : List TestOp := [.create ⟨7, 1, .marketer⟩ 0 twoDays, .launch ⟨7, 1, .marketer⟩ 10 0]

/-- A quarter of an hour after the launch the samples have a winner. -/
def earlyWinner : TestOp := .evaluate 10 (some (.winner true)) 900000000

/-- The test as it runs by then. -/
def twoDaysTest : AbTest where
  id := 10
  tenantId := 1
  campaignId := 0
  name := "footer"
  hypothesis := none
  primaryMetric := "reply"
  status := .running
  variantAId := some 5
  variantBId := some 6
  trafficSplit := .obj [("11111", .int 50), ("111111", .int 50)]
  minRuntimeHours := some 48
  maxRuntimeHours := some 480
  startedAt := some 0

/-- The test is to run two days, and the first pass, a quarter of an hour after
its launch, names the winner. -/
theorem early_winner_breaks_minimum : ¬ Along TestOp.step TestOp.Honoured approvedPair (launched ++ [earlyWinner]) := by
  intro honoured
  have last : TestOp.Honoured (run TestOp.step approvedPair launched) earlyWinner := (along_append.mp honoured).2.1
  have found : (run TestOp.step approvedPair launched).abTest? 10 = some twoDaysTest := by decide +kernel
  have ripe := (TestOp.honoured_iff_waits _ _).mp last 10 true 900000000 rfl twoDaysTest found (by decide)
  revert ripe
  decide +kernel

end MinimumRuntime

end MarketingAgents
