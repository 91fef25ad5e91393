import MarketingAgents.AbTesting.Picks
import MarketingAgents.Agents.EmailHandover
import MarketingAgents.Content.Touches

namespace MarketingAgents

open Lib PyText

section Filter

variable [PyText] {db : Db} {test : AbTest} {a : ContentAsset} {externalId : String}

/-- The asset carries the id of the test. -/
def ContentAsset.LinkedTo (a : ContentAsset) (test : AbTest) : Prop :=
  a.tenantId = test.tenantId ∧ a.extraMetadata.get? "ab_test_group_id" = some (.str (uuidStr test.id))

instance (a : ContentAsset) (test : AbTest) : Decidable (a.LinkedTo test) :=
  inferInstanceAs (Decidable (a.tenantId = test.tenantId ∧
    a.extraMetadata.get? "ab_test_group_id" = some (.str (uuidStr test.id))))

/-- Of some audience, the filter leaves the recipient to the asset. -/
def Keeps (db : Db) (a : ContentAsset) (externalId : String) : Prop :=
  ∃ members kept inserted, filterAudienceForAbTest db a members = .ok (kept, inserted) ∧
    ∃ m ∈ kept, m.externalId = externalId

theorem runningAbTestForAsset_linked (ids : (db.abTests.map AbTest.id).Nodup) (here : test ∈ db.abTests)
    (running : test.status = .running) (linked : a.LinkedTo test) : runningAbTestForAsset db a = some test := by
  have found : db.abTests.find? (fun other => other.id = test.id ∧ other.status = .running) = some test :=
    find?_of_key AbTest.id ids here (by simp [running]) (by simp +contextual)
  unfold runningAbTestForAsset
  rw [linked.2]
  simp only [uuidOf_uuidStr, found]

theorem Keeps.pick (keeps : Keeps db a externalId) (holds : EarnedRows db) (here : test ∈ db.abTests)
    (running : test.status = .running) (linked : a.LinkedTo test) (named : externalId ≠ "") (splits : test.Splits) :
    test.pick externalId = .ok a.id := by
  obtain ⟨members, kept, inserted, filtered, m, member, rfl⟩ := keeps
  unfold filterAudienceForAbTest at filtered
  rw [runningAbTestForAsset_linked holds.ids here running linked] at filtered
  exact (keepAssigned_kept holds.ids here running (by simpa using holds.rows) filtered).2 m member named linked.1.symm splits

/-- Under a misconfigured test every variant keeps everybody. -/
theorem keeps_of_unsplit (holds : EarnedRows db) (here : test ∈ db.abTests) (running : test.status = .running)
    (linked : a.LinkedTo test) (unsplit : ¬ test.Splits) (externalId : String) : Keeps db a externalId := by
  let m : AudienceMember := { audienceId := 0, externalId := externalId, payload := [] }
  refine ⟨[m], [m], [], ?_, m, List.mem_cons_self .., rfl⟩
  unfold filterAudienceForAbTest
  rw [runningAbTestForAsset_linked holds.ids here running linked]
  exact keepAssigned_unsplit holds.ids here running linked.1.symm (by simpa using holds.rows) unsplit [m]

end Filter

namespace Recipients

open Sample

/-- A strategy with one email, to be tested in two variants. -/
def tested : Db where
  proposals := [⟨50, 0, 1, [("ab_tests", .arr [.obj [("channel", .str "email")]])], true⟩]
  touchpoints := [⟨51, 50, "email", 0, 0⟩]

/-- A strategy with two emails, of a tenant that mails. -/
def twoEmails : Db where
  proposals := [⟨50, 0, 1, [], true⟩]
  touchpoints := [⟨51, 50, "email", 0, 0⟩, ⟨52, 50, "email", 0, 1⟩]
  credentials := [⟨1, none, "sendgrid", [("api_key", .str "key"), ("default_from_email", .str "news@shop.io")]⟩]

/-- The campaign for one member is launched with its two emails, the assets 3 and 4. -/
def scheduledPair : List (Op × Int) :=
  [(.createCampaign manager launch, 0),
    (.assistant manager (.synthesiseAudience 0 [("ann", [("email", .str "ann@mail.io")])]), 1),
    (.applyTransition manager .manager 0 "set_strategy", 2),
    (.assistant manager (.generateContent true 0 true [draft [], draft []]), 3),
    (.assistant manager (.approveAllContent 0 true), 4)]

/-- Of ten recipients six get asset 3 and four asset 4, on average. -/
def offerTest : CreateAbTestRequest where
  name := "offer"
  primaryMetric := "click"
  variantIds := [4, 3]
  trafficSplit := [(3, 60), (4, 40)]
  minRuntimeHours := some 24
  maxRuntimeHours := some 240
  named := by decide
  measured := by decide
  sized := by decide
  keys := by decide
  minBounded := by simp
  maxBounded := by simp

/-- The two emails become a test, number 10, that is launched. -/
def runningTest : List (Op × Int) :=
  scheduledPair ++ [(.createAbTest manager 0 offerTest, 5), (.launchAbTest manager 10, 6)]

def ann : AudienceMember := ⟨60, "ann", []⟩

/-- The dispatch of an email, which the provider accepts. -/
def mail (assetId : Uuid) : Op := .dispatchEmailAsset "secret" assetId (.response 202 "" "m1") 90

end Recipients

section Runs

variable [PyText] {db : Db}

/-- While a test runs, two of its variants never keep the same recipient,
whenever and in whichever order they go out, if and only if its split has a
weight that counts: the split `create_ab_test` stores has one, the empty split
of a seeded test does not. -/
theorem kept_for_one_variant_iff (fresh : db.Fresh) (tests : db.abTests = []) (rows : db.abTestAssignments = [])
    (ops later : List (Op × Int)) :
    let s := Lib.run Content.step db ops
    let s' := Lib.run Content.step s later
    ∀ test ∈ s.abTests, test.status = .running → ∀ test' ∈ s'.abTests, test'.id = test.id → test'.status = .running →
    ∀ a ∈ s.assets, ∀ b ∈ s'.assets, a.LinkedTo test → b.LinkedTo test → a.id ≠ b.id →
      ((∀ externalId, externalId ≠ "" → ¬ (Keeps s a externalId ∧ Keeps s' b externalId)) ↔ test.Splits) := by
  intro s s' test here running test' there sameId running' a _ b _ aLinked bLinked different
  obtain ⟨wf, earned, _⟩ := run_earned fresh.wf (.start tests rows) ops
  obtain ⟨_, earned', progress⟩ := run_earned wf earned later
  obtain ⟨new, after, moved⟩ := progress.tests test here
  have equal : new = test' := eq_of_key_eq earned'.ids after there (moved.id.trans sameId.symm)
  subst equal
  obtain ⟨_, split⟩ := moved.running (by simp [running]) running'
  have bLinked' : b.LinkedTo new := ⟨bLinked.1.trans moved.tenantId.symm, sameId ▸ bLinked.2⟩
  have sameSplits : new.Splits ↔ test.Splits := by
    unfold AbTest.Splits
    rw [split]
  have samePick : ∀ externalId, new.pick externalId = test.pick externalId := fun externalId => by
    unfold AbTest.pick
    rw [split, moved.id]
  constructor
  · intro apart
    by_contra unsplit
    exact apart "recipient" (by decide) ⟨keeps_of_unsplit earned here running aLinked unsplit _,
      keeps_of_unsplit earned' there running' bLinked' (mt sameSplits.mp unsplit) _⟩
  · rintro splits externalId named ⟨first, last⟩
    have mine := first.pick earned here running aLinked named splits
    have other := last.pick earned' there running' bLinked' named (sameSplits.mpr splits)
    rw [samePick, mine] at other
    exact different (Except.ok.inj other)

end Runs

namespace Recipients

local instance disjointText : PyText := PyText.plain

open Sample

/-- The seeded test is launched with an empty split, and both variants keep everybody. -/
theorem seeded_test_keeps_everybody :
    let s := Lib.run Content.step tested (scheduledPair ++ [(.launchAbTest manager 5, 5)])
    tested.Fresh ∧ ∃ test ∈ s.abTests, test.status = .running ∧ ∃ a ∈ s.assets, ∃ b ∈ s.assets, a.id ≠ b.id ∧
      test.variantAId = some a.id ∧ test.variantBId = some b.id ∧ Keeps s a "ann" ∧ Keeps s b "ann" := by
  intro s
  have reached : (∀ a ∈ s.assets, filterAudienceForAbTest s a [ann] = .ok ([ann], [])) ∧
      ∃ test ∈ s.abTests, test.status = .running ∧ ∃ a ∈ s.assets, ∃ b ∈ s.assets, a.id ≠ b.id ∧
        test.variantAId = some a.id ∧ test.variantBId = some b.id := by
    decide +kernel
  obtain ⟨whole, test, here, running, a, aMember, b, bMember, different, first, second⟩ := reached
  exact ⟨⟨rfl, rfl, rfl, rfl⟩, test, here, running, a, aMember, b, bMember, different, first, second,
    ⟨[ann], [ann], [], whole a aMember, ann, List.mem_cons_self .., rfl⟩,
    ⟨[ann], [ann], [], whole b bMember, ann, List.mem_cons_self .., rfl⟩⟩

/-- The created test goes on running after its first dispatch, and no recipient is kept for both emails. -/
theorem kept_for_one_variant_iff_created :
    let s := Lib.run Content.step twoEmails runningTest
    let s' := Lib.run Content.step s [(mail 3, 7)]
    ∃ test ∈ s.abTests, ∃ a ∈ s.assets, ∃ b ∈ s'.assets, a.id ≠ b.id ∧ Keeps s a "ann" ∧
      ∀ externalId, externalId ≠ "" → ¬ (Keeps s a externalId ∧ Keeps s' b externalId) := by
  intro s s'
  have reached : (∃ test ∈ s.abTests, test.status = .running ∧ test.id = 10 ∧ test.tenantId = 1 ∧
      test.trafficSplit = .obj [("111", .int 60), ("1111", .int 40)] ∧ ∃ a ∈ s.assets, a.id = 3 ∧ a.tenantId = 1 ∧
        a.extraMetadata.get? "ab_test_group_id" = some (.str (uuidStr 10)) ∧
        filterAudienceForAbTest s a [ann] = .ok ([ann], [⟨1, 10, "ann", 3⟩])) ∧
      ∃ test ∈ s'.abTests, test.status = .running ∧ test.id = 10 ∧ ∃ b ∈ s'.assets, b.id = 4 ∧ b.tenantId = 1 ∧
        b.extraMetadata.get? "ab_test_group_id" = some (.str (uuidStr 10)) := by
    decide +kernel
  obtain ⟨first, test', there, running', id', b, bMember, bId, bTenant, bLink⟩ := reached
  obtain ⟨test, here, running, id, tenant, split, a, aMember, aId, aTenant, aLink, kept⟩ := first
  have different : a.id ≠ b.id := by rw [aId, bId]; decide
  have fresh : twoEmails.Fresh := ⟨rfl, rfl, rfl, rfl⟩
  have apart := kept_for_one_variant_iff fresh rfl rfl runningTest [(mail 3, 7)] test here running test' there
    (id'.trans id.symm) running' a aMember b bMember ⟨aTenant.trans tenant.symm, id.symm ▸ aLink⟩
    ⟨bTenant.trans tenant.symm, id.symm ▸ bLink⟩ different
  have splits : test.Splits := ⟨[("111", 60), ("1111", 40)], split ▸ rfl, by decide⟩
  exact ⟨test, here, a, aMember, b, bMember, different, ⟨[ann], [ann], _, kept, ann, List.mem_cons_self .., rfl⟩,
    apart.mpr splits⟩

end Recipients

section Sticky

variable [PyText] {db : Db} {now : Int}

/-- The asset is one of the variants of the test. -/
def ContentAsset.VariantOf (a : ContentAsset) (test : AbTest) : Prop :=
  a.LinkedTo test ∨ test.variantAId = some a.id ∨ test.variantBId = some a.id

instance (a : ContentAsset) (test : AbTest) : Decidable (a.VariantOf test) :=
  inferInstanceAs (Decidable (a.LinkedTo test ∨ test.variantAId = some a.id ∨ test.variantBId = some a.id))

/-- The email the operation dispatches. -/
def Op.dispatched (db : Db) : Op → Option ContentAsset
  | .dispatchEmailAsset _ assetId _ _ => db.asset? assetId
  | _ => none

/-- The addresses that the operation passes to the email provider. -/
def Op.passed (db : Db) (now : Int) : Op → List String
  | .dispatchEmailAsset secret assetId answer batchId =>
    match beginEmail db secret assetId now with
    | .ok (some plan) =>
      (callEmail db plan answer batchId).toList.flatMap fun outcome => outcome.handed.map EmailRecipient.email
    | _ => []
  | _ => []

/-- The recipient has the address in an audience of the campaign. -/
def Reached (db : Db) (campaignId : Uuid) (externalId address : String) : Prop :=
  ∃ m ∈ db.audienceMembers, m.externalId = externalId ∧ memberEmail m = address ∧
    ∃ audience ∈ db.audiences, audience.id = m.audienceId ∧ audience.campaignId = campaignId

instance (db : Db) (campaignId : Uuid) (externalId address : String) : Decidable (Reached db campaignId externalId address) :=
  inferInstanceAs (Decidable (∃ m ∈ db.audienceMembers, m.externalId = externalId ∧ memberEmail m = address ∧
    ∃ audience ∈ db.audiences, audience.id = m.audienceId ∧ audience.campaignId = campaignId))

/-- A dispatch of another variant meets an address of the recipient only while
the test runs, the variant still linked to it, and under the id of the recipient. -/
def InTest (row : AbTestAssignment) (db : Db) (op : Op × Int) : Prop :=
  ∀ test ∈ db.abTest? row.abTestId, ∀ a ∈ op.1.dispatched db, a.VariantOf test → a.id ≠ row.variantId →
    ∀ m ∈ loadAudienceMembers db a.campaignId, memberEmail m ≠ "" →
      Reached db a.campaignId row.audienceExternalId (memberEmail m) →
      test.status = .running ∧ a.LinkedTo test ∧ m.externalId = row.audienceExternalId

/-- No dispatch of another variant passes an address of the recipient. -/
def Stays (row : AbTestAssignment) (db : Db) (op : Op × Int) : Prop :=
  ∀ test ∈ db.abTest? row.abTestId, ∀ a ∈ op.1.dispatched db, a.VariantOf test → a.id ≠ row.variantId →
    ∀ address ∈ op.1.passed db op.2, ¬ Reached db a.campaignId row.audienceExternalId address

instance (row : AbTestAssignment) (db : Db) (op : Op × Int) : Decidable (InTest row db op) :=
  inferInstanceAs (Decidable (∀ test ∈ db.abTest? row.abTestId, ∀ a ∈ op.1.dispatched db, a.VariantOf test →
    a.id ≠ row.variantId → ∀ m ∈ loadAudienceMembers db a.campaignId, memberEmail m ≠ "" →
      Reached db a.campaignId row.audienceExternalId (memberEmail m) →
      test.status = .running ∧ a.LinkedTo test ∧ m.externalId = row.audienceExternalId))

instance (row : AbTestAssignment) (db : Db) (op : Op × Int) : Decidable (Stays row db op) :=
  inferInstanceAs (Decidable (∀ test ∈ db.abTest? row.abTestId, ∀ a ∈ op.1.dispatched db, a.VariantOf test →
    a.id ≠ row.variantId → ∀ address ∈ op.1.passed db op.2, ¬ Reached db a.campaignId row.audienceExternalId address))

theorem callEmail_handed {plan : EmailPlan} {secret : String} {a : ContentAsset} {c : Campaign}
    (planned : planEmail db secret a c now = .ok plan) {answer : SendgridResponse} {batchId : Uuid}
    {outcome : DispatchOutcome} (called : callEmail db plan answer batchId = some outcome) {address : String}
    (passed : address ∈ outcome.handed.map EmailRecipient.email) :
    ∃ kept inserted, filterAudienceForAbTest db a (loadAudienceMembers db a.campaignId) = .ok (kept, inserted) ∧
      ∃ m ∈ kept, memberEmail m = address ∧ address ≠ "" := by
  simp only [planEmail, bind_eq_ok, pure_eq_ok] at planned
  obtain ⟨_, _, _, _, ⟨members, assignments⟩, filtered, _, _, _, _, _, _, _, _, rfl⟩ := planned
  refine ⟨members, assignments, mapError_eq_ok.mp filtered, ?_⟩
  unfold callEmail at called
  split at called
  · simp at called
  · rw [← Option.some.inj called] at passed
    have batch := (call_handed_sublist rfl).subset passed
    rw [batchEmails_audience] at batch
    obtain ⟨entry, listed, rfl⟩ := List.mem_map.mp batch
    obtain ⟨paired, sends⟩ := List.mem_filter.mp listed
    obtain ⟨m, member, rfl⟩ := List.mem_map.mp paired
    have same : normalised (memberEmail m) = memberEmail m := normalised_normalised _
    refine ⟨m, member, same.symm, fun empty => ?_⟩
    rw [same] at empty
    simp [triage, empty] at sends

theorem Op.passed_kept {op : Op} {a : ContentAsset} (dispatched : op.dispatched db = some a) {address : String}
    (passed : address ∈ op.passed db now) :
    ∃ kept inserted, filterAudienceForAbTest db a (loadAudienceMembers db a.campaignId) = .ok (kept, inserted) ∧
      ∃ m ∈ kept, memberEmail m = address ∧ address ≠ "" := by
  cases op with
  | dispatchEmailAsset secret assetId answer batchId =>
    unfold Op.passed at passed
    dsimp only at passed
    split at passed
    · rename_i plan begun
      obtain ⟨outcome, called, listed⟩ := List.mem_flatMap.mp passed
      simp only [beginEmail, bind_eq_ok, orRaise_eq_ok, require_eq_ok] at begun
      obtain ⟨loaded, found, _, _, c, _, begun⟩ := begun
      have same : loaded = a := Option.some.inj (found.symm.trans dispatched)
      subst same
      split at begun
      · simp at begun
      · simp only [bind_eq_ok, require_eq_ok, pure_eq_ok, Option.some.injEq] at begun
        obtain ⟨_, _, plan, planned, rfl⟩ := begun
        exact callEmail_handed planned (Option.mem_toList.mp called) listed
    · simp at passed
  | _ => simp [Op.dispatched] at dispatched

/-- Under a running test the dispatch of another variant leaves the recipient of a row out. -/
theorem EarnedRows.stays (holds : EarnedRows db) {row : AbTestAssignment} (stored : row ∈ db.abTestAssignments)
    {op : Op × Int} (inTest : InTest row db op) : Stays row db op := by
  intro test found a dispatched variant other address passed reached
  obtain ⟨kept, inserted, filtered, m, member, rfl, addressed⟩ := Op.passed_kept dispatched passed
  have listed := (filterAudienceForAbTest_sublist filtered).subset member
  obtain ⟨running, linked, sameId⟩ := inTest test found a dispatched variant other m listed addressed reached
  have here := List.mem_of_find?_eq_some found
  have named : test.id = row.abTestId := by simpa using List.find?_some found
  have earned := holds.rows row stored
  have assigned := earned.pick holds.ids here running named.symm
  have splits : test.Splits := by
    by_contra unsplit
    obtain ⟨message, failed⟩ := AbTest.pick_unsplit unsplit row.audienceExternalId
    rw [failed] at assigned
    cases assigned
  have keeps : Keeps db a row.audienceExternalId := ⟨_, kept, inserted, filtered, m, member, sameId⟩
  have picked := keeps.pick holds here running linked earned.1 splits
  rw [assigned] at picked
  exact other (Except.ok.inj picked).symm

/-- Once a recipient of a test is assigned, the assignment stays, and where
the dispatches of other variants happen in the test, none of them passes an
address of the recipient to the provider. -/
theorem assigned_recipients_stay (fresh : db.Fresh) (tests : db.abTests = []) (rows : db.abTestAssignments = [])
    (ops later : List (Op × Int)) :
    let s := Lib.run Content.step db ops
    ∀ row ∈ s.abTestAssignments, Along Content.step (InTest row) s later →
      Along Content.step (fun s op => row ∈ s.abTestAssignments ∧ Stays row s op) s later := by
  intro s row stored inTest
  obtain ⟨wf, earned, _⟩ := run_earned fresh.wf (.start tests rows) ops
  refine inTest.imp (I := fun s => s.Wf ∧ EarnedRows s ∧ row ∈ s.abTestAssignments) ⟨wf, earned, stored⟩ ?_ ?_
  · intro mid op ⟨midWf, midEarned, here⟩ _
    obtain ⟨wf', earned', progress⟩ := run_earned midWf midEarned [op]
    exact ⟨wf', earned', progress.rows here⟩
  · intro mid op ⟨_, midEarned, here⟩ permitted
    exact ⟨here, midEarned.stays here permitted⟩

end Sticky

namespace Recipients

local instance stickyText : PyText := PyText.plain

open Sample

/-- Ann is assigned to the first email and gets it. The test is stopped, and
two days later the second email goes to her as well. -/
theorem stopped_test_sends_both_variants :
    let s := Lib.run Content.step twoEmails (runningTest ++ [(mail 3, 7)])
    twoEmails.Fresh ∧ ∃ row ∈ s.abTestAssignments, ¬ Along Content.step (fun s op => Stays row s op) s
      [(.stopAbTest manager 10, 8), (mail 4, 200000000000)] :=
  ⟨⟨rfl, rfl, rfl, rfl⟩, by decide +kernel⟩

/-- With the test still running the second email does not go to her. -/
theorem assigned_recipients_stay_running :
    let s := Lib.run Content.step twoEmails (runningTest ++ [(mail 3, 7)])
    (mail 3).passed (Lib.run Content.step twoEmails runningTest) 7 = ["ann@mail.io"] ∧
      Along Content.step (fun s op => ⟨1, 10, "ann", 3⟩ ∈ s.abTestAssignments ∧ Stays ⟨1, 10, "ann", 3⟩ s op) s
        [(mail 4, 200000000000)] := by
  intro s
  have fresh : twoEmails.Fresh := ⟨rfl, rfl, rfl, rfl⟩
  have passed : (mail 3).passed (Lib.run Content.step twoEmails runningTest) 7 = ["ann@mail.io"] := by decide +kernel
  have reached : ⟨1, 10, "ann", 3⟩ ∈ s.abTestAssignments ∧
      Along Content.step (InTest ⟨1, 10, "ann", 3⟩) s [(mail 4, 200000000000)] := by
    decide +kernel
  exact ⟨passed, assigned_recipients_stay fresh rfl rfl (runningTest ++ [(mail 3, 7)]) [(mail 4, 200000000000)]
    ⟨1, 10, "ann", 3⟩ reached.1 reached.2⟩

end Recipients

end MarketingAgents
