import MarketingAgents.AbTesting.Recipients
import MarketingAgents.Content.Compliance
import MarketingAgents.Content.ReviewFlags

namespace MarketingAgents

open Lib PyText

/-- The hits of the compliance result that the generation recorded. -/
def recordedHits (a : ContentAsset) : List Json :=
  match (complianceOf a.extraMetadata).bind fun compliance => Dict.get? compliance "hits" with
  | some (.arr hits) => hits
  | _ => []

/-- The test has a winner, and the check of the winner's draft found something. -/
structure FlaggedWinner (db : Db) (user : AppUser) (test : AbTest) (winner : ContentAsset) : Prop where
  found : db.tenantAbTest? user test.id = some test
  significant : test.status = .significant
  named : test.winnerId = some winner.id
  stored : db.tenantAsset? user winner.id = some winner
  hits : recordedHits winner ≠ []

section Promotion

variable [PyText] {db : Db}

/-- In no reachable state is a marketer kept from promoting a flagged winner: the
guard reads a key that nothing writes. The invariant is that no
asset has this key in its metadata. -/
theorem promoteAbTest_unguarded (fresh : db.Fresh) (ops : List (Op × Int)) {user : AppUser}
    (marketer : user.role = .marketer) {test : AbTest} {winner : ContentAsset}
    (flagged : FlaggedWinner (Lib.run Content.step db ops) user test winner) :
    ∃ db', promoteAbTest (Lib.run Content.step db ops) user test.id = .ok db' ∧
      (db'.abTest? test.id).map AbTest.trafficSplit = some (.obj [(uuidStr winner.id, .int 100)]) := by
  have clean : Unflagged (Lib.run Content.step db ops) := run_unflagged fresh ops
  generalize Lib.run Content.step db ops = s at flagged clean
  have unread : winner.extraMetadata.get? "compliance_violations" = none := clean.tenantAsset? flagged.stored
  have named : test.winnerId.filter (fun _ => test.status = .significant) = some winner.id := by
    rw [flagged.named, flagged.significant]
    rfl
  have archived : ((variantsOrPair s user test).foldl (archiveLoser winner.id) s).abTests = s.abTests :=
    (archiveLosers_keep winner.id (variantsOrPair s user test) s).2
  have promoted : promoteAbTest s user test.id =
      .ok (((variantsOrPair s user test).foldl (archiveLoser winner.id) s).setAbTest
        { test with trafficSplit := .obj [(uuidStr winner.id, .int 100)] }) := by
    simp only [promoteAbTest, bind_eq_ok, require_eq_ok, orRaise_eq_ok, pure_eq_ok]
    refine ⟨(), by rw [marketer], test, flagged.found, winner.id, named, winner, flagged.stored, (), Or.inl ?_, rfl⟩
    rw [unread]
    rfl
  refine ⟨_, promoted, ?_⟩
  have here : s.abTest? test.id = some test := (Option.filter_eq_some_iff.mp flagged.found).1
  simp only [Db.abTest?, Db.setAbTest, archived]
  have changed := @TestOp.find?_changed s.abTests test
    { test with trafficSplit := .obj [(uuidStr winner.id, .int 100)] } rfl test.id
  rw [changed, ← Db.abTest?, here]
  simp

end Promotion

namespace Promotion

local instance promotionText : PyText := PyText.plain

open Sample Recipients

def marketer : AppUser := ⟨8, 1, .marketer⟩

/-- The first of the two emails is blocked by its check, a manager clears the
block and approves both. -/
def clearedPair : List (Op × Int) :=
  [(.createCampaign manager launch, 0),
    (.assistant manager (.synthesiseAudience 0 [("ann", [("email", .str "ann@mail.io")])]), 1),
    (.applyTransition manager .manager 0 "set_strategy", 2),
    (.applyTransition manager .manager 0 "start_content", 3),
    (.generateAsset 3 (Compliance.flagged "block"), 4),
    (.generateAsset 4 (draft []), 5),
    (.clearComplianceBlock manager 3, 6),
    (.applyTransition manager .manager 0 "submit_for_approval", 7),
    (.approveAsset manager 3 {}, 8),
    (.approveAsset manager 4 {}, 9)]

/-- Their test finds the first email better. -/
def flaggedTest : List (Op × Int) :=
  clearedPair ++ [(.createAbTest manager 0 offerTest, 10), (.launchAbTest manager 12, 11),
    (.evaluateTest 12 (.winner true), 12)]

/-- The compliance check has recorded a hit on the winner, and a marketer promotes
it all the same: the loser is archived and the split is all the winner's. -/
theorem marketer_promotes_flagged_winner :
    let s := Lib.run Content.step twoEmails flaggedTest
    twoEmails.Fresh ∧ marketer.role = .marketer ∧
      (∃ test ∈ s.abTests, test.id = 12 ∧ test.status = .significant ∧ test.winnerId = some 3) ∧
      (∃ winner ∈ s.assets, winner.id = 3 ∧ winner.status = .scheduled ∧ recordedHits winner ≠ []) ∧
      ∃ db' ∈ (promoteAbTest s marketer 12).toOption,
        (∃ test ∈ db'.abTests, test.id = 12 ∧ test.trafficSplit = .obj [(uuidStr 3, .int 100)]) ∧
        ∃ loser ∈ db'.assets, loser.id = 4 ∧ loser.status = .archived :=
  ⟨⟨rfl, rfl, rfl, rfl⟩, rfl, by decide +kernel⟩

theorem promoteAbTest_unguarded_cleared :
    let s := Lib.run Content.step twoEmails flaggedTest
    ∃ test winner, FlaggedWinner s marketer test winner ∧ ∃ db', promoteAbTest s marketer test.id = .ok db' ∧
      (db'.abTest? test.id).map AbTest.trafficSplit = some (.obj [(uuidStr winner.id, .int 100)]) := by
  intro s
  have won : (∃ test ∈ s.tenantAbTest? marketer 12, test.id = 12 ∧ test.status = .significant ∧ test.winnerId = some 3) ∧
      ∃ winner ∈ s.tenantAsset? marketer 3, winner.id = 3 ∧ recordedHits winner ≠ [] := by
    decide +kernel
  obtain ⟨⟨test, found, testId, significant, named⟩, winner, stored, winnerId, hits⟩ := won
  have flagged : FlaggedWinner s marketer test winner :=
    ⟨testId ▸ found, significant, winnerId ▸ named, winnerId ▸ stored, hits⟩
  exact ⟨test, winner, flagged, promoteAbTest_unguarded ⟨rfl, rfl, rfl, rfl⟩ flaggedTest rfl flagged⟩

end Promotion

end MarketingAgents
