import MarketingAgents.Lib.Result
import MarketingAgents.Db.Models

namespace MarketingAgents

open Lib PyText

/-- How `assign_variant` fails: an `AbTestAssignmentError`, which its caller
catches, or an exception that ends the handler. -/
inductive AssignmentError where
  | misconfigured (message : String)
  | raised (message : String)
deriving DecidableEq

section Assignment

variable [PyText]

/-- One entry of `_coerce_split`: a weight that counts, or nothing. -/
def coerceWeight (entry : String × Json) : Except AssignmentError (Option (String × Int)) :=
  match intOf entry.2 with
  | none => .error (.misconfigured ("traffic_split['" ++ entry.1 ++ "'] is not an integer"))
  | some weight => .ok (if weight ≤ 0 then none else some (entry.1, weight))

def coerceSplit (raw : Json) : Except AssignmentError (Dict String Int) := do
  let fields ← orRaise raw.dict? (.misconfigured "traffic_split must be a JSON object")
  let weights ← fields.mapM coerceWeight
  pure (weights.filterMap id)

/-- The walk over the cumulated weights, with the variant it falls back to. -/
def walkSplit (bucket : Int) (fallback : String) : Int → List (String × Int) → String
  | _, [] => fallback
  | cumulative, (variant, weight) :: rest =>
    if bucket < cumulative + weight then variant else walkSplit bucket variant (cumulative + weight) rest

def pickVariantIndex (abTestId : Uuid) (externalId : String) (split : Dict String Int) :
    Except AssignmentError String := do
  let total := (split.map Prod.snd).sum
  require (split ≠ []) (.misconfigured ("ab_test " ++ uuidStr abTestId ++ " has no traffic_split configured"))
  require (0 < total)
    (.misconfigured ("ab_test " ++ uuidStr abTestId ++ " traffic_split sums to " ++ toString total))
  let bucket := (blake2b (uuidStr abTestId ++ ":" ++ externalId) : Int) % total
  pure (walkSplit bucket "" 0 (split.insertionSort fun a b => a.1 ≤ b.1))

/-- `assign_variant` in a transaction that has already inserted `pending`:
the variant, and the rows inserted now. -/
def assignVariant (db : Db) (pending : List AbTestAssignment) (tenantId abTestId : Uuid) (externalId : String) :
    Except AssignmentError (Uuid × List AbTestAssignment) :=
  match (db.abTestAssignments ++ pending).find? fun row =>
      row.tenantId = tenantId ∧ row.abTestId = abTestId ∧ row.audienceExternalId = externalId with
  | some row => .ok (row.variantId, pending)
  | none => do
    let test ← orRaise (db.abTests.find? fun test => test.id = abTestId ∧ test.tenantId = tenantId)
      (.misconfigured ("ab_test " ++ uuidStr abTestId ++ " not found"))
    let split ← coerceSplit test.trafficSplit
    let picked ← pickVariantIndex abTestId externalId split
    let variantId ← orRaise (uuidOf picked) (.raised "badly formed hexadecimal UUID string")
    require (∃ a ∈ db.assets, a.id = variantId) (.raised "ab_test_assignment violates foreign key constraint")
    pure (variantId, pending ++ [⟨tenantId, abTestId, externalId, variantId⟩])

/-- The first running test that names the asset as one of its two variants. -/
def abTestByVariant (db : Db) (a : ContentAsset) : Option AbTest :=
  db.abTests.find? fun test => test.tenantId = a.tenantId ∧ test.status = .running ∧
    (test.variantAId = some a.id ∨ test.variantBId = some a.id)

def runningAbTestForAsset (db : Db) (a : ContentAsset) : Option AbTest :=
  match a.extraMetadata.get? "ab_test_group_id" with
  | some (.str raw) =>
    match uuidOf raw with
    | none => none
    | some id =>
      match db.abTests.find? fun test => test.id = id ∧ test.status = .running with
      | some test => some test
      | none => abTestByVariant db a
  | _ => abTestByVariant db a

/-- The loop of `_filter_audience_for_ab_test`: a member the test is
misconfigured for stays with the asset. -/
def keepAssigned (db : Db) (a : ContentAsset) (test : AbTest) (pending : List AbTestAssignment) :
    List AudienceMember → Except AssignmentError (List AudienceMember × List AbTestAssignment)
  | [] => .ok ([], pending)
  | m :: rest =>
    if m.externalId = "" then do
      let (kept, pending) ← keepAssigned db a test pending rest
      pure (m :: kept, pending)
    else match assignVariant db pending a.tenantId test.id m.externalId with
      | .error (.raised message) => .error (.raised message)
      | .error (.misconfigured _) => do
        let (kept, pending) ← keepAssigned db a test pending rest
        pure (m :: kept, pending)
      | .ok (variantId, pending) => do
        let (kept, pending) ← keepAssigned db a test pending rest
        pure (if variantId = a.id then m :: kept else kept, pending)

/-- `_filter_audience_for_ab_test`, with the assignments it inserts. -/
def filterAudienceForAbTest (db : Db) (a : ContentAsset) (members : List AudienceMember) :
    Except AssignmentError (List AudienceMember × List AbTestAssignment) :=
  match runningAbTestForAsset db a with
  | none => .ok (members, [])
  | some test => keepAssigned db a test [] members

theorem keepAssigned_sublist {db : Db} {a : ContentAsset} {test : AbTest} {members kept : List AudienceMember}
    {pending inserted : List AbTestAssignment}
    (done : keepAssigned db a test pending members = .ok (kept, inserted)) : kept.Sublist members := by
  induction members generalizing pending kept inserted with
  | nil => simp_all [keepAssigned]
  | cons m rest ih =>
    unfold keepAssigned at done
    split at done
    · simp only [bind_eq_ok, pure_eq_ok, Prod.mk.injEq, Prod.exists] at done
      obtain ⟨tail, _, deeper, rfl, rfl⟩ := done
      exact (ih deeper).cons_cons m
    · split at done
      · simp at done
      · simp only [bind_eq_ok, pure_eq_ok, Prod.mk.injEq, Prod.exists] at done
        obtain ⟨tail, _, deeper, rfl, rfl⟩ := done
        exact (ih deeper).cons_cons m
      · simp only [bind_eq_ok, pure_eq_ok, Prod.mk.injEq, Prod.exists] at done
        obtain ⟨tail, _, deeper, rfl, rfl⟩ := done
        split
        · exact (ih deeper).cons_cons m
        · exact (ih deeper).cons m

theorem filterAudienceForAbTest_sublist {db : Db} {a : ContentAsset} {members kept : List AudienceMember}
    {inserted : List AbTestAssignment}
    (done : filterAudienceForAbTest db a members = .ok (kept, inserted)) : kept.Sublist members := by
  unfold filterAudienceForAbTest at done
  split at done
  · simp only [Except.ok.injEq, Prod.mk.injEq] at done
    rw [← done.1]
  · exact keepAssigned_sublist done

end Assignment

end MarketingAgents
