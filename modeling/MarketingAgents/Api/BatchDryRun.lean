import Mathlib.Algebra.BigOperators.Group.List.Basic
import MarketingAgents.Api.Approvals
import MarketingAgents.Content.Rewrites

namespace MarketingAgents

open Lib PyText

section Rows

variable {db : Db}

theorem asset?_writeApproved (db : Db) (a : ContentAsset) (path : ApprovalPath) (role : UserRole) (id : Uuid) :
    (db.writeApproved a path role).asset? id =
      (db.asset? id).map fun row => if row.id = a.id then { a with status := .approved } else row := by
  have kept : ∀ row : ContentAsset, decide (row.id = a.id) = true →
      decide (({ a with status := .approved } : ContentAsset).id = id) = decide (row.id = id) := by
    intro row same
    rw [of_decide_eq_true same]
  have found := find?_updateWhere (q := fun row : ContentAsset => decide (row.id = id))
    (p := fun row => decide (row.id = a.id)) (f := fun _ => { a with status := .approved }) db.assets kept
  simp only [decide_eq_true_eq] at found
  exact found

/-- An approval is seen by the queries for its own asset alone. -/
theorem tenantAsset?_writeApproved {user : AppUser} {a : ContentAsset} {id : Uuid} (d : ApprovalDecisionLog)
    (path : ApprovalPath) (role : UserRole) :
    ((db.insertDecision d).writeApproved a path role).tenantAsset? user id =
      if id = a.id then ((db.asset? id).map fun _ => { a with status := .approved }).filter (·.tenantId = user.tenantId)
      else db.tenantAsset? user id := by
  have rows : (db.insertDecision d).asset? id = db.asset? id := rfl
  rw [Db.tenantAsset?, Db.tenantAsset?, asset?_writeApproved, rows]
  cases found : db.asset? id with
  | none => simp
  | some row =>
    have named := (Db.asset?_mem found).2
    by_cases here : id = a.id
    · rw [if_pos here, Option.map_some, if_pos (named.trans here), Option.map_some]
    · rw [if_neg here, Option.map_some, if_neg fun same => here (named.symm.trans same)]

end Rows

section Counts

/-- One more of a key. -/
def countOne (counts : Dict String Nat) (key : String) : Dict String Nat :=
  counts.set key ((counts.get? key).getD 0 + 1)

theorem sum_countOne (counts : Dict String Nat) (key : String) :
    ((countOne counts key).map Prod.snd).sum = (counts.map Prod.snd).sum + 1 := by
  unfold countOne
  induction counts with
  | nil => rfl
  | cons entry counts ih =>
    rw [Dict.set, Dict.get?]
    split
    · simp only [List.map_cons, List.sum_cons, Option.getD_some]
      omega
    · rw [List.map_cons, List.map_cons, List.sum_cons, List.sum_cons, ih]
      omega

end Counts

section Batch

variable [PyText] {db : Db} {user : AppUser}

/-- What the checks say of an id: the asset with its campaign, or why it is left out. -/
def batchVerdict (db : Db) (user : AppUser) (assetId : Uuid) : Except BatchExclusionEntry (ContentAsset × Campaign) :=
  match db.tenantAsset? user assetId with
  | none => .error ⟨assetId, "not_found", []⟩
  | some a =>
    match db.tenantCampaign? user a.campaignId with
    | none => .error ⟨assetId, "not_found", [("missing", some "campaign")]⟩
    | some c =>
      match batchExclusion user a c with
      | some (reason, details) => .error ⟨assetId, reason, details⟩
      | none => .ok (a, c)

def passesBatch (db : Db) (user : AppUser) (assetId : Uuid) : Bool := (batchVerdict db user assetId).isOk

/-- The state after an asset that passes; `decision` is none in a dry run. -/
def BatchState.enter (st : BatchState) (assetId : Uuid) (a : ContentAsset) (c : Campaign) (db : Db)
    (decision : Option Uuid) : BatchState where
  db := db
  channelCounts := countOne st.channelCounts (batchPlatform a)
  campaignIds := if c.id ∈ st.campaignIds then st.campaignIds else st.campaignIds ++ [c.id]
  currency := st.currency <|> some c.currency
  approved := st.approved ++ [(assetId, decision)]
  excluded := st.excluded

/-- The tables after a batch approval. -/
def batchWrite (db : Db) (user : AppUser) (a : ContentAsset) : Db :=
  (db.insertDecision (decisionRow a user .approved none (some [("batch", .bool true)]))).writeApproved a .batch user.role

/-- One iteration, in a batch whose writes all succeed. -/
theorem batchApproveOne_eq (dryRun : Bool) (st : BatchState) (assetId : Uuid) :
    batchApproveOne user dryRun [] st assetId =
      match batchVerdict st.db user assetId with
      | .error entry => { st with excluded := st.excluded ++ [entry] }
      | .ok (a, c) =>
        if dryRun then st.enter assetId a c st.db none
        else st.enter assetId a c (batchWrite st.db user a) (some st.db.nextId) := by
  unfold batchApproveOne batchVerdict
  cases st.db.tenantAsset? user assetId with
  | none => rfl
  | some a =>
    dsimp only
    cases st.db.tenantCampaign? user a.campaignId with
    | none => rfl
    | some c =>
      dsimp only
      cases batchExclusion user a c with
      | some exclusion => rfl
      | none => cases dryRun <;> rfl

theorem batchVerdict_congr {db' : Db} {assetId : Uuid} (campaigns : db'.campaigns = db.campaigns)
    (row : db'.tenantAsset? user assetId = db.tenantAsset? user assetId) :
    batchVerdict db' user assetId = batchVerdict db user assetId := by
  have campaign : ∀ id, db'.tenantCampaign? user id = db.tenantCampaign? user id := fun id => by
    rw [Db.tenantCampaign?, Db.tenantCampaign?, Db.campaign?, Db.campaign?, campaigns]
  simp only [batchVerdict, row, campaign]

theorem batchVerdict_ok {assetId : Uuid} {a : ContentAsset} {c : Campaign}
    (passes : batchVerdict db user assetId = .ok (a, c)) :
    db.tenantAsset? user assetId = some a ∧ a.id = assetId ∧ batchExclusion user a c = none := by
  unfold batchVerdict at passes
  split at passes
  · cases passes
  · rename_i row found
    split at passes
    · cases passes
    · split at passes
      · cases passes
      · rename_i eligible
        cases passes
        exact ⟨found, (Db.asset?_mem (Db.tenantAsset?_eq_some found)).2, eligible⟩

/-- An asset that is approved does not pass again. -/
theorem not_passesBatch_of_approved {assetId : Uuid} {a : ContentAsset} (found : db.tenantAsset? user assetId = some a)
    (approved : a.status = .approved) : passesBatch db user assetId = false := by
  unfold passesBatch
  cases verdict : batchVerdict db user assetId with
  | error entry => rfl
  | ok pair =>
    obtain ⟨row, c⟩ := pair
    obtain ⟨found', _, eligible⟩ := batchVerdict_ok verdict
    cases Option.some.inj (found.symm.trans found')
    simp [batchExclusion, approved] at eligible

omit [PyText] in
theorem batchWrite_row (a : ContentAsset) {assetId : Uuid} (other : assetId ≠ a.id) :
    (batchWrite db user a).tenantAsset? user assetId = db.tenantAsset? user assetId := by
  rw [batchWrite, tenantAsset?_writeApproved, if_neg other]

omit [PyText] in
theorem batchWrite_approved {assetId : Uuid} {a : ContentAsset} (found : db.tenantAsset? user assetId = some a) :
    (batchWrite db user a).tenantAsset? user assetId = some { a with status := .approved } := by
  obtain ⟨stored, ours⟩ := Option.filter_eq_some_iff.mp found
  rw [batchWrite, tenantAsset?_writeApproved, if_pos (Db.asset?_mem stored).2.symm, stored]
  simpa using ours

/-- In every batch the channels count the approvals. -/
theorem batch_counts (dryRun : Bool) (ids : List Uuid) (st : BatchState)
    (start : (st.channelCounts.map Prod.snd).sum = st.approved.length) :
    let last := ids.foldl (batchApproveOne user dryRun []) st
    (last.channelCounts.map Prod.snd).sum = last.approved.length := by
  induction ids generalizing st with
  | nil => exact start
  | cons assetId ids ih =>
    refine ih _ ?_
    rw [batchApproveOne_eq]
    split
    · exact start
    · rename_i a c _
      cases dryRun <;> simp [BatchState.enter, sum_countOne, start]

/-- A dry run lists the ids that pass, as often as they are asked for, and leaves the tables alone. -/
theorem dryRun_approved (ids : List Uuid) (st : BatchState) (here : st.db = db) :
    let last := ids.foldl (batchApproveOne user true []) st
    last.db = db ∧ last.approved.map Prod.fst = st.approved.map Prod.fst ++ ids.filter (passesBatch db user) := by
  induction ids generalizing st with
  | nil => simpa using here
  | cons assetId ids ih =>
    subst here
    have step : batchApproveOne user true [] st assetId = _ := batchApproveOne_eq true st assetId
    cases verdict : batchVerdict st.db user assetId with
    | error entry =>
      have fails : ¬ passesBatch st.db user assetId = true := by simp [passesBatch, isOk_iff, verdict]
      rw [verdict] at step
      rw [List.foldl_cons, step, List.filter_cons_of_neg fails]
      exact ih _ rfl
    | ok pair =>
      have passes : passesBatch st.db user assetId = true := by simp [passesBatch, isOk_iff, verdict]
      rw [verdict] at step
      obtain ⟨unchanged, listed⟩ := ih (st.enter assetId pair.1 pair.2 st.db none) rfl
      rw [List.foldl_cons, step, List.filter_cons_of_pos passes]
      refine ⟨unchanged, listed.trans ?_⟩
      simp [BatchState.enter]

/-- The ids that a batch has approved: no two are the same, and their assets are approved. -/
structure OnceApproved (user : AppUser) (st : BatchState) : Prop where
  distinct : (st.approved.map Prod.fst).Nodup
  rows : ∀ id ∈ st.approved.map Prod.fst, ∃ a, st.db.tenantAsset? user id = some a ∧ a.status = .approved

theorem onceApproved_step {st : BatchState} (once : OnceApproved user st) (assetId : Uuid) :
    OnceApproved user (batchApproveOne user false [] st assetId) := by
  rw [batchApproveOne_eq]
  split
  · exact ⟨once.distinct, once.rows⟩
  · rename_i a c verdict
    obtain ⟨found, named, _⟩ := batchVerdict_ok verdict
    have fresh : assetId ∉ st.approved.map Prod.fst := by
      intro again
      obtain ⟨row, stored, approved⟩ := once.rows assetId again
      have fails := not_passesBatch_of_approved stored approved
      simp [passesBatch, verdict, Except.isOk, Except.toBool] at fails
    constructor
    · simp only [BatchState.enter, Bool.false_eq_true, if_false, List.map_append, List.map_cons, List.map_nil]
      exact List.nodup_append.mpr ⟨once.distinct, List.nodup_singleton _, fun id old other same equal =>
        fresh (List.mem_singleton.mp same ▸ equal ▸ old)⟩
    · simp only [BatchState.enter, Bool.false_eq_true, if_false, List.map_append, List.map_cons, List.map_nil]
      intro id member
      by_cases same : id = assetId
      · subst same
        exact ⟨_, batchWrite_approved found, rfl⟩
      · have old : id ∈ st.approved.map Prod.fst := by simpa [same] using member
        obtain ⟨row, stored, approved⟩ := once.rows id old
        exact ⟨row, (batchWrite_row a (named ▸ same)).trans stored, approved⟩

/-- A dry run and a real one side by side, as long as no id that passes comes
twice: the tables differ in the approved assets alone, and the reports agree. -/
structure InStep (db : Db) (user : AppUser) (dry real : BatchState) : Prop where
  start : dry.db = db
  campaigns : real.db.campaigns = db.campaigns
  passed : ∀ id ∈ real.approved.map Prod.fst, passesBatch db user id = true
  others : ∀ id, id ∉ real.approved.map Prod.fst → real.db.tenantAsset? user id = db.tenantAsset? user id
  approved : dry.approved.map Prod.fst = real.approved.map Prod.fst
  excluded : dry.excluded = real.excluded

theorem inStep_step {dry real : BatchState} (held : InStep db user dry real) {assetId : Uuid}
    (fresh : passesBatch db user assetId = true → assetId ∉ real.approved.map Prod.fst) :
    InStep db user (batchApproveOne user true [] dry assetId) (batchApproveOne user false [] real assetId) := by
  have untouched : assetId ∉ real.approved.map Prod.fst := fun again => fresh (held.passed _ again) again
  have same := batchVerdict_congr held.campaigns (held.others assetId untouched)
  rw [batchApproveOne_eq, batchApproveOne_eq, same, held.start]
  cases verdict : batchVerdict db user assetId with
  | error entry =>
    exact ⟨rfl, held.campaigns, held.passed, held.others, held.approved,
      congrArg (· ++ [entry]) held.excluded⟩
  | ok pair =>
    obtain ⟨a, c⟩ := pair
    have passes : passesBatch db user assetId = true := by simp [passesBatch, isOk_iff, verdict]
    obtain ⟨_, named, _⟩ := batchVerdict_ok verdict
    simp only [BatchState.enter, Bool.false_eq_true, if_false, if_true]
    refine ⟨rfl, held.campaigns, fun id member => ?_, fun id outside => ?_, ?_, held.excluded⟩
    · rw [List.map_append, List.mem_append] at member
      rcases member with old | new
      · exact held.passed id old
      · rw [List.mem_singleton.mp new]
        exact passes
    · rw [List.map_append, List.mem_append, not_or] at outside
      have different : id ≠ a.id := fun equal => outside.2 (List.mem_singleton.mpr (equal.trans named))
      exact (batchWrite_row a different).trans (held.others id outside.1)
    · rw [List.map_append, List.map_append, held.approved]
      rfl

theorem inStep_run {ids : List Uuid} {dry real : BatchState} (held : InStep db user dry real)
    (once : (ids.filter (passesBatch db user)).Nodup)
    (ahead : ∀ id ∈ ids, passesBatch db user id = true → id ∉ real.approved.map Prod.fst) :
    InStep db user (ids.foldl (batchApproveOne user true []) dry) (ids.foldl (batchApproveOne user false []) real) := by
  induction ids generalizing dry real with
  | nil => exact held
  | cons assetId ids ih =>
    have step := inStep_step held (ahead assetId (List.mem_cons_self ..))
    refine ih step (once.sublist ((List.sublist_cons_self assetId ids).filter _)) fun id later passes => ?_
    have old := ahead id (List.mem_cons_of_mem _ later) passes
    have untouched : real.db.tenantAsset? user assetId = db.tenantAsset? user assetId :=
      held.others assetId fun again => ahead assetId (List.mem_cons_self ..) (held.passed _ again) again
    rw [batchApproveOne_eq, batchVerdict_congr held.campaigns untouched]
    cases verdict : batchVerdict db user assetId with
    | error entry => exact old
    | ok pair =>
      have first : passesBatch db user assetId = true := by simp [passesBatch, isOk_iff, verdict]
      rw [List.filter_cons_of_pos first, List.nodup_cons] at once
      have different : id ≠ assetId := fun same => once.1 (same ▸ List.mem_filter.mpr ⟨later, passes⟩)
      simpa [BatchState.enter, different] using old

/-- The two runs report the same approved ids and the same exclusions, and the
channels of both add up to the approvals. -/
structure Predicts (dry real : BatchApproveResponse) : Prop where
  approved : dry.approved.map Prod.fst = real.approved.map Prod.fst
  excluded : dry.excluded = real.excluded
  dryCounts : (dry.channelCounts.map Prod.snd).sum = dry.approved.length
  realCounts : (real.channelCounts.map Prod.snd).sum = real.approved.length

theorem batchApprove_report {ids : List Uuid} {dryRun : Bool} {now : Int} {result : Db × BatchApproveResponse}
    (done : batchApprove db user ids dryRun [] now = .ok result) :
    let last := ids.foldl (batchApproveOne user dryRun []) { db := db }
    result.2.approved = last.approved ∧ result.2.excluded = last.excluded ∧
      result.2.channelCounts = last.channelCounts := by
  simp only [batchApprove, bind_eq_ok, pure_eq_ok] at done
  obtain ⟨_, _, _, _, rfl⟩ := done
  exact ⟨rfl, rfl, rfl⟩

/-- A dry run predicts the real batch exactly where no id that passes the checks is
asked for twice. The real batch finds the asset approved the second time, the dry
run finds it as it was. -/
theorem dryRun_predicts_iff {ids : List Uuid} {now : Int} {dry real : Db × BatchApproveResponse}
    (dryDone : batchApprove db user ids true [] now = .ok dry) (done : batchApprove db user ids false [] now = .ok real) :
    Predicts dry.2 real.2 ↔ (ids.filter (passesBatch db user)).Nodup := by
  obtain ⟨dryApproved, dryExcluded, dryCounts⟩ := batchApprove_report dryDone
  obtain ⟨approved, excluded, counts⟩ := batchApprove_report done
  constructor
  · intro predicts
    have listed := (@dryRun_approved _ db user ids { db := db } rfl).2
    have once := ids.foldlRecOn (motive := OnceApproved user) (batchApproveOne user false []) (b := { db := db })
      ⟨List.nodup_nil, by simp⟩ fun st held id _ => onceApproved_step held id
    have same := predicts.approved
    rw [dryApproved, approved, listed] at same
    have distinct := once.distinct
    rw [← same] at distinct
    simpa using distinct
  · intro once
    have held : InStep db user { db := db } { db := db } := ⟨rfl, rfl, by simp, fun _ _ => rfl, rfl, rfl⟩
    have last := inStep_run held once (by simp)
    constructor
    · rw [dryApproved, approved, last.approved]
    · rw [dryExcluded, excluded, last.excluded]
    · rw [dryCounts, dryApproved]
      exact batch_counts true ids { db := db } rfl
    · rw [counts, approved]
      exact batch_counts false ids { db := db } rfl

end Batch

namespace BatchRun

local instance batchText : PyText := PyText.plain

private def reviewer : AppUser := ⟨9, 1, .manager⟩

/-- A pending asset under a cap that its campaign keeps. -/
private def pending (id : Uuid) : ContentAsset where
  id := id
  tenantId := 1
  campaignId := 5
  assetType := .email
  status := .pendingApproval
  extraMetadata := [("channel_platform", .str "email"), ("approval_threshold", .obj
    [("admin_required_above_amount", .null), ("auto_approval_cap_amount", .str "500"), ("currency", .str "USD")])]

private def inReview : Db where
  campaigns := [⟨5, 1, "Autumn", .contentInProduction, 100, "USD", 0, 9, [], none⟩]
  assets := [pending 2, pending 3]
  nextId := 10

/-- Asked for twice, the asset is approved twice by the dry run, and once by the real one. -/
theorem repeated_id_is_approved_twice :
    (batchApprove inReview reviewer [2, 2] true [] 0).map (fun out => (out.2.approved, out.2.excluded)) =
        .ok ([(2, none), (2, none)], []) ∧
      (batchApprove inReview reviewer [2, 2] false [] 0).map (fun out => (out.2.approved, out.2.excluded)) =
        .ok ([(2, some 10)], [⟨2, "wrong_status", [("status", some "approved")]⟩]) := by
  decide +kernel

theorem dryRun_predicts_iff_distinct : ∃ dry real, batchApprove inReview reviewer [2, 3, 4] true [] 0 = .ok dry ∧
    batchApprove inReview reviewer [2, 3, 4] false [] 0 = .ok real ∧ Predicts dry.2 real.2 := by
  have returns : ∀ dryRun, (batchApprove inReview reviewer [2, 3, 4] dryRun [] 0).isOk = true := by decide +kernel
  obtain ⟨dry, dryDone⟩ := isOk_iff.mp (returns true)
  obtain ⟨real, done⟩ := isOk_iff.mp (returns false)
  exact ⟨dry, real, dryDone, done, (dryRun_predicts_iff dryDone done).mpr (by decide +kernel)⟩

end BatchRun

end MarketingAgents
