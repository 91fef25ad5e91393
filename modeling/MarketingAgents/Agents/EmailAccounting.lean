import MarketingAgents.Agents.DispatchLedger
import MarketingAgents.Agents.EmailBatch
import MarketingAgents.Agents.SocialDistribution

namespace MarketingAgents

open Lib PyText

section Keys

/-- `str(uuid)` has hexadecimal digits and hyphens. -/
class UuidText [PyText] : Prop where
  uuidStr_colon : ∀ id, ':' ∉ (uuidStr id).toList

variable [PyText] [UuidText]

/-- A key of an asset and an address names no other asset and no other address than the row. -/
def DispatchAttempt.Keyed (row : DispatchAttempt) : Prop :=
  ∀ assetId email, row.idempotencyKey = MarketingAgents.idempotencyKey assetId email →
    row.contentAssetId = assetId ∧ lower row.recipientIdentifier = lower email

def LedgerKeyed (rows : List DispatchAttempt) : Prop := ∀ row ∈ rows, row.Keyed

omit [PyText] [UuidText] in
theorem append_colon_inj {first first' rest rest' : List Char} (plain : ':' ∉ first) (plain' : ':' ∉ first')
    (same : first ++ ':' :: rest = first' ++ ':' :: rest') : first = first' ∧ rest = rest' := by
  have cut : ∀ {front back : List Char}, ':' ∉ front → (front ++ ':' :: back).takeWhile (· ≠ ':') = front := by
    intro front back free
    have letters : ∀ c ∈ front, decide (c ≠ ':') = true := by
      intro c member
      have other : c ≠ ':' := fun colon => free (colon ▸ member)
      exact decide_eq_true other
    rw [List.takeWhile_append_of_pos letters, List.takeWhile_cons_of_neg (by simp), List.append_nil]
  have front : first = first' := by rw [← cut plain, same, cut plain']
  subst front
  exact ⟨rfl, (List.cons.inj (List.append_cancel_left same)).2⟩

/-- A key of an asset: its id ends at the first colon behind the prefix. -/
theorem assetKey_inj {id id' : Uuid} {rest rest' : String}
    (same : "asset:" ++ uuidStr id ++ (":" ++ rest) = "asset:" ++ uuidStr id' ++ (":" ++ rest')) :
    id = id' ∧ rest = rest' := by
  have letters := congrArg String.toList same
  simp only [String.toList_append, List.append_assoc] at letters
  obtain ⟨ids, rests⟩ := append_colon_inj (UuidText.uuidStr_colon id) (UuidText.uuidStr_colon id')
    (List.append_cancel_left letters)
  have text := congrArg uuidOf (String.toList_inj.mp ids)
  rw [uuidOf_uuidStr, uuidOf_uuidStr] at text
  exact ⟨Option.some.inj text, String.toList_inj.mp rests⟩

omit [UuidText] in
theorem idempotencyKey_eq (id : Uuid) (email : String) :
    idempotencyKey id email = "asset:" ++ uuidStr id ++ (":" ++ ("recipient:" ++ lower email)) := by
  have tag : ":recipient:" = ":" ++ "recipient:" := by decide
  rw [idempotencyKey, tag]
  simp only [String.append_assoc]

theorem idempotencyKey_inj {id id' : Uuid} {email email' : String}
    (same : idempotencyKey id email = idempotencyKey id' email') : id = id' ∧ lower email = lower email' := by
  rw [idempotencyKey_eq, idempotencyKey_eq] at same
  obtain ⟨ids, rest⟩ := assetKey_inj same
  have letters := congrArg String.toList rest
  simp only [String.toList_append] at letters
  exact ⟨ids, String.toList_inj.mp (List.append_cancel_left letters)⟩

theorem emailAttempts_keyed (plan : EmailPlan) (result : Option DispatchResult) (now : Int) :
    LedgerKeyed (emailAttempts plan result now) := by
  have keyed : ∀ (entry : AudienceMember × String) (status : AttemptStatus) (messageId lastError : Option String)
      (sentAt : Option Int), (emailAttempt plan entry status messageId lastError sentAt).Keyed :=
    fun entry status messageId lastError sentAt assetId email same => idempotencyKey_inj same
  intro row member
  rcases List.mem_append.mp member with skipped | attempted
  · obtain ⟨entry, _, rfl⟩ := List.mem_map.mp skipped
    exact keyed _ _ _ _ _
  · cases result with
    | none => cases attempted
    | some result =>
      obtain ⟨entry, _, rfl⟩ := List.mem_map.mp attempted
      cases verdictOf result entry.2 <;> exact keyed _ _ _ _ _

/-- The rows of the social handler are keyed too: the key of a post is no key of an address. -/
theorem socialAttempt_keyed (plan : SocialPlan) (result : SocialResult) (now : Int) :
    (socialAttempt plan result now).Keyed := by
  intro assetId email same
  have tag : ":channel:" = ":" ++ "channel:" := by decide
  have channel : plan.idempotencyKey =
      "asset:" ++ uuidStr plan.asset.id ++ (":" ++ ("channel:" ++ uuidStr plan.channel.id)) := by
    rw [SocialPlan.idempotencyKey, tag]
    simp only [String.append_assoc]
  have both := channel.symm.trans (Eq.trans same (idempotencyKey_eq assetId email))
  have letters := congrArg String.toList (assetKey_inj both).2
  simp [String.toList_append] at letters

omit [UuidText] in
theorem LedgerKeyed.upserts {rows calls : List DispatchAttempt} (keyed : LedgerKeyed rows) (new : LedgerKeyed calls) :
    LedgerKeyed (calls.foldl upsertDispatchAttempt rows) := by
  induction calls generalizing rows with
  | nil => exact keyed
  | cons call calls ih =>
    refine ih ?_ fun row member => new row (List.mem_cons_of_mem _ member)
    intro row member
    unfold upsertDispatchAttempt at member
    split at member
    · rcases mem_updateWhere.mp member with ⟨old, stored, _, rfl⟩ | ⟨stored, _⟩
      · exact keyed old stored
      · exact keyed row stored
    · rcases List.mem_append.mp member with stored | added
      · exact keyed row stored
      · exact new row (List.mem_singleton.mp added ▸ List.mem_cons_self)

end Keys

section Accounts

variable [PyText] {db db' : Db} {a : ContentAsset} {started now : Int} {secret : String} {plan : EmailPlan}

/-- A number of the summary. -/
def summaryCount (summary : Json) (key : String) : Int :=
  match summary with
  | .obj fields => match Dict.get? fields key with
    | some (.int n) => n
    | _ => 0
  | _ => 0

theorem EmailReads.verdict_eq_skip {reads : EmailReads db a now} {email : String} :
    reads.verdict email = .skip ↔ email = "" := by
  unfold EmailReads.verdict triage
  by_cases empty : email = ""
  · simp [empty]
  · rw [if_neg empty]
    split
    · simp [empty]
    · split <;> simp [empty]

theorem EmailReads.listed_length (reads : EmailReads db a now) (verdict : Triage) :
    (reads.listed verdict).length = reads.members.countP fun m => reads.verdict (memberEmail m) = verdict := by
  rw [EmailReads.listed, triaged, ← List.countP_eq_length_filter, List.countP_map]
  rfl

/-- Whoever has an address is on one of the three lists. -/
theorem EmailReads.listed_total (reads : EmailReads db a now) :
    (reads.listed .send).length + (reads.listed .cap).length + (reads.listed .dedup).length =
      (reads.members.filter fun m => memberEmail m ≠ "").length := by
  simp only [EmailReads.listed_length, ← List.countP_eq_length_filter, ne_eq]
  induction reads.members with
  | nil => rfl
  | cons m members ih =>
    have skip : reads.verdict (memberEmail m) = .skip ↔ memberEmail m = "" := EmailReads.verdict_eq_skip
    simp only [List.countP_cons, decide_eq_true_eq]
    cases verdict : reads.verdict (memberEmail m) with
    | skip =>
      have empty := skip.mp verdict
      simp only [reduceCtorEq, if_false, empty, not_true_eq_false, Nat.add_zero]
      exact ih
    | dedup | cap | send =>
      have present : memberEmail m ≠ "" := fun empty => by
        rw [skip.mpr empty] at verdict
        cases verdict
      simp only [reduceCtorEq, if_false, if_true, present, not_false_eq_true]
      omega

/-- Every address that is sent to gets one of the statuses the summary counts. -/
theorem countStatus_total (plan : EmailPlan) (result : DispatchResult) :
    countStatus plan (some result) [.sent] + countStatus plan (some result) [.suppressed] +
      countStatus plan (some result) [.rejected, .failed] = plan.toSend.length := by
  simp only [countStatus, ← List.countP_eq_length_filter, List.mem_cons, List.not_mem_nil, or_false]
  induction plan.toSend with
  | nil => rfl
  | cons entry rest ih =>
    simp only [List.countP_cons, List.length_cons, decide_eq_true_eq]
    have counted : (verdictOf result entry.2).status = .sent ∨ (verdictOf result entry.2).status = .suppressed ∨
        (verdictOf result entry.2).status = .rejected ∨ (verdictOf result entry.2).status = .failed := by
      cases verdictOf result entry.2 with
      | accepted messageId => exact Or.inl rfl
      | refused reason =>
        by_cases suppressed : reason = "suppressed"
        · exact Or.inr (Or.inl (if_pos suppressed))
        · exact Or.inr (Or.inr (Or.inl (if_neg suppressed)))
      | unacknowledged => exact Or.inr (Or.inr (Or.inr rfl))
    rcases counted with status | status | status | status <;>
      simp only [status, reduceCtorEq, or_self, or_true, true_or, if_true, if_false] <;> omega

/-- The numbers of the summary are those of the lists and of the report. -/
theorem summaryCount_emailSummary (plan : EmailPlan) (result : Option DispatchResult) :
    summaryCount (emailSummary plan result) "sent" = countStatus plan result [.sent] ∧
      summaryCount (emailSummary plan result) "suppressed" = countStatus plan result [.suppressed] ∧
      summaryCount (emailSummary plan result) "rejected" = countStatus plan result [.rejected, .failed] ∧
      summaryCount (emailSummary plan result) "skipped" = plan.capped.length ∧
      summaryCount (emailSummary plan result) "deduped" = plan.deduped.length :=
  ⟨rfl, rfl, rfl, rfl, rfl⟩

theorem commitEmail_publishes {result : Option DispatchResult} (stored : plan.asset ∈ db.assets)
    (committed : commitEmail db plan result now = .ok db') : ∃ published ∈ db'.assets,
      published.id = plan.asset.id ∧ published.status = .published ∧
        published.extraMetadata.get? "dispatch_summary" = some (emailSummary plan result) := by
  obtain ⟨_, _, assets⟩ := maybeGoLive_ledger (commitEmail_eq_ok.mp committed).2
  rw [assets]
  refine ⟨_, mem_updateWhere.mpr (Or.inl ⟨plan.asset, stored, decide_eq_true rfl, rfl⟩), rfl, rfl, ?_⟩
  rw [publishedRow, Dict.get?_merge (by simp)]
  rfl

/-- Whoever is capped or sent to is recorded under the asset and the address. -/
theorem emailAttempts_record (now : Int) {result : Option DispatchResult} (called : result = none → plan.toSend = [])
    {entry : AudienceMember × String} (listed : entry ∈ plan.capped ∨ entry ∈ plan.toSend) :
    ∃ call ∈ emailAttempts plan result now, call.tenantId = plan.asset.tenantId ∧
      call.idempotencyKey = idempotencyKey plan.asset.id entry.2 := by
  rcases listed with capped | sends
  · exact ⟨_, List.mem_append_left _ (List.mem_map_of_mem capped), rfl, rfl⟩
  · cases result with
    | none =>
      rw [called rfl] at sends
      cases sends
    | some result =>
      refine ⟨_, List.mem_append_right _ (List.mem_map_of_mem sends), ?_⟩
      cases verdictOf result entry.2 <;> exact ⟨rfl, rfl⟩

/-- Everyone with an address who is not dropped as a duplicate is capped or sent to. -/
theorem EmailPlan.Follows.handled {reads : EmailReads db a now} (follows : plan.Follows db secret reads)
    {m : AudienceMember} (kept : m ∈ reads.members) (present : memberEmail m ≠ "")
    (fresh : (m, memberEmail m) ∉ plan.deduped) :
    (m, memberEmail m) ∈ plan.capped ∨ (m, memberEmail m) ∈ plan.toSend := by
  rw [follows.capped, follows.toSend]
  cases verdict : reads.verdict (memberEmail m) with
  | skip => exact absurd (EmailReads.verdict_eq_skip.mp verdict) present
  | dedup =>
    refine absurd ?_ fresh
    rw [follows.deduped]
    exact EmailReads.mem_listed.mpr ⟨kept, rfl, verdict⟩
  | cap => exact Or.inl (EmailReads.mem_listed.mpr ⟨kept, rfl, verdict⟩)
  | send => exact Or.inr (EmailReads.mem_listed.mpr ⟨kept, rfl, verdict⟩)

/-- The run publishes the asset with a summary that accounts for every kept
member with an address, and each of them who is not dropped as a duplicate has
a row under the key of the asset and the address: in a ledger that only the
handlers have written, a row of this asset and this address. -/
theorem dispatch_accounts [UuidText] {assetId batchId : Uuid} {connector : EmailConnector}
    (begun : beginEmail db secret assetId started = .ok (some plan))
    (done : finishEmail db plan (callEmailBy connector db plan batchId) now = .ok db')
    (reads : EmailReads db plan.asset started) :
    (∃ published ∈ db'.assets, published.id = assetId ∧ published.status = .published ∧
      ∃ summary ∈ published.extraMetadata.get? "dispatch_summary",
        summaryCount summary "sent" + summaryCount summary "suppressed" + summaryCount summary "rejected" +
            summaryCount summary "skipped" + summaryCount summary "deduped" =
          (reads.members.filter fun m => memberEmail m ≠ "").length) ∧
      ∀ m ∈ reads.members, memberEmail m ≠ "" → (m, memberEmail m) ∉ plan.deduped →
        ∃ row ∈ db'.dispatchAttempts, row.tenantId = plan.asset.tenantId ∧
          row.idempotencyKey = idempotencyKey assetId (memberEmail m) ∧
            (LedgerKeyed db.dispatchAttempts →
              row.contentAssetId = assetId ∧ lower row.recipientIdentifier = memberEmail m) := by
  obtain ⟨a, found, reads', follows⟩ := beginEmail_follows begun
  have same := follows.asset
  subst same
  rw [reads'.unique reads] at follows
  obtain ⟨stored, id⟩ := Db.asset?_mem found
  have committed : ∃ result, commitEmail db plan result now = .ok db' ∧ (result = none → plan.toSend = []) := by
    rcases finishEmail_commits done with ⟨uncalled, commit⟩ | ⟨_, result, _, _, commit⟩
    · refine ⟨none, commit, fun _ => ?_⟩
      unfold callEmailBy at uncalled
      split at uncalled
      · assumption
      · cases uncalled
    · exact ⟨some result, commit, fun none => nomatch none⟩
  obtain ⟨result, commit, called⟩ := committed
  constructor
  · obtain ⟨published, here, isAsset, status, summary⟩ := commitEmail_publishes stored commit
    refine ⟨published, here, isAsset.trans id, status, _, summary, ?_⟩
    obtain ⟨sent, suppressed, rejected, skipped, deduped⟩ := summaryCount_emailSummary plan result
    have answered : countStatus plan result [.sent] + countStatus plan result [.suppressed] +
        countStatus plan result [.rejected, .failed] = plan.toSend.length := by
      cases result with
      | none => rw [called rfl]; rfl
      | some result => exact countStatus_total plan result
    have total := reads.listed_total
    rw [← follows.toSend, ← follows.capped, ← follows.deduped] at total
    rw [sent, suppressed, rejected, skipped, deduped]
    omega
  · intro m kept present fresh
    obtain ⟨call, recorded, tenant, key⟩ := emailAttempts_record now called (follows.handled kept present fresh)
    obtain ⟨attempts, _⟩ := maybeGoLive_ledger (commitEmail_eq_ok.mp commit).2
    obtain ⟨row, inside, rowTenant, rowKey⟩ := upserts_store recorded db.dispatchAttempts
    have named := rowKey.trans key
    refine ⟨row, attempts ▸ inside, rowTenant.trans tenant, id ▸ named, fun keyed => ?_⟩
    obtain ⟨rowAsset, rowAddress⟩ := keyed.upserts (emailAttempts_keyed plan result now) row inside _ _ named
    exact ⟨rowAsset.trans id, rowAddress.trans (memberEmail_normal m)⟩

end Accounts

namespace Dispatches

local instance accountingText : PyText := PyText.plain

local instance : UuidText where
  uuidStr_colon id colon := by
    have letters : (uuidStr id).toList = List.replicate id '1' := String.toList_ofList
    rw [letters] at colon
    exact absurd (List.eq_of_mem_replicate colon) (by decide)

/-- Ann is dropped, bob gets the message, and dan has no address. -/
theorem dispatch_accounts_shop :
    let db := { shop [ann, bob, ("dan", [])] with dispatchAttempts := [attempt 5 "ann@mail.io" .sent] }
    ∃ plan db', beginEmail db "secret" 3 (hours 1) = .ok (some plan) ∧
      finishEmail db plan (callEmailBy (shopProvider "m1") db plan 90) (hours 1) = .ok db' ∧
      (∃ published ∈ db'.assets, published.id = 3 ∧ published.status = .published ∧
        ∃ summary ∈ published.extraMetadata.get? "dispatch_summary",
          summaryCount summary "sent" + summaryCount summary "suppressed" + summaryCount summary "rejected" +
            summaryCount summary "skipped" + summaryCount summary "deduped" = 2) ∧
      ∃ row ∈ db'.dispatchAttempts, row.idempotencyKey = idempotencyKey 3 "bob@mail.io" := by
  intro db
  have read : ∃ plan ∈ (beginEmail db "secret" 3 (hours 1)).toOption.join,
      (∀ entry ∈ plan.deduped, entry.2 ≠ "bob@mail.io") ∧
      (finishEmail db plan (callEmailBy (shopProvider "m1") db plan 90) (hours 1)).toOption.isSome ∧
      ((filterAudienceForAbTest db plan.asset (loadAudienceMembers db plan.asset.campaignId)).toOption.map fun kept =>
        ((kept.1.filter fun m => memberEmail m ≠ "").length, kept.1.map memberEmail)) =
          some (2, ["ann@mail.io", "bob@mail.io", ""]) := by decide +kernel
  obtain ⟨plan, planned, apart, finished, kept⟩ := read
  have begun := ok_some_of_mem planned
  obtain ⟨_, _, reads, follows⟩ := beginEmail_follows begun
  have same := follows.asset
  subst same
  cases done : finishEmail db plan (callEmailBy (shopProvider "m1") db plan 90) (hours 1) with
  | error error =>
    rw [done] at finished
    cases finished
  | ok db' =>
    obtain ⟨⟨published, here, id, status, summary, metadata, total⟩, rows⟩ := dispatch_accounts begun done reads
    rw [reads.kept] at kept
    obtain ⟨two, addresses⟩ := Prod.mk.inj (Option.some.inj kept)
    have listed : "bob@mail.io" ∈ reads.members.map memberEmail := addresses ▸ by simp
    obtain ⟨m, member, address⟩ := List.mem_map.mp listed
    obtain ⟨row, stored, _, key, _⟩ := rows m member (address ▸ by decide) fun dropped => apart _ dropped address
    exact ⟨plan, db', begun, done,
      ⟨published, here, id, status, summary, metadata, total.trans (congrArg Nat.cast two)⟩, row, stored,
      key.trans (congrArg _ address)⟩

end Dispatches

end MarketingAgents
