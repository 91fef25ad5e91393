import MarketingAgents.Agents.EmailDistribution
import MarketingAgents.Audiences.CsvUpload

namespace MarketingAgents

open Lib PyText CsvUpload

/-- The width of `audience_member.external_id`. -/
def externalIdWidth : Nat := 200

/-- The member that an upload stores of a row. -/
def ParsedRow.member (row : ParsedRow) (audienceId : Uuid) : AudienceMember :=
  ⟨audienceId, row.externalId, row.payload⟩

section LedgerKey

variable [PyText]

theorem memberEmail_member {row : ParsedRow} (accepted : Accepted row) (audienceId : Uuid) :
    memberEmail (row.member audienceId) = row.externalId := by
  have email : (row.member audienceId).payload.get? "email" = some (.str row.externalId) := accepted.email
  rw [memberEmail, email, Option.getD_some, str_str, accepted.normal]

theorem idempotencyKey_length (assetId : Uuid) (email : String) :
    (idempotencyKey assetId email).length = 17 + (uuidStr assetId).length + (lower email).length := by
  have asset : "asset:".length = 6 := by decide
  have recipient : ":recipient:".length = 11 := by decide
  unfold idempotencyKey
  rw [String.length_append, String.length_append, String.length_append, asset, recipient]
  omega

/-- The ledger files every attempt under the address it is for. -/
theorem emailAttempts_key {plan : EmailPlan} {result : Option DispatchResult} {now : Int} {attempt : DispatchAttempt}
    (written : attempt ∈ emailAttempts plan result now) :
    attempt.idempotencyKey = idempotencyKey plan.asset.id attempt.recipientIdentifier := by
  rcases List.mem_append.mp written with skipped | told
  · obtain ⟨entry, _, rfl⟩ := List.mem_map.mp skipped
    rfl
  · cases result with
    | none => cases told
    | some result =>
      obtain ⟨entry, _, rfl⟩ := List.mem_map.mp told
      unfold verdictAttempt
      split <;> rfl

/-- An id of 36 characters leaves 147 of the ledger's column to the address. A row
of the parser may have a longer one, as it checks the form of an address alone. -/
theorem idempotencyKey_fits_iff [PyUpper] {content : String} {maxRows : Nat} {result : CsvParseResult} {row : ParsedRow}
    (parsed : parseCsv content maxRows = .ok result) (valid : row ∈ result.valid) (audienceId : Uuid) {assetId : Uuid}
    (canonical : (uuidStr assetId).length = 36) :
    (idempotencyKey assetId (memberEmail (row.member audienceId))).length ≤ idempotencyKeyWidth ↔
      row.externalId.length ≤ 147 := by
  have accepted := (parseCsv_accepted parsed).1 row valid
  have lowered : lower row.externalId = row.externalId := by
    rw [← accepted.normal, lower_normalised]
  rw [memberEmail_member accepted, idempotencyKey_length, lowered, canonical, idempotencyKeyWidth]
  omega

end LedgerKey

namespace LedgerKey

local instance ledgerText : PyText := PyText.plain

local instance ledgerUpper : PyUpper := ⟨fun s => s⟩

/-- An address of 148 characters, no part of it longer than it may be. -/
private def longChars : List Char :=
  List.replicate 50 'a' ++ '@' :: List.replicate 50 'b' ++ '.' :: List.replicate 42 'c' ++ ['.', 'c', 'o', 'm']

private def longAddress : String := String.ofList longChars

private def longFile : String := String.ofList ("email\n".toList ++ longChars ++ ['\n'])

private def longRow : ParsedRow := ⟨2, longAddress, [("email", .str longAddress)]⟩

/-- A scheduled email, under an id of 36 characters, to the uploaded row. -/
private def uploaded : Db where
  campaigns := [⟨0, 1, "spring", .live, 100, "EUR", 0, 30, [], none⟩]
  assets := [⟨36, 1, 0, none, .email, .scheduled, some "first", some "hello", [], true, none, none⟩]
  audiences := [⟨8, 1, 0, 0⟩]
  audienceMembers := [longRow.member 8]
  credentials := [⟨1, none, "sendgrid", [("api_key", .str "key"), ("default_from_email", .str "news@shop.io")]⟩]

private theorem longAddress_length : longAddress.length = 148 := by
  have chars : longChars.length = 148 := by decide +kernel
  exact String.length_ofList.trans chars

private theorem longFile_records : Csv.records {} (Csv.lines longFile.toList) = ([["email"], [longAddress]], none) := by
  have chars : longFile.toList = "email\n".toList ++ longChars ++ ['\n'] := String.toList_ofList
  rw [chars]
  decide +kernel

private theorem longFile_parsed : parseCsv longFile defaultMaxRows = .ok ⟨1, [longRow], []⟩ := by
  rw [parseCsv_of_records longFile_records (by decide) (by decide)]
  decide +kernel

/-- The upload admits the address and the provider takes it; its key does not fit the ledger. -/
theorem idempotencyKey_overflows :
    parseCsv longFile defaultMaxRows = .ok ⟨1, [longRow], []⟩ ∧ longRow.externalId.length ≤ externalIdWidth ∧
      ∃ plan, beginEmail uploaded "secret" 36 0 = .ok (some plan) ∧
        ∃ outcome, callEmail uploaded plan (.response 202 "" "m1") 90 = some outcome ∧
          outcome.handed.map EmailRecipient.email = [longRow.externalId] ∧
          ∃ sent, outcome.result = .ok sent ∧ ∃ attempt ∈ emailAttempts plan (some sent) 0,
            attempt.status = .sent ∧ idempotencyKeyWidth < attempt.idempotencyKey.length := by
  have read : ∃ plan ∈ (beginEmail uploaded "secret" 36 0).toOption.join,
      ∃ outcome ∈ callEmail uploaded plan (.response 202 "" "m1") 90,
        outcome.handed.map EmailRecipient.email = [longRow.externalId] ∧
        ∃ sent ∈ outcome.result.toOption, ∃ attempt ∈ emailAttempts plan (some sent) 0,
          attempt.status = .sent ∧ plan.asset.id = 36 ∧ attempt.recipientIdentifier = longAddress := by
    decide +kernel
  obtain ⟨plan, planned, outcome, called, handed, sent, done, attempt, written, accepted, asset, address⟩ := read
  refine ⟨longFile_parsed, ?_, plan, ok_some_of_mem planned, outcome, called, handed, sent, ok_of_mem done, attempt,
    written, accepted, ?_⟩
  · exact le_of_eq_of_le longAddress_length (by decide)
  · have lowered : (lower longAddress).length = 148 := longAddress_length
    have canonical : (uuidStr 36).length = 36 := by decide
    rw [emailAttempts_key written, asset, address, idempotencyKey_length, lowered, canonical]
    decide

/-- An address of eleven characters leaves room. -/
theorem idempotencyKey_fits_short :
    ∃ result, parseCsv "email\nann@mail.io\n" defaultMaxRows = .ok result ∧
      ∃ row ∈ result.valid, row.externalId = "ann@mail.io" ∧
        ((idempotencyKey 36 (memberEmail (row.member 8))).length ≤ idempotencyKeyWidth ↔ row.externalId.length ≤ 147) := by
  have read : ∃ result ∈ (parseCsv "email\nann@mail.io\n" defaultMaxRows).toOption,
      ∃ row ∈ result.valid, row.externalId = "ann@mail.io" := by decide +kernel
  obtain ⟨result, parsed, row, valid, address⟩ := read
  exact ⟨result, ok_of_mem parsed, row, valid, address,
    idempotencyKey_fits_iff (ok_of_mem parsed) valid 8 (by decide)⟩

end LedgerKey

end MarketingAgents
