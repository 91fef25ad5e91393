import MarketingAgents.Api.Campaigns
import MarketingAgents.Audiences.CsvAccounting

namespace MarketingAgents

open Lib PyText PyUpper CsvUpload

def maxUploadBytes : Nat := 10 * 1024 * 1024

def maxInlineErrors : Nat := 100

structure UploadFile where
  filename : Option String
  content : ByteArray

structure CsvUploadSummary where
  totalRows : Nat
  imported : Nat
  skippedDuplicate : Nat
  failed : Nat
deriving DecidableEq

structure CsvUploadResponse where
  audienceId : Uuid
  audienceName : String
  summary : CsvUploadSummary
  errors : List CsvRowError
  errorsTruncated : Bool
deriving DecidableEq

namespace CsvUpload

/-- The numbers of the response. -/
def summaryOf (result : CsvParseResult) : CsvUploadSummary where
  totalRows := result.totalRows
  imported := result.valid.length
  skippedDuplicate := (result.errors.filter fun e => e.reason = "duplicate_in_file").length
  failed := (result.errors.filter fun e => e.reason ≠ "duplicate_in_file").length

section Upload

variable [PyText] [PyUpper]

/-- What the columns of `audience_member` take. -/
def memberFits (row : ParsedRow) : Prop := row.externalId.length ≤ 200 ∧ Json.fieldsStorable row.payload = true

instance (row : ParsedRow) : Decidable (memberFits row) := inferInstanceAs (Decidable (_ ∧ _))

def optionalText (text : Option String) : Json := (text.map Json.str).getD .null

/-- The `ingest.csv_upload` row of the operator's list. -/
def ingestJob (id tenantId campaignId agentId audienceId : Uuid) (file : UploadFile) (result : CsvParseResult) (now : Int) :
    Task where
  id := id
  tenantId := tenantId
  campaignId := some campaignId
  agentId := agentId
  parentTaskId := none
  skillName := "ingest.csv_upload"
  status := .succeeded
  priority := 5
  attempt := 1
  maxAttempts := 3
  idempotencyKey := none
  leasedUntil := none
  workerId := none
  inputData := [("filename", optionalText file.filename), ("rows_attempted", .int result.totalRows),
    ("audience_id", .str (uuidStr audienceId))]
  outputData := [("imported", .int (summaryOf result).imported),
    ("skipped_duplicate", .int (summaryOf result).skippedDuplicate), ("failed", .int (summaryOf result).failed),
    ("audience_id", .str (uuidStr audienceId))]
  errorMessage := none
  scheduledFor := now
  startedAt := some now
  completedAt := some now

/-- How a failure of the reader leaves the endpoint. -/
def csvRaised (error : Csv.Error) : AppError :=
  match error with
  | .newLineInUnquotedField | .fieldLimit => .raised "csv.Error"

/-- `upload_audience_csv`. -/
def uploadAudienceCsv (db : Db) (user : AppUser) (campaignId : Uuid) (file : UploadFile) (name : Option String) (now : Int) :
    Except AppError (Db × CsvUploadResponse) := do
  require (UserRole.marketer.rank ≤ user.role.rank) (.http 403 "requires role >= marketer")
  require (file.content.size ≤ maxUploadBytes) (.http 413 "file exceeds 10 MB limit")
  let _ ← orRaise (db.tenantCampaign? user campaignId) (.http 404 "campaign not found")
  let text ← orRaise (String.fromUTF8? file.content) (.http 400 "file is not valid UTF-8")
  let result ← (parseCsv text defaultMaxRows).mapError csvRaised
  require (¬ (result.totalRows = 0 ∧ result.errors ≠ [])) (.http 400 ((result.errors.head?.map CsvRowError.reason).getD ""))
  let audienceName := (name.filter (· ≠ "")).getD
    ("CSV upload — " ++ (file.filename.filter (· ≠ "")).getD "unnamed")
  require (audienceName.length ≤ 200 ∧ Json.storable (.str audienceName) = true ∧
    Json.storable (optionalText file.filename) = true) (.raised "DataError")
  require (∀ row ∈ result.valid, memberFits row) (.raised "DataError")
  let audienceId := db.nextId
  let db := insertAudience db user.tenantId campaignId (result.valid.map fun row => (row.externalId, row.payload)) now
  let (db, agentId) := db.ensureAgent user.tenantId .orchestrator
  let job := ingestJob db.nextId user.tenantId campaignId agentId audienceId file result now
  pure ({ db with tasks := db.tasks ++ [job], nextId := db.nextId + 1 },
    { audienceId := audienceId
      audienceName := audienceName
      summary := summaryOf result
      errors := result.errors.take maxInlineErrors
      errorsTruncated := maxInlineErrors < result.errors.length })

omit [PyText] [PyUpper] in
theorem summaryOf_balance {result : CsvParseResult} (balance : result.totalRows = result.valid.length + result.errors.length) :
    (summaryOf result).imported + (summaryOf result).skippedDuplicate + (summaryOf result).failed =
      (summaryOf result).totalRows := by
  have split := List.length_eq_length_filter_add (l := result.errors) fun e => decide (e.reason = "duplicate_in_file")
  simp only [summaryOf, ne_eq, decide_not]
  omega

/-- An upload that is answered has parsed the text of the file, under a header with addresses. -/
theorem uploadAudienceCsv_parsed {db db' : Db} {user : AppUser} {campaignId : Uuid} {file : UploadFile} {name : Option String}
    {now : Int} {response : CsvUploadResponse}
    (done : uploadAudienceCsv db user campaignId file name now = .ok (db', response)) :
    ∃ text result, String.fromUTF8? file.content = some text ∧
      parseReader (readerOf text) defaultMaxRows = .ok result ∧
      "email" ∈ (readerOf text).fieldnames.map normalised ∧ response.summary = summaryOf result := by
  obtain ⟨_, _, done⟩ := bind_eq_ok.mp done
  obtain ⟨_, _, done⟩ := bind_eq_ok.mp done
  obtain ⟨_, _, done⟩ := bind_eq_ok.mp done
  obtain ⟨text, decoded, done⟩ := bind_eq_ok.mp done
  obtain ⟨result, parsed, done⟩ := bind_eq_ok.mp done
  obtain ⟨_, sound, done⟩ := bind_eq_ok.mp done
  obtain ⟨_, _, done⟩ := bind_eq_ok.mp done
  obtain ⟨_, _, done⟩ := bind_eq_ok.mp done
  have read := parseReader_of_parseCsv (mapError_eq_ok.mp parsed)
  refine ⟨text, result, orRaise_eq_ok.mp decoded, read, ?_, ?_⟩
  · by_contra unnamed
    rw [parseReader, if_pos unnamed] at read
    cases read
    exact require_eq_ok.mp sound ⟨rfl, List.cons_ne_nil _ _⟩
  · cases done
    rfl

/-- The parser accounts for each record that it reads, whatever the records and the
limit: each is valid or among the errors, under its own number, and the valid ones
are the first of their address that pass the checks. The summary of an upload adds
up. -/
theorem csv_accounting :
    (∀ (fieldnames : List String) (rows : List (Dict String (Option String))) (maxRows : Int),
      "email" ∈ fieldnames.map normalised →
        ∃ result, parseReader { fieldnames := fieldnames, rows := rows } maxRows = .ok result ∧ Accounts rows maxRows result) ∧
    ∀ db user campaignId file name now db' response, uploadAudienceCsv db user campaignId file name now = .ok (db', response) →
      response.summary.imported + response.summary.skippedDuplicate + response.summary.failed =
        response.summary.totalRows := by
  refine ⟨fun fieldnames rows maxRows named => ?_, fun db user campaignId file name now db' response done => ?_⟩
  · obtain ⟨result, parsed⟩ := parseReader_total rows maxRows named
    exact ⟨result, parsed, parseReader_accounts named parsed⟩
  · obtain ⟨text, result, _, parsed, named, same⟩ := uploadAudienceCsv_parsed done
    rw [same]
    exact summaryOf_balance (parseReader_accounts named parsed).balance

end Upload

namespace SmallFile

local instance smallText : PyText := PyText.plain

local instance smallUpper : PyUpper := ⟨id⟩

def marketer : AppUser := { id := 3, tenantId := 1, role := .marketer }

def campaign : Campaign where
  id := 5
  tenantId := 1
  name := "Spring"
  status := .drafted
  budgetTotal := 300
  currency := "EUR"
  startDate := 0
  endDate := 30

def db : Db := { campaigns := [campaign], nextId := 9 }

/-- Two addresses, the first one again, and no address. -/
def file : UploadFile := ⟨some "seed.csv", "email\nann@mail.io\nbob@mail.io\nann@mail.io\nnobody".toUTF8⟩

theorem csv_accounting_small : ∃ db' response, uploadAudienceCsv db marketer 5 file none 0 = .ok (db', response) ∧
    response.summary = ⟨4, 2, 1, 1⟩ ∧
    response.summary.imported + response.summary.skippedDuplicate + response.summary.failed = response.summary.totalRows ∧
    ∃ result, parseReader { fieldnames := ["email"], rows := [[("email", some "ann@mail.io")]] } (-1) = .ok result ∧
      Accounts [[("email", some "ann@mail.io")]] (-1) result := by
  have run : ∃ found ∈ (uploadAudienceCsv db marketer 5 file none 0).toOption, found.2.summary = ⟨4, 2, 1, 1⟩ := by
    decide +kernel
  obtain ⟨⟨db', response⟩, made, counted⟩ := run
  have done := ok_of_mem made
  exact ⟨db', response, done, counted, csv_accounting.2 _ _ _ _ _ _ _ _ done,
    csv_accounting.1 ["email"] _ _ (by decide)⟩

end SmallFile

end CsvUpload

end MarketingAgents
