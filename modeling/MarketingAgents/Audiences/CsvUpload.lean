import MarketingAgents.Db.Text
import MarketingAgents.Lib.Result

namespace MarketingAgents

open Lib PyText

namespace Csv

/-- Where `csv.reader` is in a record. -/
inductive State where
  | startRecord
  | startField
  | inField
  | inQuotedField
  | quoteInQuotedField
  | eatCrnl
deriving DecidableEq

/-- `csv.Error`. -/
inductive Error where
  | newLineInUnquotedField
  | fieldLimit
deriving DecidableEq

/-- The record so far, its last character and its last field first. -/
structure Reader where
  state : State := .startRecord
  field : List Char := []
  fields : List String := []

/-- `csv.field_size_limit()`. -/
def fieldLimit : Nat := 131072

namespace Reader

def saveField (r : Reader) (state : State) : Reader := ⟨state, [], String.ofList r.field.reverse :: r.fields⟩

def addChar (r : Reader) (state : State) (c : Char) : Except Error Reader :=
  if fieldLimit ≤ r.field.length then .error .fieldLimit else .ok { r with state := state, field := c :: r.field }

/-- `none` ends a line, after its newline. -/
def lineBreak : Option Char → Bool
  | none => true
  | some c => c = '\n' || c = '\r'

def endRecord (r : Reader) (c : Option Char) : Reader :=
  r.saveField (if c = none then .startRecord else .eatCrnl)

def startField (r : Reader) (c : Option Char) : Except Error Reader :=
  if lineBreak c then .ok (r.endRecord c)
  else
    match c with
    | some '"' => .ok { r with state := .inQuotedField }
    | some ',' => .ok (r.saveField .startField)
    | some c => r.addChar .inField c
    | none => .ok r

/-- `parse_process_char`, in the dialect `excel`. -/
def processChar (r : Reader) (c : Option Char) : Except Error Reader :=
  match r.state with
  | .startRecord =>
    if c = none then .ok r
    else if lineBreak c then .ok { r with state := .eatCrnl }
    else r.startField c
  | .startField => r.startField c
  | .inField =>
    if lineBreak c then .ok (r.endRecord c)
    else
      match c with
      | some ',' => .ok (r.saveField .startField)
      | some c => r.addChar .inField c
      | none => .ok r
  | .inQuotedField =>
    match c with
    | none => .ok r
    | some '"' => .ok { r with state := .quoteInQuotedField }
    | some c => r.addChar .inQuotedField c
  | .quoteInQuotedField =>
    if lineBreak c then .ok (r.endRecord c)
    else
      match c with
      | some '"' => r.addChar .inQuotedField '"'
      | some ',' => .ok (r.saveField .startField)
      | some c => r.addChar .inField c
      | none => .ok r
  | .eatCrnl =>
    if c = none then .ok { r with state := .startRecord }
    else if lineBreak c then .ok r
    else .error .newLineInUnquotedField

end Reader

/-- The lines of `io.StringIO`: its characters, with `none` at the end of each line. -/
def lines : List Char → List (Option Char)
  | [] => []
  | [c] => [some c, none]
  | c :: rest => if c = '\n' then some c :: none :: lines rest else some c :: lines rest

/-- The records that `csv.reader` yields, and the error it ends with, if any. -/
def records (r : Reader) : List (Option Char) → List (List String) × Option Error
  | [] => (if r.state = .inQuotedField then [(r.saveField .startRecord).fields.reverse] else [], none)
  | c :: rest =>
    match r.processChar c with
    | .error error => ([], some error)
    | .ok next =>
      if c = none ∧ next.state = .startRecord then
        let later := records {} rest
        (next.fields.reverse :: later.1, later.2)
      else records next rest

/-- A row of `csv.DictReader`. What is left over it files under `None`, which
`parse_csv` passes over. -/
def dictRow (fieldnames row : List String) : Dict String (Option String) :=
  let d := (fieldnames.zip row).foldl (fun d entry => Dict.set d entry.1 (some entry.2)) []
  (fieldnames.drop row.length).foldl (fun d key => Dict.set d key none) d

end Csv

/-- `str.upper`. -/
class PyUpper where
  upper : String → String

open PyUpper

structure CsvRowError where
  row : Nat
  reason : String
  field : Option String := none
  value : Option String := none
deriving DecidableEq

structure ParsedRow where
  rowNumber : Nat
  externalId : String
  payload : Dict String Json
deriving DecidableEq

structure CsvParseResult where
  totalRows : Nat
  valid : List ParsedRow
  errors : List CsvRowError
deriving DecidableEq

namespace CsvUpload

def nameFields : List String := ["first_name", "last_name", "company", "title", "industry"]

def maxNameLen : Nat := 200

def defaultMaxRows : Nat := 10000

/-- The pattern's `$` also matches before a final newline. -/
def patternText (s : String) : List Char :=
  if s.toList.getLast? = some '\n' then s.toList.dropLast else s.toList

def hostChar (c : Char) : Bool := c.isAlphanum || c ∈ ['.', '-']

def localChar (c : Char) : Bool := c.isAlphanum || c ∈ ['.', '_', '%', '+', '-']

/-- `_EMAIL_RE.match`: the last dot has a host before it, and letters alone after it. -/
def emailRe (email : String) : Bool :=
  match (patternText email).splitOn '@' with
  | [name, domain] =>
    let top := (domain.splitOn '.').getLast?.getD []
    let host := domain.take (domain.length - top.length - 1)
    !name.isEmpty && name.all localChar && !host.isEmpty && host.all hostChar && decide (2 ≤ top.length) &&
      top.all Char.isAlpha
  | _ => false

/-- `_COUNTRY_RE.match`. -/
def countryRe (country : String) : Bool := (patternText country).length = 2 && (patternText country).all Char.isAlpha

section Parse

variable [PyText]

/-- The row with its keys in lower case, and without outer blanks. -/
def normalizedRow (raw : Dict String (Option String)) : Dict String String :=
  raw.foldl (fun d entry => Dict.set d (normalised entry.1) (strip (entry.2.getD ""))) []

def fieldOf (row : Dict String String) (key : String) : String := (row.get? key).getD ""

def emailOf (row : Dict String String) : String := lower (fieldOf row "email")

variable [PyUpper]

def countryOf (row : Dict String String) : String := upper (fieldOf row "country")

/-- The first check that a row fails. -/
def rowFault (seen : List String) (number : Nat) (row : Dict String String) : Option CsvRowError :=
  let email := emailOf row
  let country := countryOf row
  if email = "" then some { row := number, reason := "missing_required_field", field := some "email" }
  else if ¬ emailRe email then
    some { row := number, reason := "invalid_email_format", field := some "email", value := some email }
  else
    match nameFields.find? fun f => maxNameLen < (fieldOf row f).length with
    | some long =>
      some { row := number, reason := "field_too_long", field := some long, value := some ("max=" ++ toString maxNameLen) }
    | none =>
      if country ≠ "" ∧ ¬ countryRe country then
        some { row := number, reason := "invalid_country_code", field := some "country", value := some country }
      else if email ∈ seen then
        some { row := number, reason := "duplicate_in_file", field := some "email", value := some email }
      else none

/-- `t.strip() for t in tags_raw.split(",") if t.strip()`. -/
def tagsOf (row : Dict String String) : List String :=
  (((fieldOf row "tags").toList.splitOn ',').map fun tag => strip (String.ofList tag)).filter (· ≠ "")

def copyFields (row : Dict String String) (fields : List String) (payload : Dict String Json) : Dict String Json :=
  (fields.filter (fieldOf row · ≠ "")).foldl (fun payload f => Dict.set payload f (.str (fieldOf row f))) payload

def payloadOf (row : Dict String String) : Dict String Json :=
  let payload := copyFields row nameFields [("email", .str (emailOf row))]
  let payload := if countryOf row = "" then payload else payload.set "country" (.str (countryOf row))
  let payload := if tagsOf row = [] then payload else payload.set "tags" (.arr ((tagsOf row).map .str))
  copyFields row ["linkedin_url", "phone", "seniority"] payload

structure Scan where
  valid : List ParsedRow := []
  errors : List CsvRowError := []
  seenEmails : List String := []

/-- One pass of the loop over the rows. -/
def scanRow (scan : Scan) (entry : Dict String (Option String) × Nat) : Scan :=
  let row := normalizedRow entry.1
  match rowFault scan.seenEmails entry.2 row with
  | some fault => { scan with errors := scan.errors ++ [fault] }
  | none =>
    { scan with
      valid := scan.valid ++ [⟨entry.2, emailOf row, payloadOf row⟩]
      seenEmails := emailOf row :: scan.seenEmails }

/-- The rows are numbered from 2, after the header. -/
def scanRows (fieldnames : List String) (rows : List (List String)) : Scan :=
  ((rows.map (Csv.dictRow fieldnames)).zipIdx 2).foldl scanRow {}

/-- `parse_csv`. The row after the last one allowed is read, and ends the loop. -/
def parseCsv (content : String) (maxRows : Nat) : Except Csv.Error CsvParseResult :=
  match Csv.records {} (Csv.lines content.toList) with
  | ([], some error) => .error error
  | (records, error) =>
    let fieldnames := records.headD []
    if "email" ∉ fieldnames.map normalised then
      .ok ⟨0, [], [{ row := 0, reason := "missing_required_header", field := some "email" }]⟩
    else
      let rows := records.tail.filter (· ≠ [])
      if maxRows < rows.length then
        let scan := scanRows fieldnames (rows.take maxRows)
        .ok ⟨maxRows + 1, scan.valid, scan.errors ++
          [{ row := maxRows + 2, reason := "file_exceeds_max_rows", value := some (toString maxRows) }]⟩
      else
        match error with
        | some error => .error error
        | none =>
          let scan := scanRows fieldnames rows
          .ok ⟨rows.length, scan.valid, scan.errors⟩

omit [PyUpper] in
theorem strip_fieldOf (raw : Dict String (Option String)) (key : String) :
    strip (fieldOf (normalizedRow raw) key) = fieldOf (normalizedRow raw) key := by
  have stripped : ∀ entry ∈ normalizedRow raw, strip entry.2 = entry.2 := by
    unfold normalizedRow
    refine List.foldlRecOn raw _ (motive := fun d : Dict String String => ∀ entry ∈ d, strip entry.2 = entry.2)
      (by simp) fun d kept column _ entry member => ?_
    rcases Dict.mem_set member with rfl | old
    · exact strip_strip _
    · exact kept entry old
  unfold fieldOf
  cases found : (normalizedRow raw).get? key with
  | none => exact strip_empty
  | some value => exact stripped _ (Dict.mem_of_get? found)

omit [PyUpper] in
theorem normalised_emailOf (raw : Dict String (Option String)) :
    normalised (emailOf (normalizedRow raw)) = emailOf (normalizedRow raw) := by
  rw [normalised, emailOf, strip_lower, lower_lower, strip_fieldOf]

omit [PyText] [PyUpper] in
theorem get?_copyFields {row : Dict String String} {fields : List String} {payload : Dict String Json} {key : String}
    (other : key ∉ fields) : (copyFields row fields payload).get? key = payload.get? key := by
  unfold copyFields
  refine List.foldlRecOn _ _ (motive := fun d => Dict.get? d key = payload.get? key) rfl
    fun d kept field member => ?_
  have differs : field ≠ key := fun same => other (same ▸ List.mem_of_mem_filter member)
  rw [Dict.get?_set_ne _ _ differs, kept]

theorem payloadOf_email (row : Dict String String) : (payloadOf row).get? "email" = some (.str (emailOf row)) := by
  have names : (copyFields row nameFields [("email", .str (emailOf row))]).get? "email" = some (.str (emailOf row)) :=
    get?_copyFields (by decide)
  unfold payloadOf
  rw [get?_copyFields (by decide)]
  split
  · split
    · exact names
    · rw [Dict.get?_set_ne _ _ (by decide), names]
  · split
    · rw [Dict.get?_set_ne _ _ (by decide), names]
    · rw [Dict.get?_set_ne _ _ (by decide), Dict.get?_set_ne _ _ (by decide), names]

/-- What the upload has checked of a row: it goes by its own address. -/
structure Accepted (row : ParsedRow) : Prop where
  normal : normalised row.externalId = row.externalId
  address : emailRe row.externalId = true
  email : row.payload.get? "email" = some (.str row.externalId)

/-- The rows so far, the first of each address. -/
structure Scanned (scan : Scan) : Prop where
  accepted : ∀ row ∈ scan.valid, Accepted row
  seen : ∀ row ∈ scan.valid, row.externalId ∈ scan.seenEmails
  distinct : (scan.valid.map ParsedRow.externalId).Nodup

theorem rowFault_none {seen : List String} {number : Nat} {row : Dict String String}
    (faultless : rowFault seen number row = none) : emailRe (emailOf row) = true ∧ emailOf row ∉ seen := by
  unfold rowFault at faultless
  dsimp only at faultless
  split at faultless
  · cases faultless
  · split at faultless
    · cases faultless
    · rename_i address
      split at faultless
      · cases faultless
      · split at faultless
        · cases faultless
        · split at faultless
          · cases faultless
          · exact ⟨not_not.mp address, by assumption⟩

theorem scanRow_scanned {scan : Scan} {entry : Dict String (Option String) × Nat} (holds : Scanned scan) :
    Scanned (scanRow scan entry) := by
  unfold scanRow
  dsimp only
  split
  · exact ⟨holds.accepted, holds.seen, holds.distinct⟩
  · rename_i faultless
    obtain ⟨address, fresh⟩ := rowFault_none faultless
    refine ⟨fun row member => ?_, fun row member => ?_, ?_⟩
    · rcases List.mem_append.mp member with old | new
      · exact holds.accepted row old
      · cases List.mem_singleton.mp new
        exact ⟨normalised_emailOf _, address, payloadOf_email _⟩
    · rcases List.mem_append.mp member with old | new
      · exact List.mem_cons_of_mem _ (holds.seen row old)
      · cases List.mem_singleton.mp new
        exact List.mem_cons_self
    · rw [List.map_append, List.map_singleton, List.nodup_append]
      refine ⟨holds.distinct, by simp, fun id old id' new same => ?_⟩
      obtain ⟨row, member, rfl⟩ := List.mem_map.mp old
      have here := holds.seen row member
      rw [same, List.mem_singleton.mp new] at here
      exact fresh here

theorem scanRows_accepted (fieldnames : List String) (rows : List (List String)) :
    (∀ row ∈ (scanRows fieldnames rows).valid, Accepted row) ∧
      ((scanRows fieldnames rows).valid.map ParsedRow.externalId).Nodup := by
  have holds : Scanned (scanRows fieldnames rows) :=
    List.foldlRecOn _ _ (motive := Scanned) ⟨by simp, by simp, List.nodup_nil⟩ fun _ holds _ _ => scanRow_scanned holds
  exact ⟨holds.accepted, holds.distinct⟩

/-- Whatever the file, each row of the result goes by its own address, and no two by the same. -/
theorem parseCsv_accepted {content : String} {maxRows : Nat} {result : CsvParseResult}
    (parsed : parseCsv content maxRows = .ok result) :
    (∀ row ∈ result.valid, Accepted row) ∧ (result.valid.map ParsedRow.externalId).Nodup := by
  unfold parseCsv at parsed
  split at parsed
  · cases parsed
  · dsimp only at parsed
    split at parsed
    · cases Except.ok.inj parsed
      exact ⟨by simp, List.nodup_nil⟩
    · split at parsed
      · cases Except.ok.inj parsed
        exact scanRows_accepted ..
      · split at parsed
        · cases parsed
        · cases Except.ok.inj parsed
          exact scanRows_accepted ..

/-- A readable file within the limit, under a header with addresses: every row is scanned. -/
theorem parseCsv_of_records {content : String} {maxRows : Nat} {fieldnames : List String} {rows : List (List String)}
    (read : Csv.records {} (Csv.lines content.toList) = (fieldnames :: rows, none))
    (named : "email" ∈ fieldnames.map normalised) (short : (rows.filter (· ≠ [])).length ≤ maxRows) :
    parseCsv content maxRows = .ok ⟨(rows.filter (· ≠ [])).length, (scanRows fieldnames (rows.filter (· ≠ []))).valid,
      (scanRows fieldnames (rows.filter (· ≠ []))).errors⟩ := by
  unfold parseCsv
  rw [read]
  exact (if_neg (not_not.mpr named)).trans (if_neg (Nat.not_lt.mpr short))

end Parse

end CsvUpload

end MarketingAgents
