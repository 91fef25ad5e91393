import Mathlib.Data.List.Range
import MarketingAgents.Audiences.CsvUpload

namespace MarketingAgents

open Lib PyText PyUpper

namespace CsvUpload

/-- `csv.DictReader`: the header, one mapping for each record, and the error it ends with, if any. -/
structure DictReader where
  fieldnames : List String
  rows : List (Dict String (Option String))
  error : Option Csv.Error := none

section Loop

variable [PyText] [PyUpper]

/-- The error of the row after the last one allowed. -/
def limitError (number : Nat) (maxRows : Int) : CsvRowError where
  row := number
  reason := "file_exceeds_max_rows"
  value := some (toString maxRows)

/-- The loop of `parse_csv` once it has counted `total` rows. -/
def readRows (maxRows : Int) (error : Option Csv.Error) :
    List (Dict String (Option String)) → Nat → Scan → Except Csv.Error (Nat × Scan)
  | [], total, scan =>
    match error with
    | some error => .error error
    | none => .ok (total, scan)
  | raw :: rest, total, scan =>
    if maxRows < (total + 1 : Nat) then
      .ok (total + 1, { scan with errors := scan.errors ++ [limitError (total + 2) maxRows] })
    else readRows maxRows error rest (total + 1) (scanRow scan (raw, total + 2))

/-- `parse_csv`, from the reader on. -/
def parseReader (reader : DictReader) (maxRows : Int) : Except Csv.Error CsvParseResult :=
  if "email" ∉ reader.fieldnames.map normalised then
    .ok ⟨0, [], [{ row := 0, reason := "missing_required_header", field := some "email" }]⟩
  else (readRows maxRows reader.error reader.rows 0 {}).map fun found => ⟨found.1, found.2.valid, found.2.errors⟩

/-- The scan of some rows, from the number of the first. -/
def scanFrom (number : Nat) (scan : Scan) (rows : List (Dict String (Option String))) : Scan :=
  (rows.zipIdx number).foldl scanRow scan

theorem readRows_within {maxRows : Int} {rows : List (Dict String (Option String))} {total : Nat}
    (room : rows ≠ [] → (total + rows.length : Nat) ≤ maxRows) (error : Option Csv.Error) (scan : Scan) :
    readRows maxRows error rows total scan =
      match error with
      | some error => .error error
      | none => .ok (total + rows.length, scanFrom (total + 2) scan rows) := by
  induction rows generalizing total scan with
  | nil => rfl
  | cons raw rest ih =>
    have fits := room (List.cons_ne_nil _ _)
    rw [List.length_cons] at fits
    rw [readRows, if_neg (by omega), ih fun _ => by omega, List.length_cons, scanFrom, scanFrom, List.zipIdx_cons,
      List.foldl_cons, show total + 1 + rest.length = total + (rest.length + 1) by omega]

theorem readRows_beyond {maxRows : Int} {rows : List (Dict String (Option String))} {total : Nat}
    (some_ : rows ≠ []) (long : maxRows < (total + rows.length : Nat)) (error : Option Csv.Error) (scan : Scan) :
    readRows maxRows error rows total scan =
      let count := (maxRows - total).toNat
      let read := scanFrom (total + 2) scan (rows.take count)
      .ok (total + count + 1, { read with errors := read.errors ++ [limitError (total + count + 2) maxRows] }) := by
  induction rows generalizing total scan with
  | nil => exact absurd rfl some_
  | cons raw rest ih =>
    rw [List.length_cons] at long
    rw [readRows]
    split
    · rename_i beyond
      have none_ : (maxRows - total).toNat = 0 := by omega
      rw [none_]
      rfl
    · rename_i under
      have more : rest ≠ [] := by
        rintro rfl
        rw [List.length_nil] at long
        omega
      have next : (maxRows - total).toNat = (maxRows - (total + 1 : Nat)).toNat + 1 := by omega
      rw [ih more (by omega), next]
      simp only [scanFrom, List.take_succ_cons, List.zipIdx_cons, List.foldl_cons]
      rw [show total + 1 + (maxRows - (total + 1 : Nat)).toNat = total + ((maxRows - (total + 1 : Nat)).toNat + 1) by omega]

/-- The checks of a row, less the one on the addresses before it. -/
structure Passes (row : Dict String String) : Prop where
  given : emailOf row ≠ ""
  address : emailRe (emailOf row) = true
  short : ∀ f ∈ nameFields, (fieldOf row f).length ≤ maxNameLen
  country : countryOf row = "" ∨ countryRe (countryOf row) = true

theorem rowFault_eq_none_iff {seen : List String} {number : Nat} {row : Dict String String} :
    rowFault seen number row = none ↔ Passes row ∧ emailOf row ∉ seen := by
  have names : (nameFields.find? fun f => decide (maxNameLen < (fieldOf row f).length)) = none ↔
      ∀ f ∈ nameFields, (fieldOf row f).length ≤ maxNameLen := by
    simp
  unfold rowFault
  dsimp only
  constructor
  · intro faultless
    split at faultless
    · cases faultless
    · rename_i given
      split at faultless
      · cases faultless
      · rename_i address
        split at faultless
        · cases faultless
        · rename_i short
          split at faultless
          · cases faultless
          · rename_i country
            split at faultless
            · cases faultless
            · rename_i fresh
              refine ⟨⟨given, not_not.mp address, names.mp short, ?_⟩, fresh⟩
              by_contra other
              exact country ⟨fun blank => other (Or.inl blank), fun code => other (Or.inr code)⟩
  · rintro ⟨passes, fresh⟩
    have country : ¬ (countryOf row ≠ "" ∧ ¬ countryRe (countryOf row) = true) := by
      rintro ⟨some_, wrong⟩
      exact passes.country.elim some_ wrong
    rw [if_neg passes.given, if_neg (not_not.mpr passes.address), names.mpr passes.short]
    exact (if_neg country).trans (if_neg fresh)

theorem rowFault_row {seen : List String} {number : Nat} {row : Dict String String} {fault : CsvRowError}
    (found : rowFault seen number row = some fault) : fault.row = number := by
  unfold rowFault at found
  dsimp only at found
  repeat' split at found
  all_goals cases found
  all_goals rfl

/-- The row that the result keeps of a record. -/
def parsedRow (number : Nat) (raw : Dict String (Option String)) : ParsedRow :=
  ⟨number, emailOf (normalizedRow raw), payloadOf (normalizedRow raw)⟩

/-- The row is of the first record with its address that passes. -/
def FirstOfAddress (rows : List (Dict String (Option String))) (row : ParsedRow) : Prop :=
  ∃ before raw after, rows = before ++ raw :: after ∧ row = parsedRow (before.length + 2) raw ∧
    Passes (normalizedRow raw) ∧
    ∀ earlier ∈ before, Passes (normalizedRow earlier) → emailOf (normalizedRow earlier) ≠ emailOf (normalizedRow raw)

/-- The scan accounts for the rows that it has read. -/
structure Accounted (rows : List (Dict String (Option String))) (scan : Scan) : Prop where
  numbers : (scan.valid.map ParsedRow.rowNumber ++ scan.errors.map CsvRowError.row).Perm (List.range' 2 rows.length)
  valid : (scan.valid.map ParsedRow.rowNumber).Pairwise (· < ·)
  errors : (scan.errors.map CsvRowError.row).Pairwise (· < ·)
  seen : ∀ email, email ∈ scan.seenEmails ↔
    ∃ raw ∈ rows, Passes (normalizedRow raw) ∧ emailOf (normalizedRow raw) = email
  first : ∀ row, row ∈ scan.valid ↔ FirstOfAddress rows row

theorem firstOfAddress_append {rows : List (Dict String (Option String))} {raw : Dict String (Option String)}
    {row : ParsedRow} :
    FirstOfAddress (rows ++ [raw]) row ↔ FirstOfAddress rows row ∨
      row = parsedRow (rows.length + 2) raw ∧ Passes (normalizedRow raw) ∧
        ∀ earlier ∈ rows, Passes (normalizedRow earlier) →
          emailOf (normalizedRow earlier) ≠ emailOf (normalizedRow raw) := by
  constructor
  · rintro ⟨before, found, after, cut, same, passes, first⟩
    rcases List.eq_nil_or_concat after with rfl | ⟨after', last, rfl⟩
    · obtain ⟨rfl, one⟩ := List.append_inj' cut rfl
      cases one
      exact Or.inr ⟨same, passes, first⟩
    · have inside : rows ++ [raw] = (before ++ found :: after') ++ [last] := by simpa using cut
      obtain ⟨rfl, _⟩ := List.append_inj' inside rfl
      exact Or.inl ⟨before, found, after', rfl, same, passes, first⟩
  · rintro (⟨before, found, after, rfl, same, passes, first⟩ | ⟨same, passes, first⟩)
    · exact ⟨before, found, after ++ [raw], by simp, same, passes, first⟩
    · exact ⟨rows, raw, [], rfl, same, passes, first⟩

/-- Numbers of rows already read are below the next one. -/
theorem Accounted.below {rows : List (Dict String (Option String))} {scan : Scan} (holds : Accounted rows scan) :
    (∀ n ∈ scan.valid.map ParsedRow.rowNumber, n < rows.length + 2) ∧
      ∀ n ∈ scan.errors.map CsvRowError.row, n < rows.length + 2 := by
  have each : ∀ n ∈ scan.valid.map ParsedRow.rowNumber ++ scan.errors.map CsvRowError.row, n < rows.length + 2 := by
    intro n member
    have inside := List.mem_range'_1.mp (holds.numbers.mem_iff.mp member)
    omega
  exact ⟨fun n member => each n (List.mem_append_left _ member), fun n member => each n (List.mem_append_right _ member)⟩

omit [PyText] [PyUpper] in
theorem pairwise_append_next {numbers : List Nat} {next : Nat} (sorted : numbers.Pairwise (· < ·))
    (below : ∀ n ∈ numbers, n < next) : (numbers ++ [next]).Pairwise (· < ·) :=
  List.pairwise_append.mpr ⟨sorted, List.pairwise_singleton .., fun n member _ last =>
    List.mem_singleton.mp last ▸ below n member⟩

/-- Each pass puts the row on one of the two lists. -/
theorem scanRow_accounted {rows : List (Dict String (Option String))} {scan : Scan} (holds : Accounted rows scan)
    (raw : Dict String (Option String)) : Accounted (rows ++ [raw]) (scanRow scan (raw, rows.length + 2)) := by
  obtain ⟨belowValid, belowErrors⟩ := holds.below
  have range : List.range' 2 (rows ++ [raw]).length = List.range' 2 rows.length ++ [rows.length + 2] := by
    rw [List.length_append, List.length_singleton, List.range'_concat]
    simp [Nat.add_comm]
  unfold scanRow
  dsimp only
  cases judged : rowFault scan.seenEmails (rows.length + 2) (normalizedRow raw) with
  | some fault =>
    have number := rowFault_row judged
    have taken : Passes (normalizedRow raw) → emailOf (normalizedRow raw) ∈ scan.seenEmails := by
      intro passes
      by_contra fresh
      rw [rowFault_eq_none_iff.mpr ⟨passes, fresh⟩] at judged
      cases judged
    refine ⟨?_, holds.valid, ?_, fun email => ?_, fun row => ?_⟩
    · rw [range, List.map_append, List.map_singleton, number, ← List.append_assoc]
      exact holds.numbers.append_right _
    · rw [List.map_append, List.map_singleton, number]
      exact pairwise_append_next holds.errors belowErrors
    · rw [holds.seen email]
      constructor
      · rintro ⟨earlier, member, passes, same⟩
        exact ⟨earlier, List.mem_append_left _ member, passes, same⟩
      · rintro ⟨found, member, passes, same⟩
        rcases List.mem_append.mp member with old | new
        · exact ⟨found, old, passes, same⟩
        · cases List.mem_singleton.mp new
          exact (holds.seen email).mp (same ▸ taken passes)
    · rw [holds.first row, firstOfAddress_append]
      refine ⟨Or.inl, ?_⟩
      rintro (old | ⟨_, passes, first⟩)
      · exact old
      · obtain ⟨earlier, member, passes', same⟩ := (holds.seen _).mp (taken passes)
        exact absurd same (first earlier member passes')
  | none =>
    obtain ⟨passes, fresh⟩ := rowFault_eq_none_iff.mp judged
    refine ⟨?_, ?_, holds.errors, fun email => ?_, fun row => ?_⟩
    · rw [range, List.map_append, List.map_singleton, List.append_assoc]
      refine (List.Perm.append_left _ List.perm_append_comm).trans ?_
      rw [← List.append_assoc]
      exact holds.numbers.append_right _
    · rw [List.map_append, List.map_singleton]
      exact pairwise_append_next holds.valid belowValid
    · rw [List.mem_cons, holds.seen email]
      constructor
      · rintro (rfl | ⟨earlier, member, passes', same⟩)
        · exact ⟨raw, List.mem_append_right _ (List.mem_singleton_self _), passes, rfl⟩
        · exact ⟨earlier, List.mem_append_left _ member, passes', same⟩
      · rintro ⟨found, member, passes', same⟩
        rcases List.mem_append.mp member with old | new
        · exact Or.inr ⟨found, old, passes', same⟩
        · cases List.mem_singleton.mp new
          exact Or.inl same.symm
    · rw [List.mem_append, List.mem_singleton, holds.first row, firstOfAddress_append]
      refine or_congr_right ?_
      constructor
      · rintro rfl
        exact ⟨rfl, passes, fun earlier member passes' same =>
          fresh ((holds.seen _).mpr ⟨earlier, member, passes', same⟩)⟩
      · exact fun found => found.1

theorem scanFrom_accounted (rows : List (Dict String (Option String))) : Accounted rows (scanFrom 2 {} rows) := by
  induction rows using List.reverseRecOn with
  | nil =>
    refine ⟨by simp [scanFrom], by simp [scanFrom], by simp [scanFrom], by simp [scanFrom], fun row => ?_⟩
    constructor
    · intro member
      simp [scanFrom] at member
    · rintro ⟨before, raw, after, cut, _⟩
      simp at cut
  | append_singleton rows raw ih =>
    have step : scanFrom 2 {} (rows ++ [raw]) = scanRow (scanFrom 2 {} rows) (raw, rows.length + 2) := by
      rw [scanFrom, List.zipIdx_append, List.foldl_append, Nat.add_comm 2]
      rfl
    rw [step]
    exact scanRow_accounted ih raw

/-- The account that a result gives of the records. -/
structure Accounts (rows : List (Dict String (Option String))) (maxRows : Int) (result : CsvParseResult) : Prop where
  total : result.totalRows = min rows.length (maxRows.toNat + 1)
  balance : result.totalRows = result.valid.length + result.errors.length
  numbers : (result.valid.map ParsedRow.rowNumber ++ result.errors.map CsvRowError.row).Perm
    (List.range' 2 result.totalRows)
  valid : (result.valid.map ParsedRow.rowNumber).Pairwise (· < ·)
  errors : (result.errors.map CsvRowError.row).Pairwise (· < ·)
  distinct : (result.valid.map ParsedRow.externalId).Nodup
  addresses : ∀ row ∈ result.valid, lower row.externalId = row.externalId ∧ emailRe row.externalId = true
  first : ∀ row, row ∈ result.valid ↔ FirstOfAddress (rows.take maxRows.toNat) row

/-- Two rows of one address are the same record. -/
theorem FirstOfAddress.unique {rows : List (Dict String (Option String))} {row row' : ParsedRow}
    (first : FirstOfAddress rows row) (first' : FirstOfAddress rows row') (same : row.externalId = row'.externalId) :
    row.rowNumber = row'.rowNumber := by
  obtain ⟨before, raw, after, cut, rfl, passes, earliest⟩ := first
  obtain ⟨before', raw', after', cut', rfl, passes', earliest'⟩ := first'
  have lengths : before.length = before'.length := by
    have at_ : rows[before.length]? = some raw := by simp [cut]
    have at_' : rows[before'.length]? = some raw' := by simp [cut']
    rcases Nat.lt_trichotomy before.length before'.length with less | same_ | more
    · rw [cut', List.getElem?_append_left less] at at_
      exact absurd same (earliest' raw (List.mem_of_getElem? at_) passes)
    · exact same_
    · rw [cut, List.getElem?_append_left more] at at_'
      exact absurd same.symm (earliest raw' (List.mem_of_getElem? at_') passes')
  exact congrArg (· + 2) lengths

theorem FirstOfAddress.address {rows : List (Dict String (Option String))} {row : ParsedRow}
    (first : FirstOfAddress rows row) : lower row.externalId = row.externalId ∧ emailRe row.externalId = true := by
  obtain ⟨_, raw, _, _, rfl, passes, _⟩ := first
  exact ⟨lower_lower _, passes.address⟩

/-- The rows of a result are no two of one address. -/
theorem distinct_of_first {rows : List (Dict String (Option String))} {valid : List ParsedRow}
    (sorted : (valid.map ParsedRow.rowNumber).Pairwise (· < ·)) (first : ∀ row ∈ valid, FirstOfAddress rows row) :
    (valid.map ParsedRow.externalId).Nodup := by
  rw [List.Nodup, List.pairwise_map]
  rw [List.pairwise_map] at sorted
  refine List.Pairwise.imp_of_mem (fun {row row'} member member' less same => ?_) sorted
  exact absurd ((first row member).unique (first row' member') same) less.ne

omit [PyText] [PyUpper] in
theorem length_of_numbers {valid : List ParsedRow} {errors : List CsvRowError} {total : Nat}
    (numbers : (valid.map ParsedRow.rowNumber ++ errors.map CsvRowError.row).Perm (List.range' 2 total)) :
    total = valid.length + errors.length := by
  have lengths := numbers.length_eq
  rw [List.length_append, List.length_map, List.length_map, List.length_range'] at lengths
  exact lengths.symm

/-- Whatever the records, the result accounts for each that was read. -/
theorem parseReader_accounts {reader : DictReader} {maxRows : Int} {result : CsvParseResult}
    (named : "email" ∈ reader.fieldnames.map normalised) (parsed : parseReader reader maxRows = .ok result) :
    Accounts reader.rows maxRows result := by
  rw [parseReader, if_neg (not_not.mpr named)] at parsed
  obtain ⟨⟨total, scan⟩, read, rfl⟩ := map_eq_ok.mp parsed
  by_cases long : reader.rows ≠ [] ∧ maxRows < (0 + reader.rows.length : Nat)
  · -- the limit: one more row is counted, as an error
    rw [readRows_beyond long.1 long.2] at read
    simp only [Int.natCast_zero, sub_zero, Nat.zero_add, Except.ok.injEq, Prod.mk.injEq] at read
    obtain ⟨rfl, rfl⟩ := read
    have holds := scanFrom_accounted (reader.rows.take maxRows.toNat)
    have some_ := List.length_pos_iff.mpr long.1
    have count : (reader.rows.take maxRows.toNat).length = maxRows.toNat := by
      rw [List.length_take]
      omega
    have numbers : ((scanFrom 2 {} (reader.rows.take maxRows.toNat)).valid.map ParsedRow.rowNumber ++
        ((scanFrom 2 {} (reader.rows.take maxRows.toNat)).errors ++ [limitError (maxRows.toNat + 2) maxRows]).map
          CsvRowError.row).Perm (List.range' 2 (maxRows.toNat + 1)) := by
      rw [List.map_append, List.map_singleton, ← List.append_assoc, List.range'_concat, Nat.one_mul, Nat.add_comm 2]
      have rest := holds.numbers
      rw [count] at rest
      exact rest.append_right _
    have below := holds.below.2
    rw [count] at below
    have total : maxRows.toNat + 1 = min reader.rows.length (maxRows.toNat + 1) := by omega
    refine ⟨total, length_of_numbers numbers, numbers, holds.valid, ?_, ?_, ?_, holds.first⟩
    · rw [List.map_append, List.map_singleton]
      exact pairwise_append_next holds.errors below
    · exact distinct_of_first holds.valid fun row member => (holds.first row).mp member
    · exact fun row member => ((holds.first row).mp member).address
  · have room : reader.rows ≠ [] → (0 + reader.rows.length : Nat) ≤ maxRows := fun some_ =>
      not_lt.mp fun beyond => long ⟨some_, beyond⟩
    rw [readRows_within room, Nat.zero_add] at read
    split at read
    · cases read
    · cases read
      have holds := scanFrom_accounted reader.rows
      have whole : reader.rows.take maxRows.toNat = reader.rows := by
        rcases List.eq_nil_or_concat reader.rows with none_ | ⟨_, _, cut⟩
        · rw [none_, List.take_nil]
        · have fits := room (by simp [cut])
          exact List.take_of_length_le (by omega)
      have total : reader.rows.length = min reader.rows.length (maxRows.toNat + 1) := by
        rw [← whole, List.length_take]
        omega
      refine ⟨total, length_of_numbers holds.numbers, holds.numbers, holds.valid, holds.errors, ?_, ?_, ?_⟩
      · exact distinct_of_first holds.valid fun row member => (holds.first row).mp member
      · exact fun row member => ((holds.first row).mp member).address
      · rw [whole]
        exact holds.first

/-- Where the reader ends without an error, the parser returns. -/
theorem parseReader_total {fieldnames : List String} (rows : List (Dict String (Option String))) (maxRows : Int)
    (named : "email" ∈ fieldnames.map normalised) :
    ∃ result, parseReader { fieldnames := fieldnames, rows := rows } maxRows = .ok result := by
  simp only [parseReader, if_neg (not_not.mpr named)]
  by_cases long : rows ≠ [] ∧ maxRows < (0 + rows.length : Nat)
  · rw [readRows_beyond long.1 long.2]
    exact ⟨_, rfl⟩
  · rw [readRows_within fun some_ => not_lt.mp fun beyond => long ⟨some_, beyond⟩]
    exact ⟨_, rfl⟩

/-- The reader of a text. -/
def readerOf (content : String) : DictReader :=
  let (records, error) := Csv.records {} (Csv.lines content.toList)
  { fieldnames := records.headD []
    rows := (records.tail.filter (· ≠ [])).map (Csv.dictRow (records.headD []))
    error := error }

/-- A text is parsed by way of its reader. -/
theorem parseReader_of_parseCsv {content : String} {maxRows : Nat} {result : CsvParseResult}
    (parsed : parseCsv content maxRows = .ok result) : parseReader (readerOf content) maxRows = .ok result := by
  unfold parseCsv at parsed
  unfold readerOf
  generalize Csv.records {} (Csv.lines content.toList) = found at parsed ⊢
  obtain ⟨records, error⟩ := found
  split at parsed
  · cases parsed
  · rename_i records error _ cut
    cases cut
    dsimp only at parsed ⊢
    unfold parseReader
    dsimp only
    split at parsed
    · rename_i unnamed
      rw [if_pos unnamed]
      exact parsed
    · rename_i named
      rw [if_neg named]
      generalize records.tail.filter (· ≠ []) = rows at parsed ⊢
      split at parsed
      · rename_i long
        have some_ : rows.map (Csv.dictRow (records.headD [])) ≠ [] := by
          rintro none_
          simp [List.map_eq_nil_iff.mp none_] at long
        have spelt : (maxRows : Int).repr = maxRows.repr := rfl
        rw [readRows_beyond some_ (by simpa using long)]
        simpa [Except.map, scanFrom, scanRows, limitError, List.map_take, toString, spelt] using parsed
      · rename_i short
        have room : rows.map (Csv.dictRow (records.headD [])) ≠ [] →
            ((0 + (rows.map (Csv.dictRow (records.headD []))).length : Nat) : Int) ≤ maxRows := by
          intro _
          simpa using not_lt.mp short
        rw [readRows_within room]
        cases error with
        | some error => cases parsed
        | none => simpa [Except.map, scanFrom, scanRows] using parsed

end Loop

end CsvUpload

end MarketingAgents
