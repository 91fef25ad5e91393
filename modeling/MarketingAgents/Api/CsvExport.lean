import Mathlib.Data.List.Sort
import MarketingAgents.Audiences.CsvUpload

namespace MarketingAgents

open Lib PyText

namespace Csv

/-- A character for which `QUOTE_MINIMAL` quotes its field. -/
def special (c : Char) : Bool := c = ',' || c = '"' || c = '\r' || c = '\n'

/-- A quote within a quoted field is doubled. -/
def doubled (c : Char) : List Char := if c = '"' then ['"', '"'] else [c]

def writeField (field : String) : List Char :=
  if field.toList.any special then '"' :: (field.toList.flatMap doubled ++ ['"']) else field.toList

def joined : List String → List Char
  | [] => []
  | [field] => writeField field
  | field :: fields => writeField field ++ ',' :: joined fields

/-- `writer.writerow`. A row of one empty field is quoted, to differ from no field. -/
def writeRow (row : List String) : List Char := (if row = [""] then ['"', '"'] else joined row) ++ ['\r', '\n']

def writeRows (rows : List (List String)) : List Char := rows.flatMap writeRow

/-- The characters of a text with the ends of its lines, all of which end in a newline. -/
def marks (text : List Char) : List (Option Char) := text.flatMap fun c => if c = '\n' then [some c, none] else [some c]

theorem marks_append (first last : List Char) : marks (first ++ last) = marks first ++ marks last := List.flatMap_append

theorem marks_cons {c : Char} (inside : c ≠ '\n') (text : List Char) : marks (c :: text) = some c :: marks text := by
  simp [marks, inside]

theorem marks_newline (text : List Char) : marks ('\n' :: text) = some '\n' :: none :: marks text := by
  simp [marks]

theorem lines_newline (text : List Char) : lines (text ++ ['\n']) = marks (text ++ ['\n']) := by
  induction text with
  | nil => rfl
  | cons c text ih =>
    obtain ⟨d, rest, same⟩ := List.exists_cons_of_ne_nil (List.append_ne_nil_of_right_ne_nil text (List.cons_ne_nil '\n' []))
    rw [List.cons_append, same, lines, ← same, ih]
    · by_cases newline : c = '\n'
      · rw [if_pos newline, newline, marks_newline]
      · rw [if_neg newline, marks_cons newline]
    · exact List.cons_ne_nil d rest

section Reading

variable {r next : Reader} {c : Char} {rest : List (Option Char)}

theorem records_char (read : r.processChar (some c) = .ok next) : records r (some c :: rest) = records next rest := by
  simp [records, read]

theorem not_special (plain : special c = false) : c ≠ ',' ∧ c ≠ '"' ∧ c ≠ '\r' ∧ c ≠ '\n' := by
  simpa [special, and_assoc] using plain

/-- The rest of a field without quotes. -/
theorem records_plain {text : List Char} (plain : ∀ c ∈ text, special c = false) (inside : r.state = .inField)
    (fits : r.field.length + text.length ≤ fieldLimit) :
    records r (marks text ++ rest) = records { r with field := text.reverse ++ r.field } rest := by
  induction text generalizing r with
  | nil => rfl
  | cons c text ih =>
    obtain ⟨comma, quote, cr, newline⟩ := not_special (plain c (List.mem_cons_self ..))
    rw [List.length_cons] at fits
    have room : ¬ fieldLimit ≤ r.field.length := by omega
    have read : r.processChar (some c) = .ok { r with field := c :: r.field } := by
      simp [Reader.processChar, inside, Reader.lineBreak, cr, newline, Reader.addChar, room]
    have later := ih (r := { r with field := c :: r.field }) (fun d member => plain d (List.mem_cons_of_mem _ member)) inside
      (by rw [List.length_cons]; omega)
    rw [marks_cons newline, List.cons_append, records_char read, later]
    simp

/-- The inside of a quoted field. -/
theorem records_doubled {text : List Char} (inside : r.state = .inQuotedField)
    (fits : r.field.length + text.length ≤ fieldLimit) :
    records r (marks (text.flatMap doubled) ++ rest) = records { r with field := text.reverse ++ r.field } rest := by
  induction text generalizing r with
  | nil => rfl
  | cons c text ih =>
    rw [List.length_cons] at fits
    have room : ¬ fieldLimit ≤ r.field.length := by omega
    have later := ih (r := { r with field := c :: r.field }) inside (by rw [List.length_cons]; omega)
    have taken : records r (marks (doubled c) ++ (marks (text.flatMap doubled) ++ rest)) =
        records { r with field := c :: r.field } (marks (text.flatMap doubled) ++ rest) := by
      obtain ⟨state, field, fields⟩ := r
      obtain rfl : state = .inQuotedField := inside
      by_cases quote : c = '"'
      · subst quote
        simp [doubled, marks, records, Reader.processChar, Reader.lineBreak, Reader.addChar, room]
      · by_cases newline : c = '\n'
        · subst newline
          simp [doubled, marks, records, Reader.processChar, Reader.addChar, room]
        · simp [doubled, quote, marks, newline, records, Reader.processChar, Reader.addChar, room]
    rw [List.flatMap_cons, marks_append, List.append_assoc, taken, later]
    simp

/-- The reader stands behind a field that it has read. -/
structure Behind (r : Reader) (field : String) (fields : List String) : Prop where
  letters : r.field = field.toList.reverse
  before : r.fields = fields
  state : r.state = .inField ∨ r.state = .quoteInQuotedField ∨
    field = "" ∧ (r.state = .startField ∨ r.state = .startRecord)

theorem Behind.saved {field : String} {fields : List String} (behind : Behind r field fields) (state : State) :
    r.saveField state = ⟨state, [], field :: fields⟩ := by
  simp [Reader.saveField, behind.letters, behind.before]

theorem Behind.comma {field : String} {fields : List String} (behind : Behind r field fields) :
    records r (some ',' :: rest) = records ⟨.startField, [], field :: fields⟩ rest := by
  refine records_char ?_
  rw [← behind.saved]
  rcases behind.state with state | state | ⟨_, state | state⟩ <;>
    simp [Reader.processChar, Reader.startField, state, Reader.lineBreak]

/-- The end of a record behind a field. -/
theorem Behind.lineEnd {field : String} {fields : List String} (behind : Behind r field fields)
    (inRecord : r.state ≠ .startRecord) :
    records r (some '\r' :: some '\n' :: none :: rest) =
      ((field :: fields).reverse :: (records {} rest).1, (records {} rest).2) := by
  have read : r.processChar (some '\r') = .ok ⟨.eatCrnl, [], field :: fields⟩ := by
    rw [← behind.saved]
    rcases behind.state with state | state | ⟨_, state | state⟩
    · simp [Reader.processChar, state, Reader.lineBreak, Reader.endRecord]
    · simp [Reader.processChar, state, Reader.lineBreak, Reader.endRecord]
    · simp [Reader.processChar, Reader.startField, state, Reader.lineBreak, Reader.endRecord]
    · exact absurd state inRecord
  rw [records_char read]
  simp [records, Reader.processChar, Reader.lineBreak]

/-- A written field is read back. -/
theorem records_field {field : String} {fields : List String} {state : State} (fresh : state = .startField ∨ state = .startRecord)
    (fits : field.length ≤ fieldLimit) : ∃ r, Behind r field fields ∧
      (state = .startField ∨ field ≠ "" → r.state ≠ .startRecord) ∧
      ∀ rest, records ⟨state, [], fields⟩ (marks (writeField field) ++ rest) = records r rest := by
  have length : field.toList.length ≤ fieldLimit := by rwa [String.length_toList]
  unfold writeField
  split
  · -- an opening quote, the doubled text and a closing quote
    refine ⟨⟨.quoteInQuotedField, field.toList.reverse, fields⟩, ⟨rfl, rfl, Or.inr (Or.inl rfl)⟩, fun _ => nofun, fun rest => ?_⟩
    have opened : Reader.processChar ⟨state, [], fields⟩ (some '"') = .ok ⟨.inQuotedField, [], fields⟩ := by
      rcases fresh with rfl | rfl <;> simp [Reader.processChar, Reader.startField, Reader.lineBreak]
    have closed : Reader.processChar ⟨.inQuotedField, field.toList.reverse, fields⟩ (some '"') =
        .ok ⟨.quoteInQuotedField, field.toList.reverse, fields⟩ := by
      simp [Reader.processChar]
    rw [marks_cons (by decide), List.cons_append, records_char opened, marks_append, List.append_assoc,
      records_doubled rfl (by simpa using length)]
    simp only [List.append_nil]
    exact records_char closed
  · rename_i unquoted
    have plain : ∀ c ∈ field.toList, special c = false := by simpa using unquoted
    cases shape : field.toList with
    | nil =>
      have empty : field = "" := String.toList_inj.mp shape
      subst empty
      refine ⟨⟨state, [], fields⟩, ⟨rfl, rfl, Or.inr (Or.inr ⟨rfl, fresh⟩)⟩, fun told => ?_, fun rest => rfl⟩
      rcases told with rfl | filled
      · nofun
      · exact absurd rfl filled
    | cons c text =>
      refine ⟨⟨.inField, field.toList.reverse, fields⟩, ⟨rfl, rfl, Or.inl rfl⟩, fun _ => nofun, fun rest => ?_⟩
      rw [shape] at plain length
      obtain ⟨comma, quote, cr, newline⟩ := not_special (plain c (List.mem_cons_self ..))
      have opened : Reader.processChar ⟨state, [], fields⟩ (some c) = .ok ⟨.inField, [c], fields⟩ := by
        rcases fresh with rfl | rfl <;>
          simp [Reader.processChar, Reader.startField, Reader.lineBreak, cr, newline, Reader.addChar, fieldLimit]
      rw [marks_cons newline, List.cons_append, records_char opened,
        records_plain (fun d member => plain d (List.mem_cons_of_mem _ member)) rfl (by simpa [Nat.add_comm] using length)]
      rw [shape, List.reverse_cons]

/-- The fields of a row from the middle of it on. -/
theorem records_joined {row : List String} (filled : row ≠ []) (fits : ∀ field ∈ row, field.length ≤ fieldLimit)
    {state : State} (fresh : state = .startField ∨ state = .startRecord) (visible : state = .startField ∨ row ≠ [""])
    (fields : List String) :
    records ⟨state, [], fields⟩ (marks (joined row) ++ some '\r' :: some '\n' :: none :: rest) =
      ((fields.reverse ++ row) :: (records {} rest).1, (records {} rest).2) := by
  induction row generalizing state fields with
  | nil => exact absurd rfl filled
  | cons field row ih =>
    obtain ⟨r, behind, inRecord, read⟩ :=
      (records_field fresh (fits field (List.mem_cons_self ..)) :
        ∃ r, Behind r field fields ∧ (state = .startField ∨ field ≠ "" → r.state ≠ .startRecord) ∧
          ∀ rest, records ⟨state, [], fields⟩ (marks (writeField field) ++ rest) = records r rest)
    cases row with
    | nil =>
      have shown : state = .startField ∨ field ≠ "" := visible.imp_right fun other same => other (by rw [same])
      rw [joined, read, behind.lineEnd (inRecord shown), List.reverse_cons]
    | cons second row =>
      have later := ih (List.cons_ne_nil _ _) (fun f member => fits f (List.mem_cons_of_mem _ member)) (Or.inl rfl) (Or.inl rfl)
        (field :: fields)
      rw [joined, marks_append, marks_cons (by decide), List.append_assoc, read, List.cons_append, behind.comma, later]
      · simp
      · exact List.cons_ne_nil _ _

/-- A written row is read back, and the reader starts anew behind it. -/
theorem records_row {row : List String} (fits : ∀ field ∈ row, field.length ≤ fieldLimit) :
    records {} (marks (writeRow row) ++ rest) = (row :: (records {} rest).1, (records {} rest).2) := by
  have lineEnd : marks ['\r', '\n'] = [some '\r', some '\n', none] := by decide
  unfold writeRow
  split
  · rename_i lone
    subst lone
    rw [marks_append, lineEnd]
    simp [marks, records, Reader.processChar, Reader.startField, Reader.lineBreak, Reader.endRecord, Reader.saveField]
  · rename_i visible
    rw [marks_append, lineEnd, List.append_assoc]
    cases row with
    | nil => simp [joined, marks, records, Reader.processChar, Reader.lineBreak]
    | cons field row => exact records_joined (List.cons_ne_nil _ _) fits (Or.inr rfl) (Or.inr visible) []

end Reading

theorem lines_writeRows (rows : List (List String)) : lines (writeRows rows) = marks (writeRows rows) := by
  rcases List.eq_nil_or_concat rows with rfl | ⟨before, row, rfl⟩
  · rfl
  · have ends : writeRow row = (if row = [""] then ['"', '"'] else joined row) ++ ['\r'] ++ ['\n'] := by
      rw [List.append_assoc]
      rfl
    rw [writeRows, List.concat_eq_append, List.flatMap_append, List.flatMap_singleton, ends, ← List.append_assoc, lines_newline]

/-- What `csv.writer` writes, `csv.reader` reads back. -/
theorem records_writeRows {rows : List (List String)} (fits : ∀ row ∈ rows, ∀ field ∈ row, field.length ≤ fieldLimit) :
    records {} (lines (writeRows rows)) = (rows, none) := by
  rw [lines_writeRows]
  induction rows with
  | nil => rfl
  | cons row rows ih =>
    rw [writeRows, List.flatMap_cons, marks_append, records_row (fits row (List.mem_cons_self ..)), ← writeRows,
      ih fun other member => fits other (List.mem_cons_of_mem _ member)]

end Csv

namespace Json

/-- `\u` and four hexadecimal digits. -/
def utf16Escape (unit : Nat) : String :=
  "\\u" ++ String.ofList ([unit / 4096, unit / 256 % 16, unit / 16 % 16, unit % 16].map Nat.digitChar)

/-- A character in a string of `json.dumps`, which writes ASCII. -/
def escape (c : Char) : String :=
  if c = '"' then "\\\""
  else if c = '\\' then "\\\\"
  else if c = '\n' then "\\n"
  else if c = '\r' then "\\r"
  else if c = '\t' then "\\t"
  else if c.toNat = 8 then "\\b"
  else if c.toNat = 12 then "\\f"
  else if 32 ≤ c.toNat ∧ c.toNat ≤ 126 then String.singleton c
  else if c.toNat < 0x10000 then utf16Escape c.toNat
  else utf16Escape (0xd800 + (c.toNat - 0x10000) / 0x400) ++ utf16Escape (0xdc00 + (c.toNat - 0x10000) % 0x400)

def dumpsText (s : String) : String := "\"" ++ String.join (s.toList.map escape) ++ "\""

def dumpsFloat (repr : String) : String :=
  if repr = "inf" then "Infinity" else if repr = "-inf" then "-Infinity" else if repr = "nan" then "NaN" else repr

mutual

/-- `json.dumps(value, sort_keys=True)`. -/
def dumps : Json → String
  | .null => "null"
  | .bool b => if b then "true" else "false"
  | .int n => toString n
  | .float repr => dumpsFloat repr
  | .str s => dumpsText s
  | .arr items => "[" ++ ", ".intercalate (dumpsItems items) ++ "]"
  | .obj fields =>
    let sorted := (dumpsFields fields).insertionSort fun a b => a.1 ≤ b.1
    "\x7b" ++ ", ".intercalate (sorted.map fun field => dumpsText field.1 ++ ": " ++ field.2) ++ "\x7d"

def dumpsItems : List Json → List String
  | [] => []
  | item :: items => dumps item :: dumpsItems items

def dumpsFields : List (String × Json) → List (String × String)
  | [] => []
  | (key, value) :: fields => (key, dumps value) :: dumpsFields fields

end

end Json

section Export

variable [PyText]

/-- `_stringify`. -/
def stringify : Json → String
  | .null => ""
  | .arr items => Json.dumps (.arr items)
  | .obj fields => Json.dumps (.obj fields)
  | value => str value

/-- `_write_section_rows`. -/
def sectionRows (name : String) : Json → List (List String)
  | .obj fields => fields.map fun field => [name, field.1, stringify field.2]
  | .arr items => items.zipIdx.flatMap fun (item, i) =>
    match item with
    | .obj fields => fields.map fun field => [name, "[" ++ toString i ++ "]." ++ field.1, stringify field.2]
    | item => [[name, "[" ++ toString i ++ "]", stringify item]]
  | value => [[name, "", stringify value]]

def reportSections : List String :=
  ["objectives", "kpis_vs_target", "custom_kpis", "channel_breakdown", "ab_tests", "anomalies", "recommendations_applied",
    "recommendations_rejected", "spend_total", "spend_reconciliation"]

/-- The rows of a section; one that is missing has a row that says so. -/
def rowsOfSection (data : Dict String Json) (name : String) : List (List String) :=
  match data.get? name with
  | none | some .null => [[name, "", "(no data)"]]
  | some value => sectionRows name value

def reportRows (data : Dict String Json) : List (List String) :=
  ["section", "key", "value"] :: reportSections.flatMap (rowsOfSection data)

/-- `_report_to_csv`. -/
def reportToCsv (data : Dict String Json) : String := String.ofList (Csv.writeRows (reportRows data))

theorem rowsOfSection_head {data : Dict String Json} {name : String} :
    ∀ row ∈ rowsOfSection data name, row.head? = some name := by
  intro row member
  unfold rowsOfSection at member
  split at member
  · simp only [List.mem_singleton] at member
    rw [member]
    rfl
  · simp only [List.mem_singleton] at member
    rw [member]
    rfl
  · unfold sectionRows at member
    split at member
    · obtain ⟨field, _, rfl⟩ := List.mem_map.mp member
      rfl
    · obtain ⟨⟨item, i⟩, _, inside⟩ := List.mem_flatMap.mp member
      dsimp only at inside
      split at inside
      · obtain ⟨field, _, rfl⟩ := List.mem_map.mp inside
        rfl
      · rw [List.mem_singleton.mp inside]
        rfl
    · rw [List.mem_singleton.mp member]
      rfl

/-- The rows under a section's name are its own. -/
theorem filter_sections (data : Dict String Json) {names : List String} (distinct : names.Nodup) {name : String}
    (listed : name ∈ names) :
    (names.flatMap (rowsOfSection data)).filter (fun row => row.head? = some name) = rowsOfSection data name := by
  have own : ∀ other, (rowsOfSection data other).filter (fun row => row.head? = some name) =
      if other = name then rowsOfSection data name else [] := by
    intro other
    split
    · rename_i same
      exact same ▸ List.filter_eq_self.mpr fun row member => decide_eq_true (rowsOfSection_head row member)
    · rename_i differs
      refine List.filter_eq_nil_iff.mpr fun row member => ?_
      rw [rowsOfSection_head row member]
      simpa using differs
  induction names with
  | nil => cases listed
  | cons first names ih =>
    obtain ⟨fresh, distinct⟩ := List.nodup_cons.mp distinct
    rw [List.flatMap_cons, List.filter_append, own]
    rcases List.mem_cons.mp listed with rfl | later
    · have others : (names.flatMap (rowsOfSection data)).filter (fun row => row.head? = some name) = [] := by
        refine List.filter_eq_nil_iff.mpr fun row member => ?_
        obtain ⟨other, there, inside⟩ := List.mem_flatMap.mp member
        rw [rowsOfSection_head row inside]
        have differs : other ≠ name := fun same => fresh (same ▸ there)
        simpa using differs
      rw [if_pos rfl, others, List.append_nil]
    · have differs : first ≠ name := fun same => fresh (same ▸ later)
      rw [if_neg differs, List.nil_append, ih distinct later]

/-- `csv.reader` gets the rows of an exported report back whatever texts it
holds, and the rows under the name of a section are those of its entries. -/
theorem report_csv_reads_back (data : Dict String Json)
    (fits : ∀ row ∈ reportRows data, ∀ field ∈ row, field.length ≤ Csv.fieldLimit) :
    Csv.records {} (Csv.lines (reportToCsv data).toList) = (reportRows data, none) ∧
      ∀ name ∈ reportSections,
        (reportRows data).tail.filter (fun row => row.head? = some name) = rowsOfSection data name := by
  refine ⟨?_, fun name listed => filter_sections data (by decide) listed⟩
  rw [reportToCsv, String.toList_ofList]
  exact Csv.records_writeRows fits

end Export

namespace CsvExport

local instance exportText : PyText := PyText.plain

/-- A name with a comma, quotes and a line break in it. -/
def spring : Dict String Json :=
  [("objectives", .obj [("name", .str "spring, \"big\"\r\nsale"), ("budget_total", .str "10.50")]), ("spend_total", .str "3")]

theorem report_csv_reads_back_spring :
    (reportToCsv spring).toList.count '\n' = 13 ∧ (reportRows spring).length = 12 ∧
      Csv.records {} (Csv.lines (reportToCsv spring).toList) = (reportRows spring, none) := by
  refine ⟨?_, by decide +kernel, (report_csv_reads_back spring (by decide +kernel)).1⟩
  rw [reportToCsv, String.toList_ofList]
  decide +kernel

end CsvExport

end MarketingAgents
