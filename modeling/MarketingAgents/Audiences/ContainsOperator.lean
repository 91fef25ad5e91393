import MarketingAgents.Analytics.CustomKpis
import MarketingAgents.Audiences.RuleMeaning

namespace MarketingAgents

open Lib PyText Segmentation

section

variable [PyText] [JsonbText]

/-- The rule holds of exactly the texts in which its value occurs. -/
def RuleOccurs (value : String) : Prop :=
  ∀ (field : String) (payload : Dict String Json) (text : String), astext (payload.get? field) = some text →
    (SegmentationRule.Holds ⟨field, .contains value⟩ payload ↔ contains (lower value) (lower text) = true)

/-- A filter line keeps exactly the events in whose column its value occurs. -/
def FilterOccurs (value : String) : Prop :=
  ∀ (fields : Dict String Json) (clause : FilterClause), fields.get? "op" = some (.str "contains") →
    fields.get? "value" = some (.str value) → filterClause (.obj fields) = .ok (some clause) → clause.compiles = true →
    ∀ (e : EventRow) (text : String), clause.column.of e = some text →
      (clause.keeps e = true ↔ contains (lower value) (lower text) = true)

/-- `contains` is literal in both compilers. -/
def ContainsOccurs (value : String) : Prop := RuleOccurs value ∧ FilterOccurs value

theorem ruleOccurs_iff {value : String} :
    RuleOccurs value ↔ ∀ text, ilike ("%" ++ value ++ "%") text = contains (lower value) (lower text) := by
  constructor
  · intro occurs text
    have held := occurs "email" [("email", .str text)] text rfl
    rw [Bool.eq_iff_iff, ← held, SegmentationRule.Holds, ruleToCondition]
    simp [Dict.get?, astext]
  · intro same field payload text read
    rw [SegmentationRule.Holds, ruleToCondition]
    simp [read, same]

omit [JsonbText] in
/-- What a line with the operator compiles to. -/
theorem filterClause_contains {fields : Dict String Json} {clause : FilterClause} {value : String}
    (op : fields.get? "op" = some (.str "contains")) (given : fields.get? "value" = some (.str value))
    (understood : filterClause (.obj fields) = .ok (some clause)) :
    clause.op = .contains ∧ clause.values = [value] := by
  have named : getOr fields "op" "eq" = .str "contains" := by
    simp [getOr, op, Option.filter, Json.truthy]
  simp only [filterClause, Json.dict?, named, supportedOp, given, Option.getD_some] at understood
  split at understood
  · cases understood
  · split at understood
    · cases understood
    · obtain ⟨column, _, clauseOf⟩ := Option.bind_eq_some_iff.mp (Except.ok.inj understood)
      cases clauseOf
      exact ⟨rfl, by simp [strValue, str_str]⟩

theorem keeps_contains {clause : FilterClause} {value : String} (op : clause.op = .contains) (values : clause.values = [value])
    (compiles : clause.compiles = true) {e : EventRow} {text : String} (read : clause.column.of e = some text) :
    clause.keeps e = ilike ("%" ++ value ++ "%") text := by
  rcases column : clause.column with ⟨parents, leaf⟩ | _ | _
  · rw [column] at read
    simp [FilterClause.keeps, column, read, op, values]
  all_goals simp [FilterClause.compiles, column, op] at compiles

/-- A line over the first level of the payload, and an event that has the text there. -/
def contentLine (value : String) : Dict String Json :=
  [("path", .str "payload.utm_content"), ("op", .str "contains"), ("value", .str value)]

def contentEvent (text : String) : EventRow where
  id := 1
  tenantId := 1
  eventType := .click
  payload := [("utm_content", .str text)]
  providerEventId := none
  eventAt := 0

omit [JsonbText] in
theorem filterClause_contentLine (value : String) :
    filterClause (.obj (contentLine value)) = .ok (some ⟨.payload [] "utm_content", .contains, [value]⟩) := by
  have column : columnForPath "payload.utm_content" = some (.payload [] "utm_content") := rfl
  have path : getOr (contentLine value) "path" "" = .str "payload.utm_content" := rfl
  have op : getOr (contentLine value) "op" "eq" = .str "contains" := rfl
  have given : (contentLine value).get? "value" = some (.str value) := rfl
  simp [filterClause, Json.dict?, path, op, given, column, Json.truthy, Json.str?, supportedOp, clauseOf, strValue, str_str]

theorem filterOccurs_iff {value : String} :
    FilterOccurs value ↔ ∀ text, ilike ("%" ++ value ++ "%") text = contains (lower value) (lower text) := by
  constructor
  · intro occurs text
    have kept := occurs (contentLine value) _ rfl rfl (filterClause_contentLine value) rfl (contentEvent text) text rfl
    have read : FilterClause.keeps ⟨.payload [] "utm_content", .contains, [value]⟩ (contentEvent text) =
        ilike ("%" ++ value ++ "%") text := keeps_contains rfl rfl rfl rfl
    rw [Bool.eq_iff_iff, ← kept, read]
  · intro same fields clause op given understood compiles e text read
    obtain ⟨isContains, values⟩ := filterClause_contains op given understood
    rw [keeps_contains isContains values compiles read, same]

/-- Both operators are literal for exactly the values without a metacharacter of
`LIKE`. The field is one that holds a text, for the columns of other types have no
`ILIKE`, and the query ends in an error; so it does on a NUL in the value, which is
left out of account here. -/
theorem containsOccurs_iff [CaseFold] (value : String) :
    ContainsOccurs value ↔ ∀ c ∈ value.toList, literalChar c = true := by
  rw [ContainsOccurs, ruleOccurs_iff, filterOccurs_iff, and_self, ilike_between_iff]

end

namespace ContainsOperator

local instance containsText : PyText := PyText.plain

local instance containsJsonb : JsonbText := JsonbText.plain

/-- The percent sign takes what stands between the digits and the end of the text. -/
theorem percent_is_a_wildcard : ¬ RuleOccurs "50%" ∧ ¬ FilterOccurs "50%" ∧ ¬ ContainsOccurs "50%" := by
  have matched : ilike ("%" ++ "50%" ++ "%") "500 people" = true := by decide +kernel
  have absent : contains (lower "50%") (lower "500 people") = false := by decide +kernel
  have differs : ¬ ∀ text, ilike ("%" ++ "50%" ++ "%") text = contains (lower "50%") (lower text) := by
    intro same
    have here := same "500 people"
    rw [matched, absent] at here
    cases here
  rw [ContainsOccurs, ruleOccurs_iff, filterOccurs_iff]
  exact ⟨differs, differs, fun both => differs both.1⟩

end ContainsOperator

end MarketingAgents
