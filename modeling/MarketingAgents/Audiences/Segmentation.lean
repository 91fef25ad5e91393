import MarketingAgents.Db.Jsonb
import MarketingAgents.Lib.Result

namespace MarketingAgents

open Lib PyText

namespace Segmentation

/-- `SUPPORTED_FIELDS`, the operators of a field in order. -/
def supportedFields : Dict String (List String) :=
  [("email", ["contains", "eq"]), ("country", ["eq", "in"]), ("tags", ["has"]), ("company", ["contains", "eq"]),
    ("first_name", ["contains", "eq"]), ("last_name", ["contains", "eq"])]

/-- The operator of a rule with its value. -/
inductive RuleTest where
  | eq (value : String)
  | isIn (values : List String)
  | contains (value : String)
  | has (value : String)
deriving DecidableEq

def RuleTest.op : RuleTest → String
  | .eq _ => "eq"
  | .isIn _ => "in"
  | .contains _ => "contains"
  | .has _ => "has"

structure SegmentationRule where
  field : String
  test : RuleTest
deriving DecidableEq

structure SegmentationCriteria where
  includes : List SegmentationRule
  excludes : List SegmentationRule
deriving DecidableEq

/-- The errors of a rule, by section and index, and the `TypeError` of a section that has no items. -/
inductive SegmentationError where
  | fieldUnavailable (sectionName : String) (index : Nat) (field : String)
  | operatorUnsupported (sectionName : String) (index : Nat) (field op : String)
  | criteriaValue (sectionName : String) (index : Nat) (problem : String)
  | notIterable (sectionName : String)
deriving DecidableEq

def SegmentationError.message : SegmentationError → String
  | .fieldUnavailable sectionName index field =>
    sectionName ++ "[" ++ toString index ++ "]: field '" ++ field ++ "' is not available"
  | .operatorUnsupported sectionName index field op =>
    sectionName ++ "[" ++ toString index ++ "]: operator '" ++ op ++ "' not valid for field '" ++ field ++ "' (allowed: " ++
      ", ".intercalate ((supportedFields.get? field).getD []) ++ ")"
  | .criteriaValue sectionName index problem => sectionName ++ "[" ++ toString index ++ "]: " ++ problem
  | .notIterable _ => "object is not iterable"

section Validation

/-- The value that an operator accepts. -/
def ruleTest (op : String) (value : Json) : Option RuleTest :=
  if op = "in" then
    match value with
    | .arr items => (items.mapM Json.str?).map RuleTest.isIn
    | _ => none
  else (value.str?.filter (· ≠ "")).bind fun text =>
    if op = "eq" then some (.eq text)
    else if op = "contains" then some (.contains text)
    else if op = "has" then some (.has text)
    else none

def valueProblem (op : String) : String :=
  if op = "in" then "'in' requires a non-empty list of strings"
  else "'" ++ op ++ "' requires a non-empty string value"

variable [PyText]

/-- `_validate_rule`. -/
def validateRule (sectionName : String) (index : Nat) (raw : Json) : Except SegmentationError SegmentationRule := do
  let rule ← orRaise raw.dict? (.criteriaValue sectionName index "rule must be an object")
  let fieldName := (rule.get? "field").getD .null
  let op := (rule.get? "op").getD .null
  let field ← orRaise (fieldName.str?.filter fun field => (supportedFields.get? field).isSome)
    (.fieldUnavailable sectionName index (str fieldName))
  let op ← orRaise (op.str?.filter fun op => op ∈ (supportedFields.get? field).getD [])
    (.operatorUnsupported sectionName index field (str op))
  let test ← orRaise (ruleTest op ((rule.get? "value").getD .null)) (.criteriaValue sectionName index (valueProblem op))
  pure ⟨field, test⟩

/-- The items of `payload.get(section, [])`. -/
def sectionItems (payload : Dict String Json) (sectionName : String) : Except SegmentationError (List Json) :=
  match payload.get? sectionName with
  | none => .ok []
  | some (.arr items) => .ok items
  | some (.str text) => .ok (text.toList.map fun c => .str (String.ofList [c]))
  | some (.obj fields) => .ok (fields.map fun entry => .str entry.1)
  | some _ => .error (.notIterable sectionName)

def validateSection (payload : Dict String Json) (sectionName : String) :
    Except SegmentationError (List SegmentationRule) := do
  let items ← sectionItems payload sectionName
  items.zipIdx.mapM fun item => validateRule sectionName item.2 item.1

def validateCriteria (payload : Dict String Json) : Except SegmentationError SegmentationCriteria := do
  let includes ← validateSection payload "include"
  let excludes ← validateSection payload "exclude"
  pure ⟨includes, excludes⟩

end Validation

section Conditions

variable [PyText] [JsonbText]

/-- `payload @> {field: [value]}`. -/
def hasItem (payload : Dict String Json) (field value : String) : Bool :=
  match payload.get? field with
  | some (.arr items) => decide (.str value ∈ items)
  | _ => false

/-- `_rule_to_condition` on one payload; SQL's NULL is `none`. -/
def ruleToCondition (rule : SegmentationRule) (payload : Dict String Json) : Option Bool :=
  let column := astext (payload.get? rule.field)
  match rule.test with
  | .eq value => column.map fun text => decide (text = value)
  | .isIn values => if values = [] then some false else column.map fun text => decide (text ∈ values)
  | .contains value => column.map (ilike ("%" ++ value ++ "%"))
  | .has value => some (hasItem payload rule.field value)

def SegmentationRule.Holds (rule : SegmentationRule) (payload : Dict String Json) : Prop :=
  ruleToCondition rule payload = some true

instance decidableHolds (rule : SegmentationRule) (payload : Dict String Json) : Decidable (rule.Holds payload) :=
  inferInstanceAs (Decidable (_ = _))

/-- All include rules hold, and no exclude rule does. -/
def SegmentationCriteria.Satisfied (criteria : SegmentationCriteria) (payload : Dict String Json) : Prop :=
  (∀ rule ∈ criteria.includes, rule.Holds payload) ∧ ∀ rule ∈ criteria.excludes, ¬ rule.Holds payload

instance decidableSatisfied (criteria : SegmentationCriteria) (payload : Dict String Json) :
    Decidable (criteria.Satisfied payload) :=
  inferInstanceAs (Decidable (_ ∧ _))

/-- The `WHERE` that the rules add to the query: a NULL selects nothing, negated or not. -/
def SegmentationCriteria.selects (criteria : SegmentationCriteria) (payload : Dict String Json) : Bool :=
  criteria.includes.all (fun rule => ruleToCondition rule payload = some true) &&
    criteria.excludes.all fun rule => (ruleToCondition rule payload).map not = some true

end Conditions

/-- The rule is one of a supported field with an operator of that field. -/
def Supported (rule : SegmentationRule) : Prop := ∃ operators, supportedFields.get? rule.field = some operators ∧
  rule.test.op ∈ operators

end Segmentation

end MarketingAgents
