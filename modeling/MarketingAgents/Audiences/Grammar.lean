import Mathlib.Data.List.Forall2
import MarketingAgents.Audiences.Segmentation

namespace MarketingAgents

open Lib PyText

namespace Segmentation

/-- The value of a rule as its JSON spells it. -/
def RuleTest.json : RuleTest → Json
  | .eq value | .contains value | .has value => .str value
  | .isIn values => .arr (values.map .str)

/-- The value is the empty text or the empty list. -/
def RuleTest.Blank : RuleTest → Prop
  | .eq value | .contains value | .has value => value = ""
  | .isIn values => values = []

/-- `raw` is an object of the rule. -/
def Spells (raw : Json) (rule : SegmentationRule) : Prop :=
  ∃ fields, raw = .obj fields ∧ Dict.get? fields "field" = some (.str rule.field) ∧
    Dict.get? fields "op" = some (.str rule.test.op) ∧ Dict.get? fields "value" = some rule.test.json ∧ Supported rule

/-- A rule of the grammar: its value has the shape of its operator. -/
def IsRule (raw : Json) (rule : SegmentationRule) : Prop := Spells raw rule ∧ ¬ rule.test.Blank

/-- The same, but for lists that may be empty. -/
def NearRule (raw : Json) (rule : SegmentationRule) : Prop := Spells raw rule ∧ (rule.test.Blank → rule.test = .isIn [])

/-- A section is absent, or a list of rules in their order. -/
def SectionReads (R : Json → SegmentationRule → Prop) : Option Json → List SegmentationRule → Prop
  | none, rules => rules = []
  | some (.arr items), rules => List.Forall₂ R items rules
  | some _, _ => False

/-- The payload is what the grammar makes of the criteria. -/
def Reads (payload : Dict String Json) (criteria : SegmentationCriteria) : Prop :=
  SectionReads IsRule (payload.get? "include") criteria.includes ∧
    SectionReads IsRule (payload.get? "exclude") criteria.excludes

/-- Not the `TypeError`. -/
def SegmentationError.Structured : SegmentationError → Prop
  | .notIterable _ => False
  | _ => True

/-- What a section has to be for `enumerate`. -/
def Iterable : Option Json → Prop
  | none | some (.arr _) | some (.str _) | some (.obj _) => True
  | _ => False

/-- A section without items that is no list. -/
def Itemless (value : Option Json) : Prop := value = some (.str "") ∨ value = some (.obj [])

/-- A section that the validator takes for the rules. -/
def Loosely (value : Option Json) (rules : List SegmentationRule) : Prop :=
  SectionReads NearRule value rules ∨ Itemless value ∧ rules = []

/-- A test for membership in no list at all. -/
def EmptyIn (raw : Json) : Prop :=
  ∃ fields, raw = .obj fields ∧ Dict.get? fields "op" = some (.str "in") ∧ Dict.get? fields "value" = some (.arr [])

/-- A section that is absent, or a list in which no membership test is empty. -/
def Proper : Option Json → Prop
  | none => True
  | some (.arr items) => ∀ raw ∈ items, ¬ EmptyIn raw
  | some _ => False

section Rules

theorem mapM_str? {items : List Json} {texts : List String} :
    items.mapM Json.str? = some texts ↔ items = texts.map .str := by
  induction items generalizing texts with
  | nil => cases texts <;> simp
  | cons item items ih =>
    simp only [List.mapM_cons, Option.bind_eq_bind, Option.bind_eq_some_iff, Option.pure_def, Option.some.injEq]
    constructor
    · rintro ⟨text, first, rest, later, rfl⟩
      cases item with
      | str s =>
        cases first
        rw [ih.mp later, List.map_cons]
      | null | bool | int | float | arr | obj => cases first
    · intro same
      cases texts with
      | nil => cases same
      | cons text texts =>
        rw [List.map_cons, List.cons.injEq] at same
        exact ⟨text, by rw [same.1]; rfl, texts, ih.mpr same.2, rfl⟩

theorem filter_str?_eq_some {value : Json} {text : String} :
    value.str?.filter (· ≠ "") = some text ↔ value = .str text ∧ text ≠ "" := by
  rw [Option.filter_eq_some_iff, decide_eq_true_iff]
  refine and_congr_left fun _ => ?_
  cases value <;> simp [Json.str?]

theorem dict?_eq_some {value : Json} {fields : Dict String Json} : value.dict? = some fields ↔ value = .obj fields := by
  cases value <;> simp [Json.dict?]

theorem str?_getD_null {found : Option Json} {text : String} :
    (found.getD .null).str? = some text ↔ found = some (.str text) := by
  cases found with
  | none => simp [Json.str?]
  | some value => cases value <;> simp [Json.str?]

theorem getD_null_eq {found : Option Json} {value : Json} (present : value ≠ .null) (same : found.getD .null = value) :
    found = some value := by
  cases found with
  | none => exact absurd same.symm present
  | some here => exact congrArg some same

theorem RuleTest.json_ne_null (test : RuleTest) : test.json ≠ .null := by
  cases test <;> simp [RuleTest.json]

/-- The test that an operator makes of a value. -/
theorem ruleTest_eq_some {op : String} {value : Json} {test : RuleTest} :
    ruleTest op value = some test ↔ test.op = op ∧ value = test.json ∧ (test.Blank → test = .isIn []) := by
  unfold ruleTest
  split
  · rename_i isIn
    subst isIn
    cases test with
    | isIn values => cases value <;> simp [RuleTest.op, RuleTest.json, RuleTest.Blank, mapM_str?]
    | eq text | contains text | has text => cases value <;> simp [RuleTest.op]
  · rename_i other
    rw [Option.bind_eq_some_iff]
    simp only [filter_str?_eq_some]
    constructor
    · rintro ⟨text, ⟨rfl, nonempty⟩, chosen⟩
      split at chosen
      · rename_i eq
        cases chosen
        exact ⟨eq.symm, rfl, fun blank => absurd blank nonempty⟩
      · split at chosen
        · rename_i contains
          cases chosen
          exact ⟨contains.symm, rfl, fun blank => absurd blank nonempty⟩
        · split at chosen
          · rename_i has
            cases chosen
            exact ⟨has.symm, rfl, fun blank => absurd blank nonempty⟩
          · cases chosen
    · rintro ⟨rfl, rfl, filled⟩
      cases test with
      | isIn values => exact absurd rfl other
      | eq text | contains text | has text =>
        refine ⟨text, ⟨rfl, fun empty => ?_⟩, by simp [RuleTest.op]⟩
        cases filled empty

variable [PyText]

/-- A rule is accepted exactly when it is one of the grammar, or an empty membership test. -/
theorem validateRule_eq_ok {sectionName : String} {index : Nat} {raw : Json} {rule : SegmentationRule} :
    validateRule sectionName index raw = .ok rule ↔ NearRule raw rule := by
  simp only [validateRule, bind_eq_ok, orRaise_eq_ok, pure_eq_ok, Option.filter_eq_some_iff, decide_eq_true_iff,
    ruleTest_eq_some]
  constructor
  · rintro ⟨fields, object, field, ⟨named, known⟩, op, ⟨operated, allowed⟩, test, ⟨rfl, valued, filled⟩, rfl⟩
    obtain ⟨operators, listed⟩ := Option.isSome_iff_exists.mp known
    rw [listed, Option.getD_some] at allowed
    refine ⟨⟨fields, ?_, ?_, ?_, ?_, operators, listed, allowed⟩, filled⟩
    · exact dict?_eq_some.mp object
    · exact str?_getD_null.mp named
    · exact str?_getD_null.mp operated
    · exact getD_null_eq (test.json_ne_null) valued
  · rintro ⟨⟨fields, rfl, named, operated, valued, operators, listed, allowed⟩, filled⟩
    refine ⟨fields, rfl, rule.field, ⟨by rw [named]; rfl, by rw [listed]; rfl⟩, rule.test.op, ⟨by rw [operated]; rfl, ?_⟩,
      rule.test, ⟨rfl, by rw [valued]; rfl, filled⟩, rfl⟩
    rwa [listed]

theorem validateRules_eq_ok {sectionName : String} {items : List Json} {start : Nat} {rules : List SegmentationRule} :
    ((items.zipIdx start).mapM fun item => validateRule sectionName item.2 item.1) = .ok rules ↔
      List.Forall₂ NearRule items rules := by
  induction items generalizing start rules with
  | nil =>
    rw [List.forall₂_nil_left_iff]
    exact pure_eq_ok.trans eq_comm
  | cons raw items ih =>
    simp only [List.zipIdx_cons, List.mapM_cons, bind_eq_ok, pure_eq_ok, validateRule_eq_ok, ih]
    constructor
    · rintro ⟨rule, first, rest, later, rfl⟩
      exact .cons first later
    · rintro (_ | ⟨first, later⟩)
      exact ⟨_, first, _, later, rfl⟩

/-- Every error of a rule is one that the API can show. -/
theorem validateRule_structured {sectionName : String} {index : Nat} {raw : Json} {error : SegmentationError}
    (failed : validateRule sectionName index raw = .error error) : error.Structured := by
  simp only [validateRule, bind_eq_error, orRaise_eq_error] at failed
  rcases failed with ⟨_, rfl⟩ | ⟨_, _, ⟨_, rfl⟩ | ⟨_, _, ⟨_, rfl⟩ | ⟨_, _, ⟨_, rfl⟩ | ⟨_, _, impossible⟩⟩⟩⟩
  · trivial
  · trivial
  · trivial
  · trivial
  · cases impossible

omit [PyText] in
/-- The items of a text or an object are no rules. -/
theorem forall₂_nearRule_str {texts : List String} {rules : List SegmentationRule} :
    List.Forall₂ NearRule (texts.map .str) rules ↔ texts = [] ∧ rules = [] := by
  cases texts with
  | nil => simp
  | cons text texts =>
    refine ⟨fun related => ?_, fun both => nomatch both.1⟩
    rcases related with _ | ⟨⟨⟨fields, object, _⟩, _⟩, _⟩
    cases object

omit [PyText] in
theorem sectionItems_eq_error {payload : Dict String Json} {sectionName : String} {error : SegmentationError} :
    sectionItems payload sectionName = .error error ↔
      ¬ Iterable (payload.get? sectionName) ∧ error = .notIterable sectionName := by
  unfold sectionItems
  cases payload.get? sectionName with
  | none => simp [Iterable]
  | some value => cases value <;> simp [Iterable, eq_comm]

/-- A section is accepted exactly as it is read, or because it has no items. -/
theorem validateSection_eq_ok {payload : Dict String Json} {sectionName : String} {rules : List SegmentationRule} :
    validateSection payload sectionName = .ok rules ↔ Loosely (payload.get? sectionName) rules := by
  simp only [validateSection, bind_eq_ok, validateRules_eq_ok, sectionItems, Loosely, SectionReads, Itemless]
  cases payload.get? sectionName with
  | none => simp
  | some value =>
    cases value with
    | arr items => simp
    | str text =>
      have letters : text.toList.map (fun c => Json.str (String.ofList [c])) =
          (text.toList.map fun c => String.ofList [c]).map .str := (List.map_map ..).symm
      simp only [letters, Except.ok.injEq, exists_eq_left', forall₂_nearRule_str]
      simp
    | obj fields =>
      have keys : fields.map (fun entry => Json.str entry.1) = (fields.map Prod.fst).map .str := (List.map_map ..).symm
      simp only [keys, Except.ok.injEq, exists_eq_left', forall₂_nearRule_str]
      simp
    | null | bool | int | float => simp

/-- Only a section that cannot be enumerated ends in the `TypeError`. -/
theorem validateSection_unstructured {payload : Dict String Json} {sectionName : String} :
    (∃ error, validateSection payload sectionName = .error error ∧ ¬ error.Structured) ↔
      ¬ Iterable (payload.get? sectionName) := by
  simp only [validateSection, bind_eq_error, sectionItems_eq_error]
  constructor
  · rintro ⟨error, ⟨unreadable, _⟩ | ⟨items, _, refused⟩, unstructured⟩
    · exact unreadable
    · obtain ⟨item, _, failed⟩ := mapM_error refused
      exact absurd (validateRule_structured failed) unstructured
  · exact fun unreadable => ⟨_, Or.inl ⟨unreadable, rfl⟩, id⟩

theorem validateCriteria_eq_ok {payload : Dict String Json} {criteria : SegmentationCriteria} :
    validateCriteria payload = .ok criteria ↔
      Loosely (payload.get? "include") criteria.includes ∧ Loosely (payload.get? "exclude") criteria.excludes := by
  simp only [validateCriteria, bind_eq_ok, pure_eq_ok, validateSection_eq_ok]
  constructor
  · rintro ⟨includes, included, excludes, excluded, rfl⟩
    exact ⟨included, excluded⟩
  · exact fun both => ⟨_, both.1, _, both.2, rfl⟩

/-- The criteria end in the `TypeError` of the first section, or of the second if the first is accepted. -/
theorem validateCriteria_unstructured {payload : Dict String Json} :
    (∃ error, validateCriteria payload = .error error ∧ ¬ error.Structured) ↔ ¬ Iterable (payload.get? "include") ∨
      (∃ rules, Loosely (payload.get? "include") rules) ∧ ¬ Iterable (payload.get? "exclude") := by
  rw [← validateSection_unstructured, ← validateSection_unstructured]
  simp only [validateCriteria, bind_eq_error, validateSection_eq_ok]
  constructor
  · rintro ⟨error, first | ⟨rules, accepted, second | ⟨_, _, impossible⟩⟩, unstructured⟩
    · exact Or.inl ⟨error, first, unstructured⟩
    · exact Or.inr ⟨⟨rules, accepted⟩, error, second, unstructured⟩
    · cases impossible
  · rintro (⟨error, first, unstructured⟩ | ⟨⟨rules, accepted⟩, error, second, unstructured⟩)
    · exact ⟨error, Or.inl first, unstructured⟩
    · exact ⟨error, Or.inr ⟨rules, accepted, Or.inl second⟩, unstructured⟩

end Rules

section Grammar

/-- The blank value that a near rule can have is the empty list. -/
theorem isRule_iff {raw : Json} {rule : SegmentationRule} : IsRule raw rule ↔ ¬ EmptyIn raw ∧ NearRule raw rule := by
  constructor
  · rintro ⟨spelled, filled⟩
    refine ⟨?_, spelled, fun blank => absurd blank filled⟩
    rintro ⟨fields, rfl, operated, valued⟩
    obtain ⟨_, ⟨⟩, _, op, value, _⟩ := spelled
    rw [operated, Option.some.injEq, Json.str.injEq] at op
    rw [valued, Option.some.injEq] at value
    cases tested : rule.test with
    | isIn values =>
      rw [tested, RuleTest.json, Json.arr.injEq] at value
      rw [tested, RuleTest.Blank] at filled
      exact filled (List.map_eq_nil_iff.mp value.symm)
    | eq | contains | has =>
      rw [tested] at op
      exact absurd op (by simp [RuleTest.op])
  · rintro ⟨filled, spelled, near⟩
    refine ⟨spelled, fun blank => filled ?_⟩
    obtain ⟨fields, rfl, _, op, value, _⟩ := spelled
    rw [near blank] at op value
    exact ⟨fields, rfl, op, value⟩

/-- A section is read exactly if it is accepted and proper. -/
theorem sectionReads_iff {value : Option Json} {rules : List SegmentationRule} :
    SectionReads IsRule value rules ↔ Loosely value rules ∧ Proper value := by
  cases value with
  | none => simp [SectionReads, Loosely, Proper, Itemless]
  | some value =>
    cases value with
    | arr items =>
      have split : List.Forall₂ IsRule items rules ↔ (∀ raw ∈ items, ¬ EmptyIn raw) ∧ List.Forall₂ NearRule items rules := by
        rw [← List.forall₂_and_left]
        exact ⟨.imp fun _ _ => isRule_iff.mp, .imp fun _ _ => isRule_iff.mpr⟩
      simp [SectionReads, Loosely, Proper, Itemless, split, and_comm]
    | null | bool | int | float | str | obj => simp [SectionReads, Proper]

variable [PyText]

/-- The criteria of the payload are returned, those and in their order, and every
other payload ends in an error that the API can show. -/
def AcceptsGrammar (payload : Dict String Json) : Prop :=
  (∀ criteria, validateCriteria payload = .ok criteria ↔ Reads payload criteria) ∧
    ((∀ criteria, ¬ Reads payload criteria) → ∃ error, validateCriteria payload = .error error ∧ error.Structured)

/-- The sections can be enumerated as far as the validator gets, and no section without
being a list, and no empty membership test, is accepted. -/
def Judged (payload : Dict String Json) : Prop :=
  Iterable (payload.get? "include") ∧ ((∃ rules, Loosely (payload.get? "include") rules) →
    Iterable (payload.get? "exclude") ∧ ((∃ rules, Loosely (payload.get? "exclude") rules) →
      Proper (payload.get? "include") ∧ Proper (payload.get? "exclude")))

theorem reads_iff {payload : Dict String Json} {criteria : SegmentationCriteria} :
    Reads payload criteria ↔ validateCriteria payload = .ok criteria ∧ Proper (payload.get? "include") ∧
      Proper (payload.get? "exclude") := by
  rw [Reads, sectionReads_iff, sectionReads_iff, validateCriteria_eq_ok]
  tauto

/-- A payload is judged as the grammar says unless it is accepted loosely or ends in
the `TypeError`. -/
theorem acceptsGrammar_iff (payload : Dict String Json) : AcceptsGrammar payload ↔ Judged payload := by
  constructor
  · rintro ⟨exact, refuses⟩
    -- what is not iterable cannot be read, and its error is none of the validator's
    have readable : ¬ ∃ error, validateCriteria payload = .error error ∧ ¬ error.Structured := by
      rintro ⟨error, failed, unstructured⟩
      have unread : ∀ criteria, ¬ Reads payload criteria := by
        intro criteria reads
        rw [← exact, failed] at reads
        cases reads
      obtain ⟨error', failed', structured⟩ := refuses unread
      rw [failed] at failed'
      cases failed'
      exact unstructured structured
    rw [validateCriteria_unstructured, not_or, not_not, not_and_not_right] at readable
    refine ⟨readable.1, fun included => ⟨readable.2 included, fun ⟨excludes, excluded⟩ => ?_⟩⟩
    obtain ⟨includes, included⟩ := included
    have accepted : validateCriteria payload = .ok ⟨includes, excludes⟩ := validateCriteria_eq_ok.mpr ⟨included, excluded⟩
    exact (reads_iff.mp ((exact _).mp accepted)).2
  · rintro ⟨iterable, later⟩
    have exact : ∀ criteria, validateCriteria payload = .ok criteria ↔ Reads payload criteria := by
      intro criteria
      rw [reads_iff, iff_self_and]
      intro accepted
      obtain ⟨included, excluded⟩ := validateCriteria_eq_ok.mp accepted
      exact (later ⟨_, included⟩).2 ⟨_, excluded⟩
    refine ⟨exact, fun unread => ?_⟩
    cases judged : validateCriteria payload with
    | ok criteria => exact absurd ((exact criteria).mp judged) (unread criteria)
    | error error =>
      refine ⟨error, rfl, by_contra fun unstructured => ?_⟩
      rcases validateCriteria_unstructured.mp ⟨error, judged, unstructured⟩ with first | ⟨included, second⟩
      · exact first iterable
      · exact second (later included).1

end Grammar

namespace EmptyLists

local instance emptyListsText : PyText := PyText.plain

/-- Countries that no contact has. -/
def nowhere : Dict String Json :=
  [("include", .arr [.obj [("field", .str "country"), ("op", .str "in"), ("value", .arr [])]])]

/-- A list for `in` is accepted though it is empty, and a null ends in the `TypeError`. -/
theorem empty_in_is_accepted :
    validateCriteria nowhere = .ok ⟨[⟨"country", .isIn []⟩], []⟩ ∧ ¬ AcceptsGrammar nowhere ∧
      validateCriteria [("include", .null)] = .error (.notIterable "include") := by
  have accepted : validateCriteria nowhere = .ok ⟨[⟨"country", .isIn []⟩], []⟩ := by decide +kernel
  refine ⟨accepted, fun grammatical => ?_, rfl⟩
  have reads := (grammatical.1 _).mp accepted
  have related : List.Forall₂ IsRule _ _ := reads.1
  rcases related with _ | ⟨first, _⟩
  exact first.2 rfl

end EmptyLists

end Segmentation

end MarketingAgents
