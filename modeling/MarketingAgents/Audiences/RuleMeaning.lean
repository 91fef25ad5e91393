import MarketingAgents.Agents.AudienceTargeting
import MarketingAgents.Db.Patterns

namespace MarketingAgents

open Lib PyText Segmentation

namespace Segmentation

section Meaning

variable [PyText] [JsonbText]

/-- What a rule says of a payload; of a field that is absent or null it says nothing. -/
def SegmentationRule.Says (rule : SegmentationRule) (payload : Dict String Json) : Prop :=
  match rule.test with
  | .eq value => astext (payload.get? rule.field) = some value
  | .isIn values => ∃ text ∈ astext (payload.get? rule.field), text ∈ values
  | .contains value => ∃ text ∈ astext (payload.get? rule.field), contains (lower value) (lower text) = true
  | .has value => hasItem payload rule.field value = true

/-- Every include rule holds and no exclude rule does. -/
def SegmentationCriteria.Means (criteria : SegmentationCriteria) (payload : Dict String Json) : Prop :=
  (∀ rule ∈ criteria.includes, rule.Says payload) ∧ ∀ rule ∈ criteria.excludes, ¬ rule.Says payload

/-- The rule compares a text that the row does not have. -/
def SegmentationRule.Lacks (rule : SegmentationRule) (payload : Dict String Json) : Prop :=
  astext (payload.get? rule.field) = none ∧ rule.test ≠ .isIn [] ∧ ∀ value, rule.test ≠ .has value

/-- The pattern of the rule matches the text and the value does not occur in it, or the other way round. -/
def SegmentationRule.Wild (rule : SegmentationRule) (payload : Dict String Json) : Prop :=
  ∃ value, rule.test = .contains value ∧ ∃ text ∈ astext (payload.get? rule.field),
    ilike ("%" ++ value ++ "%") text ≠ contains (lower value) (lower text)

/-- The query does not judge the row by what the rules say. -/
def SegmentationCriteria.Misread (criteria : SegmentationCriteria) (payload : Dict String Json) : Prop :=
  (∃ rule ∈ criteria.excludes, rule.Lacks payload) ∨ ∃ rule ∈ criteria.includes ++ criteria.excludes, rule.Wild payload

/-- A rule holds in the query where it says so, unless its value is read as a pattern. -/
theorem holds_iff_meant {rule : SegmentationRule} {payload : Dict String Json} (plain : ¬ rule.Wild payload) :
    ruleToCondition rule payload = some true ↔ rule.Says payload := by
  unfold ruleToCondition SegmentationRule.Says
  cases tested : rule.test with
  | eq value => simp [Option.map_eq_some_iff]
  | isIn values =>
    by_cases none_listed : values = []
    · simp [none_listed]
    · simp [none_listed, Option.map_eq_some_iff]
  | contains value =>
    simp only [Option.map_eq_some_iff, Option.mem_def]
    refine exists_congr fun text => and_congr_right fun read => ?_
    rw [not_ne_iff.mp fun differs => plain ⟨value, tested, text, read, differs⟩]
  | has value => simp

/-- The query answers every rule whose field the row has. -/
theorem ruleToCondition_eq_none {rule : SegmentationRule} {payload : Dict String Json} :
    ruleToCondition rule payload = none ↔ rule.Lacks payload := by
  unfold ruleToCondition SegmentationRule.Lacks
  cases rule.test with
  | eq | contains | has => simp
  | isIn values => by_cases none_listed : values = [] <;> simp [none_listed]

theorem negated_iff_not_meant {rule : SegmentationRule} {payload : Dict String Json} (present : ¬ rule.Lacks payload)
    (plain : ¬ rule.Wild payload) : (ruleToCondition rule payload).map not = some true ↔ ¬ rule.Says payload := by
  rw [← holds_iff_meant plain]
  cases answer : ruleToCondition rule payload with
  | none => exact absurd (ruleToCondition_eq_none.mp answer) present
  | some holds => cases holds <;> simp

/-- A row that is not misread is selected for what it means. -/
theorem selects_iff_means {criteria : SegmentationCriteria} {payload : Dict String Json}
    (read : ¬ criteria.Misread payload) : criteria.selects payload = true ↔ criteria.Means payload := by
  have present : ∀ rule ∈ criteria.excludes, ¬ rule.Lacks payload := fun rule member lacks =>
    read (Or.inl ⟨rule, member, lacks⟩)
  have plain : ∀ rule ∈ criteria.includes ++ criteria.excludes, ¬ rule.Wild payload := fun rule member wild =>
    read (Or.inr ⟨rule, member, wild⟩)
  simp only [SegmentationCriteria.selects, SegmentationCriteria.Means, Bool.and_eq_true, List.all_eq_true, decide_eq_true_iff]
  refine and_congr (forall₂_congr fun rule member => ?_) (forall₂_congr fun rule member => ?_)
  · exact holds_iff_meant (plain rule (List.mem_append_left _ member))
  · exact negated_iff_not_meant (present rule member) (plain rule (List.mem_append_right _ member))

end Meaning

structure EstimateResult where
  totalReachable : Nat
  suppressed : Nat
  net : Nat
deriving DecidableEq

/-- The error of the criteria, and that of a NUL that the database refuses in a parameter. -/
inductive QueryError where
  | segmentation (error : SegmentationError)
  | nulParameter
deriving DecidableEq

def RuleTest.values : RuleTest → List String
  | .eq value | .contains value | .has value => [value]
  | .isIn values => values

def SegmentationCriteria.parameters (criteria : SegmentationCriteria) : List String :=
  (criteria.includes ++ criteria.excludes).flatMap (·.test.values)

/-- The database takes every value of the rules. -/
def SegmentationCriteria.Encodable (criteria : SegmentationCriteria) : Prop :=
  ∀ value ∈ criteria.parameters, '\x00' ∉ value.toList

instance decidableEncodable (criteria : SegmentationCriteria) : Decidable criteria.Encodable :=
  inferInstanceAs (Decidable (∀ value ∈ criteria.parameters, _))

end Segmentation

namespace AudienceStore

variable [PyText] [JsonbText]

/-- `build` on the criteria as they come. -/
def buildFrom (s : AudienceStore) (tenantId : Uuid) (payload : Dict String Json) : Except QueryError (List String) := do
  let parsed ← (validateCriteria payload).mapError QueryError.segmentation
  require parsed.Encodable .nulParameter
  pure (s.build tenantId parsed)

/-- `estimate`. -/
def estimate (s : AudienceStore) (tenantId : Uuid) (payload : Dict String Json) : Except QueryError EstimateResult := do
  let parsed ← (validateCriteria payload).mapError QueryError.segmentation
  require parsed.Encodable .nulParameter
  let total := (s.build tenantId parsed).length
  pure ⟨total, 0, total⟩

/-- The contact has a row in the tenant of which `P` is true. -/
def HasRow (s : AudienceStore) (tenantId : Uuid) (externalId : String) (P : Dict String Json → Prop) : Prop :=
  ∃ m ∈ s.tenantMembers tenantId, m.externalId = externalId ∧ P m.payload

/-- The contacts that the criteria mean are built, each once, and estimated by their number. -/
def BuildsMeant (s : AudienceStore) (tenantId : Uuid) (payload : Dict String Json) (criteria : SegmentationCriteria) : Prop :=
  ∃ ids, s.buildFrom tenantId payload = .ok ids ∧ ids.Nodup ∧
    (∀ externalId, externalId ∈ ids ↔ s.HasRow tenantId externalId criteria.Means) ∧
    s.estimate tenantId payload = .ok ⟨ids.length, 0, ids.length⟩

/-- Of each contact with a misread row the other rows decide as that row should have. -/
structure Outvoted (s : AudienceStore) (tenantId : Uuid) (criteria : SegmentationCriteria) : Prop where
  kept : ∀ m ∈ s.tenantMembers tenantId, criteria.Misread m.payload → criteria.Means m.payload →
    s.HasRow tenantId m.externalId (criteria.selects · = true)
  meant : ∀ m ∈ s.tenantMembers tenantId, criteria.Misread m.payload → criteria.selects m.payload = true →
    s.HasRow tenantId m.externalId criteria.Means

theorem buildFrom_eq_ok {s : AudienceStore} {tenantId : Uuid} {payload : Dict String Json} {ids : List String} :
    s.buildFrom tenantId payload = .ok ids ↔
      ∃ criteria, validateCriteria payload = .ok criteria ∧ criteria.Encodable ∧ s.build tenantId criteria = ids := by
  simp only [buildFrom, bind_eq_ok, mapError_eq_ok, require_eq_ok, pure_eq_ok, exists_const]

theorem estimate_of_build {s : AudienceStore} {tenantId : Uuid} {payload : Dict String Json}
    {criteria : SegmentationCriteria} (accepted : validateCriteria payload = .ok criteria) (encodable : criteria.Encodable) :
    s.estimate tenantId payload =
      .ok ⟨(s.build tenantId criteria).length, 0, (s.build tenantId criteria).length⟩ := by
  simp only [estimate, bind_eq_ok, mapError_eq_ok, require_eq_ok, pure_eq_ok, exists_const]
  exact ⟨criteria, accepted, encodable, rfl⟩

/-- The query finds the contacts that the criteria mean if and only if the misread rows are outvoted. -/
theorem mem_build_iff_outvoted {s : AudienceStore} {tenantId : Uuid} {criteria : SegmentationCriteria} :
    (∀ externalId, externalId ∈ s.build tenantId criteria ↔ s.HasRow tenantId externalId criteria.Means) ↔
      s.Outvoted tenantId criteria := by
  constructor
  · intro exact
    refine ⟨fun m member _ means => ?_, fun m member _ selected => ?_⟩
    · obtain ⟨row, there, selected, same⟩ := mem_build.mp ((exact m.externalId).mpr ⟨m, member, rfl, means⟩)
      exact ⟨row, there, same, selected⟩
    · exact (exact m.externalId).mp (mem_build.mpr ⟨m, member, selected, rfl⟩)
  · intro outvoted externalId
    rw [mem_build]
    constructor
    · rintro ⟨m, member, selected, rfl⟩
      by_cases misread : criteria.Misread m.payload
      · exact outvoted.meant m member misread selected
      · exact ⟨m, member, rfl, (selects_iff_means misread).mp selected⟩
    · rintro ⟨m, member, rfl, means⟩
      by_cases misread : criteria.Misread m.payload
      · obtain ⟨row, there, same, selected⟩ := outvoted.kept m member misread means
        exact ⟨row, there, selected, same⟩
      · exact ⟨m, member, (selects_iff_means misread).mpr means, rfl⟩

/-- Accepted criteria build what they mean exactly if the database takes their values and the misread rows are outvoted. -/
theorem buildsMeant_iff (s : AudienceStore) (tenantId : Uuid) {payload : Dict String Json} {criteria : SegmentationCriteria}
    (accepted : validateCriteria payload = .ok criteria) :
    s.BuildsMeant tenantId payload criteria ↔ criteria.Encodable ∧ s.Outvoted tenantId criteria := by
  constructor
  · rintro ⟨ids, built, _, exact, _⟩
    obtain ⟨criteria', accepted', encodable, rfl⟩ := buildFrom_eq_ok.mp built
    cases Except.ok.inj (accepted.symm.trans accepted')
    exact ⟨encodable, mem_build_iff_outvoted.mp exact⟩
  · rintro ⟨encodable, outvoted⟩
    refine ⟨s.build tenantId criteria, buildFrom_eq_ok.mpr ⟨criteria, accepted, encodable, rfl⟩, List.nodup_dedup _, ?_, ?_⟩
    · exact mem_build_iff_outvoted.mpr outvoted
    · exact estimate_of_build accepted encodable

end AudienceStore

namespace Countries

local instance countriesText : PyText := PyText.plain

local instance countriesJsonb : JsonbText := JsonbText.plain

/-- One uploaded contact, with the given payload. -/
def uploaded (payload : Dict String Json) : AudienceStore where
  audiences := [Snapshots.upload 0]
  members := [{ audienceId := 0, externalId := "ada@example.com", payload := payload, addedAt := 10 }]
  nextId := 1
  fresh := by decide
  linked := by simp [Snapshots.upload]

/-- Everybody but the contacts of one country. -/
def abroad : Dict String Json :=
  [("exclude", .arr [.obj [("field", .str "country"), ("op", .str "eq"), ("value", .str "US")]])]

def abroadRules : SegmentationCriteria := ⟨[], [⟨"country", .eq "US"⟩]⟩

/-- A contact without a country is left out with those of the excluded one. -/
theorem missing_country_is_excluded :
    validateCriteria abroad = .ok abroadRules ∧ (uploaded []).HasRow 1 "ada@example.com" abroadRules.Means ∧
      ¬ (uploaded []).BuildsMeant 1 abroad abroadRules := by
  have accepted : validateCriteria abroad = .ok abroadRules := by decide +kernel
  have meant : (uploaded []).HasRow 1 "ada@example.com" abroadRules.Means := by
    refine ⟨_, List.mem_singleton_self _, rfl, by simp [abroadRules], fun rule member => ?_⟩
    cases List.mem_singleton.mp member
    exact fun asserted => nomatch asserted
  refine ⟨accepted, meant, fun ⟨ids, built, _, exact, _⟩ => ?_⟩
  obtain ⟨criteria, accepted', _, rfl⟩ := AudienceStore.buildFrom_eq_ok.mp built
  cases Except.ok.inj (accepted.symm.trans accepted')
  have nobody : (uploaded []).build 1 abroadRules = [] := by decide +kernel
  have listed := (exact "ada@example.com").mpr meant
  rw [nobody] at listed
  cases listed

theorem buildsMeant_iff_abroad :
    validateCriteria abroad = .ok abroadRules ∧
      ((uploaded [("country", .str "FR")]).BuildsMeant 1 abroad abroadRules ↔
        abroadRules.Encodable ∧ (uploaded [("country", .str "FR")]).Outvoted 1 abroadRules) := by
  have accepted : validateCriteria abroad = .ok abroadRules := by decide +kernel
  exact ⟨accepted, AudienceStore.buildsMeant_iff (uploaded [("country", .str "FR")]) 1 accepted⟩

end Countries

end MarketingAgents
