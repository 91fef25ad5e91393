import MarketingAgents.Agents.MergeFields
import MarketingAgents.Outbound.Preview

namespace MarketingAgents

open Lib PyText

namespace Preview

/-- The texts in which the provider substitutes. -/
def sentTexts (message : EmailMessage) : List String := message.subject :: (contentBlocks message).map Prod.snd

/-- `isinstance(v, (str, int, float)) and not isinstance(v, bool)`. -/
def writable : Json → Bool
  | .str _ | .int _ | .float _ => true
  | _ => false

section MergeAudit

variable [PyText] {a : ContentAsset} {m : AudienceMember} {r : EmailRecipient}

/-- The placeholder stands in the text, and as it is spelled it is a key of the
substitutions, with the value. -/
def Replaced (r : EmailRecipient) (text : String) (p : Placeholder) (value : Json) : Prop :=
  contains p.source text = true ∧ (substitutions r).get? p.source = some (str value)

/-- What the audit of the asset takes as resolved for the member is replaced in its message. -/
def AuditAgrees (run : TemplateRun a) (m : AudienceMember) (r : EmailRecipient) : Prop :=
  ∀ text ∈ sentTexts run.prepared.message, ∀ p ∈ placeholders text, p.field ∈ referencedFields a →
    CountsResolved (referencedFields a) m.payload p.field →
      ∀ value, m.payload.get? p.field = some value → Replaced r text p value

/-- Between its braces the placeholder is a key of the payload, with a text or a number
that reads like the value. The link of a footer takes the place of the key `unsubscribe_url`. -/
def Spells (run : TemplateRun a) (m : AudienceMember) (p : Placeholder) (value : Json) : Prop :=
  if (buildComplianceFooter run.db a.tenantId).isSome ∧ p.inner = "unsubscribe_url" then
    unsubscribeUrl run.db run.secret a.tenantId (memberEmail m) = str value
  else ∃ own, m.payload.get? p.inner = some own ∧ writable own = true ∧ str own = str value

omit [PyText] in
theorem get?_substitutions (r : EmailRecipient) (p : Placeholder) :
    (substitutions r).get? p.source = r.mergeFields.get? p.inner := by
  have braces : ∀ key, ("\x7b\x7b" ++ key ++ "\x7d\x7d" = p.source ↔ key = p.inner) := by
    intro key
    rw [Placeholder.source, ← String.toList_inj, ← String.toList_inj]
    simp
  unfold substitutions
  generalize r.mergeFields = fields
  induction fields with
  | nil => rfl
  | cons entry fields ih =>
    rw [List.map_cons, Dict.get?, Dict.get?, ih]
    simp only [braces]

/-- `_string_only_payload` keeps the texts and the numbers. -/
theorem get?_stringOnlyPayload {payload : Dict String Json} (nodup : (payload.map Prod.fst).Nodup) (key : String) :
    (stringOnlyPayload payload).get? key = ((payload.get? key).filter writable).map fun value => .str (str value) := by
  induction payload with
  | nil => rfl
  | cons entry payload ih =>
    obtain ⟨name, value⟩ := entry
    obtain ⟨fresh, nodup⟩ := List.nodup_cons.mp nodup
    have absent : Dict.get? payload name = none := Dict.get?_eq_none fun entry member same =>
      fresh (List.mem_map.mpr ⟨entry, member, same⟩)
    have rest := ih nodup
    rw [stringOnlyPayload] at rest ⊢
    rw [Dict.get?, List.filterMap_cons]
    by_cases same : name = key
    · rw [if_pos same]
      subst same
      rw [absent] at rest
      cases value <;> simp [rest, writable, Dict.get?]
    · rw [if_neg same, ← rest]
      cases value <;> simp [Dict.get?, same]

namespace TemplateRun

/-- The footer is that of the tenant, and each member is sent to under its own address. -/
theorem reads (run : TemplateRun a) : run.plan.footer = buildComplianceFooter run.db a.tenantId ∧
    ∀ entry ∈ run.plan.toSend, entry.2 = memberEmail entry.1 := by
  obtain ⟨ready, planned⟩ := beginEmail_dispatchable run.begun
  have same : run.plan.asset = a := Option.some.inj (ready.asset.symm.trans run.stored)
  rw [same] at planned
  simp only [planEmail, bind_eq_ok, pure_eq_ok] at planned
  obtain ⟨payload, _, _, _, ⟨members, assignments⟩, _, recipients, _, capped, _, _, _, message, _, shape⟩ := planned
  rw [← shape]
  refine ⟨rfl, fun entry sent => ?_⟩
  obtain ⟨member, _, rfl⟩ := List.mem_map.mp (List.mem_filter.mp sent).1
  rfl

end TemplateRun

/-- A placeholder is replaced by a value exactly if it spells a key that has it. -/
theorem replaced_iff {run : TemplateRun a} (nodup : (m.payload.map Prod.fst).Nodup) (handed : run.Hands m r)
    {text : String} {p : Placeholder} (member : p ∈ placeholders text) (value : Json) :
    Replaced r text p value ↔ Spells run m p value := by
  obtain ⟨_, entry, sent, rfl, suppressed, sorted⟩ := handed
  obtain ⟨footer, address⟩ := run.reads
  have keeps (fields : Dict String Json) :
      Dict.get? (fields.map fun field => (field.1, str field.2)) p.inner = (fields.get? p.inner).map str := by
    induction fields with
    | nil => rfl
    | cons field fields ih =>
      rw [List.map_cons, Dict.get?, Dict.get?, ih]
      split <;> rfl
  have fields := get?_stringOnlyPayload nodup p.inner
  have own : ((Dict.get? (stringOnlyPayload entry.1.payload) p.inner).map str = some (str value)) ↔
      ∃ own, entry.1.payload.get? p.inner = some own ∧ writable own = true ∧ str own = str value := by
    rw [fields]
    simp [Option.map_eq_some_iff, Option.filter_eq_some_iff, str_str, and_assoc]
  rw [Replaced, and_iff_right (contains_placeholder member), get?_substitutions, sortRecipient_mergeFields sorted, keeps,
    footer, Spells]
  cases buildComplianceFooter run.db a.tenantId with
  | none => simpa [mergeFieldsOf] using own
  | some footer =>
    by_cases link : p.inner = "unsubscribe_url"
    · simp [mergeFieldsOf, link, str_str, address entry sent]
    · simpa [mergeFieldsOf, link, Dict.get?_set_ne _ _ (Ne.symm link)] using own

/-- The audit agrees with what is sent to the member if and only if each placeholder of a
field that is resolved spells a key of the payload with a text or a number like the value. -/
theorem audit_agrees_iff {run : TemplateRun a} (nodup : (m.payload.map Prod.fst).Nodup) (handed : run.Hands m r) :
    AuditAgrees run m r ↔
      ∀ text ∈ sentTexts run.prepared.message, ∀ p ∈ placeholders text, p.field ∈ referencedFields a →
        ∀ value, m.payload.get? p.field = some value → isResolvable (some value) = true → Spells run m p value := by
  have distinct : (referencedFields a).Nodup := extractMergeFields_nodup _
  refine forall₄_congr fun text _ p member => forall_congr' fun referenced => ?_
  rw [countsResolved_iff distinct referenced]
  constructor
  · intro agrees value found resolvable
    exact (replaced_iff nodup handed member value).mp (agrees (found ▸ resolvable) value found)
  · intro spelled resolvable value found
    exact (replaced_iff nodup handed member value).mpr (spelled value found (found ▸ resolvable))

end MergeAudit

section Greeting

local instance greetingText : PyText := PyText.plain

local instance greetingRegex : PyRegex := PyRegex.plain

/-- The names of the template are capitalised and stand apart from the braces. -/
def greeting : ContentAsset where
  id := 5
  tenantId := 1
  campaignId := 7
  assetType := .email
  status := .scheduled
  title := some "VP / Head of · email"
  content := some "Quick question\n\nHi \x7b\x7b First_Name \x7d\x7d"
  extraMetadata := (outreachTemplate 9 vps "email" "Quick question" "Hi \x7b\x7b First_Name \x7d\x7d").2.2.2

theorem greeting_template : EmailTemplate 9 vps "Quick question" "Hi \x7b\x7b First_Name \x7d\x7d" greeting where
  assetType := rfl
  content := rfl
  metadata _ listed := Dict.get?_of_mem (outreachTemplate_nodup 9 vps "email" _ _) listed
  subject_ne := by decide
  body_ne := by decide

def greetingMessage : EmailMessage where
  subject := "Quick question"
  htmlBody := some "Quick question\n\nHi \x7b\x7b First_Name \x7d\x7d"
  textBody := some "Quick question\n\nHi \x7b\x7b First_Name \x7d\x7d"
  headers := []
  replyTo := .null

def greetingRun : TemplateRun greeting where
  db := soleDb 9 "ada@acme.io" ada greeting
  secret := ""
  now := 0
  answer := .response 202 "" ""
  plan := solePlan (soleDb 9 "ada@acme.io" ada greeting) "Quick question" "Hi \x7b\x7b First_Name \x7d\x7d" "ada@acme.io"
    ada greeting
  prepared := ⟨"ada@acme.io", greetingMessage, [soleRecipient "ada@acme.io" ada], []⟩
  stored := rfl
  begun := soleDb_begins greeting_template rfl ada_contact
  ready := rfl

theorem greeting_hands : greetingRun.Hands ada (soleRecipient "ada@acme.io" ada) :=
  ⟨List.mem_singleton_self _, (ada, "ada@acme.io"), List.mem_singleton_self _, rfl, [], sortRecipient_sole ada_contact _ _⟩

theorem greeting_misspelled : ¬ Spells greetingRun ada ⟨[' '], "First_Name".toList, [' ']⟩ (.str "Ada") := by
  have plain : ¬ ((buildComplianceFooter greetingRun.db greeting.tenantId).isSome ∧
      (⟨[' '], "First_Name".toList, [' ']⟩ : Placeholder).inner = "unsubscribe_url") := by decide
  rw [Spells, if_neg plain]
  have missing : ada.payload.get? " First_Name " = none := by decide
  rintro ⟨own, found, -⟩
  cases missing.symm.trans found

theorem greeting_audited : ¬ AuditAgrees greetingRun ada (soleRecipient "ada@acme.io" ada) := by
  rw [audit_agrees_iff (by decide) greeting_hands]
  intro spelled
  have text : "Quick question\n\nHi \x7b\x7b First_Name \x7d\x7d" ∈ sentTexts greetingRun.prepared.message := by decide
  exact greeting_misspelled (spelled _ text _ (by decide) (by decide) (.str "Ada") (by decide) (by decide))

/-- The audit finds the first name of the member, the message keeps the placeholder. -/
theorem greeting_not_replaced :
    CountsResolved (referencedFields greeting) ada.payload "first_name" ∧
      (placeholders "Quick question\n\nHi \x7b\x7b First_Name \x7d\x7d").map Placeholder.field = ["first_name"] ∧
      (substitutions (soleRecipient "ada@acme.io" ada)).get? "\x7b\x7b First_Name \x7d\x7d" = none ∧
      ¬ AuditAgrees greetingRun ada (soleRecipient "ada@acme.io" ada) := by
  have distinct : (referencedFields greeting).Nodup := extractMergeFields_nodup _
  have referenced : "first_name" ∈ referencedFields greeting := by decide
  have resolved : CountsResolved (referencedFields greeting) ada.payload "first_name" :=
    (countsResolved_iff distinct referenced ada.payload).mpr (by decide)
  refine ⟨resolved, by decide, by decide, fun agrees => ?_⟩
  have text : "Quick question\n\nHi \x7b\x7b First_Name \x7d\x7d" ∈ sentTexts greetingRun.prepared.message := by decide
  have replaced := agrees _ text ⟨[' '], "First_Name".toList, [' ']⟩ (by decide) referenced resolved (.str "Ada")
    (by decide)
  exact absurd replaced.2 (by decide)

end Greeting

end Preview

end MarketingAgents
