import MarketingAgents.Agents.EmailHandover
import MarketingAgents.Content.Deliveries
import MarketingAgents.Lib.Replace
import MarketingAgents.Outbound.Drafts
import MarketingAgents.Outbound.Rendering

namespace MarketingAgents

open Lib PyText

/-- The provider's substitution of tags by values. What neither a tag nor a
value contains stays as it is. -/
class MailMerge where
  substitute : Dict String String → String → String
  count_substitute : ∀ (substitutions : Dict String String) (text : String) (c : Char),
    (∀ entry ∈ substitutions, c ∉ entry.1.toList ∧ c ∉ entry.2.toList) →
      (substitute substitutions text).toList.count c = text.toList.count c

/-- One tag after the other. -/
@[reducible] def MailMerge.inOrder : MailMerge where
  substitute substitutions text :=
    String.ofList (replaceEach (substitutions.map fun entry => (entry.1.toList, entry.2.toList)) text.toList)
  count_substitute substitutions text c foreign := by
    rw [String.toList_ofList]
    refine count_replaceEach _ _ fun entry member => ?_
    obtain ⟨named, here, rfl⟩ := List.mem_map.mp member
    exact foreign named here

/-- The alphabet of the signed tokens has no line break. -/
class UrlSafe [PyText] : Prop where
  signToken_line : ∀ (secret salt : String) (value : Json), '\n' ∉ (signToken secret salt value).toList

namespace Preview

/-- `entry["substitutions"]`. -/
def substitutions (r : EmailRecipient) : Dict String String :=
  r.mergeFields.map fun entry => ("\x7b\x7b" ++ entry.1 ++ "\x7d\x7d", entry.2)

/-- The content blocks as the recipient gets them. -/
def sentBodies [MailMerge] (message : EmailMessage) (r : EmailRecipient) : List String :=
  (contentBlocks message).map fun block => MailMerge.substitute (substitutions r) block.2

section Templates

variable [PyText] {db db' : Db} {c : Campaign} {audienceId : Uuid} {segment : Segment} {subject body : String}
  {a : ContentAsset}

/-- A row as `generate_outreach_drafts` leaves it for the email of a segment. -/
structure EmailTemplate (audienceId : Uuid) (segment : Segment) (subject body : String) (a : ContentAsset) : Prop where
  assetType : a.assetType = .email
  content : a.content = some (subject ++ "\n\n" ++ body)
  metadata : ∀ entry ∈ (outreachTemplate audienceId segment "email" subject body).2.2.2,
    a.extraMetadata.get? entry.1 = some entry.2
  subject_ne : subject ≠ ""
  body_ne : body ≠ ""

theorem EmailTemplate.fields (template : EmailTemplate audienceId segment subject body a) :
    a.extraMetadata.get? "fields" = some (.obj [("subject", .str subject), ("body", .str body)]) :=
  template.metadata ("fields", .obj [("subject", .str subject), ("body", .str body)]) (by simp [outreachTemplate])

theorem EmailTemplate.segmentKey (template : EmailTemplate audienceId segment subject body a) :
    a.extraMetadata.get? "segment_key" = some (.str segment.key) :=
  template.metadata ("segment_key", .str segment.key) (by simp [outreachTemplate])

theorem EmailTemplate.tagged (template : EmailTemplate audienceId segment subject body a) :
    a.extraMetadata.get? "audience_id" = some (.str (uuidStr audienceId)) :=
  template.metadata ("audience_id", .str (uuidStr audienceId)) (by simp [outreachTemplate])

theorem EmailTemplate.templateFields_eq (template : EmailTemplate audienceId segment subject body a) :
    templateFields a = some [("subject", .str subject), ("body", .str body)] := by
  rw [templateFields, template.fields]
  rfl

theorem EmailTemplate.bodyTemplate_eq (template : EmailTemplate audienceId segment subject body a)
    (content : Option String) :
    bodyTemplate [("subject", .str subject), ("body", .str body)] content = some body := by
  simp [bodyTemplate, Dict.get?, Json.truthy, Json.str?, Option.filter, template.body_ne]

/-- The preview renders the body of the template, without its subject. -/
theorem draft_body (template : EmailTemplate audienceId segment subject body a) {pass : DraftPass}
    (ours : pass.template = a) {d : PersonalisedDraft} (drafted : pass.draft = some d) :
    d.body = render body pass.member.payload := by
  simp only [DraftPass.draft, ours, template.templateFields_eq, template.bodyTemplate_eq, Option.bind_eq_bind,
    Option.bind_some, Option.bind_eq_some_iff, Option.some.injEq] at drafted
  obtain ⟨_, _, _, _, rfl⟩ := drafted
  rfl

end Templates

/-- Neither a name of the payload nor a value of it, written out, holds a line break. -/
def LineFree [PyText] (payload : Dict String Json) : Prop :=
  ∀ entry ∈ payload, '\n' ∉ entry.1.toList ∧ '\n' ∉ (str entry.2).toList

instance decidableLineFree [PyText] (payload : Dict String Json) : Decidable (LineFree payload) :=
  inferInstanceAs (Decidable (∀ entry ∈ payload, '\n' ∉ entry.1.toList ∧ '\n' ∉ (str entry.2).toList))

section Messages

variable [PyText] {db : Db} {secret : String} {c : Campaign} {audienceId : Uuid} {segment : Segment}
  {subject body : String} {a : ContentAsset}

theorem tokenValue_lineFree {payload : Dict String Json} (lineFree : LineFree payload) (name : String) :
    '\n' ∉ (tokenValue payload name).toList := by
  unfold tokenValue
  split
  · rename_i value found
    exact (lineFree _ (Dict.mem_of_get? (Option.filter_eq_some_iff.mp found).1)).2
  · cases fallback : fieldFallbacks.get? name with
    | none => simp
    | some value =>
      have plain : ∀ entry ∈ fieldFallbacks, '\n' ∉ entry.2.toList := by decide
      exact plain _ (Dict.mem_of_get? fallback)

/-- The `merge_fields` of a batch entry. -/
def mergeFieldsOf (db : Db) (secret : String) (tenantId : Uuid) (footer : Option Json)
    (entry : AudienceMember × String) : Dict String Json :=
  match footer with
  | some _ => Dict.set (stringOnlyPayload entry.1.payload) "unsubscribe_url"
      (.str (unsubscribeUrl db secret tenantId entry.2))
  | none => stringOnlyPayload entry.1.payload

theorem sortRecipient_mergeFields {tenantId : Uuid} {footer : Option Json} {entry : AudienceMember × String}
    {suppressed : List String} {r : EmailRecipient}
    (sorted : EmailDispatchTool.sortRecipient suppressed (audienceEntry db secret tenantId footer entry) = .ok (.inl r)) :
    r.mergeFields = (mergeFieldsOf db secret tenantId footer entry).map fun field => (field.1, str field.2) := by
  have shape : audienceEntry db secret tenantId footer entry =
      .obj [("email", .str entry.2), ("merge_fields", .obj (mergeFieldsOf db secret tenantId footer entry))] := by
    cases footer <;> rfl
  have handed : EmailDispatchTool.dictOrEmpty (some (.obj (mergeFieldsOf db secret tenantId footer entry))) =
      .ok (mergeFieldsOf db secret tenantId footer entry) := by
    generalize mergeFieldsOf db secret tenantId footer entry = fields
    cases fields <;> rfl
  have named : ("email" : String) ≠ "merge_fields" := by decide
  simp only [shape, EmailDispatchTool.sortRecipient, Json.dict?, Dict.get?, if_neg named, if_pos, handed] at sorted
  split at sorted
  · simp at sorted
  · split at sorted
    · simp at sorted
    · simp only [bind_eq_ok, pure_eq_ok, Except.ok.injEq, Sum.inl.injEq] at sorted
      obtain ⟨fields, rfl, rfl⟩ := sorted
      rfl

theorem stringOnlyPayload_lineFree {payload : Dict String Json} (lineFree : LineFree payload) :
    LineFree (stringOnlyPayload payload) := by
  intro field member
  obtain ⟨entry, here, kept⟩ := List.mem_filterMap.mp member
  have facts := lineFree entry here
  split at kept
  all_goals first
    | (obtain rfl := Option.some.inj kept
       rw [str_str]
       exact facts)
    | simp at kept

theorem unsubscribeUrl_line [UrlSafe] (tenantId : Uuid) (email : String) :
    '\n' ∉ (unsubscribeUrl db secret tenantId email).toList := by
  have host : '\n' ∉ ("https://app.example.com/api/unsubscribe/" : String).toList := by decide
  unfold unsubscribeUrl
  intro inside
  rw [String.toList_append] at inside
  exact (List.mem_append.mp inside).elim host (UrlSafe.signToken_line _ _ _)

/-- What is handed over for a line-free payload holds no line break either. -/
theorem mergeFields_lineFree [UrlSafe] {tenantId : Uuid} {footer : Option Json} {entry : AudienceMember × String}
    (lineFree : LineFree entry.1.payload) : LineFree (mergeFieldsOf db secret tenantId footer entry) := by
  have fields := stringOnlyPayload_lineFree lineFree
  cases footer with
  | none => exact fields
  | some footer =>
    intro field member
    rcases Dict.mem_set member with link | kept
    · have key : '\n' ∉ ("unsubscribe_url" : String).toList := by decide
      rw [link]
      refine ⟨key, ?_⟩
      rw [str_str]
      exact unsubscribeUrl_line tenantId entry.2
    · exact fields field kept

/-- The message of a template: its whole content is the body. -/
def templateMessage (subject body : String) : Dict String Json :=
  [("subject", .str subject), ("text_body", .str (subject ++ "\n\n" ++ body)),
    ("html_body", .str (subject ++ "\n\n" ++ body)), ("headers", .obj [])]

theorem messageFromAsset_template (template : EmailTemplate audienceId segment subject body a) :
    messageFromAsset a = .ok (.obj (templateMessage subject body)) := by
  have fields : assetFields a = .ok [("subject", .str subject), ("body", .str body)] := by
    rw [assetFields, template.fields]
    rfl
  have chosen : (Dict.get? [("subject", Json.str subject), ("body", .str body)] "subject").filter Json.truthy =
      some (.str subject) := by
    simp [Dict.get?, Option.filter, Json.truthy, template.subject_ne]
  rw [messageFromAsset, fields, template.content]
  simp only [bind, Except.bind, chosen, str_str]
  rfl

theorem injectFooterText_prefix (footer : Dict String Json) (text : String) :
    text.toList <+: (EmailDispatchTool.injectFooterText footer text).toList := by
  unfold EmailDispatchTool.injectFooterText
  dsimp only
  split
  · exact List.prefix_rfl
  · rw [String.toList_append, String.toList_append, List.append_assoc]
    exact List.prefix_append ..

theorem injectFooterHtml_prefix (footer : Dict String Json) (text : String) :
    text.toList <+: (EmailDispatchTool.injectFooterHtml footer text).toList := by
  unfold EmailDispatchTool.injectFooterHtml
  dsimp only
  split
  · exact List.prefix_rfl
  · simp only [String.toList_append, List.append_assoc]
    exact List.prefix_append ..

/-- A message built from a template has a subject that is not blank, and there
are blocks, each of which begins with the whole content. -/
theorem buildMessage_template {footer : Dict String Json} {message : EmailMessage}
    (built : EmailDispatchTool.buildMessage (templateMessage subject body) footer = .ok message) :
    strip subject ≠ "" ∧ contentBlocks message ≠ [] ∧
      ∀ block ∈ contentBlocks message, (subject ++ "\n\n" ++ body).toList <+: block.2.toList := by
  simp only [EmailDispatchTool.buildMessage, bind_eq_ok, require_eq_ok, pure_eq_ok] at built
  obtain ⟨_, named, headers, _, _, _, htmlBody, html, textBody, text, rfl⟩ := built
  obtain rfl : some (subject ++ "\n\n" ++ body) = htmlBody := Except.ok.inj html
  obtain rfl : some (subject ++ "\n\n" ++ body) = textBody := Except.ok.inj text
  have textual : ∃ block, (if footer.isEmpty then some (subject ++ "\n\n" ++ body)
      else (some (subject ++ "\n\n" ++ body)).map (EmailDispatchTool.injectFooterText footer)) = some block ∧
        (subject ++ "\n\n" ++ body).toList <+: block.toList := by
    split
    · exact ⟨_, rfl, List.prefix_rfl⟩
    · exact ⟨_, rfl, injectFooterText_prefix footer _⟩
  have markup : ∃ block, (if footer.isEmpty then some (subject ++ "\n\n" ++ body)
      else (some (subject ++ "\n\n" ++ body)).map (EmailDispatchTool.injectFooterHtml footer)) = some block ∧
        (subject ++ "\n\n" ++ body).toList <+: block.toList := by
    split
    · exact ⟨_, rfl, List.prefix_rfl⟩
    · exact ⟨_, rfl, injectFooterHtml_prefix footer _⟩
  obtain ⟨plain, isPlain, plainStarts⟩ := textual
  obtain ⟨rich, isRich, richStarts⟩ := markup
  have nonempty : plain ≠ "" := by
    rintro rfl
    simp at plainStarts
  refine ⟨by simpa [templateMessage, Dict.get?, str_str] using named, ?_, fun block member => ?_⟩
  · rw [contentBlocks, isPlain]
    simp [Option.filter, nonempty]
  · obtain ⟨⟨kind, content⟩, here, kept⟩ := List.mem_filterMap.mp member
    obtain ⟨shown, filtered, rfl⟩ := Option.map_eq_some_iff.mp kept
    have is := (Option.filter_eq_some_iff.mp filtered).1
    rw [isPlain, isRich] at here
    simp only [List.mem_cons, Prod.mk.injEq, List.not_mem_nil, or_false] at here
    rcases here with ⟨_, same⟩ | ⟨_, same⟩
    · rwa [← Option.some.inj (same.symm.trans is)]
    · rwa [← Option.some.inj (same.symm.trans is)]

end Messages

/-- A dispatch of the asset that reaches the connector. -/
structure TemplateRun [PyText] (a : ContentAsset) where
  db : Db
  secret : String
  now : Int
  answer : SendgridResponse
  plan : EmailPlan
  prepared : EmailDispatchTool.Prepared
  stored : db.asset? a.id = some a
  begun : beginEmail db secret a.id now = .ok (some plan)
  ready : EmailDispatchTool.prepare (sendgridConnector plan.payload answer) db.suppressions plan.asset.tenantId
    plan.toolInputs = .ok prepared

namespace TemplateRun

variable [PyText] {audienceId : Uuid} {segment : Segment} {subject body : String} {a : ContentAsset}

theorem planned (run : TemplateRun a) : ∃ message, planMessage a run.plan.toSend = .ok message ∧
    run.plan.toolInputs =
      emailToolInputs run.db run.secret run.plan.payload a run.plan.footer message run.plan.toSend := by
  obtain ⟨ready, planned⟩ := beginEmail_dispatchable run.begun
  have same : run.plan.asset = a := Option.some.inj (ready.asset.symm.trans run.stored)
  rw [same] at planned
  simp only [planEmail, bind_eq_ok, pure_eq_ok] at planned
  obtain ⟨payload, _, _, _, ⟨members, assignments⟩, _, recipients, _, capped, _, _, _, message, built, shape⟩ := planned
  exact ⟨message, by rw [← shape]; exact built, by rw [← shape]⟩

theorem blocks (run : TemplateRun a) (template : EmailTemplate audienceId segment subject body a) :
    strip subject ≠ "" ∧ contentBlocks run.prepared.message ≠ [] ∧
      ∀ block ∈ contentBlocks run.prepared.message, (subject ++ "\n\n" ++ body).toList <+: block.2.toList := by
  obtain ⟨message, built, inputs⟩ := run.planned
  have ready := run.ready
  simp only [EmailDispatchTool.prepare, bind_eq_ok, pure_eq_ok] at ready
  obtain ⟨_, _, _, _, payload, given, footer, _, made, building, batch, listed, sorted, _, shape⟩ := ready
  rw [← shape]
  -- a plan that sends to nobody has an empty batch, which the tool refuses
  have someone : run.plan.toSend ≠ [] := by
    intro nobody
    rw [inputs, nobody] at listed
    simp [EmailDispatchTool.audienceBatch, emailToolInputs, Dict.get?] at listed
  rw [planMessage, if_neg someone, messageFromAsset_template template] at built
  have whole : payload = templateMessage subject body := by
    rw [inputs, ← Except.ok.inj built] at given
    exact (Except.ok.inj given).symm
  exact buildMessage_template (whole ▸ building)

/-- The tool hands `r` to the connector for the member. -/
def Hands (run : TemplateRun a) (m : AudienceMember) (r : EmailRecipient) : Prop :=
  r ∈ run.prepared.sendPayload ∧ ∃ entry ∈ run.plan.toSend, entry.1 = m ∧ ∃ suppressed,
    EmailDispatchTool.sortRecipient suppressed (audienceEntry run.db run.secret a.tenantId run.plan.footer entry) =
      .ok (.inl r)

/-- The page of the audience shows `d` for the member and this template. -/
def Shows [PyRegex] (run : TemplateRun a) (audienceId : Uuid) (m : AudienceMember) (d : PersonalisedDraft) : Prop :=
  ∃ drafts passes, renderPersonalisedDrafts run.db a.campaignId audienceId = some drafts ∧
    previewPasses run.db a.campaignId audienceId = some passes ∧
    ∃ pass ∈ passes, pass.member = m ∧ pass.template = a ∧ pass.draft = some d

end TemplateRun

section Agreement

variable [PyText] [MailMerge] {audienceId : Uuid} {segment : Segment} {subject body : String} {a : ContentAsset}

/-- What the recipient gets is what is shown, with no token of the template in it. -/
def Agrees (a : ContentAsset) (message : EmailMessage) (r : EmailRecipient) (d : PersonalisedDraft) : Prop :=
  ∀ sent ∈ sentBodies message r, sent = d.body ∧
    ∀ name ∈ tokensIn (a.content.getD ""), contains ("\x7b" ++ name ++ "\x7d") sent = false

/-- In every dispatch of the template. -/
def PreviewIsSent [PyRegex] (a : ContentAsset) : Prop :=
  ∀ (run : TemplateRun a) (audienceId : Uuid) (m : AudienceMember) (d : PersonalisedDraft) (r : EmailRecipient),
    run.Shows audienceId m d → run.Hands m r → Agrees a run.prepared.message r d

/-- The two line breaks between subject and body are sent and not shown. -/
theorem sentBody_ne [UrlSafe] (template : EmailTemplate audienceId segment subject body a) {run : TemplateRun a}
    {m : AudienceMember} {r : EmailRecipient} (handed : run.Hands m r) (lineFree : LineFree m.payload) {sent : String}
    (received : sent ∈ sentBodies run.prepared.message r) : sent ≠ render body m.payload := by
  obtain ⟨_, entry, _, rfl, suppressed, sorted⟩ := handed
  obtain ⟨block, here, rfl⟩ := List.mem_map.mp received
  have fields : LineFree (mergeFieldsOf run.db run.secret a.tenantId run.plan.footer entry) :=
    mergeFields_lineFree lineFree
  have foreign : ∀ substitution ∈ substitutions r,
      '\n' ∉ substitution.1.toList ∧ '\n' ∉ substitution.2.toList := by
    intro substitution member
    rw [substitutions, sortRecipient_mergeFields sorted, List.map_map] at member
    obtain ⟨field, inside, rfl⟩ := List.mem_map.mp member
    have facts := fields field inside
    refine ⟨?_, facts.2⟩
    simpa using facts.1
  have kept := MailMerge.count_substitute (substitutions r) block.2 '\n' foreign
  have stands := ((run.blocks template).2.2 block here).sublist.count_le '\n'
  have shown : (render body entry.1.payload).toList.count '\n' = body.toList.count '\n' :=
    count_render body (by decide) (by decide) (tokenValue_lineFree lineFree)
  intro same
  rw [same] at kept
  simp only [String.toList_append, List.count_append] at stands
  have two : ("\n\n" : String).toList.count '\n' = 2 := by decide
  omega

/-- No such recipient gets what is shown for it. -/
theorem not_agrees [UrlSafe] [PyRegex] (template : EmailTemplate audienceId segment subject body a)
    {run : TemplateRun a} {id : Uuid} {m : AudienceMember} {d : PersonalisedDraft} {r : EmailRecipient}
    (shown : run.Shows id m d) (handed : run.Hands m r) (lineFree : LineFree m.payload) :
    ¬ Agrees a run.prepared.message r d := by
  intro agrees
  obtain ⟨_, passes, _, _, pass, _, rfl, ours, drafted⟩ := shown
  obtain ⟨block, here⟩ := List.exists_mem_of_ne_nil _ (run.blocks template).2.1
  have received : MailMerge.substitute (substitutions r) block.2 ∈ sentBodies run.prepared.message r :=
    List.mem_map_of_mem here
  refine sentBody_ne template handed lineFree received ?_
  rw [(agrees _ received).1, draft_body template ours drafted]

end Agreement

section Sole

variable [PyText] [PyRegex] {audienceId : Uuid} {segment : Segment} {subject body raw : String} {a : ContentAsset}
  {m : AudienceMember}

/-- A member of the segment with an address that the tool accepts, whose page can be shown. -/
structure Contact (audienceId : Uuid) (key raw : String) (m : AudienceMember) : Prop where
  audience : m.audienceId = audienceId
  segment : (bucketForMember m).map SegmentBucket.key = some key
  email : m.payload.get? "email" = some (.str raw)
  deliverable : EmailDispatchTool.validateRecipient [] (normalised raw) = none
  named : (contactName m.payload).isSome
  lineFree : LineFree m.payload

/-- The credential of a tenant that sends from the address. -/
def solePayload (raw : String) : Dict String Json := [("api_key", .str "key"), ("default_from_email", .str raw)]

def soleCampaign (a : ContentAsset) : Campaign where
  id := a.campaignId
  tenantId := a.tenantId
  name := ""
  status := .live
  budgetTotal := 0
  currency := "USD"
  startDate := 0
  endDate := 0

/-- The tables when the campaign of `a` runs, with `m` as its whole audience. -/
def soleDb (audienceId : Uuid) (raw : String) (m : AudienceMember) (a : ContentAsset) : Db where
  campaigns := [soleCampaign a]
  assets := [a]
  audiences := [⟨audienceId, a.tenantId, a.campaignId, 0⟩]
  audienceMembers := [m]
  credentials := [⟨a.tenantId, none, "sendgrid", solePayload raw⟩]

/-- The plan of a dispatch over these tables. -/
def solePlan (db : Db) (subject body raw : String) (m : AudienceMember) (a : ContentAsset) : EmailPlan where
  asset := a
  campaign := soleCampaign a
  payload := solePayload raw
  audienceSize := 1
  assignments := []
  toSend := [(m, normalised raw)]
  capped := triaged [] [] [] [m] .cap
  deduped := triaged [] [] [] [m] .dedup
  footer := none
  toolInputs := emailToolInputs db "" (solePayload raw) a none (.obj (templateMessage subject body)) [(m, normalised raw)]

theorem Contact.address_ne (contact : Contact audienceId segment.key raw m) : normalised raw ≠ "" := by
  intro empty
  have invalid : EmailDispatchTool.emailRe "" = false := rfl
  have refused := contact.deliverable
  simp [EmailDispatchTool.validateRecipient, empty, invalid] at refused

theorem Contact.memberEmail_eq (contact : Contact audienceId segment.key raw m) : memberEmail m = normalised raw := by
  rw [memberEmail, contact.email, Option.getD_some, str_str]

theorem soleDb_begins (template : EmailTemplate audienceId segment subject body a) (scheduled : a.status = .scheduled)
    (contact : Contact audienceId segment.key raw m) :
    beginEmail (soleDb audienceId raw m a) "" a.id 0 =
      .ok (some (solePlan (soleDb audienceId raw m a) subject body raw m a)) := by
  have payload : loadEmailPayload (soleDb audienceId raw m a) a.tenantId = .ok (solePayload raw) := by
    simp [loadEmailPayload, soleDb, scalarOneOrNone, orRaise, bind, Except.bind, pure, Except.pure]
  have members : loadAudienceMembers (soleDb audienceId raw m a) a.campaignId = [m] := by
    simp [loadAudienceMembers, soleDb, contact.audience]
  have untested : runningAbTestForAsset (soleDb audienceId raw m a) a = none := by
    unfold runningAbTestForAsset
    split
    · split <;> rfl
    · rfl
  have filtered : filterAudienceForAbTest (soleDb audienceId raw m a) a [m] = .ok ([m], []) := by
    rw [filterAudienceForAbTest, untested]
  have present : m.payload ≠ [] := by
    intro empty
    have email := contact.email
    simp [empty] at email
  have recipients : ∃ recipients, recentRecipients [m] = .ok recipients := by
    simp [recentRecipients, present, contact.email, pure, Except.pure, bind, Except.bind]
  have uncapped (candidates : List String) :
      cappedRecipients (soleDb audienceId raw m a) a.tenantId .email candidates 0 = .ok [] := by
    simp [cappedRecipients, soleDb, scalarOneOrNone, bind, Except.bind, pure, Except.pure]
  have sends : triaged [] [] [] [m] .send = [(m, normalised raw)] := by
    simp [triaged, triage, contact.memberEmail_eq, contact.address_ne]
  have caps : triaged [] [] [] [m] .cap = [] := by
    simp [triaged, triage, contact.memberEmail_eq, contact.address_ne]
  have footer : buildComplianceFooter (soleDb audienceId raw m a) a.tenantId = none := rfl
  have message := messageFromAsset_template template
  obtain ⟨recipients, read⟩ := recipients
  have existing : existingAttempts (soleDb audienceId raw m a) a.id = [] := rfl
  have recent : recentSentRecipients (soleDb audienceId raw m a) a.tenantId recipients 0 = [] := rfl
  have planned : planEmail (soleDb audienceId raw m a) "" a (soleCampaign a) 0 =
      .ok (solePlan (soleDb audienceId raw m a) subject body raw m a) := by
    simp only [planEmail, payload, members, filtered, read, uncapped, existing, recent, sends, caps, footer, bind, Except.bind,
      Except.mapError, planMessage, message, pure, Except.pure, require, List.not_mem_nil, false_implies, implies_true,
      if_true]
    rw [solePlan, caps]
    rfl
  have stored : (soleDb audienceId raw m a).asset? a.id = some a := by simp [Db.asset?, soleDb]
  have campaign : (soleDb audienceId raw m a).campaign? a.campaignId = some (soleCampaign a) := by
    simp [Db.campaign?, soleDb, soleCampaign]
  have running : (soleCampaign a).status ≠ .paused := by simp [soleCampaign]
  simp only [beginEmail, stored, orRaise, scheduled, campaign, if_neg running, require, template.assetType, planned, bind,
    Except.bind, pure, Except.pure, if_true]

/-- What the tool makes of the member. -/
def soleRecipient (raw : String) (m : AudienceMember) : EmailRecipient where
  email := normalised raw
  mergeFields := (stringOnlyPayload m.payload).map fun field => (field.1, str field.2)

theorem sortRecipient_sole (contact : Contact audienceId segment.key raw m) (db : Db) (tenantId : Uuid) :
    EmailDispatchTool.sortRecipient [] (audienceEntry db "" tenantId none (m, normalised raw)) =
      .ok (.inl (soleRecipient raw m)) := by
  have address : EmailDispatchTool.recipientEmail [("email", Json.str (normalised raw)),
      ("merge_fields", .obj (stringOnlyPayload m.payload))] = normalised raw := by
    simp only [EmailDispatchTool.recipientEmail, Dict.get?, if_pos, Option.getD_some, str_str, normalised_normalised]
  have fields : EmailDispatchTool.dictOrEmpty (some (.obj (stringOnlyPayload m.payload))) =
      .ok (stringOnlyPayload m.payload) := by
    generalize stringOnlyPayload m.payload = fields
    cases fields <;> rfl
  have other : ("email" : String) ≠ "merge_fields" ∧ ("email" : String) ≠ "name" ∧ ("merge_fields" : String) ≠ "name" := by
    decide
  simp only [audienceEntry, EmailDispatchTool.sortRecipient, Json.dict?, address, if_neg contact.address_ne,
    contact.deliverable, Dict.get?, if_neg other.1, if_neg other.2.1, if_neg other.2.2, if_pos, fields, bind, Except.bind,
    pure, Except.pure, Option.getD_none]
  rfl

theorem soleDb_ready (contact : Contact audienceId segment.key raw m) (named : strip subject ≠ "") (db : Db)
    (answer : SendgridResponse) :
    ∃ p, EmailDispatchTool.prepare (sendgridConnector (solePayload raw) answer) [] a.tenantId
        (emailToolInputs db "" (solePayload raw) a none (.obj (templateMessage subject body)) [(m, normalised raw)]) =
      .ok p ∧ p.sendPayload = [soleRecipient raw m] := by
  have spelled : raw ≠ "" := by
    rintro rfl
    exact contact.address_ne normalised_empty
  have sender : (((solePayload raw).get? "default_from_email").filter Json.truthy).getD (.str "") = .str raw := by
    simp [solePayload, Dict.get?, Option.filter, Json.truthy, spelled]
  have headers : EmailDispatchTool.messageHeaders (templateMessage subject body) = .ok [] := rfl
  have titled : strip (str (((templateMessage subject body).get? "subject").getD (.str ""))) ≠ "" := by
    simpa [templateMessage, Dict.get?, str_str] using named
  have html : EmailDispatchTool.bodyField (templateMessage subject body) "html_body" =
      .ok (some (subject ++ "\n\n" ++ body)) := rfl
  have text : EmailDispatchTool.bodyField (templateMessage subject body) "text_body" =
      .ok (some (subject ++ "\n\n" ++ body)) := rfl
  obtain ⟨message, built⟩ : ∃ message, EmailDispatchTool.buildMessage (templateMessage subject body) [] = .ok message := by
    simp [EmailDispatchTool.buildMessage, headers, titled, html, text]
  have sorted : EmailDispatchTool.sortRecipients [] [audienceEntry db "" a.tenantId none (m, normalised raw)] =
      .ok ([soleRecipient raw m], []) := by
    simp only [EmailDispatchTool.sortRecipients, sortRecipient_sole contact, bind, Except.bind, pure, Except.pure]
  generalize shape : emailToolInputs db "" (solePayload raw) a none (.obj (templateMessage subject body))
    [(m, normalised raw)] = inputs
  have address : normalised (str ((inputs.get? "from_email").getD (.str ""))) = normalised raw := by
    rw [← shape, emailToolInputs, sender]
    simp [Dict.get?, str_str]
  have verified : (sendgridConnector (solePayload raw) answer).verifiedSenders = [] := rfl
  have given : EmailDispatchTool.dictOrEmpty (inputs.get? "message") = .ok (templateMessage subject body) := by
    rw [← shape]
    rfl
  have footer : EmailDispatchTool.complianceFooter inputs = .ok [] := by
    rw [← shape]
    rfl
  have batch : EmailDispatchTool.audienceBatch inputs = .ok [audienceEntry db "" a.tenantId none (m, normalised raw)] := by
    rw [← shape]
    rfl
  have marketing : EmailDispatchTool.transactional inputs = false := by
    rw [← shape]
    rfl
  have unlisted (candidates : List String) : EmailDispatchTool.loadSuppressedEmails [] a.tenantId candidates = [] := rfl
  refine ⟨⟨normalised raw, message, [soleRecipient raw m], []⟩, ?_, rfl⟩
  simp only [EmailDispatchTool.prepare, address, verified, given, footer, batch, marketing, unlisted, built, sorted,
    bind, Except.bind, pure, Except.pure, require, List.map_nil, if_neg, if_pos, contact.address_ne, true_or, ne_eq,
    not_false_eq_true, Bool.false_eq_true]

/-- The page over these tables. -/
theorem soleDb_shows (template : EmailTemplate audienceId segment subject body a)
    (contact : Contact audienceId segment.key raw m) :
    ∃ pass d, previewPasses (soleDb audienceId raw m a) a.campaignId audienceId = some [pass] ∧ pass.member = m ∧
      pass.template = a ∧ pass.draft = some d := by
  obtain ⟨bucket, found, key⟩ := Option.map_eq_some_iff.mp contact.segment
  have nonempty : segment.key ≠ "" := by
    have keys : ∀ bucket ∈ seniorityBuckets, bucket.key ≠ "" := by decide
    rw [← key]
    exact keys bucket (bucketForMember_mem found)
  have members : (soleDb audienceId raw m a).audienceMembers.filter (·.audienceId = audienceId) = [m] := by
    simp [soleDb, contact.audience]
  have assets : outreachAssets (soleDb audienceId raw m a) a.campaignId audienceId = [a] := by
    simp [outreachAssets, soleDb, template.assetType, template.tagged]
  have templates : bySegment [a] = some [((segment.key, "email"), a)] := by
    simp [bySegment, segmentEntry, template.segmentKey, Option.filter, Json.truthy, nonempty, template.assetType,
      Dict.merge, Dict.set]
  have passes : draftPasses [((segment.key, "email"), a)] [(bucket, [m])] = [⟨bucket, m, "email", a⟩] := by
    simp [draftPasses, Dict.get?, key]
  obtain ⟨name, named⟩ := Option.isSome_iff_exists.mp contact.named
  obtain ⟨d, drafted⟩ : ∃ d, (DraftPass.mk bucket m "email" a).draft = some d := by
    simp [DraftPass.draft, template.templateFields_eq, template.bodyTemplate_eq, named, draftSubject, Dict.get?,
      Json.str?]
  refine ⟨⟨bucket, m, "email", a⟩, d, ?_, rfl, rfl, drafted⟩
  rw [previewPasses, members, assets]
  simp [templates, segmentMembers_single found, passes]

/-- A dispatch over these tables hands the contact to the connector. -/
theorem soleDb_hands (template : EmailTemplate audienceId segment subject body a) (scheduled : a.status = .scheduled)
    (contact : Contact audienceId segment.key raw m) (named : strip subject ≠ "") :
    ∃ (run : TemplateRun a) (d : PersonalisedDraft) (r : EmailRecipient), run.Shows audienceId m d ∧ run.Hands m r := by
  obtain ⟨p, ready, handed⟩ := @soleDb_ready _ _ audienceId segment subject body raw a m contact named
    (soleDb audienceId raw m a) (.response 202 "" "")
  obtain ⟨pass, d, passes, same, ours, drafted⟩ := soleDb_shows template contact
  have stored : (soleDb audienceId raw m a).asset? a.id = some a := by simp [Db.asset?, soleDb]
  refine ⟨⟨soleDb audienceId raw m a, "", 0, .response 202 "" "", _, p, stored, soleDb_begins template scheduled contact,
    ready⟩, d, soleRecipient raw m, ?_, ?_⟩
  · refine ⟨[d], [pass], ?_, passes, pass, List.mem_singleton_self _, same, ours, drafted⟩
    rw [renderPersonalisedDrafts]
    simp [passes, drafted]
  · refine ⟨?_, (m, normalised raw), List.mem_singleton_self _, rfl, [], sortRecipient_sole contact _ _⟩
    exact handed ▸ List.mem_singleton_self _

/-- What the page shows is sent in every dispatch of a template exactly when its subject is
blank, and the tool refuses every dispatch. Otherwise no contact whose payload holds no line
break is sent what is shown for it. -/
theorem preview_is_sent_iff [MailMerge] [UrlSafe] (template : EmailTemplate audienceId segment subject body a)
    (scheduled : a.status = .scheduled) (contact : Contact audienceId segment.key raw m) :
    (PreviewIsSent a ↔ strip subject = "") ∧
      ∀ (run : TemplateRun a) (id : Uuid) (m : AudienceMember) (d : PersonalisedDraft) (r : EmailRecipient),
        run.Shows id m d → run.Hands m r → LineFree m.payload → ¬ Agrees a run.prepared.message r d := by
  refine ⟨⟨fun faithful => ?_, fun blank run _ _ _ _ _ _ => absurd blank (run.blocks template).1⟩,
    fun run id m d r shown handed lineFree => not_agrees template shown handed lineFree⟩
  by_contra named
  obtain ⟨run, d, r, shown, handed⟩ := soleDb_hands template scheduled contact named
  exact not_agrees template shown handed contact.lineFree (faithful run audienceId m d r shown handed)

end Sole

local instance previewText : PyText := PyText.plain

local instance previewRegex : PyRegex := PyRegex.plain

local instance previewMerge : MailMerge := MailMerge.inOrder

local instance previewUrlSafe : UrlSafe := ⟨fun _ _ _ => (by decide : '\n' ∉ ("" : String).toList)⟩

/-- A payload with line breaks can be made to agree, with a name that completes a tag of the provider. -/
example : MailMerge.substitute [("\x7b\x7b \x7ba\x7d \x7d\x7d", "y \x7d\x7d")]
    ("\x7b\x7b x" ++ "\n\n" ++ "\x7b\x7b \x7ba\x7d \x7d\x7d") =
      render "\x7b\x7b \x7ba\x7d \x7d\x7d" [("a", .str "x\n\ny"), (" \x7ba\x7d ", .str "y \x7d\x7d")] := by
  decide

def vps : Segment := ⟨"vp", "VP / Head of", 1⟩

def opener : ContentAsset where
  id := 5
  tenantId := 1
  campaignId := 7
  assetType := .email
  status := .scheduled
  title := some "VP / Head of · email"
  content := some "Quick question\n\nHi \x7bfirst_name\x7d"
  extraMetadata := (outreachTemplate 9 vps "email" "Quick question" "Hi \x7bfirst_name\x7d").2.2.2

def ada : AudienceMember where
  audienceId := 9
  externalId := "ada"
  payload := [("email", .str "ada@acme.io"), ("first_name", .str "Ada"), ("seniority", .str "vp")]

theorem opener_template : EmailTemplate 9 vps "Quick question" "Hi \x7bfirst_name\x7d" opener where
  assetType := rfl
  content := rfl
  metadata _ listed := Dict.get?_of_mem (outreachTemplate_nodup 9 vps "email" _ _) listed
  subject_ne := by decide
  body_ne := by decide

theorem ada_contact : Contact 9 vps.key "ada@acme.io" ada where
  audience := rfl
  segment := by decide
  email := by decide
  deliverable := by decide
  named := by decide
  lineFree := by decide

def openerMessage : EmailMessage where
  subject := "Quick question"
  htmlBody := some "Quick question\n\nHi \x7bfirst_name\x7d"
  textBody := some "Quick question\n\nHi \x7bfirst_name\x7d"
  headers := []
  replyTo := .null

/-- The page shows "Hi Ada"; the connector is handed the subject, a blank line and the token. -/
theorem opener_sent_otherwise : ∃ (run : TemplateRun opener) (d : PersonalisedDraft) (r : EmailRecipient),
    run.Shows 9 ada d ∧ run.Hands ada r ∧ d.body = "Hi Ada" ∧
      sentBodies run.prepared.message r =
        ["Quick question\n\nHi \x7bfirst_name\x7d", "Quick question\n\nHi \x7bfirst_name\x7d"] := by
  let run : TemplateRun opener :=
    { db := soleDb 9 "ada@acme.io" ada opener
      secret := ""
      now := 0
      answer := .response 202 "" ""
      plan := solePlan (soleDb 9 "ada@acme.io" ada opener) "Quick question" "Hi \x7bfirst_name\x7d" "ada@acme.io" ada
        opener
      prepared := ⟨"ada@acme.io", openerMessage, [soleRecipient "ada@acme.io" ada], []⟩
      stored := rfl
      begun := soleDb_begins opener_template rfl ada_contact
      ready := rfl }
  obtain ⟨pass, d, passes, same, ours, drafted⟩ := soleDb_shows opener_template ada_contact
  have shown : d.body = "Hi Ada" := by
    rw [draft_body opener_template ours drafted, same]
    decide
  refine ⟨run, d, soleRecipient "ada@acme.io" ada, ?_, ?_, shown, by decide⟩
  · refine ⟨[d], [pass], ?_, passes, pass, List.mem_singleton_self _, same, ours, drafted⟩
    rw [renderPersonalisedDrafts, passes]
    simp [drafted]
  · exact ⟨List.mem_singleton_self _, (ada, "ada@acme.io"), List.mem_singleton_self _, rfl, [],
      sortRecipient_sole ada_contact _ _⟩

theorem opener_witness : (PreviewIsSent opener ↔ PyText.strip "Quick question" = "") ∧
    ∀ (run : TemplateRun opener) (id : Uuid) (m : AudienceMember) (d : PersonalisedDraft) (r : EmailRecipient),
      run.Shows id m d → run.Hands m r → LineFree m.payload → ¬ Agrees opener run.prepared.message r d :=
  preview_is_sent_iff opener_template rfl ada_contact

end Preview

end MarketingAgents
