import MarketingAgents.Outbound.Drafts
import MarketingAgents.Tools.ModelReply

namespace MarketingAgents

open Lib PyText

/-- `OutreachGenerationSummary`. -/
structure OutreachSummary where
  campaignId : Uuid
  audienceId : Uuid
  segmentsGenerated : Nat
  linkedinAssets : Nat := 0
  emailAssets : Nat := 0
  skippedExisting : Nat := 0
  errors : List String := []
deriving DecidableEq

/-- What the summary accounts for. -/
def OutreachSummary.total (summary : OutreachSummary) : Nat :=
  summary.linkedinAssets + summary.emailAssets + summary.skippedExisting + summary.errors.length

def OutreachSummary.bumpError (summary : OutreachSummary) (error : String) : OutreachSummary :=
  { summary with errors := summary.errors ++ [String.ofList (error.toList.take 200)] }

/-- What one pass of the loop adds to the summary; `existing` are the templates it finds. -/
def OutreachSummary.bump (summary : OutreachSummary) (overwrite : Bool) (existing : List ContentAsset)
    (entry : OutreachEntry) : OutreachSummary :=
  if existing ≠ [] ∧ overwrite = false then { summary with skippedExisting := summary.skippedExisting + 1 }
  else match entry.2.2 with
    | .failed message | .raised message => summary.bumpError message
    | .fields subject body =>
      if entry.2.1 = "linkedin_dm" then
        if body = "" then summary.bumpError "model returned empty linkedin body"
        else { summary with linkedinAssets := summary.linkedinAssets + 1 }
      else if subject = "" ∨ body = "" then summary.bumpError "model returned empty email fields"
      else { summary with emailAssets := summary.emailAssets + 1 }

theorem OutreachSummary.total_bump (summary : OutreachSummary) (overwrite : Bool) (existing : List ContentAsset)
    (entry : OutreachEntry) : (summary.bump overwrite existing entry).total = summary.total + 1 := by
  have error : ∀ message, (summary.bumpError message).total = summary.total + 1 := by
    intro message
    simp only [OutreachSummary.total, OutreachSummary.bumpError, List.length_append, List.length_singleton]
    omega
  unfold OutreachSummary.bump
  split
  · simp only [OutreachSummary.total]
    omega
  · split
    · exact error _
    · exact error _
    · split <;> split
      · exact error _
      · simp only [OutreachSummary.total]
        omega
      · exact error _
      · simp only [OutreachSummary.total]
        omega

section Replies

variable [PyText] [PyJson]

/-- `obj.get(key) or ""` of the text entries. -/
def outreachField (entries : Dict String Json) (key : String) : String :=
  (Dict.get? (entries.filterMap fun entry => entry.2.str?.map fun text => (entry.1, text)) key).getD ""

/-- `_extract_json`; a reply that `json.loads` refuses raises as it does. -/
def extractJson (raw : String) : OutreachReply :=
  match PyJson.loads (replyText raw) with
  | .error (.decode message) | .error (.raised message) => .raised message
  | .ok obj =>
    match obj.dict? with
    | some entries => .fields (outreachField entries "subject") (outreachField entries "body")
    | none => .failed "model output was not a JSON object"

/-- `_generate_one`. -/
def generateOne : ModelMessage → OutreachReply
  | .raised message => .failed ("LLM call failed: " ++ message)
  | .noText => .failed "model returned no text content"
  | .text raw => extractJson raw

omit [PyText] [PyJson] in
/-- The template would hold a NUL, which the database refuses. -/
def nulTemplate (channel subject body : String) : Bool :=
  if channel = "linkedin_dm" then '\x00' ∈ body.toList
  else subject ≠ "" && body ≠ "" && ('\x00' ∈ subject.toList || '\x00' ∈ body.toList)

/-- What a pass gets to store, or what the flush of it raises. -/
def outreachReply (channel : String) (message : ModelMessage) : OutreachReply :=
  match generateOne message with
  | .fields subject body => if nulTemplate channel subject body then .raised "DBAPIError" else .fields subject body
  | reply => reply

end Replies

section Generation

variable [PyText]

/-- The loop of `generate_outreach_drafts` with its summary. -/
def outreachRun (c : Campaign) (audienceId : Uuid) (overwrite : Bool) :
    Db → OutreachSummary → List OutreachEntry → Except AppError (Db × OutreachSummary)
  | db, summary, [] => .ok (db, summary)
  | db, summary, entry :: rest => do
    let next ← outreachDraft c audienceId overwrite db entry.1 entry.2.1 entry.2.2
    outreachRun c audienceId overwrite next (summary.bump overwrite (templatesOf db c audienceId entry) entry) rest

/-- `generate_outreach_drafts`; `messages` is what the model answers for each
segment and channel. -/
def generateOutreachDrafts [PyJson] [PyRegex] (db : Db) (c : Campaign) (audienceId : Uuid) (overwrite : Bool)
    (messages : String → String → ModelMessage) : Except AppError (Db × OutreachSummary) := do
  let _ ← orRaise (db.audiences.find? fun audience => audience.id = audienceId ∧ audience.tenantId = c.tenantId)
    (.outreach ("audience " ++ uuidStr audienceId ++ " not found in this tenant"))
  let members := db.audienceMembers.filter (·.audienceId = audienceId)
  require (members ≠ []) (.outreach "audience is empty")
  let segments ← orRaise (segmentMembers members) (.raised "AttributeError")
  outreachRun c audienceId overwrite db
    { campaignId := c.id, audienceId := audienceId, segmentsGenerated := segments.length }
    (outreachEntries segments fun key channel => outreachReply channel (messages key channel))

variable {db db' : Db} {c : Campaign} {audienceId : Uuid} {overwrite : Bool} {entries : List OutreachEntry}

/-- At most one template for each segment and channel. -/
def SingleTemplates (db : Db) (c : Campaign) (audienceId : Uuid) : Prop :=
  ∀ assetType ∈ [AssetType.linkedinDm, .email], ∀ key,
    (existingTemplates db c audienceId assetType key).length ≤ 1

/-- The summary of a run accounts for all its passes. -/
theorem outreachRun_total {summary last : OutreachSummary}
    (done : outreachRun c audienceId overwrite db summary entries = .ok (db', last)) :
    last.total = summary.total + entries.length := by
  induction entries generalizing db summary with
  | nil =>
    cases done
    rfl
  | cons entry entries ih =>
    simp only [outreachRun, bind_eq_ok] at done
    obtain ⟨next, _, rest⟩ := done
    rw [ih rest, OutreachSummary.total_bump, List.length_cons]
    omega

/-- A run returns if the loop does, with its tables. -/
theorem outreachRun_ok_iff (summary : OutreachSummary) :
    (∃ last, outreachRun c audienceId overwrite db summary entries = .ok (db', last)) ↔
      outreachDrafts c audienceId overwrite db entries = (db', .ok ()) := by
  induction entries generalizing db summary with
  | nil => simp [outreachRun, outreachDrafts]
  | cons entry entries ih =>
    obtain ⟨segment, channel, reply⟩ := entry
    simp only [outreachRun, outreachDrafts]
    cases outreachDraft c audienceId overwrite db segment channel reply with
    | error error => simp [bind, Except.bind]
    | ok next => exact ih _

/-- A template of the kind that an entry stands for. -/
theorem singleTemplates_iff :
    SingleTemplates db c audienceId ↔ ∀ entry : OutreachEntry, (templatesOf db c audienceId entry).length ≤ 1 := by
  constructor
  · intro single entry
    refine single _ ?_ _
    unfold OutreachEntry.tag
    dsimp only
    split <;> simp
  · intro each assetType listed key
    have named : ∀ channel, (if channel = "linkedin_dm" then AssetType.linkedinDm else .email) = assetType →
        (existingTemplates db c audienceId assetType key).length ≤ 1 := by
      intro channel kind
      have found := each (⟨key, "", 0⟩, channel, .failed "")
      rwa [templatesOf, OutreachEntry.tag, kind] at found
    rcases List.mem_cons.mp listed with rfl | later
    · exact named "linkedin_dm" rfl
    · cases List.mem_singleton.mp later
      exact named "email" rfl

theorem templatesOf_insertAsset {entry : OutreachEntry} {a : ContentAsset} (none : templatesOf db c audienceId entry = []) :
    (templatesOf (db.insertAsset a) c audienceId entry).length ≤ 1 := by
  rw [templatesOf_eq] at none ⊢
  rw [Db.insertAsset, List.filter_append, none, List.nil_append]
  exact List.length_filter_le ..

theorem templatesOf_setAsset (wf : db.Wf) {entry : OutreachEntry} {a new : ContentAsset}
    (single : templatesOf db c audienceId entry = [a]) (sameId : new.id = a.id) :
    (templatesOf (db.setAsset new) c audienceId entry).length ≤ 1 := by
  rw [templatesOf_eq] at single ⊢
  have listed : a ∈ db.assets.filter (isTemplate c audienceId entry) := single ▸ List.mem_singleton_self a
  obtain ⟨here, ours⟩ := List.mem_filter.mp listed
  have kept : ∀ row ∈ db.assets, isTemplate c audienceId entry (if decide (row.id = new.id) then new else row) = true →
      isTemplate c audienceId entry row = true := by
    intro row member after
    split at after
    · rename_i hit
      rwa [eq_of_key_eq wf.assetIds member here ((of_decide_eq_true hit).trans sameId)]
    · exact after
  have one : (db.assets.filter (isTemplate c audienceId entry)).length = 1 := by rw [single, List.length_singleton]
  rw [Db.setAsset, updateWhere, List.filter_map, List.length_map, ← one, ← List.countP_eq_length_filter,
    ← List.countP_eq_length_filter]
  exact List.countP_mono_left kept

/-- A pass that returns takes a step. -/
theorem draftStep_of_ok (wf : db.Wf) {entry : OutreachEntry}
    (done : outreachDraft c audienceId overwrite db entry.1 entry.2.1 entry.2.2 = .ok db') :
    DraftStep db db' c audienceId overwrite entry := by
  have quiet : entry.raises overwrite (templatesOf db c audienceId entry) = false := by
    by_contra raises
    obtain ⟨error, failed⟩ := outreachDraft_raises (by simpa using raises)
    cases done.symm.trans failed
  obtain ⟨after, same, step⟩ := outreachDraft_steps wf quiet
  cases Except.ok.inj (done.symm.trans same)
  exact step

/-- A pass leaves no more than one template where there was at most one. -/
theorem outreachDraft_single (wf : db.Wf) {entry : OutreachEntry} (single : SingleTemplates db c audienceId)
    (done : outreachDraft c audienceId overwrite db entry.1 entry.2.1 entry.2.2 = .ok db') :
    SingleTemplates db' c audienceId := by
  have step := draftStep_of_ok wf done
  have before := singleTemplates_iff.mp single
  refine singleTemplates_iff.mpr fun other => ?_
  by_cases mine : other.tag = entry.tag
  · have there : templatesOf db' c audienceId other = templatesOf db' c audienceId entry := by
      rw [templatesOf, templatesOf, mine]
    rw [there]
    have kept := before entry
    obtain ⟨segment, channel, reply⟩ := entry
    dsimp only at done
    rcases shape : templatesOf db c audienceId (segment, channel, reply) with _ | ⟨a, _ | ⟨b, rest⟩⟩
    · rw [outreachDraft_of_nil shape] at done
      cases reply with
      | failed message => exact Except.ok.inj done ▸ kept
      | raised message => cases done
      | fields subject body =>
        dsimp only at done
        split at done
        · exact Except.ok.inj done ▸ kept
        · exact Except.ok.inj done ▸ templatesOf_insertAsset shape
    · rw [outreachDraft_of_single shape] at done
      split at done
      · exact Except.ok.inj done ▸ kept
      · cases reply with
        | failed message => exact Except.ok.inj done ▸ kept
        | raised message => cases done
        | fields subject body =>
          dsimp only at done
          split at done
          · exact Except.ok.inj done ▸ kept
          · exact Except.ok.inj done ▸ templatesOf_setAsset wf shape rfl
    · rw [shape, List.length_cons, List.length_cons] at kept
      omega
  · rw [step.others other mine]
    exact before other

/-- A run that returns leaves at most one template for each segment and channel if and only if there was no more before. -/
theorem outreachDrafts_single_iff (wf : db.Wf) (distinct : entries.Pairwise fun entry later => later.tag ≠ entry.tag)
    (done : outreachDrafts c audienceId overwrite db entries = (db', .ok ())) :
    SingleTemplates db' c audienceId ↔ SingleTemplates db c audienceId := by
  constructor
  · intro single
    refine singleTemplates_iff.mpr fun other => ?_
    by_cases passed : ∃ entry ∈ entries, other.tag = entry.tag
    · obtain ⟨entry, member, same⟩ := passed
      have quiet : entry.raisesAt db c audienceId overwrite ≠ true := by
        intro raises
        obtain ⟨error, failed⟩ := (outreachDrafts_error_iff wf distinct).mpr ⟨entry, member, raises⟩
        rw [done] at failed
        cases failed
      have there : templatesOf db c audienceId other = templatesOf db c audienceId entry := by
        rw [templatesOf, templatesOf, same]
      rw [there]
      by_contra many
      refine quiet ?_
      unfold OutreachEntry.raisesAt OutreachEntry.raises
      split
      · simp only [Bool.or_eq_true, decide_eq_true_eq]
        omega
      · simp only [decide_eq_true_eq]
        omega
    · have kept : templatesOf (outreachDrafts c audienceId overwrite db entries).1 c audienceId other =
          templatesOf db c audienceId other :=
        outreachDrafts_others wf fun entry member same => passed ⟨entry, member, same⟩
      rw [done] at kept
      rw [← kept]
      exact singleTemplates_iff.mp single other
  · intro single
    induction entries generalizing db with
    | nil =>
      cases done
      exact single
    | cons entry entries ih =>
      obtain ⟨segment, channel, reply⟩ := entry
      rw [outreachDrafts] at done
      split at done
      · rename_i next made
        have pass : outreachDraft c audienceId overwrite db (segment, channel, reply).1 channel reply = .ok next := made
        exact ih (draftStep_of_ok wf pass).wf (List.pairwise_cons.mp distinct).2 done (outreachDraft_single wf single pass)
      · cases done

end Generation

section Accounts

variable [PyText] [PyJson]

/-- The reply can be read, and what it stores holds no NUL. -/
def ModelMessage.Readable (channel : String) : ModelMessage → Prop
  | .raised _ | .noText => True
  | .text raw => ∃ obj, PyJson.loads (replyText raw) = .ok obj ∧ ∀ entries, obj.dict? = some entries →
      nulTemplate channel (outreachField entries "subject") (outreachField entries "body") = false

theorem outreachReply_raised_iff (channel : String) (message : ModelMessage) :
    (∃ text, outreachReply channel message = .raised text) ↔ ¬ message.Readable channel := by
  cases message with
  | raised text => simp [outreachReply, generateOne, ModelMessage.Readable]
  | noText => simp [outreachReply, generateOne, ModelMessage.Readable]
  | text raw =>
    simp only [outreachReply, generateOne, extractJson, ModelMessage.Readable]
    cases PyJson.loads (replyText raw) with
    | error error => cases error <;> simp
    | ok obj =>
      cases obj with
      | obj entries =>
        simp only [Json.dict?, Except.ok.injEq, exists_eq_left', Option.some.injEq, forall_eq']
        split <;> simp [*]
      | null | bool | int | float | str | arr => simp [Json.dict?]

variable [PyRegex] {db : Db} {c : Campaign} {audienceId : Uuid} {overwrite : Bool}
  {messages : String → String → ModelMessage}

/-- A pair that is not skipped has a prompt that can be built and a reply that can be read. -/
def Answered (db : Db) (c : Campaign) (audienceId : Uuid) (overwrite : Bool) (messages : String → String → ModelMessage)
    (segment : SegmentBucket × List AudienceMember) : Prop :=
  ∀ channel ∈ ["linkedin_dm", "email"],
    existingTemplates db c audienceId (if channel = "linkedin_dm" then .linkedinDm else .email) segment.1.key ≠ [] ∧
        overwrite = false ∨
      promptable segment.2 = true ∧ (messages segment.1.key channel).Readable channel

/-- The generation returns with a summary in which every pair is counted, and no template is doubled. -/
def AccountsForPairs (db : Db) (c : Campaign) (audienceId : Uuid) (overwrite : Bool)
    (messages : String → String → ModelMessage) : Prop :=
  ∃ db' summary segments, generateOutreachDrafts db c audienceId overwrite messages = .ok (db', summary) ∧
    segmentMembers (db.audienceMembers.filter (·.audienceId = audienceId)) = some segments ∧
    summary.linkedinAssets + summary.emailAssets + summary.skippedExisting + summary.errors.length = segments.length * 2 ∧
    SingleTemplates db' c audienceId

omit [PyText] [PyJson] [PyRegex] in
theorem length_outreachEntries (segments : List (SegmentBucket × List AudienceMember))
    (replies : String → String → OutreachReply) : (outreachEntries segments replies).length = segments.length * 2 := by
  induction segments with
  | nil => rfl
  | cons segment segments ih =>
    rw [outreachEntries, List.flatMap_cons, List.length_append]
    rw [outreachEntries] at ih
    rw [ih, List.length_cons, Nat.succ_mul, Nat.add_comm]
    rfl

omit [PyRegex] in
/-- Of at most one template each, the passes over a segment raise where it is not answered. -/
theorem answered_iff (single : SingleTemplates db c audienceId) (segment : SegmentBucket × List AudienceMember) :
    (∀ entry ∈ segmentEntries (fun key channel => outreachReply channel (messages key channel)) segment,
      entry.raisesAt db c audienceId overwrite = false) ↔ Answered db c audienceId overwrite messages segment := by
  unfold segmentEntries Answered
  rw [List.forall_mem_map]
  refine forall₂_congr fun channel _ => ?_
  generalize found : existingTemplates db c audienceId (if channel = "linkedin_dm" then .linkedinDm else .email)
    segment.1.key = existing
  have few : existing.length ≤ 1 := by
    rw [← found]
    refine single _ ?_ _
    split <;> simp
  have there : ∀ reply, templatesOf db c audienceId (⟨segment.1.key, segment.1.label, segment.2.length⟩, channel, reply) =
      existing := fun _ => found
  simp only [OutreachEntry.raisesAt, OutreachEntry.raises, there]
  by_cases prompt : promptable segment.2 = true
  · rw [if_pos prompt]
    have readable := outreachReply_raised_iff channel (messages segment.1.key channel)
    cases reply : outreachReply channel (messages segment.1.key channel) with
    | raised text =>
      rw [reply] at readable
      have unread := readable.mp ⟨text, rfl⟩
      rcases existing with _ | ⟨a, _ | ⟨b, rest⟩⟩
      · simp [unread]
      · simp [unread]
      · simp at few
    | failed text =>
      rw [reply] at readable
      have read : (messages segment.1.key channel).Readable channel := not_not.mp (mt readable.mpr (by simp))
      simp [few, prompt, read]
    | fields subject body =>
      rw [reply] at readable
      have read : (messages segment.1.key channel).Readable channel := not_not.mp (mt readable.mpr (by simp))
      simp [few, prompt, read]
  · rw [if_neg prompt]
    rcases existing with _ | ⟨a, _ | ⟨b, rest⟩⟩
    · simp [prompt]
    · simp [prompt]
    · simp at few

/-- The generation accounts for every pair if and only if the members can be
segmented, no template is doubled to begin with, and every pair is answered. -/
theorem accountsForPairs_iff (wf : db.Wf) {audience : Audience}
    (found : db.audiences.find? (fun audience => audience.id = audienceId ∧ audience.tenantId = c.tenantId) = some audience)
    (nonempty : db.audienceMembers.filter (·.audienceId = audienceId) ≠ []) :
    AccountsForPairs db c audienceId overwrite messages ↔
      SingleTemplates db c audienceId ∧
        ∃ segments, segmentMembers (db.audienceMembers.filter (·.audienceId = audienceId)) = some segments ∧
          ∀ segment ∈ segments, Answered db c audienceId overwrite messages segment := by
  have runs : ∀ segments, segmentMembers (db.audienceMembers.filter (·.audienceId = audienceId)) = some segments →
      generateOutreachDrafts db c audienceId overwrite messages =
        outreachRun c audienceId overwrite db
          { campaignId := c.id, audienceId := audienceId, segmentsGenerated := segments.length }
          (outreachEntries segments fun key channel => outreachReply channel (messages key channel)) := by
    intro segments segmented
    simp only [generateOutreachDrafts, found, orRaise, require, if_pos nonempty, segmented]
    rfl
  have quietly : SingleTemplates db c audienceId → ∀ segments,
      ((∀ entry ∈ outreachEntries segments fun key channel => outreachReply channel (messages key channel),
        entry.raisesAt db c audienceId overwrite = false) ↔
          ∀ segment ∈ segments, Answered db c audienceId overwrite messages segment) := by
    intro single segments
    rw [outreachEntries, List.forall_mem_flatMap]
    exact forall₂_congr fun segment _ => answered_iff single segment
  have distinct : ∀ segments, segmentMembers (db.audienceMembers.filter (·.audienceId = audienceId)) = some segments →
      (outreachEntries segments fun key channel => outreachReply channel (messages key channel)).Pairwise
        fun entry later => later.tag ≠ entry.tag :=
    fun segments segmented => outreachEntries_distinct (segmentMembers_keys segmented) _
  constructor
  · rintro ⟨db', summary, segments, done, segmented, _, single⟩
    rw [runs segments segmented] at done
    have looped := (outreachRun_ok_iff _).mp ⟨summary, done⟩
    have before := (outreachDrafts_single_iff wf (distinct segments segmented) looped).mp single
    refine ⟨before, segments, segmented, (quietly before segments).mp fun entry member => ?_⟩
    by_contra raises
    obtain ⟨error, failed⟩ := (outreachDrafts_error_iff wf (distinct segments segmented)).mpr
      ⟨entry, member, by simpa using raises⟩
    rw [looped] at failed
    cases failed
  · rintro ⟨single, segments, segmented, answers⟩
    have quiet := (quietly single segments).mpr answers
    cases looped : outreachDrafts c audienceId overwrite db
        (outreachEntries segments fun key channel => outreachReply channel (messages key channel)) with
    | mk db' result =>
      cases result with
      | error error =>
        obtain ⟨entry, member, raises⟩ := (outreachDrafts_error_iff wf (distinct segments segmented)).mp
          ⟨error, by rw [looped]⟩
        rw [quiet entry member] at raises
        cases raises
      | ok done =>
        obtain ⟨summary, ran⟩ := (outreachRun_ok_iff
          { campaignId := c.id, audienceId := audienceId, segmentsGenerated := segments.length }).mpr looped
        refine ⟨db', summary, segments, (runs segments segmented).trans ran, segmented, ?_, ?_⟩
        · have counted := outreachRun_total ran
          rw [length_outreachEntries] at counted
          simpa [OutreachSummary.total] using counted
        · exact (outreachDrafts_single_iff wf (distinct segments segmented) looped).mpr single

end Accounts

namespace OutreachRuns

local instance outreachText : PyText := PyText.plain

local instance outreachRegex : PyRegex := PyRegex.plain

/-- One object with a body; nothing else is JSON. -/
local instance outreachJson : PyJson where
  loads text :=
    if text = "\x7b\"body\": \"Hi\"\x7d" then .ok (.obj [("body", .str "Hi")])
    else .error (.decode "Expecting value: line 1 column 1 (char 0)")

def autumn : Campaign where
  id := 5
  tenantId := 1
  name := "Autumn"
  status := .drafted
  budgetTotal := 100
  currency := "EUR"
  startDate := 0
  endDate := 9

/-- An audience of one contact. -/
def oneContact : Db where
  campaigns := [autumn]
  audiences := [⟨6, 1, 5, 0⟩]
  audienceMembers := [⟨6, "ada@example.com", [("seniority", .str "vp"), ("title", .str "vp"), ("company", .str "ACME")]⟩]
  nextId := 7

/-- A usable answer for the one channel, and an apology for the other. -/
def apologetic (_ channel : String) : ModelMessage :=
  if channel = "linkedin_dm" then .text "\x7b\"body\": \"Hi\"\x7d" else .text "Sorry, I cannot help with that."

/-- A reply that is no JSON ends the generation, the pair before it included. -/
theorem apology_ends_the_generation :
    generateOutreachDrafts oneContact autumn 6 false apologetic =
        .error (.raised "Expecting value: line 1 column 1 (char 0)") ∧
      ¬ AccountsForPairs oneContact autumn 6 false apologetic := by
  have raised : generateOutreachDrafts oneContact autumn 6 false apologetic =
      .error (.raised "Expecting value: line 1 column 1 (char 0)") := by decide +kernel
  refine ⟨raised, fun ⟨_, _, _, done, _⟩ => ?_⟩
  cases raised.symm.trans done

/-- The call for the emails times out. -/
def halfAnswered (_ channel : String) : ModelMessage :=
  if channel = "linkedin_dm" then .text "\x7b\"body\": \"Hi\"\x7d" else .raised "timeout"

theorem accountsForPairs_iff_timeout : AccountsForPairs oneContact autumn 6 false halfAnswered := by
  have found : oneContact.audiences.find? (fun audience => audience.id = 6 ∧ audience.tenantId = autumn.tenantId) =
      some ⟨6, 1, 5, 0⟩ := by decide
  refine (accountsForPairs_iff ⟨by decide, by decide, by decide, by decide⟩ found (by decide)).mpr
    ⟨fun _ _ _ => Nat.zero_le 1, _, rfl, fun segment listed => ?_⟩
  have promptable : promptable segment.2 = true := by
    revert segment
    decide +kernel
  intro channel named
  simp only [List.mem_cons, List.not_mem_nil, or_false] at named
  rcases named with rfl | rfl
  · exact Or.inr ⟨promptable, .obj [("body", .str "Hi")], by decide +kernel, by rintro _ ⟨⟩; decide +kernel⟩
  · exact Or.inr ⟨promptable, trivial⟩

end OutreachRuns

end MarketingAgents
