import Mathlib.Data.List.Dedup
import MarketingAgents.Agents.Compliance
import MarketingAgents.Agents.SocialDistribution
import MarketingAgents.Content.Operations

namespace MarketingAgents

open Lib PyText

/-- `SIM_REGEN_MAX_RETRIES`. -/
def simRegenMaxRetries : Nat := 2

/-- What `_run_generation` reads before it asks for copy: the angle and index of
the variant, the body of its baseline, and what belongs to the tenant and the plan. -/
structure GenerationInputs where
  variantAngle : String := ""
  variantIndex : Json := .null
  baselineBody : Option String := none
  tenantRules : List TenantRule := []
  dontWords : List String := []
  targetKeywords : List String := []
  requiresSeo : Bool := false

/-- The tools of a generation: copy for an attempt with its directives, the SEO
analysis of a draft, and the similarity of a draft with the baseline. -/
structure GenerationTools where
  copywriting : Nat → List String → Except String (Dict String Json)
  seo : Dict String Json → Except String Json
  tooSimilar : String → String → Bool
  similarity : String → String → Json

/-- `ComplianceCheckError`, or another exception. -/
inductive GenerationFailure where
  | complianceCheck (message : String)
  | raised (message : String)

/-- What an attempt hands to the next one. -/
structure RewriteState where
  suppressionHints : List String := []
  rewrittenForSuppression : Bool := false
  similarity : Option Json := none
  differentiationHint : Bool := false

/-- One attempt: the copy, its check, and how it compares with the baseline. -/
structure GenerationPass where
  cwOutput : Dict String Json
  hits : List ComplianceHit
  similarity : Option Json
  needDifferentiation : Bool

def warnKeywords (hits : List ComplianceHit) : List String :=
  (hits.filter (·.severity = "warn")).map ComplianceHit.rule

def GenerationPass.again (pass : GenerationPass) : Bool := !(warnKeywords pass.hits).isEmpty || pass.needDifferentiation

def directives (variantAngle : String) (st : RewriteState) : List String :=
  (if variantAngle = "" then [] else ["Variant angle: " ++ variantAngle ++ "."]) ++
  (if st.suppressionHints = [] then []
    else ["Compliance rewrite required — do NOT use these terms: " ++
      ", ".intercalate (st.suppressionHints.dedup.insertionSort (· ≤ ·)) ++ "."]) ++
  if st.differentiationHint then
    ["This variant is too similar to the baseline. Rewrite with a materially different opening, narrative structure, " ++
      "and CTA. Keep the channel and offer the same but change the angle."]
  else []

/-- `isinstance(variant_idx, int) and variant_idx > 0`. -/
def laterVariant : Json → Bool
  | .int n => 0 < n
  | .bool b => b
  | _ => false

section Run

variable [PyText]

def bodyText (cwOutput : Dict String Json) : String := str ((cwOutput.get? "body").getD (.str ""))

variable [PyRe]

/-- The body of the loop, up to its two exits. -/
def generationPass (tools : GenerationTools) (inputs : GenerationInputs) (attempt : Nat) (st : RewriteState) :
    Except GenerationFailure GenerationPass := do
  let cwOutput ← (tools.copywriting attempt (directives inputs.variantAngle st)).mapError .raised
  let body := bodyText cwOutput
  let hits ← (checkCompliance body inputs.tenantRules).mapError .complianceCheck
  let baseline := inputs.baselineBody.filter fun baseline =>
    baseline ≠ "" && laterVariant inputs.variantIndex && body ≠ ""
  pure
    { cwOutput := cwOutput
      hits := hits
      similarity := (baseline.map fun baseline => tools.similarity baseline body).or st.similarity
      needDifferentiation := (baseline.map fun baseline => tools.tooSimilar baseline body).getD false }

/-- What the next attempt is told. -/
def RewriteState.after (st : RewriteState) (pass : GenerationPass) : RewriteState where
  suppressionHints := st.suppressionHints ++ warnKeywords pass.hits
  rewrittenForSuppression := st.rewrittenForSuppression || !(warnKeywords pass.hits).isEmpty
  similarity := pass.similarity
  differentiationHint := pass.needDifferentiation

/-- The loop over the attempts; `left` retries remain. -/
def generationLoop (tools : GenerationTools) (inputs : GenerationInputs) :
    Nat → Nat → RewriteState → Except GenerationFailure (GenerationPass × Bool)
  | 0, attempt, st => do
    let pass ← generationPass tools inputs attempt st
    pure (pass, st.rewrittenForSuppression)
  | left + 1, attempt, st => do
    let pass ← generationPass tools inputs attempt st
    if pass.again then generationLoop tools inputs left (attempt + 1) (st.after pass)
    else pure (pass, st.rewrittenForSuppression)

def brandCheck (body : String) (dontWords : List String) : Json :=
  let hits := checkDontWords body dontWords
  .obj [("pass", .bool hits.isEmpty), ("failing_words", .arr (hits.map Json.str)),
    ("dont_words_checked", .arr (dontWords.map Json.str))]

omit [PyRe] in
def seoPayload (tools : GenerationTools) (inputs : GenerationInputs) (cwOutput : Dict String Json) :
    Except GenerationFailure (Option Json) :=
  if inputs.requiresSeo = false then .ok none
  else if inputs.targetKeywords = [] then .ok (some (.obj [("reason", .str "no_target_keywords"), ("score", .null)]))
  else
    let title := (((cwOutput.get? "title").filter Json.truthy).or ((cwOutput.get? "headline").filter Json.truthy)).getD
      (.str "")
    ((tools.seo [("draft", .str (bodyText cwOutput)), ("target_keywords", .arr (inputs.targetKeywords.map Json.str)),
      ("title", title)]).map some).mapError .raised

/-- `_run_generation`. -/
def runGeneration (tools : GenerationTools) (inputs : GenerationInputs) : Generation :=
  let result : Except GenerationFailure GenerationOutput := do
    let (pass, rewritten) ← generationLoop tools inputs simRegenMaxRetries 0 {}
    let seo ← seoPayload tools inputs pass.cwOutput
    pure
      { cwOutput := pass.cwOutput
        brandCheck := brandCheck (bodyText pass.cwOutput) inputs.dontWords
        seo := seo
        hits := pass.hits
        rewrittenForSuppression := rewritten
        similarity := pass.similarity }
  match result with
  | .ok out => .drafted out
  | .error (.complianceCheck message) => .complianceError message
  | .error (.raised message) => .raised message

variable {tools : GenerationTools} {inputs : GenerationInputs}

/-- An attempt checks the body of its own copy. -/
theorem generationPass_checked {attempt : Nat} {st : RewriteState} {pass : GenerationPass}
    (done : generationPass tools inputs attempt st = .ok pass) :
    checkCompliance (bodyText pass.cwOutput) inputs.tenantRules = .ok pass.hits := by
  simp only [generationPass, bind_eq_ok, mapError_eq_ok, pure_eq_ok] at done
  obtain ⟨_, _, _, checked, rfl⟩ := done
  exact checked

theorem generationLoop_checked {left attempt : Nat} {st : RewriteState} {pass : GenerationPass} {rewritten : Bool}
    (done : generationLoop tools inputs left attempt st = .ok (pass, rewritten)) :
    checkCompliance (bodyText pass.cwOutput) inputs.tenantRules = .ok pass.hits := by
  induction left generalizing attempt st with
  | zero =>
    simp only [generationLoop, bind_eq_ok, pure_eq_ok, Prod.mk.injEq] at done
    obtain ⟨_, made, rfl, _⟩ := done
    exact generationPass_checked made
  | succ left ih =>
    simp only [generationLoop, bind_eq_ok] at done
    obtain ⟨first, made, rest⟩ := done
    split at rest
    · exact ih rest
    · rw [pure_eq_ok, Prod.mk.injEq] at rest
      exact rest.1 ▸ generationPass_checked made

/-- A draft comes with the check of its body, of the attempt that it was taken from. -/
theorem runGeneration_checked {out : GenerationOutput} (drafted : runGeneration tools inputs = .drafted out) :
    checkCompliance (bodyText out.cwOutput) inputs.tenantRules = .ok out.hits := by
  unfold runGeneration at drafted
  dsimp only at drafted
  split at drafted
  · rename_i result done
    cases drafted
    simp only [bind_eq_ok, pure_eq_ok] at done
    obtain ⟨⟨pass, rewritten⟩, looped, _, _, rfl⟩ := done
    exact generationLoop_checked looped
  · cases drafted
  · cases drafted

end Run

section Sent

variable [PyText]

/-- The texts that a dispatch of the asset sends. -/
def sentTexts (a : ContentAsset) : List String :=
  match a.assetType with
  | .email =>
    match (messageFromAsset a).toOption.bind Json.dict? with
    | some message => ["subject", "text_body", "html_body"].filterMap fun key => (Dict.get? message key).bind Json.str?
    | none => []
  | .socialPost => (socialTextFromAsset a).toOption.toList
  | _ => []

omit [PyText] in
/-- The fields that a draft keeps: the body is not among them. -/
def storedFields (cwOutput : Dict String Json) : Dict String Json :=
  cwOutput.filter fun entry => entry.1 ∉ ["length_metrics", "length_warning", "body"] ∧ entry.2.str?.isSome

def sentSubject (cwOutput : Dict String Json) : String :=
  match ((storedFields cwOutput).get? "subject").filter Json.truthy with
  | some subject => str subject
  | none => ((extractTitle cwOutput).filter (· ≠ "")).getD "(no subject)"

/-- The text or the headline of the copy before its body. -/
def draftPost (cwOutput : Dict String Json) : String :=
  (firstText (storedFields cwOutput) ["text", "headline"] <|> (some (bodyText cwOutput)).filter (· ≠ "") <|>
    (extractTitle cwOutput).filter (· ≠ "")).getD ""

/-- The texts that are sent of a draft, by the copy it was made of. -/
def draftTexts (assetType : AssetType) (cwOutput : Dict String Json) : List String :=
  match assetType with
  | .email => [sentSubject cwOutput, bodyText cwOutput, bodyText cwOutput]
  | .socialPost => [draftPost cwOutput]
  | _ => []

omit [PyText] in
/-- The same row as far as its texts and its compliance result go. -/
structure SameDraft (a b : ContentAsset) : Prop where
  id : b.id = a.id
  assetType : b.assetType = a.assetType
  title : b.title = a.title
  content : b.content = a.content
  fields : b.extraMetadata.get? "fields" = a.extraMetadata.get? "fields"
  compliance : b.extraMetadata.get? "compliance" = a.extraMetadata.get? "compliance"

omit [PyText] in
theorem SameDraft.refl (a : ContentAsset) : SameDraft a a := ⟨rfl, rfl, rfl, rfl, rfl, rfl⟩

omit [PyText] in
theorem SameDraft.trans {a b c : ContentAsset} (ab : SameDraft a b) (bc : SameDraft b c) : SameDraft a c where
  id := bc.id.trans ab.id
  assetType := bc.assetType.trans ab.assetType
  title := bc.title.trans ab.title
  content := bc.content.trans ab.content
  fields := bc.fields.trans ab.fields
  compliance := bc.compliance.trans ab.compliance

theorem draftedRow_metadata (out : GenerationOutput) (a : ContentAsset) :
    (draftedRow out a).extraMetadata.get? "fields" = some (.obj (storedFields out.cwOutput)) ∧
      (draftedRow out a).extraMetadata.get? "compliance" =
        some (complianceMetadata out.hits out.rewrittenForSuppression) := by
  unfold draftedRow
  dsimp only
  constructor
  · rw [Dict.get?_merge_of_absent (by split <;> simp), Dict.get?_merge (by unfold bundleMetadata; split <;> split <;> simp)]
    rfl
  · rw [Dict.get?_merge (by split <;> simp)]
    rfl

theorem firstText_eq (fields : Dict String Json) (keys : List String) :
    (keys.findSome? fun key =>
      match Dict.get? fields key with
      | some (.str value) => if strip value = "" then none else some (strip value)
      | _ => none) = firstText fields keys := by
  induction keys with
  | nil => rfl
  | cons key keys ih =>
    rw [List.findSome?_cons, ih, firstText]
    cases Dict.get? fields key with
    | none => rfl
    | some value =>
      cases value with
      | str text => by_cases blank : strip text = "" <;> simp [blank]
      | null | bool | int | float | arr | obj => rfl

omit [PyText] in
theorem get?_storedFields_body (cwOutput : Dict String Json) : (storedFields cwOutput).get? "body" = none :=
  Dict.get?_eq_none fun entry member same => by
    have kept := of_decide_eq_true (List.mem_filter.mp member).2
    simp [same] at kept

/-- What is sent of a draft, read off its row. -/
theorem sentTexts_of_draft {out : GenerationOutput} {a b : ContentAsset} (same : SameDraft (draftedRow out a) b) :
    sentTexts b = draftTexts a.assetType out.cwOutput := by
  have fields : assetFields b = .ok (storedFields out.cwOutput) := by
    rw [assetFields, same.fields, (draftedRow_metadata out a).1]
    cases storedFields out.cwOutput <;> rfl
  have title : b.title = extractTitle out.cwOutput := same.title
  have content : b.content = if bodyText out.cwOutput = "" then none else some (bodyText out.cwOutput) := same.content
  have body : b.content.getD "" = bodyText out.cwOutput := by
    rw [content]
    split
    · rename_i blank
      exact blank.symm
    · rfl
  have assetType : b.assetType = a.assetType := same.assetType
  unfold sentTexts draftTexts
  rw [assetType]
  cases a.assetType with
  | email =>
    have message : messageFromAsset b = .ok (.obj
        [("subject", .str (sentSubject out.cwOutput)), ("text_body", .str (bodyText out.cwOutput)),
          ("html_body", .str (bodyText out.cwOutput)), ("headers", .obj [])]) := by
      rw [messageFromAsset, fields, title, body]
      rfl
    rw [message]
    rfl
  | socialPost =>
    have kept : b.content.filter (· ≠ "") = (some (bodyText out.cwOutput)).filter (· ≠ "") := by
      rw [content]
      split <;> simp [Option.filter, *]
    have text : socialTextFromAsset b = .ok (draftPost out.cwOutput) := by
      have stored : firstText (storedFields out.cwOutput) ["body", "text", "headline"] =
          firstText (storedFields out.cwOutput) ["text", "headline"] := by
        rw [firstText, get?_storedFields_body]
      rw [socialTextFromAsset, fields, kept, title, draftPost, ← stored, ← firstText_eq]
      rfl
    rw [text]
    rfl
  | adCreative | blogPost | landingPageCopy | sms | push | linkedinDm => rfl

end Sent

section Submission

/-- Every row comes from one that is the same draft. -/
def Redrafts (db db' : Db) : Prop := ∀ b ∈ db'.assets, ∃ a ∈ db.assets, SameDraft a b

variable [PyText] {db db' : Db}

theorem flipDraftedAssetsToPendingApproval_redrafts (db : Db) (c : Campaign) (now : Int) :
    Redrafts db (flipDraftedAssetsToPendingApproval db c now) := by
  have start : Redrafts db db := fun b member => ⟨b, member, .refl b⟩
  unfold flipDraftedAssetsToPendingApproval
  refine List.foldlRecOn _ _ (motive := Redrafts db) start fun mid kept a member b after => ?_
  rcases mem_updateWhere.mp after with ⟨_, _, _, rfl⟩ | ⟨old, _⟩
  · refine ⟨a, (campaignRows_mem (List.mem_of_mem_filter member)).1, rfl, rfl, rfl, rfl, ?_, ?_⟩
    · exact Dict.get?_set_ne _ _ (by decide)
    · exact Dict.get?_set_ne _ _ (by decide)
  · exact kept b old

/-- Submitting a campaign changes nothing that is sent or was checked. -/
theorem maybeSubmitForApproval_redrafts {campaignId : Uuid} {now : Int}
    (done : maybeSubmitForApproval db campaignId now = .ok db') : Redrafts db db' := by
  have same : Redrafts db db := fun b member => ⟨b, member, .refl b⟩
  unfold maybeSubmitForApproval at done
  split at done
  · exact Except.ok.inj done ▸ same
  · rcases applyFrom_eq_ok done with ⟨c, _, applied⟩ | rfl
    · obtain ⟨tr, listed, _, named, _, entered⟩ := apply_eq_ok applied
      rw [campaignSm_submission tr listed named] at entered
      cases Except.ok.inj entered
      intro b member
      obtain ⟨a, there, drafted⟩ := flipDraftedAssetsToPendingApproval_redrafts _ _ now b member
      rw [writeStatus_assets] at there
      exact ⟨a, there, drafted⟩
    · exact same

end Submission

section Checked

variable [PyText] [PyRe]

/-- A match that blocks is in a text that is sent only beside one in the body. -/
def Covered (rules : List TenantRule) (assetType : AssetType) (cwOutput : Dict String Json) : Prop :=
  ∀ text ∈ draftTexts assetType cwOutput, BlockMatch rules text →
    bodyText cwOutput ≠ "" ∧ BlockMatch rules (bodyText cwOutput)

theorem isComplianceBlocked_of_draft {out : GenerationOutput} {a b : ContentAsset} {rules : List TenantRule}
    (same : SameDraft (draftedRow out a) b) (checked : checkCompliance (bodyText out.cwOutput) rules = .ok out.hits) :
    isComplianceBlocked b = true ↔ bodyText out.cwOutput ≠ "" ∧ BlockMatch rules (bodyText out.cwOutput) := by
  have flag : isComplianceBlocked b = complianceBlocked out.hits := by
    unfold isComplianceBlocked complianceOf
    rw [same.compliance, (draftedRow_metadata out a).2]
    rfl
  rw [flag]
  by_cases blank : bodyText out.cwOutput = ""
  · rw [checkCompliance, if_pos blank] at checked
    simp [← Except.ok.inj checked, complianceBlocked, blank]
  · rw [complianceBlocked_iff blank checked]
    exact (and_iff_right blank).symm

variable {tools : GenerationTools} {inputs : GenerationInputs} {db db' : Db}

/-- A draft is blocked whenever a text that is sent of it has a match that
blocks, if and only if the copy has such matches in its body too. -/
theorem draft_blocked_iff {assetId : Uuid} {now : Int} {out : GenerationOutput} {a b : ContentAsset}
    (found : db.asset? assetId = some a) (drafted : runGeneration tools inputs = .drafted out)
    (done : generateAsset db assetId (runGeneration tools inputs) now = (db', .ok ()))
    (row : db'.asset? assetId = some b) :
    ((∃ text ∈ sentTexts b, BlockMatch inputs.tenantRules text) → isComplianceBlocked b = true) ↔
      Covered inputs.tenantRules a.assetType out.cwOutput := by
  have same : SameDraft (draftedRow out a) b := by
    have generates := generateAsset_generates db assetId (runGeneration tools inputs) now
    rw [done] at generates
    cases generates with
    | held message is => cases drafted.symm.trans is
    | drafted out' is found' submitted =>
      cases drafted.symm.trans is
      cases Option.some.inj (found.symm.trans found')
      obtain ⟨inside, named⟩ := Db.asset?_mem row
      obtain ⟨mid, there, kept⟩ := maybeSubmitForApproval_redrafts submitted b inside
      rcases mem_updateWhere.mp there with ⟨_, _, _, rfl⟩ | ⟨_, other⟩
      · exact kept
      · exact absurd ((kept.id.symm.trans named).trans (Db.asset?_mem found).2.symm) (of_decide_eq_false other)
  rw [isComplianceBlocked_of_draft same (runGeneration_checked drafted), sentTexts_of_draft same]
  exact ⟨fun blocks text member hit => blocks ⟨text, member, hit⟩, fun covered ⟨text, member, hit⟩ => covered text member hit⟩

end Checked

namespace Headlines

local instance headlinesText : PyText := PyText.plain

local instance headlinesRe : PyRe := Keywords.plainRe

def post : ContentAsset where
  id := 3
  tenantId := 1
  campaignId := 0
  assetType := .socialPost
  status := .requested
  extraMetadata := [("channel_platform", .str "linkedin")]

def oneCampaign : Db where
  campaigns := [{ id := 0, tenantId := 1, name := "launch", status := .drafted, budgetTotal := 100, currency := "USD"
                  startDate := 0, endDate := 9 }]
  assets := [post]
  nextId := 4

/-- A tool that writes the given headline and body. -/
def writing (headline body : String) : GenerationTools where
  copywriting _ _ := .ok [("headline", .str headline), ("body", .str body), ("cta", .str "go")]
  seo _ := .error "not configured"
  tooSimilar _ _ := false
  similarity _ _ := .null

def noCheap : GenerationInputs where
  tenantRules := [⟨"cheap", "exact", "block"⟩]

theorem cheap_blocks : BlockMatch noCheap.tenantRules "cheap" := by
  refine Or.inr ⟨⟨"cheap", "exact", "block"⟩, List.mem_singleton_self _, by decide, _, ruleHits_exact rfl (by decide), ?_⟩
  decide +kernel

/-- The headline is what is posted, and nothing has checked it. -/
theorem headline_is_posted_unchecked :
    ∃ db' b, generateAsset oneCampaign 3 (runGeneration (writing "cheap" "hello") noCheap) 9 = (db', .ok ()) ∧
      db'.asset? 3 = some b ∧ b.status = .drafted ∧ "cheap" ∈ sentTexts b ∧ BlockMatch noCheap.tenantRules "cheap" ∧
      isComplianceBlocked b = false := by
  refine ⟨_, _, rfl, rfl, ?_⟩
  exact ⟨rfl, by decide +kernel, cheap_blocks, by decide +kernel⟩

theorem draft_blocked_iff_hello :
    ∃ db' b, generateAsset oneCampaign 3 (runGeneration (writing "hello" "cheap") noCheap) 9 = (db', .ok ()) ∧
      db'.asset? 3 = some b ∧
      ((∃ text ∈ sentTexts b, BlockMatch noCheap.tenantRules text) → isComplianceBlocked b = true) := by
  have ran : ∃ db' b out, runGeneration (writing "hello" "cheap") noCheap = .drafted out ∧
      generateAsset oneCampaign 3 (runGeneration (writing "hello" "cheap") noCheap) 9 = (db', .ok ()) ∧
      db'.asset? 3 = some b ∧ bodyText out.cwOutput = "cheap" := ⟨_, _, _, rfl, rfl, rfl, rfl⟩
  obtain ⟨db', b, out, drafted, done, row, body⟩ := ran
  have found : oneCampaign.asset? 3 = some post := rfl
  refine ⟨db', b, done, row, (draft_blocked_iff found drafted done row).mpr fun text _ _ => ?_⟩
  rw [body]
  exact ⟨by decide, cheap_blocks⟩

end Headlines

end MarketingAgents
