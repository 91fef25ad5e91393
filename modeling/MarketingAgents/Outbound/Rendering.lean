import MarketingAgents.Outbound.Audience

namespace MarketingAgents

open Lib PyText

/-- A stretch of a template: text that stands as it is, or a merge token. -/
inductive Piece where
  | text (chars : List Char)
  | token (name : List Char)
deriving DecidableEq

/-- `[a-z_]`. -/
def tokenChar (c : Char) : Bool := ('a' ≤ c && c ≤ 'z') || c = '_'

/-- The matches of `_TOKEN_RE` with the text between them. `pending` is the name
read since a brace that may still open a token. -/
def pieces : Option (List Char) → List Char → List Piece
  | none, [] => []
  | some name, [] => [.text ('\x7b' :: name)]
  | none, c :: rest => if c = '\x7b' then pieces (some []) rest else .text [c] :: pieces none rest
  | some name, c :: rest =>
    if tokenChar c then pieces (some (name ++ [c])) rest
    else if c = '\x7d' ∧ name ≠ [] then .token name :: pieces none rest
    else .text ('\x7b' :: name) ::
      if c = '\x7b' then pieces (some []) rest else .text [c] :: pieces none rest

def Piece.source : Piece → List Char
  | .text chars => chars
  | .token name => '\x7b' :: name ++ ['\x7d']

/-- The pieces are the text. -/
theorem pieces_source (pending : Option (List Char)) (text : List Char) :
    (pieces pending text).flatMap Piece.source = (pending.map ('\x7b' :: ·)).getD [] ++ text := by
  induction text generalizing pending with
  | nil => cases pending <;> simp [pieces, Piece.source]
  | cons c rest ih =>
    cases pending with
    | none =>
      rw [pieces]
      split
      · rename_i opens
        rw [ih, opens]
        rfl
      · rw [List.flatMap_cons, ih]
        rfl
    | some name =>
      rw [pieces]
      split
      · rw [ih]
        simp
      · split
        · rename_i closes
          rw [List.flatMap_cons, ih, closes.1]
          simp [Piece.source]
        · rw [List.flatMap_cons]
          split
          · rename_i opens
            rw [ih, opens]
            rfl
          · rw [List.flatMap_cons, ih]
            simp [Piece.source]

theorem pieces_token {pending : Option (List Char)} {text name : List Char}
    (read : ∀ opened ∈ pending, opened.all tokenChar = true) (member : Piece.token name ∈ pieces pending text) :
    name.all tokenChar = true := by
  induction text generalizing pending with
  | nil => cases pending <;> simp [pieces] at member
  | cons c rest ih =>
    have closed : ∀ opened ∈ (none : Option (List Char)), opened.all tokenChar = true := by simp
    have fresh : ∀ opened ∈ some ([] : List Char), opened.all tokenChar = true := by simp
    -- what follows a character that ends what was pending
    have later : Piece.token name ∈ (if c = '\x7b' then pieces (some []) rest else .text [c] :: pieces none rest) →
        name.all tokenChar = true := by
      intro below
      split at below
      · exact ih fresh below
      · exact ih closed (List.mem_of_ne_of_mem (by simp) below)
    cases pending with
    | none => exact later (by rwa [pieces] at member)
    | some opened =>
      have ours : opened.all tokenChar = true := read opened rfl
      rw [pieces] at member
      split at member
      · rename_i more
        have longer : ∀ grown ∈ some (opened ++ [c]), grown.all tokenChar = true := by
          rintro grown ⟨⟩
          rw [List.all_append, ours, List.all_cons, more]
          rfl
        exact ih longer member
      · split at member
        · rcases List.mem_cons.mp member with here | below
          · rw [Piece.token.inj here]
            exact ours
          · exact ih closed below
        · exact later (List.mem_of_ne_of_mem (by simp) member)

section Rendering

variable [PyText]

/-- `_FIELD_FALLBACKS`. -/
def fieldFallbacks : Dict String String :=
  [("first_name", "there"), ("last_name", ""), ("company", "your company"), ("title", "your role")]

def tokenValue (payload : Dict String Json) (name : String) : String :=
  match (payload.get? name).filter Json.truthy with
  | some value => str value
  | none => (fieldFallbacks.get? name).getD ""

def Piece.fill (payload : Dict String Json) : Piece → List Char
  | .text chars => chars
  | .token name => (tokenValue payload (String.ofList name)).toList

/-- `_render`. -/
def render (template : String) (payload : Dict String Json) : String :=
  String.ofList ((pieces none template.toList).flatMap (Piece.fill payload))

/-- The names of the merge tokens in a template. -/
def tokensIn (template : String) : List String :=
  (pieces none template.toList).filterMap fun piece =>
    match piece with
    | .text _ => none
    | .token name => some (String.ofList name)

/-- A character that is not part of a token and that no value contains occurs
in the rendered text as often as in the template. -/
theorem count_render (template : String) {payload : Dict String Json} {c : Char} (outside : tokenChar c = false)
    (brace : c ≠ '\x7b' ∧ c ≠ '\x7d') (unvalued : ∀ name, c ∉ (tokenValue payload name).toList) :
    (render template payload).toList.count c = template.toList.count c := by
  have same : ∀ piece ∈ pieces none template.toList, (piece.fill payload).count c = piece.source.count c := by
    intro piece member
    cases piece with
    | text chars => rfl
    | token name =>
      have named : name.all tokenChar = true := pieces_token (by simp) member
      have unnamed : c ∉ name := by
        intro inside
        rw [List.all_eq_true.mp named c inside] at outside
        exact Bool.noConfusion outside
      have absent : c ∉ '\x7b' :: name ++ ['\x7d'] := by simp [unnamed, brace.1, brace.2]
      rw [Piece.fill, Piece.source, List.count_eq_zero.mpr (unvalued _), List.count_eq_zero.mpr absent]
  have whole := pieces_source none template.toList
  rw [Option.map_none, Option.getD_none, List.nil_append] at whole
  calc (render template payload).toList.count c
      = ((pieces none template.toList).map fun piece => (piece.fill payload).count c).sum := by
        rw [render, String.toList_ofList, List.count_flatMap]
        rfl
    _ = ((pieces none template.toList).map fun piece => piece.source.count c).sum := by
        rw [List.map_congr_left same]
    _ = template.toList.count c := by
        rw [← whole, List.count_flatMap, whole]
        rfl

/-- `(payload.get(key) or "").strip()`, `none` where it raises. -/
def strippedAt (payload : Dict String Json) (key : String) : Option String :=
  match (payload.get? key).filter Json.truthy with
  | some value => value.str?.map strip
  | none => some ""

def contactName (payload : Dict String Json) : Option Json := do
  let first ← strippedAt payload "first_name"
  let last ← strippedAt payload "last_name"
  some (if first ≠ "" ∨ last ≠ "" then .str (strip (first ++ " " ++ last))
    else (payload.get? "email").getD (.str ""))

structure PersonalisedDraft where
  contactEmail : Json
  contactName : Json
  contactTitle : Json
  contactCompany : Json
  contactLinkedinUrl : Json
  segmentKey : String
  segmentLabel : String
  channel : String
  subject : Option String
  body : String

/-- A pass of the inner loop that finds a template. -/
structure DraftPass where
  bucket : SegmentBucket
  member : AudienceMember
  channel : String
  template : ContentAsset

/-- `meta.get("fields") or {}`, `none` where it has no `get`. -/
def templateFields (a : ContentAsset) : Option (Dict String Json) :=
  match (a.extraMetadata.get? "fields").filter Json.truthy with
  | some value => value.dict?
  | none => some []

/-- The subject shown, `none` where the template's is no text. -/
def draftSubject (channel : String) (fields payload : Dict String Json) : Option (Option String) :=
  if channel = "email" then
    ((fields.get? "subject").getD (.str "")).str?.map fun subject => some (render subject payload)
  else some none

def bodyTemplate (fields : Dict String Json) (content : Option String) : Option String :=
  match (fields.get? "body").filter Json.truthy with
  | some value => value.str?
  | none => some (content.getD "")

/-- The body of the loop, `none` where it raises. -/
def DraftPass.draft (pass : DraftPass) : Option PersonalisedDraft := do
  let payload := pass.member.payload
  let fields ← templateFields pass.template
  let subject ← draftSubject pass.channel fields payload
  let body ← bodyTemplate fields pass.template.content
  let name ← contactName payload
  some
    { contactEmail := (payload.get? "email").getD (.str "")
      contactName := name
      contactTitle := (payload.get? "title").getD (.str "")
      contactCompany := (payload.get? "company").getD (.str "")
      contactLinkedinUrl := (payload.get? "linkedin_url").getD .null
      segmentKey := pass.bucket.key
      segmentLabel := pass.bucket.label
      channel := pass.channel
      subject := subject
      body := render body payload }

/-- The rows of the campaign that are tagged with the audience. -/
def outreachAssets (db : Db) (campaignId audienceId : Uuid) : List ContentAsset :=
  db.assets.filter fun a => a.campaignId = campaignId ∧ (a.assetType = .linkedinDm ∨ a.assetType = .email) ∧
    a.extraMetadata.get? "audience_id" = some (.str (uuidStr audienceId))

omit [PyText] in
/-- What one row adds to `by_segment`; a list or a dictionary is no key. -/
def segmentEntry (a : ContentAsset) : Option (Option ((String × String) × ContentAsset)) :=
  match (a.extraMetadata.get? "segment_key").filter Json.truthy with
  | some (.str key) => some (some ((key, if a.assetType = .linkedinDm then "linkedin_dm" else "email"), a))
  | some (.arr _) | some (.obj _) => none
  | _ => some none

omit [PyText] in
def bySegment (assets : List ContentAsset) : Option (Dict (String × String) ContentAsset) :=
  (assets.mapM segmentEntry).map fun entries => Dict.merge [] (entries.filterMap id)

omit [PyText] in
def draftPasses (templates : Dict (String × String) ContentAsset)
    (segments : List (SegmentBucket × List AudienceMember)) : List DraftPass :=
  segments.flatMap fun segment => segment.2.flatMap fun member =>
    ["linkedin_dm", "email"].filterMap fun channel =>
      (templates.get? (segment.1.key, channel)).map (DraftPass.mk segment.1 member channel)

variable [PyRegex]

/-- The passes of `render_personalised_drafts`. -/
def previewPasses (db : Db) (campaignId audienceId : Uuid) : Option (List DraftPass) :=
  let members := db.audienceMembers.filter (·.audienceId = audienceId)
  let assets := outreachAssets db campaignId audienceId
  if members = [] ∨ assets = [] then some []
  else do
    let templates ← bySegment assets
    let segments ← segmentMembers members
    some (draftPasses templates segments)

/-- `render_personalised_drafts`, `none` where it raises. -/
def renderPersonalisedDrafts (db : Db) (campaignId audienceId : Uuid) : Option (List PersonalisedDraft) :=
  (previewPasses db campaignId audienceId).bind (·.mapM DraftPass.draft)

end Rendering

end MarketingAgents
