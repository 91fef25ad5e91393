import MarketingAgents.Agents.ContentCreator

namespace MarketingAgents

open Lib PyText

/-- What `re` takes for a word character. -/
class PyRegex where
  wordChar : Char → Bool

@[reducible] def PyRegex.plain : PyRegex where
  wordChar := Char.isAlphanum

structure SegmentBucket where
  key : String
  label : String
  seniorityValues : List String
  titleKeywords : List String
deriving DecidableEq

/-- `SENIORITY_BUCKETS`, less the talking points of the prompt. -/
def seniorityBuckets : List SegmentBucket :=
  [{ key := "c_suite", label := "C-suite"
     seniorityValues := ["c_suite", "owner", "founder", "partner"]
     titleKeywords := ["ceo", "cto", "cfo", "cmo", "coo", "cio", "chief ", "founder", "co-founder", "president",
       "owner"] },
    { key := "vp", label := "VP / Head of"
      seniorityValues := ["vp", "head"]
      titleKeywords := ["vp ", "vice president", "head of", "svp", "evp"] },
    { key := "director", label := "Director"
      seniorityValues := ["director", "senior_director"]
      titleKeywords := ["director", "head of"] },
    { key := "manager", label := "Manager"
      seniorityValues := ["manager", "senior_manager", "lead"]
      titleKeywords := ["manager", "lead "] },
    { key := "ic", label := "Individual contributor"
      seniorityValues := ["entry", "senior", "intern", "ic", ""]
      titleKeywords := [] }]

theorem seniorityBuckets_keys : (seniorityBuckets.map SegmentBucket.key).Nodup := by decide

section Segmentation

variable [PyText] [PyRegex]

omit [PyText] in
/-- `\b` between two characters, or at an end of the text. -/
def boundary (before after : Option Char) : Bool :=
  (before.map PyRegex.wordChar).getD false != (after.map PyRegex.wordChar).getD false

omit [PyText] in
def wordFrom (word : List Char) (before : Option Char) : List Char → Bool
  | [] => false
  | c :: rest => (word.isPrefixOf (c :: rest) && boundary before word.head? &&
      boundary word.getLast? ((c :: rest).drop word.length).head?) || wordFrom word (some c) rest

/-- `re.search(r"\b" + re.escape(kw.strip()) + r"\b", title)`. -/
def hasKeyword (title keyword : String) : Bool := wordFrom (strip keyword).toList none title.toList

omit [PyRegex] in
/-- `(payload.get(key) or "").strip().lower()`, `none` where it raises. -/
def wordAt (payload : Dict String Json) (key : String) : Option String :=
  match payload.get? key with
  | some value => if value.truthy then value.str?.map normalised else some ""
  | none => some ""

def bucketForMember (m : AudienceMember) : Option SegmentBucket := do
  let seniority ← wordAt m.payload "seniority"
  let title ← wordAt m.payload "title"
  let bySeniority := if seniority = "" then none else seniorityBuckets.find? (seniority ∈ ·.seniorityValues)
  let byTitle := if title = "" then none else seniorityBuckets.find? (·.titleKeywords.any (hasKeyword title))
  bySeniority.or (byTitle.or seniorityBuckets.getLast?)

/-- `segment_members`: one entry for each bucket with members. -/
def segmentMembers (members : List AudienceMember) : Option (List (SegmentBucket × List AudienceMember)) :=
  (members.mapM fun m => (bucketForMember m).map fun bucket => (bucket.key, m)).map fun keyed =>
    (seniorityBuckets.map fun bucket => (bucket, (keyed.filter (·.1 = bucket.key)).map Prod.snd)).filter (·.2 ≠ [])

theorem bucketForMember_mem {m : AudienceMember} {bucket : SegmentBucket} (found : bucketForMember m = some bucket) :
    bucket ∈ seniorityBuckets := by
  simp only [bucketForMember, Option.bind_eq_bind, Option.bind_eq_some_iff] at found
  obtain ⟨seniority, _, title, _, chosen⟩ := found
  rcases Option.or_eq_some_iff.mp chosen with bySeniority | ⟨_, later⟩
  · split at bySeniority
    · cases bySeniority
    · exact List.mem_of_find?_eq_some bySeniority
  · rcases Option.or_eq_some_iff.mp later with byTitle | ⟨_, last⟩
    · split at byTitle
      · cases byTitle
      · exact List.mem_of_find?_eq_some byTitle
    · exact List.mem_of_getLast? last

theorem segmentMembers_single {m : AudienceMember} {bucket : SegmentBucket} (found : bucketForMember m = some bucket) :
    segmentMembers [m] = some [(bucket, [m])] := by
  have member := bucketForMember_mem found
  have keyed : ([m].mapM fun member => (bucketForMember member).map fun bucket => (bucket.key, member)) =
      some [(bucket.key, m)] := by
    simp [found]
  rw [segmentMembers, keyed, Option.map_some]
  simp only [seniorityBuckets, List.mem_cons, List.not_mem_nil, or_false] at member
  rcases member with rfl | rfl | rfl | rfl | rfl <;> simp [seniorityBuckets]

end Segmentation

/-- `_build_segment_prompt` sorts and joins the titles and the companies of three
members, which raises unless all of them are texts. -/
def promptable (members : List AudienceMember) : Bool :=
  (members.take 3).all fun m => ["title", "company"].all fun key =>
    ((m.payload.get? key).getD (.str "(unknown)")).str?.isSome

/-- A pass of the loop of `generate_outreach_drafts`. -/
abbrev OutreachEntry := Segment × String × OutreachReply

/-- The two passes over a segment, with what `_generate_one` makes of each. -/
def segmentEntries (replies : String → String → OutreachReply) (segment : SegmentBucket × List AudienceMember) :
    List OutreachEntry :=
  ["linkedin_dm", "email"].map fun channel =>
    (⟨segment.1.key, segment.1.label, segment.2.length⟩, channel,
      if promptable segment.2 then replies segment.1.key channel else .raised "TypeError")

def outreachEntries (segments : List (SegmentBucket × List AudienceMember)) (replies : String → String → OutreachReply) :
    List OutreachEntry :=
  segments.flatMap (segmentEntries replies)

/-- `_ENRICHMENT_TARGET_FIELDS`. -/
def enrichmentTargetFields : List String := ["title", "linkedin_url", "seniority", "company"]

def missing (payload : Dict String Json) (key : String) : Bool := !((payload.get? key).map Json.truthy).getD false

def needsEnrichment (payload : Dict String Json) : Bool := enrichmentTargetFields.any (missing payload)

/-- What `match_person` answers: an `EnrichmentRequestError`, another exception,
nobody, or the fields of a person. -/
inductive ApolloAnswer where
  | failed (message : String)
  | raised (message : String)
  | nobody
  | person (fields : Dict String Json)

/-- `merge_into_payload`: only what is missing. -/
def mergeIntoPayload (payload fields : Dict String Json) : Dict String Json :=
  fields.foldl (fun out field => if field.2.truthy && missing out field.1 then out.set field.1 field.2 else out) payload

/-- The loop of `enrich_audience`; an exception leaves the rows that were enriched before it. -/
def enrichMembers (audienceId : Uuid) (maxToEnrich : Int) (answers : AudienceMember → ApolloAnswer) :
    Nat → List AudienceMember → List AudienceMember × Except AppError Unit
  | _, [] => ([], .ok ())
  | enriched, m :: rest =>
    if m.audienceId = audienceId ∧ needsEnrichment m.payload then
      if maxToEnrich ≤ enriched then (m :: rest, .ok ())
      else match answers m with
        | .raised message => (m :: rest, .error (.raised message))
        | .failed _ | .nobody => (enrichMembers audienceId maxToEnrich answers enriched rest).map (m :: ·) id
        | .person fields => (enrichMembers audienceId maxToEnrich answers (enriched + 1) rest).map
            ({ m with payload := mergeIntoPayload m.payload fields } :: ·) id
    else (enrichMembers audienceId maxToEnrich answers enriched rest).map (m :: ·) id

end MarketingAgents
