import MarketingAgents.Content.Moves
import MarketingAgents.Outbound.Audience

namespace MarketingAgents

open Lib PyText

/-- Which template a pass is about. -/
def OutreachEntry.tag (entry : OutreachEntry) : AssetType × String :=
  (if entry.2.1 = "linkedin_dm" then .linkedinDm else .email, entry.1.key)

/-- The pass raises: there is more than one template, or it gets no reply to read. -/
def OutreachEntry.raises (overwrite : Bool) (existing : List ContentAsset) (entry : OutreachEntry) : Bool :=
  match entry.2.2 with
  | .raised _ => existing.length ≠ 1 || overwrite
  | _ => 1 < existing.length

section Drafts

variable [PyText] {db db' : Db} {c : Campaign} {audienceId : Uuid} {overwrite : Bool}

/-- The row as a usable reply overwrites it. -/
def redrafted (audienceId : Uuid) (segment : Segment) (channel subject body : String) (a : ContentAsset) :
    ContentAsset :=
  let template := outreachTemplate audienceId segment channel subject body
  { a with
    content := some template.2.2.1
    extraMetadata := a.extraMetadata.merge template.2.2.2
    status := .drafted
    title := some template.2.1 }

/-- The row that a usable reply adds. -/
def newTemplate (c : Campaign) (audienceId : Uuid) (segment : Segment) (channel subject body : String) : ContentAsset :=
  let template := outreachTemplate audienceId segment channel subject body
  { id := 0
    tenantId := c.tenantId
    campaignId := c.id
    assetType := template.1
    status := .drafted
    title := some template.2.1
    content := some template.2.2.1
    extraMetadata := template.2.2.2 }

/-- The pass leaves the table with a row that it did not hold before. -/
def OutreachEntry.stores (audienceId : Uuid) (overwrite : Bool) (existing : List ContentAsset) (entry : OutreachEntry) :
    Bool :=
  match entry with
  | (segment, channel, .fields subject body) =>
    !(body = "" ∨ channel ≠ "linkedin_dm" ∧ subject = "") && match existing with
      | [] => true
      | [a] => overwrite && redrafted audienceId segment channel subject body a ≠ a
      | _ => false
  | _ => false

/-- The templates that a pass finds. -/
def templatesOf (db : Db) (c : Campaign) (audienceId : Uuid) (entry : OutreachEntry) : List ContentAsset :=
  existingTemplates db c audienceId entry.tag.1 entry.tag.2

def isTemplate (c : Campaign) (audienceId : Uuid) (entry : OutreachEntry) (a : ContentAsset) : Bool :=
  a.campaignId = c.id ∧ a.assetType = entry.tag.1 ∧ a.extraMetadata.get? "segment_key" = some (.str entry.tag.2) ∧
    a.extraMetadata.get? "audience_id" = some (.str (uuidStr audienceId))

theorem templatesOf_eq (db : Db) (c : Campaign) (audienceId : Uuid) (entry : OutreachEntry) :
    templatesOf db c audienceId entry = db.assets.filter (isTemplate c audienceId entry) := by
  simp only [templatesOf, existingTemplates, Db.campaignAssets, List.filter_filter]
  refine List.filter_congr fun a _ => ?_
  rw [isTemplate, Bool.and_comm, ← Bool.decide_and]

/-- A template belongs to one tag. -/
theorem isTemplate_other {entry other : OutreachEntry} (different : other.tag ≠ entry.tag) {a : ContentAsset}
    (ours : isTemplate c audienceId entry a = true) : isTemplate c audienceId other a = false := by
  obtain ⟨_, kind, key, _⟩ := of_decide_eq_true ours
  refine decide_eq_false fun ⟨_, otherKind, otherKey, _⟩ => different ?_
  have sameKey : other.tag.2 = entry.tag.2 := by simpa using otherKey.symm.trans key
  exact Prod.ext (otherKind.symm.trans kind) sameKey

theorem outreachTemplate_nodup (audienceId : Uuid) (segment : Segment) (channel subject body : String) :
    ((outreachTemplate audienceId segment channel subject body).2.2.2.map Prod.fst).Nodup := by
  simp only [outreachTemplate, List.map_cons, List.map_nil]
  decide

theorem outreachTemplate_keeps (audienceId : Uuid) (segment : Segment) (channel subject body : String)
    (d : Dict String Json) :
    (d.merge (outreachTemplate audienceId segment channel subject body).2.2.2).get? "segment_key" =
        some (.str segment.key) ∧
      (d.merge (outreachTemplate audienceId segment channel subject body).2.2.2).get? "audience_id" =
        some (.str (uuidStr audienceId)) := by
  have keys := outreachTemplate_nodup audienceId segment channel subject body
  rw [Dict.get?_merge keys, Dict.get?_merge keys]
  exact ⟨rfl, rfl⟩

/-- What a pass that does not raise leaves: the templates of every other tag, and
its own as they were unless it stores one. -/
structure DraftStep (db db' : Db) (c : Campaign) (audienceId : Uuid) (overwrite : Bool) (entry : OutreachEntry) :
    Prop where
  wf : db'.Wf
  others : ∀ other : OutreachEntry, other.tag ≠ entry.tag →
    templatesOf db' c audienceId other = templatesOf db c audienceId other
  stored : entry.stores audienceId overwrite (templatesOf db c audienceId entry) = true →
    templatesOf db' c audienceId entry ≠ templatesOf db c audienceId entry
  kept : entry.stores audienceId overwrite (templatesOf db c audienceId entry) = false → db'.assets = db.assets
  frame : db' = { db with assets := db'.assets, nextId := db'.nextId }

theorem draftStep_self (wf : db.Wf) {entry : OutreachEntry}
    (idle : entry.stores audienceId overwrite (templatesOf db c audienceId entry) = false) :
    DraftStep db db c audienceId overwrite entry where
  wf := wf
  others _ _ := rfl
  stored stores := by simp [idle] at stores
  kept _ := rfl
  frame := rfl

theorem draftStep_insert (wf : db.Wf) {entry : OutreachEntry} {a : ContentAsset}
    (none : templatesOf db c audienceId entry = [])
    (ours : isTemplate c audienceId entry { a with id := db.nextId } = true)
    (stores : entry.stores audienceId overwrite [] = true) :
    DraftStep db (db.insertAsset a) c audienceId overwrite entry where
  wf := wf.insertAsset a
  others other different := by
    rw [templatesOf_eq, templatesOf_eq, Db.insertAsset, List.filter_append,
      List.filter_cons_of_neg (by simp [isTemplate_other different ours]), List.filter_nil, List.append_nil]
  stored _ := by
    rw [none, templatesOf_eq]
    have here : { a with id := db.nextId } ∈ (db.insertAsset a).assets :=
      List.mem_append_right _ (List.mem_singleton_self _)
    exact List.ne_nil_of_mem (List.mem_filter.mpr ⟨here, ours⟩)
  kept idle := by simp [none, stores] at idle
  frame := rfl

theorem draftStep_set (wf : db.Wf) {entry : OutreachEntry} {a new : ContentAsset}
    (single : templatesOf db c audienceId entry = [a]) (sameId : new.id = a.id)
    (ours : isTemplate c audienceId entry new = true)
    (stores : entry.stores audienceId overwrite [a] = decide (new ≠ a)) :
    DraftStep db (db.setAsset new) c audienceId overwrite entry := by
  have listed : a ∈ db.assets.filter (isTemplate c audienceId entry) := by
    rw [← templatesOf_eq, single]
    exact List.mem_singleton_self a
  obtain ⟨here, named⟩ := List.mem_filter.mp listed
  have only : ∀ row ∈ db.assets, decide (row.id = new.id) = true → row = a := fun row member hit =>
    eq_of_key_eq wf.assetIds member here ((of_decide_eq_true hit).trans sameId)
  refine ⟨wf.of_ids (setAsset_ids db new) rfl rfl, fun other different => ?_, fun changed => ?_, fun idle => ?_, rfl⟩
  · rw [templatesOf_eq, templatesOf_eq]
    refine filter_updateWhere fun row member hit => ⟨?_, isTemplate_other different ours⟩
    rw [only row member hit]
    exact isTemplate_other different named
  · rw [single, stores] at changed
    rw [single]
    intro same
    have after : new ∈ templatesOf (db.setAsset new) c audienceId entry := by
      rw [templatesOf_eq]
      exact List.mem_filter.mpr ⟨mem_updateWhere.mpr (Or.inl ⟨a, here, by simp [sameId], rfl⟩), ours⟩
    rw [same] at after
    exact of_decide_eq_true changed (List.mem_singleton.mp after)
  · rw [single, stores] at idle
    have equal : new = a := by simpa using idle
    exact updateWhere_eq_self fun row member hit => equal.trans (only row member hit).symm

/-- The pass that finds no template. -/
theorem outreachDraft_of_nil {segment : Segment} {channel : String} {reply : OutreachReply}
    (shape : templatesOf db c audienceId (segment, channel, reply) = []) :
    outreachDraft c audienceId overwrite db segment channel reply = match reply with
      | .failed _ => .ok db
      | .raised message => .error (.raised message)
      | .fields subject body =>
        if body = "" ∨ channel ≠ "linkedin_dm" ∧ subject = "" then .ok db
        else .ok (db.insertAsset (newTemplate c audienceId segment channel subject body)) := by
  have found : existingTemplates db c audienceId (if channel = "linkedin_dm" then .linkedinDm else .email) segment.key =
      [] := shape
  unfold outreachDraft
  dsimp only
  rw [found]
  dsimp only
  rw [if_neg (by simp)]
  cases reply <;> rfl

/-- The pass that finds one. -/
theorem outreachDraft_of_single {segment : Segment} {channel : String} {reply : OutreachReply} {a : ContentAsset}
    (shape : templatesOf db c audienceId (segment, channel, reply) = [a]) :
    outreachDraft c audienceId overwrite db segment channel reply =
      if overwrite = false then .ok db else match reply with
        | .failed _ => .ok db
        | .raised message => .error (.raised message)
        | .fields subject body =>
          if body = "" ∨ channel ≠ "linkedin_dm" ∧ subject = "" then .ok db
          else .ok (db.setAsset (redrafted audienceId segment channel subject body a)) := by
  have found : existingTemplates db c audienceId (if channel = "linkedin_dm" then .linkedinDm else .email) segment.key =
      [a] := shape
  unfold outreachDraft
  dsimp only
  rw [found]
  dsimp only
  by_cases kept : overwrite = false
  · rw [if_pos ⟨by simp, kept⟩, if_pos kept]
  · rw [if_neg (fun both => kept both.2), if_neg kept]
    cases reply <;> rfl

theorem outreachDraft_raises {entry : OutreachEntry}
    (raises : entry.raises overwrite (templatesOf db c audienceId entry) = true) :
    ∃ error, outreachDraft c audienceId overwrite db entry.1 entry.2.1 entry.2.2 = .error error := by
  obtain ⟨segment, channel, reply⟩ := entry
  rcases shape : templatesOf db c audienceId (segment, channel, reply) with _ | ⟨a, _ | ⟨b, rest⟩⟩
  · rw [shape] at raises
    rw [outreachDraft_of_nil shape]
    cases reply with
    | raised message => exact ⟨_, rfl⟩
    | failed message => simp [OutreachEntry.raises] at raises
    | fields subject body => simp [OutreachEntry.raises] at raises
  · rw [shape] at raises
    rw [outreachDraft_of_single shape]
    cases reply with
    | raised message =>
      have asked : overwrite = true := by simpa [OutreachEntry.raises] using raises
      rw [if_neg (by simp [asked])]
      exact ⟨_, rfl⟩
    | failed message => simp [OutreachEntry.raises] at raises
    | fields subject body => simp [OutreachEntry.raises] at raises
  · have found : existingTemplates db c audienceId (if channel = "linkedin_dm" then .linkedinDm else .email)
        segment.key = a :: b :: rest := shape
    unfold outreachDraft
    dsimp only
    rw [found]
    exact ⟨_, rfl⟩

/-- A pass that does not raise is a step of the drafts: it skips the pair, makes its
template or rewrites the one that is there. -/
theorem outreachDraft_steps (wf : db.Wf) {entry : OutreachEntry}
    (quiet : entry.raises overwrite (templatesOf db c audienceId entry) = false) :
    ∃ db', outreachDraft c audienceId overwrite db entry.1 entry.2.1 entry.2.2 = .ok db' ∧
      DraftStep db db' c audienceId overwrite entry := by
  obtain ⟨segment, channel, reply⟩ := entry
  rcases shape : templatesOf db c audienceId (segment, channel, reply) with _ | ⟨a, _ | ⟨b, rest⟩⟩
  · rw [shape] at quiet
    rw [outreachDraft_of_nil shape]
    cases reply with
    | raised message => simp [OutreachEntry.raises] at quiet
    | failed message => exact ⟨db, rfl, draftStep_self wf rfl⟩
    | fields subject body =>
      dsimp only
      by_cases unusable : body = "" ∨ channel ≠ "linkedin_dm" ∧ subject = ""
      · rw [if_pos unusable]
        exact ⟨db, rfl, draftStep_self wf (by simp [OutreachEntry.stores, unusable])⟩
      · rw [if_neg unusable]
        refine ⟨_, rfl, draftStep_insert wf shape ?_ (by simp [OutreachEntry.stores, unusable])⟩
        exact decide_eq_true ⟨rfl, rfl, rfl, rfl⟩
  · rw [shape] at quiet
    rw [outreachDraft_of_single shape]
    by_cases skips : overwrite = false
    · rw [if_pos skips]
      refine ⟨db, rfl, draftStep_self wf ?_⟩
      cases reply <;> simp [OutreachEntry.stores, shape, skips]
    · rw [if_neg skips]
      have asked : overwrite = true := by simpa using skips
      cases reply with
      | raised message => simp [OutreachEntry.raises, asked] at quiet
      | failed message => exact ⟨db, rfl, draftStep_self wf rfl⟩
      | fields subject body =>
        dsimp only
        by_cases unusable : body = "" ∨ channel ≠ "linkedin_dm" ∧ subject = ""
        · rw [if_pos unusable]
          exact ⟨db, rfl, draftStep_self wf (by simp [OutreachEntry.stores, unusable])⟩
        · rw [if_neg unusable]
          refine ⟨_, rfl, draftStep_set wf shape rfl ?_ (by simp [OutreachEntry.stores, unusable, asked])⟩
          have listed : a ∈ db.assets.filter (isTemplate c audienceId (segment, channel, .fields subject body)) := by
            rw [← templatesOf_eq, shape]
            exact List.mem_singleton_self a
          obtain ⟨mine, kind, _⟩ := of_decide_eq_true (List.mem_filter.mp listed).2
          obtain ⟨key, audience⟩ := outreachTemplate_keeps audienceId segment channel subject body a.extraMetadata
          exact decide_eq_true ⟨mine, kind, key, audience⟩
  · rw [shape] at quiet
    cases reply <;> simp [OutreachEntry.raises] at quiet

/-- The pass raises on the tables as they are. -/
def OutreachEntry.raisesAt (db : Db) (c : Campaign) (audienceId : Uuid) (overwrite : Bool) (entry : OutreachEntry) :
    Bool :=
  entry.raises overwrite (templatesOf db c audienceId entry)

def OutreachEntry.storesAt (db : Db) (c : Campaign) (audienceId : Uuid) (overwrite : Bool) (entry : OutreachEntry) :
    Bool :=
  entry.stores audienceId overwrite (templatesOf db c audienceId entry)

/-- The passes before the first that raises. -/
def answered (db : Db) (c : Campaign) (audienceId : Uuid) (overwrite : Bool) (entries : List OutreachEntry) :
    List OutreachEntry :=
  entries.takeWhile fun entry => !entry.raisesAt db c audienceId overwrite

variable {entry : OutreachEntry} {entries : List OutreachEntry}

theorem outreachDrafts_of_raises (raises : entry.raisesAt db c audienceId overwrite = true) :
    (outreachDrafts c audienceId overwrite db (entry :: entries)).1 = db ∧
      ∃ error, (outreachDrafts c audienceId overwrite db (entry :: entries)).2 = .error error := by
  obtain ⟨error, failed⟩ := outreachDraft_raises raises
  obtain ⟨segment, channel, reply⟩ := entry
  dsimp only at failed
  unfold outreachDrafts
  rw [failed]
  exact ⟨rfl, error, rfl⟩

theorem outreachDrafts_of_step (wf : db.Wf) (entries : List OutreachEntry)
    (quiet : entry.raisesAt db c audienceId overwrite = false) :
    ∃ mid, DraftStep db mid c audienceId overwrite entry ∧
      outreachDrafts c audienceId overwrite db (entry :: entries) = outreachDrafts c audienceId overwrite mid entries := by
  obtain ⟨mid, done, step⟩ := outreachDraft_steps wf quiet
  refine ⟨mid, step, ?_⟩
  obtain ⟨segment, channel, reply⟩ := entry
  dsimp only at done
  rw [outreachDrafts, done]

/-- The loop touches no table but the assets. -/
theorem outreachDrafts_frame (wf : db.Wf) : ∃ assets nextId,
    (outreachDrafts c audienceId overwrite db entries).1 = { db with assets := assets, nextId := nextId } := by
  induction entries generalizing db with
  | nil => exact ⟨db.assets, db.nextId, rfl⟩
  | cons entry entries ih =>
    by_cases raises : entry.raisesAt db c audienceId overwrite = true
    · exact ⟨db.assets, db.nextId, (outreachDrafts_of_raises raises).1⟩
    · obtain ⟨mid, step, rest⟩ := outreachDrafts_of_step wf entries (by simpa using raises)
      obtain ⟨assets, nextId, done⟩ := ih step.wf
      refine ⟨assets, nextId, ?_⟩
      rw [rest, done, step.frame]

theorem outreachDrafts_others (wf : db.Wf) {other : OutreachEntry} (different : ∀ entry ∈ entries, other.tag ≠ entry.tag) :
    templatesOf (outreachDrafts c audienceId overwrite db entries).1 c audienceId other =
      templatesOf db c audienceId other := by
  induction entries generalizing db with
  | nil => rfl
  | cons entry entries ih =>
    by_cases raises : entry.raisesAt db c audienceId overwrite = true
    · rw [(outreachDrafts_of_raises raises).1]
    · obtain ⟨mid, step, rest⟩ := outreachDrafts_of_step wf entries (by simpa using raises)
      rw [rest, ih step.wf fun later member => different later (List.mem_cons_of_mem _ member),
        step.others other (different entry (List.mem_cons_self ..))]

/-- What the later passes find is what they would have found before this one. -/
theorem DraftStep.later {mid : Db} (step : DraftStep db mid c audienceId overwrite entry)
    (distinct : ∀ later ∈ entries, later.tag ≠ entry.tag) {later : OutreachEntry} (member : later ∈ entries) :
    later.raisesAt mid c audienceId overwrite = later.raisesAt db c audienceId overwrite ∧
      later.storesAt mid c audienceId overwrite = later.storesAt db c audienceId overwrite := by
  have same := step.others later (distinct later member)
  exact ⟨by rw [OutreachEntry.raisesAt, OutreachEntry.raisesAt, same],
    by rw [OutreachEntry.storesAt, OutreachEntry.storesAt, same]⟩

/-- The loop fails where one of its passes raises. -/
theorem outreachDrafts_error_iff (wf : db.Wf) (distinct : entries.Pairwise fun entry later => later.tag ≠ entry.tag) :
    (∃ error, (outreachDrafts c audienceId overwrite db entries).2 = .error error) ↔
      ∃ entry ∈ entries, entry.raisesAt db c audienceId overwrite = true := by
  induction entries generalizing db with
  | nil => simp [outreachDrafts]
  | cons entry entries ih =>
    rw [List.pairwise_cons] at distinct
    by_cases raises : entry.raisesAt db c audienceId overwrite = true
    · exact ⟨fun _ => ⟨entry, List.mem_cons_self .., raises⟩, fun _ => (outreachDrafts_of_raises raises).2⟩
    · obtain ⟨mid, step, rest⟩ := outreachDrafts_of_step wf entries (by simpa using raises)
      rw [rest, ih step.wf distinct.2]
      constructor
      · rintro ⟨later, member, fails⟩
        exact ⟨later, List.mem_cons_of_mem _ member, (step.later distinct.1 member).1 ▸ fails⟩
      · rintro ⟨later, member, fails⟩
        rcases List.mem_cons.mp member with rfl | inside
        · exact absurd fails raises
        · exact ⟨later, inside, (step.later distinct.1 inside).1.symm ▸ fails⟩

/-- The loop leaves the assets as they were where none of the passes before the
first that raises stores a template. -/
theorem outreachDrafts_assets_iff (wf : db.Wf) (distinct : entries.Pairwise fun entry later => later.tag ≠ entry.tag) :
    (outreachDrafts c audienceId overwrite db entries).1.assets = db.assets ↔
      ∀ entry ∈ answered db c audienceId overwrite entries, entry.storesAt db c audienceId overwrite = false := by
  induction entries generalizing db with
  | nil => simp [outreachDrafts, answered]
  | cons entry entries ih =>
    rw [List.pairwise_cons] at distinct
    by_cases raises : entry.raisesAt db c audienceId overwrite = true
    · simp [(outreachDrafts_of_raises raises).1, answered, raises]
    · obtain ⟨mid, step, rest⟩ := outreachDrafts_of_step wf entries (by simpa using raises)
      have first : answered db c audienceId overwrite (entry :: entries) =
          entry :: answered mid c audienceId overwrite entries := by
        rw [answered, List.takeWhile_cons_of_pos (by simpa using raises)]
        exact congrArg (entry :: ·) (takeWhile_congr fun later member => by rw [(step.later distinct.1 member).1])
      have listed : ∀ later ∈ answered mid c audienceId overwrite entries, later ∈ entries := fun later member =>
        (List.takeWhile_prefix _).subset member
      have after := ih step.wf distinct.2
      rw [rest, first]
      by_cases stores : entry.storesAt db c audienceId overwrite = true
      · -- the template that this pass stores is still there at the end
        refine ⟨fun same => ?_, fun none => absurd (none entry (List.mem_cons_self ..)) (by simp [stores])⟩
        have last := @outreachDrafts_others _ mid c audienceId overwrite entries step.wf entry
          fun later member => (distinct.1 later member).symm
        have start : templatesOf (outreachDrafts c audienceId overwrite mid entries).1 c audienceId entry =
            templatesOf db c audienceId entry := by
          rw [templatesOf_eq, templatesOf_eq, same]
        exact absurd (last.symm.trans start) (step.stored stores)
      · have idle : entry.storesAt db c audienceId overwrite = false := by simpa using stores
        have unchanged := step.kept idle
        rw [← unchanged, after]
        constructor
        · intro none later member
          rcases List.mem_cons.mp member with rfl | inside
          · exact idle
          · exact (step.later distinct.1 (listed later inside)).2 ▸ none later inside
        · intro none later inside
          exact (step.later distinct.1 (listed later inside)).2.symm ▸ none later (List.mem_cons_of_mem _ inside)

omit [PyText] in
/-- The passes over distinct segments are about distinct templates. -/
theorem outreachEntries_distinct {segments : List (SegmentBucket × List AudienceMember)}
    (keys : (segments.map fun segment => segment.1.key).Nodup) (replies : String → String → OutreachReply) :
    (outreachEntries segments replies).Pairwise fun entry later => later.tag ≠ entry.tag := by
  induction segments with
  | nil => exact .nil
  | cons segment segments ih =>
    rw [List.map_cons, List.nodup_cons] at keys
    rw [outreachEntries, List.flatMap_cons, List.pairwise_append]
    refine ⟨?_, ih keys.2, fun entry here later there same => ?_⟩
    · simp [segmentEntries, OutreachEntry.tag]
    · have named : entry.tag.2 = segment.1.key := by
        obtain ⟨channel, _, rfl⟩ := List.mem_map.mp here
        rfl
      obtain ⟨other, member, inside⟩ := List.mem_flatMap.mp there
      have otherNamed : later.tag.2 = other.1.key := by
        obtain ⟨channel, _, rfl⟩ := List.mem_map.mp inside
        rfl
      have equal : other.1.key = segment.1.key := by rw [← otherNamed, same, named]
      exact keys.1 (equal ▸ List.mem_map_of_mem member)

theorem segmentMembers_keys [PyRegex] {members : List AudienceMember}
    {segments : List (SegmentBucket × List AudienceMember)} (segmented : segmentMembers members = some segments) :
    (segments.map fun segment => segment.1.key).Nodup := by
  obtain ⟨keyed, _, rfl⟩ := Option.map_eq_some_iff.mp segmented
  have all : ((seniorityBuckets.map fun bucket =>
      (bucket, (keyed.filter (·.1 = bucket.key)).map Prod.snd)).map fun segment => segment.1.key) =
      seniorityBuckets.map SegmentBucket.key := by
    rw [List.map_map]
    rfl
  exact ((List.filter_sublist).map _).nodup (all ▸ seniorityBuckets_keys)

end Drafts

end MarketingAgents
