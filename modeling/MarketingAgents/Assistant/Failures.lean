import MarketingAgents.Assistant.Spared

namespace MarketingAgents.Assistant

open Lib PyText

section Stranding

variable [PyText] {db : Db} {user : AppUser} {campaignId assetId : Uuid} {identifier : String} {minimum : UserRole}
  {now : Int}

theorem findCampaign_stored (wf : db.Wf) {c : Campaign} (found : findCampaign db user identifier = .ok c) :
    db.campaign? c.id = some c := by
  unfold findCampaign at found
  split at found
  · rename_i byId
    cases Except.ok.inj found
    obtain ⟨id, _, here⟩ := Option.bind_eq_some_iff.mp byId
    exact Db.campaign?_self (Db.tenantCampaign?_eq_some here)
  · split at found
    · cases found
    · rename_i single
      cases Except.ok.inj found
      have member : c ∈ db.campaigns.filter _ := single ▸ List.mem_singleton_self c
      exact find?_key_eq Campaign.id wf.campaignIds (List.mem_filter.mp member).1
    · cases found

/-- The campaign of a call that completes it and whose report raises. -/
def StrandsCompletion (db : Db) (user : AppUser) (identifier : String) (confirm : Bool) (report : Option String) : Prop :=
  UserRole.manager.rank ≤ user.role.rank ∧ confirm = true ∧ report.isSome = true ∧
    ∃ c, findCampaign db user identifier = .ok c ∧ c.status ∈ [.live, .optimising, .paused]

theorem apply_complete (c : Campaign) : apply db c "complete_campaign" now =
    if c.status ∈ [.live, .optimising, .paused] then
      .ok (db.writeStatus c.id .completed (.transition "complete_campaign"))
    else .error (.unknownTransition "complete_campaign" c.status (transitionsFrom c.status)) := by
  cases status : c.status <;>
    simp [apply, campaignSm, status, orRaise, bind, Except.bind, require, guardHolds, runOnEnter, OnEnter.run]

omit [PyText] in
theorem writeStatus_changes {c : Campaign} (found : db.campaign? c.id = some c) {after : CampaignStatus}
    (different : c.status ≠ after) (writer : Writer) : (db.writeStatus c.id after writer).campaigns ≠ db.campaigns := by
  rw [writeStatus_eq found]
  intro same
  have member : c ∈ (db.setCampaign { c with status := after }).campaigns := by
    have here : c ∈ db.campaigns := List.mem_of_find?_eq_some found
    rw [← same] at here
    exact here
  rcases mem_updateWhere.mp member with ⟨_, _, _, equal⟩ | ⟨_, miss⟩
  · exact different (congrArg Campaign.status equal).symm
  · simp at miss

theorem completeReported_spares (wf : db.Wf) {confirm : Bool} {report : Option String} :
    Spares db (completeReported db user identifier confirm report now) ↔
      ¬ StrandsCompletion db user identifier confirm report := by
  rw [completeReported, withNamed_spares]
  constructor
  · rintro holds ⟨ranked, confirmed, raises, c, found, status⟩
    obtain ⟨message, raises⟩ := Option.isSome_iff_exists.mp raises
    have unfinished : c.status ≠ .completed := by
      intro done
      simp [done] at status
    have spares := holds c ranked found
    rw [if_neg unfinished, if_neg (by simp [confirmed]), apply_complete, if_pos status, raises] at spares
    exact writeStatus_changes (findCampaign_stored wf found) unfinished _ (spares _ rfl rfl).campaigns
  · intro stays c ranked found
    split
    · exact spares_self _
    · split
      · exact spares_self _
      · rename_i unfinished confirmed
        rw [apply_complete]
        by_cases status : c.status ∈ [.live, .optimising, .paused]
        · rw [if_pos status]
          cases report with
          | none => exact spares_ok rfl
          | some message => exact absurd ⟨ranked, by simpa using confirmed, rfl, c, found, status⟩ stays
        · rw [if_neg status]
          exact spares_self _

/-- A run of the Strategist that ends in a plan with an entry under `channels`
that is no object. -/
def StrandsVersion [PyDecimal] (apiKey : Bool) (db : Db) (user : AppUser) (campaign : String) (confirm : Bool)
    (briefing : Briefing) (replies : Nat → Except PlannerError (Dict String Json)) : Prop :=
  UserRole.marketer.rank ≤ user.role.rank ∧ confirm = true ∧ apiKey = true ∧
    ∃ c, findCampaign db user campaign = .ok c ∧
      ∃ db' result, propose db c.id briefing replies = .ok (db', result) ∧ summarisable result.payload = false

omit [PyText] in
theorem latestProposal_insertVersion (db : Db) (campaignId : Uuid) (payload : Dict String Json) :
    latestProposal (db.insertVersion campaignId payload) campaignId =
      some ⟨db.nextId, campaignId, nextVersion db campaignId, payload, false⟩ := by
  refine orderBy_first (by simp [Db.insertVersion]) fun q listed ahead => ?_
  obtain ⟨here, ours⟩ := List.mem_filter.mp listed
  rcases List.mem_append.mp here with old | new
  · -- an older version stands behind the one that was added
    exact absurd ahead (Nat.not_le.mpr (version_lt_nextVersion old (of_decide_eq_true ours)))
  · exact List.mem_singleton.mp new

theorem generateStrategy_spares [PyDecimal] {apiKey confirm : Bool} {briefing : Briefing}
    {replies : Nat → Except PlannerError (Dict String Json)} :
    Spares db (generateStrategy apiKey db user identifier confirm briefing replies) ↔
      ¬ StrandsVersion apiKey db user identifier confirm briefing replies := by
  rw [generateStrategy, withNamed_spares]
  constructor
  · rintro holds ⟨ranked, confirmed, keyed, c, found, db', result, done, unread⟩
    have spares := holds c ranked found
    have stored := (propose_carries done).1
    rw [if_neg (by simp [confirmed]), if_neg (by simp [keyed]), done] at spares
    simp only [stored, latestProposal_insertVersion, unread] at spares
    have same := (spares _ rfl rfl).proposals
    simp [Db.insertVersion] at same
  · intro stays c ranked found
    split
    · exact spares_self _
    · split
      · exact spares_self _
      · rename_i confirmed keyed
        cases done : propose db c.id briefing replies with
        | error failure => exact spares_self _
        | ok stored =>
          obtain ⟨db', result⟩ := stored
          by_cases reads : summarisable result.payload = true
          · simp only [(propose_carries done).1, latestProposal_insertVersion, reads, if_true]
            exact spares_ok rfl
          · exact absurd ⟨ranked, by simpa using confirmed, by simpa using keyed, c, found, db', result, done,
              by simpa using reads⟩ stays

/-- A call that goes on to a calendar that cannot be seeded. Beside an accepted
version it is refused before, and the request is rolled back. -/
def StrandsAccept [CalendarFloat] (constraints : List TenantConstraint) (db : Db) (user : AppUser) (campaign : String)
    (confirm : Bool) : Prop :=
  ∃ c, findCampaign db user campaign = .ok c ∧
    ∃ p ∈ (AcceptOp.tool user c.id confirm).seeds db, unseedable constraints db p = true

theorem acceptStrategy_of_seeds {confirm : Bool} {p : StrategyProposal}
    (seeds : (AcceptOp.tool user campaignId confirm).seeds db = some p)
    (calendar : Except String (List (String × Int × Int))) :
    latestUnaccepted db campaignId = some p ∧ (p ∈ db.proposals ∧ p.isAccepted = false) ∧
      match calendar with
      | .error message => acceptStrategy db user campaignId confirm calendar =
          refuse (db.acceptProposal p) ("Calendar seeding failed: " ++ message)
      | .ok _ => (acceptStrategy db user campaignId confirm calendar).2 = .ok ⟨false⟩ := by
  rw [AcceptOp.seeds] at seeds
  split at seeds
  · cases seeds
  · rename_i allowed
    obtain ⟨ranked, confirmed⟩ := not_or.mp allowed
    obtain ⟨c, chosen, latest⟩ := Option.bind_eq_some_iff.mp seeds
    obtain ⟨found, alone⟩ := Option.filter_eq_some_iff.mp chosen
    have sameId : c.id = campaignId := by
      simpa using List.find?_some (Option.filter_eq_some_iff.mp found).1
    have member := latestUnaccepted_mem latest
    refine ⟨sameId ▸ latest, ⟨member.1, member.2.2⟩, ?_⟩
    unfold acceptStrategy withCampaign
    rw [if_neg ranked, found]
    have unaccepted : ¬ (db.acceptedProposal? c.id).isSome := by simpa using alone
    simp only [latest, if_neg confirmed, if_neg unaccepted]
    cases calendar <;> rfl

/-- An accept that raises leaves the rows alone, unless it is the seeding behind the
flag that raises. -/
theorem acceptStrategySeeded_spares [CalendarFloat] {constraints : List TenantConstraint} {confirm : Bool} :
    Spares db (acceptStrategySeeded constraints db user campaignId confirm) ↔
      ∀ p ∈ (AcceptOp.tool user campaignId confirm).seeds db, unseedable constraints db p = false := by
  cases seeds : (AcceptOp.tool user campaignId confirm).seeds db with
  | none =>
    refine ⟨fun _ p none => (by cases none), fun _ => ?_⟩
    rcases @acceptStrategySeeded_cases _ _ constraints db user campaignId confirm with ⟨same, _⟩ | ⟨p, reaches, _⟩
    · intro _ _ _
      rw [same]
      exact .refl db
    · rw [seeds] at reaches
      cases reaches
  | some p =>
    obtain ⟨latest, ⟨member, flag⟩, done⟩ := acceptStrategy_of_seeds seeds
      (((seedCalendar constraints db p).map fun planned => planned.map PlannedTouchpoint.slot).mapError
        CalendarError.text)
    have calendar : latestCalendar constraints db campaignId = seedCalendar constraints db p := by
      rw [latestCalendar, latest]
    have single : (∀ q ∈ some p, unseedable constraints db q = false) ↔ unseedable constraints db p = false :=
      ⟨fun all => all p rfl, fun here q same => Option.mem_some_iff.mp same ▸ here⟩
    rw [single]
    unfold acceptStrategySeeded unseedable
    rw [calendar]
    cases outcome : seedCalendar constraints db p with
    | ok planned =>
      rw [outcome] at done
      exact ⟨fun _ => rfl, fun _ => spares_ok done⟩
    | error error =>
      rw [outcome] at done
      have stops : ∀ {run : ToolRun} {message}, run = refuse (db.acceptProposal p) message → ¬ Spares db run := by
        intro run message reached spares
        rw [reached] at spares
        -- the flag of the proposal has moved
        have same := (spares _ rfl rfl).proposals
        have kept := List.map_inj_left.mp (same.trans (List.map_id _).symm) p member
        have set := congrArg StrategyProposal.isAccepted kept
        simp [flag] at set
      cases error with
      | unstored => exact ⟨fun _ => rfl, fun _ => spares_self _⟩
      | seed message => exact ⟨fun spares => absurd spares (stops done), fun none => (by cases none)⟩
      | hardCaps violations => exact ⟨fun spares => absurd spares (stops done), fun none => (by cases none)⟩
      | raised => exact ⟨fun spares => absurd spares (stops done), fun none => (by cases none)⟩

theorem acceptNamed_spares [CalendarFloat] {constraints : List TenantConstraint} {confirm : Bool} :
    Spares db (withNamed db user .marketer identifier fun c => acceptStrategySeeded constraints db user c.id confirm) ↔
      ¬ StrandsAccept constraints db user identifier confirm := by
  rw [withNamed_spares]
  constructor
  · rintro holds ⟨c, found, p, seeds, unseeded⟩
    have ranked : UserRole.marketer.rank ≤ user.role.rank := by
      by_contra short
      simp [AcceptOp.seeds, Nat.lt_of_not_le short] at seeds
    rw [acceptStrategySeeded_spares.mp (holds c ranked found) p seeds] at unseeded
    cases unseeded
  · intro stays c ranked found
    refine acceptStrategySeeded_spares.mpr fun p seeds => ?_
    by_contra unseeded
    exact stays ⟨c, found, p, seeds, by simpa using unseeded⟩

/-- A run over the templates of which one raises behind one that is stored. -/
def HalfDrafted (db : Db) (c : Campaign) (audienceId : Uuid) (overwrite : Bool) (entries : List OutreachEntry) : Prop :=
  (∃ entry ∈ entries, entry.raisesAt db c audienceId overwrite = true) ∧
    ∃ entry ∈ answered db c audienceId overwrite entries, entry.storesAt db c audienceId overwrite = true

def StrandsDrafts [PyRegex] (apiKey : Bool) (db : Db) (user : AppUser) (campaign : String) (confirm overwrite : Bool)
    (replies : String → String → OutreachReply) : Prop :=
  UserRole.marketer.rank ≤ user.role.rank ∧ confirm = true ∧ apiKey = true ∧
    ∃ c, findCampaign db user campaign = .ok c ∧
      ∃ audience, latestAudience db c.id = some audience ∧ audience.tenantId = c.tenantId ∧
        ∃ segments, segmentMembers (db.audienceMembers.filter (·.audienceId = audience.id)) = some segments ∧
          HalfDrafted db c audience.id overwrite (outreachEntries segments replies)

theorem outreachDraft_keeps_transaction {c : Campaign} {audienceId : Uuid} {overwrite : Bool} {segment : Segment}
    {channel : String} {reply : OutreachReply} {error : AppError}
    (failed : outreachDraft c audienceId overwrite db segment channel reply = .error error) :
    error.losesTransaction = false := by
  unfold outreachDraft at failed
  dsimp only at failed
  generalize existingTemplates db c audienceId _ segment.key = existing at failed
  repeat' split at failed
  all_goals cases failed
  all_goals rfl

theorem outreachDrafts_keep_transaction {c : Campaign} {audienceId : Uuid} {overwrite : Bool}
    {entries : List OutreachEntry} {error : AppError}
    (failed : (outreachDrafts c audienceId overwrite db entries).2 = .error error) : error.losesTransaction = false := by
  induction entries generalizing db with
  | nil => cases failed
  | cons entry entries ih =>
    obtain ⟨segment, channel, reply⟩ := entry
    unfold outreachDrafts at failed
    split at failed
    · exact ih failed
    · rename_i raised
      cases failed
      exact outreachDraft_keeps_transaction raised

theorem outreachDrafts_spares (wf : db.Wf) {c : Campaign} {audienceId : Uuid} {overwrite : Bool}
    {entries : List OutreachEntry} (distinct : entries.Pairwise fun entry later => later.tag ≠ entry.tag) :
    Spares db ((outreachDrafts c audienceId overwrite db entries).1,
        (outreachDrafts c audienceId overwrite db entries).2.map fun _ => ⟨false⟩) ↔
      ¬ HalfDrafted db c audienceId overwrite entries := by
  have rows := @outreachDrafts_assets_iff _ db c audienceId overwrite entries wf distinct
  have fails := @outreachDrafts_error_iff _ db c audienceId overwrite entries wf distinct
  constructor
  · rintro spares ⟨raises, entry, member, stores⟩
    obtain ⟨error, raised⟩ := fails.mpr raises
    have same := (spares error (by rw [raised]; rfl) (outreachDrafts_keep_transaction raised)).assets
    rw [rows.mp same entry member] at stores
    cases stores
  · intro whole error raised _
    obtain ⟨assets, nextId, frame⟩ := @outreachDrafts_frame _ db c audienceId overwrite entries wf
    have failed : ∃ error, (outreachDrafts c audienceId overwrite db entries).2 = .error error := by
      cases outcome : (outreachDrafts c audienceId overwrite db entries).2 with
      | error error => exact ⟨error, rfl⟩
      | ok done =>
        rw [outcome] at raised
        cases raised
    have same := rows.mpr fun entry member => by
      by_contra stores
      exact whole ⟨fails.mp failed, entry, member, by simpa using stores⟩
    exact ⟨by rw [frame], by rw [frame], by rw [frame], same, by rw [frame]⟩

theorem outreachDrafts_reply_spares [PyRegex] (wf : db.Wf) {c : Campaign} {audience : Audience} {overwrite : Bool}
    {segments : List (SegmentBucket × List AudienceMember)} {replies : String → String → OutreachReply}
    (segmented : segmentMembers (db.audienceMembers.filter (·.audienceId = audience.id)) = some segments) :
    (Spares db (match outreachDrafts c audience.id overwrite db (outreachEntries segments replies) with
      | (db, .ok ()) => reply db
      | (db, .error error) => (db, .error error)) ↔
      ¬ HalfDrafted db c audience.id overwrite (outreachEntries segments replies)) := by
  rw [← outreachDrafts_spares wf (outreachEntries_distinct (segmentMembers_keys segmented) replies)]
  rcases outreachDrafts c audience.id overwrite db (outreachEntries segments replies) with ⟨last, failed | done⟩
  · rfl
  · rfl

/-- A drafting that raises leaves the rows alone, unless it has stored a template
for an earlier pair. -/
theorem draftNamed_spares [PyRegex] (wf : db.Wf) {apiKey confirm overwrite : Bool}
    {replies : String → String → OutreachReply} :
    Spares db (draftNamed apiKey db user identifier confirm overwrite replies) ↔
      ¬ StrandsDrafts apiKey db user identifier confirm overwrite replies := by
  rw [draftNamed, withNamed_spares]
  constructor
  · rintro holds ⟨ranked, confirmed, keyed, c, found, audience, latest, tenant, segments, segmented, half⟩
    have spares := holds c ranked found
    rw [latest] at spares
    dsimp only at spares
    split at spares
    · rename_i empty
      rw [empty] at segmented
      have none : segments = [] := by simpa [segmentMembers, seniorityBuckets] using segmented.symm
      obtain ⟨⟨entry, member, _⟩, _⟩ := half
      rw [none] at member
      cases member
    · rw [segmented] at spares
      dsimp only at spares
      rw [if_neg (by simp [confirmed]), if_neg (by simp [keyed]), if_neg (not_not.mpr tenant)] at spares
      exact (outreachDrafts_reply_spares wf segmented).mp spares half
  · intro stays c ranked found
    split
    · exact spares_self _
    · rename_i audience latest
      split
      · exact spares_self _
      · split
        · exact spares_self _
        · rename_i segments segmented
          split
          · exact spares_self _
          · split
            · exact spares_self _
            · split
              · exact spares_self _
              · rename_i confirmed keyed tenant
                refine (outreachDrafts_reply_spares wf segmented).mpr fun half => stays ?_
                exact ⟨ranked, by simpa using confirmed, by simpa using keyed, c, found, audience, latest,
                  not_not.mp tenant, segments, segmented, half⟩

end Stranding

section Calls

variable [PyText] [CalendarFloat] [PyDecimal] [PyInput] [PyRegex]

/-- Where the call raises, its request commits the rows that were there before it. -/
def ToolCall.FailsClean (settings : ToolSettings) (db : Db) (insights : Insights) (user : AppUser) (now : Int)
    (call : ToolCall) : Prop :=
  ∀ error, (call.serve settings db insights user now).2 = .error error →
    SameBusiness db (call.serve settings db insights user now).1.1

/-- The calls that raise behind their own writes. -/
def ToolCall.Strands (settings : ToolSettings) (db : Db) (user : AppUser) : ToolCall → Prop
  | .completeCampaign identifier confirm report => StrandsCompletion db user identifier confirm report
  | .generateStrategy campaign confirm briefing replies =>
      StrandsVersion settings.anthropicApiKey db user campaign confirm briefing replies
  | .acceptStrategy campaign confirm => StrandsAccept settings.constraints db user campaign confirm
  | .draftOutbound campaign confirm overwrite replies =>
      StrandsDrafts settings.anthropicApiKey db user campaign confirm overwrite replies
  | _ => False

variable {settings : ToolSettings} {db : Db} {insights : Insights} {user : AppUser} {now : Int} {call : ToolCall}

theorem failsClean_iff : call.FailsClean settings db insights user now ↔
    Spares db ((call.run settings db insights user now).1.1, (call.run settings db insights user now).2) := by
  unfold ToolCall.FailsClean ToolCall.serve Spares
  dsimp only
  cases outcome : (call.run settings db insights user now).2 with
  | ok result => simp [outcome]
  | error error =>
    cases lost : error.losesTransaction with
    | true => simp [lost, SameBusiness.refl]
    | false => simp [lost, outcome]

/-- A tool that raises leaves the rows of the business as they were, but for four
tools that write before the last of what can fail in them. -/
theorem failed_tools_change_nothing_iff (settings : ToolSettings) (db : Db) (wf : db.Wf) (insights : Insights)
    (user : AppUser) (now : Int) (call : ToolCall) :
    call.FailsClean settings db insights user now ↔ ¬ call.Strands settings db user := by
  have never : Spares db ((call.run settings db insights user now).1.1, (call.run settings db insights user now).2) →
      (call.FailsClean settings db insights user now ↔ ¬ False) := fun spares =>
    ⟨fun _ => id, fun _ => failsClean_iff.mpr spares⟩
  cases call with
  | createCampaign input => exact never (createCampaign_spares input)
  | pauseCampaign identifier confirm => exact never (withNamed_spares.mpr fun c _ _ => pauseCampaign_spares confirm)
  | resumeCampaign identifier => exact never (withNamed_spares.mpr fun c _ _ => resumeCampaign_spares)
  | completeCampaign identifier confirm report => exact failsClean_iff.trans (completeReported_spares wf)
  | acceptRecommendation identifier confirm => exact never (spares_self _)
  | dismissAnomaly identifier => exact never (spares_self _)
  | synthesiseAudience campaign size => exact never (synthesiseNamed_spares size)
  | generateStrategy campaign confirm briefing replies => exact failsClean_iff.trans generateStrategy_spares
  | acceptStrategy campaign confirm => exact failsClean_iff.trans acceptNamed_spares
  | generateContent campaign confirm generations =>
    exact never (withNamed_spares.mpr fun c _ _ => generateContent_spares _ confirm generations)
  | approveAllContent campaign confirm =>
    exact never (withNamed_spares.mpr fun c _ _ => approveAllContent_spares confirm)
  | launchCampaign campaign confirm => exact never (withNamed_spares.mpr fun c _ _ => launchCampaign_spares confirm)
  | approveAsset assetId => exact never (withAssetId_spares fun id => approveAsset_spares)
  | rejectAsset assetId reason => exact never (withAssetId_spares fun id => rejectAsset_spares reason)
  | enrichAudience campaign maxToEnrich answers => exact never (enrichAudience_spares _ maxToEnrich answers)
  | draftOutbound campaign confirm overwrite replies => exact failsClean_iff.trans (draftNamed_spares wf)

end Calls

namespace Failures

local instance failuresText : PyText := PyText.plain

local instance failuresFloat : CalendarFloat := CalendarFloat.plain

local instance failuresDecimal : PyDecimal := PyDecimal.plain

local instance failuresInput : PyInput := PyInput.plain

local instance failuresRegex : PyRegex := PyRegex.plain

private def configured : ToolSettings := ⟨true, true, []⟩

private def manager : AppUser := ⟨9, 1, .manager⟩

/-- A campaign with a strategy to accept and no audience. -/
private def unbuilt : Db where
  campaigns := [⟨0, 1, "spring", .audienceBuilt, 100, "EUR", 0, 27, [], none⟩]
  proposals := [⟨50, 0, 1, [("channels", .arr [])], false⟩]
  nextId := 60

/-- The same campaign with an audience in which the title of the manager is null. -/
private def sparse : Db where
  campaigns := unbuilt.campaigns
  audiences := [⟨8, 1, 0, 0⟩]
  audienceMembers :=
    [⟨8, "a", [("seniority", .str "founder"), ("title", .str "ceo")]⟩,
      ⟨8, "b", [("seniority", .str "manager"), ("title", .null)]⟩]
  nextId := 60

/-- The same campaign beside its accepted version. -/
private def settled : Db where
  campaigns := unbuilt.campaigns
  proposals := [⟨49, 0, 1, [("channels", .arr [])], true⟩, ⟨50, 0, 2, [("channels", .arr [])], false⟩]
  nextId := 60

/-- The accept of a version beside an accepted one ends in the unique index, before the missing audience is noticed. -/
theorem failed_tools_change_nothing_iff_refused :
    ((ToolCall.acceptStrategy "" true).serve configured settled {} manager 0).2 = .error .integrity ∧
      (ToolCall.acceptStrategy "" true).FailsClean configured settled {} manager 0 := by
  refine ⟨by decide +kernel, (failed_tools_change_nothing_iff configured settled
    ⟨by decide, by decide, by decide, by decide⟩ {} manager 0 _).mpr ?_⟩
  rintro ⟨c, found, p, seeds, _⟩
  have named : findCampaign settled manager "" = .ok ⟨0, 1, "spring", .audienceBuilt, 100, "EUR", 0, 27, [], none⟩ := by
    decide +kernel
  cases found.symm.trans named
  have none : (AcceptOp.tool manager 0 true).seeds settled = none := by decide +kernel
  cases none.symm.trans seeds

/-- Without an audience the accept raises behind the flag of its proposal, and
the templates of the founders are stored when the prompt for the managers fails. -/
theorem accept_and_drafts_leave_rows :
    ¬ (ToolCall.acceptStrategy "" true).FailsClean configured unbuilt {} manager 0 ∧
      ¬ (ToolCall.draftOutbound "" true false fun _ _ => .fields "hello" "draft").FailsClean configured sparse {}
        manager 0 := by
  constructor
  · intro clean
    have same := clean (.tool "Calendar seeding failed: no audience materialised for this campaign") (by decide +kernel)
    exact absurd same.proposals (by decide +kernel)
  · intro clean
    have same := clean (.raised "TypeError") (by decide +kernel)
    exact absurd same.assets (by decide +kernel)

end Failures

end MarketingAgents.Assistant
