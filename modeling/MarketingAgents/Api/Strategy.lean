import MarketingAgents.Agents.Calendar
import MarketingAgents.Api.Campaigns
import MarketingAgents.Lib.Run

namespace MarketingAgents

open Lib PyText

def StrategyTouchpoint.planned (tp : StrategyTouchpoint) : PlannedTouchpoint :=
  ⟨tp.channelPlatform, tp.position, tp.scheduledAt⟩

/-- The touchpoints stored for a proposal. -/
def Db.calendarOf (db : Db) (proposalId : Uuid) : List PlannedTouchpoint :=
  (db.touchpoints.filter (·.proposalId = proposalId)).map StrategyTouchpoint.planned

/-- A slot as `addTouchpoints` takes it. -/
def PlannedTouchpoint.slot (t : PlannedTouchpoint) : String × Int × Int := (t.channelPlatform, t.position, t.scheduledAt)

/-- The body of a drag. A time without a zone is the server's. -/
structure TouchpointPatch where
  scheduledAt : Int
  aware : Bool := true

section Strategy

variable [PyText]

/-- The `detail` of the 422; an error of neither kind is a 500. -/
def CalendarError.detail : CalendarError → String
  | .seed message => message
  | .hardCaps _ => "hard cap violation"
  | .raised | .unstored => "Internal Server Error"

/-- `str(exc)`, where the calendar code raises it; the texts of other errors are left out. -/
def CalendarError.text : CalendarError → String
  | .seed message => message
  | .hardCaps violations => "hard cap violations: " ++ "; ".intercalate (violations.map HardCapViolation.detail)
  | .raised | .unstored => ""

/-- `patch_touchpoint`: the move is checked against the whole calendar. -/
def patchTouchpoint (constraints : List TenantConstraint) (db : Db) (user : AppUser) (touchpointId : Uuid)
    (body : TouchpointPatch) : Except AppError Db := do
  require (UserRole.marketer.rank ≤ user.role.rank) (.http 403 "requires role >= marketer")
  let tp ← orRaise (db.touchpoints.find? (·.id = touchpointId)) (.http 404 "touchpoint not found")
  let p ← orRaise (db.proposals.find? (·.id = tp.proposalId)) (.http 404 "parent proposal missing")
  -- the session sees the rows of the user's tenant only
  let c ← orRaise (db.tenantCampaign? user p.campaignId) (.http 404 "touchpoint not found")
  let moved : Db := { db with
    touchpoints := updateWhere (·.id = tp.id) (fun row => { row with scheduledAt := body.scheduledAt }) db.touchpoints }
  let planned := moved.calendarOf tp.proposalId
  (enforceHardCaps planned (hardCapsOf constraints c.tenantId)).mapError fun error => .http 422 error.detail
  -- a time without a zone does not compare with the stored ones
  require (body.aware = true ∨ planned.length ≤ 1) (.http 500 "Internal Server Error")
  pure moved

variable [CalendarFloat]

/-- `seed_calendar`, less the insert. A platform wider than its column does not flush. -/
def seedCalendar (constraints : List TenantConstraint) (db : Db) (p : StrategyProposal) :
    Except CalendarError (List PlannedTouchpoint) := do
  let c ← orRaise (db.campaign? p.campaignId) (.seed ("campaign " ++ uuidStr p.campaignId ++ " not found"))
  require (∃ audience ∈ db.audiences, audience.campaignId = c.id) (.seed "no audience materialised for this campaign")
  let planned ← generateCalendar p.payload c.startDate c.endDate (hardCapsOf constraints c.tenantId)
  require (∀ t ∈ planned, t.channelPlatform.length ≤ 40) .unstored
  pure planned

/-- The calendar of the proposal with the id, as `accept_strategy` has it seeded. -/
def calendarFor (constraints : List TenantConstraint) (db : Db) (proposalId : Uuid) :
    Except CalendarError (List (String × Int × Int)) :=
  match db.proposals.find? (·.id = proposalId) with
  | some p => (seedCalendar constraints db p).map fun planned => planned.map PlannedTouchpoint.slot
  | none => .ok []

/-- `accept_strategy` of the API with the calendar that it seeds. -/
def acceptStrategySeeded (constraints : List TenantConstraint) (db : Db) (user : AppUser) (proposalId : Uuid)
    (now : Int) : Except AppError Db :=
  (acceptStrategy db user proposalId ((calendarFor constraints db proposalId).mapError CalendarError.detail) now).mapError
    fun error => if error = .http 422 CalendarError.raised.detail then .http 500 CalendarError.raised.detail else error

end Strategy

/-- What a calendar reads of its campaign. -/
def Campaign.planning (c : Campaign) : Uuid × Uuid × Int × Int := (c.id, c.tenantId, c.startDate, c.endDate)

theorem writeStatus_planning (db : Db) (campaignId : Uuid) (status : CampaignStatus) (writer : Writer) (id : Uuid) :
    ((db.writeStatus campaignId status writer).campaign? id).map Campaign.planning =
      (db.campaign? id).map Campaign.planning := by
  unfold Db.writeStatus
  cases found : db.campaign? campaignId with
  | none => rfl
  | some c =>
    have same : c.id = campaignId := by simpa using List.find?_some found
    simp only [Db.campaign?, Db.setCampaign]
    rw [find?_updateWhere db.campaigns fun row hit => by simp_all]
    cases here : db.campaigns.find? (·.id = id) with
    | none => rfl
    | some row =>
      have rowId : row.id = id := by simpa using List.find?_some here
      simp only [Option.map_some, decide_eq_true_eq]
      split
      · rename_i named
        -- the row found under the id is the campaign that was written
        have equal : row = c := by
          rw [← rowId, named, same, ← Db.campaign?, found] at here
          exact (Option.some.inj here).symm
        rw [equal]
        rfl
      · rfl

theorem writeStatus_calendar (db : Db) (campaignId : Uuid) (status : CampaignStatus) (writer : Writer) :
    (db.writeStatus campaignId status writer).touchpoints = db.touchpoints ∧
      (db.writeStatus campaignId status writer).proposals = db.proposals ∧
      (db.writeStatus campaignId status writer).audiences = db.audiences ∧
      (db.writeStatus campaignId status writer).nextId = db.nextId := by
  unfold Db.writeStatus
  split <;> exact ⟨rfl, rfl, rfl, rfl⟩

/-- The rows of the slots, with the ids from `next` on. -/
def touchpointRows (proposalId : Uuid) : Uuid → List (String × Int × Int) → List StrategyTouchpoint
  | _, [] => []
  | next, (platform, position, scheduledAt) :: rest =>
    ⟨next, proposalId, platform, position, scheduledAt⟩ :: touchpointRows proposalId (next + 1) rest

theorem addTouchpoints_eq (db : Db) (proposalId : Uuid) (slots : List (String × Int × Int)) :
    db.addTouchpoints proposalId slots = { db with
      touchpoints := db.touchpoints ++ touchpointRows proposalId db.nextId slots
      nextId := db.nextId + slots.length } := by
  induction slots generalizing db with
  | nil => simp [Db.addTouchpoints, touchpointRows]
  | cons slot rest ih =>
    obtain ⟨platform, position, scheduledAt⟩ := slot
    rw [Db.addTouchpoints, ih]
    simp only [touchpointRows, List.append_assoc, List.cons_append, List.nil_append, List.length_cons, Db.mk.injEq,
      true_and, and_true]
    exact Nat.add_right_comm ..

theorem touchpointRows_proposal {proposalId next : Uuid} {slots : List (String × Int × Int)} {tp : StrategyTouchpoint}
    (member : tp ∈ touchpointRows proposalId next slots) : tp.proposalId = proposalId := by
  induction slots generalizing next with
  | nil => cases member
  | cons slot rest ih =>
    rcases List.mem_cons.mp member with rfl | later
    · rfl
    · exact ih later

theorem touchpointRows_ids (proposalId next : Uuid) (slots : List (String × Int × Int)) :
    (touchpointRows proposalId next slots).map StrategyTouchpoint.id = List.range' next slots.length := by
  induction slots generalizing next with
  | nil => rfl
  | cons slot rest ih => rw [touchpointRows, List.map_cons, ih, List.length_cons, List.range'_succ]

theorem touchpointRows_fresh {proposalId next : Uuid} {slots : List (String × Int × Int)} {tp : StrategyTouchpoint}
    (member : tp ∈ touchpointRows proposalId next slots) : next ≤ tp.id ∧ tp.id < next + slots.length := by
  have listed : tp.id ∈ (touchpointRows proposalId next slots).map StrategyTouchpoint.id := List.mem_map_of_mem member
  rw [touchpointRows_ids] at listed
  exact List.mem_range'_1.mp listed

theorem touchpointRows_planned (proposalId next : Uuid) (touches : List PlannedTouchpoint) :
    (touchpointRows proposalId next (touches.map PlannedTouchpoint.slot)).map StrategyTouchpoint.planned = touches := by
  induction touches generalizing next with
  | nil => rfl
  | cons t rest ih =>
    rw [List.map_cons, PlannedTouchpoint.slot, touchpointRows, List.map_cons, ih]
    rfl

/-- The ids of the touchpoints are a primary key, below the next id. -/
structure TouchpointKeys (db : Db) : Prop where
  nodup : (db.touchpoints.map StrategyTouchpoint.id).Nodup
  below : ∀ tp ∈ db.touchpoints, tp.id < db.nextId

/-- What an accept that seeds does to the proposal and its calendar. `clears`
tells whether the calendars of the campaign's other proposals go. -/
structure Seeds (clears : Bool) (db db' : Db) (p : StrategyProposal) (touches : List PlannedTouchpoint) : Prop where
  proposals : db'.proposals = (db.acceptProposal p).proposals
  own : db'.calendarOf p.id = db.calendarOf p.id ++ touches
  cleared : clears = true → ∀ q ∈ db.proposals, q.campaignId = p.campaignId → q.id ≠ p.id → db'.calendarOf q.id = []
  kept : clears = false → ∀ id, id ≠ p.id → db'.calendarOf id = db.calendarOf id
  elsewhere : ∀ id, id ≠ p.id → (∀ q ∈ db.proposals, q.id = id → q.campaignId ≠ p.campaignId) →
    db'.calendarOf id = db.calendarOf id
  keys : TouchpointKeys db → TouchpointKeys db'
  planning : ∀ id, (db'.campaign? id).map Campaign.planning = (db.campaign? id).map Campaign.planning
  audiences : db'.audiences = db.audiences

/-- The added rows are the touches of their own proposal. -/
theorem calendarOf_of_rows {last : Db} {rows : List StrategyTouchpoint} {proposalId next : Uuid}
    {touches : List PlannedTouchpoint}
    (touchpoints : last.touchpoints = rows ++ touchpointRows proposalId next (touches.map PlannedTouchpoint.slot))
    (id : Uuid) : last.calendarOf id =
      (rows.filter (·.proposalId = id)).map StrategyTouchpoint.planned ++ if id = proposalId then touches else [] := by
  rw [Db.calendarOf, touchpoints, List.filter_append, List.map_append]
  congr 1
  by_cases own : id = proposalId
  · rw [if_pos own, List.filter_eq_self.mpr, touchpointRows_planned]
    exact fun tp member => decide_eq_true ((touchpointRows_proposal member).trans own.symm)
  · rw [if_neg own, List.filter_eq_nil_iff.mpr, List.map_nil]
    intro tp member
    rw [touchpointRows_proposal member]
    simpa using fun same : proposalId = id => own same.symm

/-- Some rows go and others are added under the next ids. -/
theorem TouchpointKeys.of_rows {db last : Db} (keys : TouchpointKeys db) {rows : List StrategyTouchpoint}
    (sub : rows.Sublist db.touchpoints) {proposalId : Uuid} {slots : List (String × Int × Int)}
    (touchpoints : last.touchpoints = rows ++ touchpointRows proposalId db.nextId slots)
    (nextId : last.nextId = db.nextId + slots.length) : TouchpointKeys last where
  nodup := by
    have rowIds := touchpointRows_ids proposalId db.nextId slots
    rw [touchpoints]
    refine nodup_keys_append (keys.nodup.sublist (sub.map _)) (rowIds ▸ List.nodup_range') fun tp old tp' new => ?_
    exact ((keys.below tp (sub.subset old)).trans_le (touchpointRows_fresh new).1).ne
  below tp member := by
    rw [nextId]
    rcases List.mem_append.mp (touchpoints ▸ member) with old | new
    · exact (keys.below tp (sub.subset old)).trans_le (Nat.le_add_right ..)
    · exact (touchpointRows_fresh new).2

/-- The rows of other proposals that `gone` names are deleted, the flag moves
and the planned touches are added. -/
theorem Seeds.of_rows {clears : Bool} {db last : Db} {p : StrategyProposal} {touches : List PlannedTouchpoint}
    (gone : List Uuid) (kept : p.id ∉ gone)
    (only : ∀ id ∈ gone, ∃ q ∈ db.proposals, q.id = id ∧ q.campaignId = p.campaignId)
    (all : clears = true → ∀ q ∈ db.proposals, q.campaignId = p.campaignId → q.id ≠ p.id → q.id ∈ gone)
    (none : clears = false → gone = [])
    (proposals : last.proposals = (db.acceptProposal p).proposals)
    (touchpoints : last.touchpoints = db.touchpoints.filter (·.proposalId ∉ gone) ++
      touchpointRows p.id db.nextId (touches.map PlannedTouchpoint.slot))
    (nextId : last.nextId = db.nextId + touches.length)
    (planning : ∀ id, (last.campaign? id).map Campaign.planning = (db.campaign? id).map Campaign.planning)
    (audiences : last.audiences = db.audiences) : Seeds clears db last p touches := by
  have split := calendarOf_of_rows touchpoints
  refine ⟨proposals, ?_, fun clearing q member sameCampaign differs => ?_, fun keeping id differs => ?_,
    fun id differs foreign => ?_, fun keys => ?_, planning, audiences⟩
  · rw [split, if_pos rfl, filter_key_of_not_mem _ kept]
    rfl
  · rw [split, if_neg differs, filter_key_of_mem _ (all clearing q member sameCampaign differs)]
    rfl
  · have stays : id ∉ gone := by
      rw [none keeping]
      exact List.not_mem_nil
    rw [split, if_neg differs, List.append_nil, filter_key_of_not_mem _ stays]
    rfl
  · have stays : id ∉ gone := by
      intro goes
      obtain ⟨q, member, same, sameCampaign⟩ := only id goes
      exact foreign q member same sameCampaign
    rw [split, if_neg differs, List.append_nil, filter_key_of_not_mem _ stays]
    rfl
  · refine keys.of_rows List.filter_sublist touchpoints ?_
    rw [List.length_map]
    exact nextId

/-- Touches added without a deletion. -/
theorem Seeds.added (db : Db) (p : StrategyProposal) (planned : List PlannedTouchpoint) :
    Seeds false db ((db.acceptProposal p).addTouchpoints p.id (planned.map PlannedTouchpoint.slot)) p planned := by
  rw [addTouchpoints_eq]
  refine .of_rows [] (List.not_mem_nil) (fun _ none => absurd none List.not_mem_nil) (fun none => by cases none)
    (fun _ => rfl) rfl ?_ ?_ (fun _ => rfl) rfl
  · have all : db.touchpoints.filter (·.proposalId ∉ ([] : List Uuid)) = db.touchpoints :=
      List.filter_eq_self.mpr fun _ _ => decide_eq_true List.not_mem_nil
    rw [all]
    rfl
  · exact congrArg (db.nextId + ·) (List.length_map ..)

theorem Seeds.of_campaign {clears : Bool} {mid : Db} {p : StrategyProposal} {touches : List PlannedTouchpoint}
    (seeds : Seeds clears db mid p touches) (id : Uuid) (status : CampaignStatus) (writer : Writer) :
    Seeds clears db (mid.writeStatus id status writer) p touches := by
  obtain ⟨touchpoints, proposals, audiences, nextId⟩ := writeStatus_calendar mid id status writer
  have calendars : ∀ other, (mid.writeStatus id status writer).calendarOf other = mid.calendarOf other := by
    intro other
    rw [Db.calendarOf, touchpoints]
    rfl
  refine ⟨proposals.trans seeds.proposals, ?_, ?_, ?_, ?_, fun keys => ?_, fun other => ?_,
    audiences.trans seeds.audiences⟩
  · rw [calendars]
    exact seeds.own
  · intro clearing q member sameCampaign differs
    rw [calendars]
    exact seeds.cleared clearing q member sameCampaign differs
  · intro keeping other differs
    rw [calendars]
    exact seeds.kept keeping other differs
  · intro other differs foreign
    rw [calendars]
    exact seeds.elsewhere other differs foreign
  · have kept := seeds.keys keys
    exact ⟨touchpoints ▸ kept.nodup, fun tp member => nextId ▸ kept.below tp (touchpoints ▸ member)⟩
  · rw [writeStatus_planning, seeds.planning]

section Requests

variable [PyText] {constraints : List TenantConstraint} {db db' : Db} {user : AppUser} {proposalId : Uuid} {now : Int}

/-- `set_strategy` has no hook: it writes the status at most. -/
theorem apply_setStrategy {c : Campaign} (built : c.status = .audienceBuilt)
    (done : apply db c "set_strategy" now = .ok db') :
    db' = db.writeStatus c.id .strategySet (.transition "set_strategy") := by
  have registered : campaignSm.find? (fun tr => tr.fromState = c.status ∧ tr.name = "set_strategy") =
      some { name := "set_strategy", fromState := .audienceBuilt, toState := .strategySet
             guard := some .hasAcceptedStrategy } := by
    rw [built]
    decide
  simp only [apply, registered, bind_eq_ok, orRaise_eq_ok, Option.some.injEq] at done
  obtain ⟨_, rfl, _, _, rest⟩ := done
  simpa [runOnEnter] using rest.symm

variable [CalendarFloat]

theorem calendarFor_eq_ok {slots : List (String × Int × Int)} {p : StrategyProposal}
    (found : db.proposals.find? (·.id = proposalId) = some p) :
    calendarFor constraints db proposalId = .ok slots ↔
      ∃ planned, seedCalendar constraints db p = .ok planned ∧ planned.map PlannedTouchpoint.slot = slots := by
  unfold calendarFor
  rw [found]
  simp only
  cases seedCalendar constraints db p with
  | error error => simp [Except.map]
  | ok planned => simp [Except.map]

/-- An accept of the API that returns has found the proposal accepted, or
seeds its calendar and drops those of the other versions. -/
theorem acceptStrategySeeded_cases (done : acceptStrategySeeded constraints db user proposalId now = .ok db') :
    ∃ p, db.proposals.find? (·.id = proposalId) = some p ∧
      ((p.isAccepted = true ∧ db' = db) ∨
        p.isAccepted = false ∧ UserRole.marketer.rank ≤ user.role.rank ∧
          (db.tenantCampaign? user p.campaignId).isSome ∧
          ∃ planned, seedCalendar constraints db p = .ok planned ∧ Seeds true db db' p planned) := by
  have inner := mapError_eq_ok.mp done
  simp only [acceptStrategy, bind_eq_ok, orRaise_eq_ok] at inner
  obtain ⟨_, ranked, p, found, rest⟩ := inner
  refine ⟨p, found, ?_⟩
  by_cases accepted : p.isAccepted = true
  · rw [if_pos accepted, pure_eq_ok] at rest
    exact Or.inl ⟨accepted, rest.symm⟩
  · rw [if_neg accepted] at rest
    simp only [bind_eq_ok, orRaise_eq_ok] at rest
    obtain ⟨c, campaign, rest⟩ := rest
    refine Or.inr ⟨by simpa using accepted, require_eq_ok.mp ranked, by rw [campaign]; rfl, ?_⟩
    split at rest
    · cases rest
    · rename_i slots calendar
      obtain ⟨planned, seeded, rfl⟩ := (calendarFor_eq_ok found).mp (mapError_eq_ok.mp calendar)
      refine ⟨planned, seeded, ?_⟩
      have rows := addTouchpoints_eq (({ db with
        touchpoints := db.touchpoints.filter (·.proposalId ∉
          (db.proposals.filter fun q => q.campaignId = p.campaignId ∧ q.id ≠ p.id).map StrategyProposal.id) } :
          Db).acceptProposal p) p.id (planned.map PlannedTouchpoint.slot)
      have added : Seeds true db ((({ db with
        touchpoints := db.touchpoints.filter (·.proposalId ∉
          (db.proposals.filter fun q => q.campaignId = p.campaignId ∧ q.id ≠ p.id).map StrategyProposal.id) } :
          Db).acceptProposal p).addTouchpoints p.id (planned.map PlannedTouchpoint.slot)) p planned := by
        rw [rows]
        refine .of_rows ((db.proposals.filter fun q => q.campaignId = p.campaignId ∧ q.id ≠ p.id).map
          StrategyProposal.id) ?_ (fun id listed => ?_) (fun _ q member sameCampaign differs => ?_)
          (fun none => by cases none) rfl rfl ?_ (fun _ => rfl) rfl
        · intro listed
          obtain ⟨q, other, same⟩ := List.mem_map.mp listed
          exact (of_decide_eq_true (List.mem_filter.mp other).2).2 same
        · obtain ⟨q, other, same⟩ := List.mem_map.mp listed
          have here := List.mem_filter.mp other
          exact ⟨q, here.1, same, (of_decide_eq_true here.2).1⟩
        · exact List.mem_map.mpr ⟨q, List.mem_filter.mpr ⟨member, decide_eq_true ⟨sameCampaign, differs⟩⟩, rfl⟩
        · exact congrArg (db.nextId + ·) (List.length_map ..)
      split at rest
      · rename_i built
        rw [apply_setStrategy built rest]
        exact added.of_campaign ..
      · rw [pure_eq_ok] at rest
        rw [← rest]
        exact added

omit [CalendarFloat] in
/-- A drag that returns has found the proposal of the touchpoint and leaves a
calendar that meets the rules. -/
theorem patchTouchpoint_cases {touchpointId : Uuid} {body : TouchpointPatch}
    (done : patchTouchpoint constraints db user touchpointId body = .ok db') :
    ∃ tp p c, db.touchpoints.find? (·.id = touchpointId) = some tp ∧
      db.proposals.find? (·.id = tp.proposalId) = some p ∧ db.campaign? p.campaignId = some c ∧
      db' = { db with
        touchpoints := updateWhere (·.id = tp.id) (fun row => { row with scheduledAt := body.scheduledAt })
          db.touchpoints } ∧
      MeetsCaps (hardCapsOf constraints c.tenantId) (db'.calendarOf p.id) := by
  simp only [patchTouchpoint, bind_eq_ok, orRaise_eq_ok, pure_eq_ok] at done
  obtain ⟨_, _, tp, found, p, parent, c, campaign, u, enforced, _, _, rfl⟩ := done
  have sameId : p.id = tp.proposalId := by simpa using List.find?_some parent
  refine ⟨tp, p, c, found, parent, (Option.filter_eq_some_iff.mp campaign).1, rfl, ?_⟩
  rw [sameId]
  exact enforceHardCaps_ok.mp (mapError_eq_ok.mp enforced)

end Requests

end MarketingAgents
