import MarketingAgents.Api.CalendarEdits
import MarketingAgents.Assistant.Tools

namespace MarketingAgents

open Lib PyText

namespace Assistant

variable [PyText] [CalendarFloat]

/-- The calendar of the proposal that `accept_strategy` takes. -/
def latestCalendar (constraints : List TenantConstraint) (db : Db) (campaignId : Uuid) :
    Except CalendarError (List PlannedTouchpoint) :=
  match latestUnaccepted db campaignId with
  | some p => seedCalendar constraints db p
  | none => .ok []

/-- `accept_strategy` with the calendar that it seeds. A failed insert takes the
transaction with it, after any other error the flag stays. -/
def acceptStrategySeeded (constraints : List TenantConstraint) (db : Db) (user : AppUser) (campaignId : Uuid)
    (confirm : Bool) : ToolRun :=
  let calendar := latestCalendar constraints db campaignId
  let done := acceptStrategy db user campaignId confirm
    ((calendar.map fun planned => planned.map PlannedTouchpoint.slot).mapError CalendarError.text)
  match calendar with
  | .error .unstored => (db, done.2)
  | _ => done

/-- The tool fails behind the flag, which the request then commits. -/
def unseedable (constraints : List TenantConstraint) (db : Db) (p : StrategyProposal) : Bool :=
  match seedCalendar constraints db p with
  | .ok _ | .error .unstored => false
  | .error _ => true

end Assistant

/-- An accept of a strategy on either path. -/
inductive AcceptOp where
  | api (user : AppUser) (proposalId : Uuid) (now : Int)
  | tool (user : AppUser) (campaignId : Uuid) (confirm : Bool)

namespace AcceptOp

variable [PyText] [CalendarFloat] (constraints : List TenantConstraint)

/-- The API rolls a failed request back; the request of a tool commits whatever the tool returns. -/
def step (db : Db) : AcceptOp → Db
  | .api user proposalId now => (acceptStrategySeeded constraints db user proposalId now).toOption.getD db
  | .tool user campaignId confirm => (Assistant.acceptStrategySeeded constraints db user campaignId confirm).1

/-- The proposal that a successful accept accepts. -/
def accepted (db : Db) : AcceptOp → Option StrategyProposal
  | .api user proposalId now =>
    match acceptStrategySeeded constraints db user proposalId now with
    | .ok _ => db.proposals.find? (·.id = proposalId)
    | .error _ => none
  | .tool user campaignId confirm =>
    match (Assistant.acceptStrategySeeded constraints db user campaignId confirm).2 with
    | .ok ⟨false⟩ => Assistant.latestUnaccepted db campaignId
    | _ => none

omit [PyText] [CalendarFloat] in
/-- The proposal that an accept sets out to seed. Beside an accepted version the tool does not get so far. -/
def seeds (db : Db) : AcceptOp → Option StrategyProposal
  | .api user proposalId _ =>
    if user.role.rank < UserRole.marketer.rank then none
    else (db.proposals.find? (·.id = proposalId)).filter fun p =>
      ¬ p.isAccepted ∧ (db.tenantCampaign? user p.campaignId).isSome
  | .tool user campaignId confirm =>
    if user.role.rank < UserRole.marketer.rank ∨ ¬ confirm then none
    else ((db.tenantCampaign? user campaignId).filter fun c => db.acceptedProposal? c.id = none).bind fun c =>
      Assistant.latestUnaccepted db c.id

omit [PyText] [CalendarFloat] in
def isTool : AcceptOp → Bool
  | .api .. => false
  | .tool .. => true

/-- What an accept needs: the tool is not left with a calendar that cannot be seeded. -/
def Clean (db : Db) (op : AcceptOp) : Prop :=
  ∀ p ∈ op.seeds db, ¬ (op.isTool ∧ Assistant.unseedable constraints db p)

instance (db : Db) (op : AcceptOp) : Decidable (op.Clean constraints db) :=
  inferInstanceAs (Decidable (∀ p ∈ op.seeds db, ¬ (op.isTool ∧ Assistant.unseedable constraints db p)))

/-- A successful accept leaves the touchpoints of one run of `generate_calendar`. -/
def OneCalendar (db : Db) (op : AcceptOp) : Prop :=
  ∀ p, op.accepted constraints db = some p →
    ∃ planned, seedCalendar constraints db p = .ok planned ∧ (op.step constraints db).calendarOf p.id = planned ∧
      ∀ c, db.campaign? p.campaignId = some c → MeetsCaps (hardCapsOf constraints c.tenantId) planned

end AcceptOp

section Accepts

variable [PyText] [CalendarFloat] {constraints : List TenantConstraint} {db db' : Db}

/-- A calendar reads the dates and the tenant of its campaign, the audiences and the payload. -/
theorem seedCalendar_congr {p q : StrategyProposal} (planning : ∀ id, (db'.campaign? id).map Campaign.planning =
    (db.campaign? id).map Campaign.planning) (audiences : db'.audiences = db.audiences)
    (sameCampaign : q.campaignId = p.campaignId) (samePayload : q.payload = p.payload) :
    seedCalendar constraints db' q = seedCalendar constraints db p := by
  unfold seedCalendar
  rw [sameCampaign, samePayload, audiences]
  have same := planning p.campaignId
  cases here : db.campaign? p.campaignId with
  | none =>
    rw [here, Option.map_none, Option.map_eq_none_iff] at same
    rw [same]
  | some c =>
    rw [here, Option.map_some] at same
    obtain ⟨c', found, equal⟩ := Option.map_eq_some_iff.mp same
    simp only [Campaign.planning, Prod.mk.injEq] at equal
    obtain ⟨sameId, tenant, opens, closes⟩ := equal
    rw [found]
    simp only [orRaise, bind, Except.bind, sameId, tenant, opens, closes]

/-- Every accepted proposal has the touchpoints of one run of `generate_calendar`, and no other has any. -/
structure CalendarsWhole (constraints : List TenantConstraint) (db : Db) : Prop where
  proposals : (db.proposals.map StrategyProposal.id).Nodup
  pending : ∀ p ∈ db.proposals, p.isAccepted = false → db.calendarOf p.id = []
  whole : ∀ p ∈ db.proposals, p.isAccepted = true →
    ∃ planned, seedCalendar constraints db p = .ok planned ∧ db.calendarOf p.id = planned

/-- An accept clears the calendars of the campaign's other versions, or finds none of them accepted. -/
theorem CalendarsWhole.seeds {clears : Bool} (holds : CalendarsWhole constraints db) {p : StrategyProposal}
    {planned : List PlannedTouchpoint} (member : p ∈ db.proposals) (fresh : p.isAccepted = false)
    (alone : clears = false → db.acceptedProposal? p.campaignId = none)
    (seeded : seedCalendar constraints db p = .ok planned) (effect : Seeds clears db db' p planned) :
    CalendarsWhole constraints db' := by
  have empty := holds.pending p member fresh
  refine ⟨?_, fun q' listed pending => ?_, fun q' listed accepted => ?_⟩
  · rw [effect.proposals, acceptProposal_ids]
    exact holds.proposals
  · obtain ⟨q, here, sameId, _, _, flag⟩ := mem_acceptProposal (effect.proposals ▸ listed)
    rw [sameId]
    by_cases ours : q.campaignId = p.campaignId
    · rw [if_pos ours, pending] at flag
      have differs : q.id ≠ p.id := of_decide_eq_false flag.symm
      cases clears with
      | true => exact effect.cleared rfl q here ours differs
      | false =>
        -- the version was not accepted before, and its calendar is not touched
        have waits := List.find?_eq_none.mp (alone rfl) q here
        rw [effect.kept rfl q.id differs]
        exact holds.pending q here (by simpa [ours] using waits)
    · rw [if_neg ours, pending] at flag
      rw [effect.foreign holds.proposals member here ours]
      exact holds.pending q here flag.symm
  · obtain ⟨q, here, sameId, sameCampaign, samePayload, flag⟩ := mem_acceptProposal (effect.proposals ▸ listed)
    rw [seedCalendar_congr effect.planning effect.audiences sameCampaign samePayload, sameId]
    by_cases ours : q.campaignId = p.campaignId
    · rw [if_pos ours, accepted] at flag
      have same : q = p := eq_of_key_eq holds.proposals here member (of_decide_eq_true flag.symm)
      subst same
      exact ⟨planned, seeded, by rw [effect.own, empty, List.nil_append]⟩
    · rw [if_neg ours, accepted] at flag
      rw [effect.foreign holds.proposals member here ours]
      exact holds.whole q here flag.symm

namespace Assistant

variable {user : AppUser} {campaignId : Uuid} {confirm : Bool}

omit [PyText] [CalendarFloat] in
theorem latestUnaccepted_mem {p : StrategyProposal} (latest : latestUnaccepted db campaignId = some p) :
    p ∈ db.proposals ∧ p.campaignId = campaignId ∧ p.isAccepted = false := by
  have listed : p ∈ db.proposals.filter fun p => p.campaignId = campaignId ∧ p.isAccepted = false :=
    (List.perm_insertionSort _ _).subset (List.mem_of_mem_head? latest)
  obtain ⟨member, holds⟩ := List.mem_filter.mp listed
  exact ⟨member, of_decide_eq_true holds⟩

omit [CalendarFloat] in
/-- The tool stops before its writes, or has the proposal to seed. -/
theorem acceptStrategy_cases (db : Db) (user : AppUser) (campaignId : Uuid) (confirm : Bool)
    (calendar : Except String (List (String × Int × Int))) :
    ((acceptStrategy db user campaignId confirm calendar).1 = db ∧
      (acceptStrategy db user campaignId confirm calendar).2 ≠ .ok ⟨false⟩) ∨
    ∃ c p, ¬ user.role.rank < UserRole.marketer.rank ∧ confirm = true ∧
      db.tenantCampaign? user campaignId = some c ∧ db.acceptedProposal? c.id = none ∧ latestUnaccepted db c.id = some p ∧
      acceptStrategy db user campaignId confirm calendar = match calendar with
        | .error message => refuse (db.acceptProposal p) ("Calendar seeding failed: " ++ message)
        | .ok slots =>
          let db := (db.acceptProposal p).addTouchpoints p.id slots
          reply (if c.status = .audienceBuilt ∨ c.status = .drafted then
            db.writeStatus c.id .strategySet .acceptStrategy else db) := by
  unfold acceptStrategy withCampaign
  by_cases rank : user.role.rank < UserRole.marketer.rank
  · rw [if_pos rank]
    exact Or.inl ⟨rfl, by simp [refuse]⟩
  · rw [if_neg rank]
    cases found : db.tenantCampaign? user campaignId with
    | none => exact Or.inl ⟨rfl, by simp [refuse]⟩
    | some c =>
      cases latest : latestUnaccepted db c.id with
      | none =>
        simp only [latest]
        exact Or.inl ⟨rfl, by simp [refuse]⟩
      | some p =>
        cases confirm with
        | false =>
          simp only [latest]
          exact Or.inl ⟨rfl, by simp [confirmation]⟩
        | true =>
          simp only [latest]
          cases beside : db.acceptedProposal? c.id with
          | some q => exact Or.inl ⟨rfl, by simp⟩
          | none => exact Or.inr ⟨c, p, rank, trivial, rfl, beside, latest, by cases calendar <;> rfl⟩

/-- The tool leaves the tables alone, or fails behind the flag, or seeds the calendar. -/
theorem acceptStrategySeeded_cases :
    ((acceptStrategySeeded constraints db user campaignId confirm).1 = db ∧
      (acceptStrategySeeded constraints db user campaignId confirm).2 ≠ .ok ⟨false⟩) ∨
    ∃ p, (AcceptOp.tool user campaignId confirm).seeds db = some p ∧ latestUnaccepted db campaignId = some p ∧
      db.acceptedProposal? campaignId = none ∧
      (unseedable constraints db p ∨
        ∃ planned, seedCalendar constraints db p = .ok planned ∧
          Seeds false db (acceptStrategySeeded constraints db user campaignId confirm).1 p planned) := by
  have cases_ := acceptStrategy_cases db user campaignId confirm
    (((latestCalendar constraints db campaignId).map fun planned => planned.map PlannedTouchpoint.slot).mapError
      CalendarError.text)
  unfold acceptStrategySeeded
  rcases cases_ with ⟨same, failed⟩ | ⟨c, p, rank, confirmed, found, alone, latest, done⟩
  · refine Or.inl ?_
    dsimp only
    split
    · exact ⟨rfl, failed⟩
    · exact ⟨same, failed⟩
  · have sameId : c.id = campaignId := by
      simpa using List.find?_some (Option.filter_eq_some_iff.mp found).1
    have reaches : (AcceptOp.tool user campaignId confirm).seeds db = some p := by
      rw [AcceptOp.seeds, if_neg (by simp [rank, confirmed]), found]
      simpa [Option.filter, alone] using latest
    rw [sameId] at latest alone
    have calendar : latestCalendar constraints db campaignId = seedCalendar constraints db p := by
      rw [latestCalendar, latest]
    rw [calendar] at done ⊢
    cases outcome : seedCalendar constraints db p with
    | error error =>
      rw [outcome] at done
      by_cases gone : error = .unstored
      · subst gone
        refine Or.inl ⟨rfl, ?_⟩
        dsimp only
        rw [done]
        simp [Except.map, Except.mapError, refuse]
      · refine Or.inr ⟨p, reaches, latest, alone, Or.inl ?_⟩
        unfold unseedable
        rw [outcome]
        cases error with
        | unstored => exact absurd rfl gone
        | seed message => rfl
        | hardCaps violations => rfl
        | raised => rfl
    | ok planned =>
      rw [outcome] at done
      refine Or.inr ⟨p, reaches, latest, alone, Or.inr ⟨planned, outcome, ?_⟩⟩
      dsimp only
      rw [done]
      dsimp only [Except.map, Except.mapError, reply]
      have added := Seeds.added db p planned
      split
      · exact added.of_campaign ..
      · exact added

end Assistant

namespace AcceptOp

/-- A permitted accept keeps the calendars of the accepted proposals whole, and
leaves the accepted proposal with the touchpoints of one run. -/
theorem step_whole (holds : CalendarsWhole constraints db) {op : AcceptOp} (clean : op.Clean constraints db) :
    CalendarsWhole constraints (op.step constraints db) ∧ op.OneCalendar constraints db := by
  have meets : ∀ {p : StrategyProposal} {planned}, seedCalendar constraints db p = .ok planned →
      ∀ c, db.campaign? p.campaignId = some c → MeetsCaps (hardCapsOf constraints c.tenantId) planned :=
    fun seeded c campaign => seedCalendar_meetsCaps seeded campaign
  cases op with
  | api user proposalId now =>
    cases outcome : acceptStrategySeeded constraints db user proposalId now with
    | error error =>
      refine ⟨?_, fun p accepted => ?_⟩
      · simp only [step, outcome, Except.toOption, Option.getD_none]
        exact holds
      · simp [AcceptOp.accepted, outcome] at accepted
    | ok db' =>
      have reached : (AcceptOp.api user proposalId now).step constraints db = db' := by
        simp only [step, outcome, Except.toOption, Option.getD_some]
      have single : ∀ {p q}, (AcceptOp.api user proposalId now).accepted constraints db = some q →
          db.proposals.find? (·.id = proposalId) = some p → q = p := by
        intro p q accepted found
        simp only [AcceptOp.accepted, outcome, found, Option.some.injEq] at accepted
        exact accepted.symm
      obtain ⟨p, found, ⟨flag, same⟩ | ⟨flag, ranked, visible, planned, seeded, effect⟩⟩ :=
        acceptStrategySeeded_cases outcome
      · -- the accept of an accepted proposal returns the calendar of an earlier accept
        rw [reached, same]
        refine ⟨holds, fun q accepted => ?_⟩
        rw [single accepted found, reached, same]
        obtain ⟨planned, seeded, stored⟩ := holds.whole p (List.mem_of_find?_eq_some found) flag
        exact ⟨planned, seeded, stored, meets seeded⟩
      · have member := List.mem_of_find?_eq_some found
        have empty := holds.pending p member flag
        rw [reached]
        refine ⟨holds.seeds member flag (fun keeps => by cases keeps) seeded effect, fun q accepted => ?_⟩
        rw [single accepted found, reached]
        exact ⟨planned, seeded, by rw [effect.own, empty, List.nil_append], meets seeded⟩
  | tool user campaignId confirm =>
    have told : ∀ {q}, (AcceptOp.tool user campaignId confirm).accepted constraints db = some q →
        (Assistant.acceptStrategySeeded constraints db user campaignId confirm).2 = .ok ⟨false⟩ ∧
          Assistant.latestUnaccepted db campaignId = some q := by
      intro q accepted
      unfold AcceptOp.accepted at accepted
      dsimp only at accepted
      split at accepted
      · rename_i done
        exact ⟨done, accepted⟩
      · cases accepted
    have moves : (AcceptOp.tool user campaignId confirm).step constraints db =
        (Assistant.acceptStrategySeeded constraints db user campaignId confirm).1 := rfl
    rcases Assistant.acceptStrategySeeded_cases with ⟨same, failed⟩ | ⟨p, reaches, latest, alone, stranded | rest⟩
    · rw [moves, same]
      exact ⟨holds, fun q accepted => absurd (told accepted).1 failed⟩
    · -- excluded: the flag without its calendar
      exact absurd ⟨rfl, stranded⟩ (clean p reaches)
    · obtain ⟨planned, seeded, effect⟩ := rest
      obtain ⟨member, ours, flag⟩ := Assistant.latestUnaccepted_mem latest
      have empty := holds.pending p member flag
      refine ⟨holds.seeds member flag (fun _ => ours.symm ▸ alone) seeded effect, fun q accepted => ?_⟩
      have same : q = p := Option.some.inj ((told accepted).2.symm.trans latest)
      rw [same, moves]
      exact ⟨planned, seeded, by rw [effect.own, empty, List.nil_append], meets seeded⟩

/-- From proposals none of which is accepted or has touchpoints: as long as no
tool fails to seed behind the flag, every successful accept leaves exactly the
touchpoints of one run of `generate_calendar`. -/
theorem accepts_leave_one_calendar (constraints : List TenantConstraint) (db : Db)
    (keys : (db.proposals.map StrategyProposal.id).Nodup)
    (start : ∀ p ∈ db.proposals, p.isAccepted = false ∧ db.calendarOf p.id = [])
    (ops : List AcceptOp) (clean : Along (step constraints) (fun db op => op.Clean constraints db) db ops) :
    Along (step constraints) (fun db op => op.OneCalendar constraints db) db ops := by
  have initially : CalendarsWhole constraints db :=
    ⟨keys, fun p member _ => (start p member).2, fun p member accepted => by simp [(start p member).1] at accepted⟩
  exact clean.imp initially (fun _ _ holds clean => (step_whole holds clean).1)
    fun _ _ holds clean => (step_whole holds clean).2

end AcceptOp

end Accepts

namespace AcceptOp

local instance acceptsText : PyText := PyText.plain

local instance acceptsFloat : CalendarFloat := CalendarFloat.plain

private def strategist : AppUser := ⟨9, 1, .marketer⟩

private def emailThroughout : Dict String Json :=
  [("channels", .arr [.obj [("platform", .str "email"), ("allocation_pct", .str "100")]])]

/-- A campaign of four weeks with two versions of its strategy. -/
private def versions : Db where
  campaigns := [⟨0, 1, "spring", .audienceBuilt, 100, "EUR", 0, 27, [], none⟩]
  audiences := [⟨8, 1, 0, 0⟩]
  proposals := [⟨50, 0, 1, emailThroughout, false⟩, ⟨51, 0, 2, emailThroughout, false⟩]
  nextId := 60

/-- A tool accept, two of the API that replace its version, and a tool accept
beside the accepted version, which the unique index refuses. -/
theorem accepts_leave_one_calendar_again :
    Along (step []) (fun db op => op.OneCalendar [] db) versions
        [.tool strategist 0 true, .api strategist 50 2, .api strategist 51 3, .tool strategist 0 true] ∧
      ((AcceptOp.tool strategist 0 true).accepted [] versions).isSome ∧
      (AcceptOp.tool strategist 0 true).accepted [] ((AcceptOp.tool strategist 0 true).step [] versions) = none :=
  ⟨accepts_leave_one_calendar [] versions (by decide) (by decide) _ (by decide +kernel), by decide +kernel,
    by decide +kernel⟩

/-- Without an audience the tool fails behind the flag, and the API then returns
the proposal as accepted. -/
theorem accept_leaves_no_calendar :
    ¬ Along (step []) (fun db op => op.OneCalendar [] db) { versions with audiences := [] }
      [.tool strategist 0 true, .api strategist 51 1] := by
  rintro ⟨_, returned, _⟩
  obtain ⟨planned, seeded, _⟩ := returned ⟨51, 0, 2, emailThroughout, true⟩ (by decide +kernel)
  have none : seedCalendar [] ((AcceptOp.tool strategist 0 true).step [] { versions with audiences := [] })
      ⟨51, 0, 2, emailThroughout, true⟩ = .error (.seed "no audience materialised for this campaign") := by
    decide +kernel
  rw [none] at seeded
  cases seeded

end AcceptOp

end MarketingAgents
