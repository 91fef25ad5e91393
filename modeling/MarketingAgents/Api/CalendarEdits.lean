import MarketingAgents.Api.Strategy

namespace MarketingAgents

open Lib PyText

/-- The requests of the API that write calendars. -/
inductive CalendarOp where
  | accept (user : AppUser) (proposalId : Uuid) (now : Int)
  | patch (user : AppUser) (touchpointId : Uuid) (body : TouchpointPatch)

/-- What the calendars keep to: only accepted proposals have one, and it meets
the rules of the tenant. -/
structure CalendarsHold [PyText] (constraints : List TenantConstraint) (db : Db) : Prop where
  keys : TouchpointKeys db
  proposals : (db.proposals.map StrategyProposal.id).Nodup
  pending : ∀ p ∈ db.proposals, p.isAccepted = false → db.calendarOf p.id = []
  capped : ∀ p ∈ db.proposals, p.isAccepted = true → ∀ c, db.campaign? p.campaignId = some c →
    MeetsCaps (hardCapsOf constraints c.tenantId) (db.calendarOf p.id)

theorem mem_acceptProposal {db : Db} {p q' : StrategyProposal} (member : q' ∈ (db.acceptProposal p).proposals) :
    ∃ q ∈ db.proposals, q'.id = q.id ∧ q'.campaignId = q.campaignId ∧ q'.payload = q.payload ∧
      q'.isAccepted = if q.campaignId = p.campaignId then decide (q.id = p.id) else q.isAccepted := by
  obtain ⟨q, here, rfl⟩ := List.mem_map.mp member
  refine ⟨q, here, ?_⟩
  by_cases same : q.campaignId = p.campaignId
  · simp only [if_pos same, and_self]
  · simp only [if_neg same, and_self]

theorem acceptProposal_ids (db : Db) (p : StrategyProposal) :
    (db.acceptProposal p).proposals.map StrategyProposal.id = db.proposals.map StrategyProposal.id := by
  simp only [Db.acceptProposal, List.map_map]
  refine List.map_congr_left fun q _ => ?_
  simp only [Function.comp_apply]
  split <;> rfl

/-- The calendars of other campaigns stay. -/
theorem Seeds.foreign {clears : Bool} {db db' : Db} {p q : StrategyProposal} {touches : List PlannedTouchpoint}
    (effect : Seeds clears db db' p touches) (keys : (db.proposals.map StrategyProposal.id).Nodup)
    (member : p ∈ db.proposals) (here : q ∈ db.proposals) (ours : q.campaignId ≠ p.campaignId) :
    db'.calendarOf q.id = db.calendarOf q.id := by
  refine effect.elsewhere q.id (fun same => ours ?_) fun row listed same => ?_
  · rw [eq_of_key_eq keys here member same]
  · rw [eq_of_key_eq keys listed here same]
    exact ours

theorem planning_campaign {db db' : Db} (planning : ∀ id, (db'.campaign? id).map Campaign.planning =
    (db.campaign? id).map Campaign.planning) {id : Uuid} {c' : Campaign} (found : db'.campaign? id = some c') :
    ∃ c, db.campaign? id = some c ∧ c.planning = c'.planning := by
  have same := planning id
  rw [found, Option.map_some] at same
  obtain ⟨c, here, equal⟩ := Option.map_eq_some_iff.mp same.symm
  exact ⟨c, here, equal⟩

section Edits

variable [PyText] {constraints : List TenantConstraint} {db db' : Db}

theorem meetsCaps_nil (caps : List (Dict String Json)) : MeetsCaps caps [] := fun _ _ _ => Nat.zero_le _

namespace CalendarsHold

theorem seeds (holds : CalendarsHold constraints db) {p : StrategyProposal} {planned : List PlannedTouchpoint}
    (member : p ∈ db.proposals) (fresh : p.isAccepted = false) (effect : Seeds true db db' p planned)
    (meets : ∀ c, db.campaign? p.campaignId = some c → MeetsCaps (hardCapsOf constraints c.tenantId) planned) :
    CalendarsHold constraints db' := by
  have single : ∀ q ∈ db.proposals, q.id = p.id → q = p :=
    fun q here same => eq_of_key_eq holds.proposals here member same
  have foreign : ∀ q ∈ db.proposals, q.campaignId ≠ p.campaignId → db'.calendarOf q.id = db.calendarOf q.id :=
    fun q here ours => effect.foreign holds.proposals member here ours
  refine ⟨effect.keys holds.keys, ?_, fun q' listed pending => ?_, fun q' listed accepted c' found => ?_⟩
  · rw [effect.proposals]
    rw [acceptProposal_ids]
    exact holds.proposals
  · obtain ⟨q, here, sameId, _, _, flag⟩ := mem_acceptProposal (effect.proposals ▸ listed)
    rw [sameId]
    by_cases ours : q.campaignId = p.campaignId
    · rw [if_pos ours, pending] at flag
      exact effect.cleared rfl q here ours (of_decide_eq_false flag.symm)
    · rw [if_neg ours, pending] at flag
      rw [foreign q here ours]
      exact holds.pending q here flag.symm
  · obtain ⟨q, here, sameId, sameCampaign, _, flag⟩ := mem_acceptProposal (effect.proposals ▸ listed)
    obtain ⟨c, campaign, planning⟩ := planning_campaign effect.planning found
    have tenant : c.tenantId = c'.tenantId := congrArg (fun plan => plan.2.1) planning
    rw [sameId, ← tenant]
    rw [sameCampaign] at campaign
    by_cases ours : q.campaignId = p.campaignId
    · rw [if_pos ours, accepted] at flag
      have same := single q here (of_decide_eq_true flag.symm)
      subst same
      rw [effect.own, holds.pending q here fresh, List.nil_append]
      exact meets c campaign
    · rw [if_neg ours, accepted] at flag
      rw [foreign q here ours]
      exact holds.capped q here flag.symm c campaign

/-- A move of one touchpoint changes no other proposal's calendar. -/
theorem moved (holds : CalendarsHold constraints db) {tp : StrategyTouchpoint} {p : StrategyProposal} {c : Campaign}
    {scheduledAt : Int} (stored : tp ∈ db.touchpoints) (member : p ∈ db.proposals) (parent : p.id = tp.proposalId)
    (campaign : db.campaign? p.campaignId = some c)
    (effect : db' = { db with
      touchpoints := updateWhere (·.id = tp.id) (fun row => { row with scheduledAt := scheduledAt }) db.touchpoints })
    (meets : MeetsCaps (hardCapsOf constraints c.tenantId) (db'.calendarOf p.id)) : CalendarsHold constraints db' := by
  have rows : db'.touchpoints =
      updateWhere (·.id = tp.id) (fun row => { row with scheduledAt := scheduledAt }) db.touchpoints := by rw [effect]
  have others : ∀ id, id ≠ p.id → db'.calendarOf id = db.calendarOf id := by
    intro id differs
    rw [Db.calendarOf, Db.calendarOf, rows]
    refine congrArg _ (filter_updateWhere fun row here hit => ?_)
    have same : row = tp := eq_of_key_eq holds.keys.nodup here stored (of_decide_eq_true hit)
    have elsewhere : row.proposalId ≠ id := by
      rw [same, ← parent]
      exact fun equal => differs equal.symm
    exact ⟨decide_eq_false elsewhere, decide_eq_false elsewhere⟩
  have listed : db.calendarOf p.id ≠ [] := by
    have mem : tp.planned ∈ db.calendarOf p.id :=
      List.mem_map_of_mem (List.mem_filter.mpr ⟨stored, decide_eq_true parent.symm⟩)
    exact List.ne_nil_of_mem mem
  refine ⟨⟨?_, fun row here => ?_⟩, by rw [effect]; exact holds.proposals, fun q here pending => ?_,
    fun q here accepted d found => ?_⟩
  · have ids : db'.touchpoints.map StrategyTouchpoint.id = db.touchpoints.map StrategyTouchpoint.id := by
      rw [rows]
      exact updateWhere_keys StrategyTouchpoint.id db.touchpoints fun _ _ => rfl
    rw [ids]
    exact holds.keys.nodup
  · rw [effect]
    rcases mem_updateWhere.mp (rows ▸ here) with ⟨old, there, _, rfl⟩ | ⟨there, _⟩
    · exact holds.keys.below old there
    · exact holds.keys.below row there
  · rw [effect] at here
    have empty := holds.pending q here pending
    by_cases same : q.id = p.id
    · rw [same] at empty
      exact absurd empty listed
    · rw [others q.id same, empty]
  · rw [effect] at here found
    by_cases same : q.id = p.id
    · have equal : q = p := eq_of_key_eq holds.proposals here member same
      subst equal
      have sameCampaign : d = c := Option.some.inj (found.symm.trans campaign)
      rw [sameCampaign]
      exact meets
    · rw [others q.id same]
      exact holds.capped q here accepted d found

end CalendarsHold

variable [CalendarFloat]

theorem seedCalendar_meetsCaps {p : StrategyProposal} {planned : List PlannedTouchpoint} {c : Campaign}
    (seeded : seedCalendar constraints db p = .ok planned) (campaign : db.campaign? p.campaignId = some c) :
    MeetsCaps (hardCapsOf constraints c.tenantId) planned := by
  simp only [seedCalendar, bind_eq_ok, orRaise_eq_ok, pure_eq_ok] at seeded
  obtain ⟨c', found, _, _, touches, generated, _, _, rfl⟩ := seeded
  cases campaign.symm.trans found
  exact generateCalendar_meetsCaps generated

namespace CalendarOp

def request (constraints : List TenantConstraint) (db : Db) : CalendarOp → Except AppError Db
  | .accept user proposalId now => acceptStrategySeeded constraints db user proposalId now
  | .patch user touchpointId body => patchTouchpoint constraints db user touchpointId body

/-- A request that raises is rolled back. -/
def step (constraints : List TenantConstraint) (db : Db) (op : CalendarOp) : Db :=
  (op.request constraints db).toOption.getD db

theorem step_failed {op : CalendarOp} {error : AppError} (failed : op.request constraints db = .error error) :
    op.step constraints db = db := by
  rw [step, failed]
  rfl

theorem request_holds (holds : CalendarsHold constraints db) {op : CalendarOp}
    (done : op.request constraints db = .ok db') : CalendarsHold constraints db' := by
  cases op with
  | accept user proposalId now =>
    obtain ⟨p, found, ⟨_, rfl⟩ | ⟨fresh, _, _, planned, seeded, effect⟩⟩ := acceptStrategySeeded_cases done
    · exact holds
    · exact holds.seeds (List.mem_of_find?_eq_some found) fresh effect
        fun c campaign => seedCalendar_meetsCaps seeded campaign
  | patch user touchpointId body =>
    obtain ⟨tp, p, c, found, parent, campaign, effect, meets⟩ := patchTouchpoint_cases done
    have sameId : p.id = tp.proposalId := by simpa using List.find?_some parent
    exact holds.moved (List.mem_of_find?_eq_some found) (List.mem_of_find?_eq_some parent) sameId campaign effect meets

theorem step_holds (holds : CalendarsHold constraints db) (op : CalendarOp) :
    CalendarsHold constraints (op.step constraints db) := by
  cases outcome : op.request constraints db with
  | error error =>
    rw [step_failed outcome]
    exact holds
  | ok db' =>
    simp only [step, outcome, Except.toOption, Option.getD_some]
    exact request_holds holds outcome

/-- From any proposals without calendars, after any accepts and drags: a
proposal that is not accepted has no touchpoints, an accepted one keeps to
every rule of its tenant, and a request that fails changes nothing. -/
theorem hard_caps_hold_under_edits (constraints : List TenantConstraint) (db : Db) (start : db.touchpoints = [])
    (keys : (db.proposals.map StrategyProposal.id).Nodup) (ops : List CalendarOp) :
    (∀ p ∈ (run (step constraints) db ops).proposals, p.isAccepted = false →
      ∀ tp ∈ (run (step constraints) db ops).touchpoints, tp.proposalId ≠ p.id) ∧
    (∀ p ∈ (run (step constraints) db ops).proposals, p.isAccepted = true →
      ∀ c, (run (step constraints) db ops).campaign? p.campaignId = some c →
        MeetsCaps (hardCapsOf constraints c.tenantId) ((run (step constraints) db ops).calendarOf p.id)) ∧
    Along (step constraints) (fun db op => ∀ error, op.request constraints db = .error error →
      op.step constraints db = db) db ops := by
  have empty : ∀ id, db.calendarOf id = [] := by
    intro id
    rw [Db.calendarOf, start, List.filter_nil, List.map_nil]
  have initially : CalendarsHold constraints db := by
    refine ⟨⟨by rw [start]; exact List.nodup_nil, fun tp member => ?_⟩, keys, fun p _ _ => empty p.id,
      fun p _ _ c _ => ?_⟩
    · rw [start] at member
      cases member
    · rw [empty]
      exact meetsCaps_nil _
  have holds := run_invariant initially (fun db op holds => step_holds holds op) ops
  refine ⟨fun p member pending tp stored owned => ?_, holds.capped, ?_⟩
  · have none := holds.pending p member pending
    rw [Db.calendarOf, List.map_eq_nil_iff, List.filter_eq_nil_iff] at none
    exact none tp stored (decide_eq_true owned)
  · exact Along.of_forall (fun db op error failed => step_failed failed) db ops

end CalendarOp

end Edits

namespace CalendarOp

local instance editsText : PyText := PyText.plain

local instance editsFloat : CalendarFloat := CalendarFloat.plain

private def marketer : AppUser := ⟨9, 1, .marketer⟩

private def emailOnly : Dict String Json :=
  [("channels", .arr [.obj [("platform", .str "email"), ("allocation_pct", .str "100")]])]

/-- A campaign of four weeks with two versions of its strategy. -/
private def proposed : Db where
  campaigns := [⟨0, 1, "spring", .audienceBuilt, 100, "EUR", 0, 27, [], none⟩]
  audiences := [⟨8, 1, 0, 0⟩]
  proposals := [⟨50, 0, 1, emailOnly, false⟩, ⟨51, 0, 2, emailOnly, false⟩]
  nextId := 60

private def oneEmailAWeek : List TenantConstraint :=
  [⟨1, "hard_cap", [("platform", .str "email"), ("per", .str "week"), ("limit", .int 1)]⟩]

/-- The first drag would put two emails into one week and fails, the second does not. -/
private def edits : List CalendarOp :=
  [.accept marketer 51 1, .patch marketer 61 ⟨days 2, true⟩, .patch marketer 61 ⟨days 8, true⟩]

theorem hard_caps_hold_under_edits_dragged :
    ((run (step oneEmailAWeek) proposed edits).touchpoints.map fun tp => (tp.id, tp.proposalId)) =
        [(60, 51), (61, 51), (62, 51), (63, 51)] ∧
      ((run (step oneEmailAWeek) proposed edits).touchpoints.map fun tp => tp.scheduledAt) =
        [32400000000, days 8, days 18 + 32400000000, days 27 + 32400000000] ∧
      ∀ p ∈ (run (step oneEmailAWeek) proposed edits).proposals, p.isAccepted = false →
        ∀ tp ∈ (run (step oneEmailAWeek) proposed edits).touchpoints, tp.proposalId ≠ p.id :=
  ⟨by decide +kernel, by decide +kernel, (hard_caps_hold_under_edits oneEmailAWeek proposed rfl (by decide) edits).1⟩

end CalendarOp

end MarketingAgents
