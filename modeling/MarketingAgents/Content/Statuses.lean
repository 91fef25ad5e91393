import MarketingAgents.Content.System

namespace MarketingAgents

open Lib PyText

/-- The writes, newest first, lead from `drafted` to the status, each from
where the one before it ended. -/
def LeadsTo : List StatusWrite → CampaignStatus → Prop
  | [], status => status = .drafted
  | w :: older, status => w.after = status ∧ LeadsTo older w.before

def Db.writesOf (db : Db) (campaignId : Uuid) : List StatusWrite :=
  db.statusWrites.filter fun w => w.campaignId = campaignId

/-- The writes to the status, and nothing else, account for where the campaigns stand. -/
structure Accounted (db : Db) : Prop where
  permitted : ∀ w ∈ db.statusWrites, Permitted w.before w.after w.writer
  below : ∀ w ∈ db.statusWrites, w.campaignId < db.nextId
  leadsTo : ∀ c ∈ db.campaigns, LeadsTo (db.writesOf c.id) c.status

theorem Accounted.of_same {db db' : Db} (accounted : Accounted db) (campaigns : db'.campaigns = db.campaigns)
    (writes : db'.statusWrites = db.statusWrites) (nextId : db.nextId ≤ db'.nextId) : Accounted db' where
  permitted := writes ▸ accounted.permitted
  below w member := (accounted.below w (writes ▸ member)).trans_le nextId
  leadsTo := by
    unfold Db.writesOf
    rw [campaigns, writes]
    exact accounted.leadsTo

theorem Accounted.edit {db : Db} (accounted : Accounted db) {c c' : Campaign} (member : c ∈ db.campaigns)
    (sameId : c'.id = c.id) (sameStatus : c'.status = c.status) : Accounted (db.setCampaign c') where
  permitted := accounted.permitted
  below := accounted.below
  leadsTo := by
    intro d dMember
    rcases mem_updateWhere.mp dMember with ⟨_, _, _, rfl⟩ | ⟨stays, _⟩
    · have old := accounted.leadsTo c member
      rw [← sameStatus, ← sameId] at old
      exact old
    · exact accounted.leadsTo d stays

theorem Accounted.found {db : Db} (accounted : Accounted db) {c : Campaign} (drafted : c.status = .drafted)
    (fresh : c.id = db.nextId) :
    Accounted { db with campaigns := db.campaigns ++ [c], nextId := db.nextId + 1 } where
  permitted := accounted.permitted
  below w member := (accounted.below w member).trans (Nat.lt_succ_self _)
  leadsTo := by
    intro d member
    rcases List.mem_append.mp member with old | new
    · exact accounted.leadsTo d old
    · have none : db.writesOf c.id = [] := by
        refine List.filter_eq_nil_iff.mpr fun w listed same => ?_
        have equal : w.campaignId = c.id := by simpa using same
        exact (accounted.below w listed).ne (equal.trans fresh)
      rw [List.mem_singleton.mp new]
      change LeadsTo (db.writesOf c.id) c.status
      rw [none]
      exact drafted

theorem Accounted.write {db : Db} (accounted : Accounted db) (wf : db.Wf) {c : Campaign} {after : CampaignStatus}
    {writer : Writer} (found : db.campaign? c.id = some c) (permitted : Permitted c.status after writer) :
    Accounted (db.writeStatus c.id after writer) := by
  have member := (Db.campaign?_mem found).1
  rw [writeStatus_eq found]
  refine ⟨fun w listed => ?_, fun w listed => ?_, fun d dMember => ?_⟩
  · rcases List.mem_cons.mp listed with rfl | old
    · exact permitted
    · exact accounted.permitted w old
  · rcases List.mem_cons.mp listed with rfl | old
    · exact wf.campaignsBelow c member
    · exact accounted.below w old
  · rcases mem_updateWhere.mp dMember with ⟨_, _, _, rfl⟩ | ⟨stays, miss⟩
    · have grown : Db.writesOf { db.setCampaign { c with status := after } with
          statusWrites := ⟨c.id, c.status, after, writer⟩ :: db.statusWrites } c.id =
          ⟨c.id, c.status, after, writer⟩ :: db.writesOf c.id := List.filter_cons_of_pos (by simp)
      rw [grown]
      exact ⟨rfl, accounted.leadsTo c member⟩
    · have other : c.id ≠ d.id := fun same => by simp [same] at miss
      have kept : Db.writesOf { db.setCampaign { c with status := after } with
          statusWrites := ⟨c.id, c.status, after, writer⟩ :: db.statusWrites } d.id = db.writesOf d.id :=
        List.filter_cons_of_neg (by simpa using other)
      rw [kept]
      exact accounted.leadsTo d stays

section Runs

variable [PyText] {db : Db}

theorem Accounted.move {l : Licence} {db' : Db} (move : Move l db db') (wf : db.Wf) (accounted : Accounted db) :
    Accounted db' := by
  cases move with
  | revise rows => exact accounted.of_same rows.campaigns rows.statusWrites rows.nextId
  | edit member sameId sameStatus => exact accounted.edit member sameId sameStatus
  | create unshipped => exact accounted.of_same rfl rfl (Nat.le_succ _)
  | found drafted fresh => exact accounted.found drafted fresh
  | approve vetted licensed => exact accounted.of_same rfl rfl le_rfl
  | write found permitted licensed => exact accounted.write wf found permitted
  | launch found pending rows =>
    have registered : Permitted .approvalPending .readyToLaunch (.transition "start_launch") := by
      unfold Permitted
      decide
    exact (accounted.write wf found (pending ▸ registered)).of_same rows.campaigns rows.statusWrites rows.nextId

end Runs

theorem not_registered_from_completed (status : CampaignStatus) : ¬ Registered .completed status := by
  cases status <;> decide

/-- What the operation sets past the state machine is a registered transition all the same. -/
def Sanctioned [PyText] (db : Db) (op : Op × Int) : Prop :=
  ∀ set ∈ op.1.sets db, Registered set.1.status set.2

/-- The operation does not set the status of a completed campaign past the state machine. -/
def SparesCompleted [PyText] (db : Db) (op : Op × Int) : Prop :=
  ∀ set ∈ op.1.sets db, set.1.status ≠ .completed

instance [PyText] (db : Db) (op : Op × Int) : Decidable (Sanctioned db op) :=
  inferInstanceAs (Decidable (∀ set ∈ op.1.sets db, Registered set.1.status set.2))

instance [PyText] (db : Db) (op : Op × Int) : Decidable (SparesCompleted db op) :=
  inferInstanceAs (Decidable (∀ set ∈ op.1.sets db, set.1.status ≠ .completed))

/-- What has been written since is a registered transition each time. -/
def RegisteredSince (start db : Db) : Prop :=
  ∃ new, db.statusWrites = new ++ start.statusWrites ∧ ∀ w ∈ new, Registered w.before w.after

/-- The campaign with the id, if there is one, is completed. -/
structure Done (id : Uuid) (db : Db) : Prop where
  below : id < db.nextId
  completed : ∀ c ∈ db.campaigns, c.id = id → c.status = .completed

section Direct

variable [PyText] {db db' before start : Db} {op : Op × Int}

omit [PyText] in
theorem RegisteredSince.of_same (since : RegisteredSince start db) (same : db'.statusWrites = db.statusWrites) :
    RegisteredSince start db' := by
  unfold RegisteredSince
  rw [same]
  exact since

omit [PyText] in
theorem RegisteredSince.write (since : RegisteredSince start db) {c : Campaign} {after : CampaignStatus} {writer : Writer}
    (found : db.campaign? c.id = some c) (registered : Registered c.status after) :
    RegisteredSince start (db.writeStatus c.id after writer) := by
  obtain ⟨new, grown, all⟩ := since
  rw [writeStatus_eq found]
  exact ⟨⟨c.id, c.status, after, writer⟩ :: new, congrArg _ grown, List.forall_mem_cons.mpr ⟨registered, all⟩⟩

/-- A sanctioned operation writes registered transitions only. -/
theorem RegisteredSince.move (since : RegisteredSince start db) (sanctioned : Sanctioned before op)
    (move : Move (op.1.licence before) db db') : RegisteredSince start db' := by
  cases move with
  | revise rows => exact since.of_same rows.statusWrites
  | edit | create | found | approve => exact since
  | write found permitted licensed direct =>
    refine since.write found (by_contra fun unregistered => ?_)
    obtain ⟨c, set, _, stored⟩ := direct unregistered
    cases Option.some.inj (stored.symm.trans found)
    exact unregistered (sanctioned _ set)
  | launch found pending rows =>
    have registered : Registered .approvalPending .readyToLaunch := by decide
    exact (since.write found (pending ▸ registered)).of_same rows.statusWrites

/-- An operation that spares the completed campaigns leaves them completed:
no registered transition leads out of that status. -/
theorem Done.move {id : Uuid} (done : Done id db) (spares : SparesCompleted before op)
    (move : Move (op.1.licence before) db db') : Done id db' := by
  cases move with
  | revise rows => exact ⟨done.below.trans_le rows.nextId, rows.campaigns.symm ▸ done.completed⟩
  | edit member sameId sameStatus =>
    refine ⟨done.below, fun d dMember same => ?_⟩
    rcases mem_updateWhere.mp dMember with ⟨_, _, _, rfl⟩ | ⟨stays, _⟩
    · exact sameStatus.trans (done.completed _ member (sameId.symm.trans same))
    · exact done.completed d stays same
  | create unshipped => exact ⟨done.below.trans (Nat.lt_succ_self _), done.completed⟩
  | found drafted fresh =>
    refine ⟨done.below.trans (Nat.lt_succ_self _), fun d dMember same => ?_⟩
    rcases List.mem_append.mp dMember with old | new
    · exact done.completed d old same
    · rw [List.mem_singleton.mp new, fresh] at same
      exact absurd same done.below.ne'
  | approve vetted licensed => exact ⟨done.below, done.completed⟩
  | @write c after writer found permitted licensed direct =>
    rw [writeStatus_eq found]
    refine ⟨done.below, fun d dMember same => ?_⟩
    rcases mem_updateWhere.mp dMember with ⟨_, _, _, rfl⟩ | ⟨stays, _⟩
    · have completed := done.completed c (Db.campaign?_mem found).1 same
      obtain ⟨set, here, _, stored⟩ := direct (completed ▸ not_registered_from_completed _)
      cases Option.some.inj (stored.symm.trans found)
      exact absurd completed (spares _ here)
    · exact done.completed d stays same
  | @launch _ c found pending rows =>
    rw [writeStatus_eq found] at rows
    refine ⟨done.below.trans_le rows.nextId, fun d dMember same => ?_⟩
    rw [rows.campaigns] at dMember
    rcases mem_updateWhere.mp dMember with ⟨_, _, _, rfl⟩ | ⟨stays, _⟩
    · have completed := done.completed c (Db.campaign?_mem found).1 same
      rw [pending] at completed
      cases completed
    · exact done.completed d stays same

end Direct

namespace Statuses

local instance statusesText : PyText := PyText.plain

open Sample

/-- A tenant whose first campaign will have a proposal to accept. -/
def proposed : Db where
  proposals := [⟨50, 0, 1, [], false⟩]

end Statuses

end MarketingAgents
