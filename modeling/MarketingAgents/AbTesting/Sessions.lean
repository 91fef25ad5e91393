import MarketingAgents.Lib.Run
import MarketingAgents.AbTesting.Assignment

namespace MarketingAgents

open Lib PyText

/-- The columns of `uq_ab_test_assignment_tenant_test_audience`. -/
structure AssignmentKey where
  tenantId : Uuid
  abTestId : Uuid
  externalId : String
deriving DecidableEq

def AbTestAssignment.key (row : AbTestAssignment) : AssignmentKey :=
  ⟨row.tenantId, row.abTestId, row.audienceExternalId⟩

def AssignmentKey.row (key : AssignmentKey) (variantId : Uuid) : AbTestAssignment :=
  ⟨key.tenantId, key.abTestId, key.externalId, variantId⟩

/-- Where a call of `assign_variant` stands between its statements. -/
inductive CallPhase where
  | started
  | missed
  | picked (variantId : Uuid)
  | inserted
  | returned (variantId : Uuid)
  | raised (error : AssignmentError)
deriving DecidableEq

def CallPhase.value? : CallPhase → Option Uuid
  | .returned variantId => some variantId
  | _ => none

structure AssignCall where
  id : Nat
  session : Nat
  key : AssignmentKey
  phase : CallPhase := .started
deriving DecidableEq

/-- The committed tables, the assignments of transactions that are still
open, each under its session, and the calls. -/
structure Sessions where
  db : Db
  pending : List (Nat × AbTestAssignment) := []
  calls : List AssignCall := []
  nextCall : Nat := 0

inductive AssignOp where
  | call (session : Nat) (key : AssignmentKey)
  | read (call : Nat)
  | pick (call : Nat)
  | insert (call : Nat)
  | reread (call : Nat)
  | commit (session : Nat)
  /-- A session dies before any of its calls has returned. -/
  | rollback (session : Nat)
  | editSplit (testId : Uuid) (split : Json)

namespace Sessions

def own (s : Sessions) (session : Nat) : List AbTestAssignment :=
  (s.pending.filter (·.1 = session)).map Prod.snd

/-- What a statement of the session sees: committed rows and its own. -/
def sees (s : Sessions) (session : Nat) : List AbTestAssignment := s.db.abTestAssignments ++ s.own session

def visible (s : Sessions) (session : Nat) (key : AssignmentKey) : Option AbTestAssignment :=
  (s.sees session).find? (·.key = key)

/-- The rows of the unique index, committed or not. -/
def rows (s : Sessions) : List AbTestAssignment := s.db.abTestAssignments ++ s.pending.map Prod.snd

def setPhase (s : Sessions) (id : Nat) (phase : CallPhase) : Sessions :=
  { s with calls := updateWhere (·.id = id) (fun c => { c with phase := phase }) s.calls }

def store (s : Sessions) (session : Nat) (row : AbTestAssignment) : Sessions :=
  { s with pending := s.pending ++ [(session, row)] }

def within (s : Sessions) (id : Nat) (f : AssignCall → Sessions) : Sessions :=
  match s.calls.find? (·.id = id) with
  | some c => f c
  | none => s

section Steps

variable [PyText]

/-- The variant `assign_variant` computes from the test as it finds it. -/
def pickFor (db : Db) (key : AssignmentKey) : Except AssignmentError Uuid := do
  let test ← orRaise (db.abTests.find? fun test => test.id = key.abTestId ∧ test.tenantId = key.tenantId)
    (.misconfigured ("ab_test " ++ uuidStr key.abTestId ++ " not found"))
  let split ← coerceSplit test.trafficSplit
  let picked ← pickVariantIndex key.abTestId key.externalId split
  orRaise (uuidOf picked) (.raised "badly formed hexadecimal UUID string")

def readStep (s : Sessions) (c : AssignCall) : Sessions :=
  match c.phase with
  | .started => s.setPhase c.id (match s.visible c.session c.key with
    | some row => .returned row.variantId
    | none => .missed)
  | _ => s

def pickStep (s : Sessions) (c : AssignCall) : Sessions :=
  match c.phase with
  | .missed => s.setPhase c.id (match pickFor s.db c.key with
    | .ok variantId => .picked variantId
    | .error error => .raised error)
  | _ => s

/-- `ON CONFLICT DO NOTHING`: a row of another open transaction makes the
statement wait for the end of that transaction. -/
def insertStep (s : Sessions) (c : AssignCall) : Sessions :=
  match c.phase with
  | .picked variantId =>
    if (s.visible c.session c.key).isSome then s.setPhase c.id .inserted
    else if ∃ entry ∈ s.pending, entry.2.key = c.key then s
    else if ∃ a ∈ s.db.assets, a.id = variantId then
      (s.store c.session (c.key.row variantId)).setPhase c.id .inserted
    else s.setPhase c.id (.raised (.raised "ab_test_assignment violates foreign key constraint"))
  | _ => s

def rereadStep (s : Sessions) (c : AssignCall) : Sessions :=
  match c.phase with
  | .inserted => s.setPhase c.id (match s.visible c.session c.key with
    | some row => .returned row.variantId
    | none => .raised (.raised "No row was found when one was required"))
  | _ => s

def commit (s : Sessions) (session : Nat) : Sessions :=
  { s with
    db := { s.db with abTestAssignments := s.sees session }
    pending := s.pending.filter (·.1 ≠ session) }

def rollback (s : Sessions) (session : Nat) : Sessions :=
  if ∃ c ∈ s.calls, c.session = session ∧ c.phase.value?.isSome then s
  else
    { s with
      pending := s.pending.filter (·.1 ≠ session)
      calls := s.calls.filter (·.session ≠ session) }

def step (s : Sessions) : AssignOp → Sessions
  | .call session key =>
    { s with calls := s.calls ++ [{ id := s.nextCall, session := session, key := key }], nextCall := s.nextCall + 1 }
  | .read id => s.within id s.readStep
  | .pick id => s.within id s.pickStep
  | .insert id => s.within id s.insertStep
  | .reread id => s.within id s.rereadStep
  | .commit session => s.commit session
  | .rollback session => s.rollback session
  | .editSplit testId split =>
    { s with db := { s.db with
      abTests := updateWhere (·.id = testId) (fun test => { test with trafficSplit := split }) s.db.abTests } }

end Steps

/-- Everything a step can do to the phase of a call that is already there. -/
inductive CallStep (s s' : Sessions) (c : AssignCall) : CallPhase → Prop where
  | kept : CallStep s s' c c.phase
  | found {row : AbTestAssignment} (started : c.phase = .started) (seen : s.visible c.session c.key = some row) :
      CallStep s s' c (.returned row.variantId)
  | missed (started : c.phase = .started) (absent : s.visible c.session c.key = none) : CallStep s s' c .missed
  | picked {variantId : Uuid} (missed : c.phase = .missed) : CallStep s s' c (.picked variantId)
  | unpicked {error : AssignmentError} (missed : c.phase = .missed) : CallStep s s' c (.raised error)
  | inserted {variantId : Uuid} (picked : c.phase = .picked variantId)
      (stored : ∃ row ∈ s'.sees c.session, row.key = c.key) : CallStep s s' c .inserted
  | refused {variantId : Uuid} {error : AssignmentError} (picked : c.phase = .picked variantId) :
      CallStep s s' c (.raised error)
  | reread {row : AbTestAssignment} (inserted : c.phase = .inserted) (seen : s.visible c.session c.key = some row) :
      CallStep s s' c (.returned row.variantId)
  | lost {error : AssignmentError} (inserted : c.phase = .inserted) (absent : s.visible c.session c.key = none) :
      CallStep s s' c (.raised error)

/-- Everything a step can do to the assignments. -/
inductive TableStep (s s' : Sessions) : Prop where
  | same (committed : s'.db.abTestAssignments = s.db.abTestAssignments) (pending : s'.pending = s.pending)
  | inserted {session : Nat} {row : AbTestAssignment} (committed : s'.db.abTestAssignments = s.db.abTestAssignments)
      (pending : s'.pending = s.pending ++ [(session, row)]) (new : ∀ old ∈ s.rows, old.key ≠ row.key)
  | committed {session : Nat} (committed : s'.db.abTestAssignments = s.sees session)
      (pending : s'.pending = s.pending.filter (·.1 ≠ session))
  | rolledBack {session : Nat} (committed : s'.db.abTestAssignments = s.db.abTestAssignments)
      (pending : s'.pending = s.pending.filter (·.1 ≠ session)) (gone : ∀ c ∈ s'.calls, c.session ≠ session)

section Inversion

variable {s : Sessions} {c : AssignCall}

theorem visible_mem {session : Nat} {key : AssignmentKey} {row : AbTestAssignment}
    (seen : s.visible session key = some row) : row ∈ s.sees session ∧ row.key = key :=
  ⟨List.mem_of_find?_eq_some seen, by simpa using List.find?_some seen⟩

theorem not_sees_of_visible {session : Nat} {key : AssignmentKey} (absent : s.visible session key = none)
    {row : AbTestAssignment} (member : row ∈ s.sees session) : row.key ≠ key := by
  have miss := List.find?_eq_none.mp absent row member
  simpa using miss

theorem sees_sublist_rows (s : Sessions) (session : Nat) : (s.sees session).Sublist s.rows :=
  (List.Sublist.refl _).append (List.filter_sublist.map _)

theorem mem_setPhase {id : Nat} {phase : CallPhase} {c' : AssignCall} (member : c' ∈ (s.setPhase id phase).calls) :
    (∃ c ∈ s.calls, c.id = id ∧ c' = { c with phase := phase }) ∨ c' ∈ s.calls := by
  rcases mem_updateWhere.mp member with ⟨c, old, hit, rfl⟩ | ⟨old, _⟩
  · exact Or.inl ⟨c, old, by simpa using hit, rfl⟩
  · exact Or.inr old

/-- A statement of one call leaves the tables as `s'` has them and moves that call. -/
theorem within_origin (ids : (s.calls.map AssignCall.id).Nodup) {id : Nat} {f : AssignCall → Sessions}
    {c' : AssignCall} (member : c' ∈ (s.within id f).calls)
    (moves : ∀ c ∈ s.calls, f c = s ∨ ∃ phase, (f c).calls = (s.setPhase c.id phase).calls ∧ CallStep s (f c) c phase) :
    ∃ c ∈ s.calls, c'.id = c.id ∧ c'.session = c.session ∧ c'.key = c.key ∧ CallStep s (s.within id f) c c'.phase := by
  unfold within at member ⊢
  split at member
  · rename_i c found
    have old := List.mem_of_find?_eq_some found
    rcases moves c old with same | ⟨phase, calls, moved⟩
    · rw [same] at member
      exact ⟨c', member, rfl, rfl, rfl, .kept⟩
    · rw [calls] at member
      rcases mem_setPhase member with ⟨d, dMember, sameId, rfl⟩ | stays
      · have same : d = c := eq_of_key_eq ids dMember old sameId
        rw [same]
        exact ⟨c, old, rfl, rfl, rfl, moved⟩
      · exact ⟨c', stays, rfl, rfl, rfl, .kept⟩
  · exact ⟨c', member, rfl, rfl, rfl, .kept⟩

theorem readStep_moves (s : Sessions) (c : AssignCall) : s.readStep c = s ∨
    ∃ phase, (s.readStep c).calls = (s.setPhase c.id phase).calls ∧ CallStep s (s.readStep c) c phase := by
  unfold readStep
  split
  · rename_i started
    refine Or.inr ⟨_, rfl, ?_⟩
    split
    · rename_i row seen
      exact .found started seen
    · rename_i absent
      exact .missed started absent
  · exact Or.inl rfl

theorem insertStep_moves (s : Sessions) (c : AssignCall) : s.insertStep c = s ∨
    ∃ phase, (s.insertStep c).calls = (s.setPhase c.id phase).calls ∧ CallStep s (s.insertStep c) c phase := by
  unfold insertStep
  split
  · rename_i variantId picked
    split
    · rename_i seen
      obtain ⟨row, found⟩ := Option.isSome_iff_exists.mp seen
      exact Or.inr ⟨.inserted, rfl, .inserted picked ⟨row, visible_mem found⟩⟩
    · split
      · exact Or.inl rfl
      · split
        · let row := c.key.row variantId
          have stored : (c.session, row) ∈ (s.pending ++ [(c.session, row)]).filter (·.1 = c.session) :=
            List.mem_filter.mpr ⟨List.mem_append_right _ (List.mem_singleton.mpr rfl), by simp⟩
          have own : row ∈ ((s.pending ++ [(c.session, row)]).filter (·.1 = c.session)).map Prod.snd :=
            List.mem_map_of_mem stored
          exact Or.inr ⟨.inserted, rfl, .inserted picked ⟨row, List.mem_append_right _ own, rfl⟩⟩
        · exact Or.inr ⟨_, rfl, .refused picked⟩
  · exact Or.inl rfl

theorem rereadStep_moves (s : Sessions) (c : AssignCall) : s.rereadStep c = s ∨
    ∃ phase, (s.rereadStep c).calls = (s.setPhase c.id phase).calls ∧ CallStep s (s.rereadStep c) c phase := by
  unfold rereadStep
  split
  · rename_i inserted
    refine Or.inr ⟨_, rfl, ?_⟩
    split
    · rename_i row seen
      exact .reread inserted seen
    · rename_i absent
      exact .lost inserted absent
  · exact Or.inl rfl

theorem within_ids {id : Nat} {f : AssignCall → Sessions}
    (moves : ∀ c ∈ s.calls, (f c = s ∨ ∃ phase, (f c).calls = (s.setPhase c.id phase).calls ∧ CallStep s (f c) c phase) ∧
      (f c).nextCall = s.nextCall) :
    ((s.within id f).calls.map AssignCall.id).Sublist (s.calls.map AssignCall.id) ∧
      (s.within id f).nextCall = s.nextCall := by
  unfold within
  split
  · rename_i c found
    obtain ⟨moved, next⟩ := moves c (List.mem_of_find?_eq_some found)
    refine ⟨?_, next⟩
    rcases moved with same | ⟨phase, calls, _⟩
    · rw [same]
    · have ids : (s.setPhase c.id phase).calls.map AssignCall.id = s.calls.map AssignCall.id :=
        updateWhere_keys AssignCall.id s.calls fun _ _ => rfl
      rw [calls, ids]
  · exact ⟨List.Sublist.refl _, rfl⟩

/-- A statement of one call leaves alone every call it does not apply to. -/
theorem within_kept (ids : (s.calls.map AssignCall.id).Nodup) {id : Nat} {f : AssignCall → Sessions}
    (member : c ∈ s.calls) (still : f c = s)
    (moves : ∀ c ∈ s.calls, f c = s ∨ ∃ phase, (f c).calls = (s.setPhase c.id phase).calls ∧ CallStep s (f c) c phase) :
    c ∈ (s.within id f).calls := by
  unfold within
  split
  · rename_i d found
    have dMember := List.mem_of_find?_eq_some found
    by_cases same : c.id = d.id
    · rw [← eq_of_key_eq ids member dMember same, still]
      exact member
    · rcases moves d dMember with idle | ⟨phase, calls, _⟩
      · rw [idle]
        exact member
      · rw [calls]
        exact mem_updateWhere.mpr (Or.inr ⟨member, by simpa using same⟩)
  · exact member

theorem within_tables {id : Nat} {f : AssignCall → Sessions} (tables : ∀ c ∈ s.calls, TableStep s (f c)) :
    TableStep s (s.within id f) := by
  unfold within
  split
  · rename_i c found
    exact tables c (List.mem_of_find?_eq_some found)
  · exact .same rfl rfl

theorem insertStep_tables (s : Sessions) (c : AssignCall) : TableStep s (s.insertStep c) := by
  unfold insertStep
  split
  · rename_i variantId picked
    split
    · exact .same rfl rfl
    · rename_i unseen
      split
      · exact .same rfl rfl
      · rename_i alone
        split
        · refine .inserted rfl rfl fun old member => ?_
          rcases List.mem_append.mp member with committed | pending
          · have absent : s.visible c.session c.key = none := by simpa using unseen
            exact not_sees_of_visible absent (List.mem_append_left _ committed)
          · obtain ⟨entry, entryMember, rfl⟩ := List.mem_map.mp pending
            exact fun clash => alone ⟨entry, entryMember, clash⟩
        · exact .same rfl rfl
  · exact .same rfl rfl

theorem readStep_tables (s : Sessions) (c : AssignCall) : TableStep s (s.readStep c) := by
  unfold readStep
  split <;> exact .same rfl rfl

theorem rereadStep_tables (s : Sessions) (c : AssignCall) : TableStep s (s.rereadStep c) := by
  unfold rereadStep
  split <;> exact .same rfl rfl

theorem TableStep.unique {s' : Sessions} (tables : TableStep s s') (unique : (s.rows.map AbTestAssignment.key).Nodup) :
    (s'.rows.map AbTestAssignment.key).Nodup := by
  cases tables with
  | same committed pending =>
    unfold rows
    rw [committed, pending]
    exact unique
  | @inserted session row committed pending new =>
    have grown : s'.rows = s.rows ++ [row] := by
      unfold rows
      rw [committed, pending, List.map_append, List.append_assoc]
      rfl
    rw [grown]
    refine nodup_keys_append unique (List.nodup_singleton _) fun old member added single => ?_
    rw [List.mem_singleton.mp single]
    exact new old member
  | @committed session committed pending =>
    have perm : s'.rows.Perm s.rows := by
      unfold rows sees own at *
      rw [committed, pending, List.append_assoc, ← List.map_append]
      refine List.Perm.append_left _ (List.Perm.map _ ?_)
      simpa using List.filter_append_perm (fun entry : Nat × AbTestAssignment => decide (entry.1 = session)) s.pending
    exact (perm.map _).nodup_iff.mpr unique
  | @rolledBack session committed pending gone =>
    have fewer : s'.rows.Sublist s.rows := by
      unfold rows
      rw [committed, pending]
      exact (List.Sublist.refl _).append (List.filter_sublist.map _)
    exact unique.sublist (fewer.map _)

/-- The end of another session takes nothing from a session's own rows. -/
theorem own_drop {session other : Nat} (different : session ≠ other) :
    s.own session ⊆ ((s.pending.filter (·.1 ≠ other)).filter (·.1 = session)).map Prod.snd := by
  intro row ours
  obtain ⟨entry, inner, rfl⟩ := List.mem_map.mp ours
  obtain ⟨here, same⟩ := List.mem_filter.mp inner
  have sameSession : entry.1 = session := by simpa using same
  refine List.mem_map_of_mem (List.mem_filter.mpr ⟨List.mem_filter.mpr ⟨here, ?_⟩, same⟩)
  simpa [sameSession] using different

/-- A call that goes on still sees what it saw. -/
theorem TableStep.sees {s' : Sessions} (tables : TableStep s s') (member : c ∈ s'.calls) :
    s.sees c.session ⊆ s'.sees c.session := by
  intro row seen
  unfold Sessions.sees own
  cases tables with
  | same committed pending =>
    rw [committed, pending]
    exact seen
  | inserted committed pending new =>
    rw [committed, pending, List.filter_append, List.map_append, ← List.append_assoc]
    exact List.mem_append_left _ seen
  | @committed session committed pending =>
    rw [committed, pending]
    by_cases mine : c.session = session
    · rw [← mine]
      exact List.mem_append_left _ seen
    · rcases List.mem_append.mp seen with old | ours
      · exact List.mem_append_left _ (List.mem_append_left _ old)
      · exact List.mem_append_right _ (own_drop mine ours)
  | @rolledBack session committed pending gone =>
    rw [committed, pending]
    rcases List.mem_append.mp seen with old | ours
    · exact List.mem_append_left _ old
    · exact List.mem_append_right _ (own_drop (gone c member) ours)

end Inversion

section Moved

variable [PyText] {s : Sessions} {c : AssignCall}

theorem pickStep_moves (s : Sessions) (c : AssignCall) : s.pickStep c = s ∨
    ∃ phase, (s.pickStep c).calls = (s.setPhase c.id phase).calls ∧ CallStep s (s.pickStep c) c phase := by
  unfold pickStep
  split
  · rename_i missed
    refine Or.inr ⟨_, rfl, ?_⟩
    split
    · exact .picked missed
    · exact .unpicked missed
  · exact Or.inl rfl

/-- Every call after a step was there before it, moved by that step, or is the new one. -/
theorem call_origin (ids : (s.calls.map AssignCall.id).Nodup) {op : AssignOp} {c' : AssignCall}
    (member : c' ∈ (s.step op).calls) :
    (∃ c ∈ s.calls, c'.id = c.id ∧ c'.session = c.session ∧ c'.key = c.key ∧ CallStep s (s.step op) c c'.phase) ∨
      c'.id = s.nextCall ∧ (s.step op).nextCall = s.nextCall + 1 ∧ c'.phase = .started := by
  have unmoved (old : c' ∈ s.calls) : ∃ c ∈ s.calls, c'.id = c.id ∧ c'.session = c.session ∧ c'.key = c.key ∧
      CallStep s (s.step op) c c'.phase := ⟨c', old, rfl, rfl, rfl, .kept⟩
  cases op with
  | call session key =>
    rcases List.mem_append.mp member with old | new
    · exact Or.inl (unmoved old)
    · rw [List.mem_singleton.mp new]
      exact Or.inr ⟨rfl, rfl, rfl⟩
  | read id => exact Or.inl (within_origin ids member fun c _ => s.readStep_moves c)
  | pick id => exact Or.inl (within_origin ids member fun c _ => s.pickStep_moves c)
  | insert id => exact Or.inl (within_origin ids member fun c _ => s.insertStep_moves c)
  | reread id => exact Or.inl (within_origin ids member fun c _ => s.rereadStep_moves c)
  | commit session => exact Or.inl (unmoved member)
  | rollback session =>
    left
    refine unmoved ?_
    simp only [step, rollback] at member
    split at member
    · exact member
    · exact (List.mem_filter.mp member).1
  | editSplit testId split => exact Or.inl (unmoved member)

theorem table_step (s : Sessions) (op : AssignOp) : TableStep s (s.step op) := by
  cases op with
  | call session key => exact .same rfl rfl
  | read id => exact within_tables fun c _ => s.readStep_tables c
  | pick id =>
    refine within_tables fun c _ => ?_
    unfold pickStep
    split <;> exact .same rfl rfl
  | insert id => exact within_tables fun c _ => s.insertStep_tables c
  | reread id => exact within_tables fun c _ => s.rereadStep_tables c
  | commit session => exact .committed rfl rfl
  | rollback session =>
    simp only [step, rollback]
    split
    · exact .same rfl rfl
    · exact .rolledBack rfl rfl fun c member => by simpa using (List.mem_filter.mp member).2
  | editSplit testId split => exact .same rfl rfl

theorem ids_step (s : Sessions) (op : AssignOp) :
    ((s.step op).calls.map AssignCall.id).Sublist (s.calls.map AssignCall.id) ∧ (s.step op).nextCall = s.nextCall ∨
      (s.step op).calls.map AssignCall.id = s.calls.map AssignCall.id ++ [s.nextCall] ∧
        (s.step op).nextCall = s.nextCall + 1 := by
  cases op with
  | call session key => exact Or.inr ⟨List.map_append, rfl⟩
  | read id => exact Or.inl (within_ids fun c _ => ⟨s.readStep_moves c, by unfold readStep; split <;> rfl⟩)
  | pick id => exact Or.inl (within_ids fun c _ => ⟨s.pickStep_moves c, by unfold pickStep; split <;> rfl⟩)
  | insert id =>
    refine Or.inl (within_ids fun c _ => ⟨s.insertStep_moves c, ?_⟩)
    unfold insertStep
    split
    · split_ifs <;> rfl
    · rfl
  | reread id => exact Or.inl (within_ids fun c _ => ⟨s.rereadStep_moves c, by unfold rereadStep; split <;> rfl⟩)
  | commit session => exact Or.inl ⟨List.Sublist.refl _, rfl⟩
  | rollback session =>
    simp only [step, rollback]
    split
    · exact Or.inl ⟨List.Sublist.refl _, rfl⟩
    · exact Or.inl ⟨List.filter_sublist.map _, rfl⟩
  | editSplit testId split => exact Or.inl ⟨List.Sublist.refl _, rfl⟩

end Moved

section Undisturbed

variable {s : Sessions} {c : AssignCall}

@[simp] theorem setPhase_db (s : Sessions) (id : Nat) (phase : CallPhase) : (s.setPhase id phase).db = s.db := rfl

@[simp] theorem setPhase_pending (s : Sessions) (id : Nat) (phase : CallPhase) :
    (s.setPhase id phase).pending = s.pending := rfl

@[simp] theorem setPhase_visible (s : Sessions) (id session : Nat) (phase : CallPhase) (key : AssignmentKey) :
    (s.setPhase id phase).visible session key = s.visible session key := rfl

theorem setPhase_store (s : Sessions) (id session : Nat) (phase : CallPhase) (row : AbTestAssignment) :
    (s.setPhase id phase).store session row = (s.store session row).setPhase id phase := rfl

theorem setPhase_setPhase (s : Sessions) (id : Nat) (first last : CallPhase) :
    (s.setPhase id first).setPhase id last = s.setPhase id last := by
  unfold setPhase updateWhere
  simp only [List.map_map]
  congr 1
  refine List.map_congr_left fun c _ => ?_
  by_cases same : c.id = id <;> simp [same]

theorem visible_store {session : Nat} {row : AbTestAssignment} (absent : s.visible session row.key = none) :
    (s.store session row).visible session row.key = some row := by
  unfold visible sees own store at *
  rw [List.filter_append, List.map_append, ← List.append_assoc, List.find?_append, absent]
  simp

theorem setPhase_find (ids : (s.calls.map AssignCall.id).Nodup) (member : c ∈ s.calls) (phase : CallPhase) :
    (s.setPhase c.id phase).calls.find? (·.id = c.id) = some { c with phase := phase } := by
  have sameIds : (s.setPhase c.id phase).calls.map AssignCall.id = s.calls.map AssignCall.id :=
    updateWhere_keys AssignCall.id s.calls fun _ _ => rfl
  have here : { c with phase := phase } ∈ (s.setPhase c.id phase).calls :=
    mem_updateWhere.mpr (Or.inl ⟨c, member, by simp, rfl⟩)
  exact find?_key_eq AssignCall.id (sameIds ▸ ids) here

variable [PyText]

theorem assignVariant_eq (db : Db) (pending : List AbTestAssignment) (key : AssignmentKey) :
    assignVariant db pending key.tenantId key.abTestId key.externalId =
      match (db.abTestAssignments ++ pending).find? (·.key = key) with
      | some row => .ok (row.variantId, pending)
      | none => pickFor db key >>= fun variantId =>
        require (∃ a ∈ db.assets, a.id = variantId) (.raised "ab_test_assignment violates foreign key constraint") >>=
          fun _ => pure (variantId, pending ++ [key.row variantId]) := by
  have lookup : (fun row : AbTestAssignment => decide (row.tenantId = key.tenantId ∧ row.abTestId = key.abTestId ∧
      row.audienceExternalId = key.externalId)) = fun row => decide (row.key = key) := by
    funext row
    obtain ⟨tenantId, abTestId, externalId⟩ := key
    simp [AbTestAssignment.key]
  unfold assignVariant pickFor
  rw [lookup]
  cases (db.abTestAssignments ++ pending).find? fun row => decide (row.key = key) with
  | some row => rfl
  | none => simp only [bind_assoc, AssignmentKey.row]

/-- The four statements of a call that nobody disturbs make up `assign_variant`. -/
theorem assignVariant_undisturbed (ids : (s.calls.map AssignCall.id).Nodup) (member : c ∈ s.calls)
    (started : c.phase = .started) (alone : ∀ entry ∈ s.pending, entry.1 = c.session) :
    Lib.run Sessions.step s [.read c.id, .pick c.id, .insert c.id, .reread c.id] =
      match assignVariant s.db (s.pending.map Prod.snd) c.key.tenantId c.key.abTestId c.key.externalId with
      | .ok (variantId, rows) => { s with pending := rows.map (c.session, ·) }.setPhase c.id (.returned variantId)
      | .error error => s.setPhase c.id (.raised error) := by
  have own : s.own c.session = s.pending.map Prod.snd := by
    unfold Sessions.own
    rw [List.filter_eq_self.mpr fun entry here => by simpa using alone entry here]
  have seen : s.visible c.session c.key = (s.db.abTestAssignments ++ s.pending.map Prod.snd).find? (·.key = c.key) := by
    unfold visible sees
    rw [own]
  have found : s.calls.find? (·.id = c.id) = some c := find?_key_eq AssignCall.id ids member
  have back : (s.pending.map Prod.snd).map (c.session, ·) = s.pending := by
    rw [List.map_map]
    refine (List.map_congr_left fun entry here => ?_).trans (List.map_id _)
    simp only [Function.comp_apply, id_eq, ← alone entry here]
  have next := setPhase_find ids member
  rw [assignVariant_eq, ← seen]
  simp only [Lib.run_cons, Lib.run_nil, step, within, found, readStep, started]
  cases lookup : s.visible c.session c.key with
  | some row =>
    simp only [next, pickStep, insertStep, rereadStep, back]
  | none =>
    simp only [next, pickStep, setPhase_db]
    cases picked : pickFor s.db c.key with
    | error error =>
      simp only [setPhase_setPhase, next, insertStep, rereadStep]
      rfl
    | ok variantId =>
      have stored := setPhase_find (s := s.store c.session (c.key.row variantId)) ids member
      have inserted : (s.store c.session (c.key.row variantId)).visible c.session c.key = some (c.key.row variantId) :=
        visible_store lookup
      have nobody : ¬ ∃ entry ∈ s.pending, entry.2.key = c.key := by
        rintro ⟨entry, here, clash⟩
        have mine : entry.2 ∈ s.sees c.session :=
          List.mem_append_right _ (own ▸ List.mem_map_of_mem here)
        exact not_sees_of_visible lookup mine clash
      simp only [setPhase_setPhase, next, insertStep, setPhase_visible, lookup, setPhase_db, setPhase_pending,
        Option.isSome_none, Bool.false_eq_true, if_false, if_neg nobody, setPhase_store, bind, Except.bind, require]
      by_cases known : ∃ a ∈ s.db.assets, a.id = variantId
      · simp only [if_pos known, stored, rereadStep, setPhase_visible, inserted, setPhase_setPhase, pure, Except.pure,
          List.map_append, back]
        rfl
      · simp only [if_neg known, next, rereadStep]

end Undisturbed

end Sessions

end MarketingAgents
