import MarketingAgents.AbTesting.Sessions

namespace MarketingAgents

open Lib

namespace Sessions

/-- A call that is past its insert, or has returned, sees the row it rests on. -/
def Supported (s : Sessions) (c : AssignCall) : Prop :=
  match c.phase with
  | .inserted => ∃ row ∈ s.sees c.session, row.key = c.key
  | .returned variantId => ∃ row ∈ s.sees c.session, row.key = c.key ∧ row.variantId = variantId
  | _ => True

structure Sound (s : Sessions) : Prop where
  unique : (s.rows.map AbTestAssignment.key).Nodup
  ids : (s.calls.map AssignCall.id).Nodup
  below : ∀ c ∈ s.calls, c.id < s.nextCall
  supported : ∀ c ∈ s.calls, s.Supported c

section Sound

variable {s : Sessions} {c : AssignCall} {variantId : Uuid}

theorem Supported.row (supported : s.Supported c) (returned : c.phase = .returned variantId) :
    ∃ row ∈ s.sees c.session, row.key = c.key ∧ row.variantId = variantId := by
  unfold Supported at supported
  rw [returned] at supported
  exact supported

theorem Supported.step {s' : Sessions} {c' : AssignCall} (supported : s.Supported c)
    (sees : s.sees c.session ⊆ s'.sees c.session) (session : c'.session = c.session) (key : c'.key = c.key)
    (moved : CallStep s s' c c'.phase) : s'.Supported c' := by
  unfold Supported
  rw [session, key]
  generalize after : c'.phase = phase at moved
  cases moved with
  | kept =>
    unfold Supported at supported
    split at supported
    · obtain ⟨row, seen, same⟩ := supported
      exact ⟨row, sees seen, same⟩
    · obtain ⟨row, seen, same⟩ := supported
      exact ⟨row, sees seen, same⟩
    · trivial
  | found started seen => exact ⟨_, sees (visible_mem seen).1, (visible_mem seen).2, rfl⟩
  | missed started absent => trivial
  | picked missed => trivial
  | unpicked missed => trivial
  | inserted picked stored => exact stored
  | refused picked => trivial
  | reread inserted seen => exact ⟨_, sees (visible_mem seen).1, (visible_mem seen).2, rfl⟩
  | lost inserted absent => trivial

/-- The unique index holds one row for the key: the one that returned calls saw. -/
theorem Sound.single (sound : s.Sound) (member : c ∈ s.calls) (returned : c.phase = .returned variantId) :
    ∃ row, s.rows.filter (·.key = c.key) = [row] ∧ row.variantId = variantId := by
  obtain ⟨row, seen, key, value⟩ := (sound.supported c member).row returned
  have single := filter_key_eq AbTestAssignment.key sound.unique ((s.sees_sublist_rows c.session).subset seen)
  rw [key] at single
  exact ⟨row, single, value⟩

theorem Sound.agree (sound : s.Sound) {d : AssignCall} {other : Uuid} (member : c ∈ s.calls) (dMember : d ∈ s.calls)
    (key : d.key = c.key) (returned : c.phase = .returned variantId) (dReturned : d.phase = .returned other) :
    other = variantId := by
  obtain ⟨row, single, value⟩ := sound.single member returned
  obtain ⟨row', single', value'⟩ := sound.single dMember dReturned
  rw [key, single] at single'
  cases single'
  exact value'.symm.trans value

/-- Wherever a row for the key is seen, it is the row that the returned call rests on. -/
theorem Sound.visible_eq (sound : s.Sound) (member : c ∈ s.calls) (returned : c.phase = .returned variantId)
    {session : Nat} (seen : ∃ row ∈ s.sees session, row.key = c.key) :
    ∃ row, s.visible session c.key = some row ∧ row.variantId = variantId := by
  obtain ⟨row, single, value⟩ := sound.single member returned
  obtain ⟨other, otherSeen, key⟩ := seen
  cases lookup : s.visible session c.key with
  | none => exact absurd key (not_sees_of_visible lookup otherSeen)
  | some found =>
    obtain ⟨foundSeen, foundKey⟩ := visible_mem lookup
    have listed : found ∈ s.rows.filter (·.key = c.key) :=
      List.mem_filter.mpr ⟨(s.sees_sublist_rows session).subset foundSeen, by simpa using foundKey⟩
    rw [single] at listed
    exact ⟨found, rfl, by rw [List.mem_singleton.mp listed]; exact value⟩

variable [PyText]

theorem Sound.step (sound : s.Sound) (op : AssignOp) : (s.step op).Sound where
  unique := (s.table_step op).unique sound.unique
  ids := by
    rcases s.ids_step op with ⟨fewer, _⟩ | ⟨grown, _⟩
    · exact sound.ids.sublist fewer
    · rw [grown, List.nodup_append]
      refine ⟨sound.ids, List.nodup_singleton _, fun id member other single => ?_⟩
      obtain ⟨c, old, rfl⟩ := List.mem_map.mp member
      rw [List.mem_singleton.mp single]
      exact (sound.below c old).ne
  below c' member := by
    rcases call_origin sound.ids member with ⟨c, old, sameId, _⟩ | ⟨new, grown, _⟩
    · rw [sameId]
      refine (sound.below c old).trans_le ?_
      rcases s.ids_step op with ⟨_, next⟩ | ⟨_, next⟩ <;> omega
    · omega
  supported c' member := by
    rcases call_origin sound.ids member with ⟨c, old, _, session, key, moved⟩ | ⟨_, _, started⟩
    · refine (sound.supported c old).step ?_ session key moved
      rw [← session]
      exact (s.table_step op).sees member
    · unfold Supported
      rw [started]
      trivial

theorem returned_kept (sound : s.Sound) (op : AssignOp) (member : c ∈ s.calls) (returned : c.phase = .returned variantId) :
    c ∈ (s.step op).calls := by
  cases op with
  | call session key => exact List.mem_append_left _ member
  | read id => exact within_kept sound.ids member (by unfold readStep; rw [returned]) fun d _ => s.readStep_moves d
  | pick id => exact within_kept sound.ids member (by unfold pickStep; rw [returned]) fun d _ => s.pickStep_moves d
  | insert id => exact within_kept sound.ids member (by unfold insertStep; rw [returned]) fun d _ => s.insertStep_moves d
  | reread id => exact within_kept sound.ids member (by unfold rereadStep; rw [returned]) fun d _ => s.rereadStep_moves d
  | commit session => exact member
  | rollback session =>
    simp only [Sessions.step, rollback]
    split
    · exact member
    · rename_i unreturned
      refine List.mem_filter.mpr ⟨member, ?_⟩
      have other : c.session ≠ session := fun same => unreturned ⟨c, member, same, by rw [returned]; rfl⟩
      simpa using other
  | editSplit testId split => exact member

theorem committed_kept (s : Sessions) (op : AssignOp) :
    s.db.abTestAssignments ⊆ (s.step op).db.abTestAssignments := by
  intro row member
  cases s.table_step op with
  | same committed _ => exact committed ▸ member
  | inserted committed _ _ => exact committed ▸ member
  | committed committed _ =>
    rw [committed]
    exact List.mem_append_left _ member
  | rolledBack committed _ _ => exact committed ▸ member

end Sound

/-- The call `first` has returned, and the calls from number `start` on that
can see its row, being of its session or made since it was `committed`, have
gone no other way. -/
structure Follows (first : AssignCall) (variantId : Uuid) (start : Nat) (committed : Prop) (s : Sessions) : Prop where
  sound : s.Sound
  member : first ∈ s.calls
  returned : first.phase = .returned variantId
  stored : committed → ∃ row ∈ s.db.abTestAssignments, row.key = first.key
  later : ∀ c ∈ s.calls, start ≤ c.id → c.key = first.key → c.session = first.session ∨ committed →
    c.phase = .started ∨ c.phase = .returned variantId

section Follows

variable {s : Sessions} {first c : AssignCall} {variantId : Uuid} {start : Nat} {committed : Prop}

theorem Follows.visible (follows : Follows first variantId start committed s) (key : c.key = first.key)
    (placed : c.session = first.session ∨ committed) :
    ∃ row, s.visible c.session c.key = some row ∧ row.variantId = variantId := by
  rw [key]
  refine follows.sound.visible_eq follows.member follows.returned ?_
  rcases placed with sameSession | stored
  · obtain ⟨row, seen, sameKey, _⟩ := (follows.sound.supported first follows.member).row follows.returned
    rw [sameSession]
    exact ⟨row, seen, sameKey⟩
  · obtain ⟨row, here, sameKey⟩ := follows.stored stored
    exact ⟨row, List.mem_append_left _ here, sameKey⟩

variable [PyText]

theorem Follows.step (follows : Follows first variantId start committed s) (op : AssignOp) :
    Follows first variantId start committed (s.step op) where
  sound := follows.sound.step op
  member := returned_kept follows.sound op follows.member follows.returned
  returned := follows.returned
  stored given := by
    obtain ⟨row, here, key⟩ := follows.stored given
    exact ⟨row, s.committed_kept op here, key⟩
  later c' member made key placed := by
    rcases call_origin follows.sound.ids member with ⟨c, old, id, session, sameKey, moved⟩ | ⟨_, _, started⟩
    · rw [id] at made
      rw [sameKey] at key
      rw [session] at placed
      obtain ⟨row, seen, value⟩ := follows.visible key placed
      have before := follows.later c old made key placed
      generalize after : c'.phase = phase at moved
      cases moved with
      | kept => exact before
      | found started found =>
        rw [seen] at found
        cases found
        exact Or.inr (by rw [value])
      | missed started absent => simp [seen] at absent
      | picked missed => simp [missed] at before
      | unpicked missed => simp [missed] at before
      | inserted picked stored => simp [picked] at before
      | refused picked => simp [picked] at before
      | reread inserted found => simp [inserted] at before
      | lost inserted absent => simp [inserted] at before
    · exact Or.inl started

theorem Follows.read (follows : Follows first variantId start committed s) (member : c ∈ s.calls)
    (key : c.key = first.key) (placed : c.session = first.session ∨ committed) (started : c.phase = .started) :
    { c with phase := .returned variantId } ∈ (s.step (.read c.id)).calls := by
  obtain ⟨row, seen, value⟩ := follows.visible key placed
  have found : s.calls.find? (·.id = c.id) = some c := find?_key_eq AssignCall.id follows.sound.ids member
  simp only [Sessions.step, within, found, readStep, started, seen, value]
  exact mem_updateWhere.mpr (Or.inl ⟨c, member, by simp, rfl⟩)

/-- Whatever the interleaving of the statements, the commits, the sessions
that die and the edits of splits: once a call has returned, the unique index
holds one row for its key, with the variant it returned, every call for that
key that returns gives this variant, and a call made later that can see the row
returns it with its first statement. -/
theorem assigned_variant_is_stable {db : Db} (unique : (db.abTestAssignments.map AbTestAssignment.key).Nodup)
    (ops later : List AssignOp) :
    let s := Lib.run Sessions.step { db := db } ops
    let s' := Lib.run Sessions.step s later
    ∀ first ∈ s.calls, ∀ variantId, first.phase = .returned variantId →
      (∃ row, s.rows.filter (·.key = first.key) = [row] ∧ row.variantId = variantId) ∧
      (∀ c ∈ s.calls, c.key = first.key → ∀ other, c.phase = .returned other → other = variantId) ∧
      ∀ c ∈ s'.calls, s.nextCall ≤ c.id → c.key = first.key →
        (∀ other, c.phase = .returned other → other = variantId) ∧
        (c.session = first.session ∨ (∃ row ∈ s.db.abTestAssignments, row.key = first.key) →
          c.phase = .returned variantId ∨
            c.phase = .started ∧ { c with phase := .returned variantId } ∈ (s'.step (.read c.id)).calls) := by
  intro s s' first member variantId returned
  have sound : s.Sound := by
    refine run_invariant (I := Sound) ⟨?_, by simp, by simp, by simp⟩ (fun s op sound => sound.step op) ops
    simpa [rows] using unique
  have follows : Follows first variantId s.nextCall (∃ row ∈ s.db.abTestAssignments, row.key = first.key) s' := by
    refine run_invariant (I := Follows first variantId s.nextCall _) ?_ (fun s op follows => follows.step op) later
    exact ⟨sound, member, returned, id, fun c old made => absurd (sound.below c old) (by omega)⟩
  refine ⟨sound.single member returned, fun c old key other value => sound.agree member old key returned value,
    fun c made id key => ⟨fun other value => follows.sound.agree follows.member made key returned value, fun placed => ?_⟩⟩
  rcases follows.later c made id key placed with started | again
  · exact Or.inr ⟨started, follows.read made key placed started⟩
  · exact Or.inl again

end Follows

namespace Concurrent

local instance concurrentText : PyText := PyText.plain

/-- A running test of two emails that sends everybody to the first. -/
def running : Db where
  assets := [⟨3, 1, 0, none, .email, .scheduled, none, none, [], true, none, none⟩,
    ⟨4, 1, 0, none, .email, .scheduled, none, none, [], true, none, none⟩]
  abTests := [{ id := 5, tenantId := 1, campaignId := 0, name := "subject", hypothesis := none, primaryMetric := "open"
                status := .running, variantAId := some 3, variantBId := some 4
                trafficSplit := .obj [("111", .int 100)] }]

def ann : AssignmentKey := ⟨1, 5, "ann"⟩

/-- Two sessions race for `ann` and pick under different splits; the second
waits until the first has committed. -/
def race : List AssignOp :=
  [.call 0 ann, .call 1 ann, .read 0, .read 1, .pick 0, .editSplit 5 (.obj [("1111", .int 100)]), .pick 1, .insert 0,
    .insert 1, .reread 0, .commit 0, .insert 1, .reread 1]

theorem assigned_variant_is_stable_race :
    let s := Lib.run Sessions.step { db := running } race
    s.calls = [⟨0, 0, ann, .returned 3⟩, ⟨1, 1, ann, .returned 3⟩] ∧
      (∀ c ∈ s.calls, c.key = ann → ∀ other, c.phase = .returned other → other = 3) ∧
      ∀ later, ∀ c ∈ (Lib.run Sessions.step s later).calls, s.nextCall ≤ c.id → c.key = ann →
        ∀ other, c.phase = .returned other → other = 3 := by
  intro s
  have reached : s.calls = [⟨0, 0, ann, .returned 3⟩, ⟨1, 1, ann, .returned 3⟩] := by decide +kernel
  have first : (⟨0, 0, ann, .returned 3⟩ : AssignCall) ∈ s.calls := by
    rw [reached]
    exact List.mem_cons_self ..
  have unique : (running.abTestAssignments.map AbTestAssignment.key).Nodup := List.nodup_nil
  have stable := fun later => assigned_variant_is_stable unique race later _ first 3 rfl
  exact ⟨reached, (stable []).2.1, fun later c member made key => ((stable later).2.2 c member made key).1⟩

end Concurrent

end Sessions

end MarketingAgents
