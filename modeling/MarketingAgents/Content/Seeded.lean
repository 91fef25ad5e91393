import MarketingAgents.Content.Writes

namespace MarketingAgents

open Lib PyText

/-- The rows, with the ids from `next` on. -/
def numberedFrom (next : Uuid) : List ContentAsset → List ContentAsset
  | [] => []
  | a :: rows => { a with id := next } :: numberedFrom (next + 1) rows

theorem numberedFrom_ids (next : Uuid) (rows : List ContentAsset) :
    (numberedFrom next rows).map ContentAsset.id = List.range' next rows.length := by
  induction rows generalizing next with
  | nil => rfl
  | cons a rows ih => rw [numberedFrom, List.map_cons, ih, List.length_cons, List.range'_succ]

theorem numberedFrom_append (next : Uuid) (rows more : List ContentAsset) :
    numberedFrom next (rows ++ more) = numberedFrom next rows ++ numberedFrom (next + rows.length) more := by
  induction rows generalizing next with
  | nil => rfl
  | cons a rows ih =>
    have shift : next + 1 + rows.length = next + (rows.length + 1) := Nat.add_right_comm next 1 rows.length
    rw [List.cons_append, numberedFrom, ih, numberedFrom, List.length_cons, List.cons_append, shift]

theorem insertAssets_eq (db : Db) (rows : List ContentAsset) :
    insertAssets db rows = ({ db with
      assets := db.assets ++ numberedFrom db.nextId rows
      nextId := db.nextId + rows.length }, List.range' db.nextId rows.length) := by
  induction rows generalizing db with
  | nil => simp [insertAssets, numberedFrom]
  | cons a rows ih =>
    simp only [insertAssets, ih, Db.insertAsset, numberedFrom, List.length_cons, List.range'_succ, List.append_assoc,
      List.cons_append, List.nil_append, Prod.mk.injEq, and_true, Db.mk.injEq, true_and]
    exact Nat.add_right_comm db.nextId 1 rows.length

theorem insertGroups_eq (db : Db) (groups : List (Option AbTestSpec × List ContentAsset)) :
    (insertGroups db groups).1 = { db with
      assets := db.assets ++ numberedFrom db.nextId (groups.flatMap Prod.snd)
      nextId := db.nextId + (groups.flatMap Prod.snd).length } ∧
    (insertGroups db groups).2.flatMap Prod.snd = List.range' db.nextId (groups.flatMap Prod.snd).length := by
  induction groups generalizing db with
  | nil => simp [insertGroups, numberedFrom]
  | cons group groups ih =>
    obtain ⟨spec, rows⟩ := group
    obtain ⟨state, ids⟩ := ih (insertAssets db rows).1
    rw [insertAssets_eq] at state ids
    simp only [insertGroups, insertAssets_eq, List.flatMap_cons]
    refine ⟨?_, ?_⟩
    · rw [state]
      simp only [numberedFrom_append, List.append_assoc, List.length_append, Db.mk.injEq, true_and, and_true]
      exact Nat.add_assoc ..
    · rw [ids, List.length_append, ← List.range'_append_1]

theorem wf_numbered {db : Db} (wf : db.Wf) (rows : List ContentAsset) :
    ({ db with assets := db.assets ++ numberedFrom db.nextId rows, nextId := db.nextId + rows.length } : Db).Wf where
  assetIds := by
    have numbers := numberedFrom_ids db.nextId rows
    refine nodup_keys_append wf.assetIds (numbers ▸ List.nodup_range') fun a old b new => ?_
    have numbered : b.id ∈ List.range' db.nextId rows.length := numbers ▸ List.mem_map_of_mem new
    exact ((wf.assetsBelow a old).trans_le (List.mem_range'_1.mp numbered).1).ne
  assetsBelow a member := by
    rcases List.mem_append.mp member with old | new
    · exact (wf.assetsBelow a old).trans_le (Nat.le_add_right ..)
    · have numbered : a.id ∈ List.range' db.nextId rows.length := numberedFrom_ids db.nextId rows ▸ List.mem_map_of_mem new
      exact (List.mem_range'_1.mp numbered).2
  campaignIds := wf.campaignIds
  campaignsBelow c member := (wf.campaignsBelow c member).trans_le (Nat.le_add_right ..)

/-- The row under another link to a test; the rows outside `ids` are as they were. -/
structure Relinked (ids : List Uuid) (old new : ContentAsset) : Prop where
  others : old.id ∉ ids → new = old
  row : ∃ metadata : Dict String Json, new = { old with extraMetadata := metadata } ∧
    ∀ key, key ≠ "ab_test_group_id" → metadata.get? key = old.extraMetadata.get? key

theorem rowOrder_relinked (ids : List Uuid) : RowOrder (Relinked ids) where
  refl a := ⟨fun _ => rfl, a.extraMetadata, rfl, fun _ _ => rfl⟩
  trans := by
    rintro a b c ⟨others, metadata, rfl, same⟩ ⟨others', metadata', rfl, same'⟩
    refine ⟨fun outside => ?_, metadata', rfl, fun key other => (same' key other).trans (same key other)⟩
    rw [others' outside, others outside]
  id := by
    rintro a b ⟨_, metadata, rfl, _⟩
    rfl

/-- Tests as the seeding inserts them, with the ids from `low` to `high`. -/
structure NewTests (low high : Uuid) (tests : List AbTest) : Prop where
  rows : ∀ test ∈ tests, test.status = .designing ∧ test.trafficSplit = .obj [] ∧ test.winnerId = none
  ids : ∀ test ∈ tests, low ≤ test.id ∧ test.id < high
  distinct : (tests.map AbTest.id).Nodup

theorem NewTests.append {low mid high : Uuid} {tests more : List AbTest} (first : NewTests low mid tests)
    (last : NewTests mid high more) (lower : low ≤ mid) (upper : mid ≤ high) : NewTests low high (tests ++ more) where
  rows test member := (List.mem_append.mp member).elim (first.rows test) (last.rows test)
  ids := keys_between_append first.ids last.ids lower upper
  distinct := nodup_keys_append first.distinct last.distinct fun test here test' new =>
    ((first.ids test here).2.trans_le (last.ids test' new).1).ne

/-- What the loop over the planned tests does: new tests, and links to them on the rows of `ids`. -/
structure Linked (ids : List Uuid) (db db' : Db) : Prop extends Rewrites (Relinked ids) db db' where
  tasks : db'.tasks = db.tasks
  decisions : db'.decisions = db.decisions
  abTestAssignments : db'.abTestAssignments = db.abTestAssignments
  tests : ∃ tests, db'.abTests = db.abTests ++ tests ∧ NewTests db.nextId db'.nextId tests

namespace Linked

variable {ids : List Uuid} {db db' db'' : Db}

theorem refl (ids : List Uuid) (db : Db) : Linked ids db db :=
  ⟨.refl (rowOrder_relinked ids) db, rfl, rfl, rfl, [], by simp, by simp, by simp, by simp⟩

theorem trans (first : Linked ids db db') (last : Linked ids db' db'') : Linked ids db db'' where
  toRewrites := first.toRewrites.trans (rowOrder_relinked ids) last.toRewrites
  tasks := last.tasks.trans first.tasks
  decisions := last.decisions.trans first.decisions
  abTestAssignments := last.abTestAssignments.trans first.abTestAssignments
  tests := by
    obtain ⟨tests, value, new⟩ := first.tests
    obtain ⟨more, value', new'⟩ := last.tests
    exact ⟨tests ++ more, by rw [value', value, List.append_assoc], new.append new' first.nextId last.nextId⟩

theorem foldl {ι : Type} {f : Db → ι → Db} {items : List ι}
    (pass : ∀ i ∈ items, ∀ db, db.Wf → Linked ids db (f db i)) (wf : db.Wf) : Linked ids db (items.foldl f db) := by
  induction items generalizing db with
  | nil => exact .refl ids db
  | cons i items ih =>
    have first := pass i (List.mem_cons_self ..) db wf
    exact first.trans (ih (fun j later => pass j (List.mem_cons_of_mem _ later)) (first.wf (rowOrder_relinked ids) wf))

end Linked

theorem tagAsset_linked {ids : List Uuid} {db : Db} (wf : db.Wf) (value : Json) {id : Uuid} (within : id ∈ ids) :
    Linked ids db (db.tagAsset "ab_test_group_id" value id) := by
  unfold Db.tagAsset
  cases found : db.asset? id with
  | none => exact .refl ids db
  | some a =>
    obtain ⟨here, sameId⟩ := Db.asset?_mem found
    have relinked : Relinked ids a { a with extraMetadata := a.extraMetadata.set "ab_test_group_id" value } :=
      ⟨fun outside => absurd (sameId ▸ within) outside, _, rfl, fun key other => Dict.get?_set_ne _ _ other.symm⟩
    exact ⟨.setAsset (rowOrder_relinked ids) wf here relinked, rfl, rfl, rfl, [], by simp [Db.setAsset],
      by simp, by simp, by simp⟩

section Seeding

variable [PyText]

theorem seedAbTest_linked {ids : List Uuid} {db : Db} (wf : db.Wf) (c : Campaign) {group : Option AbTestSpec × List Uuid}
    (within : ∀ id ∈ group.2, id ∈ ids) : Linked ids db (seedAbTest c db group) := by
  obtain ⟨spec, members⟩ := group
  cases spec with
  | none => exact .refl ids db
  | some spec =>
    have inserted : ∀ test : AbTest, test.id = db.nextId → test.status = .designing → test.trafficSplit = .obj [] →
        test.winnerId = none → Linked ids db { db with abTests := db.abTests ++ [test], nextId := db.nextId + 1 } :=
      fun test fresh designing empty undecided =>
        ⟨.of_untouched (rowOrder_relinked ids) (.intro rfl rfl rfl rfl (Nat.le_succ _)), rfl, rfl, rfl, [test], rfl,
          by simp [designing, empty, undecided], by simp [fresh], by simp⟩
    refine Linked.trans ?_ (Linked.foldl (fun id member mid midWf => tagAsset_linked midWf _ (within id member)) ?_)
    · exact inserted _ rfl rfl rfl rfl
    · exact (inserted _ rfl rfl rfl rfl).wf (rowOrder_relinked ids) wf

end Seeding

/-- `enqueue_task` without a key adds one queued row. -/
theorem enqueue_eq {db db' : Db} {args : EnqueueArgs} {now : Int} (unkeyed : args.idempotencyKey = none)
    (done : db.enqueue args now = .ok db') :
    db' = { db with tasks := db.tasks ++ [Queue.newTask args db.nextId now], nextId := db.nextId + 1 } := by
  unfold Db.enqueue Queue.enqueueTask Queue.conflict? at done
  rw [unkeyed] at done
  split at done
  · rename_i tasks task queued
    split at queued
    · simp at queued
    · dsimp only at queued
      split at queued
      · simp at queued
      · cases Except.ok.inj queued
        exact (Except.ok.inj done).symm
  · simp at done

/-- The table of tasks grows by `tasks`, under new ids. -/
structure Queued (db db' : Db) (tasks : List Task) : Prop where
  value : db'.tasks = db.tasks ++ tasks
  ids : ∀ t ∈ tasks, db.nextId ≤ t.id ∧ t.id < db'.nextId
  distinct : (tasks.map Task.id).Nodup

namespace Queued

variable {db db' db'' : Db} {tasks more : List Task}

theorem none (same : db'.tasks = db.tasks) : Queued db db' [] := ⟨by simp [same], by simp, by simp⟩

theorem one {args : EnqueueArgs} {now : Int} (value : db'.tasks = db.tasks ++ [Queue.newTask args db.nextId now])
    (nextId : db.nextId < db'.nextId) : Queued db db' [Queue.newTask args db.nextId now] where
  value := value
  ids t member := by
    rw [List.mem_singleton.mp member]
    exact ⟨le_rfl, nextId⟩
  distinct := List.nodup_singleton _

theorem of_enqueue {args : EnqueueArgs} {now : Int} (unkeyed : args.idempotencyKey = .none)
    (done : db.enqueue args now = .ok db') : Queued db db' [Queue.newTask args db.nextId now] := by
  rw [enqueue_eq unkeyed done]
  exact one rfl (Nat.lt_succ_self _)

theorem last {t : Task} (queued : Queued db db' [t]) : t ∈ db'.tasks :=
  queued.value ▸ List.mem_append_right _ (List.mem_singleton_self t)

theorem append (first : Queued db db' tasks) (last : Queued db' db'' more) (lower : db.nextId ≤ db'.nextId)
    (upper : db'.nextId ≤ db''.nextId) : Queued db db'' (tasks ++ more) where
  value := by rw [last.value, first.value, List.append_assoc]
  ids := keys_between_append first.ids last.ids lower upper
  distinct := nodup_keys_append first.distinct last.distinct fun t here t' new =>
    ((first.ids t here).2.trans_le (last.ids t' new).1).ne

theorem widen {start : Db} (queued : Queued db db' tasks) (same : db.tasks = start.tasks)
    (lower : start.nextId ≤ db.nextId) : Queued start db' tasks where
  value := same ▸ queued.value
  ids t member := ⟨lower.trans (queued.ids t member).1, (queued.ids t member).2⟩
  distinct := queued.distinct

end Queued

/-- The loop that enqueues one task per item adds these tasks. -/
theorem foldlM_enqueue_eq {ι : Type} {args : ι → EnqueueArgs} (unkeyed : ∀ i, (args i).idempotencyKey = none) {now : Int}
    {items : List ι} {db db' : Db} (done : items.foldlM (fun db i => db.enqueue (args i) now) db = .ok db') :
    ∃ tasks, db' = { db with tasks := db.tasks ++ tasks, nextId := db'.nextId } ∧ db.nextId ≤ db'.nextId ∧
      Queued db db' tasks ∧ List.Forall₂ (fun i t => ∃ id, t = Queue.newTask (args i) id now) items tasks := by
  induction items generalizing db with
  | nil =>
    simp only [List.foldlM_nil, pure_eq_ok] at done
    subst done
    exact ⟨[], by simp, le_rfl, .none rfl, .nil⟩
  | cons i items ih =>
    simp only [List.foldlM_cons, bind_eq_ok] at done
    obtain ⟨next, first, rest⟩ := done
    obtain ⟨tasks, value, bound, queued, related⟩ := ih rest
    have one := enqueue_eq (unkeyed i) first
    subst one
    refine ⟨Queue.newTask (args i) db.nextId now :: tasks, ?_, (Nat.le_succ _).trans bound, ?_, .cons ⟨_, rfl⟩ related⟩
    · rw [value]
      simp
    · exact (Queued.one rfl (Nat.lt_succ_self _)).append queued (Nat.le_succ _) bound

/-- The row as planned, with its id and its link to a test. -/
structure Planted (planned stored : ContentAsset) : Prop where
  row : stored = { planned with id := stored.id, extraMetadata := stored.extraMetadata }
  metadata : ∀ key, key ≠ "ab_test_group_id" → stored.extraMetadata.get? key = planned.extraMetadata.get? key

theorem forall₂_planted {ids : List Uuid} {next : Uuid} {planned stored : List ContentAsset}
    (related : List.Forall₂ (Relinked ids) (numberedFrom next planned) stored) :
    List.Forall₂ Planted planned stored := by
  induction planned generalizing next stored with
  | nil =>
    cases related
    exact .nil
  | cons a planned ih =>
    cases related with
    | cons head tail =>
      obtain ⟨_, metadata, rfl, same⟩ := head
      exact .cons ⟨rfl, same⟩ (ih tail)

section Seeding

variable [PyText]

/-- The rows of the accepted proposal, before they are stored. -/
def seedRows (db : Db) (c : Campaign) : List ContentAsset :=
  (db.acceptedProposal? c.id).toList.flatMap fun accepted =>
    (((db.touchpoints.filter (·.proposalId = accepted.id)).insertionSort touchpointOrder).filterMap
      (seedTouchpoint db c (parseAbTestSpecs accepted.payload))).flatMap Prod.snd

/-- A planned row is requested and required, belongs to the campaign, and is one variant of one touchpoint. -/
theorem seedRows_planned {db : Db} {c : Campaign} {a : ContentAsset} (member : a ∈ seedRows db c) :
    a.status = .requested ∧ a.isRequired = true ∧ a.campaignId = c.id ∧ a.tenantId = c.tenantId := by
  simp only [seedRows, List.mem_flatMap, List.mem_filterMap] at member
  obtain ⟨accepted, _, group, ⟨tp, _, planned⟩, here⟩ := member
  unfold seedTouchpoint at planned
  obtain ⟨plan, _, rfl⟩ := Option.map_eq_some_iff.mp planned
  obtain ⟨variant, _, rfl⟩ := List.mem_map.mp here
  exact ⟨rfl, rfl, rfl, rfl⟩

/-- What `seed_assets_for_campaign` leaves: rows as planned behind the old
ones, tests in design, and one queued task for each row. -/
structure Seeded (db : Db) (c : Campaign) (now : Int) (db' : Db) (ids : List Uuid) : Prop where
  campaigns : db'.campaigns = db.campaigns
  decisions : db'.decisions = db.decisions
  abTestAssignments : db'.abTestAssignments = db.abTestAssignments
  nextId : db.nextId ≤ db'.nextId
  rows : ∃ rows, db'.assets = db.assets ++ rows ∧ rows.map ContentAsset.id = ids ∧
    (∀ a ∈ rows, db.nextId ≤ a.id ∧ a.id < db'.nextId) ∧ List.Forall₂ Planted (seedRows db c) rows
  tests : ∃ tests, db'.abTests = db.abTests ++ tests ∧ NewTests db.nextId db'.nextId tests
  tasks : ∃ tasks agentId, Queued db db' tasks ∧
    List.Forall₂ (fun id t => ∃ taskId, t = Queue.newTask (generateTask c agentId id) taskId now) ids tasks

theorem seedTouchpoint_ensureAgent (db : Db) (tenantId : Uuid) (kind : AgentKind) :
    seedTouchpoint (db.ensureAgent tenantId kind).1 = seedTouchpoint db := by
  unfold Db.ensureAgent
  split <;> rfl

/-- The seeding put together: rows numbered through from the next id, their tests
linked to them, and a task for each row. -/
theorem Seeded.of_linked {start db linked last : Db} {c : Campaign} {now : Int} {agentId : Uuid} {ids : List Uuid}
    {tasks : List Task} (wf : db.Wf) (same : SameCore start db)
    (numbered : ids = List.range' db.nextId (seedRows start c).length)
    (link : Linked ids { db with
      assets := db.assets ++ numberedFrom db.nextId (seedRows start c)
      nextId := db.nextId + (seedRows start c).length } linked)
    (value : last = { linked with tasks := linked.tasks ++ tasks, nextId := last.nextId })
    (bound : linked.nextId ≤ last.nextId) (grows : Queued linked last tasks)
    (queued : List.Forall₂ (fun id t => ∃ taskId, t = Queue.newTask (generateTask c agentId id) taskId now) ids tasks) :
    Seeded start c now last ids := by
  have grown : start.nextId ≤ linked.nextId := same.nextId.trans ((Nat.le_add_right ..).trans link.nextId)
  have assets : last.assets = linked.assets := by rw [value]
  have abTests : last.abTests = linked.abTests := by rw [value]
  refine
    { campaigns := ?_, decisions := ?_, abTestAssignments := ?_, nextId := grown.trans bound, rows := ?_, tests := ?_,
      tasks := ⟨tasks, agentId, grows.widen (link.tasks.trans same.tasks) grown, queued⟩ }
  · rw [value]
    exact link.campaigns.trans same.campaigns
  · rw [value]
    exact link.decisions.trans same.decisions
  · rw [value]
    exact link.abTestAssignments.trans same.abTestAssignments
  · obtain ⟨old, new, split, unchanged, related⟩ := forall₂_append_split link.assets
    have kept : old = db.assets := by
      have equal : List.Forall₂ Eq db.assets old := by
        refine (List.forall₂_iff_zip.mpr ⟨unchanged.length_eq, fun {a b} pair => ?_⟩)
        have below := wf.assetsBelow a (List.of_mem_zip pair).1
        refine (((List.forall₂_iff_zip.mp unchanged).2 pair).others fun listed => ?_).symm
        rw [numbered] at listed
        exact absurd below (Nat.not_lt.mpr (List.mem_range'_1.mp listed).1)
      rw [List.forall₂_eq_eq_eq] at equal
      exact equal.symm
    have sameIds : new.map ContentAsset.id = ids := by
      rw [forall₂_map_eq ContentAsset.id (rowOrder_relinked ids).id related, numberedFrom_ids, numbered]
    refine ⟨new, by rw [assets, split, kept, same.assets], sameIds, fun a member => ?_, forall₂_planted related⟩
    have listed : a.id ∈ List.range' db.nextId (seedRows start c).length :=
      numbered ▸ sameIds ▸ List.mem_map_of_mem member
    obtain ⟨above, below⟩ := List.mem_range'_1.mp listed
    exact ⟨same.nextId.trans above, below.trans_le (link.nextId.trans bound)⟩
  · obtain ⟨tests, appended, new⟩ := link.tests
    have lower : start.nextId ≤ db.nextId + (seedRows start c).length := same.nextId.trans (Nat.le_add_right ..)
    refine ⟨tests, by rw [abTests, appended, same.abTests], new.rows, fun test member => ?_, new.distinct⟩
    exact ⟨lower.trans (new.ids test member).1, (new.ids test member).2.trans_le bound⟩

theorem seedAssetsForCampaign_seeded {db db' : Db} (wf : db.Wf) {c : Campaign} {now : Int} {ids : List Uuid}
    (done : seedAssetsForCampaign db c now = .ok (db', ids)) : Seeded db c now db' ids := by
  simp only [seedAssetsForCampaign, bind_eq_ok, pure_eq_ok, Prod.mk.injEq, orRaise_eq_ok,
    seedTouchpoint_ensureAgent] at done
  obtain ⟨accepted, chosen, _, _, _, _, last, queued, rfl, rfl⟩ := done
  have same := sameCore_ensureAgent db c.tenantId .contentCreator
  have agentWf := same.untouched.wf rowOrder_eq wf
  have rows : (((db.touchpoints.filter (·.proposalId = accepted.id)).insertionSort touchpointOrder).filterMap
      (seedTouchpoint db c (parseAbTestSpecs accepted.payload))).flatMap Prod.snd = seedRows db c := by
    simp [seedRows, chosen]
  generalize ((db.touchpoints.filter (·.proposalId = accepted.id)).insertionSort touchpointOrder).filterMap
    (seedTouchpoint db c (parseAbTestSpecs accepted.payload)) = groups at queued rows ⊢
  obtain ⟨state, ids⟩ := insertGroups_eq (db.ensureAgent c.tenantId .contentCreator).1 groups
  rw [rows] at state ids
  have grown := wf_numbered agentWf (seedRows db c)
  rw [← state] at grown
  have linked : ∀ idGroups : List (Option AbTestSpec × List Uuid), Linked (idGroups.flatMap Prod.snd)
      (insertGroups (db.ensureAgent c.tenantId .contentCreator).1 groups).1
      (idGroups.foldl (seedAbTest c) (insertGroups (db.ensureAgent c.tenantId .contentCreator).1 groups).1) := fun _ =>
    Linked.foldl (fun group member mid midWf => seedAbTest_linked midWf c fun id here =>
      List.mem_flatMap.mpr ⟨group, member, here⟩) grown
  obtain ⟨tasks, value, bound, grows, related⟩ := foldlM_enqueue_eq (fun _ => rfl) queued
  exact .of_linked agentWf same ids (state ▸ linked _) value bound grows related

end Seeding

end MarketingAgents
