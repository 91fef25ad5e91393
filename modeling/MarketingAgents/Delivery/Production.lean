import MarketingAgents.Content.Gathered
import MarketingAgents.Delivery.FailedGenerations
import MarketingAgents.Delivery.Turns

namespace MarketingAgents

open Lib PyText

/-- One pass of `run_once` over the task it claimed; `handled` once the
handler has returned or raised. -/
structure WorkerPass where
  id : Nat
  task : Task
  handled : Bool := false

/-- The database while content is produced, and the workers' passes. -/
structure Production where
  db : Db
  passes : List WorkerPass := []
  nextPass : Nat := 0

/-- Requests, and the transactions of the workers. -/
inductive ProductionOp where
  | request (op : Op) (now : Int)
  | claim (workerId : String) (leaseSeconds : Int) (tie : Nat) (now : Int)
  | handle (pass : Nat) (apiKey : Bool) (generation : Generation) (now : Int)
  | complete (pass : Nat) (outputData : Dict String Json) (now : Int)
  | fail (pass : Nat) (error : String) (permanent : Bool) (draw : Fin (2 ^ 53)) (now : Int)
  | crash (pass : Nat)
  | reap (now : Int)

/-- The operation is not a request of the production: it is the worker's, the
assistant's with content or approvals, or promotes a variant. -/
def Op.apart : Op → Bool
  | .assistant _ (.synthesiseAudience ..) => false
  | .generateAsset .. | .promoteAbTest .. | .assistant .. => true
  | _ => false

def generateSkill : String := "content_creator.generate_asset"

namespace Production

def pass? (s : Production) (id : Nat) : Option WorkerPass := s.passes.find? (·.id = id)

/-- The handler of the pass has ended, or is one that is not followed here. -/
def ended (p : WorkerPass) : Bool := p.handled || p.task.skillName ≠ generateSkill

def replace (s : Production) (p : WorkerPass) : Production := { s with passes := p :: s.passes.filter (·.id ≠ p.id) }

def drop (s : Production) (id : Nat) : Production := { s with passes := s.passes.filter (·.id ≠ id) }

def within (s : Production) (id : Nat) (f : WorkerPass → Production) : Production :=
  match s.pass? id with
  | some p => f p
  | none => s

section Steps

variable [PyText]

/-- The transaction of the handler; an exception rolls it back. -/
def handleStep (s : Production) (apiKey : Bool) (generation : Generation) (now : Int) (p : WorkerPass) : Production :=
  if ended p then s
  else match contentCreatorGenerateAssetHandler apiKey generation [] now s.db p.task with
    | (session, .ok _) => { s.replace { p with handled := true } with db := session }
    | (_, .error _) => s.replace { p with handled := true }

def step (s : Production) : ProductionOp → Production
  | .request op now => if op.apart then s else { s with db := op.run s.db now }
  | .claim workerId leaseSeconds tie now =>
    match Queue.claimNext s.db.tasks workerId leaseSeconds tie now with
    | (tasks, some t) =>
      { db := { s.db with tasks := tasks }
        passes := { id := s.nextPass, task := t } :: s.passes
        nextPass := s.nextPass + 1 }
    | (_, none) => s
  | .handle id apiKey generation now => s.within id (s.handleStep apiKey generation now)
  | .complete id outputData now => s.within id fun p =>
    if ended p then { s.drop id with db := s.db.queue (.complete p.task.id outputData now) } else s
  | .fail id error permanent draw now => s.within id fun p =>
    if ended p then { s.drop id with db := s.db.queue (.fail p.task.id error permanent draw now) } else s
  | .crash id => s.drop id
  | .reap now => { s with db := s.db.queue (.reap now) }

/-- The handler of the task has ended and the queue does not know it yet. -/
def busy (s : Production) (id : Uuid) : Prop := ∃ p ∈ s.passes, p.task.id = id ∧ p.handled = true

/-- The generation of a required asset is not run while its campaign waits for approvals. -/
def Settled (s : Production) : ProductionOp → Prop
  | .handle id .. => ∀ p ∈ s.pass? id, ended p = false → ∀ a ∈ s.db.assets, World.taskAssetId p.task = .ok a.id →
      a.isRequired = true → ¬ AwaitsApproval s.db a.campaignId
  | _ => True

instance (s : Production) : (op : ProductionOp) → Decidable (s.Settled op)
  | .handle id .. => inferInstanceAs (Decidable (∀ p ∈ s.pass? id, ended p = false → ∀ a ∈ s.db.assets,
      World.taskAssetId p.task = .ok a.id → a.isRequired = true → ¬ AwaitsApproval s.db a.campaignId))
  | .request .. | .claim .. | .complete .. | .fail .. | .crash .. | .reap .. => inferInstanceAs (Decidable True)

/-- The passes are over tasks of the table, and what waits for approvals is gathered. -/
structure Sound (s : Production) : Prop where
  wf : s.db.Wf
  ids : TaskIds s.db
  known : ∀ p ∈ s.passes, ∃ t ∈ s.db.tasks, SameTask p.task t
  gathered : Gathered s.busy s.db

end Steps

end Production

theorem tame_of_sets : Tame fun cause _ => ∃ campaignId status, cause = .sets campaignId status where
  generates _ _ _ := by simp
  overwrites _ _ := by simp
  promotes _ _ := by simp
  creates _ _ := by simp

section Tame

variable [PyText] {db : Db}

/-- The requests of the production leave generation to the workers. -/
theorem Op.request_writes (wf : db.Wf) {op : Op} (request : op.apart = false) (now : Int) :
    ∃ may, Tame may ∧ Writes may now db (op.run db now) := by
  cases op with
  | generateAsset | promoteAbTest => simp [Op.apart] at request
  | assistant user call =>
    cases call with
    | synthesiseAudience campaignId members =>
      exact ⟨_, tame_of_sets, Assistant.synthesiseAudience_writes members fun _ _ c _ _ _ _ => ⟨c.id, _, rfl⟩⟩
    | _ => simp [Op.apart] at request
  | addVariant user apiKey testId =>
    refine ⟨_, ⟨fun _ _ _ asked => asked.1.elim, fun _ _ => id, ?_, fun _ _ => id⟩, Op.run_writes wf _⟩
    simp [Op.may, Op.promotes]
  | _ =>
    refine ⟨_, ⟨fun _ _ _ asked => asked.1.elim, fun _ _ => id, ?_, fun _ _ => False.elim⟩, Op.run_writes wf _⟩
    simp [Op.may, Op.promotes]

theorem Op.tame_of_generate (wf : db.Wf) {assetId : Uuid} (generation : Generation)
    (settled : ∀ a ∈ db.assets, a.id = assetId → a.isRequired = true → ¬ AwaitsApproval db a.campaignId) :
    Tame ((Op.generateAsset assetId generation).may db) where
  generates a status mid asked required := by
    obtain ⟨⟨found, _⟩, whole⟩ := asked
    obtain ⟨here, sameId⟩ := Db.asset?_mem found
    rw [whole (wf.assetsBelow a here)]
    exact settled a here sameId required
  overwrites _ _ := id
  promotes _ _ asked := by simp [Op.may, Op.promotes] at asked
  creates _ _ asked := asked.elim

end Tame

section Keep

variable [PyText] {busy busy' : Uuid → Prop} {db db' : Db}

/-- Assets and campaigns are as they were, and no task that makes a required asset is lost. -/
theorem Gathered.keep (holds : Gathered busy db) (same : Untouched db db')
    (keeps : ∀ a ∈ db.assets, a.isRequired = true → AwaitsApproval db a.campaignId → ∀ t ∈ db.tasks, t.isOpen = true →
      Pursues (some generateSkill) a t → ¬ busy t.id → ∃ t' ∈ db'.tasks, SameTask t t' ∧ t'.isOpen = true ∧ ¬ busy' t'.id) :
    Gathered busy' db' where
  late a member out := by
    unfold PastLaunch
    rw [same.campaigns]
    exact holds.late a (same.assets_eq ▸ member) out
  kept a member := holds.kept a (same.assets_eq ▸ member)
  gathered a member required pending := by
    have here : a ∈ db.assets := same.assets_eq ▸ member
    have waits : AwaitsApproval db a.campaignId := by
      unfold AwaitsApproval
      rw [← same.campaigns]
      exact pending
    rcases holds.gathered a here required waits with reviewable | making
    · exact Or.inl reviewable
    · exact Or.inr (making.keep (keeps a here required waits))

theorem Gathered.fewer (holds : Gathered busy db) (less : ∀ id, busy' id → busy id) : Gathered busy' db :=
  holds.keep (.refl rowOrder_eq db) fun _ _ _ _ t here isOpen _ free =>
    ⟨t, here, .refl t, isOpen, fun occupied => free (less t.id occupied)⟩

/-- A call of the queue that ends no task whose generation is still to run. -/
theorem Gathered.queue (holds : Gathered busy db) (ids : TaskIds db) {op : QueueOp}
    (lasts : ∀ t ∈ db.tasks, t.skillName = generateSkill → ¬ busy t.id → ¬ Queue.Ends op t) : Gathered busy (db.queue op) := by
  refine holds.keep (untouched_queue db op) fun a _ _ _ t here isOpen names free => ?_
  have skill : t.skillName = generateSkill := (Option.some.inj names.1).symm
  obtain ⟨t', there, same, isOpen'⟩ := Queue.stays_open ids.distinct here isOpen (lasts t here skill free)
  exact ⟨t', there, same, isOpen', same.id.symm ▸ free⟩

end Keep

namespace Production

section Sound

variable {s : Production} {p : WorkerPass}

theorem pass?_mem {id : Nat} (found : s.pass? id = some p) : p ∈ s.passes ∧ p.id = id :=
  ⟨List.mem_of_find?_eq_some found, by simpa using List.find?_some found⟩

theorem drop_passes {id : Nat} : ∀ q ∈ (s.drop id).passes,
    q ∈ s.passes ∨ q.handled = false ∧ ∃ t ∈ s.db.tasks, SameTask q.task t :=
  fun _ here => Or.inl (List.mem_of_mem_filter here)

variable [PyText]

theorem Sound.below (sound : s.Sound) {id : Uuid} (busy : s.busy id) : id < s.db.nextId := by
  obtain ⟨p, member, rfl, _⟩ := busy
  obtain ⟨t, here, same⟩ := sound.known p member
  exact same.id ▸ sound.ids.below t here

/-- Writes that leave generation alone keep what is gathered, whichever tasks are taken as busy. -/
theorem Sound.run (sound : s.Sound) {may : Cause → Db → Prop} (tame : Tame may) {busy : Uuid → Prop}
    (below : ∀ id, busy id → id < s.db.nextId) (gathered : Gathered busy s.db) {now : Int} {db : Db}
    (writes : Writes may now s.db db) : db.Wf ∧ Gathered busy db ∧ TaskFlow s.db db := by
  refine writes.induct (I := fun mid => Gathered busy mid ∧ TaskFlow s.db mid) sound.wf ⟨gathered, .refl _⟩ ?_
  intro mid next midWf ⟨holds, flow⟩ write
  have known : ∀ id, busy id → id < mid.nextId := fun id occupied => (below id occupied).trans_le flow.nextId
  exact ⟨holds.write midWf (flow.ids sound.ids) tame known write, flow.trans (write.sendStep midWf).flow⟩

theorem Sound.known_of (sound : s.Sound) {db : Db} (flow : TaskFlow s.db db) {q : WorkerPass} (member : q ∈ s.passes) :
    ∃ t ∈ db.tasks, SameTask q.task t := by
  obtain ⟨t, here, same⟩ := sound.known q member
  obtain ⟨t', there, same'⟩ := flow.kept sound.ids t here
  exact ⟨t', there, same.trans same'⟩

/-- The queue takes a call that ends no task whose generation is still to run, and passes only end. -/
theorem Sound.queue (sound : s.Sound) (op : QueueOp) {s' : Production} (value : s'.db = s.db.queue op)
    (inserts : ∀ args newId now, op ≠ .enqueue args newId now)
    (lasts : ∀ t ∈ s.db.tasks, t.skillName = generateSkill → ¬ s.busy t.id → ¬ Queue.Ends op t)
    (passes : ∀ q ∈ s'.passes, q ∈ s.passes ∨ q.handled = false ∧ ∃ t ∈ s.db.tasks, SameTask q.task t) : s'.Sound where
  wf := by
    rw [value]
    exact (untouched_queue _ _).wf rowOrder_eq sound.wf
  ids := by
    rw [value]
    exact (flow_queue _ inserts).ids sound.ids
  known q member := by
    rw [value]
    rcases passes q member with old | ⟨_, t, here, same⟩
    · exact sound.known_of (flow_queue _ inserts) old
    · obtain ⟨t', there, same'⟩ := (flow_queue s.db inserts).kept sound.ids t here
      exact ⟨t', there, same.trans same'⟩
  gathered := by
    rw [value]
    refine (sound.gathered.queue sound.ids lasts).fewer fun id => ?_
    rintro ⟨q, member, same, handled⟩
    rcases passes q member with old | ⟨unhandled, _⟩
    · exact ⟨q, old, same, handled⟩
    · simp [unhandled] at handled

/-- The task of a pass that may end is busy, or is no generation. -/
theorem Sound.lasts (sound : s.Sound) (member : p ∈ s.passes) (done : ended p = true) {t : Task} (here : t ∈ s.db.tasks)
    (skill : t.skillName = generateSkill) (free : ¬ s.busy t.id) : t.id ≠ p.task.id := by
  intro same
  obtain ⟨t', there, follows⟩ := sound.known p member
  have equal : t' = t := eq_of_key_eq sound.ids.distinct there here (follows.id.trans same.symm)
  subst equal
  simp only [ended, Bool.or_eq_true, decide_eq_true_eq] at done
  rcases done with handled | other
  · exact free ⟨p, member, same.symm, handled⟩
  · exact other (follows.skillName ▸ skill)

theorem handler_ok {db session : Db} {apiKey : Bool} {generation : Generation} {summary output : Dict String Json}
    {now : Int} {task : Task}
    (done : contentCreatorGenerateAssetHandler apiKey generation summary now db task = (session, .ok output)) :
    ∃ assetId, World.taskAssetId task = .ok assetId ∧ session = (Op.generateAsset assetId generation).run db now := by
  unfold contentCreatorGenerateAssetHandler at done
  split at done
  · simp at done
  · split at done
    · simp at done
    · rename_i assetId named
      split at done
      · rename_i state generated
        refine ⟨assetId, named, ?_⟩
        simp only [Prod.mk.injEq] at done
        simp [Op.run, generated, orKeep, Except.map, done.1]
      · simp at done

theorem taskAssetId_of_pursues {a : ContentAsset} {t : Task} (names : Pursues (some generateSkill) a t) :
    World.taskAssetId t = .ok a.id := by
  simp [World.taskAssetId, names.2.1, uuidOf_uuidStr, orRaise]

/-- The task of the pass may be taken as busy where its generation disturbs no approval. -/
theorem Sound.occupied (sound : s.Sound) (member : p ∈ s.passes)
    (settled : ∀ a ∈ s.db.assets, World.taskAssetId p.task = .ok a.id → a.isRequired = true →
      ¬ AwaitsApproval s.db a.campaignId) : Gathered (fun id => s.busy id ∨ id = p.task.id) s.db := by
  refine sound.gathered.keep (.refl rowOrder_eq _) fun a here required waits t there isOpen names free => ?_
  refine ⟨t, there, .refl t, isOpen, fun occupied => ?_⟩
  rcases occupied with old | mine
  · exact free old
  · obtain ⟨t', known, follows⟩ := sound.known p member
    have equal : t' = t := eq_of_key_eq sound.ids.distinct known there (follows.id.trans mine.symm)
    subst equal
    have named := taskAssetId_of_pursues names
    unfold World.taskAssetId at named
    rw [follows.inputData] at named
    exact settled a here named required waits

theorem Sound.occupied_below (sound : s.Sound) (member : p ∈ s.passes) :
    ∀ id, (s.busy id ∨ id = p.task.id) → id < s.db.nextId := by
  rintro id (old | rfl)
  · exact sound.below old
  · obtain ⟨t, here, same⟩ := sound.known p member
    exact same.id ▸ sound.ids.below t here

/-- The pass is handled, and the database is the one its handler committed. -/
theorem Sound.handled (sound : s.Sound) (member : p ∈ s.passes) {db : Db} (wf : db.Wf)
    (gathered : Gathered (fun id => s.busy id ∨ id = p.task.id) db) (flow : TaskFlow s.db db) :
    ({ s.replace { p with handled := true } with db := db } : Production).Sound := by
  have passes : ∀ q ∈ (s.replace { p with handled := true }).passes, q = { p with handled := true } ∨ q ∈ s.passes :=
    fun q here => (List.mem_cons.mp here).imp_right List.mem_of_mem_filter
  have mine := sound.known_of flow member
  refine ⟨wf, flow.ids sound.ids, fun q here => ?_, gathered.fewer ?_⟩
  · rcases passes q here with rfl | old
    · exact mine
    · exact sound.known_of flow old
  · rintro id ⟨q, here, same, handled⟩
    rcases passes q here with rfl | old
    · exact Or.inr same.symm
    · exact Or.inl ⟨q, old, same, handled⟩

/-- The handler runs where it disturbs no approval: the pass is busy from then on, and nobody waits for its task. -/
theorem Sound.handle (sound : s.Sound) (member : p ∈ s.passes) (apiKey : Bool) (generation : Generation) (now : Int)
    (settled : ended p = false → ∀ a ∈ s.db.assets, World.taskAssetId p.task = .ok a.id → a.isRequired = true →
      ¬ AwaitsApproval s.db a.campaignId) : (s.handleStep apiKey generation now p).Sound := by
  unfold handleStep
  split
  · exact sound
  · rename_i unended
    have settled := settled (by simpa using unended)
    have marked := sound.occupied member settled
    split
    · rename_i session output done
      obtain ⟨assetId, named, rfl⟩ := handler_ok done
      have tame : Tame ((Op.generateAsset assetId generation).may s.db) :=
        Op.tame_of_generate sound.wf generation fun a here same required => settled a here (same ▸ named) required
      obtain ⟨wf, gathered, flow⟩ := sound.run tame (sound.occupied_below member) marked (Op.run_writes sound.wf _)
      exact sound.handled member wf gathered flow
    · exact sound.handled member sound.wf marked (.refl _)

theorem Sound.within (sound : s.Sound) {id : Nat} {f : WorkerPass → Production}
    (each : ∀ p, s.pass? id = some p → (f p).Sound) : (s.within id f).Sound := by
  unfold Production.within
  split
  · rename_i p found
    exact each p found
  · exact sound

/-- Where generation stays out of the campaigns that wait for approvals, every step keeps them gathered. -/
theorem Sound.step (sound : s.Sound) {op : ProductionOp} (settled : s.Settled op) : (s.step op).Sound := by
  cases op with
  | request op now =>
    simp only [Production.step]
    split
    · exact sound
    · rename_i request
      obtain ⟨may, tame, writes⟩ := Op.request_writes sound.wf (by simpa using request) now
      obtain ⟨wf, gathered, flow⟩ := sound.run tame (fun id => sound.below) sound.gathered writes
      exact ⟨wf, flow.ids sound.ids, fun q here => sound.known_of flow here, gathered⟩
  | claim workerId leaseSeconds tie now =>
    simp only [Production.step]
    cases next : Queue.nextReady s.db.tasks tie now with
    | none =>
      simp only [Queue.claimNext_none next]
      exact sound
    | some t =>
      simp only [Queue.claimNext_some next]
      refine sound.queue (.claim workerId leaseSeconds tie now) ?_ (by simp) ?_ ?_
      · simp only [Db.queue, Queue.step, Queue.claimNext_some next]
      · intro t here skill free ends
        cases ends with
        | completed named | givenUp named | cancelled named => cases named
      · intro q here
        rcases List.mem_cons.mp here with rfl | old
        · exact Or.inr ⟨rfl, t, (Queue.nextReady_mem next).1, ⟨rfl, rfl, rfl, rfl⟩⟩
        · exact Or.inl old
  | handle id apiKey generation now =>
    refine sound.within fun p found => sound.handle (pass?_mem found).1 apiKey generation now ?_
    exact settled p found
  | complete id outputData now =>
    refine sound.within fun p found => ?_
    split
    · rename_i done
      refine sound.queue _ rfl (by simp) (fun t here skill free ends => ?_) drop_passes
      have other := sound.lasts (pass?_mem found).1 done here skill free
      cases ends with
      | completed named => exact other (QueueOp.complete.inj named).1.symm
      | givenUp named | cancelled named => cases named
    · exact sound
  | fail id error permanent draw now =>
    refine sound.within fun p found => ?_
    split
    · rename_i done
      refine sound.queue _ rfl (by simp) (fun t here skill free ends => ?_) drop_passes
      have other := sound.lasts (pass?_mem found).1 done here skill free
      cases ends with
      | givenUp named => exact other (QueueOp.fail.inj named).1.symm
      | completed named | cancelled named => cases named
    · exact sound
  | crash id =>
    refine ⟨sound.wf, sound.ids, fun q here => sound.known q (List.mem_of_mem_filter here), sound.gathered.fewer ?_⟩
    rintro id ⟨q, here, same, handled⟩
    exact ⟨q, List.mem_of_mem_filter here, same, handled⟩
  | reap now =>
    refine sound.queue _ rfl (by simp) (fun t here skill free ends => ?_) fun q here => Or.inl here
    cases ends with
    | completed named | givenUp named | cancelled named => cases named

/-- In a run that generates no required asset while its campaign waits for
approvals, a campaign that waits and for which no generation is under way has
every required asset where a reviewer's approve reaches it. -/
theorem no_asset_stuck {db : Db} (fresh : db.Fresh) (ids : TaskIds db) {ops : List ProductionOp}
    (settled : Along step Settled { db := db } ops) :
    let s := Lib.run step { db := db } ops
    ∀ c ∈ s.db.campaigns, c.status = .approvalPending →
      (∀ t ∈ s.db.tasks, t.skillName = generateSkill → t.campaignId = some c.id →
        t.status ∉ [.queued, .awaitingRetry, .running]) →
      ∀ a ∈ s.db.assets, a.campaignId = c.id → a.isRequired = true →
        a.status ∈ [.pendingApproval, .approved, .rejected] := by
  intro s c here pending idle a member mine required
  have start : Sound { db := db } := by
    refine ⟨fresh.wf, ids, by simp, ?_⟩
    constructor <;> simp [OutLate, fresh.assets]
  have sound : s.Sound := settled.invariant start fun s op sound permitted => sound.step permitted
  rcases sound.gathered.gathered a member required ⟨c, here, mine.symm, pending⟩ with reviewable | making
  · exact of_decide_eq_true reviewable
  · obtain ⟨t, there, isOpen, names, _⟩ := making
    exact absurd (of_decide_eq_true isOpen) (idle t there (Option.some.inj names.1).symm (mine ▸ names.2.2))

end Sound

namespace Sample

open MarketingAgents.Sample

local instance productionText : PyText := PyText.plain

/-- The content of the campaign is started: its one email is asset 3. -/
def started : List ProductionOp :=
  [.request (.createCampaign manager launch) 1,
    .request (.assistant manager (.synthesiseAudience 0 [("m", [])])) 2,
    .request (.applyTransition manager .manager 0 "set_strategy") 3,
    .request (.applyTransition manager .manager 0 "start_content") 4]

/-- A worker takes the next generation from its claim to its end. -/
def generated (pass : Nat) (now : Int) : List ProductionOp :=
  [.claim "w" 300 0 now, .handle pass true (draft []) now, .complete pass [] now]

/-- The email is drafted and the campaign submitted; then the email is asked
for anew and drafted again, and nothing submits it a second time. -/
theorem regenerated_draft_is_stuck :
    let s := Lib.run step { db := planned }
      (started ++ generated 0 5 ++ [.request (.regenerateAsset manager true 3) 6] ++ generated 1 7)
    planned.Fresh ∧ TaskIds planned ∧ ∃ c ∈ s.db.campaigns, c.status = .approvalPending ∧
      (∀ t ∈ s.db.tasks, t.status ∉ [.queued, .awaitingRetry, .running]) ∧
      ∃ a ∈ s.db.assets, a.campaignId = c.id ∧ a.isRequired = true ∧ a.status = .drafted :=
  ⟨⟨rfl, rfl, rfl, rfl⟩, ⟨by decide, by decide⟩, by decide +kernel⟩

/-- The submission itself leaves the email for a reviewer. -/
theorem no_asset_stuck_submitted :
    let s := Lib.run step { db := planned } (started ++ generated 0 5)
    ∃ c ∈ s.db.campaigns, c.status = .approvalPending ∧ (∃ a ∈ s.db.assets, a.campaignId = c.id ∧ a.isRequired = true) ∧
      ∀ a ∈ s.db.assets, a.campaignId = c.id → a.isRequired = true → a.status ∈ [.pendingApproval, .approved, .rejected] := by
  intro s
  have fresh : planned.Fresh := ⟨rfl, rfl, rfl, rfl⟩
  have settled : Along step Settled { db := planned } (started ++ generated 0 5) := by decide +kernel
  have waits : ∃ c ∈ s.db.campaigns, c.status = .approvalPending ∧
      (∃ a ∈ s.db.assets, a.campaignId = c.id ∧ a.isRequired = true) := by decide +kernel
  have idle : ∀ t ∈ s.db.tasks, t.status ∉ [.queued, .awaitingRetry, .running] := by decide +kernel
  obtain ⟨c, here, pending, required⟩ := waits
  exact ⟨c, here, pending, required,
    no_asset_stuck fresh ⟨by decide, by decide⟩ settled c here pending fun t there _ _ => idle t there⟩

end Sample

end Production

end MarketingAgents
