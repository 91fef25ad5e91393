import MarketingAgents.Agents.EmailAccounting
import MarketingAgents.Delivery.Attempts
import MarketingAgents.Delivery.Transitions

namespace MarketingAgents

open Lib PyText

/-- A post: whose, of which asset, to which channel. -/
structure Post where
  tenantId : Uuid
  assetId : Uuid
  channelId : Uuid
deriving DecidableEq

def SocialPlan.post (plan : SocialPlan) : Post := ⟨plan.asset.tenantId, plan.asset.id, plan.channel.id⟩

/-- The key the attempt of a post is filed under. -/
def Post.key [PyText] (p : Post) : String := "asset:" ++ uuidStr p.assetId ++ ":channel:" ++ uuidStr p.channelId

/-- `str.strip` leaves a text that begins with a letter and ends with a UUID. -/
class StripText [PyText] : Prop where
  strip_key : ∀ middle id, strip ("asset:" ++ middle ++ uuidStr id) = "asset:" ++ middle ++ uuidStr id

namespace Phase

/-- The post of a handler that has yet to look it up in the ledger. -/
def sought : Phase → Option Post
  | .begunSocial plan => some plan.post
  | _ => none

/-- The post of a handler that has not found it in the ledger. -/
def making : Phase → Option Post
  | .checkedSocial plan => some plan.post
  | _ => none

/-- The post of a handler that has got an id for it. -/
def posted : Phase → Option Post
  | .calledSocial plan ⟨true, .ok _⟩ => some plan.post
  | _ => none

/-- The post of a handler between its look-up and its commit. -/
def underway (phase : Phase) : Option Post := phase.making <|> phase.posted

theorem underway_of_making {phase : Phase} {p : Post} (making : phase.making = some p) : phase.underway = some p := by
  rw [underway, making]
  rfl

theorem underway_of_posted {phase : Phase} {p : Post} (posted : phase.posted = some p) : phase.underway = some p := by
  cases phase with
  | calledSocial plan outcome => exact posted
  | claimed | begunEmail | calledEmail | begunSocial | checkedSocial | returned | raised => cases posted

theorem loaded_of_underway {phase : Phase} {p : Post} (underway : phase.underway = some p) : phase.loaded ≠ none := by
  cases phase with
  | checkedSocial | calledSocial => exact nofun
  | claimed | begunEmail | calledEmail | begunSocial | returned | raised => cases underway

end Phase

section Ledger

variable {rows : List DispatchAttempt} {call row : DispatchAttempt}

/-- A row after a call is the call's own, or a stored one with its columns. -/
theorem mem_upsertDispatchAttempt (member : row ∈ upsertDispatchAttempt rows call) : row = call ∨ ∃ old ∈ rows,
    row.tenantId = old.tenantId ∧ row.idempotencyKey = old.idempotencyKey ∧ row.status = old.status ∧
      row.providerMessageId = old.providerMessageId := by
  unfold upsertDispatchAttempt at member
  split at member
  · rcases mem_updateWhere.mp member with ⟨old, here, _, rfl⟩ | ⟨here, _⟩
    · exact Or.inr ⟨old, here, rfl, rfl, rfl, rfl⟩
    · exact Or.inr ⟨row, here, rfl, rfl, rfl, rfl⟩
  · rcases List.mem_append.mp member with old | new
    · exact Or.inr ⟨row, old, rfl, rfl, rfl, rfl⟩
    · exact Or.inl (List.mem_singleton.mp new)

/-- No row goes, and the call's key is filed. -/
theorem upsertDispatchAttempt_files (rows : List DispatchAttempt) (call : DispatchAttempt) :
    (∀ old ∈ rows, ∃ row ∈ upsertDispatchAttempt rows call, row.tenantId = old.tenantId ∧
      row.idempotencyKey = old.idempotencyKey) ∧
    ∃ row ∈ upsertDispatchAttempt rows call, row.tenantId = call.tenantId ∧ row.idempotencyKey = call.idempotencyKey := by
  have kept : ∀ old ∈ rows, ∃ row ∈ upsertDispatchAttempt rows call, row.tenantId = old.tenantId ∧
      row.idempotencyKey = old.idempotencyKey := by
    intro old member
    unfold upsertDispatchAttempt
    split
    · by_cases hit : old.tenantId = call.tenantId ∧ old.idempotencyKey = call.idempotencyKey ∧ old.status ≠ .sent
      · exact ⟨_, mem_updateWhere.mpr (Or.inl ⟨old, member, decide_eq_true hit, rfl⟩), rfl, rfl⟩
      · exact ⟨old, mem_updateWhere.mpr (Or.inr ⟨member, decide_eq_false hit⟩), rfl, rfl⟩
    · exact ⟨old, List.mem_append_left _ member, rfl, rfl⟩
  refine ⟨kept, ?_⟩
  by_cases stored : rows.any fun old => old.tenantId = call.tenantId ∧ old.idempotencyKey = call.idempotencyKey
  · obtain ⟨old, member, same⟩ := List.any_eq_true.mp stored
    have same := of_decide_eq_true same
    obtain ⟨row, there, tenant, key⟩ := kept old member
    exact ⟨row, there, tenant.trans same.1, key.trans same.2⟩
  · unfold upsertDispatchAttempt
    rw [if_neg stored]
    exact ⟨call, List.mem_append_right _ (List.mem_singleton_self _), rfl, rfl⟩

/-- The attempt has the post's id on the platform. -/
def DispatchAttempt.Posted (row : DispatchAttempt) : Prop :=
  row.status = .sent ∧ ∃ urn, row.providerMessageId = some urn ∧ urn ≠ ""

variable [PyText]

/-- The attempts under keys of posts are of posts that were made. -/
def PostsSent (rows : List DispatchAttempt) : Prop := ∀ row ∈ rows, ∀ p : Post, row.idempotencyKey = p.key → row.Posted

def Filed (rows : List DispatchAttempt) (p : Post) : Prop :=
  ∃ row ∈ rows, row.tenantId = p.tenantId ∧ row.idempotencyKey = p.key

theorem PostsSent.upsert (sent : PostsSent rows) (new : ∀ p : Post, call.idempotencyKey = p.key → call.Posted) :
    PostsSent (upsertDispatchAttempt rows call) := by
  intro row member p key
  rcases mem_upsertDispatchAttempt member with rfl | ⟨old, here, _, sameKey, status, messageId⟩
  · exact new p key
  · have posted := sent old here p (sameKey ▸ key)
    exact ⟨status.trans posted.1, messageId ▸ posted.2⟩

theorem PostsSent.upserts {calls : List DispatchAttempt} (sent : PostsSent rows)
    (new : ∀ call ∈ calls, ∀ p : Post, call.idempotencyKey = p.key → call.Posted) :
    PostsSent (calls.foldl upsertDispatchAttempt rows) :=
  List.foldlRecOn (motive := PostsSent) _ _ sent fun _ kept call member => kept.upsert (new call member)

theorem Filed.upserts {p : Post} (filed : Filed rows p) (calls : List DispatchAttempt) :
    Filed (calls.foldl upsertDispatchAttempt rows) p := by
  refine List.foldlRecOn (motive := fun reached => Filed reached p) _ _ filed fun reached kept call _ => ?_
  obtain ⟨old, here, tenant, key⟩ := kept
  obtain ⟨row, there, sameTenant, sameKey⟩ := (upsertDispatchAttempt_files reached call).1 old here
  exact ⟨row, there, sameTenant.trans tenant, sameKey.trans key⟩

/-- The key of an address is no key of a post. -/
theorem emailAttempts_not_posts [UuidText] (plan : EmailPlan) (result : Option DispatchResult) (now : Int) :
    ∀ call ∈ emailAttempts plan result now, ∀ p : Post, call.idempotencyKey ≠ p.key := by
  have apart : ∀ (id : Uuid) (email : String) (p : Post), idempotencyKey id email ≠ p.key := by
    intro id email p same
    have tag : ":channel:" = ":" ++ "channel:" := by decide
    have channel : p.key = "asset:" ++ uuidStr p.assetId ++ (":" ++ ("channel:" ++ uuidStr p.channelId)) := by
      rw [Post.key, tag]
      simp only [String.append_assoc]
    have letters := congrArg String.toList (assetKey_inj ((idempotencyKey_eq id email).symm.trans (same.trans channel))).2
    simp [String.toList_append] at letters
  intro call member p
  rcases List.mem_append.mp member with skipped | told
  · obtain ⟨entry, _, rfl⟩ := List.mem_map.mp skipped
    exact apart _ _ p
  · cases result with
    | none => cases told
    | some result =>
      obtain ⟨entry, _, rfl⟩ := List.mem_map.mp told
      cases verdictOf result entry.2 <;> exact apart _ _ p

/-- What is filed is found, and then the platform is not called. -/
theorem lookUpSocial_filed [StripText] {db : Db} {plan : SocialPlan} (sent : PostsSent db.dispatchAttempts)
    (filed : Filed db.dispatchAttempts plan.post) : lookUpSocial db plan ≠ none := by
  have key : strip plan.idempotencyKey = plan.post.key := by
    have whole : plan.idempotencyKey = "asset:" ++ (uuidStr plan.asset.id ++ ":channel:") ++ uuidStr plan.channel.id := by
      simp only [SocialPlan.idempotencyKey, String.append_assoc]
    rw [whole, StripText.strip_key, ← whole]
    rfl
  have cached : (cachedPost db plan).isSome := by
    unfold cachedPost
    obtain ⟨row, member, tenant, sameKey⟩ := filed
    cases found : db.dispatchAttempts.find? fun row => row.tenantId = plan.asset.tenantId ∧
        row.idempotencyKey = strip plan.idempotencyKey with
    | none =>
      have missed := List.find?_eq_none.mp found row member
      exact absurd (decide_eq_true (⟨tenant, sameKey.trans key.symm⟩ : _ ∧ _)) missed
    | some first =>
      have hit : first.tenantId = plan.asset.tenantId ∧ first.idempotencyKey = strip plan.idempotencyKey := by
        simpa using List.find?_some found
      obtain ⟨status, urn, messageId, real⟩ := sent first (List.mem_of_find?_eq_some found) plan.post (hit.2.trans key)
      simp [status, messageId, real, Option.filter]
  intro unknown
  rw [lookUpSocial_unknown unknown] at cached
  cases cached

end Ledger

/-- A step, and how many posts the platform makes of it if it is a call of a platform. -/
structure FeedOp where
  op : WorldOp
  made : Nat := 0

namespace World

/-- A handler looks its post up while no other stands between its look-up and its commit with the same post;
a platform makes one post at most in a call, and its id is returned; no transaction is discarded that has one,
and the ledger takes its row. -/
def PostsApart [PyText] (w : World) (s : FeedOp) : Prop :=
  match s.op with
  | .call id _ social _ => ∀ e ∈ w.execution? id,
      (∀ p ∈ e.phase.sought, ∀ x ∈ w.executions, x.phase.underway ≠ some p) ∧
        (e.phase.making ≠ none → s.made = 0 ∨ s.made = 1 ∧ social.named = true)
  | .abort id _ | .crash id => ∀ e ∈ w.execution? id, e.phase.posted = none
  | .commit id now => ∀ e ∈ w.execution? id, e.phase.posted ≠ none → e.phase.Fits now
  | _ => True

instance [PyText] (w : World) : (s : FeedOp) → Decidable (w.PostsApart s)
  | ⟨.call id _ social _, made⟩ => inferInstanceAs (Decidable (∀ e ∈ w.execution? id,
      (∀ p ∈ e.phase.sought, ∀ x ∈ w.executions, x.phase.underway ≠ some p) ∧
        (e.phase.making ≠ none → made = 0 ∨ made = 1 ∧ social.named = true)))
  | ⟨.abort id _, _⟩ | ⟨.crash id, _⟩ => inferInstanceAs (Decidable (∀ e ∈ w.execution? id, e.phase.posted = none))
  | ⟨.commit id now, _⟩ =>
    inferInstanceAs (Decidable (∀ e ∈ w.execution? id, e.phase.posted ≠ none → e.phase.Fits now))
  | ⟨.claim .., _⟩ | ⟨.begin .., _⟩ | ⟨.complete .., _⟩ | ⟨.fail .., _⟩ | ⟨.reap .., _⟩ | ⟨.enqueue .., _⟩
  | ⟨.operate .., _⟩ => inferInstanceAs (Decidable True)

/-- The posts that the platform makes of a call from this phase. -/
def madePosts (made : Nat) : Phase → List Post
  | .checkedSocial plan => List.replicate made plan.post
  | _ => []

def postsOf (w : World) (s : FeedOp) : List Post :=
  match s.op with
  | .call id .. => ((w.execution? id).map fun e => madePosts s.made e.phase).getD []
  | _ => []

variable [PyText] {w : World}

/-- A step between transactions: open ones stay, and nobody stands behind a call anew. -/
structure Between (w w' : World) : Prop where
  fresh : ∀ e ∈ w'.executions, e ∈ w.executions ∨ e.phase.loaded = none
  kept : ∀ e ∈ w.executions, e.phase.loaded ≠ none → e ∈ w'.executions
  attempts : SameAttempts w.db w'.db

omit [PyText] in
theorem Between.refl (w : World) : Between w w := ⟨fun _ here => Or.inl here, fun _ here _ => here, rfl⟩

omit [PyText] in
theorem between_leave (numbered : w.Numbered) {e : Execution} (member : e ∈ w.executions) (waiting : e.phase.loaded = none)
    (tasks : List Task) : Between w ((w.remove e.id).setTasks tasks) where
  fresh x here := Or.inl ((numbered.mem_remove member x).mp here).1
  kept x here loaded := (numbered.mem_remove member x).mpr ⟨here, fun same => loaded (same ▸ waiting)⟩
  attempts := rfl

theorem claim_between (w : World) (workerId : String) (leaseSeconds : Int) (tie : Nat) (now : Int) :
    Between w (w.step (.claim workerId leaseSeconds tie now)) := by
  simp only [step]
  split
  · refine ⟨fun x here => ?_, fun x here _ => List.mem_cons_of_mem _ here, rfl⟩
    rcases List.mem_cons.mp here with rfl | old
    · exact Or.inr rfl
    · exact Or.inl old
  · exact .refl w

omit [PyText] in
theorem within_between {id : Nat} {f : Execution → World} (step : ∀ e ∈ w.executions, e.id = id → Between w (f e)) :
    Between w (w.within id f) := by
  unfold within
  split
  · rename_i e found
    exact step e (execution?_mem found).1 (execution?_mem found).2
  · exact .refl w

theorem operate_between (w : World) (action : Op) (now : Int) : Between w (w.step (.operate action now)) := by
  simp only [step]
  split
  · exact .refl w
  · rename_i desk
    exact ⟨fun _ here => Or.inl here, fun _ here _ => here, Op.run_attempts w.db (by simpa using desk) now⟩

theorem complete_between (numbered : w.Numbered) (id : Nat) (outputData : Dict String Json) (now : Int) :
    Between w (w.step (.complete id outputData now)) := by
  refine within_between fun e member same => ?_
  split
  · rename_i done
    exact same ▸ between_leave numbered member (ended_loaded done) _
  · exact .refl w

theorem fail_between (numbered : w.Numbered) (id : Nat) (error : String) (permanent : Bool) (draw : Fin (2 ^ 53)) (now : Int) :
    Between w (w.step (.fail id error permanent draw now)) := by
  refine within_between fun e member same => ?_
  split
  · rename_i done
    exact same ▸ between_leave numbered member (ended_loaded done) _
  · exact .refl w

theorem reap_between (w : World) (now : Int) : Between w (w.step (.reap now)) :=
  ⟨fun _ here => Or.inl here, fun _ here _ => here, rfl⟩

theorem enqueue_between (w : World) (args : EnqueueArgs) (now : Int) : Between w (w.step (.enqueue args now)) :=
  ⟨fun _ here => Or.inl here, fun _ here _ => here, .orKeep fun _ done => .enqueue done⟩

end World

/-- The world, and what has been posted in it, newest first. -/
structure Feed where
  world : World
  posts : List Post := []

namespace Feed

open World

variable [PyText]

def step (f : Feed) (s : FeedOp) : Feed := ⟨f.world.step s.op, f.world.postsOf s ++ f.posts⟩

/-- A handler with a result has an id of a post. -/
def Answered (phase : Phase) : Prop :=
  ∀ plan outcome result, phase = .calledSocial plan outcome → outcome.result = .ok result → result.providerPostId ≠ ""

/-- What has been posted is filed, or an open transaction holds it; handlers are underway with posts of their own,
and the post of one that is about to make it has not been made. -/
structure Sound (f : Feed) : Prop where
  numbered : f.world.Numbered
  sent : PostsSent f.world.db.dispatchAttempts
  answered : ∀ e ∈ f.world.executions, Answered e.phase
  alone : ∀ e ∈ f.world.executions, ∀ p, e.phase.underway = some p →
    ∀ x ∈ f.world.executions, x.phase.underway = some p → x = e
  unmade : ∀ e ∈ f.world.executions, ∀ p, e.phase.making = some p → p ∉ f.posts
  filed : ∀ p ∈ f.posts, Filed f.world.db.dispatchAttempts p ∨ ∃ e ∈ f.world.executions, e.phase.posted = some p
  nodup : f.posts.Nodup

/-- An execution that enters a phase is answered, and alone with the post it is underway with. -/
structure Joins (w : World) (posts : List Post) (e : Execution) : Prop where
  answered : Answered e.phase
  alone : ∀ p, e.phase.underway = some p → ∀ x ∈ w.executions, x.phase.underway = some p → x = e
  unmade : ∀ p, e.phase.making = some p → p ∉ posts

omit [PyText] in
theorem Joins.idle {w : World} {posts : List Post} {e : Execution} (answered : Answered e.phase)
    (idle : e.phase.underway = none) : Joins w posts e where
  answered := answered
  alone p underway := by
    rw [idle] at underway
    cases underway
  unmade p making := by
    rw [Phase.underway_of_making making] at idle
    cases idle

omit [PyText] in
theorem Joins.closed {w : World} {posts : List Post} {e : Execution} (closed : e.phase.loaded = none) : Joins w posts e := by
  refine .idle ?_ ?_
  · intro plan outcome result same
    rw [same] at closed
    cases closed
  · cases underway : e.phase.underway with
    | none => rfl
    | some p => exact absurd closed (Phase.loaded_of_underway underway)

variable {f : Feed} {w' : World}

/-- The step lemma behind every case that posts nothing. -/
theorem Sound.step_of (sound : f.Sound) (numbered : w'.Numbered) (sent : PostsSent w'.db.dispatchAttempts)
    (kept : ∀ p, Filed f.world.db.dispatchAttempts p → Filed w'.db.dispatchAttempts p)
    (fresh : ∀ e ∈ w'.executions, e ∈ f.world.executions ∨ Joins w' f.posts e)
    (held : ∀ e ∈ f.world.executions, ∀ p, e.phase.posted = some p →
      e ∈ w'.executions ∨ Filed w'.db.dispatchAttempts p) : Sound ⟨w', f.posts⟩ where
  numbered := numbered
  sent := sent
  answered e here := (fresh e here).elim (sound.answered e) Joins.answered
  alone e here p underway x there same := by
    rcases fresh e here with old | new
    · rcases fresh x there with also | other
      · exact sound.alone e old p underway x also same
      · exact (other.alone p same e here underway).symm
    · exact new.alone p underway x there same
  unmade e here := (fresh e here).elim (sound.unmade e) Joins.unmade
  filed p member := by
    rcases sound.filed p member with old | ⟨e, here, posted⟩
    · exact Or.inl (kept p old)
    · rcases held e here p posted with there | filed
      · exact Or.inr ⟨e, there, posted⟩
      · exact Or.inl filed
  nodup := sound.nodup

theorem Sound.between (sound : f.Sound) (numbered : w'.Numbered) (between : Between f.world w') : Sound ⟨w', f.posts⟩ :=
  sound.step_of numbered (between.attempts.symm ▸ sound.sent) (fun _ filed => between.attempts.symm ▸ filed)
    (fun e here => (between.fresh e here).imp_right .closed)
    fun e here _ posted => Or.inl (between.kept e here (Phase.loaded_of_underway (Phase.underway_of_posted posted)))

/-- An execution that holds no post goes on to another phase. -/
theorem Sound.swap (sound : f.Sound) {e e' : Execution} (member : e ∈ f.world.executions) (sameId : e'.id = e.id)
    (silent : e.phase.posted = none) (joins : Joins (f.world.replace e') f.posts e') :
    Sound ⟨f.world.replace e', f.posts⟩ := by
  have swapped := sound.numbered.swapped member sameId
  refine sound.step_of (sound.numbered.replace member sameId) sound.sent (fun _ filed => filed) (swapped.fresh joins)
    fun x here p posted => Or.inl (swapped.kept (P := fun x => x.phase.posted = some p) ?_ x here posted)
  rw [silent]
  exact nofun

theorem begin_sound (sound : f.Sound) {secret : String} {now : Int} {e : Execution} (member : e ∈ f.world.executions) :
    Sound ⟨f.world.beginStep secret now e, f.posts⟩ := by
  unfold beginStep
  split
  · rename_i claimed
    have silent : e.phase.posted = none := by rw [claimed]; rfl
    split
    · rename_i phase begun
      have joins : ∀ started, Joins (f.world.replace { e with phase := phase, startedStopped := started }) f.posts
          { e with phase := phase, startedStopped := started } := by
        intro started
        obtain ⟨error, rfl⟩ | ⟨_, _, ⟨rfl, _⟩ | ⟨_, _, rfl⟩ | ⟨_, _, rfl⟩⟩ := beginHandler_cases begun
        · exact .closed rfl
        · exact .closed rfl
        · exact .idle (fun _ _ _ same => by cases same) rfl
        · exact .idle (fun _ _ _ same => by cases same) rfl
      exact sound.swap member rfl silent (joins _)
    · exact sound
  · exact sound

/-- The columns of the world that the feed does not read. -/
theorem Sound.relog (sound : f.Sound) {w : World} (db : w.db = f.world.db) (executions : w.executions = f.world.executions)
    (next : w.nextExecution = f.world.nextExecution) : Sound ⟨w, f.posts⟩ where
  numbered := ⟨executions ▸ sound.numbered.nodup, fun e here => next ▸ sound.numbered.below e (executions ▸ here)⟩
  sent := db ▸ sound.sent
  answered e here := sound.answered e (executions ▸ here)
  alone e here p underway x there := sound.alone e (executions ▸ here) p underway x (executions ▸ there)
  unmade e here := sound.unmade e (executions ▸ here)
  filed p member := (sound.filed p member).imp (db ▸ id) fun ⟨e, here, posted⟩ => ⟨e, executions ▸ here, posted⟩
  nodup := sound.nodup

theorem cachedPost_named {db : Db} {plan : SocialPlan} {postId : String} (cached : cachedPost db plan = some postId) :
    postId ≠ "" := by
  unfold cachedPost at cached
  obtain ⟨row, _, stored⟩ := Option.bind_eq_some_iff.mp cached
  by_cases sent : row.status = .sent
  · rw [if_pos sent] at stored
    simpa using (Option.filter_eq_some_iff.mp stored).2
  · rw [if_neg sent] at stored
    cases stored

/-- The look-up calls no platform, and a result it has is the id that the ledger gave. -/
theorem lookUpSocial_silent {db : Db} {plan : SocialPlan} {outcome : SocialOutcome}
    (known : lookUpSocial db plan = some outcome) :
    Phase.posted (.calledSocial plan outcome) = none ∧ Answered (.calledSocial plan outcome) := by
  obtain ⟨called, result⟩ := outcome
  obtain ⟨rfl, cached⟩ := lookUpSocial_known known
  refine ⟨rfl, fun plan' outcome' result' same returned => ?_⟩
  cases same
  exact cachedPost_named (cached result' returned)

omit [PyText] in
/-- The platform gives an id to what it returns. -/
theorem publishSocial_answered {plan : SocialPlan} {answer : SocialAnswer} :
    Answered (.calledSocial plan (publishSocial answer)) := by
  intro plan' outcome result same returned
  cases same
  cases answer with
  | posted urn =>
    by_cases empty : urn = ""
    · simp [publishSocial, empty] at returned
    · simp only [publishSocial, if_neg empty, Except.ok.injEq] at returned
      subst returned
      exact empty
  | revoked | unreachable | rejected => cases returned

omit [PyText] in
theorem publishSocial_named {plan : SocialPlan} {answer : SocialAnswer} (named : answer.named = true) :
    Phase.posted (.calledSocial plan (publishSocial answer)) = some plan.post := by
  cases answer with
  | posted urn =>
    have real : urn ≠ "" := of_decide_eq_true named
    simp only [publishSocial, if_neg real, Phase.posted]
  | revoked | unreachable | rejected => cases named

omit [PyText] in
/-- A handler that holds a post is underway with that one. -/
theorem underway_publishSocial {plan : SocialPlan} {answer : SocialAnswer} {p : Post}
    (underway : Phase.underway (.calledSocial plan (publishSocial answer)) = some p) : plan.post = p := by
  cases answer with
  | posted urn =>
    by_cases empty : urn = ""
    · simp [publishSocial, empty, Phase.underway, Phase.making, Phase.posted] at underway
    · simpa [publishSocial, empty, Phase.underway, Phase.making, Phase.posted] using underway
  | revoked | unreachable | rejected => cases underway

/-- A post that an open transaction holds is the newest. -/
theorem Sound.cons (sound : f.Sound) {e : Execution} {p : Post} (member : e ∈ f.world.executions)
    (holds : e.phase.posted = some p) (silent : e.phase.making = none) (unposted : p ∉ f.posts) :
    Sound ⟨f.world, p :: f.posts⟩ where
  numbered := sound.numbered
  sent := sound.sent
  answered := sound.answered
  alone := sound.alone
  unmade x here q making again := by
    rcases List.mem_cons.mp again with rfl | old
    · have same := sound.alone e member q (Phase.underway_of_posted holds) x here (Phase.underway_of_making making)
      rw [same, silent] at making
      cases making
    · exact sound.unmade x here q making old
  filed q here := by
    rcases List.mem_cons.mp here with rfl | old
    · exact Or.inr ⟨e, member, holds⟩
    · exact sound.filed q old
  nodup := List.nodup_cons.mpr ⟨unposted, sound.nodup⟩

/-- The look-up of a handler, with no other one underway with its post. -/
theorem lookUp_sound [StripText] (sound : f.Sound) {e : Execution} {plan : SocialPlan} (member : e ∈ f.world.executions)
    (phase : e.phase = .begunSocial plan) (apart : ∀ x ∈ f.world.executions, x.phase.underway ≠ some plan.post)
    (unknown : lookUpSocial f.world.db plan = none) :
    Sound ⟨f.world.replace { e with phase := .checkedSocial plan }, f.posts⟩ := by
  have silent : e.phase.posted = none := by rw [phase]; rfl
  have sameId : ({ e with phase := .checkedSocial plan } : Execution).id = e.id := rfl
  refine sound.swap member sameId silent
    ⟨fun _ _ _ same => (by cases same), fun p mine x there same => ?_, fun p mine again => ?_⟩
  · obtain rfl := Option.some.inj mine
    rcases (sound.numbered.swapped member sameId x).mp there with new | old
    · exact new
    · exact absurd same (apart x old.1)
  · obtain rfl := Option.some.inj mine
    -- nothing is filed, and a transaction that holds the post would be underway with it
    rcases sound.filed _ again with filed | ⟨x, here, holds⟩
    · exact lookUpSocial_filed sound.sent filed unknown
    · exact apart x here (Phase.underway_of_posted holds)

/-- The call of a handler that is about to post. -/
theorem post_sound (sound : f.Sound) {social : SocialAnswer} {made : Nat} {e : Execution} {plan : SocialPlan}
    (member : e ∈ f.world.executions) (phase : e.phase = .checkedSocial plan)
    (once : made = 0 ∨ made = 1 ∧ social.named = true) :
    Sound ⟨f.world.replace { e with phase := .calledSocial plan (publishSocial social) },
      List.replicate made plan.post ++ f.posts⟩ := by
  have silent : e.phase.posted = none := by rw [phase]; rfl
  have making : e.phase.making = some plan.post := by rw [phase]; rfl
  have sameId : ({ e with phase := .calledSocial plan (publishSocial social) } : Execution).id = e.id := rfl
  have joins : Joins (f.world.replace { e with phase := .calledSocial plan (publishSocial social) }) f.posts
      { e with phase := .calledSocial plan (publishSocial social) } := by
    refine ⟨publishSocial_answered, fun p mine x there same => ?_, nofun⟩
    rcases (sound.numbered.swapped member sameId x).mp there with new | ⟨old, other⟩
    · exact new
    · obtain rfl := underway_publishSocial mine
      exact absurd (sound.alone e member _ (Phase.underway_of_making making) x old same) other
  have swapped := sound.swap member sameId silent joins
  rcases once with rfl | ⟨rfl, named⟩
  · exact swapped
  · exact swapped.cons (List.mem_cons_self ..) (publishSocial_named named) rfl (sound.unmade e member _ making)

theorem call_sound [StripText] (sound : f.Sound) {answer : SendgridResponse} {social : SocialAnswer} {batchId : Uuid}
    {made : Nat} {e : Execution} (member : e ∈ f.world.executions)
    (apart : ∀ p ∈ e.phase.sought, ∀ x ∈ f.world.executions, x.phase.underway ≠ some p)
    (once : e.phase.making ≠ none → made = 0 ∨ made = 1 ∧ social.named = true) :
    Sound ⟨f.world.callStep answer social batchId e, madePosts made e.phase ++ f.posts⟩ := by
  cases phase : e.phase with
  | begunEmail plan =>
    have silent : e.phase.posted = none := by rw [phase]; rfl
    have swapped :
        Sound ⟨f.world.replace { e with phase := .calledEmail plan (callEmail f.world.db plan answer batchId) }, f.posts⟩ :=
      sound.swap member rfl silent (.idle (fun _ _ _ same => by cases same) rfl)
    simp only [callStep, phase]
    exact swapped.relog rfl rfl rfl
  | begunSocial plan =>
    have silent : e.phase.posted = none := by rw [phase]; rfl
    have alone := apart plan.post (by rw [phase]; rfl)
    simp only [callStep, phase]
    split
    · rename_i outcome known
      obtain ⟨unposted, answered⟩ := lookUpSocial_silent known
      exact sound.swap member rfl silent (.idle answered unposted)
    · rename_i unknown
      exact lookUp_sound sound member phase alone unknown
  | checkedSocial plan =>
    have posted := post_sound sound member phase (once (by rw [phase]; exact nofun))
    simp only [callStep, phase]
    exact posted.relog rfl rfl rfl
  | claimed | calledEmail | calledSocial | returned | raised =>
    simp only [callStep, phase]
    exact sound

theorem finishSocial_attempts {db db' : Db} {plan : SocialPlan} {outcome : SocialOutcome} {now : Int}
    (done : finishSocial db plan outcome now = .ok db') :
    ((∀ result, outcome.result ≠ .ok result) ∧ db'.dispatchAttempts = db.dispatchAttempts) ∨
      ∃ result, outcome.result = .ok result ∧
        db'.dispatchAttempts = upsertDispatchAttempt db.dispatchAttempts (socialAttempt plan result now) := by
  unfold finishSocial at done
  split at done
  · rename_i message revoked
    cases done
    have failed : ∀ result, outcome.result ≠ .ok result := by simp [revoked]
    refine Or.inl ⟨failed, ?_⟩
    unfold commitRevoked pauseCampaign Db.writeStatus
    split
    · rfl
    · split <;> rfl
  · cases done
  · rename_i result returned
    exact Or.inr ⟨result, returned, (maybeGoLive_ledger (commitSocial_eq_ok.mp (mapError_eq_ok.mp done)).2).1⟩

/-- A committed handler files the post it made, and keeps what is filed. -/
theorem finishHandler_files [UuidText] {db db' : Db} {phase : Phase} {now : Int} (sent : PostsSent db.dispatchAttempts)
    (answered : Answered phase) (done : finishHandler db now phase = some (.ok db')) :
    PostsSent db'.dispatchAttempts ∧ (∀ p, Filed db.dispatchAttempts p → Filed db'.dispatchAttempts p) ∧
      ∀ p, phase.posted = some p → Filed db'.dispatchAttempts p := by
  cases phase with
  | calledEmail plan outcome =>
    obtain ⟨⟨result, attempts⟩, _⟩ := finishEmail_ledger (Option.some.inj done)
    rw [attempts]
    exact ⟨sent.upserts fun call listed p key => absurd key (emailAttempts_not_posts plan result now call listed p),
      fun p filed => filed.upserts _, nofun⟩
  | calledSocial plan outcome =>
    rcases finishSocial_attempts (Option.some.inj done) with ⟨failed, attempts⟩ | ⟨result, returned, attempts⟩
    · rw [attempts]
      refine ⟨sent, fun _ filed => filed, fun p posted => ?_⟩
      obtain ⟨called, result⟩ := outcome
      cases result with
      | error => cases called <;> cases posted
      | ok result => exact absurd rfl (failed result)
    · have real := answered plan outcome result rfl returned
      rw [attempts]
      refine ⟨sent.upsert fun p _ => ⟨rfl, _, rfl, real⟩, fun p filed => filed.upserts [_], fun p posted => ?_⟩
      have same : plan.post = p := by
        obtain ⟨called, result⟩ := outcome
        cases called <;> cases result <;> cases posted
        rfl
      exact same ▸ (upsertDispatchAttempt_files _ _).2
  | claimed | begunEmail | begunSocial | checkedSocial | returned | raised => simp [finishHandler] at done

theorem finishHandler_error_posted {db : Db} {phase : Phase} {now : Int} {error : HandlerError}
    (failed : finishHandler db now phase = some (.error error)) (fits : phase.posted ≠ none → phase.Fits now) :
    phase.posted = none := by
  cases phase with
  | calledSocial plan outcome =>
    obtain ⟨called, _ | result⟩ := outcome
    · cases called <;> rfl
    · cases called with
      | false => rfl
      | true =>
        have taken : ∃ db', commitSocial db plan result now = .ok db' :=
          ⟨_, commitSocial_eq_ok.mpr ⟨fits nofun, maybeGoLive_eq ..⟩⟩
        obtain ⟨db', taken⟩ := taken
        simp only [finishHandler, finishSocial, taken, Except.mapError, Option.some.injEq] at failed
        cases failed
  | claimed | begunEmail | calledEmail | begunSocial | checkedSocial | returned | raised => rfl

theorem commit_sound [UuidText] (sound : f.Sound) {now : Int} {e : Execution} (member : e ∈ f.world.executions)
    (fits : e.phase.posted ≠ none → e.phase.Fits now) : Sound ⟨f.world.commitStep now e, f.posts⟩ := by
  have sameId : ∀ phase, ({ e with phase := phase } : Execution).id = e.id := fun _ => rfl
  unfold commitStep
  split
  · rename_i db finished
    obtain ⟨sent, kept, held⟩ := finishHandler_files sound.sent (sound.answered e member) finished
    have swapped := sound.numbered.swapped member (sameId .returned)
    have renumbered := sound.numbered.replace member (sameId .returned)
    refine sound.step_of ⟨renumbered.nodup, renumbered.below⟩ sent kept
      (swapped.fresh (.closed rfl)) fun x here p posted => ?_
    by_cases mine : x = e
    · exact Or.inr (held p (mine ▸ posted))
    · exact Or.inl ((swapped x).mpr (Or.inr ⟨here, mine⟩))
  · rename_i error failed
    exact sound.swap member (sameId _) (finishHandler_error_posted failed fits) (.closed rfl)
  · exact sound

theorem within_sound {id : Nat} {g : Execution → World} (sound : f.Sound)
    (step : ∀ e ∈ f.world.executions, e.id = id → Sound ⟨g e, f.posts⟩) : Sound ⟨f.world.within id g, f.posts⟩ := by
  unfold within
  split
  · rename_i e found
    exact step e (execution?_mem found).1 (execution?_mem found).2
  · exact sound

/-- An execution goes that holds no post. -/
theorem crash_sound (sound : f.Sound) {id : Nat} (silent : ∀ e ∈ f.world.execution? id, e.phase.posted = none) :
    Sound ⟨f.world.remove id, f.posts⟩ := by
  refine sound.step_of (sound.numbered.remove id) sound.sent (fun _ filed => filed)
    (fun x here => Or.inl (List.mem_of_mem_filter here)) fun x here p posted => Or.inl ?_
  refine List.mem_filter.mpr ⟨here, decide_eq_true fun same => ?_⟩
  rw [silent x (same ▸ sound.numbered.execution?_of_mem here)] at posted
  cases posted

theorem Sound.step [UuidText] [StripText] (sound : f.Sound) {s : FeedOp} (apart : f.world.PostsApart s) :
    (f.step s).Sound := by
  obtain ⟨op, made⟩ := s
  have renumbered := (step_trans sound.numbered op).2
  cases op with
  | claim workerId leaseSeconds tie now =>
    exact sound.between renumbered (claim_between f.world workerId leaseSeconds tie now)
  | begin id secret now => exact within_sound sound fun e member _ => begin_sound sound member
  | call id answer social batchId =>
    simp only [Feed.step, World.step, within, postsOf]
    cases found : f.world.execution? id with
    | none => exact sound
    | some e =>
      obtain ⟨alone, once⟩ := apart e found
      exact call_sound sound (execution?_mem found).1 alone once
  | commit id now =>
    exact within_sound sound fun e member same =>
      commit_sound sound member (apart e (same ▸ sound.numbered.execution?_of_mem member))
  | abort id error =>
    refine within_sound sound fun e member same => ?_
    split
    · exact sound.swap member rfl (apart e (same ▸ sound.numbered.execution?_of_mem member)) (.closed rfl)
    · exact sound
  | crash id => exact crash_sound sound apart
  | complete id outputData now => exact sound.between renumbered (complete_between sound.numbered id outputData now)
  | fail id error permanent draw now =>
    exact sound.between renumbered (fail_between sound.numbered id error permanent draw now)
  | reap now => exact sound.between renumbered (reap_between f.world now)
  | enqueue args now => exact sound.between renumbered (enqueue_between f.world args now)
  | operate action now => exact sound.between renumbered (operate_between f.world action now)

theorem Sound.start {db : Db} (sent : PostsSent db.dispatchAttempts) : Sound ⟨{ db := db }, []⟩ where
  numbered := ⟨List.nodup_nil, by simp⟩
  sent := sent
  answered := by simp
  alone := by simp
  unmade := by simp
  filed := by simp
  nodup := List.nodup_nil

/-- In every run in which no two handlers stand between the look-up and the commit of one post, a call makes one
post at most and returns its id, and no transaction is lost that has one, each post is made at most once, over the
retries of all tasks; the posts made are filed in the ledger, or about to be. The look-up and the call are two steps,
so that without the first condition a second worker may post between them. -/
theorem posts_made_at_most_once [UuidText] [StripText] {db : Db} (sent : PostsSent db.dispatchAttempts)
    {ops : List FeedOp} (apart : Along Feed.step (fun f s => f.world.PostsApart s) ⟨{ db := db }, []⟩ ops) :
    let f := Lib.run Feed.step ⟨{ db := db }, []⟩ ops
    f.posts.Nodup ∧ ∀ p ∈ f.posts,
      Filed f.world.db.dispatchAttempts p ∨ ∃ e ∈ f.world.executions, e.phase.posted = some p := by
  have sound := apart.invariant (Sound.start sent) fun _ _ sound permitted => sound.step permitted
  exact ⟨sound.nodup, sound.filed⟩

end Feed

namespace Feed.Linkedin

open World

local instance linkedinText : PyText := PyText.plain

local instance : UuidText where
  uuidStr_colon id colon := by
    have letters : (uuidStr id).toList = List.replicate id '1' := String.toList_ofList
    rw [letters] at colon
    exact absurd (List.eq_of_mem_replicate colon) (by decide)

local instance : StripText := ⟨fun _ _ => rfl⟩

/-- A live campaign has one post scheduled for a page. -/
def page : Db where
  campaigns := [⟨0, 1, "spring", .live, 5, "EUR", 0, 100, [], none⟩]
  assets := [{
    id := 1, tenantId := 1, campaignId := 0, channelId := some 2, assetType := .socialPost, status := .scheduled
    title := some "news" }]
  channels := [⟨2, 1, .linkedin, [("page_urn", .str "urn:page")]⟩]
  credentials := [⟨1, some 2, "linkedin", [("access_token", .str "token")]⟩]
  nextId := 3

def dispatch : EnqueueArgs where
  tenantId := 1
  agentId := 9
  skillName := "distribution.dispatch_social"
  inputData := [("asset_id", .str "1")]

/-- Two workers have read the asset before the first one commits its post. -/
def overlapping : List FeedOp :=
  [⟨.enqueue dispatch 1, 0⟩, ⟨.enqueue dispatch 1, 0⟩, ⟨.claim "w1" 300 0 2, 0⟩, ⟨.claim "w2" 300 0 2, 0⟩,
    ⟨.begin 0 "secret" 3, 0⟩, ⟨.begin 1 "secret" 3, 0⟩,
    ⟨.call 0 (.response 202 "" "m1") (.posted "urn:1") 90, 0⟩, ⟨.call 0 (.response 202 "" "m1") (.posted "urn:1") 90, 1⟩,
    ⟨.commit 0 4, 0⟩, ⟨.call 1 (.response 202 "" "m2") (.posted "urn:2") 91, 1⟩, ⟨.commit 1 5, 0⟩]

theorem posts_made_at_most_once_overlapping :
    let f := Lib.run Feed.step ⟨{ db := page }, []⟩ overlapping
    f.posts = [⟨1, 1, 2⟩] ∧ (f.world.executions.all fun e => ended e) ∧ f.posts.Nodup :=
  ⟨by decide +kernel, by decide +kernel, (posts_made_at_most_once (by simp [PostsSent, page]) (by decide +kernel)).1⟩

end Feed.Linkedin

end MarketingAgents
