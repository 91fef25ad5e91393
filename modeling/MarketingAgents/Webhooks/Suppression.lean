import MarketingAgents.Lib.Run
import MarketingAgents.Tools.EmailSuppression
import MarketingAgents.Webhooks.Sendgrid

namespace MarketingAgents

open Lib PyText EmailDispatchTool SendGridConnector

/-- A batch posted to the tenant webhook or to the generic receiver. -/
inductive HookOp where
  | receive (tenantId : Uuid) (secret : Option String) (body : Body) (now : Int)
  | dispatch (tenantId : Uuid) (headers : Dict String String) (body : Body) (now : Int)

namespace HookOp

variable [PyText]

def tenantId : HookOp → Uuid
  | .receive tenantId .. => tenantId
  | .dispatch tenantId .. => tenantId

def body : HookOp → Body
  | .receive _ _ body _ => body
  | .dispatch _ _ body _ => body

/-- The address of an event that asks for suppression. -/
def suppressingAddress (raw : Dict String Json) : Option String :=
  if (suppressionReasonFor (rawEventType raw)).isSome then (rawAddress raw).filter (normalised · ≠ "") else none

/-- The addresses that appear in a bounce, complaint or unsubscribe event of the batch. -/
def suppressingAddresses (op : HookOp) : List String :=
  match op.body with
  | .json payload => (rawEvents payload).filterMap suppressingAddress
  | _ => []

end HookOp

namespace HookStore

variable [PyText]

/-- The committed effect of a delivery; one that raises is rolled back. -/
def step (s : HookStore) : HookOp → HookStore
  | .receive tenantId secret body now =>
    match receiveWebhook s tenantId secret body now with
    | .ok (s, _) => s
    | .error _ => s
  | .dispatch tenantId headers body now =>
    match dispatchWebhook s tenantId headers body now with
    | .ok (s, _) => s
    | .error _ => s

def Accepted (s : HookStore) : HookOp → Prop
  | .receive tenantId secret body now => ∃ done, receiveWebhook s tenantId secret body now = .ok done
  | .dispatch tenantId headers body now =>
    ∃ done, dispatchWebhook s tenantId headers body now = .ok done ∧ done.2.signatureValid = true

def Unseen (s : HookStore) (tenantId : Uuid) (eventId : String) : Prop :=
  ∀ row ∈ s.events, ¬ (row.tenantId = tenantId ∧ row.providerEventId = some eventId)

/-- The batch holds a suppressing event of the address, free of outer blanks,
under an id that is neither stored nor used earlier in the batch. -/
def CarriedByNewId (s : HookStore) (tenantId : Uuid) (body : Body) (address : String) : Prop :=
  ∃ payload first evt rest email, body = .json payload ∧ parseWebhook payload = .ok (first ++ evt :: rest) ∧
    (suppressionReasonFor evt.eventType).isSome ∧ evt.email = some email ∧ lower email = normalised address ∧
    s.Unseen tenantId evt.providerEventId ∧
    ∀ earlier ∈ first, (eventKindFor earlier.eventType).isSome → earlier.providerEventId ≠ evt.providerEventId

/-- What the receivers need for a batch they accept: an address of it is on the
list already, or it reaches the tenant webhook in an event with a new id. -/
def Recordable (s : HookStore) (op : HookOp) : Prop :=
  ∀ address ∈ op.suppressingAddresses,
    Suppressed s.suppressions op.tenantId address ∨
      match op with
      | .receive tenantId _ body _ => s.CarriedByNewId tenantId body address
      | .dispatch .. => False

omit [PyText] in
theorem insertEvent_spec {s s' : HookStore} {tenantId : Uuid} {kind : EventKind} {payload : Dict String Json}
    {eventId : String} {eventAt : Int} {inserted : Option Uuid}
    (done : s.insertEvent tenantId kind payload eventId eventAt = .ok (s', inserted)) :
    s'.suppressions = s.suppressions ∧
    (∀ id, id ≠ eventId → s.Unseen tenantId id → s'.Unseen tenantId id) ∧
    (s.Unseen tenantId eventId → inserted.isSome) := by
  unfold insertEvent at done
  split at done
  · cases done
  · split at done
    · rename_i stored
      cases done
      refine ⟨rfl, fun _ _ unseen => unseen, fun unseen => ?_⟩
      obtain ⟨row, member, same⟩ := stored
      exact absurd same (unseen row member)
    · cases done
      refine ⟨rfl, fun id differs unseen row member => ?_, fun _ => rfl⟩
      rcases List.mem_append.mp member with old | new
      · exact unseen row old
      · rw [List.mem_singleton] at new
        subst new
        exact fun same => differs (Option.some.inj same.2).symm

theorem insertSuppression_keeps {s : HookStore} {tenantId : Uuid} {identifier reason : String} {source : Uuid}
    {entry : SuppressionEntry} (member : entry ∈ s.suppressions) :
    entry ∈ (s.insertSuppression tenantId identifier reason source).1.suppressions := by
  unfold insertSuppression
  split
  · exact member
  · exact List.mem_append_left _ member

theorem insertSuppression_adds (s : HookStore) (tenantId source : Uuid) (reason : String) {identifier address : String}
    (same : lower identifier = normalised address) :
    Suppressed (s.insertSuppression tenantId identifier reason source).1.suppressions tenantId address := by
  unfold insertSuppression
  split
  · rename_i stored
    obtain ⟨row, member, tenant, platform, equal⟩ := stored
    exact ⟨row, member, tenant, platform, equal.trans same⟩
  · exact ⟨_, List.mem_append_right _ (List.mem_singleton.mpr rfl), rfl, rfl, same⟩

theorem insertSuppression_events {s : HookStore} {tenantId : Uuid} {identifier reason : String} {source : Uuid} :
    (s.insertSuppression tenantId identifier reason source).1.events = s.events := by
  unfold insertSuppression
  split <;> rfl

theorem suppressAddress_store (tenantId eventId : Uuid) (evt : EmailWebhookEvent)
    (acc : HookStore × WebhookIngestResponse) :
    (suppressAddress tenantId eventId evt acc).1 = acc.1 ∨
      ∃ reason email, (suppressAddress tenantId eventId evt acc).1 =
        (acc.1.insertSuppression tenantId email reason eventId).1 := by
  unfold suppressAddress
  split
  · rename_i reason email _ _
    split
    · exact Or.inl rfl
    · right
      refine ⟨reason, email, ?_⟩
      split <;> rename_i inserted <;> rw [inserted]
  · exact Or.inl rfl

theorem suppressAddress_adds {tenantId eventId : Uuid} {evt : EmailWebhookEvent}
    {acc : HookStore × WebhookIngestResponse} {email address : String}
    (suppressing : (suppressionReasonFor evt.eventType).isSome) (emailIs : evt.email = some email)
    (same : lower email = normalised address) (present : normalised address ≠ "") :
    Suppressed (suppressAddress tenantId eventId evt acc).1.suppressions tenantId address := by
  obtain ⟨reason, reasonIs⟩ := Option.isSome_iff_exists.mp suppressing
  have nonempty : email ≠ "" := by
    rintro rfl
    exact present (same.symm.trans lower_empty)
  have added := insertSuppression_adds acc.1 tenantId eventId reason same
  simp only [suppressAddress, reasonIs, emailIs, if_neg nonempty]
  split <;> rename_i inserted <;> rw [inserted] at added <;> exact added

/-- One event of the tenant webhook: the list only grows, no id but the
event's own is taken, and an event with an unseen id does suppress its address. -/
theorem receiveEvent_spec {tenantId : Uuid} {now : Int} {acc acc' : HookStore × WebhookIngestResponse}
    {evt : EmailWebhookEvent} (done : receiveEvent tenantId now acc evt = .ok acc') :
    (∀ entry ∈ acc.1.suppressions, entry ∈ acc'.1.suppressions) ∧
    (∀ id, ((eventKindFor evt.eventType).isSome → evt.providerEventId ≠ id) →
      acc.1.Unseen tenantId id → acc'.1.Unseen tenantId id) ∧
    (∀ email address, (suppressionReasonFor evt.eventType).isSome → evt.email = some email →
      lower email = normalised address → normalised address ≠ "" → acc.1.Unseen tenantId evt.providerEventId →
      Suppressed acc'.1.suppressions tenantId address) := by
  cases kindOf : eventKindFor evt.eventType with
  | none =>
    simp only [receiveEvent, kindOf, Except.ok.injEq] at done
    subst done
    refine ⟨fun _ member => member, fun _ _ unseen => unseen, fun _ _ suppressing => ?_⟩
    cases type : evt.eventType <;> simp [type, eventKindFor, suppressionReasonFor] at kindOf suppressing
  | some kind =>
    simp only [receiveEvent, kindOf, bind_eq_ok] at done
    obtain ⟨⟨mid, inserted⟩, insert, rest⟩ := done
    obtain ⟨sameList, otherIds, inserts⟩ := insertEvent_spec insert
    cases inserted with
    | none =>
      simp only [pure_eq_ok] at rest
      subst rest
      refine ⟨fun entry member => sameList ▸ member, fun id differs => otherIds id (differs rfl).symm, ?_⟩
      intro _ _ _ _ _ _ unseen
      exact absurd (inserts unseen) (by simp)
    | some eventId =>
      simp only [pure_eq_ok] at rest
      subst rest
      refine ⟨fun entry member => ?_, fun id differs unseen => ?_,
        fun email address suppressing emailIs same present _ =>
          suppressAddress_adds suppressing emailIs same present⟩
      · rw [← sameList] at member
        rcases suppressAddress_store tenantId eventId evt (mid, _) with kept | ⟨reason, email, kept⟩ <;> rw [kept]
        · exact member
        · exact insertSuppression_keeps member
      · have unseen' := otherIds id (differs rfl).symm unseen
        rcases suppressAddress_store tenantId eventId evt (mid, _) with kept | ⟨reason, email, kept⟩ <;> rw [kept]
        · exact unseen'
        · intro row member
          exact unseen' row (insertSuppression_events ▸ member)

theorem receiveEvents_keep {tenantId : Uuid} {now : Int} {events : List EmailWebhookEvent}
    {acc acc' : HookStore × WebhookIngestResponse} (done : events.foldlM (receiveEvent tenantId now) acc = .ok acc')
    {tenant : Uuid} {address : String} (listed : Suppressed acc.1.suppressions tenant address) :
    Suppressed acc'.1.suppressions tenant address := by
  refine foldlM_invariant (I := fun acc => Suppressed acc.1.suppressions tenant address) done listed ?_
  rintro evt _ before after ⟨entry, member, facts⟩ step
  exact ⟨entry, (receiveEvent_spec step).1 entry member, facts⟩

theorem receiveEvents_unseen {tenantId : Uuid} {now : Int} {events : List EmailWebhookEvent}
    {acc acc' : HookStore × WebhookIngestResponse} (done : events.foldlM (receiveEvent tenantId now) acc = .ok acc')
    {id : String} (unseen : acc.1.Unseen tenantId id)
    (unused : ∀ evt ∈ events, (eventKindFor evt.eventType).isSome → evt.providerEventId ≠ id) :
    acc'.1.Unseen tenantId id := by
  refine foldlM_invariant (I := fun acc => acc.1.Unseen tenantId id) done unseen ?_
  intro evt member before after unseen step
  exact (receiveEvent_spec step).2.1 id (unused evt member) unseen

theorem receiveWebhook_parts {s : HookStore} {tenantId : Uuid} {secret : Option String} {body : Body} {now : Int}
    {done : HookStore × WebhookIngestResponse} (accepted : receiveWebhook s tenantId secret body now = .ok done) :
    ∃ payload events, requestJson body = .ok payload ∧ parseWebhook payload = .ok events ∧
      events.foldlM (receiveEvent tenantId now) (s, { received := events.length }) = .ok done := by
  simp only [receiveWebhook, bind_eq_ok] at accepted
  obtain ⟨_, _, _, _, payload, isJson, events, parsed, loop⟩ := accepted
  exact ⟨payload, events, isJson, parsed, loop⟩

/-- The batch splits at the event with the new id: what comes before leaves
the id unseen, the event writes the address, what comes after keeps it. -/
theorem receive_suppresses {s : HookStore} {tenantId : Uuid} {secret : Option String} {body : Body} {now : Int}
    {done : HookStore × WebhookIngestResponse} (accepted : receiveWebhook s tenantId secret body now = .ok done)
    {address : String} (present : normalised address ≠ "") (carried : s.CarriedByNewId tenantId body address) :
    Suppressed done.1.suppressions tenantId address := by
  obtain ⟨payload, first, evt, rest, email, rfl, parsed, suppressing, emailIs, same, unseen, unused⟩ := carried
  obtain ⟨payload', events, isJson, parsed', loop⟩ := receiveWebhook_parts accepted
  cases isJson
  cases parsed.symm.trans parsed'
  obtain ⟨mid, before, last⟩ := foldlM_append_ok.mp loop
  rw [List.foldlM_cons, bind_eq_ok] at last
  obtain ⟨after, here, last⟩ := last
  have midUnseen := receiveEvents_unseen before unseen unused
  exact receiveEvents_keep last ((receiveEvent_spec here).2.2 email address suppressing emailIs same present midUnseen)

theorem dispatchWebhook_suppressions {s s' : HookStore} {tenantId : Uuid} {headers : Dict String String} {body : Body}
    {now : Int} {result : WebhookResult} (done : dispatchWebhook s tenantId headers body now = .ok (s', result)) :
    s'.suppressions = s.suppressions := by
  unfold dispatchWebhook at done
  obtain ⟨_, _, done⟩ := bind_eq_ok.mp done
  split at done
  · simp only [pure_eq_ok, Prod.mk.injEq] at done
    rw [← done.1]
  · simp only [bind_eq_ok, pure_eq_ok, Prod.mk.injEq] at done
    obtain ⟨mapped, _, ⟨last, _⟩, loop, rfl, _⟩ := done
    refine foldlM_invariant (I := fun acc => acc.1.suppressions = s.suppressions) loop rfl ?_
    intro evt _ before after same step
    cases kindOf : coerceEventKind evt.eventType with
    | none =>
      simp only [dispatchEvent, kindOf, Except.ok.injEq] at step
      rw [← step]
      exact same
    | some kind =>
      simp only [dispatchEvent, kindOf, bind_eq_ok] at step
      obtain ⟨⟨mid, inserted⟩, insert, rest⟩ := step
      have kept := (insertEvent_spec insert).1.trans same
      cases inserted <;> simp only [pure_eq_ok] at rest <;> subst rest <;> exact kept

theorem step_keeps {s : HookStore} {tenantId : Uuid} {address : String}
    (listed : Suppressed s.suppressions tenantId address) (op : HookOp) :
    Suppressed (s.step op).suppressions tenantId address := by
  cases op with
  | receive tenantId' secret body now =>
    cases outcome : receiveWebhook s tenantId' secret body now with
    | error e => simpa only [step, outcome] using listed
    | ok done =>
      obtain ⟨payload, events, _, _, loop⟩ := receiveWebhook_parts outcome
      simp only [step, outcome]
      exact receiveEvents_keep loop listed
  | dispatch tenantId' headers body now =>
    cases outcome : dispatchWebhook s tenantId' headers body now with
    | error e => simpa only [step, outcome] using listed
    | ok done =>
      simp only [step, outcome]
      rw [dispatchWebhook_suppressions outcome]
      exact listed

theorem suppressingAddress_present {op : HookOp} {address : String} (member : address ∈ op.suppressingAddresses) :
    normalised address ≠ "" := by
  unfold HookOp.suppressingAddresses at member
  split at member
  · obtain ⟨raw, _, found⟩ := List.mem_filterMap.mp member
    unfold HookOp.suppressingAddress at found
    split at found
    · simpa using (Option.filter_eq_some_iff.mp found).2
    · cases found
  · cases member

theorem step_suppresses {s : HookStore} {op : HookOp} (accepted : s.Accepted op) (recordable : s.Recordable op)
    {address : String} (member : address ∈ op.suppressingAddresses) :
    Suppressed (s.step op).suppressions op.tenantId address := by
  rcases recordable address member with listed | carried
  · exact step_keeps listed op
  · cases op with
    | dispatch => exact carried.elim
    | receive tenantId secret body now =>
      obtain ⟨done, outcome⟩ := accepted
      simp only [step, outcome]
      exact receive_suppresses outcome (suppressingAddress_present member) carried

/-- In a run whose accepted batches are recordable, every address of an accepted
bounce, complaint or unsubscribe is on the list from then on, and every later
marketing send keeps it from the provider and reports it as rejected. A batch
that is refused needs nothing. -/
theorem suppression_complete_and_respected (s : HookStore) (ops : List HookOp)
    (recordable : Along step (fun s op => s.Accepted op → s.Recordable op) s ops) :
    ∀ first op rest, ops = first ++ op :: rest → (run step s first).Accepted op →
      ∀ address ∈ op.suppressingAddresses,
        Suppressed ((run step s first).step op).suppressions op.tenantId address ∧
        ∀ connector batchId inputs, transactional inputs = false →
          let outcome := call connector (run step s ops).suppressions op.tenantId batchId inputs
          (∀ sent ∈ outcome.handed, sent.email ≠ normalised address) ∧
          ∀ out, outcome.result = .ok out → Addressed inputs address →
            refusal (normalised address) ∈ out.rejections := by
  rintro first op rest rfl accepted address member
  obtain ⟨_, here, _⟩ := along_append.mp recordable
  have listed := step_suppresses accepted (here accepted) member
  refine ⟨listed, fun connector batchId inputs marketing => ?_⟩
  have later : Suppressed (run step s (first ++ op :: rest)).suppressions op.tenantId address := by
    rw [run_append, run_cons]
    exact run_invariant (I := fun s : HookStore => Suppressed s.suppressions op.tenantId address) listed
      (fun _ later listed => step_keeps listed later) rest
  exact call_respects_suppression connector later batchId marketing

end HookStore

namespace HookStore

local instance plainText : PyText := PyText.plain

/-- A tenant with SendGrid configured. -/
private def configured : HookStore where
  tenants := [1]
  credentials := [⟨1, none, "sendgrid", [("webhook_secret", .str "s3cret")]⟩]

private def bounceOf (idField id : String) : Dict String Json :=
  [("event", .str "bounce"), (idField, .str id), ("email", .str "ada@acme.io")]

private def toAda : Dict String Json :=
  [("from_email", .str "news@shop.io"), ("message", .obj [("subject", .str "Hello"), ("text_body", .str "Hi")]),
    ("audience_batch", .arr [.obj [("email", .str "ada@acme.io")]])]

/-- A provider that takes whatever it is given. -/
private def acceptingConnector : EmailConnector where
  provider := "sendgrid"
  verifiedSenders := []
  sendBatch _ _ recipients := .ok (recipients.map fun r => ⟨r.email, some "m", true, none⟩)

/-- A post with a wrong secret, which names an address and suppresses nothing, then the real one. -/
theorem suppression_complete_and_respected_bounce :
    let junk := HookOp.receive 1 (some "guess") (.json (.arr [.obj (bounceOf "sg_event_id" "e1")])) 0
    let op := HookOp.receive 1 (some "s3cret") (.json (.arr [.obj (bounceOf "sg_event_id" "e1")])) 1
    ¬ configured.Recordable (.dispatch 1 [] junk.body 0) ∧ ¬ configured.Accepted junk ∧
      (configured.step junk).Accepted op ∧ "ada@acme.io" ∈ op.suppressingAddresses ∧
      Suppressed ((configured.step junk).step op).suppressions 1 "ada@acme.io" ∧
      ∀ sent ∈ (call acceptingConnector (run step configured [junk, op]).suppressions 1 0 toAda).handed,
        sent.email ≠ normalised "ada@acme.io" := by
  intro junk op
  have refused : ¬ configured.Accepted junk := by
    rintro ⟨done, outcome⟩
    cases outcome
  have accepted : (configured.step junk).Accepted op := ⟨_, rfl⟩
  have member : "ada@acme.io" ∈ op.suppressingAddresses := by decide
  have unlisted : ¬ configured.Recordable (.dispatch 1 [] junk.body 0) := by
    intro recordable
    rcases recordable "ada@acme.io" member with ⟨entry, listed, _⟩ | never
    · cases listed
    · exact never
  have recordable : Along step (fun s op => s.Accepted op → s.Recordable op) configured [junk, op] := by
    refine ⟨fun taken => absurd taken refused, fun _ address inside => Or.inr ?_, trivial⟩
    have same : address = "ada@acme.io" := List.mem_singleton.mp inside
    subst same
    exact ⟨_, [], _, [], _, rfl, rfl, rfl, rfl, rfl, by rintro row ⟨⟩, by rintro earlier ⟨⟩⟩
  have result := suppression_complete_and_respected configured _ recordable [junk] op [] rfl accepted _ member
  exact ⟨unlisted, refused, accepted, member, result.1, (result.2 acceptingConnector 0 toAda rfl).1⟩

/-- The generic receiver accepts a bounce and suppresses nothing: the next
send still goes out. -/
theorem dispatch_webhook_leaves_bounce_unsuppressed :
    let op := HookOp.dispatch 1 [("x-mas-webhook-secret", "s3cret")]
      (.json (.arr [.obj (bounceOf "sg_event_id" "e1")])) 0
    configured.Accepted op ∧ "ada@acme.io" ∈ op.suppressingAddresses ∧
      ¬ Suppressed (configured.step op).suppressions 1 "ada@acme.io" ∧
      (call acceptingConnector (configured.step op).suppressions 1 0 toAda).handed.map EmailRecipient.email =
        ["ada@acme.io"] := by
  refine ⟨⟨_, rfl, rfl⟩, by decide, ?_, by decide⟩
  rintro ⟨entry, member, _⟩
  cases member

end HookStore

end MarketingAgents
