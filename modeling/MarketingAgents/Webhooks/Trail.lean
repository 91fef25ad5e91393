import MarketingAgents.Webhooks.Agreement

namespace MarketingAgents

open Lib PyText SendGridConnector

/-- The receivers' tables, with the `payload` column of `raw_webhook` as the
bytes it holds. -/
structure TrailStore where
  hooks : HookStore := {}
  /-- Each `raw_webhook` row's id and payload. -/
  payloads : List (Uuid × List UInt8) := []

def headersStorable (headers : Dict String String) : Bool :=
  Json.fieldsStorable (headers.map fun entry => (entry.1, .str entry.2))

section Dispatch

variable [PyText]

/-- `dispatch_webhook` for the SendGrid provider on the bytes of a request;
`loads` is `json.loads`, with `empty` for no bytes. The row is flushed before
the handler runs and committed with its events, so an error leaves no row. -/
def dispatchBytes (loads : List UInt8 → Body) (t : TrailStore) (tenantId : Uuid) (headers : Dict String String)
    (body : List UInt8) (now : Int) : Except HookError (TrailStore × WebhookResult) := do
  require (headersStorable (normaliseHeaders headers) = true) .dataError
  let (s, result) ← dispatchWebhook t.hooks tenantId headers (loads body) now
  pure (⟨s, t.payloads ++ [(result.rawWebhookId, body)]⟩, result)

/-- The call returns and commits one more raw row, which holds the body. -/
def LeavesTrail (loads : List UInt8 → Body) (t : TrailStore) (tenantId : Uuid) (headers : Dict String String)
    (body : List UInt8) (now : Int) : Prop :=
  ∃ t' result, dispatchBytes loads t tenantId headers body now = .ok (t', result) ∧
    t'.hooks.rawWebhooks.map RawWebhook.id = t.hooks.rawWebhooks.map RawWebhook.id ++ [result.rawWebhookId] ∧
    t'.payloads = t.payloads ++ [(result.rawWebhookId, body)]

/-- An event with an id has a time that `datetime` holds and, where its kind
is mapped, an id and a payload that fit their columns. -/
def EventFits (raw : Dict String Json) : Prop :=
  ∀ id, rawEventId raw = some id →
    (∃ time, occurredAt (raw.get? "timestamp") = .ok time) ∧
    ((eventKindForNormalised (rawEventType raw)).isSome → id.length ≤ 200 ∧ Json.fieldsStorable raw = true)

/-- The body decodes, and each of its events fits; a body that is decoded but
no JSON has no events. -/
def Ingestible : Body → Prop
  | .json value => ∀ raw ∈ rawEvents value, EventFits raw
  | .undecodable => False
  | .empty | .malformed _ => True

theorem parseEvent_ok {raw : Dict String Json} {parsed : Option EmailWebhookEvent} :
    parseEvent raw = .ok parsed ↔
      (rawEventId raw = none ∧ parsed = none) ∨
      ∃ id time, rawEventId raw = some id ∧ occurredAt (raw.get? "timestamp") = .ok time ∧
        parsed = some ⟨id, rawEventType raw, (rawAddress raw).map lower, time, raw⟩ := by
  unfold parseEvent
  cases named : rawEventId raw with
  | none => simp [eq_comm]
  | some id =>
    simp only [reduceCtorEq, false_and, false_or, bind_eq_ok, pure_eq_ok, Option.some.injEq]
    constructor
    · rintro ⟨time, read, rfl⟩
      exact ⟨id, time, rfl, read, rfl⟩
    · rintro ⟨_, time, rfl, read, rfl⟩
      exact ⟨time, read, rfl⟩

theorem parseEvents_returns {raws : List (Dict String Json)} :
    (∃ events, parseEvents raws = .ok events) ↔ ∀ raw ∈ raws, ∃ parsed, parseEvent raw = .ok parsed := by
  induction raws with
  | nil => simp [parseEvents, pure, Except.pure]
  | cons raw raws ih =>
    rw [List.forall_mem_cons, ← ih]
    simp only [parseEvents, bind_eq_ok, pure_eq_ok]
    constructor
    · rintro ⟨_, head, first, tail, others, _⟩
      exact ⟨⟨head, first⟩, tail, others⟩
    · rintro ⟨⟨head, first⟩, tail, others⟩
      exact ⟨_, head, first, tail, others, rfl⟩

omit [PyText] in
theorem insertEvent_returns (s : HookStore) (tenantId : Uuid) (kind : EventKind) (payload : Dict String Json)
    (eventId : String) (eventAt : Int) :
    (∃ done, s.insertEvent tenantId kind payload eventId eventAt = .ok done) ↔
      eventId.length ≤ 200 ∧ Json.fieldsStorable payload = true := by
  unfold HookStore.insertEvent
  by_cases fits : eventId.length ≤ 200 ∧ Json.fieldsStorable payload = true
  · have unrefused : ¬ (eventId.length > 200 ∨ Json.fieldsStorable payload = false) := by
      rintro (long | unstorable)
      · omega
      · rw [fits.2] at unstorable
        cases unstorable
    rw [if_neg unrefused]
    refine iff_of_true ?_ fits
    split <;> exact ⟨_, rfl⟩
  · have refused : eventId.length > 200 ∨ Json.fieldsStorable payload = false := by
      by_cases long : eventId.length > 200
      · exact Or.inl long
      · refine Or.inr ?_
        rw [← Bool.not_eq_true]
        exact fun storable => fits ⟨by omega, storable⟩
    rw [if_pos refused]
    refine iff_of_false ?_ fits
    rintro ⟨_, done⟩
    cases done

omit [PyText] in
theorem dispatchEvent_returns {tenantId : Uuid} {now : Int} {acc : HookStore × WebhookResult} {evt : MappedEvent} :
    (∃ acc', dispatchEvent tenantId now acc evt = .ok acc') ↔
      ((coerceEventKind evt.eventType).isSome →
        evt.providerEventId.length ≤ 200 ∧ Json.fieldsStorable evt.payload = true) := by
  unfold dispatchEvent
  cases coerced : coerceEventKind evt.eventType with
  | none => simp
  | some kind =>
    rw [← insertEvent_returns acc.1 tenantId kind _ _ (evt.occurredAt.getD now)]
    simp only [Option.isSome_some, true_imp_iff, bind_eq_ok]
    constructor
    · rintro ⟨_, done, insert, _⟩
      exact ⟨done, insert⟩
    · rintro ⟨⟨s, inserted⟩, insert⟩
      cases inserted <;> exact ⟨_, _, insert, rfl⟩

omit [PyText] in
theorem dispatchEvents_return {tenantId : Uuid} {now : Int} {mapped : List MappedEvent}
    {acc : HookStore × WebhookResult} :
    (∃ acc', mapped.foldlM (dispatchEvent tenantId now) acc = .ok acc') ↔
      ∀ evt ∈ mapped, (coerceEventKind evt.eventType).isSome →
        evt.providerEventId.length ≤ 200 ∧ Json.fieldsStorable evt.payload = true := by
  induction mapped generalizing acc with
  | nil => simp [pure, Except.pure]
  | cons evt mapped ih =>
    rw [List.forall_mem_cons]
    simp only [List.foldlM_cons, bind_eq_ok]
    constructor
    · rintro ⟨last, mid, first, rest⟩
      exact ⟨dispatchEvent_returns.mp ⟨mid, first⟩, ih.mp ⟨last, rest⟩⟩
    · rintro ⟨here, later⟩
      obtain ⟨mid, first⟩ := dispatchEvent_returns.mpr here
      obtain ⟨last, rest⟩ := ih.mpr later
      exact ⟨last, mid, first, rest⟩

omit [PyText] in
/-- The loop adds no raw row. -/
theorem dispatchEvents_rawWebhooks {tenantId : Uuid} {now : Int} {mapped : List MappedEvent}
    {acc acc' : HookStore × WebhookResult} (done : mapped.foldlM (dispatchEvent tenantId now) acc = .ok acc') :
    acc'.1.rawWebhooks = acc.1.rawWebhooks ∧ acc'.2.rawWebhookId = acc.2.rawWebhookId := by
  refine foldlM_invariant (I := fun mid : HookStore × WebhookResult =>
    mid.1.rawWebhooks = acc.1.rawWebhooks ∧ mid.2.rawWebhookId = acc.2.rawWebhookId) done ⟨rfl, rfl⟩ ?_
  intro evt _ before after same step
  cases coerced : coerceEventKind evt.eventType with
  | none =>
    simp only [dispatchEvent, coerced, Except.ok.injEq] at step
    exact step ▸ same
  | some kind =>
    simp only [dispatchEvent, coerced, bind_eq_ok] at step
    obtain ⟨⟨mid, inserted⟩, insert, rest⟩ := step
    have kept : mid.rawWebhooks = before.1.rawWebhooks := by
      unfold HookStore.insertEvent at insert
      split at insert
      · cases insert
      · split at insert <;> cases insert <;> rfl
    cases inserted <;> simp only [pure_eq_ok] at rest <;> subst rest <;> exact ⟨kept.trans same.1, same.2⟩

omit [PyText] in
theorem eventKindForNormalised_isSome {type : EmailEventType} {value : String}
    (named : eventKindForNormalised type = some value) : (coerceEventKind value).isSome := by
  cases type <;> cases named <;> rfl

/-- Parsing returns when every time fits, the loop when every mapped event does. -/
theorem parse_and_fit {raws : List (Dict String Json)} :
    (∃ events, parseEvents raws = .ok events ∧ ∀ evt ∈ events, (eventKindForNormalised evt.eventType).isSome →
      evt.providerEventId.length ≤ 200 ∧ Json.fieldsStorable evt.payload = true) ↔ ∀ raw ∈ raws, EventFits raw := by
  constructor
  · rintro ⟨events, parsed, fit⟩ raw member id named
    obtain ⟨found, here⟩ := parseEvents_returns.mp ⟨events, parsed⟩ raw member
    rcases parseEvent_ok.mp here with ⟨unnamed, _⟩ | ⟨id', time, named', read, rfl⟩
    · cases unnamed.symm.trans named
    · cases named.symm.trans named'
      exact ⟨⟨time, read⟩, fun mapped => fit _ ((mem_parseEvents parsed).mpr ⟨raw, member, here⟩) mapped⟩
  · intro fits
    have returns : ∀ raw ∈ raws, ∃ found, parseEvent raw = .ok found := by
      intro raw member
      cases named : rawEventId raw with
      | none => exact ⟨none, parseEvent_ok.mpr (Or.inl ⟨named, rfl⟩)⟩
      | some id =>
        obtain ⟨⟨time, read⟩, _⟩ := fits raw member id named
        exact ⟨_, parseEvent_ok.mpr (Or.inr ⟨id, time, named, read, rfl⟩)⟩
    obtain ⟨events, parsed⟩ := parseEvents_returns.mpr returns
    refine ⟨events, parsed, fun evt listed mapped => ?_⟩
    obtain ⟨raw, member, here⟩ := (mem_parseEvents parsed).mp listed
    rcases parseEvent_ok.mp here with ⟨_, absent⟩ | ⟨id, time, named, _, same⟩
    · cases absent
    · cases same
      exact (fits raw member id named).2 mapped

theorem ingests_iff {tenantId : Uuid} {now : Int} {body : Body} (acc : HookStore × WebhookResult) :
    (∃ mapped, mapToEvents body = .ok mapped ∧
      ∃ acc', mapped.foldlM (dispatchEvent tenantId now) acc = .ok acc') ↔ Ingestible body := by
  cases body with
  | empty => exact iff_of_true ⟨[], rfl, acc, rfl⟩ trivial
  | malformed detail => exact iff_of_true ⟨[], rfl, acc, rfl⟩ trivial
  | undecodable => exact iff_of_false (fun ⟨_, done, _⟩ => by cases done) id
  | json value =>
    refine Iff.trans ?_ parse_and_fit
    constructor
    · rintro ⟨mapped, done, loop⟩
      obtain ⟨payload, read, rest⟩ := bind_eq_ok.mp done
      cases read
      obtain ⟨events, parsed, rest⟩ := bind_eq_ok.mp rest
      refine ⟨events, parsed, fun evt listed named => ?_⟩
      obtain ⟨kind, kindIs⟩ := Option.isSome_iff_exists.mp named
      have inMapped : (⟨evt.providerEventId, kind, evt.occurredAt, evt.payload⟩ : MappedEvent) ∈ mapped := by
        cases rest
        exact List.mem_filterMap.mpr ⟨evt, listed, by rw [kindIs]; rfl⟩
      exact dispatchEvents_return.mp loop _ inMapped (eventKindForNormalised_isSome kindIs)
    · rintro ⟨events, parsed, fit⟩
      refine ⟨_, bind_eq_ok.mpr ⟨value, rfl, bind_eq_ok.mpr ⟨events, parsed, rfl⟩⟩, dispatchEvents_return.mpr ?_⟩
      intro evt listed _
      obtain ⟨source, member, made⟩ := List.mem_filterMap.mp listed
      obtain ⟨kind, kindIs, rfl⟩ := Option.map_eq_some_iff.mp made
      exact fit source member (Option.isSome_of_mem kindIs)

/-- A call that returns commits its row. -/
theorem dispatchWebhook_adds {s s' : HookStore} {tenantId : Uuid} {headers : Dict String String} {body : Body}
    {now : Int} {result : WebhookResult} (done : dispatchWebhook s tenantId headers body now = .ok (s', result)) :
    s'.rawWebhooks.map RawWebhook.id = s.rawWebhooks.map RawWebhook.id ++ [result.rawWebhookId] := by
  unfold dispatchWebhook at done
  obtain ⟨_, _, done⟩ := bind_eq_ok.mp done
  split at done
  · simp only [pure_eq_ok, Prod.mk.injEq] at done
    rw [← done.1, ← done.2]
    simp
  · simp only [bind_eq_ok, pure_eq_ok, Prod.mk.injEq] at done
    obtain ⟨mapped, _, ⟨last, result'⟩, loop, rfl, rfl⟩ := done
    obtain ⟨kept, sameId⟩ := dispatchEvents_rawWebhooks loop
    simp only at kept sameId
    have linked : ∀ rows : List RawWebhook, (rows.map fun raw =>
        if raw.id = s.nextId then { raw with mappedEventId := result'.mappedEventId } else raw).map RawWebhook.id =
          rows.map RawWebhook.id := by
      intro rows
      rw [List.map_map]
      refine List.map_congr_left fun raw _ => ?_
      simp only [Function.comp_apply]
      split <;> rfl
    rw [linked, kept, sameId]
    simp

theorem dispatchWebhook_returns (s : HookStore) (tenantId : Uuid) (headers : Dict String String) (body : Body)
    (now : Int) :
    (∃ done, dispatchWebhook s tenantId headers body now = .ok done) ↔
      tenantId ∈ s.tenants ∧
        ((verifySignature ((s.credential tenantId).map IntegrationCredential.payload) headers).isSome ∨
          Ingestible body) := by
  unfold dispatchWebhook
  by_cases known : tenantId ∈ s.tenants
  swap
  · refine iff_of_false (fun ⟨_, done⟩ => ?_) fun ⟨member, _⟩ => known member
    obtain ⟨_, member, _⟩ := bind_eq_ok.mp done
    exact known (require_eq_ok.mp member)
  have passed : require (tenantId ∈ s.tenants) HookError.foreignKey = .ok () := require_eq_ok.mpr known
  rw [passed]
  simp only [known, true_and]
  cases verdict : verifySignature ((s.credential tenantId).map IntegrationCredential.payload) headers with
  | some reason => exact iff_of_true ⟨_, rfl⟩ (Or.inl rfl)
  | none =>
    simp only [Option.isSome_none, Bool.false_eq_true, false_or, bind_eq_ok]
    constructor
    · rintro ⟨done, _, _, mapped, maps, acc', loop, _⟩
      exact (ingests_iff _).mp ⟨mapped, maps, acc', loop⟩
    · intro ingestible
      obtain ⟨mapped, maps, acc', loop⟩ := (ingests_iff _).mpr ingestible
      exact ⟨_, (), trivial, mapped, maps, acc', loop, rfl⟩

/-- A call leaves its trail exactly when the tenant exists, the headers can be
stored and either the signature is refused or the body can be ingested. Where
the signature holds the tenant does exist, as a credential of it was read. -/
theorem leaves_trail_iff (loads : List UInt8 → Body) (t : TrailStore) (tenantId : Uuid)
    (headers : Dict String String) (body : List UInt8) (now : Int) :
    LeavesTrail loads t tenantId headers body now ↔
      headersStorable (normaliseHeaders headers) = true ∧ tenantId ∈ t.hooks.tenants ∧
        ((verifySignature ((t.hooks.credential tenantId).map IntegrationCredential.payload) headers).isSome ∨
          Ingestible (loads body)) := by
  rw [← dispatchWebhook_returns t.hooks tenantId headers (loads body) now]
  constructor
  · rintro ⟨t', result, done, _⟩
    simp only [dispatchBytes, bind_eq_ok, require_eq_ok] at done
    obtain ⟨_, storable, inner, outcome, _⟩ := done
    exact ⟨storable, inner, outcome⟩
  · rintro ⟨storable, ⟨s, result⟩, outcome⟩
    refine ⟨⟨s, t.payloads ++ [(result.rawWebhookId, body)]⟩, result, ?_, dispatchWebhook_adds outcome, rfl⟩
    simp only [dispatchBytes, bind_eq_ok, require_eq_ok]
    exact ⟨(), storable, (s, result), outcome, rfl⟩

end Dispatch

namespace TrailStore

local instance trailText : PyText := PyText.plain

private theorem hooked_refers :
    ∀ row ∈ [(⟨1, none, "sendgrid", [("webhook_secret", .str "s3cret")]⟩ : IntegrationCredential)], row.tenantId ∈ [1] :=
  refers_of_all rfl

private def hooked : TrailStore where
  hooks :=
    { tenants := [1]
      credentials := [⟨1, none, "sendgrid", [("webhook_secret", .str "s3cret")]⟩]
      credentialTenant := hooked_refers }

/-- `json.loads` of what the closed run below posts: a byte that starts no
UTF-8 sequence does not decode. -/
private def loadsBytes (bytes : List UInt8) : Body :=
  if bytes = [] then .empty else if 0xff ∈ bytes then .undecodable else .malformed "Expecting value"

/-- One byte that is not UTF-8, sent with the right secret, leaves nothing behind. -/
theorem undecodable_body_leaves_no_trail :
    ¬ LeavesTrail loadsBytes hooked 1 [("x-mas-webhook-secret", "s3cret")] [0xff] 0 := by
  rintro ⟨t', result, done, _⟩
  cases done

/-- Nor does a post to a tenant that does not exist, whose signature is refused. -/
example : ¬ LeavesTrail loadsBytes hooked 7 [] [] 0 := by
  rintro ⟨t', result, done, _⟩
  cases done

end TrailStore

end MarketingAgents
