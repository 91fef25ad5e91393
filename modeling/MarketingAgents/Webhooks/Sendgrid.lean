import MarketingAgents.Tools.EmailDispatch

namespace MarketingAgents

open Lib PyText

/-- The normalised event types of `parse_webhook`. -/
inductive EmailEventType where
  | delivered
  | opened
  | click
  | bounce
  | spamComplaint
  | unsubscribe
  | other
deriving DecidableEq

structure EmailWebhookEvent where
  providerEventId : String
  eventType : EmailEventType
  email : Option String
  occurredAt : Option Int
  payload : Dict String Json
deriving DecidableEq

/-- A row of `analytic_event`, as the webhook receivers write it. -/
structure AnalyticEvent where
  id : Uuid
  tenantId : Uuid
  eventType : EventKind
  payload : Dict String Json
  providerEventId : Option String
  eventAt : Int
deriving DecidableEq

/-- The request body under `json.loads`. -/
inductive Body where
  | empty
  | json (value : Json)
  /-- `JSONDecodeError`, with its text. -/
  | malformed (detail : String)
  /-- `UnicodeDecodeError`, `RecursionError` or the plain `ValueError` of an
  integer with too many digits: none of them is a `JSONDecodeError`. -/
  | undecodable
deriving DecidableEq

structure RawWebhook where
  id : Uuid
  tenantId : Uuid
  provider : String
  signatureValid : Bool
  signatureReason : Option String
  headers : Dict String String
  payload : Body
  mappedEventId : Option Uuid
deriving DecidableEq

structure SignatureFailure where
  tenantId : Uuid
  entityId : Uuid
  provider : String
  reason : String
deriving DecidableEq

theorem refers_of_all {credentials : List IntegrationCredential} {tenants : List Uuid}
    (all : credentials.all (fun row => tenants.contains row.tenantId) = true) : ∀ row ∈ credentials, row.tenantId ∈ tenants := by
  simpa using all

/-- The tables the two receivers read and write. -/
structure HookStore where
  /-- The ids in `tenant`. -/
  tenants : List Uuid := []
  credentials : List IntegrationCredential := []
  events : List AnalyticEvent := []
  suppressions : List SuppressionEntry := []
  rawWebhooks : List RawWebhook := []
  auditLog : List SignatureFailure := []
  /-- What `gen_random_uuid()` returns next. -/
  nextId : Uuid := 0
  /-- `integration_credential.tenant_id` refers to `tenant`. -/
  credentialTenant : ∀ row ∈ credentials, row.tenantId ∈ tenants := by exact refers_of_all rfl
deriving DecidableEq

inductive HookError where
  | http (status : Nat) (detail : String)
  /-- `datetime.fromtimestamp` out of range. -/
  | timestampOutOfRange
  | unicodeDecode
  /-- The row does not fit its columns. -/
  | dataError
  /-- The row refers to no row of `tenant`. -/
  | foreignKey
deriving DecidableEq

namespace SendGridConnector

variable [PyText]

/-- `_SENDGRID_EVENT_MAP`, with `other` for anything else. -/
def eventTypeOf : String → EmailEventType
  | "delivered" => .delivered
  | "open" => .opened
  | "click" => .click
  | "bounce" => .bounce
  | "dropped" => .bounce
  | "spamreport" => .spamComplaint
  | "unsubscribe" => .unsubscribe
  | "group_unsubscribe" => .unsubscribe
  | _ => .other

/-- `datetime.fromtimestamp(timestamp, tz=utc)` where the value is a number;
`datetime` holds the years 1 to 9999. -/
def occurredAt : Option Json → Except HookError (Option Int)
  | some (.int t) =>
    if -62135596800 ≤ t ∧ t ≤ 253402300799 then .ok (some (t * 1000000)) else .error .timestampOutOfRange
  | some (.bool b) => .ok (some (if b then 1000000 else 0))
  | some (.float repr) =>
    match fromFloatTimestamp repr with
    | some micros => .ok (some micros)
    | none => .error .timestampOutOfRange
  | _ => .ok none

/-- The event's type, from `str(raw.get("event", "")).lower()`. -/
def rawEventType (raw : Dict String Json) : EmailEventType :=
  eventTypeOf (lower (str ((raw.get? "event").getD (.str ""))))

/-- `raw.get("sg_event_id") or raw.get("sg_message_id")`, when it is truthy. -/
def rawEventId (raw : Dict String Json) : Option String :=
  match (raw.get? "sg_event_id").filter Json.truthy with
  | some value => some (str value)
  | none => ((raw.get? "sg_message_id").filter Json.truthy).map str

/-- The address as the event carries it. -/
def rawAddress (raw : Dict String Json) : Option String :=
  match raw.get? "email" with
  | some (.str s) => if s = "" then none else some s
  | _ => none

/-- One event of `parse_webhook`; an event without an id is dropped. -/
def parseEvent (raw : Dict String Json) : Except HookError (Option EmailWebhookEvent) :=
  match rawEventId raw with
  | none => .ok none
  | some id => do
    let at' ← occurredAt (raw.get? "timestamp")
    pure (some
      { providerEventId := id
        eventType := rawEventType raw
        email := (rawAddress raw).map lower
        occurredAt := at'
        payload := raw })

/-- `[e for e in payload if isinstance(e, dict)]`, or the one dictionary. -/
def rawEvents : Json → List (Dict String Json)
  | .arr items => items.filterMap Json.dict?
  | .obj fields => [fields]
  | _ => []

def parseEvents : List (Dict String Json) → Except HookError (List EmailWebhookEvent)
  | [] => pure []
  | raw :: rest => do
    let event ← parseEvent raw
    let events ← parseEvents rest
    pure (event.toList ++ events)

def parseWebhook (payload : Json) : Except HookError (List EmailWebhookEvent) := parseEvents (rawEvents payload)

end SendGridConnector

/-- `_EVENT_KIND_MAP` of the tenant webhook. -/
def eventKindFor : EmailEventType → Option EventKind
  | .delivered => some .impression
  | .opened => some .opened
  | .click => some .click
  | .bounce => some .bounce
  | .spamComplaint => some .spamComplaint
  | .unsubscribe => some .unsubscribe
  | .other => none

/-- `_EVENT_KIND_FOR_NORMALISED` of the SendGrid handler, which names kinds by their values. -/
def eventKindForNormalised : EmailEventType → Option String
  | .delivered => some "impression"
  | .opened => some "open"
  | .click => some "click"
  | .bounce => some "bounce"
  | .spamComplaint => some "spam_complaint"
  | .unsubscribe => some "unsubscribe"
  | .other => none

/-- `_coerce_event_kind`: `EventKind(value)`, `none` where it raises. -/
def coerceEventKind : String → Option EventKind
  | "impression" => some .impression
  | "click" => some .click
  | "open" => some .opened
  | "reply" => some .reply
  | "conversion" => some .conversion
  | "unsubscribe" => some .unsubscribe
  | "bounce" => some .bounce
  | "spam_complaint" => some .spamComplaint
  | "spend" => some .spend
  | _ => none

/-- `_SUPPRESSION_REASON_MAP`. -/
def suppressionReasonFor : EmailEventType → Option String
  | .bounce => some "bounce"
  | .spamComplaint => some "complaint"
  | .unsubscribe => some "unsubscribe"
  | _ => none

namespace HookStore

variable [PyText]

/-- `INSERT INTO analytic_event … ON CONFLICT (tenant_id, provider_event_id) DO NOTHING RETURNING id`. -/
def insertEvent (s : HookStore) (tenantId : Uuid) (kind : EventKind) (payload : Dict String Json)
    (providerEventId : String) (eventAt : Int) : Except HookError (HookStore × Option Uuid) :=
  if providerEventId.length > 200 ∨ Json.fieldsStorable payload = false then .error .dataError
  else if ∃ row ∈ s.events, row.tenantId = tenantId ∧ row.providerEventId = some providerEventId then .ok (s, none)
  else
    let row : AnalyticEvent := ⟨s.nextId, tenantId, kind, payload, some providerEventId, eventAt⟩
    .ok ({ s with events := s.events ++ [row], nextId := s.nextId + 1 }, some s.nextId)

/-- `INSERT INTO suppression_entry … ON CONFLICT DO NOTHING RETURNING id`. -/
def insertSuppression (s : HookStore) (tenantId : Uuid) (identifier reason : String) (sourceEventId : Uuid) :
    HookStore × Option Uuid :=
  if ∃ row ∈ s.suppressions, row.tenantId = tenantId ∧ row.channelPlatform = .email ∧
      lower row.identifier = lower identifier then (s, none)
  else
    let row : SuppressionEntry := ⟨s.nextId, tenantId, .email, identifier, reason, some sourceEventId⟩
    ({ s with suppressions := s.suppressions ++ [row], nextId := s.nextId + 1 }, some s.nextId)

def credential (s : HookStore) (tenantId : Uuid) : Option IntegrationCredential :=
  s.credentials.find? fun row => row.tenantId = tenantId ∧ row.provider = "sendgrid"

end HookStore

structure WebhookIngestResponse where
  received : Nat
  written : Nat := 0
  deduped : Nat := 0
  suppressionWrites : Nat := 0
deriving DecidableEq

section Receivers

variable [PyText]

/-- The second half of the loop in `receive_webhook`, for an event just written. -/
def suppressAddress (tenantId eventId : Uuid) (evt : EmailWebhookEvent) (acc : HookStore × WebhookIngestResponse) :
    HookStore × WebhookIngestResponse :=
  match suppressionReasonFor evt.eventType, evt.email with
  | some reason, some email =>
    if email = "" then acc
    else match acc.1.insertSuppression tenantId email reason eventId with
      | (s, some _) => (s, { acc.2 with suppressionWrites := acc.2.suppressionWrites + 1 })
      | (s, none) => (s, acc.2)
  | _, _ => acc

/-- One event of the loop in `receive_webhook`. -/
def receiveEvent (tenantId : Uuid) (now : Int) (acc : HookStore × WebhookIngestResponse) (evt : EmailWebhookEvent) :
    Except HookError (HookStore × WebhookIngestResponse) :=
  match eventKindFor evt.eventType with
  | none => .ok acc
  | some kind => do
    match ← acc.1.insertEvent tenantId kind evt.payload evt.providerEventId (evt.occurredAt.getD now) with
    | (s, none) => pure (s, { acc.2 with deduped := acc.2.deduped + 1 })
    | (s, some eventId) =>
      pure (suppressAddress tenantId eventId evt (s, { acc.2 with written := acc.2.written + 1 }))

/-- `json.loads(raw_body) if raw_body else []` in `receive_webhook`. -/
def requestJson : Body → Except HookError Json
  | .empty => .ok (.arr [])
  | .json value => .ok value
  | .malformed detail => .error (.http 400 ("invalid json: " ++ detail))
  | .undecodable => .error .unicodeDecode

/-- `not expected_secret or not header or header != expected_secret`, negated. -/
def secretMatches (payload : Dict String Json) (header : Option String) : Bool :=
  match payload.get? "webhook_secret", header with
  | some (.str expected), some given => expected != "" && given != "" && given == expected
  | _, _ => false

/-- `receive_webhook`, the tenant webhook of `integrations_email`. -/
def receiveWebhook (s : HookStore) (tenantId : Uuid) (secret : Option String) (body : Body) (now : Int) :
    Except HookError (HookStore × WebhookIngestResponse) := do
  let cred ← orRaise (s.credential tenantId) (.http 404 "no email integration")
  require (secretMatches cred.payload secret) (.http 401 "invalid webhook secret")
  let payload ← requestJson body
  let events ← SendGridConnector.parseWebhook payload
  events.foldlM (receiveEvent tenantId now) (s, { received := events.length })

/-- `SendGridWebhookHandler.verify_signature`: `none` when it is valid, else the reason. -/
def verifySignature (payload : Option (Dict String Json)) (headers : Dict String String) : Option String :=
  match payload with
  | none => some "no_credential"
  | some payload =>
    match (payload.get? "webhook_secret").filter Json.truthy with
    | none => some "webhook_secret_not_configured"
    | some expected =>
      let provided := match headers.get? "x-mas-webhook-secret" with
        | some "" | none => headers.get? "X-MAS-Webhook-Secret"
        | some value => some value
      match provided with
      | some "" | none => some "missing_header"
      | some value => if Json.str value = expected then none else some "secret_mismatch"

structure MappedEvent where
  providerEventId : String
  eventType : String
  occurredAt : Option Int
  payload : Dict String Json

/-- `SendGridWebhookHandler.map_to_events`: malformed JSON maps to no events. -/
def mapToEvents (body : Body) : Except HookError (List MappedEvent) := do
  let payload ← match body with
    | .empty => .ok (Json.arr [])
    | .json value => .ok value
    | .malformed _ => .ok (Json.arr [])
    | .undecodable => .error .unicodeDecode
  let events ← SendGridConnector.parseWebhook payload
  pure (events.filterMap fun evt => (eventKindForNormalised evt.eventType).map fun kind =>
    ⟨evt.providerEventId, kind, evt.occurredAt, evt.payload⟩)

structure WebhookResult where
  signatureValid : Bool
  signatureReason : Option String
  rawWebhookId : Uuid
  eventsWritten : Nat
  eventsDeduped : Nat
  mappedEventId : Option Uuid
deriving DecidableEq

/-- One event of the loop in `dispatch_webhook`; it writes no suppression. -/
def dispatchEvent (tenantId : Uuid) (now : Int) (acc : HookStore × WebhookResult) (evt : MappedEvent) :
    Except HookError (HookStore × WebhookResult) :=
  match coerceEventKind evt.eventType with
  | none => .ok acc
  | some kind => do
    match ← acc.1.insertEvent tenantId kind evt.payload evt.providerEventId (evt.occurredAt.getD now) with
    | (s, none) => pure (s, { acc.2 with eventsDeduped := acc.2.eventsDeduped + 1 })
    | (s, some id) => pure (s,
        { acc.2 with
          eventsWritten := acc.2.eventsWritten + 1
          mappedEventId := acc.2.mappedEventId <|> some id })

def normaliseHeaders (headers : Dict String String) : Dict String String :=
  headers.map fun entry =>
    (entry.1, if lower entry.1 ∈ ["x-mas-webhook-secret", "authorization", "cookie"] then "***redacted***" else entry.2)

/-- `dispatch_webhook` for the SendGrid handler. -/
def dispatchWebhook (s : HookStore) (tenantId : Uuid) (headers : Dict String String) (body : Body) (now : Int) :
    Except HookError (HookStore × WebhookResult) := do
  let failure := verifySignature ((s.credential tenantId).map IntegrationCredential.payload) headers
  let rawId := s.nextId
  let row : RawWebhook :=
    ⟨rawId, tenantId, "sendgrid", failure.isNone, failure, normaliseHeaders headers, body, none⟩
  -- the flush of the row; its tenant may be null, but not an id that `tenant` lacks
  require (tenantId ∈ s.tenants) .foreignKey
  let s := { s with rawWebhooks := s.rawWebhooks ++ [row], nextId := s.nextId + 1 }
  match failure with
  | some reason =>
    pure ({ s with auditLog := s.auditLog ++ [⟨tenantId, rawId, "sendgrid", reason⟩] },
      ⟨false, some reason, rawId, 0, 0, none⟩)
  | none =>
    let mapped ← mapToEvents body
    let (s, result) ← mapped.foldlM (dispatchEvent tenantId now) (s, ⟨true, none, rawId, 0, 0, none⟩)
    pure ({ s with rawWebhooks := s.rawWebhooks.map fun raw =>
      if raw.id = rawId then { raw with mappedEventId := result.mappedEventId } else raw }, result)

end Receivers

end MarketingAgents
