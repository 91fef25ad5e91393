import MarketingAgents.Webhooks.Suppression

namespace MarketingAgents

open Lib PyText SendGridConnector

/-- What `ON CONFLICT` compares. -/
def AnalyticEvent.key (row : AnalyticEvent) : Uuid × Option String := (row.tenantId, row.providerEventId)

/-- At most one row for each tenant and event id; rows without an id are not compared. -/
def UniqueEvents (events : List AnalyticEvent) : Prop :=
  ∀ tenantId id, (events.filter fun row => row.key = (tenantId, some id)).length ≤ 1

section Parsed

variable [PyText]

/-- The events `parse_webhook` finds in a body; a body that is no JSON has none. -/
def Body.events : Body → List EmailWebhookEvent
  | .json value =>
    match parseWebhook value with
    | .ok events => events
    | .error _ => []
  | _ => []

/-- The time that `parse_webhook` reads from a raw event. -/
def timestampOf (raw : Dict String Json) : Option Int :=
  match occurredAt (raw.get? "timestamp") with
  | .ok time => time
  | .error _ => none

/-- The rows agree in all but their own ids, and in the time where the event carries one. -/
structure SameEvent (a b : AnalyticEvent) : Prop where
  tenant : a.tenantId = b.tenantId
  kind : a.eventType = b.eventType
  payload : a.payload = b.payload
  eventId : a.providerEventId = b.providerEventId
  time : ∀ time, timestampOf a.payload = some time → a.eventAt = time ∧ b.eventAt = time

theorem SameEvent.keys {rows rows' : List AnalyticEvent} (same : List.Forall₂ SameEvent rows rows') :
    rows.map AnalyticEvent.key = rows'.map AnalyticEvent.key := by
  induction same with
  | nil => rfl
  | cons row _ ih => simp only [List.map_cons, ih, AnalyticEvent.key, row.tenant, row.eventId]

theorem mem_parseEvents {raws : List (Dict String Json)} {events : List EmailWebhookEvent} {evt : EmailWebhookEvent}
    (parsed : parseEvents raws = .ok events) : evt ∈ events ↔ ∃ raw ∈ raws, parseEvent raw = .ok (some evt) := by
  induction raws generalizing events with
  | nil =>
    simp only [parseEvents, pure_eq_ok] at parsed
    simp [← parsed]
  | cons raw raws ih =>
    simp only [parseEvents, bind_eq_ok, pure_eq_ok] at parsed
    obtain ⟨head, first, tail, others, rfl⟩ := parsed
    rw [List.mem_append, ih others, List.exists_mem_cons_iff, first]
    simp only [Option.mem_toList, Except.ok.injEq]

end Parsed

/-- What both loops have in common: the table of events and the two counts. -/
structure Ledger where
  events : List AnalyticEvent
  written : Nat := 0
  deduped : Nat := 0

namespace Ledger

/-- One parsed event, as either receiver takes it. -/
inductive Records (tenantId : Uuid) (now : Int) (evt : EmailWebhookEvent) : Ledger → Ledger → Prop
  | skips (l : Ledger) (unmapped : eventKindFor evt.eventType = none) : Records tenantId now evt l l
  | dedupes (l : Ledger) (mapped : (eventKindFor evt.eventType).isSome)
      (seen : (tenantId, some evt.providerEventId) ∈ l.events.map AnalyticEvent.key) :
      Records tenantId now evt l { l with deduped := l.deduped + 1 }
  | writes (l : Ledger) (id : Uuid) (kind : EventKind) (mapped : eventKindFor evt.eventType = some kind)
      (unseen : (tenantId, some evt.providerEventId) ∉ l.events.map AnalyticEvent.key) :
      Records tenantId now evt l
        { l with
          events := l.events ++
            [⟨id, tenantId, kind, evt.payload, some evt.providerEventId, evt.occurredAt.getD now⟩]
          written := l.written + 1 }

/-- A batch of parsed events, taken in order. -/
inductive Takes (tenantId : Uuid) (now : Int) : List EmailWebhookEvent → Ledger → Ledger → Prop
  | nil (l : Ledger) : Takes tenantId now [] l l
  | cons {evt : EmailWebhookEvent} {events : List EmailWebhookEvent} {l mid l' : Ledger}
      (first : Records tenantId now evt l mid) (rest : Takes tenantId now events mid l') :
      Takes tenantId now (evt :: events) l l'

variable {tenantId : Uuid} {now : Int} {evt : EmailWebhookEvent} {events : List EmailWebhookEvent} {l l' : Ledger}

theorem Records.unique (records : Records tenantId now evt l l') (unique : UniqueEvents l.events) :
    UniqueEvents l'.events := by
  cases records with
  | skips => exact unique
  | dedupes => exact unique
  | writes id kind mapped unseen =>
    intro tenant other
    have old := unique tenant other
    simp only [List.filter_append, List.length_append]
    by_cases same : (tenantId, some evt.providerEventId) = (tenant, some other)
    · -- the new row's key is free, so no stored row is counted beside it
      have free : l.events.filter (fun row => row.key = (tenant, some other)) = [] := by
        rw [List.filter_eq_nil_iff]
        intro row member equal
        have taken : row.key = (tenant, some other) := by simpa using equal
        exact unseen (same ▸ taken ▸ List.mem_map_of_mem member)
      rw [free]
      exact (Nat.zero_add _).trans_le (List.length_filter_le ..)
    · have uncounted : (AnalyticEvent.key ⟨id, tenantId, kind, evt.payload, some evt.providerEventId,
          evt.occurredAt.getD now⟩) ≠ (tenant, some other) := same
      simpa only [List.filter_cons, uncounted, decide_false, Bool.false_eq_true, if_false, List.filter_nil,
        List.length_nil, Nat.add_zero] using old

theorem Takes.unique (takes : Takes tenantId now events l l') (unique : UniqueEvents l.events) :
    UniqueEvents l'.events := by
  induction takes with
  | nil => exact unique
  | cons first _ ih => exact ih (first.unique unique)

/-- A mapped event raises one of the counts, any other event none. -/
theorem Records.counts (records : Records tenantId now evt l l') :
    l'.written + l'.deduped = l.written + l.deduped + if (eventKindFor evt.eventType).isSome then 1 else 0 := by
  cases records with
  | skips unmapped => simp [unmapped]
  | dedupes mapped => simp only [mapped, if_true]; omega
  | writes id kind mapped => simp only [mapped, Option.isSome_some, if_true]; omega

theorem Takes.counts (takes : Takes tenantId now events l l') :
    l'.written + l'.deduped =
      l.written + l.deduped + (events.filter fun evt => (eventKindFor evt.eventType).isSome).length := by
  induction takes with
  | nil => simp
  | @cons evt _ _ _ _ first _ ih =>
    have here := first.counts
    rw [ih, here, List.filter_cons]
    by_cases mapped : (eventKindFor evt.eventType).isSome = true
    · rw [if_pos mapped, if_pos mapped, List.length_cons]
      omega
    · rw [if_neg mapped, if_neg mapped, Nat.add_zero]

/-- From tables with the same keys two ledgers take an event alike: they
write the same row, or neither writes. -/
theorem Records.agree [PyText] {later : Int} {m m' : Ledger} (left : Records tenantId now evt l l')
    (right : Records tenantId later evt m m') (timed : evt.occurredAt = timestampOf evt.payload)
    (keys : l.events.map AnalyticEvent.key = m.events.map AnalyticEvent.key) :
    ∃ new new', l'.events = l.events ++ new ∧ m'.events = m.events ++ new' ∧ List.Forall₂ SameEvent new new' ∧
      l'.written = l.written + new.length ∧ m'.written = m.written + new.length ∧
      l'.deduped + m.deduped = l.deduped + m'.deduped := by
  cases left with
  | skips unmapped =>
    cases right with
    | skips => exact ⟨[], [], by simp, by simp, .nil, by simp, by simp, by omega⟩
    | dedupes mapped => simp [unmapped] at mapped
    | writes _ _ mapped => simp [unmapped] at mapped
  | dedupes mapped seen =>
    cases right with
    | skips unmapped => simp [unmapped] at mapped
    | dedupes => exact ⟨[], [], by simp, by simp, .nil, by simp, by simp, by simp only; omega⟩
    | writes _ _ _ unseen => exact absurd (keys ▸ seen) unseen
  | writes id kind mapped unseen =>
    cases right with
    | skips unmapped => simp [unmapped] at mapped
    | dedupes _ seen => exact absurd seen (keys ▸ unseen)
    | writes id' kind' mapped' =>
      have kinds : kind = kind' := Option.some.inj (mapped.symm.trans mapped')
      refine ⟨_, _, rfl, rfl, .cons ⟨rfl, kinds, rfl, rfl, fun time read => ?_⟩ .nil, rfl, rfl, rfl⟩
      have carried : evt.occurredAt = some time := timed.trans read
      simp [carried]

theorem Takes.agree [PyText] {later : Int} {m m' : Ledger} (left : Takes tenantId now events l l')
    (right : Takes tenantId later events m m') (timed : ∀ evt ∈ events, evt.occurredAt = timestampOf evt.payload)
    (keys : l.events.map AnalyticEvent.key = m.events.map AnalyticEvent.key) :
    ∃ new new', l'.events = l.events ++ new ∧ m'.events = m.events ++ new' ∧ List.Forall₂ SameEvent new new' ∧
      l'.written = l.written + new.length ∧ m'.written = m.written + new.length ∧
      l'.deduped + m.deduped = l.deduped + m'.deduped := by
  induction left generalizing m with
  | nil =>
    cases right
    exact ⟨[], [], by simp, by simp, .nil, by simp, by simp, by omega⟩
  | cons first rest ih =>
    cases right with
    | cons first' rest' =>
      obtain ⟨head, head', grown, grown', same, count, count', dedupes⟩ :=
        first.agree first' (timed _ (List.mem_cons_self ..)) keys
      have headKeys := SameEvent.keys same
      obtain ⟨tail, tail', grown₂, grown₂', same₂, count₂, count₂', dedupes₂⟩ :=
        ih rest' (fun evt member => timed evt (List.mem_cons_of_mem _ member))
          (by rw [grown, grown', List.map_append, List.map_append, keys, headKeys])
      refine ⟨head ++ tail, head' ++ tail', ?_, ?_, List.rel_append same same₂, ?_, ?_, by omega⟩
      · rw [grown₂, grown, List.append_assoc]
      · rw [grown₂', grown', List.append_assoc]
      · rw [count₂, count, List.length_append]; omega
      · rw [count₂', count', List.length_append]; omega

end Ledger

section Receivers

variable [PyText]

end Receivers

namespace HookOp

variable [PyText]

/-- What a delivery reports as written and as deduped. -/
def counts (s : HookStore) : HookOp → Option (Nat × Nat)
  | .receive tenantId secret body now =>
    (receiveWebhook s tenantId secret body now).toOption.map fun done => (done.2.written, done.2.deduped)
  | .dispatch tenantId headers body now =>
    (dispatchWebhook s tenantId headers body now).toOption.map fun done => (done.2.eventsWritten, done.2.eventsDeduped)

end HookOp

namespace HookStore

variable [PyText]

end HookStore

namespace HookStore

local instance plainHooks : PyText := PyText.plain

private def opened (id : String) : Json :=
  .obj [("event", .str "open"), ("sg_event_id", .str id), ("timestamp", .int 1700000000)]

end HookStore

end MarketingAgents
