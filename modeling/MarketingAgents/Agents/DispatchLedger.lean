import MarketingAgents.Agents.FrequencyCap

namespace MarketingAgents

open Lib

/-- The row of the tenant under the idempotency key. -/
def DispatchAttempt.under (tenantId : Uuid) (key : String) (row : DispatchAttempt) : Bool :=
  row.tenantId = tenantId ∧ row.idempotencyKey = key

/-- What the conflict clause makes of a stored row. -/
def DispatchAttempt.bumped (call row : DispatchAttempt) : DispatchAttempt :=
  if row.status = .sent then row else { row with attemptCount := row.attemptCount + 1, lastError := call.lastError }

/-- The rows under one key after a call: the first call inserts, and no later
one takes its status, message id or time away. -/
def recorded (stored : List DispatchAttempt) (call : DispatchAttempt) : List DispatchAttempt :=
  if stored = [] then [call] else stored.map call.bumped

section Upserts

variable {tenantId : Uuid} {key : String} {rows calls : List DispatchAttempt} {call row : DispatchAttempt}

theorem DispatchAttempt.under_iff : row.under tenantId key = true ↔ row.tenantId = tenantId ∧ row.idempotencyKey = key :=
  decide_eq_true_iff

theorem DispatchAttempt.bumped_columns (call row : DispatchAttempt) : (call.bumped row).status = row.status ∧
    (call.bumped row).providerMessageId = row.providerMessageId ∧ (call.bumped row).sentAt = row.sentAt := by
  unfold DispatchAttempt.bumped
  split <;> exact ⟨rfl, rfl, rfl⟩

theorem DispatchAttempt.bumped_sent (sent : row.status = .sent) : call.bumped row = row := if_pos sent

/-- The call bumps the rows under its key and no others. -/
theorem upsert_stored (stored : rows.any fun old => old.tenantId = call.tenantId ∧ old.idempotencyKey = call.idempotencyKey) :
    upsertDispatchAttempt rows call =
      rows.map fun row => if row.under call.tenantId call.idempotencyKey then call.bumped row else row := by
  unfold upsertDispatchAttempt updateWhere
  rw [if_pos stored]
  refine List.map_congr_left fun row _ => ?_
  unfold DispatchAttempt.under DispatchAttempt.bumped
  by_cases here : row.tenantId = call.tenantId ∧ row.idempotencyKey = call.idempotencyKey
  · by_cases sent : row.status = .sent <;> simp [here, sent]
  · have apart : ¬ (row.tenantId = call.tenantId ∧ row.idempotencyKey = call.idempotencyKey ∧ row.status ≠ .sent) :=
      fun ⟨tenant, same, _⟩ => here ⟨tenant, same⟩
    simp [here, apart]

theorem DispatchAttempt.bumped_under (call row : DispatchAttempt) :
    (call.bumped row).under tenantId key = row.under tenantId key := by
  unfold DispatchAttempt.bumped
  split <;> rfl

/-- The upsert seen from one key: it records the call among the rows of its own key
and leaves those of the others. -/
theorem upsert_under : (upsertDispatchAttempt rows call).filter (·.under tenantId key) =
    if call.under tenantId key then recorded (rows.filter (·.under tenantId key)) call
    else rows.filter (·.under tenantId key) := by
  by_cases stored : rows.any fun old => old.tenantId = call.tenantId ∧ old.idempotencyKey = call.idempotencyKey
  · rw [upsert_stored stored, List.filter_map]
    have same : ((fun row : DispatchAttempt => row.under tenantId key) ∘ fun row : DispatchAttempt =>
        if row.under call.tenantId call.idempotencyKey then call.bumped row else row) = (·.under tenantId key) := by
      funext row
      simp only [Function.comp_apply]
      split
      · exact DispatchAttempt.bumped_under call row
      · rfl
    rw [same]
    split
    · rename_i here
      obtain ⟨rfl, rfl⟩ := DispatchAttempt.under_iff.mp here
      obtain ⟨old, member, isKey⟩ := List.any_eq_true.mp stored
      have some : rows.filter (·.under call.tenantId call.idempotencyKey) ≠ [] :=
        List.ne_nil_of_mem (List.mem_filter.mpr ⟨member, isKey⟩)
      rw [recorded, if_neg some]
      exact List.map_congr_left fun row inside => if_pos (List.of_mem_filter inside)
    · rename_i apart
      conv_rhs => rw [← List.map_id (rows.filter (·.under tenantId key))]
      refine List.map_congr_left fun row inside => if_neg fun there => apart ?_
      have here := DispatchAttempt.under_iff.mp (List.of_mem_filter inside)
      have other := DispatchAttempt.under_iff.mp there
      exact DispatchAttempt.under_iff.mpr ⟨other.1.symm.trans here.1, other.2.symm.trans here.2⟩
  · unfold upsertDispatchAttempt
    rw [if_neg stored, List.filter_append]
    split
    · rename_i here
      obtain ⟨rfl, rfl⟩ := DispatchAttempt.under_iff.mp here
      have none : rows.filter (·.under call.tenantId call.idempotencyKey) = [] := by
        refine List.filter_eq_nil_iff.mpr fun row member there => stored ?_
        exact List.any_eq_true.mpr ⟨row, member, there⟩
      rw [none, recorded, if_pos rfl, List.filter_cons_of_pos here]
      rfl
    · rename_i apart
      rw [List.filter_cons_of_neg apart, List.filter_nil, List.append_nil]

/-- Under a key the ledger evolves by the calls on that key alone. -/
theorem upserts_under (calls rows : List DispatchAttempt) :
    (calls.foldl upsertDispatchAttempt rows).filter (·.under tenantId key) =
      (calls.filter (·.under tenantId key)).foldl recorded (rows.filter (·.under tenantId key)) := by
  induction calls generalizing rows with
  | nil => rfl
  | cons call calls ih =>
    rw [List.foldl_cons, ih, upsert_under]
    split
    · rename_i here
      rw [List.filter_cons_of_pos here, List.foldl_cons]
    · rename_i apart
      rw [List.filter_cons_of_neg apart]

/-- A stored row keeps its status, message id and time; a sent one changes in nothing. -/
theorem recorded_keeps (calls : List DispatchAttempt) (row : DispatchAttempt) :
    ∃ last, calls.foldl recorded [row] = [last] ∧ last.status = row.status ∧
      last.providerMessageId = row.providerMessageId ∧ last.sentAt = row.sentAt ∧ (row.status = .sent → last = row) := by
  induction calls generalizing row with
  | nil => exact ⟨row, rfl, rfl, rfl, rfl, fun _ => rfl⟩
  | cons call calls ih =>
    obtain ⟨last, value, status, messageId, sentAt, whole⟩ := ih (call.bumped row)
    obtain ⟨sameStatus, sameId, sameTime⟩ := call.bumped_columns row
    refine ⟨last, value, status.trans sameStatus, messageId.trans sameId, sentAt.trans sameTime, fun sent => ?_⟩
    rw [whole (sameStatus.trans sent), DispatchAttempt.bumped_sent sent]

/-- Stored rows keep their statuses. -/
theorem recorded_statuses (calls : List DispatchAttempt) {rows : List DispatchAttempt} (stored : rows ≠ []) :
    (calls.foldl recorded rows).map DispatchAttempt.status = rows.map DispatchAttempt.status := by
  induction calls generalizing rows with
  | nil => rfl
  | cons call calls ih =>
    have bumped : recorded rows call = rows.map call.bumped := if_neg stored
    rw [List.foldl_cons, bumped, ih (by simpa using stored), List.map_map]
    exact List.map_congr_left fun row _ => (call.bumped_columns row).1

/-- Under a key the ledger ends with a sent row exactly where it begins with
one, or begins with none and the first call on the key is sent. -/
theorem upserts_sent_iff (calls rows : List DispatchAttempt) :
    (∃ row ∈ calls.foldl upsertDispatchAttempt rows, row.under tenantId key ∧ row.status = .sent) ↔
      (∃ row ∈ rows, row.under tenantId key ∧ row.status = .sent) ∨
        (∀ row ∈ rows, ¬ row.under tenantId key) ∧ ∃ first ∈ calls.find? (·.under tenantId key), first.status = .sent := by
  have among : ∀ rows : List DispatchAttempt, (∃ row ∈ rows, row.under tenantId key ∧ row.status = .sent) ↔
      AttemptStatus.sent ∈ (rows.filter (·.under tenantId key)).map DispatchAttempt.status := by
    intro rows
    simp only [List.mem_map, List.mem_filter, and_assoc]
  rw [among, among, upserts_under, ← List.head?_filter, ← List.filter_eq_nil_iff]
  cases stored : rows.filter (·.under tenantId key) with
  | nil =>
    cases own : calls.filter (·.under tenantId key) with
    | nil => simp
    | cons first others =>
      obtain ⟨row, value, status, _⟩ := recorded_keeps others first
      have final : (first :: others).foldl recorded [] = [row] := value
      rw [final]
      simp [status, eq_comm]
  | cons old olds =>
    rw [recorded_statuses _ (List.cons_ne_nil old olds)]
    simp

end Upserts

/-- The ledger under a key loses no send: where a call is sent, the one row
says so, with the id and the time of a sent call, and from the call on after
which the row is sent it stays as it is. -/
def KeepsSends (rows calls : List DispatchAttempt) (tenantId : Uuid) (key : String) : Prop :=
  ((∃ call ∈ calls, call.under tenantId key ∧ call.status = .sent) →
    ∃ row, (calls.foldl upsertDispatchAttempt rows).filter (·.under tenantId key) = [row] ∧ row.status = .sent ∧
      ∃ call ∈ calls, call.under tenantId key ∧ call.status = .sent ∧
        row.providerMessageId = call.providerMessageId ∧ row.sentAt = call.sentAt) ∧
  ∀ first last row, calls = first ++ last →
    (first.foldl upsertDispatchAttempt rows).filter (·.under tenantId key) = [row] → row.status = .sent →
    (calls.foldl upsertDispatchAttempt rows).filter (·.under tenantId key) = [row]

/-- Calls on a key without a row lose no send exactly where the first of them is
sent if any is. A conflict leaves the row's status and message id alone, so that the
first call decides for all that follow. -/
theorem keeps_sends_iff {rows : List DispatchAttempt} {tenantId : Uuid} {key : String}
    (fresh : ∀ row ∈ rows, ¬ row.under tenantId key) (calls : List DispatchAttempt) :
    KeepsSends rows calls tenantId key ↔
      ((∃ call ∈ calls, call.under tenantId key ∧ call.status = .sent) →
        ∃ first ∈ calls.find? (·.under tenantId key), first.status = .sent) := by
  have empty : rows.filter (·.under tenantId key) = [] := List.filter_eq_nil_iff.mpr fresh
  have later : ∀ first last row, calls = first ++ last →
      (first.foldl upsertDispatchAttempt rows).filter (·.under tenantId key) = [row] → row.status = .sent →
      (calls.foldl upsertDispatchAttempt rows).filter (·.under tenantId key) = [row] := by
    rintro first last row rfl here sent
    obtain ⟨final, value, _, _, _, whole⟩ := recorded_keeps (last.filter (·.under tenantId key)) row
    rw [List.foldl_append, upserts_under, here, value, whole sent]
  rw [KeepsSends, and_iff_left later, upserts_under, empty, ← List.head?_filter]
  refine forall_congr' fun ⟨call, listed, under, sent⟩ => ?_
  cases own : calls.filter (·.under tenantId key) with
  | nil => exact absurd under (List.filter_eq_nil_iff.mp own call listed)
  | cons first others =>
    obtain ⟨row, value, status, messageId, sentAt, _⟩ := recorded_keeps others first
    have final : (first :: others).foldl recorded [] = [row] := value
    obtain ⟨inside, firstUnder⟩ := List.mem_filter.mp (own ▸ List.mem_cons_self : first ∈ calls.filter _)
    rw [final]
    constructor
    · rintro ⟨row', same, isSent, _⟩
      cases same
      exact ⟨first, rfl, status.symm.trans isSent⟩
    · rintro ⟨head, isHead, isSent⟩
      cases isHead
      exact ⟨row, rfl, status.trans isSent, first, inside, firstUnder, isSent, messageId, sentAt⟩

namespace Ledger

/-- A call for one address of asset 3. -/
def call (status : AttemptStatus) (messageId : Option String) (sentAt : Option Int) : DispatchAttempt where
  tenantId := 1
  contentAssetId := 3
  audienceExternalId := some "ann"
  recipientIdentifier := "ann@mail.io"
  idempotencyKey := "asset:3:recipient:ann@mail.io"
  provider := "sendgrid"
  providerMessageId := messageId
  status := status
  lastError := none
  sentAt := sentAt

/-- Skipped for the cap first, the address gets the message on the next run,
and its row is still a skipped one without an id. -/
theorem skipped_row_hides_send :
    let calls := [call .skipped none none, call .sent (some "m1.0") (some 100)]
    ¬ KeepsSends [] calls 1 "asset:3:recipient:ann@mail.io" ∧
      (calls.foldl upsertDispatchAttempt []).map (fun row => (row.status, row.providerMessageId, row.sentAt)) =
        [(.skipped, none, none)] := by
  refine ⟨fun keeps => ?_, by decide⟩
  obtain ⟨row, only, sent, _⟩ := keeps.1 ⟨call .sent (some "m1.0") (some 100), by decide, by decide, rfl⟩
  have skipped : ∀ row ∈ [call .skipped none none, call .sent (some "m1.0") (some 100)].foldl upsertDispatchAttempt [],
      row.status = .skipped := by decide
  have here := skipped row (List.mem_of_mem_filter (only ▸ List.mem_singleton_self row))
  rw [here] at sent
  cases sent

/-- A send that comes first is kept through a later failure. -/
theorem keeps_sends_iff_failed :
    KeepsSends [] [call .sent (some "m1.0") (some 100), call .failed none none] 1 "asset:3:recipient:ann@mail.io" :=
  (keeps_sends_iff (by simp) _).mpr fun _ => ⟨call .sent (some "m1.0") (some 100), by decide, rfl⟩

end Ledger

end MarketingAgents
