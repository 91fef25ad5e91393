import MarketingAgents.Agents.EmailDistribution
import MarketingAgents.Content.Pipeline
import MarketingAgents.Lib.Run
import MarketingAgents.Lib.Window

namespace MarketingAgents

open Lib PyText

/-- A pending row on the key keeps its status, so what was sent stays what it was. -/
theorem upsert_filter {sent : DispatchAttempt → Bool} (only : ∀ row, sent row = true → row.status = .sent)
    (rows : List DispatchAttempt) (row : DispatchAttempt) :
    (upsertDispatchAttempt rows row).filter sent =
      if rows.any (fun stored => stored.tenantId = row.tenantId ∧ stored.idempotencyKey = row.idempotencyKey) then
        rows.filter sent
      else rows.filter sent ++ [row].filter sent := by
  unfold upsertDispatchAttempt
  split
  · refine filter_updateWhere fun stored _ bumped => ?_
    have pending : stored.status ≠ .sent := (of_decide_eq_true bumped).2.2
    refine ⟨?_, ?_⟩
    · rw [← Bool.not_eq_true]
      exact fun counted => pending (only stored counted)
    · rw [← Bool.not_eq_true]
      intro counted
      have status := only _ counted
      exact pending status
  · rw [List.filter_append]

theorem upsert_keeps_key {rows : List DispatchAttempt} {row : DispatchAttempt} {tenantId : Uuid} {key : String}
    (stored : ∃ old ∈ rows, old.tenantId = tenantId ∧ old.idempotencyKey = key) :
    ∃ old ∈ upsertDispatchAttempt rows row, old.tenantId = tenantId ∧ old.idempotencyKey = key := by
  obtain ⟨old, member, same⟩ := stored
  unfold upsertDispatchAttempt
  split
  · by_cases bumped : (old.tenantId = row.tenantId ∧ old.idempotencyKey = row.idempotencyKey ∧ old.status ≠ .sent)
    · exact ⟨_, mem_updateWhere.mpr (Or.inl ⟨old, member, decide_eq_true bumped, rfl⟩), same⟩
    · exact ⟨old, mem_updateWhere.mpr (Or.inr ⟨member, decide_eq_false bumped⟩), same⟩
  · exact ⟨old, List.mem_append_left _ member, same⟩

theorem upsert_stores (rows : List DispatchAttempt) (row : DispatchAttempt) :
    ∃ old ∈ upsertDispatchAttempt rows row, old.tenantId = row.tenantId ∧ old.idempotencyKey = row.idempotencyKey := by
  by_cases stored : ∃ old ∈ rows, old.tenantId = row.tenantId ∧ old.idempotencyKey = row.idempotencyKey
  · exact upsert_keeps_key stored
  · refine ⟨row, ?_, rfl, rfl⟩
    unfold upsertDispatchAttempt
    rw [if_neg (by simpa using stored)]
    exact List.mem_append_right _ (List.mem_singleton.mpr rfl)

/-- Whatever is recorded has a row under its key in the end. -/
theorem upserts_store {calls : List DispatchAttempt} {call : DispatchAttempt} (recorded : call ∈ calls)
    (rows : List DispatchAttempt) : ∃ row ∈ calls.foldl upsertDispatchAttempt rows,
      row.tenantId = call.tenantId ∧ row.idempotencyKey = call.idempotencyKey := by
  have stays : ∀ {rows : List DispatchAttempt} (later : List DispatchAttempt),
      (∃ row ∈ rows, row.tenantId = call.tenantId ∧ row.idempotencyKey = call.idempotencyKey) →
      ∃ row ∈ later.foldl upsertDispatchAttempt rows,
        row.tenantId = call.tenantId ∧ row.idempotencyKey = call.idempotencyKey := by
    intro rows later stored
    induction later generalizing rows with
    | nil => exact stored
    | cons next later ih => exact ih (upsert_keeps_key stored)
  obtain ⟨first, last, rfl⟩ := List.append_of_mem recorded
  rw [List.foldl_append]
  exact stays last (upsert_stores _ call)

/-- Rows under one key add at most one sent row between them, and none where
the key is stored. -/
theorem upserts_filter {sent : DispatchAttempt → Bool} (only : ∀ row, sent row = true → row.status = .sent)
    {tenantId : Uuid} {key : String} {news : List DispatchAttempt}
    (keyed : ∀ row ∈ news, sent row = true → row.tenantId = tenantId ∧ row.idempotencyKey = key)
    (rows : List DispatchAttempt) :
    ∃ extra, (news.foldl upsertDispatchAttempt rows).filter sent = rows.filter sent ++ extra ∧
      extra.length ≤ 1 ∧ (∀ row ∈ extra, row ∈ news ∧ sent row = true) ∧
      ((∃ old ∈ rows, old.tenantId = tenantId ∧ old.idempotencyKey = key) → extra = []) := by
  induction news generalizing rows with
  | nil => exact ⟨[], by simp, by simp, by simp, fun _ => rfl⟩
  | cons row news ih =>
    obtain ⟨extra, value, single, from', silent⟩ :=
      ih (fun later member => keyed later (List.mem_cons_of_mem _ member)) (upsertDispatchAttempt rows row)
    have later : ∀ other ∈ extra, other ∈ row :: news ∧ sent other = true :=
      fun other member => ⟨List.mem_cons_of_mem _ (from' other member).1, (from' other member).2⟩
    rw [upsert_filter only] at value
    split at value
    · exact ⟨extra, value, single, later, fun stored => silent (upsert_keeps_key stored)⟩
    · rename_i fresh
      by_cases counted : sent row = true
      · -- the row is the first under the key: it takes the one place
        obtain ⟨sameTenant, sameKey⟩ := keyed row (List.mem_cons_self ..) counted
        have none := silent (sameTenant ▸ sameKey ▸ upsert_stores rows row)
        rw [none, List.append_nil, List.filter_cons_of_pos counted, List.filter_nil] at value
        refine ⟨[row], value, le_rfl, fun other member => ?_, fun stored => ?_⟩
        · rw [List.mem_singleton.mp member]
          exact ⟨List.mem_cons_self .., counted⟩
        · refine absurd ?_ fresh
          obtain ⟨old, member, tenant, same⟩ := stored
          exact List.any_eq_true.mpr ⟨old, member, decide_eq_true ⟨tenant.trans sameTenant.symm, same.trans sameKey.symm⟩⟩
      · rw [List.filter_cons_of_neg counted, List.filter_nil, List.append_nil] at value
        exact ⟨extra, value, single, later, fun stored => silent (upsert_keeps_key stored)⟩

section Ledger

variable [PyText]

/-- A sent row of the tenant for the address. -/
def sentTo (tenantId : Uuid) (address : String) (row : DispatchAttempt) : Bool :=
  row.tenantId = tenantId ∧ row.status = .sent ∧ lower row.recipientIdentifier = lower address

theorem sentTo_iff {tenantId : Uuid} {address : String} {row : DispatchAttempt} :
    sentTo tenantId address row = true ↔
      row.tenantId = tenantId ∧ row.status = .sent ∧ lower row.recipientIdentifier = lower address :=
  decide_eq_true_iff

/-- When the tenant sent to the address. -/
def sentTimes (rows : List DispatchAttempt) (tenantId : Uuid) (address : String) : List Int :=
  (rows.filter (sentTo tenantId address)).filterMap DispatchAttempt.sentAt

/-- `dispatch_email_asset` in its transaction: it reads at `started` and
writes its rows at `finished`. -/
def runEmail (db : Db) (secret : String) (assetId batchId : Uuid) (answer : SendgridResponse)
    (started finished : Int) : Except HandlerError Db :=
  match beginEmail db secret assetId started with
  | .error error => .error error
  | .ok none => .ok db
  | .ok (some plan) => finishEmail db plan (callEmail db plan answer batchId) finished

theorem maybeGoLive_ledger {db db' : Db} {c : Campaign} {now : Int} (done : maybeGoLive db c now = .ok db') :
    db'.dispatchAttempts = db.dispatchAttempts ∧ db'.frequencyCaps = db.frequencyCaps ∧ db'.assets = db.assets := by
  rw [maybeGoLive_eq] at done
  rw [← Except.ok.inj done]
  split
  · unfold Db.writeStatus
    split <;> exact ⟨rfl, rfl, rfl⟩
  · exact ⟨rfl, rfl, rfl⟩

/-- A committed handler has written what came of its call, or it made none. -/
theorem finishEmail_commits {db db' : Db} {plan : EmailPlan} {outcome : Option DispatchOutcome} {now : Int}
    (done : finishEmail db plan outcome now = .ok db') :
    (outcome = none ∧ commitEmail db plan none now = .ok db') ∨
      ∃ called result, outcome = some called ∧ called.result = .ok result ∧
        commitEmail db plan (some result) now = .ok db' := by
  unfold finishEmail at done
  split at done
  · exact Or.inl ⟨rfl, mapError_eq_ok.mp done⟩
  · split at done
    · cases done
    · rename_i called _ result returned
      exact Or.inr ⟨called, result, rfl, returned, mapError_eq_ok.mp done⟩

/-- A committed handler has written the attempts of a report, or of a call that was not made. -/
theorem finishEmail_ledger {db db' : Db} {plan : EmailPlan} {outcome : Option DispatchOutcome} {now : Int}
    (done : finishEmail db plan outcome now = .ok db') :
    (∃ result, db'.dispatchAttempts = (emailAttempts plan result now).foldl upsertDispatchAttempt db.dispatchAttempts) ∧
      db'.frequencyCaps = db.frequencyCaps := by
  have committed : ∃ result, commitEmail db plan result now = .ok db' := by
    rcases finishEmail_commits done with ⟨_, commit⟩ | ⟨_, result, _, _, commit⟩
    · exact ⟨none, commit⟩
    · exact ⟨some result, commit⟩
  obtain ⟨result, commit⟩ := committed
  obtain ⟨attempts, caps, _⟩ := maybeGoLive_ledger (commitEmail_eq_ok.mp commit).2
  exact ⟨⟨result, attempts⟩, caps⟩

/-- What the plan says of its addresses: each is in normal form, and those to
be sent to were checked against the cap. -/
structure CapChecked (db : Db) (now : Int) (plan : EmailPlan) : Prop where
  normal : ∀ entry ∈ plan.toSend, lower entry.2 = entry.2
  below : ∀ cap, db.frequencyCaps.filter (fun row => row.tenantId = plan.asset.tenantId ∧
      row.channelPlatform = .email ∧ row.enabled) = [cap] → 1 ≤ cap.maxSendsPerRecipient →
    ∀ entry ∈ plan.toSend, (sentTimes db.dispatchAttempts plan.asset.tenantId entry.2).countP
      (fun time => now - hours (24 * cap.windowDays) ≤ time) < cap.maxSendsPerRecipient

theorem countP_sentTimes (rows : List DispatchAttempt) (tenantId : Uuid) (address : String) (p : Int → Prop)
    [DecidablePred p] : (sentTimes rows tenantId address).countP (p ·) =
      rows.countP fun row => sentTo tenantId address row ∧ ∃ time ∈ row.sentAt, p time := by
  rw [sentTimes, List.countP_filterMap, List.countP_filter]
  refine List.countP_congr fun row _ => ?_
  cases row.sentAt <;> simp [and_comm]

/-- The query of the cap counts what was sent to the address since the cutoff. -/
theorem sentSince_count (db : Db) (tenantId : Uuid) (cutoff : Int) {candidates : List String} {email : String}
    (listed : email ∈ candidates) (normal : lower email = email) :
    ((sentSince db tenantId cutoff candidates).filter fun row => lower row.recipientIdentifier = email).length =
      (sentTimes db.dispatchAttempts tenantId email).countP fun time => cutoff ≤ time := by
  rw [countP_sentTimes, ← List.countP_eq_length_filter, sentSince, List.countP_filter]
  refine List.countP_congr fun row _ => ?_
  simp only [sentTo_iff, Bool.and_eq_true, decide_eq_true_eq, normal]
  constructor
  · rintro ⟨here, tenant, sent, since, _⟩
    exact ⟨⟨tenant, sent, here⟩, since⟩
  · rintro ⟨⟨tenant, sent, here⟩, since⟩
    exact ⟨here, tenant, sent, since, email, listed, here.trans normal.symm⟩

theorem memberEmail_normal (m : AudienceMember) : lower (memberEmail m) = memberEmail m := lower_normalised _

theorem memberEmail_empty {m : AudienceMember} (empty : m.payload = []) : memberEmail m = "" := by
  simp only [memberEmail, empty, Dict.get?]
  rw [show (Option.getD none (Json.str "")) = Json.str "" from rfl, str_str, normalised_empty]

/-- Who is sent to has fewer rows in the window than the cap allows. -/
theorem not_capped_count {db : Db} {tenantId : Uuid} {candidates capped : List String} {now : Int}
    (query : cappedRecipients db tenantId .email candidates now = .ok capped) {cap : FrequencyCapSetting}
    (only : db.frequencyCaps.filter (fun row => row.tenantId = tenantId ∧ row.channelPlatform = .email ∧ row.enabled) =
      [cap]) (positive : 1 ≤ cap.maxSendsPerRecipient) {email : String} (listed : email ∈ candidates)
    (normal : lower email = email) (free : email ∉ capped) :
    (sentTimes db.dispatchAttempts tenantId email).countP (fun time => now - hours (24 * cap.windowDays) ≤ time) <
      cap.maxSendsPerRecipient := by
  simp only [cappedRecipients, only, scalarOneOrNone, bind_eq_ok, Except.ok.injEq, pure_eq_ok] at query
  obtain ⟨_, rfl, rfl⟩ := query
  have count := sentSince_count db tenantId (now - hours (24 * cap.windowDays)) listed normal
  rw [← count]
  by_contra full
  have reached := Nat.le_of_not_lt full
  refine free (List.mem_filter.mpr ⟨?_, decide_eq_true reached⟩)
  obtain ⟨row, member⟩ := List.exists_mem_of_length_pos (Nat.lt_of_lt_of_le positive reached)
  obtain ⟨sent, same⟩ := List.mem_filter.mp member
  exact List.mem_map.mpr ⟨row, sent, of_decide_eq_true same⟩

theorem triaged_send {existing recent capped : List String} {members : List AudienceMember}
    {entry : AudienceMember × String} (member : entry ∈ triaged existing recent capped members .send) :
    entry.1 ∈ members ∧ entry.2 = memberEmail entry.1 ∧ entry.2 ≠ "" ∧ entry.2 ∉ capped := by
  obtain ⟨mapped, sends⟩ := List.mem_filter.mp member
  obtain ⟨m, here, rfl⟩ := List.mem_map.mp mapped
  have sends : triage existing recent capped (memberEmail m) = .send := of_decide_eq_true sends
  unfold triage at sends
  split at sends
  · cases sends
  · rename_i present
    split at sends
    · cases sends
    · split at sends
      · cases sends
      · rename_i free
        exact ⟨here, rfl, present, free⟩

theorem planEmail_capChecked {db : Db} {secret : String} {a : ContentAsset} {c : Campaign} {now : Int}
    {plan : EmailPlan} (planned : planEmail db secret a c now = .ok plan) : CapChecked db now plan := by
  simp only [planEmail, bind_eq_ok, pure_eq_ok] at planned
  obtain ⟨payload, _, _, _, ⟨members, assignments⟩, _, recipients, _, capped, query, _, _, message, _, rfl⟩ := planned
  refine ⟨fun entry member => ?_, fun cap only positive entry member => ?_⟩
  · obtain ⟨_, address, _⟩ := triaged_send member
    rw [address]
    exact memberEmail_normal entry.1
  · obtain ⟨inside, address, present, free⟩ := triaged_send member
    have normal : lower entry.2 = entry.2 := by
      rw [address]
      exact memberEmail_normal entry.1
    have payload : entry.1.payload ≠ [] := fun empty => present (address.trans (memberEmail_empty empty))
    have listed : entry.2 ∈ ((members.filter fun m => m.payload ≠ []).map memberEmail).filter (· ≠ "") := by
      refine List.mem_filter.mpr ⟨List.mem_map.mpr ⟨entry.1, ?_, address.symm⟩, decide_eq_true present⟩
      exact List.mem_filter.mpr ⟨inside, decide_eq_true payload⟩
    exact not_capped_count query only positive listed normal free

theorem beginEmail_capChecked {db : Db} {secret : String} {assetId : Uuid} {now : Int} {plan : EmailPlan}
    (begun : beginEmail db secret assetId now = .ok (some plan)) : CapChecked db now plan := by
  simp only [beginEmail, bind_eq_ok] at begun
  obtain ⟨a, _, _, _, c, _, rest⟩ := begun
  split at rest
  · cases rest
  · simp only [bind_eq_ok, pure_eq_ok, Option.some.injEq] at rest
    obtain ⟨_, _, plan', planned, rfl⟩ := rest
    exact planEmail_capChecked planned

/-- A sent row among the attempts is stamped with the clock and goes to an
address of the plan, under the key of that address. -/
theorem emailAttempts_sent {plan : EmailPlan} {result : Option DispatchResult} {now : Int} {row : DispatchAttempt}
    (member : row ∈ emailAttempts plan result now) (sent : row.status = .sent) :
    row.tenantId = plan.asset.tenantId ∧ row.sentAt = some now ∧
      ∃ entry ∈ plan.toSend, row.recipientIdentifier = entry.2 ∧
        row.idempotencyKey = idempotencyKey plan.asset.id entry.2 := by
  rcases List.mem_append.mp member with skipped | attempted
  · obtain ⟨entry, _, rfl⟩ := List.mem_map.mp skipped
    cases sent
  · cases result with
    | none => cases attempted
    | some result =>
      obtain ⟨entry, planned, rfl⟩ := List.mem_map.mp attempted
      cases verdict : verdictOf result entry.2 with
      | accepted messageId =>
        exact ⟨rfl, rfl, entry, planned, rfl, rfl⟩
      | refused reason =>
        rw [verdict] at sent
        simp only [verdictAttempt, emailAttempt, Verdict.status] at sent
        split at sent <;> cases sent
      | unacknowledged =>
        rw [verdict] at sent
        cases sent

/-- A run of the handler adds no time to those of an address, or its own
clock, and then the cap left room for one. -/
theorem runEmail_sentTimes {db db' : Db} {secret : String} {assetId batchId : Uuid} {answer : SendgridResponse}
    {started finished : Int} (done : runEmail db secret assetId batchId answer started finished = .ok db')
    (tenantId : Uuid) (address : String) :
    db'.frequencyCaps = db.frequencyCaps ∧
    (sentTimes db'.dispatchAttempts tenantId address = sentTimes db.dispatchAttempts tenantId address ∨
      sentTimes db'.dispatchAttempts tenantId address = sentTimes db.dispatchAttempts tenantId address ++ [finished] ∧
      ∀ cap, db.frequencyCaps.filter (fun row => row.tenantId = tenantId ∧ row.channelPlatform = .email ∧
          row.enabled) = [cap] → 1 ≤ cap.maxSendsPerRecipient →
        (sentTimes db.dispatchAttempts tenantId address).countP
          (fun time => started - hours (24 * cap.windowDays) ≤ time) < cap.maxSendsPerRecipient) := by
  unfold runEmail at done
  split at done
  · cases done
  · cases done
    exact ⟨rfl, Or.inl rfl⟩
  · rename_i plan begun
    have checked := beginEmail_capChecked begun
    obtain ⟨⟨result, attempts⟩, caps⟩ := finishEmail_ledger done
    refine ⟨caps, ?_⟩
    have keyed : ∀ row ∈ emailAttempts plan result finished, sentTo tenantId address row = true →
        row.tenantId = tenantId ∧ row.idempotencyKey = idempotencyKey plan.asset.id (lower address) := by
      intro row member counted
      obtain ⟨tenant, sent, here⟩ := sentTo_iff.mp counted
      obtain ⟨_, _, entry, planned, recipient, key⟩ := emailAttempts_sent member sent
      have normal := checked.normal entry planned
      refine ⟨tenant, ?_⟩
      rw [key, ← here, recipient, normal]
    have only : ∀ row, sentTo tenantId address row = true → row.status = .sent :=
      fun row counted => (sentTo_iff.mp counted).2.1
    obtain ⟨extra, value, single, from', _⟩ := upserts_filter only keyed db.dispatchAttempts
    unfold sentTimes
    rw [attempts, value, List.filterMap_append]
    cases extra with
    | nil => exact Or.inl (by simp)
    | cons row others =>
      right
      have lone : others = [] := by
        rw [List.length_cons] at single
        exact List.eq_nil_of_length_eq_zero (by omega)
      obtain ⟨member, counted⟩ := from' row (List.mem_cons_self ..)
      obtain ⟨tenant, sent, here⟩ := sentTo_iff.mp counted
      obtain ⟨ours, stamped, entry, planned, recipient, _⟩ := emailAttempts_sent member sent
      have normal := checked.normal entry planned
      refine ⟨by rw [lone, List.filterMap_cons_some stamped, List.filterMap_nil], fun cap only positive => ?_⟩
      have room := checked.below cap (by rw [← ours, tenant]; exact only) positive entry planned
      have sameAddress : sentTimes db.dispatchAttempts tenantId address =
          sentTimes db.dispatchAttempts plan.asset.tenantId entry.2 := by
        unfold sentTimes sentTo
        rw [← ours, tenant, ← recipient, here]
      unfold sentTimes at sameAddress room
      rw [sameAddress]
      exact room

end Ledger

/-- Runs of the email handler, and whatever else happens between them. -/
inductive CapOp where
  | dispatch (secret : String) (assetId batchId : Uuid) (answer : SendgridResponse) (started finished : Int)
  /-- Any change of assets, audiences and the rest: the ledger and the caps stay. -/
  | other (edit : Db → Db) (leaves : ∀ db, (edit db).dispatchAttempts = db.dispatchAttempts ∧
      (edit db).frequencyCaps = db.frequencyCaps)

/-- The database, and the clock at the end of the last run. -/
structure CapState where
  db : Db
  clock : Int

namespace CapState

variable [PyText]

/-- A run that raises is rolled back. -/
def step (s : CapState) : CapOp → CapState
  | .dispatch secret assetId batchId answer started finished =>
    ⟨(runEmail s.db secret assetId batchId answer started finished).toOption.getD s.db, finished⟩
  | .other edit _ => ⟨edit s.db, s.clock⟩

/-- The clock does not run backwards. -/
def Timely (s : CapState) : CapOp → Prop
  | .dispatch _ _ _ _ started finished => s.clock ≤ started ∧ started ≤ finished
  | .other .. => True

/-- The cap holds of every address in every window so far. Windows are closed,
so one of `windowDays` days has room for a microsecond more. -/
structure Capped (cap : FrequencyCapSetting) (tenantId : Uuid) (s : CapState) : Prop where
  only : s.db.frequencyCaps.filter (fun row => row.tenantId = tenantId ∧ row.channelPlatform = .email ∧ row.enabled) =
    [cap]
  past : ∀ address, ∀ time ∈ sentTimes s.db.dispatchAttempts tenantId address, time ≤ s.clock
  sparse : ∀ address, Sparse (hours (24 * cap.windowDays) + 1) cap.maxSendsPerRecipient
    (sentTimes s.db.dispatchAttempts tenantId address)

/-- A dispatch keeps every address within the cap. Those who have reached it are
left out before the call, so that at most the last free place of the period is
taken. -/
theorem Capped.step {cap : FrequencyCapSetting} {tenantId : Uuid} (positive : 1 ≤ cap.maxSendsPerRecipient)
    {s : CapState} {op : CapOp} (capped : Capped cap tenantId s) (timely : s.Timely op) :
    Capped cap tenantId (s.step op) := by
  cases op with
  | other edit leaves =>
    obtain ⟨attempts, caps⟩ := leaves s.db
    refine ⟨?_, fun address => ?_, fun address => ?_⟩
    · simpa only [CapState.step, caps] using capped.only
    · simpa only [CapState.step, attempts] using capped.past address
    · simpa only [CapState.step, attempts] using capped.sparse address
  | dispatch secret assetId batchId answer started finished =>
    obtain ⟨before, within⟩ := timely
    have later : s.clock ≤ finished := before.trans within
    cases outcome : runEmail s.db secret assetId batchId answer started finished with
    | error error =>
      simp only [CapState.step, outcome, Except.toOption, Option.getD_none]
      exact ⟨capped.only, fun address time member => (capped.past address time member).trans later, capped.sparse⟩
    | ok db' =>
      simp only [CapState.step, outcome, Except.toOption, Option.getD_some]
      have effect := runEmail_sentTimes outcome tenantId
      refine ⟨?_, fun address time member => ?_, fun address => ?_⟩
      · rw [show db'.frequencyCaps = s.db.frequencyCaps from (effect "").1]
        exact capped.only
      · rcases (effect address).2 with same | ⟨grown, _⟩
        · exact (capped.past address time (same ▸ member)).trans later
        · rcases List.mem_append.mp (grown ▸ member) with old | new
          · exact (capped.past address time old).trans later
          · exact (List.mem_singleton.mp new).le
      · rcases (effect address).2 with same | ⟨grown, room⟩
        · rw [same]
          exact capped.sparse address
        · rw [grown]
          refine (capped.sparse address).append_latest
            (fun time member => (capped.past address time member).trans later) ?_
          -- a window that ends with the new row opens after the cutoff of the check
          refine lt_of_le_of_lt (List.countP_mono_left fun time _ recent => ?_) (room cap capped.only positive)
          simp only [decide_eq_true_eq] at recent ⊢
          omega

/-- From an empty ledger, whatever is dispatched in sequence under the one
enabled email cap: no address has more sent rows within a period of
`windowDays` days than the cap allows. -/
theorem frequency_cap_respected (db : Db) (clock : Int) (tenantId : Uuid) (cap : FrequencyCapSetting)
    (only : db.frequencyCaps.filter (fun row => row.tenantId = tenantId ∧ row.channelPlatform = .email ∧ row.enabled) =
      [cap]) (positive : 1 ≤ cap.maxSendsPerRecipient) (start : db.dispatchAttempts = []) (ops : List CapOp)
    (timely : Along step Timely ⟨db, clock⟩ ops) (address : String) (opens : Int) :
    ((run step ⟨db, clock⟩ ops).db.dispatchAttempts.filter fun row =>
      row.tenantId = tenantId ∧ row.status = .sent ∧ lower row.recipientIdentifier = lower address ∧
        ∃ sentAt ∈ row.sentAt, opens ≤ sentAt ∧ sentAt ≤ opens + hours (24 * cap.windowDays)).length ≤
      cap.maxSendsPerRecipient := by
  have empty : ∀ address, sentTimes db.dispatchAttempts tenantId address = [] := by
    intro address
    rw [sentTimes, start, List.filter_nil, List.filterMap_nil]
  have initially : Capped cap tenantId ⟨db, clock⟩ := by
    refine ⟨only, fun address time member => ?_, fun address => ?_⟩
    · rw [empty address] at member
      cases member
    · rw [empty address]
      exact .nil _ _
  have capped := timely.invariant initially fun s op capped timely => capped.step positive timely
  have bound := capped.sparse address opens
  refine le_of_eq_of_le ?_ bound
  rw [occupancy, countP_sentTimes, ← List.countP_eq_length_filter]
  refine List.countP_congr fun row _ => ?_
  simp only [sentTo_iff, decide_eq_true_eq]
  constructor
  · rintro ⟨tenant, sent, here, time, stored, since, until'⟩
    exact ⟨⟨tenant, sent, here⟩, time, stored, since, by omega⟩
  · rintro ⟨⟨tenant, sent, here⟩, time, stored, since, until'⟩
    exact ⟨tenant, sent, here, time, stored, since, by omega⟩

end CapState

namespace CapState

local instance cappedText : PyText := PyText.plain

/-- Two scheduled emails to one member, and one send a week. -/
private def oneAWeek : Db where
  campaigns := [⟨0, 1, "spring", .live, 100, "EUR", 0, 30, [], none⟩]
  assets := [⟨3, 1, 0, none, .email, .scheduled, some "first", some "hello", [], true, none, none⟩,
    ⟨4, 1, 0, none, .email, .scheduled, some "second", some "hello", [], true, none, none⟩]
  audiences := [⟨8, 1, 0, 0⟩]
  audienceMembers := [⟨8, "ann", [("email", .str "ann@mail.io")]⟩]
  credentials := [⟨1, none, "sendgrid", [("api_key", .str "key"), ("default_from_email", .str "news@shop.io")]⟩]
  frequencyCaps := [⟨1, .email, 1, 7, true⟩]

/-- The second email is due two days after the first, within the week. -/
private def twoEmails : List CapOp :=
  [.dispatch "secret" 3 90 (.response 202 "" "m1") 0 1,
    .dispatch "secret" 4 91 (.response 202 "" "m2") 172800000000 172800000001]

theorem frequency_cap_respected_week :
    ((run step ⟨oneAWeek, 0⟩ twoEmails).db.dispatchAttempts.map fun row => (row.contentAssetId, row.status)) =
        [(3, .sent), (4, .skipped)] ∧
      ((run step ⟨oneAWeek, 0⟩ twoEmails).db.dispatchAttempts.filter fun row =>
        row.tenantId = 1 ∧ row.status = .sent ∧ row.recipientIdentifier = "ann@mail.io" ∧
          ∃ sentAt ∈ row.sentAt, 0 ≤ sentAt ∧ sentAt ≤ 0 + hours (24 * 7)).length ≤ 1 := by
  have timely : Along step Timely ⟨oneAWeek, 0⟩ twoEmails := ⟨⟨by decide, by decide⟩, ⟨by decide, by decide⟩, trivial⟩
  exact ⟨by decide +kernel, frequency_cap_respected oneAWeek 0 1 ⟨1, .email, 1, 7, true⟩ (by decide) (by decide) rfl
    twoEmails timely "ann@mail.io" 0⟩

end CapState

end MarketingAgents
