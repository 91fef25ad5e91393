import MarketingAgents.Agents.AudienceTargeting
import MarketingAgents.Outbound.Audience

namespace MarketingAgents

open Lib

namespace MemberRow

/-- `member.source or "csv"`. -/
def label (row : MemberRow) : String := (row.source.filter (· ≠ "")).getD "csv"

/-- The row with what the provider knows. -/
def enriched (now : Int) (row : MemberRow) (fields : Dict String Json) : MemberRow :=
  { row with
    payload := mergeIntoPayload row.payload fields
    fetchedAt := some now
    source := some (row.label ++ "+apollo") }

@[simp] theorem enriched_toAudienceMember (now : Int) (row : MemberRow) (fields : Dict String Json) :
    (row.enriched now fields).toAudienceMember =
      { row.toAudienceMember with payload := mergeIntoPayload row.payload fields } := rfl

/-- What the columns accept: `String(20)` and JSONB. -/
def storable (row : MemberRow) : Bool := row.source.all (·.length ≤ 20) && Json.fieldsStorable row.payload

end MemberRow

namespace Enrichment

structure EnrichmentSummary where
  audienceId : Uuid
  totalMembers : Nat
  alreadyComplete : Nat
  enriched : Nat
  notFound : Nat
  failed : Nat
  errors : List String

/-- The keywords of `_bump`. -/
structure Tally where
  alreadyComplete : Nat := 0
  enriched : Nat := 0
  notFound : Nat := 0
  failed : Nat := 0

/-- `_bump`. -/
def EnrichmentSummary.bump (summary : EnrichmentSummary) (tally : Tally) (error : Option String) : EnrichmentSummary where
  audienceId := summary.audienceId
  totalMembers := summary.totalMembers
  alreadyComplete := summary.alreadyComplete + tally.alreadyComplete
  enriched := summary.enriched + tally.enriched
  notFound := summary.notFound + tally.notFound
  failed := summary.failed + tally.failed
  errors := summary.errors ++ ((error.filter (· ≠ "")).map fun error => String.ofList (error.toList.take 200)).toList

/-- The members that a summary has counted. -/
def EnrichmentSummary.counted (summary : EnrichmentSummary) : Nat :=
  summary.alreadyComplete + summary.enriched + summary.notFound + summary.failed

/-- The arguments of `match_person`. -/
structure MatchRequest where
  email : Json
  firstName : Option Json
  lastName : Option Json
  company : Option Json

def matchRequest (row : MemberRow) : MatchRequest where
  email := ((row.payload.get? "email").filter Json.truthy).getD (.str row.externalId)
  firstName := row.payload.get? "first_name"
  lastName := row.payload.get? "last_name"
  company := row.payload.get? "company"

/-- The locals of the loop, with the rows it is past and the calls it has made. -/
structure Progress where
  rows : List MemberRow
  calls : List MatchRequest
  enrichedCount : Nat
  summary : EnrichmentSummary

/-- How a pass of the loop ends. -/
inductive Flow where
  | next
  | stop
  | raised (error : AppError)

namespace Progress

/-- The loop goes on behind the row. -/
def pass (p : Progress) (row : MemberRow) (tally : Tally) (error : Option String) : Progress :=
  { p with rows := p.rows ++ [row], summary := p.summary.bump tally error }

def call (p : Progress) (row : MemberRow) : Progress := { p with calls := p.calls ++ [matchRequest row] }

end Progress

section Loop

variable (now maxToEnrich : Int) (answers : Nat → ApolloAnswer)

/-- One pass of the loop of `enrich_audience`; the provider gives its answers in the order of the calls. -/
def enrichOne (p : Progress) (row : MemberRow) : Progress × Flow :=
  if needsEnrichment row.payload = false then (p.pass row { alreadyComplete := 1 } none, .next)
  else if maxToEnrich ≤ p.enrichedCount then ({ p with rows := p.rows ++ [row] }, .stop)
  else
    let called := p.call row
    match answers p.calls.length with
    | .failed message => (called.pass row { failed := 1 } (some message), .next)
    | .raised message => ({ called with rows := p.rows ++ [row] }, .raised (.raised message))
    | .nobody => (called.pass row { notFound := 1 } none, .next)
    | .person fields =>
      let merged := row.enriched now fields
      if merged.storable then
        ({ called.pass merged { enriched := 1 } none with enrichedCount := p.enrichedCount + 1 }, .next)
      else ({ called with rows := p.rows ++ [merged] }, .raised (.raised "DataError"))

def enrichFrom : Progress → List MemberRow → Progress × Except AppError Unit
  | p, [] => (p, .ok ())
  | p, row :: rest =>
    match enrichOne now maxToEnrich answers p row with
    | (p, .next) => enrichFrom p rest
    | (p, .stop) => ({ p with rows := p.rows ++ rest }, .ok ())
    | (p, .raised error) => ({ p with rows := p.rows ++ rest }, .error error)

/-- The locals before the loop. -/
def Progress.start (audienceId : Uuid) (rows : List MemberRow) : Progress where
  rows := []
  calls := []
  enrichedCount := 0
  summary := ⟨audienceId, rows.length, 0, 0, 0, 0, []⟩

/-- `enrich_audience` over the rows of the audience. -/
def enrichAudience (audienceId : Uuid) (rows : List MemberRow) : Progress × Except AppError Unit :=
  enrichFrom now maxToEnrich answers (.start audienceId rows) rows

/-- A call: the member, and the answer to it. -/
abbrev Attempt := MemberRow × ApolloAnswer

/-- The answer is written to the row. -/
def Attempt.writes (a : Attempt) : Bool :=
  match a.2 with
  | .person fields => (a.1.enriched now fields).storable
  | _ => false

/-- The answer ends the run with an exception, its own or that of the write. -/
def Attempt.fails (a : Attempt) : Bool :=
  match a.2 with
  | .person fields => !(a.1.enriched now fields).storable
  | .raised _ => true
  | _ => false

/-- The members that need enrichment, each with the answer that its call gets when the calls
before it have been made for all that come before. -/
def attemptsFrom (n : Nat) (rows : List MemberRow) : List Attempt :=
  ((rows.filter fun row => needsEnrichment row.payload).zipIdx n).map fun entry => (entry.1, answers entry.2)

def attempts (rows : List MemberRow) : List Attempt := attemptsFrom answers 0 rows

theorem attemptsFrom_complete {row : MemberRow} (complete : needsEnrichment row.payload = false) (n : Nat)
    (rest : List MemberRow) : attemptsFrom answers n (row :: rest) = attemptsFrom answers n rest := by
  simp [attemptsFrom, complete]

theorem attemptsFrom_needs {row : MemberRow} (needs : needsEnrichment row.payload = true) (n : Nat)
    (rest : List MemberRow) :
    attemptsFrom answers n (row :: rest) = (row, answers n) :: attemptsFrom answers (n + 1) rest := by
  simp [attemptsFrom, needs]

/-- What a pass with a call comes to, as the attempt has it. -/
structure Called (a : Attempt) (p : Progress) (after : Progress × Flow) : Prop where
  calls : after.1.calls.length = p.calls.length + 1
  enriched : after.1.enrichedCount = p.enrichedCount + (a.writes now).toNat
  next : a.fails now = false → after.2 = .next
  raised : a.fails now = true → ∃ error, after.2 = .raised error

/-- A pass counts its member once, unless the loop ends there. -/
theorem enrichOne_counted (p : Progress) (row : MemberRow) :
    (enrichOne now maxToEnrich answers p row).1.summary.totalMembers = p.summary.totalMembers ∧
      (enrichOne now maxToEnrich answers p row).1.summary.counted ≤ p.summary.counted + 1 := by
  have once (q : Progress) (passed : MemberRow) (tally : Tally) (error : Option String)
      (one : tally.alreadyComplete + tally.enriched + tally.notFound + tally.failed = 1) :
      (q.pass passed tally error).summary.counted ≤ q.summary.counted + 1 := by
    simp only [Progress.pass, EnrichmentSummary.bump, EnrichmentSummary.counted]
    omega
  unfold enrichOne
  split
  · exact ⟨rfl, once _ _ _ _ rfl⟩
  · split
    · exact ⟨rfl, Nat.le_succ _⟩
    · dsimp only
      split
      · exact ⟨rfl, once _ _ _ _ rfl⟩
      · exact ⟨rfl, Nat.le_succ _⟩
      · exact ⟨rfl, once _ _ _ _ rfl⟩
      · split
        · exact ⟨rfl, once (p.call row) row { enriched := 1 } none rfl⟩
        · exact ⟨rfl, Nat.le_succ _⟩

theorem enrichFrom_counted (p : Progress) (rest : List MemberRow) :
    (enrichFrom now maxToEnrich answers p rest).1.summary.totalMembers = p.summary.totalMembers ∧
      (enrichFrom now maxToEnrich answers p rest).1.summary.counted ≤ p.summary.counted + rest.length := by
  induction rest generalizing p with
  | nil => exact ⟨rfl, le_rfl⟩
  | cons row rest ih =>
    have pass := enrichOne_counted now maxToEnrich answers p row
    rw [enrichFrom, List.length_cons]
    generalize enrichOne now maxToEnrich answers p row = after at pass ⊢
    obtain ⟨p', flow⟩ := after
    dsimp only at pass
    cases flow with
    | next =>
      have later := ih p'
      dsimp only
      omega
    | stop | raised error =>
      dsimp only
      omega

variable {now maxToEnrich answers}

/-- The pass over a member that needs no enrichment. -/
theorem enrichOne_complete {p : Progress} {row : MemberRow} (complete : needsEnrichment row.payload = false) :
    enrichOne now maxToEnrich answers p row = (p.pass row { alreadyComplete := 1 } none, .next) :=
  if_pos complete

theorem enrichOne_stop {p : Progress} {row : MemberRow} (needs : needsEnrichment row.payload = true)
    (spent : maxToEnrich ≤ p.enrichedCount) :
    enrichOne now maxToEnrich answers p row = ({ p with rows := p.rows ++ [row] }, .stop) := by
  rw [enrichOne, if_neg (by simp [needs]), if_pos spent]

theorem enrichOne_called {p : Progress} {row : MemberRow} (needs : needsEnrichment row.payload = true)
    (room : p.enrichedCount < maxToEnrich) :
    Called now (row, answers p.calls.length) p (enrichOne now maxToEnrich answers p row) := by
  have calls : (p.call row).calls.length = p.calls.length + 1 := List.length_append
  rw [enrichOne, if_neg (by simp [needs]), if_neg (not_le.mpr room)]
  cases answers p.calls.length with
  | failed message => exact ⟨calls, rfl, fun _ => rfl, fun fails => Bool.noConfusion fails⟩
  | raised message => exact ⟨calls, rfl, fun fine => Bool.noConfusion fine, fun _ => ⟨_, rfl⟩⟩
  | nobody => exact ⟨calls, rfl, fun _ => rfl, fun fails => Bool.noConfusion fails⟩
  | person fields =>
    dsimp only
    split
    · rename_i kept
      exact ⟨calls, by simp [Attempt.writes, kept], fun _ => rfl, fun fails => by simp [Attempt.fails, kept] at fails⟩
    · rename_i lost
      rw [Bool.not_eq_true] at lost
      exact ⟨calls, by simp [Attempt.writes, lost, Progress.call], fun fine => by simp [Attempt.fails, lost] at fine,
        fun _ => ⟨_, rfl⟩⟩

/-- The calls of the loop stay within `k` exactly if those so far do, and then either few
members are left, or no call so far was in vain and none will be, or an exception comes first. -/
theorem enrichFrom_calls_le_iff {k : Nat} {p : Progress} (spent : p.enrichedCount ≤ p.calls.length)
    (rest : List MemberRow) :
    (enrichFrom now k answers p rest).1.calls.length ≤ k ↔ p.calls.length ≤ k ∧
      (p.calls.length + (attemptsFrom answers p.calls.length rest).length ≤ k ∨
        (p.enrichedCount = p.calls.length ∧
          ∀ a ∈ (attemptsFrom answers p.calls.length rest).take (k - p.calls.length), a.writes now = true) ∨
        ∃ a ∈ (attemptsFrom answers p.calls.length rest).take (k - p.calls.length), a.fails now = true) := by
  induction rest generalizing p with
  | nil =>
    rw [enrichFrom]
    exact ⟨fun within => ⟨within, Or.inl within⟩, And.left⟩
  | cons row rest ih =>
    cases needs : needsEnrichment row.payload with
    | false =>
      rw [enrichFrom, enrichOne_complete needs, attemptsFrom_complete answers needs]
      exact ih (p := p.pass row { alreadyComplete := 1 } none) spent
    | true =>
      rw [attemptsFrom_needs answers needs, List.length_cons]
      by_cases room : (p.enrichedCount : Int) < k
      · have pass : Called now (row, answers p.calls.length) p (enrichOne now k answers p row) :=
          enrichOne_called needs room
        rw [enrichFrom]
        generalize enrichOne now k answers p row = after at pass ⊢
        obtain ⟨p', flow⟩ := after
        obtain ⟨calls, enriched, next, raised⟩ := pass
        dsimp only at calls enriched next raised
        cases fails : Attempt.fails now (row, answers p.calls.length) with
        | true =>
          obtain ⟨error, rfl⟩ := raised fails
          dsimp only
          rw [calls]
          constructor
          · intro within
            have cut : k - p.calls.length = k - (p.calls.length + 1) + 1 := by omega
            refine ⟨by omega, Or.inr (Or.inr ⟨_, ?_, fails⟩)⟩
            rw [cut, List.take_succ_cons]
            exact List.mem_cons_self ..
          · rintro ⟨within, few | ⟨same, _⟩ | ⟨a, member, _⟩⟩
            · omega
            · omega
            · have some_ : k - p.calls.length ≠ 0 := by
                intro none_
                rw [none_] at member
                cases member
              omega
        | false =>
          rw [next fails]
          have spent' : p'.enrichedCount ≤ p'.calls.length := by
            have one := (Attempt.writes now (row, answers p.calls.length)).toNat_le
            omega
          dsimp only
          rw [ih spent', calls, enriched]
          by_cases more : p.calls.length < k
          · have cut : k - p.calls.length = k - (p.calls.length + 1) + 1 := by omega
            have within : p.calls.length + 1 ≤ k ∧ p.calls.length ≤ k := by omega
            have few : ∀ left, p.calls.length + 1 + left ≤ k ↔ p.calls.length + (left + 1) ≤ k := by omega
            rw [cut, List.take_succ_cons, List.forall_mem_cons, List.exists_mem_cons_iff, fails, few]
            cases written : Attempt.writes now (row, answers p.calls.length) with
            | true => simp [within]
            | false =>
              have vain : p.enrichedCount ≠ p.calls.length + 1 := by omega
              simp [within, vain]
          · have full : p.calls.length ≤ k → k - p.calls.length = 0 ∧ p.enrichedCount ≠ p.calls.length := by omega
            refine ⟨fun within => absurd within.1 (by omega), ?_⟩
            rintro ⟨within, few | ⟨same, _⟩ | ⟨a, member, _⟩⟩
            · omega
            · exact absurd same (full within).2
            · rw [(full within).1] at member
              cases member
      · rw [enrichFrom, enrichOne_stop needs (not_lt.mp room)]
        have full : p.calls.length ≤ k → k - p.calls.length = 0 ∧ p.enrichedCount = p.calls.length := by omega
        constructor
        · intro within
          refine ⟨within, Or.inr (Or.inl ⟨(full within).2, ?_⟩)⟩
          rw [(full within).1]
          simp
        · exact And.left

/-- A run stays within `max_to_enrich` calls exactly when that is not negative and either
no more members need enrichment, or all of the first calls are written, or one of them
ends the run. What it counts never exceeds the members. -/
theorem enrichment_calls_iff (now maxToEnrich : Int) (answers : Nat → ApolloAnswer) (audienceId : Uuid)
    (rows : List MemberRow) :
    let after := (enrichAudience now maxToEnrich answers audienceId rows).1
    ((after.calls.length : Int) ≤ maxToEnrich ↔ 0 ≤ maxToEnrich ∧
      (((attempts answers rows).length : Int) ≤ maxToEnrich ∨
        (∀ a ∈ (attempts answers rows).take maxToEnrich.toNat, a.writes now = true) ∨
        ∃ a ∈ (attempts answers rows).take maxToEnrich.toNat, a.fails now = true)) ∧
      after.summary.alreadyComplete + after.summary.enriched + after.summary.notFound + after.summary.failed ≤
        after.summary.totalMembers := by
  intro after
  obtain ⟨total, counted⟩ := enrichFrom_counted now maxToEnrich answers (.start audienceId rows) rows
  have sum : (Progress.start audienceId rows).summary.counted = 0 := rfl
  rw [sum, Nat.zero_add] at counted
  refine ⟨?_, counted.trans total.ge⟩
  by_cases sign : 0 ≤ maxToEnrich
  · obtain ⟨k, rfl⟩ := Int.eq_ofNat_of_zero_le sign
    have calls : after.calls.length ≤ k ↔ _ := enrichFrom_calls_le_iff (p := .start audienceId rows) (le_refl 0) rows
    rw [Int.ofNat_le, Int.ofNat_le, Int.toNat_natCast, calls, attempts]
    simp [Progress.start]
  · exact ⟨fun within => absurd within (by omega), fun covered => absurd covered.1 sign⟩

/-- Where each answer goes by its member and each row can be written, the loop leaves the
members and ends as `enrichMembers` has it. -/
theorem enrichFrom_members {audienceId : Uuid} {byMember : AudienceMember → ApolloAnswer} {p : Progress}
    {rest : List MemberRow} (ours : ∀ row ∈ rest, row.audienceId = audienceId)
    (answered : ∀ a ∈ attemptsFrom answers p.calls.length rest, a.2 = byMember a.1.toAudienceMember)
    (storable : ∀ a ∈ attemptsFrom answers p.calls.length rest, ∀ fields, a.2 = .person fields → a.writes now = true) :
    let after := enrichFrom now maxToEnrich answers p rest
    let model := enrichMembers audienceId maxToEnrich byMember p.enrichedCount (rest.map MemberRow.toAudienceMember)
    after.1.rows.map MemberRow.toAudienceMember = p.rows.map MemberRow.toAudienceMember ++ model.1 ∧ after.2 = model.2 := by
  induction rest generalizing p with
  | nil => simp [enrichFrom, enrichMembers]
  | cons row rest ih =>
    have here : row.audienceId = audienceId := ours row (List.mem_cons_self ..)
    have there : ∀ row ∈ rest, row.audienceId = audienceId := fun row member => ours row (List.mem_cons_of_mem _ member)
    cases needs : needsEnrichment row.payload with
    | false =>
      rw [attemptsFrom_complete answers needs] at answered storable
      have later := ih (p := p.pass row { alreadyComplete := 1 } none) there answered storable
      simpa [enrichFrom, enrichOne_complete needs, enrichMembers, needs, Progress.pass] using later
    | true =>
      rw [attemptsFrom_needs answers needs, List.forall_mem_cons] at answered storable
      by_cases room : p.enrichedCount < maxToEnrich
      · have calls : (p.call row).calls.length = p.calls.length + 1 := List.length_append
        have open_ : ¬ maxToEnrich ≤ p.enrichedCount := not_le.mpr room
        obtain ⟨asked, answered⟩ := answered
        obtain ⟨kept, storable⟩ := storable
        rw [← calls] at answered storable
        cases answer : answers p.calls.length with
        | failed message =>
          have later := ih (p := (p.call row).pass row { failed := 1 } (some message)) there answered storable
          simpa [enrichFrom, enrichOne, enrichMembers, needs, open_, here, answer, ← asked, Progress.pass,
            Progress.call] using later
        | raised message =>
          simp [enrichFrom, enrichOne, enrichMembers, needs, open_, here, answer, ← asked, Progress.call]
        | nobody =>
          have later := ih (p := (p.call row).pass row { notFound := 1 } none) there answered storable
          simpa [enrichFrom, enrichOne, enrichMembers, needs, open_, here, answer, ← asked, Progress.pass,
            Progress.call] using later
        | person fields =>
          have written : (row.enriched now fields).storable = true := by
            simpa [Attempt.writes, answer] using kept fields answer
          have later := ih (p := { (p.call row).pass (row.enriched now fields) { enriched := 1 } none with
            enrichedCount := p.enrichedCount + 1 }) there answered storable
          simpa [enrichFrom, enrichOne, enrichMembers, needs, open_, here, answer, ← asked, written, Progress.pass,
            Progress.call] using later
      · have spent := not_lt.mp room
        simp [enrichFrom, enrichOne_stop needs spent, enrichMembers, needs, here, spent]

end Loop

section Misses

def sparse (externalId : String) : MemberRow where
  audienceId := 9
  externalId := externalId
  payload := [("email", .str externalId)]
  source := some "csv"
  addedAt := 0

/-- A search that finds nobody is not counted, and the next one is made beyond the limit. -/
theorem misses_not_counted :
    let after := (enrichAudience 0 1 (fun _ => .nobody) 9 [sparse "ada@acme.io", sparse "bob@acme.io"]).1
    after.calls.length = 2 ∧ ¬ (after.calls.length : Int) ≤ 1 := by
  decide

end Misses

end Enrichment

end MarketingAgents
