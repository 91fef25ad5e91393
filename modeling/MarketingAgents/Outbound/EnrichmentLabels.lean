import MarketingAgents.Lib.Run
import MarketingAgents.Outbound.Enrichment

namespace MarketingAgents

open Lib

/-- The label fits its column. -/
def MemberRow.Within (row : MemberRow) : Prop := row.source.all (·.length ≤ 20) = true

instance decidableWithin (row : MemberRow) : Decidable row.Within :=
  inferInstanceAs (Decidable (row.source.all (·.length ≤ 20) = true))

/-- Each match adds seven characters, so that thirteen are the most before it. -/
theorem MemberRow.enriched_within_iff {now : Int} {row : MemberRow} {fields : Dict String Json} :
    (row.enriched now fields).Within ↔ row.label.length ≤ 13 := by
  have suffix : ("+apollo" : String).length = 7 := by decide
  simp only [MemberRow.Within, MemberRow.enriched, Option.all_some, decide_eq_true_eq, String.length_append, suffix]
  omega

namespace Enrichment

variable {now maxToEnrich : Int} {answers : Nat → ApolloAnswer}

/-- What ends a run at a call: an exception of the client, a label that is too long
already, or an answer that JSONB does not take. -/
theorem Attempt.fails_iff {a : Attempt} : a.fails now = true ↔ (∃ message, a.2 = .raised message) ∨
    ∃ fields, a.2 = .person fields ∧
      ¬ (a.1.label.length ≤ 13 ∧ Json.fieldsStorable (mergeIntoPayload a.1.payload fields) = true) := by
  obtain ⟨row, answer⟩ := a
  cases answer with
  | failed | nobody => simp [Attempt.fails]
  | raised message => simp [Attempt.fails]
  | person fields =>
    have fails : Attempt.fails now (row, .person fields) = true ↔
        ¬ ((row.enriched now fields).Within ∧ Json.fieldsStorable (row.enriched now fields).payload = true) := by
      simp [Attempt.fails, MemberRow.storable, MemberRow.Within, imp_iff_not_or]
    rw [fails, MemberRow.enriched_within_iff]
    simp [MemberRow.enriched]

/-- The loop ends without an exception exactly if each call that would raise one comes after
as many written matches as the run may make. -/
theorem enrichFrom_ok_iff (p : Progress) (rest : List MemberRow) :
    (enrichFrom now maxToEnrich answers p rest).2 = .ok () ↔
      ∀ before a after, attemptsFrom answers p.calls.length rest = before ++ a :: after →
        ((p.enrichedCount + before.countP (·.writes now) : Nat) : Int) < maxToEnrich → a.fails now = false := by
  induction rest generalizing p with
  | nil =>
    refine ⟨fun _ before a after split => ?_, fun _ => rfl⟩
    cases before <;> cases split
  | cons row rest ih =>
    cases needs : needsEnrichment row.payload with
    | false =>
      rw [enrichFrom, enrichOne_complete needs, attemptsFrom_complete answers needs]
      exact ih (p.pass row { alreadyComplete := 1 } none)
    | true =>
      rw [attemptsFrom_needs answers needs]
      by_cases room : p.enrichedCount < maxToEnrich
      · have pass : Called now (row, answers p.calls.length) p (enrichOne now maxToEnrich answers p row) :=
          enrichOne_called needs room
        rw [enrichFrom]
        generalize enrichOne now maxToEnrich answers p row = after at pass ⊢
        obtain ⟨p', flow⟩ := after
        obtain ⟨calls, enriched, next, raised⟩ := pass
        dsimp only at calls enriched next raised
        cases fails : Attempt.fails now (row, answers p.calls.length) with
        | true =>
          obtain ⟨error, rfl⟩ := raised fails
          constructor
          · intro done
            cases done
          · intro spared
            have fine := spared [] _ _ rfl room
            rw [fails] at fine
            cases fine
        | false =>
          rw [next fails]
          dsimp only
          rw [ih p', calls, enriched]
          constructor
          · intro spared before a after split early
            rcases before with _ | ⟨first, before⟩
            · obtain ⟨rfl, _⟩ := List.cons.inj split
              exact fails
            · rw [List.cons_append] at split
              obtain ⟨rfl, later⟩ := List.cons.inj split
              refine spared before a after later ?_
              rw [List.countP_cons] at early
              cases written : Attempt.writes now (row, answers p.calls.length) <;> simp [written] at early ⊢ <;> omega
          · intro spared before a after split early
            refine spared ((row, answers p.calls.length) :: before) a after (congrArg _ split) ?_
            rw [List.countP_cons]
            cases written : Attempt.writes now (row, answers p.calls.length) <;> simp [written] at early ⊢ <;> omega
      · rw [enrichFrom, enrichOne_stop needs (not_lt.mp room)]
        refine ⟨fun _ before a after split early => absurd early ?_, fun _ => rfl⟩
        have spent := not_lt.mp room
        omega

/-- A pass that does not end in an exception puts one row behind it, the member as it was
or with a label that fits. -/
theorem enrichOne_row {p p' : Progress} {row : MemberRow} {flow : Flow}
    (pass : enrichOne now maxToEnrich answers p row = (p', flow)) (fine : ∀ error, flow ≠ .raised error) :
    ∃ passed, p'.rows = p.rows ++ [passed] ∧ (passed = row ∨ passed.Within) := by
  unfold enrichOne at pass
  split at pass
  · cases pass
    exact ⟨row, rfl, Or.inl rfl⟩
  · split at pass
    · cases pass
      exact ⟨row, rfl, Or.inl rfl⟩
    · dsimp only at pass
      split at pass
      · cases pass
        exact ⟨row, rfl, Or.inl rfl⟩
      · cases pass
        exact absurd rfl (fine _)
      · cases pass
        exact ⟨row, rfl, Or.inl rfl⟩
      · split at pass
        · rename_i written
          cases pass
          exact ⟨_, rfl, Or.inr (Bool.and_eq_true_iff.mp written).1⟩
        · cases pass
          exact absurd rfl (fine _)

theorem enrichFrom_within {p : Progress} {rest : List MemberRow}
    (done : (enrichFrom now maxToEnrich answers p rest).2 = .ok ()) (kept : ∀ row ∈ p.rows, row.Within)
    (fits : ∀ row ∈ rest, row.Within) : ∀ row ∈ (enrichFrom now maxToEnrich answers p rest).1.rows, row.Within := by
  induction rest generalizing p with
  | nil => exact kept
  | cons row rest ih =>
    obtain ⟨here, there⟩ := List.forall_mem_cons.mp fits
    rw [enrichFrom] at done ⊢
    generalize pass : enrichOne now maxToEnrich answers p row = after at done ⊢
    obtain ⟨p', flow⟩ := after
    have rows (fine : ∀ error, flow ≠ .raised error) : ∀ row ∈ p'.rows, row.Within := by
      obtain ⟨passed, shape, fit⟩ := enrichOne_row pass fine
      rw [shape]
      intro other member
      rcases List.mem_append.mp member with old | new
      · exact kept other old
      · rw [List.mem_singleton.mp new]
        exact fit.elim (fun same => same ▸ here) id
    cases flow with
    | next => exact ih done (rows (by simp)) there
    | stop =>
      intro other member
      rcases List.mem_append.mp member with passed | left
      · exact rows (by simp) other passed
      · exact there other left
    | raised error => cases done

end Enrichment

open Enrichment

/-- A run over an audience. The rows come in the order that the database gives them. -/
structure EnrichmentRun where
  now : Int
  maxToEnrich : Int
  answers : Nat → ApolloAnswer
  order : List MemberRow → List MemberRow
  perm : ∀ rows, (order rows).Perm rows

namespace EnrichmentRun

variable (audienceId : Uuid)

def result (rows : List MemberRow) (run : EnrichmentRun) : Progress × Except AppError Unit :=
  enrichAudience run.now run.maxToEnrich run.answers audienceId (run.order rows)

/-- The rows behind the run, whose transaction is rolled back where it raises. -/
def step (rows : List MemberRow) (run : EnrichmentRun) : List MemberRow :=
  match (run.result audienceId rows).2 with
  | .ok _ => (run.result audienceId rows).1.rows
  | .error _ => rows

/-- The run makes all its writes, and the labels stay within their column. -/
def Completes (rows : List MemberRow) (run : EnrichmentRun) : Prop :=
  (run.result audienceId rows).2 = .ok () ∧ ∀ row ∈ step audienceId rows run, row.Within

/-- While the run may still enrich, the client raises nothing of its own, and a member for
which it has an answer has a label of at most thirteen characters, with a payload for JSONB. -/
def Spares (rows : List MemberRow) (run : EnrichmentRun) : Prop :=
  ∀ before a after, attempts run.answers (run.order rows) = before ++ a :: after →
    (before.countP (·.writes run.now) : Int) < run.maxToEnrich →
      (∀ message, a.2 ≠ .raised message) ∧ ∀ fields, a.2 = .person fields →
        a.1.label.length ≤ 13 ∧ Json.fieldsStorable (mergeIntoPayload a.1.payload fields) = true

theorem step_within {rows : List MemberRow} (fits : ∀ row ∈ rows, row.Within) (run : EnrichmentRun) :
    ∀ row ∈ step audienceId rows run, row.Within := by
  unfold step
  split
  · rename_i done
    exact enrichFrom_within done (by simp [Progress.start]) fun row member => fits row ((run.perm rows).mem_iff.mp member)
  · exact fits

theorem completes_iff {rows : List MemberRow} (fits : ∀ row ∈ rows, row.Within) (run : EnrichmentRun) :
    Completes audienceId rows run ↔ Spares rows run := by
  rw [Completes, and_iff_left (step_within audienceId fits run), result, enrichAudience, enrichFrom_ok_iff]
  refine forall₄_congr fun before a after split => ?_
  have none_ : (Progress.start audienceId (run.order rows)).enrichedCount = 0 := rfl
  rw [none_, Nat.zero_add]
  refine imp_congr_right fun _ => ?_
  rw [← Bool.not_eq_true, Attempt.fails_iff, not_or, not_exists, not_exists]
  refine and_congr_right fun _ => forall_congr' fun fields => ?_
  rw [not_and, not_not]

/-- Over any number of runs, each run makes its writes exactly if each finds the
members it has answers for with short labels. Every answer makes the label of its
member longer by seven characters, whether or not one was there before. -/
theorem enrichment_repeats_iff {rows : List MemberRow} (admitted : ∀ row ∈ rows, row.Within)
    (runs : List EnrichmentRun) :
    Along (step audienceId) (Completes audienceId) rows runs ↔ Along (step audienceId) Spares rows runs :=
  along_congr admitted (fun _ run fits => step_within audienceId fits run) fun _ run fits => completes_iff audienceId fits run

section Repeated

/-- The client knows the title of everybody, and nothing else. -/
def titles : EnrichmentRun where
  now := 0
  maxToEnrich := 500
  answers _ := .person [("title", .str "CEO")]
  order := id
  perm _ := .refl _

theorem titles_spares {row : MemberRow} (needs : needsEnrichment row.payload = true) (short : row.label.length ≤ 13)
    (storable : Json.fieldsStorable (mergeIntoPayload row.payload [("title", .str "CEO")]) = true) :
    Spares [row] titles := by
  intro before a after split _
  have sole : attempts titles.answers (titles.order [row]) = [(row, .person [("title", .str "CEO")])] :=
    attemptsFrom_needs titles.answers needs 0 []
  rw [sole] at split
  rcases List.singleton_eq_append_iff.mp split with ⟨-, alone⟩ | ⟨-, none_⟩
  · cases alone
    exact ⟨fun _ other => (by cases other), fun fields found => by cases found; exact ⟨short, storable⟩⟩
  · cases none_

/-- The first two runs find a label that is short enough. -/
theorem repeated_titles : Along (step 9) (Completes 9) [sparse "ada@acme.io"] [titles, titles] :=
  (enrichment_repeats_iff 9 (by decide) [titles, titles]).mpr
    ⟨titles_spares rfl (by decide) (by decide), titles_spares rfl (by decide) (by decide), trivial⟩

/-- The third match of an uploaded member would make a label of 24 characters. -/
theorem third_match_raises :
    (step 9 (step 9 [sparse "ada@acme.io"] titles) titles).map MemberRow.source = [some "csv+apollo+apollo"] ∧
      (titles.result 9 (step 9 (step 9 [sparse "ada@acme.io"] titles) titles)).2 = .error (.raised "DataError") ∧
      ¬ Along (step 9) (Completes 9) [sparse "ada@acme.io"] [titles, titles, titles] := by
  have raised : (titles.result 9 (step 9 (step 9 [sparse "ada@acme.io"] titles) titles)).2 =
      .error (.raised "DataError") := by rfl
  refine ⟨by rfl, raised, fun along => ?_⟩
  have done := along.2.2.1.1
  rw [raised] at done
  cases done

end Repeated

end EnrichmentRun

end MarketingAgents
