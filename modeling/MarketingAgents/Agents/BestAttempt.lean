import MarketingAgents.Agents.StrategistPlanner
import MarketingAgents.Lib.Retry
import MarketingAgents.Tools.ModelReply

namespace MarketingAgents

open Lib PyText PyDecimal

section Reply

variable [PyText] [PyJson]

/-- `_parse_response`. -/
def parseResponse (raw : String) : Except PlannerError (Dict String Json) :=
  match PyJson.loads (replyText raw) with
  | .error (.decode exc) => .error (.strategist ("model output was not valid JSON: " ++ exc))
  | .error (.raised _) => .error .raised
  | .ok obj => orRaise obj.dict? (.strategist "model output was not a JSON object")

/-- `_call_model` and `_parse_response`. -/
def plannerReply : ModelMessage → Except PlannerError (Dict String Json)
  | .raised _ => .error .raised
  | .noText => .error (.strategist "model returned no text content")
  | .text raw => parseResponse raw

end Reply

section Best

variable [PyText] [PyDecimal] {ctx : StrategyContext} {allowed : List String}
  {replies : Nat → Except PlannerError (Dict String Json)}

/-- One pass of the loop: a reply with its violations. -/
def planAttempt (ctx : StrategyContext) (allowed : List String) (replies : Nat → Except PlannerError (Dict String Json))
    (i : Nat) : Except PlannerError (Dict String Json × List Violation) := do
  let payload ← replies i
  let violations ← (validate ctx allowed payload).mapError fun _ => .raised
  pure (payload, violations)

theorem planAttempt_eq_ok {i : Nat} {payload : Dict String Json} {violations : List Violation} :
    planAttempt ctx allowed replies i = .ok (payload, violations) ↔
      replies i = .ok payload ∧ validate ctx allowed payload = .ok violations := by
  simp only [planAttempt, bind_eq_ok, mapError_eq_ok, pure_eq_ok, Prod.mk.injEq]
  constructor
  · rintro ⟨_, reads, _, checked, rfl, rfl⟩
    exact ⟨reads, checked⟩
  · rintro ⟨reads, checked⟩
    exact ⟨payload, reads, violations, checked, rfl, rfl⟩

def violationCount (kept : Dict String Json × List Violation) : Nat := kept.2.length

/-- The result of the loop, out of the best attempt and the number of attempts. -/
def plannerResult (outcome : Option (Dict String Json × List Violation) × Nat) : Except PlannerError PlannerResult :=
  (orRaise outcome.1 .raised).map fun kept => ⟨kept.1, kept.2, outcome.2⟩

theorem plan_succ (left made : Nat) (best : Option (Dict String Json × List Violation)) :
    plan ctx allowed replies (left + 1) made best = (do
      let kept ← planAttempt ctx allowed replies made
      if violationCount kept = 0 then pure ⟨kept.1, kept.2, made + 1⟩
      else plan ctx allowed replies left (made + 1) (some (cheaper violationCount best kept))) := by
  have better : ∀ next, betterAttempt best next = cheaper violationCount best next := fun next => by
    cases best <;> rfl
  rw [plan, planAttempt]
  cases replies made with
  | error error => rfl
  | ok payload =>
    cases checked : validate ctx allowed payload with
    | error fault => simp [checked, Except.mapError, bind, Except.bind]
    | ok violations =>
      cases violations with
      | nil => simp [checked, Except.mapError, bind, Except.bind, violationCount, pure, Except.pure]
      | cons violation more =>
        simp [checked, Except.mapError, bind, Except.bind, violationCount, better, pure, Except.pure]

/-- The loop of the planner is a loop of attempts that counts violations. -/
theorem plan_eq_attempts (left made : Nat) (best : Option (Dict String Json × List Violation)) :
    plan ctx allowed replies left made best =
      attempts (planAttempt ctx allowed replies) violationCount left made best >>= plannerResult := by
  induction left generalizing made best with
  | zero => rfl
  | succ left ih =>
    rw [plan_succ, attempts]
    cases planAttempt ctx allowed replies made with
    | error error => rfl
    | ok kept =>
      show (if violationCount kept = 0 then _ else _) = (if violationCount kept = 0 then _ else _) >>= plannerResult
      by_cases free : violationCount kept = 0
      · rw [if_pos free, if_pos free]
        rfl
      · rw [if_neg free, if_neg free]
        exact ih (made + 1) _

/-- What the code checks of a context before it asks the model. -/
structure Plannable (ctx : StrategyContext) : Prop where
  channels : ctx.availableChannels ≠ []
  budget : 0 < ctx.budgetTotal
  allowed : allowedPlatforms ctx ≠ []

theorem Plannable.propose_eq (plannable : Plannable ctx) :
    ctx.propose replies = plan ctx (allowedPlatforms ctx) replies (maxRetries + 1) 0 none := by
  have checks : ∀ {condition : Prop} [Decidable condition] {error : PlannerError}, condition →
      require condition error = .ok () := fun holds => require_eq_ok.mpr holds
  unfold StrategyContext.propose
  rw [checks plannable.channels, checks plannable.budget, checks plannable.allowed]
  rfl

/-- The earliest of the replies with the fewest violations: the first one
without any, if there is one. -/
def BestReply (ctx : StrategyContext) (replies : Nat → Except PlannerError (Dict String Json)) (n : Nat)
    (payload : Dict String Json) (violations : List Violation) : Prop :=
  ∃ i < n, replies i = .ok payload ∧ validate ctx (allowedPlatforms ctx) payload = .ok violations ∧
    ∀ j < n, ∀ other found, replies j = .ok other → validate ctx (allowedPlatforms ctx) other = .ok found →
      violations.length ≤ found.length ∧ (j < i → violations.length < found.length)

theorem bestReply_iff {n : Nat} {payload : Dict String Json} {violations : List Violation} :
    BestReply ctx replies n payload violations ↔
      ∃ i, Cheapest (planAttempt ctx (allowedPlatforms ctx) replies) violationCount n i (payload, violations) := by
  constructor
  · rintro ⟨i, within, reads, checked, least⟩
    refine ⟨i, within, planAttempt_eq_ok.mpr ⟨reads, checked⟩, ?_, ?_⟩
    · rintro j ⟨other, found⟩ inside made
      obtain ⟨reads', checked'⟩ := planAttempt_eq_ok.mp made
      exact (least j inside other found reads' checked').1
    · rintro j ⟨other, found⟩ early made
      obtain ⟨reads', checked'⟩ := planAttempt_eq_ok.mp made
      exact (least j (early.trans within) other found reads' checked').2 early
  · rintro ⟨i, cheapest⟩
    obtain ⟨reads, checked⟩ := planAttempt_eq_ok.mp cheapest.returns
    refine ⟨i, cheapest.within, reads, checked, fun j inside other found reads' checked' => ?_⟩
    have made := planAttempt_eq_ok.mpr ⟨reads', checked'⟩
    exact ⟨cheapest.least j _ inside made, fun early => cheapest.earliest j _ early made⟩

/-- Some reply can be parsed, and then the best one is returned; or none can,
and that is a `StrategistError`. -/
def ProposesBest (ctx : StrategyContext) (replies : Nat → Except PlannerError (Dict String Json)) : Prop :=
  ((∃ i < maxRetries + 1, ∃ payload, replies i = .ok payload) → ∃ result, ctx.propose replies = .ok result ∧
    BestReply ctx replies (maxRetries + 1) result.payload result.validationWarnings) ∧
  ((∀ i < maxRetries + 1, ∀ payload, replies i ≠ .ok payload) →
    ∃ message, ctx.propose replies = .error (.strategist message))

/-- Each of the `n` replies before which none is without violations can be parsed and checked. -/
def ReadsUntilClean (ctx : StrategyContext) (replies : Nat → Except PlannerError (Dict String Json)) (n : Nat) : Prop :=
  ∀ i < n, (∀ j < i, ∀ payload, replies j = .ok payload → validate ctx (allowedPlatforms ctx) payload ≠ .ok []) →
    ∃ payload violations, replies i = .ok payload ∧ validate ctx (allowedPlatforms ctx) payload = .ok violations

theorem readsUntilClean_iff {n : Nat} :
    ReadsUntilClean ctx replies n ↔ Goes (planAttempt ctx (allowedPlatforms ctx) replies) violationCount n := by
  have costs : ∀ i, (∀ j < i, ∀ b, planAttempt ctx (allowedPlatforms ctx) replies j = .ok b → violationCount b ≠ 0) ↔
      ∀ j < i, ∀ payload, replies j = .ok payload → validate ctx (allowedPlatforms ctx) payload ≠ .ok [] := by
    intro i
    refine forall₂_congr fun j _ => ⟨fun costly payload reads clean => ?_, fun unclean => ?_⟩
    · exact costly (payload, []) (planAttempt_eq_ok.mpr ⟨reads, clean⟩) rfl
    · rintro ⟨payload, violations⟩ made free
      obtain ⟨reads, checked⟩ := planAttempt_eq_ok.mp made
      have clean : violations = [] := List.length_eq_zero_iff.mp free
      exact unclean payload reads (clean ▸ checked)
  refine forall₂_congr fun i _ => ?_
  rw [costs]
  refine imp_congr_right fun _ => ⟨?_, ?_⟩
  · rintro ⟨payload, violations, read⟩
    exact ⟨(payload, violations), planAttempt_eq_ok.mpr read⟩
  · rintro ⟨⟨payload, violations⟩, made⟩
    exact ⟨payload, violations, planAttempt_eq_ok.mp made⟩

/-- `propose` returns the best reply where it gets as far as the first clean one. -/
theorem Plannable.propose_ok_iff (plannable : Plannable ctx) :
    (∃ result, ctx.propose replies = .ok result ∧
      BestReply ctx replies (maxRetries + 1) result.payload result.validationWarnings) ↔
      ReadsUntilClean ctx replies (maxRetries + 1) := by
  rw [readsUntilClean_iff, ← attempts_iff (Nat.succ_pos maxRetries), plannable.propose_eq, plan_eq_attempts]
  constructor
  · rintro ⟨result, done, _⟩
    obtain ⟨⟨best, last⟩, made, _⟩ := bind_eq_ok.mp done
    obtain ⟨i, a, rfl, cheapest⟩ := attempts_ok (Nat.succ_pos maxRetries) made
    exact ⟨i, a, last, cheapest, made⟩
  · rintro ⟨i, ⟨payload, violations⟩, last, cheapest, made⟩
    refine ⟨⟨payload, violations, last⟩, ?_, bestReply_iff.mpr ⟨i, cheapest⟩⟩
    rw [made]
    rfl

/-- Where no reply can be parsed, the first one decides how the proposal fails. -/
theorem Plannable.propose_unparsed (plannable : Plannable ctx) {error : PlannerError} (fails : replies 0 = .error error) :
    ctx.propose replies = .error error := by
  rw [plannable.propose_eq, plan, fails]
  rfl

variable [PyJson]

/-- A proposal is the best of the replies, and fails only if none can be parsed,
exactly where every reply up to the first clean one can be parsed and checked, or
none can be parsed and the first is refused as such. -/
theorem proposesBest_iff (plannable : Plannable ctx) (messages : Nat → ModelMessage) :
    ProposesBest ctx (fun i => plannerReply (messages i)) ↔
      ReadsUntilClean ctx (fun i => plannerReply (messages i)) (maxRetries + 1) ∨
        (∀ i < maxRetries + 1, ∀ payload, plannerReply (messages i) ≠ .ok payload) ∧
          ∃ message, plannerReply (messages 0) = .error (.strategist message) := by
  generalize replied : (fun i => plannerReply (messages i)) = replies
  have first : plannerReply (messages 0) = replies 0 := congrFun replied 0
  have each : ∀ i, plannerReply (messages i) = replies i := congrFun replied
  simp only [each]
  rw [← plannable.propose_ok_iff]
  by_cases parsed : ∃ i < maxRetries + 1, ∃ payload, replies i = .ok payload
  · have some : ¬ ∀ i < maxRetries + 1, ∀ payload, replies i ≠ .ok payload := by
      obtain ⟨i, within, payload, reads⟩ := parsed
      exact fun none => none i within payload reads
    simp only [ProposesBest, parsed, some, true_implies, false_implies, and_true, false_and, or_false]
  · have none : ∀ i < maxRetries + 1, ∀ payload, replies i ≠ .ok payload := fun i within payload reads =>
      parsed ⟨i, within, payload, reads⟩
    cases start : replies 0 with
    | ok payload => exact absurd start (none 0 (Nat.succ_pos maxRetries) payload)
    | error error =>
      have fails := plannable.propose_unparsed start
      have refused : ProposesBest ctx replies ↔ ∃ message, (Except.error error : Except PlannerError PlannerResult) =
          .error (.strategist message) := by
        rw [ProposesBest, fails]
        exact ⟨fun proposes => proposes.2 none, fun refused => ⟨fun some => absurd some parsed, fun _ => refused⟩⟩
      rw [refused]
      have unanswered : ¬ ∃ result, ctx.propose replies = .ok result ∧
          BestReply ctx replies (maxRetries + 1) result.payload result.validationWarnings := by
        rintro ⟨result, returned, _⟩
        cases fails.symm.trans returned
      rw [or_iff_right unanswered, and_iff_right none]
      simp only [Except.error.injEq]

end Best

namespace BestAttempt

local instance attemptText : PyText := PyText.plain

local instance attemptDecimal : PyDecimal := PyDecimal.plain

/-- The empty object, and texts that are no JSON. -/
local instance attemptJson : PyJson where
  loads text := if text = "\x7b\x7d" then .ok (.obj []) else .error (.decode "Expecting value: line 1 column 1 (char 0)")

private def oneChannel : StrategyContext := ⟨1000, ["email"], [], []⟩

private theorem oneChannel_plannable : Plannable oneChannel where
  channels := by decide
  budget := by decide +kernel
  allowed := by decide +kernel

/-- The model apologises first, and then answers with an object. -/
private def apology : Nat → ModelMessage
  | 0 => .text "Sorry, here is the plan:"
  | _ => .text "\x7b\x7d"

/-- The second reply can be parsed, but the proposal fails on the first. -/
theorem apology_ends_the_proposal :
    (∃ i < maxRetries + 1, ∃ payload, plannerReply (apology i) = .ok payload) ∧
      oneChannel.propose (fun i => plannerReply (apology i)) =
        .error (.strategist "model output was not valid JSON: Expecting value: line 1 column 1 (char 0)") :=
  ⟨⟨1, by decide, [], rfl⟩, by decide +kernel⟩

/-- An object at once, which is the best that the model gives. -/
theorem proposesBest_iff_object : ProposesBest oneChannel (fun i => plannerReply ((fun _ => .text "\x7b\x7d") i)) := by
  have reads : plannerReply (.text "\x7b\x7d") = .ok [] := by decide +kernel
  refine (proposesBest_iff oneChannel_plannable _).mpr (Or.inl fun _ _ _ => ?_)
  exact ⟨[], [⟨"shape", "channels must be a non-empty list"⟩], reads, rfl⟩

end BestAttempt

end MarketingAgents
