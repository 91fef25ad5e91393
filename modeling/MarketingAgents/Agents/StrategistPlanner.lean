import MarketingAgents.Db.Models
import MarketingAgents.Lib.Result

namespace MarketingAgents

open Lib PyText

/-- What the planner uses of Python's decimals. The operations raise on a NaN
and where a result does not fit the context. -/
class PyDecimal [PyText] where
  Dec : Type
  /-- `Decimal(text)`, `none` where it raises. -/
  ofText : String → Option Dec
  ofRat : Rat → Dec
  toText : Dec → String
  /-- `a < b`. -/
  less : Dec → Dec → Except Unit Bool
  add : Dec → Dec → Except Unit Dec
  /-- `abs(a - b)`. -/
  distance : Dec → Dec → Except Unit Dec
  /-- `(budget * pct / 100).quantize(Decimal("0.01"), rounding=ROUND_HALF_UP)`. -/
  share : Rat → Dec → Except Unit Dec
  /-- `Decimal("None")` raises. -/
  ofText_null : ofText (str .null) = none

open PyDecimal

section Planner

variable [PyText] [PyDecimal]

/-- A channel of the latest version that a person has set. -/
structure HumanOverride where
  platform : String
  allocationPct : Dec
  allocationAmount : Dec

/-- What the validator reads of the `StrategyContext`; the rest is the prompt. -/
structure StrategyContext where
  budgetTotal : Rat
  availableChannels : List String
  forbiddenPlatforms : List String
  humanOverrides : List HumanOverride

omit [PyText] [PyDecimal] in
structure Violation where
  kind : String
  detail : String
deriving DecidableEq

/-- `StrategistError`, or another error of Python. -/
inductive PlannerError where
  | strategist (message : String)
  | raised
deriving DecidableEq

structure PlannerResult where
  payload : Dict String Json
  validationWarnings : List Violation
  attempts : Nat
deriving DecidableEq

/-- `str(ch.get("platform", "")).lower()`. -/
def platformOf (ch : Dict String Json) : String := lower (str ((ch.get? "platform").getD (.str "")))

/-- `Decimal(str(ch.get(key)))`. -/
def numberAt (ch : Dict String Json) (key : String) : Option Dec := ofText (str ((ch.get? key).getD .null))

/-- `str(d.get(key, "")).strip()` is empty. -/
def blankAt (d : Dict String Json) (key : String) : Bool := strip (str ((d.get? key).getD (.str ""))) = ""

def flagged (ch : Dict String Json) : Bool := ((ch.get? "human_override").map Json.truthy).getD false

/-- `abs(a - b) > tolerance`. -/
def apart (a b : Dec) (tolerance : Rat) : Except Unit Bool := do
  let d ← distance a b
  less (ofRat tolerance) d

/-- The state of the loop over the channels. -/
structure Scan where
  seen : List String := []
  totalPct : Dec := ofRat 0
  totalAmount : Dec := ofRat 0
  violations : List Violation := []

def Scan.report (scan : Scan) (found : Bool) (kind detail : String) : Scan :=
  if found then { scan with violations := scan.violations ++ [⟨kind, detail⟩] } else scan

/-- `pct < 0 or pct > 100`. -/
def outOfRange (pct : Dec) : Except Unit Bool := do
  let below ← less pct (ofRat 0)
  if below then pure true else less (ofRat 100) pct

/-- What is checked of a channel whose share and amount are numbers. -/
def validateAmounts (ctx : StrategyContext) (scan : Scan) (i : Nat) (ch : Dict String Json) (pct amount : Dec) :
    Except Unit Scan := do
  let at_ := "channels[" ++ toString i ++ "]"
  let outside ← outOfRange pct
  let negative ← less amount (ofRat 0)
  let expected ← share ctx.budgetTotal pct
  let mismatch ← apart amount expected (1 / 2)
  let totalPct ← add scan.totalPct pct
  let totalAmount ← add scan.totalAmount amount
  let scan := scan.report outside "out_of_range" (at_ ++ ".allocation_pct=" ++ toText pct ++ " outside 0..100")
  let scan := scan.report negative "out_of_range" (at_ ++ ".allocation_amount=" ++ toText amount ++ " negative")
  let scan := scan.report mismatch "amount_mismatch" (at_ ++ ".allocation_amount=" ++ toText amount ++
    " does not match pct*budget_total=" ++ toText expected)
  let scan := scan.report (blankAt ch "rationale") "missing_rationale" (at_ ++ ".rationale is empty")
  pure { scan with totalPct := totalPct, totalAmount := totalAmount }

omit [PyDecimal] in
/-- What is wrong with the platform of a channel, for the loop to go on with the next. -/
def platformFault (forbidden allowed seen : List String) (at_ platform : String) : Option Violation :=
  if platform = "" then some ⟨"shape", at_ ++ ".platform is required"⟩
  else if platform ∈ forbidden then
    some ⟨"forbidden_channel", at_ ++ ".platform '" ++ platform ++ "' is forbidden"⟩
  else if platform ∉ allowed then
    some ⟨"unknown_channel", at_ ++ ".platform '" ++ platform ++ "' is not an active channel for this tenant"⟩
  else if platform ∈ seen then
    some ⟨"duplicate_channel", at_ ++ ".platform '" ++ platform ++ "' is listed twice"⟩
  else none

/-- One pass of the loop over the channels. -/
def validateChannel (ctx : StrategyContext) (allowed : List String) (scan : Scan) (entry : Json × Nat) :
    Except Unit Scan :=
  let at_ := "channels[" ++ toString entry.2 ++ "]"
  match entry.1.dict? with
  | none => .ok (scan.report true "shape" (at_ ++ " must be an object"))
  | some ch =>
    match platformFault (ctx.forbiddenPlatforms.map lower) allowed scan.seen at_ (platformOf ch) with
    | some fault => .ok (scan.report true fault.kind fault.detail)
    | none =>
      let scan := { scan with seen := platformOf ch :: scan.seen }
      match numberAt ch "allocation_pct", numberAt ch "allocation_amount" with
      | some pct, some amount => validateAmounts ctx scan entry.2 ch pct amount
      | _, _ => .ok (scan.report true "shape" (at_ ++ " allocation_pct/amount must be numeric"))

/-- The first channel of the platform. -/
def channelFor (channels : List Json) (platform : String) : Option (Dict String Json) :=
  (channels.filterMap Json.dict?).find? (platformOf · = platform)

/-- One pass of the loop over the overrides: what it reports. -/
def validateOverride (channels : List Json) (ov : HumanOverride) : Except Unit (List Violation) :=
  let target := lower ov.platform
  match channelFor channels target with
  | none => .ok [⟨"missing_override", "human override for '" ++ target ++ "' was dropped — must appear in the plan"⟩]
  | some ch =>
    match numberAt ch "allocation_pct" with
    | none => .ok []
    | some proposed => do
      let drifted ← apart proposed ov.allocationPct 1
      pure ((if drifted then [⟨"override_drift", "override '" ++ target ++ "' allocation_pct=" ++ toText proposed ++
          " differs from required " ++ toText ov.allocationPct⟩] else []) ++
        if flagged ch then [] else [⟨"override_unflagged",
          "channel '" ++ target ++ "' is an override but human_override flag is not true"⟩])

omit [PyDecimal] in
def validateKpis (payload : Dict String Json) : List Violation :=
  match (payload.get? "kpis").bind Json.dict? with
  | none => [⟨"shape", "kpis must be an object"⟩]
  | some kpis =>
    match (Dict.get? kpis "primary").bind Json.dict? with
    | none => [⟨"shape", "kpis.primary must be an object"⟩]
    | some primary =>
      (if blankAt primary "metric" then [⟨"shape", "kpis.primary.metric is required"⟩] else []) ++
        (if (Dict.get? primary "target").getD .null = .null then [⟨"shape", "kpis.primary.target is required"⟩] else []) ++
        if blankAt primary "rationale" then [⟨"missing_rationale", "kpis.primary.rationale is empty"⟩] else []

/-- `_validate`: no violation where the payload is valid. -/
def validate (ctx : StrategyContext) (allowed : List String) (payload : Dict String Json) :
    Except Unit (List Violation) :=
  match payload.get? "channels" with
  | some (.arr (first :: rest)) => do
    let channels := first :: rest
    let scan ← channels.zipIdx.foldlM (validateChannel ctx allowed) {}
    let off ← apart scan.totalPct (ofRat 100) 1
    let scan := scan.report off "allocation_sum"
      ("allocation_pct sum is " ++ toText scan.totalPct ++ ", must be 100 (±1)")
    let overrides ← ctx.humanOverrides.mapM (validateOverride channels)
    pure (scan.violations ++ overrides.flatten ++ validateKpis payload)
  | _ => .ok [⟨"shape", "channels must be a non-empty list"⟩]

/-- The attempt with fewer violations, the earlier one on a tie. -/
def betterAttempt (best : Option (Dict String Json × List Violation)) (next : Dict String Json × List Violation) :
    Dict String Json × List Violation :=
  match best with
  | some kept => if next.2.length < kept.2.length then next else kept
  | none => next

/-- The loop of `StrategistPlanner.propose`. `replies` are the replies of the
model in order, as `_parse_response` reads them. -/
def plan (ctx : StrategyContext) (allowed : List String) (replies : Nat → Except PlannerError (Dict String Json)) :
    Nat → Nat → Option (Dict String Json × List Violation) → Except PlannerError PlannerResult
  | 0, made, best => (orRaise best .raised).map fun kept => ⟨kept.1, kept.2, made⟩
  | left + 1, made, best => do
    let payload ← replies made
    let violations ← (validate ctx allowed payload).mapError fun _ => .raised
    if violations = [] then pure ⟨payload, [], made + 1⟩
    else plan ctx allowed replies left (made + 1) (some (betterAttempt best (payload, violations)))

/-- `_MAX_RETRIES`. -/
def maxRetries : Nat := 2

def allowedPlatforms (ctx : StrategyContext) : List String :=
  (ctx.availableChannels.map lower).filter (· ∉ ctx.forbiddenPlatforms.map lower)

/-- `StrategistPlanner.propose`. -/
def StrategyContext.propose (ctx : StrategyContext) (replies : Nat → Except PlannerError (Dict String Json)) :
    Except PlannerError PlannerResult := do
  require (ctx.availableChannels ≠ []) (.strategist "no active channels configured for this tenant")
  require (0 < ctx.budgetTotal) (.strategist "campaign budget_total must be positive")
  require (allowedPlatforms ctx ≠ []) (.strategist "every configured channel is forbidden by tenant constraints")
  plan ctx (allowedPlatforms ctx) replies (maxRetries + 1) 0 none

@[simp] theorem Scan.report_seen (scan : Scan) (found : Bool) (kind detail : String) :
    (scan.report found kind detail).seen = scan.seen := by
  unfold Scan.report
  split <;> rfl

@[simp] theorem Scan.report_totalPct (scan : Scan) (found : Bool) (kind detail : String) :
    (scan.report found kind detail).totalPct = scan.totalPct := by
  unfold Scan.report
  split <;> rfl

@[simp] theorem Scan.report_totalAmount (scan : Scan) (found : Bool) (kind detail : String) :
    (scan.report found kind detail).totalAmount = scan.totalAmount := by
  unfold Scan.report
  split <;> rfl

theorem Scan.report_clean {scan : Scan} {found : Bool} {kind detail : String}
    (clean : (scan.report found kind detail).violations = []) : scan.violations = [] ∧ found = false := by
  unfold Scan.report at clean
  cases found with
  | false => exact ⟨clean, rfl⟩
  | true => simp at clean

theorem Scan.report_keeps {scan : Scan} {found : Bool} {kind detail : String} {w : Violation}
    (old : w ∈ scan.violations) : w ∈ (scan.report found kind detail).violations := by
  unfold Scan.report
  split
  · exact List.mem_append_left _ old
  · exact old

theorem Scan.report_adds {scan : Scan} {kind detail : String} :
    ⟨kind, detail⟩ ∈ (scan.report true kind detail).violations :=
  List.mem_append_right _ (List.mem_singleton_self _)

/-- A channel whose platform and numbers can be read. -/
structure ChannelReads (ch : Dict String Json) : Prop where
  named : platformOf ch ≠ ""
  pct : (numberAt ch "allocation_pct").isSome = true
  amount : (numberAt ch "allocation_amount").isSome = true

/-- What a pass over the numbers of a channel has found that reports nothing. -/
structure AmountsPass (ctx : StrategyContext) (scan scan' : Scan) (pct amount : Dec) : Prop where
  violations : scan.violations = []
  range : outOfRange pct = .ok false
  sign : less amount (ofRat 0) = .ok false
  near : ∃ expected, share ctx.budgetTotal pct = .ok expected ∧ apart amount expected (1 / 2) = .ok false
  seen : scan'.seen = scan.seen
  totalPct : add scan.totalPct pct = .ok scan'.totalPct
  totalAmount : add scan.totalAmount amount = .ok scan'.totalAmount

theorem validateAmounts_passes {ctx : StrategyContext} {scan scan' : Scan} {i : Nat} {ch : Dict String Json}
    {pct amount : Dec} (done : validateAmounts ctx scan i ch pct amount = .ok scan') (clean : scan'.violations = []) :
    AmountsPass ctx scan scan' pct amount := by
  simp only [validateAmounts, bind_eq_ok, pure_eq_ok] at done
  obtain ⟨outside, range, negative, sign, expected, shared, mismatch, gap, sumPct, addedPct, sumAmount, addedAmount,
    rfl⟩ := done
  obtain ⟨amounts, _⟩ := Scan.report_clean clean
  obtain ⟨signs, rfl⟩ := Scan.report_clean amounts
  obtain ⟨ranges, rfl⟩ := Scan.report_clean signs
  obtain ⟨kept, rfl⟩ := Scan.report_clean ranges
  exact ⟨kept, range, sign, ⟨expected, shared, gap⟩, by simp, addedPct, addedAmount⟩

omit [PyText] [PyDecimal] in
theorem platformFault_eq_none {forbidden allowed seen : List String} {at_ platform : String} :
    platformFault forbidden allowed seen at_ platform = none ↔
      (platform ≠ "" ∧ platform ∉ forbidden ∧ platform ∈ allowed) ∧ platform ∉ seen := by
  unfold platformFault
  split_ifs <;> simp_all

/-- A pass of the loop that reports nothing has skipped none of the checks. -/
theorem validateChannel_checks {ctx : StrategyContext} {allowed : List String} {scan scan' : Scan} {entry : Json × Nat}
    (done : validateChannel ctx allowed scan entry = .ok scan') (clean : scan'.violations = []) :
    ∃ ch pct amount, entry.1.dict? = some ch ∧
      ((platformOf ch ≠ "" ∧ platformOf ch ∉ ctx.forbiddenPlatforms.map lower ∧ platformOf ch ∈ allowed) ∧
        platformOf ch ∉ scan.seen) ∧
      numberAt ch "allocation_pct" = some pct ∧ numberAt ch "allocation_amount" = some amount ∧
      AmountsPass ctx { scan with seen := platformOf ch :: scan.seen } scan' pct amount := by
  have reported : ∀ {before : Scan} {kind detail}, before.report true kind detail = scan' → False := by
    intro before kind detail same
    cases (Scan.report_clean (same ▸ clean)).2
  unfold validateChannel at done
  dsimp only at done
  split at done
  · exact (reported (Except.ok.inj done)).elim
  · rename_i ch dict
    split at done
    · exact (reported (Except.ok.inj done)).elim
    · rename_i faultless
      split at done
      · rename_i pct amount readsPct readsAmount
        exact ⟨ch, pct, amount, dict, platformFault_eq_none.mp faultless, readsPct, readsAmount,
          validateAmounts_passes done clean⟩
      · exact (reported (Except.ok.inj done)).elim

theorem validateChannel_clean {ctx : StrategyContext} {allowed : List String} {scan scan' : Scan} {entry : Json × Nat}
    (done : validateChannel ctx allowed scan entry = .ok scan') (clean : scan'.violations = []) :
    scan.violations = [] ∧ ∃ ch, entry.1.dict? = some ch ∧ ChannelReads ch := by
  obtain ⟨ch, pct, amount, dict, ⟨⟨named, _⟩, _⟩, readsPct, readsAmount, passes⟩ := validateChannel_checks done clean
  exact ⟨passes.violations, ch, dict, named, by rw [readsPct]; rfl, by rw [readsAmount]; rfl⟩

/-- The loop over the channels reports nothing only where every channel can be read. -/
theorem validateChannels_clean {ctx : StrategyContext} {allowed : List String} {entries : List (Json × Nat)}
    {scan scan' : Scan} (done : entries.foldlM (validateChannel ctx allowed) scan = .ok scan')
    (clean : scan'.violations = []) :
    scan.violations = [] ∧ ∀ entry ∈ entries, ∃ ch, entry.1.dict? = some ch ∧ ChannelReads ch := by
  induction entries generalizing scan with
  | nil =>
    simp only [List.foldlM_nil, pure_eq_ok] at done
    exact ⟨done ▸ clean, fun entry member => by cases member⟩
  | cons entry entries ih =>
    simp only [List.foldlM_cons, bind_eq_ok] at done
    obtain ⟨mid, first, rest⟩ := done
    obtain ⟨midClean, later⟩ := ih rest
    obtain ⟨before, here⟩ := validateChannel_clean first midClean
    refine ⟨before, fun other member => ?_⟩
    rcases List.mem_cons.mp member with rfl | more
    · exact here
    · exact later other more

/-- What a pass of the loop has reported stays, and it has seen no platform but the channel's. -/
theorem validateChannel_grows {ctx : StrategyContext} {allowed : List String} {scan scan' : Scan} {entry : Json × Nat}
    (done : validateChannel ctx allowed scan entry = .ok scan') :
    (∀ w ∈ scan.violations, w ∈ scan'.violations) ∧
      ∀ platform ∈ scan'.seen, platform ∈ scan.seen ∨ ∃ ch, entry.1.dict? = some ch ∧ platformOf ch = platform := by
  unfold validateChannel at done
  dsimp only at done
  split at done
  · cases Except.ok.inj done
    exact ⟨fun w => Scan.report_keeps, fun platform seen => Or.inl (by simpa using seen)⟩
  · rename_i ch dict
    split at done
    · cases Except.ok.inj done
      exact ⟨fun w => Scan.report_keeps, fun platform seen => Or.inl (by simpa using seen)⟩
    · have fresh : ∀ platform ∈ platformOf ch :: scan.seen, platform ∈ scan.seen ∨
          ∃ ch, entry.1.dict? = some ch ∧ platformOf ch = platform := by
        intro platform seen
        rcases List.mem_cons.mp seen with rfl | old
        · exact Or.inr ⟨ch, dict, rfl⟩
        · exact Or.inl old
      split at done
      · simp only [validateAmounts, bind_eq_ok, pure_eq_ok] at done
        obtain ⟨_, _, _, _, _, _, _, _, _, _, _, _, rfl⟩ := done
        refine ⟨fun w old => ?_, by simpa using fresh⟩
        exact Scan.report_keeps (Scan.report_keeps (Scan.report_keeps (Scan.report_keeps old)))
      · cases Except.ok.inj done
        exact ⟨fun w old => Scan.report_keeps old, by simpa using fresh⟩

/-- A pass that reports no shape has a channel with a platform, and numbers
where the platform is a permitted one that comes up for the first time. -/
theorem validateChannel_shaped {ctx : StrategyContext} {allowed : List String} {scan scan' : Scan} {entry : Json × Nat}
    {ch : Dict String Json} (done : validateChannel ctx allowed scan entry = .ok scan')
    (shaped : ∀ w ∈ scan'.violations, w.kind ≠ "shape") (dict : entry.1.dict? = some ch) :
    platformOf ch ≠ "" ∧ (platformOf ch ∉ ctx.forbiddenPlatforms.map lower → platformOf ch ∈ allowed →
      platformOf ch ∉ scan.seen → ChannelReads ch) := by
  unfold validateChannel at done
  rw [dict] at done
  dsimp only at done
  have named : platformOf ch ≠ "" := by
    intro blank
    rw [platformFault, if_pos blank] at done
    cases Except.ok.inj done
    exact shaped _ Scan.report_adds rfl
  refine ⟨named, fun permitted active first => ?_⟩
  rw [platformFault_eq_none.mpr ⟨⟨named, permitted, active⟩, first⟩] at done
  dsimp only at done
  split at done
  · rename_i pct amount readsPct readsAmount
    exact ⟨named, by rw [readsPct]; rfl, by rw [readsAmount]; rfl⟩
  · cases Except.ok.inj done
    exact absurd rfl (shaped _ Scan.report_adds)

theorem validateChannels_grow {ctx : StrategyContext} {allowed : List String} {entries : List (Json × Nat)}
    {scan scan' : Scan} (done : entries.foldlM (validateChannel ctx allowed) scan = .ok scan') :
    ∀ w ∈ scan.violations, w ∈ scan'.violations := by
  intro w old
  refine foldlM_invariant (I := fun scan => w ∈ scan.violations) done old ?_
  exact fun _ _ _ _ held pass => (validateChannel_grows pass).1 w held

/-- In a loop that reports no shape, the first channel of a permitted platform can be read. -/
theorem validateChannels_first {ctx : StrategyContext} {allowed : List String} {entries : List (Json × Nat)}
    {scan scan' : Scan} {platform : String} {ch : Dict String Json}
    (done : entries.foldlM (validateChannel ctx allowed) scan = .ok scan')
    (shaped : ∀ w ∈ scan'.violations, w.kind ≠ "shape") (fresh : platform ∉ scan.seen)
    (found : (entries.filterMap (·.1.dict?)).find? (platformOf · = platform) = some ch) :
    platform ≠ "" ∧ (platform ∉ ctx.forbiddenPlatforms.map lower → platform ∈ allowed → ChannelReads ch) := by
  induction entries generalizing scan with
  | nil => cases found
  | cons entry entries ih =>
    simp only [List.foldlM_cons, bind_eq_ok] at done
    obtain ⟨mid, pass, rest⟩ := done
    have midShaped : ∀ w ∈ mid.violations, w.kind ≠ "shape" := fun w old => shaped w (validateChannels_grow rest w old)
    cases dict : entry.1.dict? with
    | none =>
      rw [List.filterMap_cons_none (f := fun entry : Json × Nat => entry.1.dict?) dict] at found
      refine ih rest (fun seen => ?_) found
      rcases (validateChannel_grows pass).2 platform seen with old | ⟨other, isDict, _⟩
      · exact fresh old
      · cases dict.symm.trans isDict
    | some head =>
      rw [List.filterMap_cons_some (f := fun entry : Json × Nat => entry.1.dict?) dict, List.find?_cons] at found
      by_cases ours : platformOf head = platform
      · rw [decide_eq_true ours] at found
        cases Option.some.inj found
        subst ours
        obtain ⟨named, reads⟩ := validateChannel_shaped pass midShaped dict
        exact ⟨named, fun permitted active => reads permitted active fresh⟩
      · rw [decide_eq_false ours] at found
        refine ih rest (fun seen => ?_) found
        rcases (validateChannel_grows pass).2 platform seen with old | ⟨other, isDict, same⟩
        · exact fresh old
        · cases dict.symm.trans isDict
          exact ours same

/-- What a plan without violations does to an override. -/
def Honours (items : List Json) (ov : HumanOverride) : Prop :=
  ∃ ch, channelFor items (lower ov.platform) = some ch ∧
    ∀ pct, numberAt ch "allocation_pct" = some pct → apart pct ov.allocationPct 1 = .ok false ∧ flagged ch = true

/-- A warning that bears on the override of a platform: a shape that could not
be read, or a complaint about an override that names the platform. -/
def Violation.BearsOn (w : Violation) (platform : String) : Prop :=
  w.kind = "shape" ∨ w.kind ∈ ["missing_override", "override_drift", "override_unflagged"] ∧
    ("'" ++ platform ++ "'").toList <:+: w.detail.toList

instance (w : Violation) (platform : String) : Decidable (w.BearsOn platform) :=
  inferInstanceAs (Decidable (_ ∨ _))

/-- What the pass over an override reports bears on its platform, so a pass
that reports nothing of the kind has found the override honoured. -/
theorem validateOverride_honours {items : List Json} {ov : HumanOverride} {found : List Violation}
    (done : validateOverride items ov = .ok found) (silent : ∀ w ∈ found, ¬ w.BearsOn (lower ov.platform)) :
    Honours items ov := by
  unfold validateOverride at done
  dsimp only at done
  split at done
  · cases Except.ok.inj done
    refine absurd (Or.inr ⟨by simp, ?_⟩) (silent _ (List.mem_singleton_self _))
    exact ⟨"human override for ".toList, " was dropped — must appear in the plan".toList, by simp⟩
  · rename_i ch known
    refine ⟨ch, known, fun pct reads => ?_⟩
    rw [reads] at done
    simp only [bind_eq_ok, pure_eq_ok] at done
    obtain ⟨drifted, value, rfl⟩ := done
    constructor
    · cases drifted with
      | false => exact value
      | true =>
        refine absurd (Or.inr ⟨by simp, ?_⟩) (silent _ (List.mem_append_left _ (List.mem_singleton_self _)))
        exact ⟨"override ".toList, (" allocation_pct=" ++ toText pct ++ " differs from required " ++
          toText ov.allocationPct).toList, by simp⟩
    · by_contra unflagged
      rw [if_neg unflagged] at silent
      refine absurd (Or.inr ⟨by simp, ?_⟩) (silent _ (List.mem_append_right _ (List.mem_singleton_self _)))
      exact ⟨"channel ".toList, " is an override but human_override flag is not true".toList, by simp⟩

theorem validateOverrides_clean {items : List Json} {ovs : List HumanOverride} {found : List (List Violation)}
    (done : ovs.mapM (validateOverride items) = .ok found) (clean : found.flatten = []) : ∀ ov ∈ ovs, Honours items ov := by
  intro ov member
  obtain ⟨reported, listed, here⟩ := mapM_ok_mem done member
  rw [List.flatten_eq_nil_iff.mp clean reported listed] at here
  exact validateOverride_honours here fun w none => by cases none

theorem validate_clean {ctx : StrategyContext} {allowed : List String} {payload : Dict String Json}
    (clean : validate ctx allowed payload = .ok []) :
    ∃ items, payload.get? "channels" = some (.arr items) ∧
      (∀ item ∈ items, ∃ ch, item.dict? = some ch ∧ ChannelReads ch) ∧ ∀ ov ∈ ctx.humanOverrides, Honours items ov := by
  unfold validate at clean
  split at clean
  · rename_i first rest channels
    simp only [bind_eq_ok, pure_eq_ok, List.append_eq_nil_iff] at clean
    obtain ⟨scan, loop, off, _, found, overrides, ⟨reported, kept⟩, _⟩ := clean
    obtain ⟨_, reads⟩ := validateChannels_clean loop (Scan.report_clean reported).1
    refine ⟨first :: rest, channels, fun item member => ?_, validateOverrides_clean overrides kept⟩
    have numbered : item ∈ (first :: rest).zipIdx.map Prod.fst := by
      rw [List.zipIdx_map_fst]
      exact member
    obtain ⟨entry, listed, rfl⟩ := List.mem_map.mp numbered
    exact reads entry listed
  · cases Except.ok.inj clean

/-- What the loop returns has been checked: its warnings are its violations. -/
theorem plan_checked {ctx : StrategyContext} {allowed : List String} {replies : Nat → Except PlannerError (Dict String Json)}
    {left made : Nat} {best : Option (Dict String Json × List Violation)} {result : PlannerResult}
    (start : ∀ kept ∈ best, validate ctx allowed kept.1 = .ok kept.2)
    (done : plan ctx allowed replies left made best = .ok result) :
    validate ctx allowed result.payload = .ok result.validationWarnings := by
  induction left generalizing made best with
  | zero =>
    unfold plan at done
    cases best with
    | none => cases done
    | some kept =>
      cases Except.ok.inj done
      exact start kept rfl
  | succ left ih =>
    simp only [plan, bind_eq_ok, mapError_eq_ok] at done
    obtain ⟨payload, reply, violations, checked, rest⟩ := done
    split at rest
    · rename_i clean
      rw [pure_eq_ok] at rest
      subst rest
      rw [checked, clean]
    · refine ih (fun kept chosen => ?_) rest
      cases Option.mem_some_iff.mp chosen
      unfold betterAttempt
      split
      · split
        · exact checked
        · exact start _ rfl
      · exact checked

end Planner

/-- Whole numbers in digits, counted exactly: all that the closed runs of this
development contain. -/
@[reducible] def PyDecimal.plain : @PyDecimal PyText.plain :=
  letI := PyText.plain
  { Dec := Rat
    ofText := fun s =>
      if s ≠ "" ∧ s.toList.all Char.isDigit then some (s.toList.foldl (fun n c => 10 * n + (c.toNat - '0'.toNat)) 0 : Nat)
      else none
    ofRat := fun q => q
    toText := fun d => toString d.num
    less := fun a b => .ok (decide (a < b))
    add := fun a b => .ok (a + b)
    distance := fun a b => .ok (if a < b then b - a else a - b)
    share := fun budget pct => .ok ((budget * pct + 1 / 2).floor / 100)
    ofText_null := by decide }

end MarketingAgents
