import MarketingAgents.Agents.Calendar
import MarketingAgents.Agents.StrategistPlanner
import MarketingAgents.Lib.Rows

namespace MarketingAgents

open Lib PyText PyDecimal

/-- `ORDER BY version DESC`. -/
def newerFirst (p q : StrategyProposal) : Prop := q.version ≤ p.version

instance : DecidableRel newerFirst := fun p q => inferInstanceAs (Decidable (q.version ≤ p.version))

instance : Std.Total newerFirst := ⟨fun p q => le_total q.version p.version⟩

instance : IsTrans StrategyProposal newerFirst := ⟨fun _ _ _ first last => le_trans last first⟩

def latestProposal (db : Db) (campaignId : Uuid) : Option StrategyProposal :=
  ((db.proposals.filter (·.campaignId = campaignId)).insertionSort newerFirst).head?

/-- `coalesce(max(version), 0) + 1`. -/
def nextVersion (db : Db) (campaignId : Uuid) : Nat :=
  ((db.proposals.filter (·.campaignId = campaignId)).map StrategyProposal.version).foldr max 0 + 1

def Db.insertVersion (db : Db) (campaignId : Uuid) (payload : Dict String Json) : Db :=
  { db with
    proposals := db.proposals ++ [⟨db.nextId, campaignId, nextVersion db campaignId, payload, false⟩]
    nextId := db.nextId + 1 }

/-- What a run reads of the campaign and the tenant besides the tables of the model. -/
structure Briefing where
  objective : String
  /-- The platforms of the active channels. -/
  activeChannels : List String
  forbiddenPlatforms : List String

inductive StrategistFailure where
  | precondition (message : String)
  | planner (error : PlannerError)
  | raised
deriving DecidableEq

section Strategist

variable [PyText] [PyDecimal]

/-- An override as `_carry_overrides` reads it; a channel that cannot be read is passed over. -/
def overrideOf (ch : Dict String Json) : Option HumanOverride :=
  if flagged ch then
    match ch.get? "platform", ch.get? "allocation_pct", ch.get? "allocation_amount" with
    | some platform, some pct, some amount =>
      match ofText (str pct), ofText (str amount) with
      | some pct, some amount => some ⟨str platform, pct, amount⟩
      | _, _ => none
    | _, _, _ => none
  else none

/-- `_carry_overrides`: those of the latest version alone. -/
def carryOverrides (db : Db) (campaignId : Uuid) : Except CalendarError (List HumanOverride) :=
  match latestProposal db campaignId with
  | none => .ok []
  | some latest => (channelEntries latest.payload).map fun entries => entries.filterMap overrideOf

/-- `propose`, with what the planner answers. -/
def propose (db : Db) (campaignId : Uuid) (briefing : Briefing) (replies : Nat → Except PlannerError (Dict String Json)) :
    Except StrategistFailure (Db × PlannerResult) := do
  let c ← orRaise (db.campaign? campaignId) (.precondition ("campaign " ++ uuidStr campaignId ++ " not found"))
  require (strip briefing.objective ≠ "") (.precondition "campaign objective is empty")
  require (∃ audience ∈ db.audiences, audience.campaignId = c.id)
    (.precondition "no audience materialised for this campaign — run Audience Targeting first")
  require (briefing.activeChannels ≠ []) (.precondition "no active channels configured for this tenant")
  let overrides ← (carryOverrides db c.id).mapError fun _ => .raised
  let result ← (StrategyContext.propose ⟨c.budgetTotal, briefing.activeChannels, briefing.forbiddenPlatforms, overrides⟩
    replies).mapError .planner
  require (Json.fieldsStorable result.payload = true) .raised
  pure (db.insertVersion c.id result.payload, result)

/-- The plan sets the platform by hand, in a way that the next run carries over. -/
def SetsByHand (payload : Dict String Json) (platform : String) (ov : HumanOverride) : Prop :=
  ∃ entries, channelEntries payload = .ok entries ∧ ∃ ch ∈ entries, platformOf ch = platform ∧ overrideOf ch = some ov

theorem flagged_of_overrideOf {ch : Dict String Json} {ov : HumanOverride} (reads : overrideOf ch = some ov) :
    flagged ch = true ∧ platformOf ch = lower ov.platform := by
  unfold overrideOf at reads
  split at reads
  · rename_i flag
    split at reads
    · rename_i platform _ _ named _ _
      split at reads
      · cases Option.some.inj reads
        refine ⟨flag, ?_⟩
        rw [platformOf, named]
        rfl
      · cases reads
    · cases reads
  · cases reads

/-- A channel that the validator passes with the flag is carried with its own numbers. -/
theorem overrideOf_reads {ch : Dict String Json} (reads : ChannelReads ch) (flag : flagged ch = true) :
    ∃ ov, overrideOf ch = some ov ∧ numberAt ch "allocation_pct" = some ov.allocationPct := by
  obtain ⟨named, hasPct, hasAmount⟩ := reads
  obtain ⟨pct, readsPct⟩ := Option.isSome_iff_exists.mp hasPct
  obtain ⟨amount, readsAmount⟩ := Option.isSome_iff_exists.mp hasAmount
  cases platform : ch.get? "platform" with
  | none =>
    rw [platformOf, platform] at named
    exact absurd (by rw [Option.getD_none, str_str, lower_empty]) named
  | some value =>
    cases share : ch.get? "allocation_pct" with
    | none =>
      rw [numberAt, share, Option.getD_none, ofText_null] at readsPct
      cases readsPct
    | some pctValue =>
      cases total : ch.get? "allocation_amount" with
      | none =>
        rw [numberAt, total, Option.getD_none, ofText_null] at readsAmount
        cases readsAmount
      | some amountValue =>
        have pctText : ofText (str pctValue) = some pct := by simpa [numberAt, share] using readsPct
        have amountText : ofText (str amountValue) = some amount := by simpa [numberAt, total] using readsAmount
        refine ⟨⟨str value, pct, amount⟩, ?_, readsPct⟩
        simp [overrideOf, flag, platform, share, total, pctText, amountText]

/-- The first channel of the platform has a share and an amount that can be read. -/
def numbersRead (payload : Dict String Json) (platform : String) : Bool :=
  match payload.get? "channels" with
  | some (.arr items) =>
    match channelFor items platform with
    | some ch => (numberAt ch "allocation_pct").isSome && (numberAt ch "allocation_amount").isSome
    | none => false
  | _ => false

/-- The validator reads the numbers of the platform: it is active, and not forbidden. -/
def Briefing.Permits (briefing : Briefing) (platform : String) : Prop :=
  platform ∈ briefing.activeChannels.map lower ∧ platform ∉ briefing.forbiddenPlatforms.map lower

instance (briefing : Briefing) (platform : String) : Decidable (briefing.Permits platform) :=
  inferInstanceAs (Decidable (_ ∧ _))

/-- A plan whose warnings leave a carried override alone sets its platform by
hand again, at most one point from where it was, if its numbers can be read. -/
theorem validate_setsByHand {ctx : StrategyContext} {allowed : List String} {payload : Dict String Json}
    {violations : List Violation} {ov : HumanOverride} (checked : validate ctx allowed payload = .ok violations)
    (silent : ∀ w ∈ violations, ¬ w.BearsOn (lower ov.platform)) (carried : ov ∈ ctx.humanOverrides)
    (read : (lower ov.platform ∈ allowed ∧ lower ov.platform ∉ ctx.forbiddenPlatforms.map lower) ∨
      numbersRead payload (lower ov.platform) = true) :
    ∃ ov', SetsByHand payload (lower ov.platform) ov' ∧ apart ov'.allocationPct ov.allocationPct 1 = .ok false := by
  unfold validate at checked
  split at checked
  swap
  · cases Except.ok.inj checked
    exact absurd (Or.inl rfl) (silent _ (List.mem_singleton_self _))
  rename_i first rest channels
  simp only [bind_eq_ok, pure_eq_ok] at checked
  obtain ⟨scan, loop, off, _, found, overrides, rfl⟩ := checked
  obtain ⟨reported, listed, here⟩ := mapM_ok_mem overrides carried
  have flat : ∀ w ∈ reported, ¬ w.BearsOn (lower ov.platform) := fun w member =>
    silent w (List.mem_append_left _ (List.mem_append_right _ (List.mem_flatten.mpr ⟨reported, listed, member⟩)))
  obtain ⟨ch, known, kept⟩ := validateOverride_honours here flat
  have shaped : ∀ w ∈ scan.violations, w.kind ≠ "shape" := fun w member shape =>
    silent w (List.mem_append_left _ (List.mem_append_left _ (Scan.report_keeps member))) (Or.inl shape)
  have firstOf : ((first :: rest).zipIdx.filterMap (·.1.dict?)).find? (platformOf · = lower ov.platform) = some ch := by
    have entries : (first :: rest).zipIdx.filterMap (·.1.dict?) = (first :: rest).filterMap Json.dict? := by
      calc (first :: rest).zipIdx.filterMap (·.1.dict?)
          = ((first :: rest).zipIdx.map Prod.fst).filterMap Json.dict? := by rw [List.filterMap_map]; rfl
        _ = (first :: rest).filterMap Json.dict? := by rw [List.zipIdx_map_fst]
    rw [entries]
    exact known
  obtain ⟨named, permitted⟩ := validateChannels_first loop shaped (List.not_mem_nil) firstOf
  have ours : platformOf ch = lower ov.platform := by simpa using List.find?_some known
  have reads : ChannelReads ch := by
    rcases read with ⟨active, allowed'⟩ | numbers
    · exact permitted allowed' active
    · simp only [numbersRead, channels, known, Bool.and_eq_true] at numbers
      exact ⟨ours ▸ named, numbers.1, numbers.2⟩
  obtain ⟨pct, readsPct⟩ := Option.isSome_iff_exists.mp reads.pct
  obtain ⟨ov', carries, value⟩ := overrideOf_reads reads (kept pct readsPct).2
  refine ⟨ov', ⟨(first :: rest).filterMap Json.dict?, ?_, ch, List.mem_of_find?_eq_some known, ours, carries⟩,
    (kept _ value).1⟩
  rw [channelEntries, channels]

/-- A run stores its plan as the next version, and one whose warnings leave the
platform's override alone keeps it as the latest version has it. -/
theorem propose_carries {db db' : Db} {campaignId : Uuid} {briefing : Briefing}
    {replies : Nat → Except PlannerError (Dict String Json)} {result : PlannerResult}
    (done : propose db campaignId briefing replies = .ok (db', result)) :
    db' = db.insertVersion campaignId result.payload ∧ ∀ platform,
      (∀ w ∈ result.validationWarnings, ¬ w.BearsOn platform) →
      briefing.Permits platform ∨ numbersRead result.payload platform = true →
      ∀ p, latestProposal db campaignId = some p → ∀ ov, SetsByHand p.payload platform ov →
        ∃ ov', SetsByHand result.payload platform ov' ∧ apart ov'.allocationPct ov.allocationPct 1 = .ok false := by
  simp only [propose, bind_eq_ok, orRaise_eq_ok, pure_eq_ok, mapError_eq_ok, Prod.mk.injEq] at done
  obtain ⟨c, found, _, _, _, _, _, _, overrides, carried, result', planned, _, _, stored, rfl⟩ := done
  have sameId : c.id = campaignId := by simpa using List.find?_some found
  rw [sameId] at stored carried
  refine ⟨stored.symm, fun platform silent read p latest ov sets => ?_⟩
  obtain ⟨entries, channels, ch, member, named, reads⟩ := sets
  have listed : ov ∈ overrides := by
    rw [carryOverrides, latest] at carried
    dsimp only at carried
    rw [channels] at carried
    cases Except.ok.inj carried
    exact List.mem_filterMap.mpr ⟨ch, member, reads⟩
  simp only [StrategyContext.propose, bind_eq_ok] at planned
  obtain ⟨_, _, _, _, _, _, planned⟩ := planned
  have checked := plan_checked (fun kept none => by cases none) planned
  rw [(flagged_of_overrideOf reads).2] at named
  subst named
  refine validate_setsByHand checked silent listed (read.imp_left fun permits => ⟨?_, permits.2⟩)
  exact List.mem_filter.mpr ⟨permits.1, decide_eq_true permits.2⟩

end Strategist

end MarketingAgents
