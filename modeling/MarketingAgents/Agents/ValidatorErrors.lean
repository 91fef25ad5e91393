import MarketingAgents.Agents.CalendarLayout
import MarketingAgents.Agents.DecimalArithmetic

namespace MarketingAgents

open Lib PyText PyDecimal

attribute [local instance] contextDecimal

/-- Two numbers whose difference can be compared with a tolerance. -/
def ExactDec.Comparable : ExactDec → ExactDec → Prop
  | .finite a, .finite b => |a - b| < overflowAt
  | .finite _, .infinite _ | .infinite _, .finite _ => True
  | .infinite negative, .infinite negative' => negative ≠ negative'
  | .nan, _ | _, .nan => False

/-- A share with room for its cents, and an amount that can be compared with them. -/
structure Checkable (budget : Rat) (pct amount : ExactDec) : Prop where
  share : ∃ p : Rat, pct = .finite p ∧ |budget * p| < 10 ^ 28 - 1 / 2
  amount : ∀ cents, ExactDec.shareOf budget pct = .ok cents → amount.Comparable cents

/-- The numbers add up in the context: no sum overflows or meets the opposite infinity. -/
def AddUp (total : ExactDec) (numbers : List ExactDec) : Prop := ∃ sum, numbers.foldlM ExactDec.plus total = .ok sum

/-- Shares and amounts that can be checked one by one and added up. -/
structure Tallies (budget : Rat) (totalPct totalAmount : ExactDec) (numbers : List (ExactDec × ExactDec)) : Prop where
  each : ∀ n ∈ numbers, Checkable budget n.1 n.2
  shares : AddUp totalPct (numbers.map Prod.fst)
  amounts : AddUp totalAmount (numbers.map Prod.snd)

section Operations

theorem finite_ne_nan (q : Rat) : ExactDec.finite q ≠ .nan := nofun

theorem less_ok_iff {a b : ExactDec} : (∃ answer, ExactDec.less a b = .ok answer) ↔ a ≠ .nan ∧ b ≠ .nan := by
  cases a <;> cases b <;> simp [ExactDec.less]

/-- The comparison with a tolerance returns exactly for numbers that can be
compared: neither is a NaN, they are not the same infinity, and the context holds
their difference. -/
theorem gap_ok_iff {a b : ExactDec} {tolerance : Rat} :
    (∃ answer d, ExactDec.gap a b = .ok d ∧ ExactDec.less (.finite tolerance) d = .ok answer) ↔ a.Comparable b := by
  have special : ∀ {d : ExactDec}, ExactDec.gap a b = .ok d → d ≠ .nan →
      ∃ answer d, ExactDec.gap a b = .ok d ∧ ExactDec.less (.finite tolerance) d = .ok answer := by
    intro d between number
    obtain ⟨answer, compared⟩ := less_ok_iff.mpr ⟨finite_ne_nan tolerance, number⟩
    exact ⟨answer, d, between, compared⟩
  have notNan : ExactDec.gap a b = .ok .nan →
      ¬ ∃ answer d, ExactDec.gap a b = .ok d ∧ ExactDec.less (.finite tolerance) d = .ok answer := by
    rintro between ⟨answer, d, between', compared⟩
    cases between.symm.trans between'
    cases compared
  cases a with
  | nan => exact iff_of_false (notNan rfl) id
  | finite p =>
    cases b with
    | nan => exact iff_of_false (notNan rfl) id
    | infinite negative => exact iff_of_true (special rfl nofun) trivial
    | finite q =>
      have fits := @inContext_ok_iff |p - q|
      rw [abs_abs] at fits
      rw [ExactDec.Comparable, ← fits]
      constructor
      · rintro ⟨answer, d, between, _⟩
        obtain ⟨r, held, _⟩ := map_eq_ok.mp between
        exact ⟨r, held⟩
      · rintro ⟨r, held⟩
        exact special (map_eq_ok.mpr ⟨r, held, rfl⟩) (finite_ne_nan r)
  | infinite negative =>
    cases b with
    | nan => exact iff_of_false (notNan rfl) id
    | finite q => exact iff_of_true (special rfl nofun) trivial
    | infinite negative' =>
      by_cases same : negative = negative'
      · refine iff_of_false ?_ fun differ => differ same
        rintro ⟨answer, d, between, _⟩
        simp [ExactDec.gap, ExactDec.distance, same] at between
      · have apart_ : ExactDec.gap (.infinite negative) (.infinite negative') = .ok (.infinite false) := if_neg same
        exact iff_of_true (special apart_ nofun) same

variable [PyText] [DecimalText]

theorem apart_ok_iff {a b : ExactDec} {tolerance : Rat} : (∃ answer, apart a b tolerance = .ok answer) ↔ a.Comparable b := by
  rw [← @gap_ok_iff a b tolerance]
  exact exists_congr fun answer => bind_eq_ok

theorem outOfRange_ok_iff {d : ExactDec} : (∃ answer, outOfRange d = .ok answer) ↔ d ≠ .nan := by
  constructor
  · rintro ⟨answer, done⟩ rfl
    cases done
  · intro number
    obtain ⟨below, low⟩ := less_ok_iff.mpr ⟨number, finite_ne_nan 0⟩
    obtain ⟨above, high⟩ := less_ok_iff.mpr ⟨finite_ne_nan 100, number⟩
    cases below with
    | true => exact ⟨true, bind_eq_ok.mpr ⟨true, low, rfl⟩⟩
    | false => exact ⟨above, bind_eq_ok.mpr ⟨false, low, high⟩⟩

end Operations

section Loop

variable [PyText] [DecimalText]

/-- What the pass over the numbers of a channel needs, and what it leaves. -/
theorem validateAmounts_eq_ok {ctx : StrategyContext} {scan scan' : Scan} {i : Nat} {ch : Dict String Json}
    {pct amount : ExactDec} (done : validateAmounts ctx scan i ch pct amount = .ok scan') :
    Checkable ctx.budgetTotal pct amount ∧ scan'.seen = scan.seen ∧
      ExactDec.plus scan.totalPct pct = .ok scan'.totalPct ∧
      ExactDec.plus scan.totalAmount amount = .ok scan'.totalAmount := by
  simp only [validateAmounts, bind_eq_ok, pure_eq_ok] at done
  obtain ⟨outside, range, negative, sign, expected, shared, mismatch, gapped, sumPct, addedPct, sumAmount, addedAmount,
    rfl⟩ := done
  refine ⟨⟨?_, fun cents same => ?_⟩, by simp, addedPct, addedAmount⟩
  · cases pct with
    | nan => cases range
    | infinite => cases shared
    | finite p => exact ⟨p, rfl, shareOf_ok_iff.mp ⟨expected, shared⟩⟩
  · cases shared.symm.trans same
    exact apart_ok_iff.mp ⟨mismatch, gapped⟩

theorem validateAmounts_ok_iff {ctx : StrategyContext} {scan : Scan} {i : Nat} {ch : Dict String Json}
    {pct amount : ExactDec} : (∃ scan', validateAmounts ctx scan i ch pct amount = .ok scan') ↔
      Checkable ctx.budgetTotal pct amount ∧ (∃ sum, ExactDec.plus scan.totalPct pct = .ok sum) ∧
        ∃ sum, ExactDec.plus scan.totalAmount amount = .ok sum := by
  constructor
  · rintro ⟨scan', done⟩
    obtain ⟨checkable, _, addedPct, addedAmount⟩ := validateAmounts_eq_ok done
    exact ⟨checkable, ⟨_, addedPct⟩, ⟨_, addedAmount⟩⟩
  · rintro ⟨⟨⟨p, rfl, room⟩, comparable⟩, ⟨sumPct, addedPct⟩, ⟨sumAmount, addedAmount⟩⟩
    obtain ⟨outside, range⟩ := outOfRange_ok_iff.mpr (finite_ne_nan p)
    obtain ⟨cents, shared⟩ := shareOf_ok_iff.mpr room
    have number : amount ≠ .nan := by
      rintro rfl
      exact comparable cents shared
    obtain ⟨negative, sign⟩ := less_ok_iff.mpr ⟨number, finite_ne_nan 0⟩
    obtain ⟨mismatch, gapped⟩ := (@apart_ok_iff _ _ amount cents (1 / 2)).mpr (comparable cents shared)
    simp only [validateAmounts, bind_eq_ok, pure_eq_ok]
    exact ⟨_, outside, range, negative, sign, cents, shared, mismatch, gapped, sumPct, addedPct, sumAmount, addedAmount, rfl⟩

/-- The platform is open to the plan. -/
def OpenPlatform (ctx : StrategyContext) (allowed : List String) (platform : String) : Prop :=
  platform ≠ "" ∧ platform ∉ ctx.forbiddenPlatforms.map lower ∧ platform ∈ allowed

instance (ctx : StrategyContext) (allowed : List String) (platform : String) : Decidable (OpenPlatform ctx allowed platform) :=
  inferInstanceAs (Decidable (_ ∧ _ ∧ _))

/-- The numbers of a channel, where both can be read. -/
def numbersOf (ch : Dict String Json) : Option (ExactDec × ExactDec) :=
  match numberAt ch "allocation_pct", numberAt ch "allocation_amount" with
  | some pct, some amount => some (pct, amount)
  | _, _ => none

/-- The first channel of each permitted platform that is not among `seen`. -/
def countedChannels (ctx : StrategyContext) (allowed seen : List String) (items : List Json) : List (Dict String Json) :=
  ((items.filterMap Json.dict?).filter fun ch => OpenPlatform ctx allowed (platformOf ch) ∧ platformOf ch ∉ seen).eraseDupsBy
    fun a b => platformOf a = platformOf b

/-- The shares and amounts that the loop checks and adds up. -/
def countedNumbers (ctx : StrategyContext) (allowed seen : List String) (items : List Json) : List (ExactDec × ExactDec) :=
  (countedChannels ctx allowed seen items).filterMap numbersOf

variable {ctx : StrategyContext} {allowed : List String}

theorem countedChannels_skip {seen : List String} {item : Json} {items : List Json}
    (skipped : ∀ ch, item.dict? = some ch → ¬ (OpenPlatform ctx allowed (platformOf ch) ∧ platformOf ch ∉ seen)) :
    countedChannels ctx allowed seen (item :: items) = countedChannels ctx allowed seen items := by
  unfold countedChannels
  cases dict : item.dict? with
  | none => rw [List.filterMap_cons_none dict]
  | some ch => rw [List.filterMap_cons_some dict, List.filter_cons_of_neg (by simpa using skipped ch dict)]

theorem countedChannels_cons {seen : List String} {item : Json} {items : List Json} {ch : Dict String Json}
    (dict : item.dict? = some ch) (permitted : OpenPlatform ctx allowed (platformOf ch)) (new : platformOf ch ∉ seen) :
    countedChannels ctx allowed seen (item :: items) =
      ch :: countedChannels ctx allowed (platformOf ch :: seen) items := by
  unfold countedChannels
  rw [List.filterMap_cons_some dict, List.filter_cons_of_pos (by simpa using ⟨permitted, new⟩), List.eraseDupsBy_cons,
    List.filter_filter]
  refine congrArg (fun rest => ch :: List.eraseDupsBy _ rest) (List.filter_congr fun other _ => ?_)
  rw [← Bool.decide_and, decide_eq_decide]
  simp only [List.mem_cons, not_or, decide_eq_false_iff_not]
  exact ⟨fun ⟨differs, permitted, later⟩ => ⟨permitted, differs, later⟩,
    fun ⟨permitted, differs, later⟩ => ⟨differs, permitted, later⟩⟩

omit [PyText] [DecimalText] in
theorem addUp_cons {total d : ExactDec} {rest : List ExactDec} :
    AddUp total (d :: rest) ↔ ∃ sum, ExactDec.plus total d = .ok sum ∧ AddUp sum rest := by
  simp only [AddUp, List.foldlM_cons, bind_eq_ok]
  constructor
  · rintro ⟨last, sum, added, done⟩
    exact ⟨sum, added, last, done⟩
  · rintro ⟨sum, added, last, done⟩
    exact ⟨last, sum, added, done⟩

theorem countedNumbers_skip {seen : List String} {item : Json} {items : List Json}
    (skipped : ∀ ch, item.dict? = some ch → ¬ (OpenPlatform ctx allowed (platformOf ch) ∧ platformOf ch ∉ seen)) :
    countedNumbers ctx allowed seen (item :: items) = countedNumbers ctx allowed seen items := by
  rw [countedNumbers, countedChannels_skip skipped, countedNumbers]

theorem countedNumbers_cons {seen : List String} {item : Json} {items : List Json} {ch : Dict String Json}
    (dict : item.dict? = some ch) (permitted : OpenPlatform ctx allowed (platformOf ch)) (new : platformOf ch ∉ seen) :
    countedNumbers ctx allowed seen (item :: items) =
      (numbersOf ch).toList ++ countedNumbers ctx allowed (platformOf ch :: seen) items := by
  unfold countedNumbers
  rw [countedChannels_cons dict permitted new, List.filterMap_cons]
  cases numbersOf ch <;> rfl

/-- A pass that only reports something, and leaves the totals. -/
structure PassesOver (ctx : StrategyContext) (allowed : List String) (scan : Scan) (entry : Json × Nat) (mid : Scan) :
    Prop where
  returns : validateChannel ctx allowed scan entry = .ok mid
  totalPct : mid.totalPct = scan.totalPct
  totalAmount : mid.totalAmount = scan.totalAmount
  counted : ∀ items, countedNumbers ctx allowed scan.seen (entry.1 :: items) = countedNumbers ctx allowed mid.seen items

/-- A pass that checks the numbers of a channel. -/
structure Counts (ctx : StrategyContext) (allowed : List String) (scan : Scan) (entry : Json × Nat)
    (ch : Dict String Json) (pct amount : ExactDec) : Prop where
  checks : validateChannel ctx allowed scan entry =
    validateAmounts ctx { scan with seen := platformOf ch :: scan.seen } entry.2 ch pct amount
  counted : ∀ items, countedNumbers ctx allowed scan.seen (entry.1 :: items) =
    (pct, amount) :: countedNumbers ctx allowed (platformOf ch :: scan.seen) items

theorem validateChannel_cases (ctx : StrategyContext) (allowed : List String) (scan : Scan) (entry : Json × Nat) :
    (∃ mid, PassesOver ctx allowed scan entry mid) ∨ ∃ ch pct amount, Counts ctx allowed scan entry ch pct amount := by
  obtain ⟨item, i⟩ := entry
  cases dict : item.dict? with
  | none =>
    refine Or.inl ⟨_, by simp only [validateChannel, dict]; rfl, by simp, by simp, fun items => ?_⟩
    rw [Scan.report_seen, countedNumbers_skip (by simp [dict])]
  | some ch =>
    cases fault : platformFault (ctx.forbiddenPlatforms.map lower) allowed scan.seen
        ("channels[" ++ toString i ++ "]") (platformOf ch) with
    | some reason =>
      have refused : ¬ (OpenPlatform ctx allowed (platformOf ch) ∧ platformOf ch ∉ scan.seen) := by
        intro fine
        rw [platformFault_eq_none.mpr fine] at fault
        cases fault
      refine Or.inl ⟨_, by simp only [validateChannel, dict, fault]; rfl, by simp, by simp, fun items => ?_⟩
      rw [Scan.report_seen, countedNumbers_skip (by simpa [dict] using refused)]
    | none =>
      obtain ⟨permitted, new⟩ := platformFault_eq_none.mp fault
      cases readsPct : numberAt ch "allocation_pct" with
      | none =>
        refine Or.inl ⟨_, by simp only [validateChannel, dict, fault, readsPct]; rfl, by simp, by simp, fun items => ?_⟩
        rw [countedNumbers_cons dict permitted new, Scan.report_seen]
        simp only [numbersOf, readsPct, Option.toList_none, List.nil_append]
      | some pct =>
        cases readsAmount : numberAt ch "allocation_amount" with
        | none =>
          refine Or.inl ⟨_, by simp only [validateChannel, dict, fault, readsPct, readsAmount]; rfl, by simp, by simp,
            fun items => ?_⟩
          rw [countedNumbers_cons dict permitted new, Scan.report_seen]
          simp only [numbersOf, readsPct, readsAmount, Option.toList_none, List.nil_append]
        | some amount =>
          refine Or.inr ⟨ch, pct, amount, by simp only [validateChannel, dict, fault, readsPct, readsAmount], fun items => ?_⟩
          rw [countedNumbers_cons dict permitted new]
          simp only [numbersOf, readsPct, readsAmount, Option.toList_some, List.singleton_append]

/-- The loop over the channels ends where the numbers that it counts tally. -/
theorem validateChannels_ok_iff {entries : List (Json × Nat)} {scan : Scan} :
    (∃ scan', entries.foldlM (validateChannel ctx allowed) scan = .ok scan') ↔
      Tallies ctx.budgetTotal scan.totalPct scan.totalAmount
        (countedNumbers ctx allowed scan.seen (entries.map Prod.fst)) := by
  induction entries generalizing scan with
  | nil => exact iff_of_true ⟨scan, rfl⟩ ⟨by simp [countedNumbers, countedChannels], ⟨_, rfl⟩, ⟨_, rfl⟩⟩
  | cons entry entries ih =>
    simp only [List.map_cons, List.foldlM_cons, bind_eq_ok]
    rcases validateChannel_cases ctx allowed scan entry with ⟨mid, passes⟩ | ⟨ch, pct, amount, counts⟩
    · rw [passes.counted, passes.returns, ← passes.totalPct, ← passes.totalAmount, ← ih]
      constructor
      · rintro ⟨scan', _, same, rest⟩
        cases same
        exact ⟨scan', rest⟩
      · rintro ⟨scan', rest⟩
        exact ⟨scan', mid, rfl, rest⟩
    · rw [counts.counted, counts.checks]
      constructor
      · rintro ⟨scan', mid, first, rest⟩
        obtain ⟨checkable, seen, addedPct, addedAmount⟩ := validateAmounts_eq_ok first
        have later := ih.mp ⟨scan', rest⟩
        rw [seen] at later
        exact ⟨List.forall_mem_cons.mpr ⟨checkable, later.each⟩, addUp_cons.mpr ⟨_, addedPct, later.shares⟩,
          addUp_cons.mpr ⟨_, addedAmount, later.amounts⟩⟩
      · rintro ⟨each, shares, amounts⟩
        obtain ⟨checkable, each⟩ := List.forall_mem_cons.mp each
        obtain ⟨sumPct, addedPct, shares⟩ := addUp_cons.mp shares
        obtain ⟨sumAmount, addedAmount, amounts⟩ := addUp_cons.mp amounts
        obtain ⟨mid, first⟩ : ∃ mid, validateAmounts ctx { scan with seen := platformOf ch :: scan.seen } entry.2 ch pct
            amount = .ok mid :=
          validateAmounts_ok_iff.mpr ⟨checkable, ⟨sumPct, addedPct⟩, ⟨sumAmount, addedAmount⟩⟩
        obtain ⟨_, seen, addedPct', addedAmount'⟩ := validateAmounts_eq_ok first
        cases addedPct.symm.trans addedPct'
        cases addedAmount.symm.trans addedAmount'
        obtain ⟨scan', rest⟩ := ih.mpr ⟨by rw [seen]; exact each, by rw [seen]; exact shares, by rw [seen]; exact amounts⟩
        exact ⟨scan', mid, first, rest⟩

end Loop

section Sums

/-- A sum that the context has held. -/
def Held (d : ExactDec) : Prop :=
  ∃ t : Rat, d = .finite t ∧ |t| ≤ 10 ^ (decimalContext.emax + 1) - 10 ^ (decimalContext.emax + 1 - 28)

theorem Held.zero : Held (.finite 0) := by
  refine ⟨0, rfl, ?_⟩
  rw [abs_zero, sub_nonneg]
  exact DecimalFormat.ten_zpow_le (by decide)

theorem Held.plus {d sum : ExactDec} {p : Rat} (held : Held d) (added : ExactDec.plus d (.finite p) = .ok sum) : Held sum := by
  obtain ⟨t, rfl, _⟩ := held
  obtain ⟨r, fits, rfl⟩ := map_eq_ok.mp added
  exact ⟨r, rfl, (inContext_eq_ok fits).2⟩

/-- Such a sum can be compared with a hundred. -/
theorem Held.comparable {d : ExactDec} (held : Held d) : d.Comparable (.finite 100) := by
  obtain ⟨t, rfl, bound⟩ := held
  have whole := DecimalFormat.zpow_digits decimalContext (decimalContext.emax + 1)
  have last := DecimalFormat.ten_zpow_le (k := 3) (m := decimalContext.emax + 1 - 28) (by decide)
  have near := abs_sub t 100
  change (10 : Rat) ^ (decimalContext.emax + 1) = 10 ^ 28 * 10 ^ (decimalContext.emax + 1 - 28) at whole
  unfold ExactDec.Comparable overflowAt
  norm_num at last near ⊢
  linarith

end Sums

section Validator

variable [PyText] [DecimalText] {ctx : StrategyContext} {allowed : List String}

theorem validateChannels_held {entries : List (Json × Nat)} {scan scan' : Scan}
    (done : entries.foldlM (validateChannel ctx allowed) scan = .ok scan') (start : Held scan.totalPct) :
    Held scan'.totalPct := by
  refine foldlM_invariant (I := fun scan => Held scan.totalPct) done start fun entry _ scan scan' held first => ?_
  rcases validateChannel_cases ctx allowed scan entry with ⟨mid, passes⟩ | ⟨ch, pct, amount, counts⟩
  · cases passes.returns.symm.trans first
    rw [passes.totalPct]
    exact held
  · rw [counts.checks] at first
    obtain ⟨⟨⟨p, rfl, _⟩, _⟩, _, added, _⟩ := validateAmounts_eq_ok first
    exact held.plus added

/-- The share of an override and the one that the plan has for it can be compared. -/
def OverrideComparable (items : List Json) (ov : HumanOverride) : Prop :=
  ∀ ch, channelFor items (lower ov.platform) = some ch → ∀ pct, numberAt ch "allocation_pct" = some pct →
    ExactDec.Comparable pct ov.allocationPct

theorem validateOverride_ok_iff {items : List Json} {ov : HumanOverride} :
    (∃ found, validateOverride items ov = .ok found) ↔ OverrideComparable items ov := by
  unfold validateOverride OverrideComparable
  dsimp only
  cases channelFor items (lower ov.platform) with
  | none => exact iff_of_true ⟨_, rfl⟩ nofun
  | some ch =>
    dsimp only
    cases reads : numberAt ch "allocation_pct" with
    | none =>
      refine iff_of_true ⟨_, rfl⟩ fun other same => ?_
      cases same
      simp [reads]
    | some pct =>
      simp only [bind_eq_ok, pure_eq_ok]
      constructor
      · rintro ⟨_, drifted, compared, _⟩ other same number reads'
        cases same
        cases reads.symm.trans reads'
        exact apart_ok_iff.mp ⟨drifted, compared⟩
      · intro comparable
        obtain ⟨drifted, compared⟩ := (@apart_ok_iff _ _ pct ov.allocationPct 1).mpr (comparable ch rfl pct reads)
        exact ⟨_, drifted, compared, rfl⟩

/-- The validator can compute with the numbers of the channels. -/
structure Computes (ctx : StrategyContext) (allowed : List String) (items : List Json) : Prop where
  tallies : Tallies ctx.budgetTotal (.finite 0) (.finite 0) (countedNumbers ctx allowed [] items)
  overrides : ∀ ov ∈ ctx.humanOverrides, OverrideComparable items ov

theorem validate_ok_iff {payload : Dict String Json} :
    (∃ violations, validate ctx allowed payload = .ok violations) ↔
      ∀ items, payload.get? "channels" = some (.arr items) → Computes ctx allowed items := by
  unfold validate
  split
  · rename_i first rest channels
    have listed : ((first :: rest).zipIdx.map Prod.fst) = first :: rest := List.zipIdx_map_fst _ _
    have loop := @validateChannels_ok_iff _ _ ctx allowed (first :: rest).zipIdx {}
    rw [listed] at loop
    simp only [bind_eq_ok, pure_eq_ok]
    constructor
    · rintro ⟨_, scan, looped, off, _, found, overrides, _⟩ items same
      cases channels.symm.trans same
      exact ⟨loop.mp ⟨scan, looped⟩, fun ov carried => validateOverride_ok_iff.mp (mapM_ok_iff.mp ⟨found, overrides⟩ ov carried)⟩
    · intro computes
      obtain ⟨tallies, overrides⟩ := computes _ channels
      obtain ⟨scan, looped⟩ := loop.mpr tallies
      obtain ⟨off, compared⟩ := (@apart_ok_iff _ _ scan.totalPct (.finite 100) 1).mpr
        (validateChannels_held looped Held.zero).comparable
      obtain ⟨found, checked⟩ := mapM_ok_iff.mpr fun ov carried => validateOverride_ok_iff.mpr (overrides ov carried)
      exact ⟨_, scan, looped, off, compared, found, checked, rfl⟩
  · rename_i other
    refine iff_of_true ⟨_, rfl⟩ fun items listed => ?_
    cases items with
    | cons first rest => exact absurd listed (other first rest)
    | nil => exact ⟨⟨by simp [countedNumbers, countedChannels], ⟨_, rfl⟩, ⟨_, rfl⟩⟩, fun ov _ ch found => by cases found⟩

end Validator

/-- The floats of `generate_calendar`: `int(round(float(pct) / 100.0 * duration / 7.0))`. -/
class TouchFloat where
  touches : Rat → Int → Except Unit Int
  touches_ok : ∀ pct duration, 0 < pct → pct ≤ 100 → 0 < duration → duration ≤ 3652059 →
    ∃ count, touches pct duration = .ok count

/-- The share as `generate_calendar` reads it; a comparison with a NaN and `round` of an infinity raise. -/
@[reducible] def decimalTouches [PyText] [DecimalText] [TouchFloat] : CalendarFloat where
  weeklyTouches text duration :=
    match DecimalText.read text with
    | none => .ok none
    | some pct => do
      let positive ← ExactDec.less (.finite 0) pct
      if positive then
        match pct with
        | .finite share => (TouchFloat.touches share duration).map some
        | _ => .error ()
      else pure none

attribute [local instance] decimalTouches

section Calendar

variable [PyText] [DecimalText] {ctx : StrategyContext} {allowed : List String}

/-- A channel with a share that is one. -/
def ReadsShare (ch : Dict String Json) : Prop :=
  ∃ pct : Rat, numberAt ch "allocation_pct" = some (ExactDec.finite pct) ∧ 0 ≤ pct ∧ pct ≤ 100

theorem validateChannel_readsShare {scan scan' : Scan} {entry : Json × Nat}
    (done : validateChannel ctx allowed scan entry = .ok scan') (clean : scan'.violations = []) :
    ∃ ch, entry.1.dict? = some ch ∧ ReadsShare ch := by
  obtain ⟨ch, pct, amount, dict, _, readsPct, _, passes⟩ := validateChannel_checks done clean
  have range : ∃ p : Rat, pct = ExactDec.finite p ∧ 0 ≤ p ∧ p ≤ 100 := outOfRange_false passes.range
  obtain ⟨p, rfl, low, high⟩ := range
  exact ⟨ch, dict, p, readsPct, low, high⟩

/-- A payload without violations has a share for every channel. -/
theorem validate_readsShares {payload : Dict String Json} (clean : validate ctx allowed payload = .ok []) :
    ∃ items, payload.get? "channels" = some (.arr items) ∧ ∀ item ∈ items, ∃ ch, item.dict? = some ch ∧ ReadsShare ch := by
  unfold validate at clean
  split at clean
  · rename_i first rest channels
    simp only [bind_eq_ok, pure_eq_ok, List.append_eq_nil_iff] at clean
    obtain ⟨scan, loop, off, _, found, overrides, ⟨reported, kept⟩, _⟩ := clean
    refine ⟨first :: rest, channels, fun item member => ?_⟩
    have numbered : item ∈ (first :: rest).zipIdx.map Prod.fst := by
      rw [List.zipIdx_map_fst]
      exact member
    obtain ⟨entry, listed, rfl⟩ := List.mem_map.mp numbered
    obtain ⟨_, last, mid, next, _, _, here, after⟩ := foldlM_ok_at loop listed
    obtain ⟨nextClean, _⟩ := validateChannels_clean after (Scan.report_clean reported).1
    exact validateChannel_readsShare here nextClean
  · cases Except.ok.inj clean

variable [TouchFloat]

/-- Such a share has a number of touches. -/
theorem ReadsShare.touches {ch : Dict String Json} (reads : ReadsShare ch) {duration : Int} (long : 0 < duration)
    (dates : duration ≤ 3652059) : ∃ found, CalendarFloat.weeklyTouches (entryShare ch) duration = .ok found := by
  obtain ⟨pct, number, low, high⟩ := reads
  have text : DecimalText.read (entryShare ch) = some (.finite pct) := by
    unfold entryShare
    unfold numberAt at number
    cases stored : ch.get? "allocation_pct" with
    | some value =>
      rw [stored] at number
      exact number
    | none =>
      rw [stored] at number
      cases DecimalText.read_null.symm.trans number
  simp only [CalendarFloat.weeklyTouches, text]
  by_cases positive : 0 < pct
  · obtain ⟨count, counted⟩ := TouchFloat.touches_ok pct duration positive high long dates
    exact ⟨some count, by simp [ExactDec.less, positive, counted, bind, Except.bind, Except.map]⟩
  · exact ⟨none, by simp [ExactDec.less, positive, bind, Except.bind, pure, Except.pure]⟩

theorem generateCalendar_not_raised {payload : Dict String Json} (clean : validate ctx allowed payload = .ok [])
    {startDate endDate : Int} (dates : endDate - startDate < 3652059) (caps : List (Dict String Json)) :
    generateCalendar payload startDate endDate caps ≠ .error .raised := by
  obtain ⟨items, channels, shares⟩ := validate_readsShares clean
  have listed : channelEntries payload = .ok (items.filterMap Json.dict?) := by
    unfold channelEntries
    rw [channels]
  have counted : ∀ channel ∈ items.filterMap Json.dict?, entryPlatform channel ≠ "" →
      ∃ found, CalendarFloat.weeklyTouches (entryShare channel) (durationDays startDate endDate) = .ok found := by
    intro channel member _
    obtain ⟨item, here, dict⟩ := List.mem_filterMap.mp member
    obtain ⟨ch, dict', reads⟩ := shares item here
    cases dict.symm.trans dict'
    exact reads.touches (by unfold durationDays; omega) (by unfold durationDays; omega)
  obtain ⟨touches, laid⟩ := layOut_total counted 0
  unfold generateCalendar
  rw [listed]
  change (do
    let touches ← layOut startDate endDate caps 0 (items.filterMap Json.dict?)
    let out := touches.insertionSort plannedOrder
    enforceHardCaps out caps
    pure out) ≠ _
  rw [laid]
  intro raised
  obtain impossible | ⟨_, _, later⟩ := bind_eq_error.mp raised
  · cases impossible
  · rcases bind_eq_error.mp later with enforced | ⟨_, _, last⟩
    · rw [enforceHardCaps_eq] at enforced
      split at enforced <;> cases enforced
    · cases last

/-- The validator returns, and a calendar can be made of what it accepts,
exactly where it can compute with the numbers of the channels. -/
theorem validator_returns_iff (ctx : StrategyContext) (allowed : List String) (payload : Dict String Json) :
    ((∃ violations, validate ctx allowed payload = .ok violations) ∧
      (validate ctx allowed payload = .ok [] → ∀ startDate endDate caps, endDate - startDate < 3652059 →
        generateCalendar payload startDate endDate caps ≠ .error .raised)) ↔
      ∀ items, payload.get? "channels" = some (.arr items) → Computes ctx allowed items := by
  rw [← validate_ok_iff]
  exact and_iff_left fun clean _ _ caps dates => generateCalendar_not_raised clean dates caps

end Calendar

section Moderate

/-- Numbers of a moderate size can be checked. -/
theorem Checkable.of_small {budget p a : Rat} (room : |budget * p| < 10 ^ 28 - 1 / 2) (small : |a| < 10 ^ 28) :
    Checkable budget (.finite p) (.finite a) := by
  refine ⟨⟨p, rfl, room⟩, fun cents shared => ?_⟩
  simp only [ExactDec.shareOf, bind_eq_ok] at shared
  obtain ⟨part, _, quantized⟩ := shared
  split_ifs at quantized with digits
  cases quantized
  have near := abs_sub a (numericColumn 2 part)
  exact lt_overflowAt (by norm_num at digits small ⊢; linarith)

theorem addUp_single {a : Rat} (small : |a| < 10 ^ 28) : AddUp (.finite 0) [.finite a] := by
  obtain ⟨sum, fits⟩ := inContext_ok_iff.mpr (@lt_overflowAt (0 + a) (by rw [zero_add]; norm_num at small ⊢; linarith))
  exact addUp_cons.mpr ⟨.finite sum, map_eq_ok.mpr ⟨sum, fits, rfl⟩, _, rfl⟩

end Moderate

namespace ValidatorErrors

local instance errorsText : PyText := PyText.plain

/-- Whole numbers in digits, and a NaN. -/
local instance errorsDecimals : DecimalText where
  read s := if s = "nan" then some .nan else (PyDecimal.plain.ofText s).map .finite
  write
    | .finite q => toString q.num
    | .infinite negative => if negative then "-Infinity" else "Infinity"
    | .nan => "NaN"
  read_null := by decide

/-- Touches counted exactly. -/
local instance errorsFloat : TouchFloat where
  touches pct duration := .ok (roundHalfEven (pct / 100 * duration / 7))
  touches_ok _ _ _ _ _ _ := ⟨_, rfl⟩

private def oneEmail (pct : Json) : Dict String Json :=
  [("channels", .arr [.obj [("platform", .str "email"), ("allocation_pct", pct), ("allocation_amount", .str "1000"),
      ("rationale", .str "reach")]]),
    ("kpis", .obj [("primary", .obj [("metric", .str "ctr"), ("target", .int 1), ("rationale", .str "reach")])])]

private def emailOnly : StrategyContext := ⟨1000, ["email"], [], []⟩

/-- A share that is not a number is read, and then compared with zero. -/
theorem nan_share_raises : validate emailOnly ["email"] (oneEmail (.float "nan")) = .error () := by
  decide +kernel

theorem validator_returns_iff_whole :
    (∃ violations, validate emailOnly ["email"] (oneEmail (.str "100")) = .ok violations) ∧
      ∀ startDate endDate caps, endDate - startDate < 3652059 → validate emailOnly ["email"] (oneEmail (.str "100")) = .ok [] →
        generateCalendar (oneEmail (.str "100")) startDate endDate caps ≠ .error .raised := by
  have counted : countedNumbers emailOnly ["email"] [] [.obj [("platform", .str "email"), ("allocation_pct", .str "100"),
      ("allocation_amount", .str "1000"), ("rationale", .str "reach")]] = [(.finite 100, .finite 1000)] := by
    decide +kernel
  have computes : ∀ items, (oneEmail (.str "100")).get? "channels" = some (.arr items) → Computes emailOnly ["email"] items := by
    intro items listed
    cases listed
    refine ⟨?_, nofun⟩
    rw [counted]
    refine ⟨fun n member => ?_, addUp_single (by norm_num), addUp_single (by norm_num)⟩
    rw [List.mem_singleton.mp member]
    exact .of_small (by norm_num [emailOnly]) (by norm_num)
  obtain ⟨returns, made⟩ := (validator_returns_iff emailOnly ["email"] (oneEmail (.str "100"))).mpr computes
  exact ⟨returns, fun startDate endDate caps dates clean => made clean startDate endDate caps dates⟩

end ValidatorErrors

end MarketingAgents
