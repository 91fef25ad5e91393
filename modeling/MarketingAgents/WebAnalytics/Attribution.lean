import MarketingAgents.Db.Models
import MarketingAgents.Db.Patterns
import MarketingAgents.Lib.Result

namespace MarketingAgents

open Lib PyText

/-- Whether the database, matching a text in lower case, gets as far as an escape
that ends the pattern: it then raises. -/
class LikeErrors where
  refuses : String → String → Bool

namespace WebAnalytics

/-- How a query raises. -/
def databaseError : AppError := .raised "DBAPIError"

/-- A text that the database can hold has no NUL. -/
def nulFree (text : String) : Bool := !text.toList.contains '\x00'

section Resolve

variable [PyText] [LikeErrors]

/-- `name ILIKE pattern`; an escape at the end of the pattern takes no character. -/
def nameMatches (pattern name : String) : Except AppError Bool :=
  if dangling pattern.toList then
    if LikeErrors.refuses (lower pattern) (lower name) then .error databaseError else .ok false
  else .ok (ilike pattern name)

/-- The query, over the tenant's rows in the order of the scan, up to the first match. -/
def firstMatch (pattern : String) : List Campaign → Except AppError (Option Uuid)
  | [] => .ok none
  | c :: rest => do
    if ← nameMatches pattern c.name then pure (some c.id) else firstMatch pattern rest

/-- `resolve_campaign_by_utm`. -/
def resolveCampaignByUtm (campaigns : List Campaign) (tenantId : Uuid) (utmCampaign : Option String) :
    Except AppError (Option Uuid) :=
  match utmCampaign.filter (· ≠ "") with
  | none => .ok none
  | some utmCampaign =>
    if nulFree utmCampaign then firstMatch utmCampaign (campaigns.filter (·.tenantId = tenantId))
    else .error databaseError

/-- What is found is a campaign of the list whose name matches. -/
theorem firstMatch_some {pattern : String} {campaigns : List Campaign} {id : Uuid}
    (found : firstMatch pattern campaigns = .ok (some id)) :
    ∃ c ∈ campaigns, c.id = id ∧ nameMatches pattern c.name = .ok true := by
  induction campaigns with
  | nil => cases found
  | cons c rest ih =>
    obtain ⟨taken, matched, found⟩ := bind_eq_ok.mp found
    cases taken with
    | true =>
      cases found
      exact ⟨c, List.mem_cons_self .., rfl, matched⟩
    | false =>
      obtain ⟨later, member, same, matches_⟩ := ih found
      exact ⟨later, List.mem_cons_of_mem _ member, same, matches_⟩

/-- A match is found where every name is judged. -/
theorem firstMatch_finds {pattern : String} {campaigns : List Campaign}
    (judged : ∀ c ∈ campaigns, ∃ taken, nameMatches pattern c.name = .ok taken)
    (some_ : ∃ c ∈ campaigns, nameMatches pattern c.name = .ok true) : ∃ id, firstMatch pattern campaigns = .ok (some id) := by
  induction campaigns with
  | nil =>
    obtain ⟨_, member, _⟩ := some_
    cases member
  | cons c rest ih =>
    obtain ⟨taken, matched⟩ := judged c (List.mem_cons_self ..)
    rw [firstMatch, matched]
    cases taken with
    | true => exact ⟨c.id, rfl⟩
    | false =>
      refine ih (fun later member => judged later (List.mem_cons_of_mem _ member)) ?_
      obtain ⟨later, member, matches_⟩ := some_
      rcases List.mem_cons.mp member with rfl | below
      · rw [matched] at matches_
        cases matches_
      · exact ⟨later, below, matches_⟩

/-- Whatever the names, a campaign of the tenant is returned. -/
theorem resolveCampaignByUtm_tenant {campaigns : List Campaign} {tenantId id : Uuid} {utmCampaign : Option String}
    (resolved : resolveCampaignByUtm campaigns tenantId utmCampaign = .ok (some id)) :
    ∃ c ∈ campaigns, c.id = id ∧ c.tenantId = tenantId := by
  unfold resolveCampaignByUtm at resolved
  split at resolved
  · cases resolved
  · split at resolved
    · obtain ⟨c, member, same, _⟩ := firstMatch_some resolved
      obtain ⟨listed, own⟩ := List.mem_filter.mp member
      exact ⟨c, listed, same, of_decide_eq_true own⟩
    · cases resolved

/-- A campaign is returned only if its name is the text up to case, and some one is
returned where the tenant has such a campaign. -/
structure Exact (campaigns : List Campaign) (tenantId : Uuid) (utmCampaign : String) : Prop where
  only : ∀ id, resolveCampaignByUtm campaigns tenantId (some utmCampaign) = .ok (some id) →
    ∃ c ∈ campaigns, c.id = id ∧ c.tenantId = tenantId ∧ lower c.name = lower utmCampaign
  whenever : (∃ c ∈ campaigns, c.tenantId = tenantId ∧ lower c.name = lower utmCampaign) →
    ∃ id, resolveCampaignByUtm campaigns tenantId (some utmCampaign) = .ok (some id)

/-- The text is exact for every set of names. -/
def ExactUpToCase (utmCampaign : String) : Prop :=
  ∀ (campaigns : List Campaign) (tenantId : Uuid), (∀ c ∈ campaigns, nulFree c.name = true) →
    Exact campaigns tenantId utmCampaign

theorem nameMatches_literal [CaseFold] {pattern : String} (literal : ∀ c ∈ pattern.toList, literalChar c = true) (name : String) :
    nameMatches pattern name = .ok (decide (lower name = lower pattern)) := by
  rw [nameMatches, dangling_literal literal, if_neg Bool.false_ne_true, Except.ok.injEq, Bool.eq_iff_iff, decide_eq_true_iff,
    ilike_literal literal, eq_comm]

omit [LikeErrors] in
/-- A NUL is no letter of any case. -/
theorem nulFree_of_lower_eq [CaseFold] {a b : String} (same : lower a = lower b) (free : nulFree a = true) :
    nulFree b = true := by
  have lists := congrArg String.toList same
  rw [CaseFold.lower_toList, CaseFold.lower_toList] at lists
  simp only [nulFree, Bool.not_eq_true', List.contains_eq_mem, decide_eq_false_iff_not] at free ⊢
  intro member
  have folded := List.mem_map_of_mem (f := CaseFold.fold) member
  rw [(CaseFold.fold_eq '\x00' (by decide) '\x00').mpr rfl, ← lists] at folded
  obtain ⟨c, inside, nul⟩ := List.mem_map.mp folded
  exact free ((CaseFold.fold_eq '\x00' (by decide) c).mp nul ▸ inside)

theorem resolve_some {utmCampaign : String} (some_ : utmCampaign ≠ "") (campaigns : List Campaign) (tenantId : Uuid) :
    resolveCampaignByUtm campaigns tenantId (some utmCampaign) =
      if nulFree utmCampaign then firstMatch utmCampaign (campaigns.filter (·.tenantId = tenantId))
      else .error databaseError := by
  have kept : (some utmCampaign).filter (· ≠ "") = some utmCampaign := by simp [Option.filter, some_]
  rw [resolveCampaignByUtm, kept]

omit [LikeErrors] in
theorem ne_empty_of_lower_eq [CaseFold] {a b : String} (same : lower a = lower b) (some_ : a ≠ "") : b ≠ "" := by
  rintro rfl
  have lists := congrArg String.toList same
  rw [CaseFold.lower_toList, CaseFold.lower_toList, String.toList_empty, List.map_nil, List.map_eq_nil_iff] at lists
  exact some_ (String.toList_inj.mp lists)

/-- Texts that differ in case alone resolve alike. -/
theorem resolve_of_lower_eq [CaseFold] {a b : String} (same : lower a = lower b) (campaigns : List Campaign) (tenantId : Uuid) :
    resolveCampaignByUtm campaigns tenantId (some a) = resolveCampaignByUtm campaigns tenantId (some b) := by
  have matches_ : ∀ name, nameMatches a name = nameMatches b name := by
    intro name
    have ends : dangling a.toList = dangling b.toList := by
      rw [← dangling_fold, ← dangling_fold b.toList, ← CaseFold.lower_toList, ← CaseFold.lower_toList, same]
    rw [nameMatches, nameMatches, ends, same, ilike, ilike, same]
  have scan : ∀ campaigns, firstMatch a campaigns = firstMatch b campaigns := by
    intro campaigns
    induction campaigns with
    | nil => rfl
    | cons c rest ih => rw [firstMatch, firstMatch, matches_, ih]
  have free : nulFree a = nulFree b := by
    rw [Bool.eq_iff_iff]
    exact ⟨nulFree_of_lower_eq same, nulFree_of_lower_eq same.symm⟩
  by_cases some_ : a = ""
  · subst some_
    have none_ : b = "" := by
      by_contra some_
      exact ne_empty_of_lower_eq same.symm some_ rfl
    rw [none_]
  · rw [resolve_some some_, resolve_some (ne_empty_of_lower_eq same some_), free, scan]

/-- A text with a NUL is no name, and raises. -/
theorem exact_of_nul [CaseFold] {utmCampaign : String} (some_ : utmCampaign ≠ "") (nul : nulFree utmCampaign = false) :
    ExactUpToCase utmCampaign := by
  intro campaigns tenantId free
  constructor
  · intro id resolved
    rw [resolve_some some_, nul] at resolved
    cases resolved
  · rintro ⟨c, member, _, same⟩
    rw [nulFree_of_lower_eq same (free c member)] at nul
    cases nul

theorem exact_of_literal [CaseFold] {utmCampaign : String} (some_ : utmCampaign ≠ "") (free : nulFree utmCampaign = true)
    (literal : ∀ c ∈ utmCampaign.toList, literalChar c = true) : ExactUpToCase utmCampaign := by
  intro campaigns tenantId _
  have resolved : resolveCampaignByUtm campaigns tenantId (some utmCampaign) =
      firstMatch utmCampaign (campaigns.filter (·.tenantId = tenantId)) := by
    rw [resolve_some some_, if_pos free]
  constructor
  · intro id found
    rw [resolved] at found
    obtain ⟨c, member, same, matched⟩ := firstMatch_some found
    rw [nameMatches_literal literal, Except.ok.injEq, decide_eq_true_iff] at matched
    obtain ⟨listed, own⟩ := List.mem_filter.mp member
    exact ⟨c, listed, same, of_decide_eq_true own, matched⟩
  · rintro ⟨c, member, own, same⟩
    rw [resolved]
    refine firstMatch_finds (fun c _ => ⟨_, nameMatches_literal literal c.name⟩) ⟨c, ?_, ?_⟩
    · exact List.mem_filter.mpr ⟨member, decide_eq_true own⟩
    · rw [nameMatches_literal literal, decide_eq_true same]

/-- A campaign that has nothing but its name. -/
def named (name : String) : Campaign where
  id := 1
  tenantId := 1
  name := name
  status := .live
  budgetTotal := 0
  currency := "EUR"
  startDate := 0
  endDate := 0

theorem resolve_named {utmCampaign name : String} (some_ : utmCampaign ≠ "") (free : nulFree utmCampaign = true) :
    resolveCampaignByUtm [named name] 1 (some utmCampaign) = .ok (some 1) ↔ nameMatches utmCampaign name = .ok true := by
  rw [resolve_some some_, if_pos free]
  have listed : [named name].filter (·.tenantId = 1) = [named name] := rfl
  rw [listed, firstMatch]
  change (nameMatches utmCampaign name >>= _) = _ ↔ _
  cases nameMatches utmCampaign name with
  | error error => simp [bind, Except.bind]
  | ok taken => cases taken <;> simp [bind, Except.bind, firstMatch, pure, Except.pure, named]

/-- A text with a wildcard or an escape finds a name that it is not, or misses the one that it is. -/
theorem literal_of_exact [CaseFold] {utmCampaign : String} (some_ : utmCampaign ≠ "") (free : nulFree utmCampaign = true)
    (exact_ : ExactUpToCase utmCampaign) : ∀ c ∈ utmCampaign.toList, literalChar c = true := by
  cases complete : dangling utmCampaign.toList with
  | true =>
    -- a campaign of this name is never found
    obtain ⟨id, found⟩ := (exact_ [named utmCampaign] 1 (by simpa [named] using free)).whenever
      ⟨named utmCampaign, List.mem_singleton_self _, rfl, rfl⟩
    rw [resolve_some some_, if_pos free] at found
    obtain ⟨c, member, _, matched⟩ := firstMatch_some found
    rw [nameMatches, if_pos complete] at matched
    split at matched <;> cases matched
  | false =>
    have folded : dangling (lower utmCampaign).toList = false := by
      rw [CaseFold.lower_toList, dangling_fold, complete]
    have held : nulFree (String.ofList (specimen (lower utmCampaign).toList)) = true := by
      have lowered : nulFree (lower utmCampaign) = true := nulFree_of_lower_eq (lower_lower utmCampaign).symm free
      simp only [nulFree, Bool.not_eq_true', List.contains_eq_mem, decide_eq_false_iff_not, String.toList_ofList] at lowered ⊢
      intro member
      rcases mem_specimen member with inside | letter | percent
      · exact lowered inside
      · exact absurd letter (by decide)
      · exact absurd percent (by decide)
    have matched : nameMatches utmCampaign (String.ofList (specimen (lower utmCampaign).toList)) = .ok true := by
      rw [nameMatches, if_neg (by simp [complete]), ilike, lower_specimen, like_specimen folded]
    obtain ⟨c, member, _, _, same⟩ := (exact_ [named _] 1 (by simpa [named] using held)).only 1
      ((resolve_named some_ free).mpr matched)
    rw [List.mem_singleton.mp member] at same
    have lists := congrArg String.toList same
    rw [show (named (String.ofList (specimen (lower utmCampaign).toList))).name =
      String.ofList (specimen (lower utmCampaign).toList) from rfl, lower_specimen] at lists
    exact literal_lower.mp (literal_of_specimen_eq lists)

/-- The tenant's campaigns alone are returned, and a text is exact for exactly
these: not empty, and without a metacharacter of `LIKE` or with a NUL. -/
theorem resolveCampaignByUtm_exact_iff [CaseFold] (utmCampaign : String) :
    (ExactUpToCase utmCampaign ↔
      utmCampaign ≠ "" ∧ (nulFree utmCampaign = false ∨ ∀ c ∈ utmCampaign.toList, literalChar c = true)) ∧
    ∀ (campaigns : List Campaign) (tenantId id : Uuid),
      resolveCampaignByUtm campaigns tenantId (some utmCampaign) = .ok (some id) →
        ∃ c ∈ campaigns, c.id = id ∧ c.tenantId = tenantId := by
  refine ⟨⟨fun exact_ => ?_, ?_⟩, fun campaigns tenantId id resolved => resolveCampaignByUtm_tenant resolved⟩
  · have some_ : utmCampaign ≠ "" := by
      rintro rfl
      obtain ⟨id, found⟩ := (exact_ [named ""] 1 (by simp [named, nulFree])).whenever
        ⟨named "", List.mem_singleton_self _, rfl, rfl⟩
      cases found
    refine ⟨some_, ?_⟩
    cases free : nulFree utmCampaign with
    | false => exact Or.inl rfl
    | true => exact Or.inr (literal_of_exact some_ free exact_)
  · rintro ⟨some_, literal⟩
    cases free : nulFree utmCampaign with
    | false => exact exact_of_nul some_ free
    | true => exact exact_of_literal some_ free (literal.resolve_left (by simp [free]))

end Resolve

namespace Wildcards

local instance wildcardText : PyText := PyText.plain

local instance wildcardErrors : LikeErrors := ⟨fun _ _ => true⟩

/-- An underscore takes any letter, so that the event of one campaign goes to another. -/
theorem underscore_takes_any_letter :
    resolveCampaignByUtm [named "q1xsale"] 1 (some "q1_sale") = .ok (some 1) ∧ ¬ ExactUpToCase "q1_sale" := by
  have found : resolveCampaignByUtm [named "q1xsale"] 1 (some "q1_sale") = .ok (some 1) := by decide +kernel
  refine ⟨found, fun exact_ => ?_⟩
  obtain ⟨c, member, _, _, same⟩ := (exact_ [named "q1xsale"] 1 (by decide +kernel)).only 1 found
  rw [List.mem_singleton.mp member] at same
  exact absurd same (by decide +kernel)

end Wildcards

end WebAnalytics

end MarketingAgents
