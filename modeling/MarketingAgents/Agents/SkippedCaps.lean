import Mathlib.Algebra.Order.BigOperators.Group.List
import MarketingAgents.Agents.CalendarCaps

namespace MarketingAgents

open Lib PyText

section Reports

/-- An entry names its rule. -/
theorem breachAt_names {times times' : List Int} {rule rule' : HardCap} {v : HardCapViolation}
    (found : breachAt times rule = some v) (found' : breachAt times' rule' = some v) : rule = rule' := by
  have names : ∀ {times : List Int} {rule : HardCap}, breachAt times rule = some v →
      rule.platform = v.platform ∧ rule.per = v.per ∧ rule.limit = v.limit := by
    intro times rule found
    unfold breachAt at found
    dsimp only at found
    split at found
    · cases found
    · obtain ⟨_, _, rfl⟩ := Option.map_eq_some_iff.mp found
      exact ⟨rfl, rfl, rfl⟩
  obtain ⟨platform, per, limit⟩ := names found
  obtain ⟨platform', per', limit'⟩ := names found'
  have window : rule.windowDays = rule'.windowDays := by
    have known := rule.window
    rw [per, ← per', rule'.window] at known
    exact (Option.some.inj known).symm
  cases rule
  cases rule'
  cases platform.trans platform'.symm
  cases per.trans per'.symm
  cases limit.trans limit'.symm
  cases window
  rfl

/-- Two reports agree where they agree on every rule. -/
theorem reports_eq_iff {rules : List HardCap} {times times' : String → List Int} :
    rules.filterMap (fun rule => breachAt (times rule.platform) rule) =
        rules.filterMap (fun rule => breachAt (times' rule.platform) rule) ↔
      ∀ rule ∈ rules, breachAt (times rule.platform) rule = breachAt (times' rule.platform) rule := by
  have transfer : ∀ {times times' : String → List Int},
      rules.filterMap (fun rule => breachAt (times rule.platform) rule) =
        rules.filterMap (fun rule => breachAt (times' rule.platform) rule) →
      ∀ rule ∈ rules, ∀ v, breachAt (times rule.platform) rule = some v → breachAt (times' rule.platform) rule = some v := by
    intro times times' same rule member v found
    have entry : v ∈ rules.filterMap fun rule => breachAt (times' rule.platform) rule :=
      same ▸ List.mem_filterMap.mpr ⟨rule, member, found⟩
    obtain ⟨other, _, found'⟩ := List.mem_filterMap.mp entry
    rw [breachAt_names found found']
    exact found'
  refine ⟨fun same rule member => ?_, fun each => List.filterMap_congr each⟩
  cases found : breachAt (times rule.platform) rule with
  | some v => exact (transfer same rule member v found).symm
  | none =>
    cases found' : breachAt (times' rule.platform) rule with
    | none => rfl
    | some v =>
      have back := transfer same.symm rule member v found'
      rw [found] at back
      cases back

end Reports

section Kept

variable [PyText] {caps : List (Dict String Json)}

/-- The rules that the checks read. -/
def keptCaps (caps : List (Dict String Json)) : List (Dict String Json) := caps.filter fun cap => (hardCapOf cap).isSome

theorem keptCaps_rules (caps : List (Dict String Json)) : (keptCaps caps).filterMap hardCapOf = caps.filterMap hardCapOf := by
  rw [keptCaps, List.filterMap_filter]
  refine List.filterMap_congr fun cap _ => ?_
  cases hardCapOf cap <;> rfl

theorem capByPlatform_kept {platform : String} {cap : Dict String Json} (last : capByPlatform caps platform = some cap)
    (read : (hardCapOf cap).isSome) : capByPlatform (keptCaps caps) platform = some cap := by
  unfold capByPlatform keptCaps at *
  split at last
  · cases last
  · rename_i named
    obtain ⟨before, shape⟩ := List.getLast?_eq_some_iff.mp last
    have lone : [cap].filter (fun cap => (hardCapOf cap).isSome) = [cap] := List.filter_cons_of_pos read
    rw [if_neg named, List.filter_comm, shape, List.filter_append, lone, List.getLast?_append]
    rfl

theorem capByPlatform_kept_none {platform : String} (none : capByPlatform caps platform = none) :
    capByPlatform (keptCaps caps) platform = Option.none := by
  unfold capByPlatform keptCaps at *
  split at none
  · rename_i unnamed
    rw [if_pos unnamed]
  · rename_i named
    rw [if_neg named, List.filter_comm, List.getLast?_eq_none_iff.mp none]
    rfl

/-- A rule that the checks pass over bounds its platform to one touch. -/
theorem touchCount_skipped {duration : Int} {platform : String} {cap : Dict String Json}
    (last : capByPlatform caps platform = some cap) (skipped : hardCapOf cap = none) (touches : Int) :
    touchCount caps duration platform touches = 1 := by
  have named : capPlatform cap ≠ "" := by
    unfold capByPlatform at last
    split at last
    · cases last
    · rename_i named
      have member := List.mem_of_getLast? last
      rwa [of_decide_eq_true (List.mem_filter.mp member).2]
  have zero : maxTouchesForCap cap duration = 0 := by
    unfold maxTouchesForCap
    split
    · rename_i limit windowDays limitIs window
      by_cases positive : limit ≤ 0
      · exact if_pos positive
      · obtain ⟨rule, read, _⟩ := hardCapOf_exists named window limitIs (by omega)
        rw [skipped] at read
        cases read
    · rfl
  rw [touchCount_last last, zero]
  omega

theorem touchCount_pos (caps : List (Dict String Json)) (duration : Int) (platform : String) (touches : Int) :
    1 ≤ touchCount caps duration platform touches := by
  unfold touchCount
  omega

theorem touchCount_kept (caps : List (Dict String Json)) (duration : Int) (platform : String) (touches : Int) :
    touchCount caps duration platform touches ≤ touchCount (keptCaps caps) duration platform touches ∧
      (touchCount caps duration platform touches = touchCount (keptCaps caps) duration platform touches ↔
        ∀ cap ∈ capByPlatform caps platform, (hardCapOf cap).isSome ∨
          touchCount (keptCaps caps) duration platform touches = 1) := by
  cases last : capByPlatform caps platform with
  | none =>
    have same : touchCount caps duration platform touches = touchCount (keptCaps caps) duration platform touches := by
      rw [touchCount, touchCount, last, capByPlatform_kept_none last]
    exact ⟨same.le, iff_of_true same (by simp)⟩
  | some cap =>
    cases read : hardCapOf cap with
    | some rule =>
      have same : touchCount caps duration platform touches = touchCount (keptCaps caps) duration platform touches := by
        rw [touchCount_last last, touchCount_last (capByPlatform_kept last (by rw [read]; rfl))]
      exact ⟨same.le, iff_of_true same (by simp [read])⟩
    | none =>
      have one : touchCount caps duration platform touches = 1 := touchCount_skipped last read touches
      rw [one]
      refine ⟨touchCount_pos .., fun same cap _ => Or.inr same.symm, fun each => ?_⟩
      exact ((each cap rfl).resolve_left (by simp [read])).symm

end Kept

section Layouts

variable [PyText] [CalendarFloat] {payload : Dict String Json} {channels caps : List (Dict String Json)}
  {startDate endDate : Int}

theorem layOut_congr {caps' : List (Dict String Json)} (alike : ∀ channel ∈ channels,
      channelTouches caps (durationDays startDate endDate) (entryPlatform channel) channel =
        channelTouches caps' (durationDays startDate endDate) (entryPlatform channel) channel) (position : Int) :
    layOut startDate endDate caps position channels = layOut startDate endDate caps' position channels := by
  induction channels generalizing position with
  | nil => rfl
  | cons channel rest ih =>
    have later := ih fun other member => alike other (List.mem_cons_of_mem _ member)
    have here := alike channel List.mem_cons_self
    unfold entryPlatform at here
    simp only [layOut, here, later]

theorem layOut_length {position : Int} {touches : List PlannedTouchpoint}
    (laid : layOut startDate endDate caps position channels = .ok touches) :
    touches.length = (channels.map fun channel => (channelTimes caps startDate endDate channel).length).sum := by
  obtain ⟨blocks, contributed, rfl⟩ := layOut_contributions.mp laid
  have each := contributions_each contributed
  clear contributed laid
  rw [List.length_flatten]
  induction each with
  | nil => rfl
  | cons passed _ ih =>
    rw [List.map_cons, List.map_cons, List.sum_cons, List.sum_cons, ih, ← passed.times, List.length_map]

/-- The loop ends only where no share raises, and it raises as the share does. -/
theorem layOut_counted {position : Int} {touches : List PlannedTouchpoint}
    (laid : layOut startDate endDate caps position channels = .ok touches) :
    ∀ channel ∈ channels, entryPlatform channel ≠ "" →
      ∃ found, CalendarFloat.weeklyTouches (entryShare channel) (durationDays startDate endDate) = .ok found := by
  intro channel member named
  obtain ⟨blocks, contributed, _⟩ := layOut_contributions.mp laid
  obtain ⟨block, _, passed⟩ := forall₂_image (contributions_each contributed) member
  have found : ∃ found,
      channelTouches caps (durationDays startDate endDate) (entryPlatform channel) channel = .ok found := by
    cases passed with
    | skipped uncounted => exact ⟨none, uncounted⟩
    | @counted count _ counted => exact ⟨some count, counted⟩
  obtain ⟨found, counted⟩ := found
  rw [channelTouches_eq named] at counted
  split at counted
  · cases counted
  · rename_i weekly
    exact ⟨_, weekly⟩
  · rename_i weekly
    exact ⟨_, weekly⟩

theorem layOut_raised {position : Int} {error : CalendarError}
    (failed : layOut startDate endDate caps position channels = .error error) : error = .raised := by
  induction channels generalizing position with
  | nil => cases failed
  | cons channel rest ih =>
    rw [layOut] at failed
    rcases bind_eq_error.mp failed with here | ⟨found, _, later⟩
    · unfold channelTouches at here
      split at here
      · cases here
      · split at here <;> cases here
        rfl
    · cases found with
      | none => exact ih later
      | some count =>
        rcases bind_eq_error.mp later with below | ⟨_, _, impossible⟩
        · exact ih below
        · cases impossible

/-- The last rule of the channel's platform is one that the checks read, or the
channel has a single touch without it, too. -/
def CountedAlike (caps : List (Dict String Json)) (duration : Int) (channel : Dict String Json) : Prop :=
  ∀ touches, CalendarFloat.weeklyTouches (entryShare channel) duration = .ok (some touches) →
    ∀ cap ∈ capByPlatform caps (entryPlatform channel), (hardCapOf cap).isSome ∨
      touchCount (keptCaps caps) duration (entryPlatform channel) touches = 1

/-- A channel has no fewer touches without the rules that the checks pass over,
and as many exactly where it is counted alike. -/
theorem channelTimes_kept (caps : List (Dict String Json)) (startDate endDate : Int) (channel : Dict String Json) :
    (channelTimes caps startDate endDate channel).length ≤ (channelTimes (keptCaps caps) startDate endDate channel).length ∧
      ((channelTimes caps startDate endDate channel).length =
          (channelTimes (keptCaps caps) startDate endDate channel).length ↔
        CountedAlike caps (durationDays startDate endDate) channel) := by
  unfold channelTimes CountedAlike
  by_cases named : entryPlatform channel = ""
  · rw [if_pos named, if_pos named]
    refine ⟨le_rfl, iff_of_true rfl fun touches _ cap last => ?_⟩
    rw [capByPlatform, if_pos named] at last
    cases last
  · rw [if_neg named, if_neg named]
    split
    · rename_i touches weekly
      obtain ⟨less, same⟩ := touchCount_kept caps (durationDays startDate endDate) (entryPlatform channel) touches
      simp only [List.length_map, dayOffsets_length]
      refine ⟨less, same.trans ⟨fun alike touches' weekly' => ?_, fun alike => alike touches weekly⟩⟩
      cases weekly.symm.trans weekly'
      exact alike
    · rename_i uncounted
      exact ⟨le_rfl, iff_of_true rfl fun touches weekly => absurd weekly (uncounted touches)⟩

theorem channelTouches_alike {channel : Dict String Json} (alike : CountedAlike caps (durationDays startDate endDate) channel) :
    channelTouches caps (durationDays startDate endDate) (entryPlatform channel) channel =
      channelTouches (keptCaps caps) (durationDays startDate endDate) (entryPlatform channel) channel := by
  by_cases named : entryPlatform channel = ""
  · rw [channelTouches, channelTouches, if_pos named, if_pos named]
  · rw [channelTouches_eq named, channelTouches_eq named]
    split
    · rfl
    · rfl
    · rename_i touches weekly
      rw [(touchCount_kept caps _ _ touches).2.mpr (alike touches weekly)]

/-- A channel counted otherwise makes the layout shorter. -/
theorem layOut_shorter {touches touches' : List PlannedTouchpoint}
    (laid : layOut startDate endDate caps 0 channels = .ok touches)
    (laid' : layOut startDate endDate (keptCaps caps) 0 channels = .ok touches')
    (otherwise : ¬ ∀ channel ∈ channels, CountedAlike caps (durationDays startDate endDate) channel) :
    touches.length < touches'.length := by
  rw [layOut_length laid, layOut_length laid']
  refine List.sum_lt_sum _ _ (fun channel _ => (channelTimes_kept caps startDate endDate channel).1) ?_
  by_contra none
  refine otherwise fun channel member => (channelTimes_kept caps startDate endDate channel).2.mp ?_
  have notLess := fun less => none ⟨channel, member, less⟩
  exact (channelTimes_kept caps startDate endDate channel).1.antisymm (not_lt.mp notLess)

/-- A share that raises ends the call, whatever the rules. -/
theorem generateCalendar_raised (listed : channelEntries payload = .ok channels)
    (raises : ¬ ∀ channel ∈ channels, entryPlatform channel ≠ "" →
      ∃ found, CalendarFloat.weeklyTouches (entryShare channel) (durationDays startDate endDate) = .ok found)
    (caps : List (Dict String Json)) : generateCalendar payload startDate endDate caps = .error .raised := by
  have failed : layOut startDate endDate caps 0 channels = .error .raised := by
    cases laid : layOut startDate endDate caps 0 channels with
    | ok touches => exact absurd (layOut_counted laid) raises
    | error error => rw [layOut_raised laid]
  rw [generateCalendar_listed listed, failed]
  rfl

/-- Without the rules that the checks pass over a proposal leads to the same
outcome exactly where a share raises, or each channel is counted alike, or a
rule is broken and every rule is broken alike. -/
theorem skipped_caps_iff (payload : Dict String Json) (startDate endDate : Int) (caps : List (Dict String Json)) :
    generateCalendar payload startDate endDate caps = generateCalendar payload startDate endDate (keptCaps caps) ↔
      ∀ channels, channelEntries payload = .ok channels →
        (∀ channel ∈ channels, entryPlatform channel ≠ "" →
          ∃ found, CalendarFloat.weeklyTouches (entryShare channel) (durationDays startDate endDate) = .ok found) →
        (∀ channel ∈ channels, CountedAlike caps (durationDays startDate endDate) channel) ∨
          (∃ rule ∈ caps.filterMap hardCapOf,
            breachAt (platformTimes caps startDate endDate channels rule.platform) rule ≠ none) ∧
          ∀ rule ∈ caps.filterMap hardCapOf,
            breachAt (platformTimes caps startDate endDate channels rule.platform) rule =
              breachAt (platformTimes (keptCaps caps) startDate endDate channels rule.platform) rule := by
  cases listed : channelEntries payload with
  | error error =>
    refine iff_of_true ?_ (fun channels impossible => nomatch impossible)
    unfold generateCalendar
    rw [listed]
    rfl
  | ok channels =>
    simp only [Except.ok.injEq, forall_eq']
    by_cases counted : ∀ channel ∈ channels, entryPlatform channel ≠ "" →
        ∃ found, CalendarFloat.weeklyTouches (entryShare channel) (durationDays startDate endDate) = .ok found
    · have layouts : ∀ caps, ∃ touches, layOut startDate endDate caps 0 channels = .ok touches :=
        fun caps => layOut_total counted 0
      obtain ⟨touches, laid⟩ := layouts caps
      obtain ⟨touches', laid'⟩ := layouts (keptCaps caps)
      rw [generateCalendar_eq listed laid, generateCalendar_eq listed laid', keptCaps_rules, forall_prop_of_true counted]
      by_cases alike : ∀ channel ∈ channels, CountedAlike caps (durationDays startDate endDate) channel
      · -- the layouts are the same
        have layout := layOut_congr (fun channel member => channelTouches_alike (alike channel member)) 0
        have same : touches = touches' := Except.ok.inj (laid.symm.trans (layout.trans laid'))
        have times : ∀ platform, platformTimes (keptCaps caps) startDate endDate channels platform =
            platformTimes caps startDate endDate channels platform := by
          intro platform
          rw [← layOut_times laid, ← layOut_times laid', same]
        simp only [times, same, true_iff]
        exact Or.inl alike
      · -- the layouts differ in length, so only a report can be the same
        have shorter := layOut_shorter laid laid' alike
        have broken : (∃ rule ∈ caps.filterMap hardCapOf,
              breachAt (platformTimes caps startDate endDate channels rule.platform) rule ≠ none) ↔
            (caps.filterMap hardCapOf).filterMap (fun rule =>
              breachAt (platformTimes caps startDate endDate channels rule.platform) rule) ≠ [] := by
          rw [ne_eq, List.filterMap_eq_nil_iff]
          simp only [not_forall, exists_prop, ne_eq]
        rw [or_iff_right alike, broken, ← reports_eq_iff]
        split
        · rename_i fine
          refine iff_of_false (fun same => ?_) fun some => some.1 fine
          split at same
          · have lengths := congrArg List.length (Except.ok.inj same)
            rw [List.length_insertionSort, List.length_insertionSort] at lengths
            omega
          · cases same
        · rename_i some
          rw [and_iff_right some]
          split
          · rename_i fine
            refine iff_of_false (fun impossible => nomatch impossible) fun same => some (same.trans fine)
          · simp only [Except.error.injEq, CalendarError.hardCaps.injEq]
    · rw [generateCalendar_raised listed counted, generateCalendar_raised listed counted]
      exact iff_of_true rfl fun all => absurd all counted

end Layouts

namespace Calendars

local instance skippedText : PyText := PyText.plain

local instance skippedFloat : CalendarFloat := CalendarFloat.plain

/-- A cap with a period that the checks do not know thins four emails out to one. -/
theorem unknown_period_thins_out :
    generateCalendar emailOnly 0 27 [cap "email" "quarter" 9] ≠
        generateCalendar emailOnly 0 27 (keptCaps [cap "email" "quarter" 9]) ∧
      (generateCalendar emailOnly 0 27 [cap "email" "quarter" 9]).toOption.map List.length = some 1 ∧
      (generateCalendar emailOnly 0 27 (keptCaps [cap "email" "quarter" 9])).toOption.map List.length = some 4 := by
  decide +kernel

end Calendars

end MarketingAgents
