import MarketingAgents.Agents.CalendarLayout

namespace MarketingAgents

open Lib PyText

section Spacing

variable {span : Int} {steps : Nat}

/-- The only whole number within a half is the rounded one. -/
theorem roundDiv_eq {n d r : Int} (above : 2 * n < 2 * (d * r) + d) (below : 2 * (d * r) < 2 * n + d) :
    roundDiv n d = r := by
  have positive : 0 < d := by linarith
  have nearest := roundDiv_nearest positive n
  have high : d * roundDiv n d < d * (r + 1) := by linarith [nearest.upper]
  have low : d * r < d * (roundDiv n d + 1) := by linarith [nearest.lower]
  have less := lt_of_mul_lt_mul_left high positive.le
  have more := lt_of_mul_lt_mul_left low positive.le
  omega

theorem roundDiv_spread (positive : 0 < steps) (span : Int) :
    Spread span steps fun i => roundDiv (i * span) steps :=
  fun i _ => roundDiv_nearest (by exact_mod_cast positive) _

/-- A month of thirty days in whole strides: the places round alike. -/
theorem stride_thirty (positive : 0 < steps) {apart : Nat} (even : (apart : Int) * span = 30 * steps) (i : Nat) :
    roundDiv ((i + apart : Nat) * span) steps - roundDiv (i * span) steps = 30 := by
  have moved : ((i + apart : Nat) : Int) * span = i * span + 30 * steps := by
    rw [← even]
    push_cast
    ring
  rw [moved, roundDiv_add_even (by exact_mod_cast positive) _ (by decide)]
  ring

/-- Fifteen days less a bit for two places: the odd places round down to seven days. -/
theorem stride_fifteen (half : 2 * span + 1 = 15 * steps) {i : Nat} (within : i ≤ steps) :
    roundDiv (i * span) steps = 15 * (i / 2) + 7 * (i % 2) := by
  have place : 2 * ((i : Int) * span) = 15 * (i * steps) - i := by
    have scaled : (i : Int) * (2 * span + 1) = i * (15 * steps) := by rw [half]
    linarith
  have parity := Int.mul_ediv_add_emod (i : Int) 2
  have rest : (i : Int) % 2 = 0 ∨ (i : Int) % 2 = 1 := by omega
  have inside : (i : Int) ≤ steps := by exact_mod_cast within
  rcases rest with even | odd
  · -- the number of steps is odd, so an even place is not the last
    have before : (i : Int) < steps := by omega
    have value : 2 * ((steps : Int) * (15 * (i / 2) + 7 * (i % 2))) = 15 * (i * steps) := by
      rw [even] at parity ⊢
      nlinarith [parity]
    refine roundDiv_eq ?_ ?_ <;> rw [place, value] <;> omega
  · have value : 2 * ((steps : Int) * (15 * (i / 2) + 7 * (i % 2))) = 15 * (i * steps) - steps := by
      rw [odd] at parity ⊢
      nlinarith [parity]
    refine roundDiv_eq ?_ ?_ <;> rw [place, value] <;> omega

/-- Touches no denser than two a fortnight keep a width of one, seven or thirty
days over `apart` of them exactly where that many strides and a day exceed it. -/
theorem spacing_iff (positive : 0 < steps) (weekly : 14 * (steps : Int) + 5 ≤ 2 * span) {width : Int} {apart : Nat}
    (window : width = 1 ∨ width = 7 ∨ width = 30) (some : 0 < apart) (fits : apart ≤ steps) :
    (∀ i : Nat, i + apart ≤ steps → width ≤ roundDiv ((i + apart : Nat) * span) steps - roundDiv (i * span) steps) ↔
      width * steps < apart * (span + 1) := by
  have spread := roundDiv_spread positive span
  have one : (1 : Int) ≤ apart := by exact_mod_cast some
  have size : (1 : Int) ≤ steps := by exact_mod_cast positive
  constructor
  · intro spaced
    by_contra short
    obtain ⟨i, within, less⟩ := spread.crowded some fits (not_lt.mp short)
    exact absurd (spaced i within) (not_le.mpr less)
  · intro room i within
    by_cases strict : width * steps < apart * span
    · exact spread.gap positive within strict
    -- within a day of the bound there is only the month
    have close := not_lt.mp strict
    have month : width = 30 := by
      have wide : span ≤ apart * span := by nlinarith
      rcases window with rfl | rfl | rfl
      · omega
      · omega
      · rfl
    subst month
    have few : apart ≤ 4 := by
      by_contra many
      have five : (5 : Int) ≤ apart := by omega
      have wide : 5 * span ≤ apart * span := mul_le_mul_of_nonneg_right five (by omega)
      omega
    rw [mul_add, mul_one] at room
    have exact_ : (apart : Int) * span = 30 * steps ∨ apart = 4 ∧ 2 * span + 1 = 15 * (steps : Int) := by
      have cases_ : apart = 1 ∨ apart = 2 ∨ apart = 3 ∨ apart = 4 := by omega
      rcases cases_ with rfl | rfl | rfl | rfl <;> omega
    rcases exact_ with even | ⟨rfl, half⟩
    · exact (stride_thirty positive even i).ge
    · rw [stride_fifteen half within, stride_fifteen half (by omega)]
      omega

end Spacing

/-- So many touches, spread over the campaign, keep to the rule: they are no more
than its limit, or the windows between them leave a day of room. -/
def HardCap.Fits (rule : HardCap) (duration : Int) (count : Nat) : Prop :=
  count ≤ rule.limit ∨ rule.windowDays * (count - 1) < rule.limit * duration

instance (rule : HardCap) (duration : Int) (count : Nat) : Decidable (rule.Fits duration count) :=
  inferInstanceAs (Decidable (_ ∨ _))

theorem hardCapWindow_values {per : String} {windowDays : Int} (window : hardCapWindow per = some windowDays) :
    windowDays = 1 ∨ windowDays = 7 ∨ windowDays = 30 := by
  unfold hardCapWindow at window
  split at window <;> cases window <;> decide

theorem offsetTimes_sorted {duration : Int} (long : 1 ≤ duration) (count : Nat) (startDate : Int) :
    ((dayOffsets count duration).map fun offset => nineOClock (startDate + offset)).Pairwise (· ≤ ·) := by
  refine List.pairwise_map.mpr ((dayOffsets_sorted long).imp fun le => ?_)
  unfold nineOClock days
  omega

theorem fits_iff (rule : HardCap) {duration : Int} (long : 1 ≤ duration) {count : Nat}
    (weekly : 2 ≤ count → 14 * (count : Int) ≤ 2 * duration + 7) (startDate : Int) :
    Sparse (days rule.windowDays) rule.limit
        ((dayOffsets count duration).map fun offset => nineOClock (startDate + offset)) ↔ rule.Fits duration count := by
  by_cases few : count ≤ rule.limit
  · refine iff_of_true (.of_length_le ?_) (Or.inl few)
    rw [List.length_map, dayOffsets_length]
    exact few
  · have positive := rule.positive
    have several : 2 ≤ count := by omega
    have weekly := weekly several
    obtain ⟨steps, rfl⟩ := Nat.exists_eq_add_of_le' (Nat.le_of_succ_le several)
    have cast : ((steps + 1 : Nat) : Int) - 1 = steps := by omega
    have spacing := spacing_iff (by omega : 0 < steps) (by omega : 14 * (steps : Int) + 5 ≤ 2 * (duration - 1))
      (hardCapWindow_values rule.window) positive (by omega)
    rw [sparse_iff_spaced (hardCapWindow_pos rule.window) (offsetTimes_sorted long _ startDate), HardCap.Fits,
      or_iff_right few, cast]
    rw [sub_add_cancel] at spacing
    rw [← spacing]
    simp only [dayOffsets_several several, List.length_map, List.length_range, List.getElem_map, List.getElem_range, cast]
    refine forall_congr' fun i => ?_
    unfold nineOClock days
    constructor
    · intro spaced within
      have apart := spaced (by omega)
      omega
    · intro spaced bound
      have apart := spaced (by omega)
      omega

/-- Touches for which the windows of the campaign have room, at most one a day. -/
theorem offsetTimes_sparse {duration windowDays : Int} (long : 1 ≤ duration) (window : 0 < windowDays) {limit count : Nat}
    (positive : 1 ≤ limit) (daily : (limit : Int) ≤ windowDays) (dense : count ≤ 1 ∨ windowDays * count ≤ limit * duration)
    (startDate : Int) : Sparse (days windowDays) limit
      ((dayOffsets count duration).map fun offset => nineOClock (startDate + offset)) := by
  by_cases several : 2 ≤ count
  · obtain ⟨steps, rfl⟩ := Nat.exists_eq_add_of_le' (Nat.le_of_succ_le several)
    have cast : ((steps + 1 : Nat) : Int) - 1 = steps := by omega
    have size : 0 < days windowDays := by
      unfold days
      omega
    have room : windowDays * ((steps : Int) + 1) ≤ limit * (duration - 1 + 1) := by
      rw [sub_add_cancel]
      exact_mod_cast dense.resolve_left (by omega)
    have spread := roundDiv_spread (by omega : 0 < steps) (duration - 1)
    rw [sparse_iff_spaced size (offsetTimes_sorted long _ startDate)]
    simp only [dayOffsets_several several, List.length_map, List.length_range, List.getElem_map, List.getElem_range, cast]
    intro i bound
    have gap := spread.gap_of_dense positive daily room (i := i) (by omega)
    unfold nineOClock days
    omega
  · refine .of_length_le ?_
    rw [List.length_map, dayOffsets_length]
    omega

theorem insertionSort_perm {times times' : List Int} (perm : times.Perm times') :
    times.insertionSort (· ≤ ·) = times'.insertionSort (· ≤ ·) :=
  (((List.perm_insertionSort _ times).trans perm).trans (List.perm_insertionSort _ times').symm).eq_of_pairwise'
    (List.pairwise_insertionSort _ _) (List.pairwise_insertionSort _ _)

/-- The check of a rule on the times of its platform's touches. -/
def breachAt (times : List Int) (rule : HardCap) : Option HardCapViolation :=
  let matching := times.insertionSort (· ≤ ·)
  if matching.length ≤ rule.limit then none
  else (firstBreach (days rule.windowDays) rule.limit matching).map fun found =>
    ⟨rule.platform, rule.per, rule.limit, found.2, found.1⟩

theorem breachAt_eq_none {times : List Int} {rule : HardCap} :
    breachAt times rule = none ↔ Sparse (days rule.windowDays) rule.limit times := by
  have sorted := List.pairwise_insertionSort (· ≤ ·) times
  have perm := List.perm_insertionSort (· ≤ ·) times
  have same : Sparse (days rule.windowDays) rule.limit (times.insertionSort (· ≤ ·)) ↔
      Sparse (days rule.windowDays) rule.limit times := ⟨fun sparse => sparse.perm perm, fun sparse => sparse.perm perm.symm⟩
  unfold breachAt
  by_cases few : (times.insertionSort (· ≤ ·)).length ≤ rule.limit
  · rw [if_pos few]
    exact iff_of_true rfl (same.mp (.of_length_le few))
  · rw [if_neg few, Option.map_eq_none_iff, firstBreach_eq_none, anchored_iff_sparse (hardCapWindow_pos rule.window) sorted,
      same]

theorem full_share {duration touches : Int} (below : touches ≤ roundDiv duration 7) : 14 * touches ≤ 2 * duration + 7 := by
  have nearest := (roundDiv_nearest (by decide : (0 : Int) < 7) duration).upper
  omega

section Rules

variable [PyText] {caps : List (Dict String Json)}

theorem enforceHardCaps_rules (touchpoints : List PlannedTouchpoint) (caps : List (Dict String Json)) :
    enforceHardCaps touchpoints caps = match (caps.filterMap hardCapOf).filterMap (breachOf touchpoints) with
      | [] => .ok ()
      | violations => .error (.hardCaps violations) := by
  rw [enforceHardCaps_eq, List.filterMap_filterMap]
  rfl

theorem touchCount_le {duration : Int} {platform : String} {touches : Int}
    (several : 2 ≤ touchCount caps duration platform touches) :
    (touchCount caps duration platform touches : Int) ≤ touches := by
  unfold touchCount at several ⊢
  split at several <;> omega

theorem touchCount_last {duration : Int} {platform : String} {cap : Dict String Json}
    (last : capByPlatform caps platform = some cap) (touches : Int) :
    touchCount caps duration platform touches = (max 1 (min (max 1 touches) (maxTouchesForCap cap duration))).toNat := by
  rw [touchCount, last]

theorem maxTouchesForCap_eq {cap : Dict String Json} {limit windowDays : Int} (limitIs : capLimit cap = some limit)
    (window : hardCapWindow (capPer cap) = some windowDays) (positive : 1 ≤ limit) (duration : Int) :
    maxTouchesForCap cap duration = max 1 (duration * limit / windowDays) := by
  have windows := hardCapWindow_values window
  unfold maxTouchesForCap
  rw [limitIs, window]
  dsimp only
  rw [if_neg (by omega), max_eq_right (by omega : 1 ≤ windowDays)]

/-- As many touches as the bound of a cap, evenly spread, keep it wherever a window
of it opens, as long as it allows no more than a touch a day. Where it allows more,
two touches may be rounded onto one day. -/
theorem distribute_keeps_cap {cap : Dict String Json} {limit windowDays : Int} (limitIs : capLimit cap = some limit)
    (window : hardCapWindow (capPer cap) = some windowDays) (positive : 1 ≤ limit) (daily : limit ≤ windowDays)
    {startDate endDate : Int} {count : Nat}
    (bounded : count ≤ maxTouchesForCap cap (durationDays startDate endDate)) (platform : String) (position opens : Int) :
    ((distribute count startDate endDate platform position).filter fun t =>
      opens ≤ t.scheduledAt ∧ t.scheduledAt < opens + days windowDays).length ≤ limit := by
  have windows := hardCapWindow_values window
  have long : 1 ≤ durationDays startDate endDate := le_max_left ..
  have size : 0 < windowDays := by omega
  obtain ⟨limit, rfl⟩ := Int.eq_ofNat_of_zero_le (by omega : 0 ≤ limit)
  rw [maxTouchesForCap_eq limitIs window positive] at bounded
  have dense : count ≤ 1 ∨ windowDays * count ≤ limit * durationDays startDate endDate := by
    rcases le_max_iff.mp bounded with one | few
    · exact Or.inl (by exact_mod_cast one)
    · right
      rw [mul_comm windowDays, mul_comm (limit : Int)]
      exact (Int.le_ediv_iff_mul_le size).mp few
  have sparse := offsetTimes_sparse long size (by omega) daily dense startDate opens
  rw [← @distribute_times count startDate endDate position platform, occupancy, List.countP_map,
    List.countP_eq_length_filter] at sparse
  exact_mod_cast sparse

/-- The rule that bounds the count fits: only another rule of the platform is ever broken. -/
theorem lastRule_fits {duration : Int} {platform : String} {cap : Dict String Json} {rule : HardCap}
    (last : capByPlatform caps platform = some cap) (read : hardCapOf cap = some rule) (touches : Int) :
    rule.Fits duration (touchCount caps duration platform touches) := by
  obtain ⟨_, perIs, limitIs⟩ := hardCapOf_some read
  have positive := rule.positive
  have size : 0 < rule.windowDays := by
    have windows := hardCapWindow_values rule.window
    omega
  have most := maxTouchesForCap_eq limitIs (perIs ▸ rule.window) (by omega) duration
  have bound := Int.ediv_mul_le (duration * rule.limit) size.ne'
  rw [HardCap.Fits, touchCount_last last, most]
  by_cases one : duration * rule.limit / rule.windowDays ≤ 1
  · left
    omega
  · right
    have few : ((max 1 (min (max 1 touches) (max 1 (duration * rule.limit / rule.windowDays)))).toNat : Int) ≤
        duration * rule.limit / rule.windowDays := by omega
    nlinarith

end Rules

section Checks

variable [PyText] [CalendarFloat] {payload : Dict String Json} {channels caps : List (Dict String Json)}
  {startDate endDate : Int}

/-- The check sees of a layout the times of each platform. -/
theorem breachOf_layOut {touches : List PlannedTouchpoint} (laid : layOut startDate endDate caps 0 channels = .ok touches)
    (rule : HardCap) : breachOf (touches.insertionSort plannedOrder) rule =
      breachAt (platformTimes caps startDate endDate channels rule.platform) rule := by
  have perm := ((List.perm_insertionSort plannedOrder touches).filter (·.channelPlatform = rule.platform)).map
    PlannedTouchpoint.scheduledAt
  rw [← layOut_times laid rule.platform]
  unfold breachOf breachAt matchingTimes
  rw [insertionSort_perm perm]

theorem generateCalendar_listed (listed : channelEntries payload = .ok channels) :
    generateCalendar payload startDate endDate caps = (do
      let touches ← layOut startDate endDate caps 0 channels
      let out := touches.insertionSort plannedOrder
      enforceHardCaps out caps
      pure out) := by
  unfold generateCalendar
  rw [listed]
  rfl

/-- Where no share raises, the calendar is the layout unless a rule is broken. -/
theorem generateCalendar_eq (listed : channelEntries payload = .ok channels) {touches : List PlannedTouchpoint}
    (laid : layOut startDate endDate caps 0 channels = .ok touches) :
    generateCalendar payload startDate endDate caps =
      match (caps.filterMap hardCapOf).filterMap fun rule =>
        breachAt (platformTimes caps startDate endDate channels rule.platform) rule with
      | [] => .ok (touches.insertionSort plannedOrder)
      | violations => .error (.hardCaps violations) := by
  have breaches : (caps.filterMap hardCapOf).filterMap (breachOf (touches.insertionSort plannedOrder)) =
      (caps.filterMap hardCapOf).filterMap fun rule =>
        breachAt (platformTimes caps startDate endDate channels rule.platform) rule :=
    List.filterMap_congr fun rule _ => breachOf_layOut laid rule
  rw [generateCalendar_listed listed, laid]
  show (do
    enforceHardCaps (touches.insertionSort plannedOrder) caps
    pure (touches.insertionSort plannedOrder)) = _
  rw [enforceHardCaps_rules, breaches]
  split <;> rfl

/-- `float` is monotone and the bounds of a share are whole: a share of a
hundred or less has no more touches than the full one, over any dates. -/
class WeeklyShares : Prop where
  weeklyTouches_le : ∀ text share duration, decimalOf text = some share → 0 < share → share ≤ 100 →
    0 < duration → duration ≤ 3652059 →
    ∃ touches, CalendarFloat.weeklyTouches text duration = .ok (some touches) ∧ touches ≤ roundDiv duration 7

/-- Of the channels with distinct platforms at most one is on a platform. -/
theorem platformTimes_distinct (caps : List (Dict String Json)) (startDate endDate : Int)
    (distinct : ((channels.map entryPlatform).filter (· ≠ "")).Nodup) {platform : String} (named : platform ≠ "") :
    (platformTimes caps startDate endDate channels platform = [] ∧
      ∀ channel ∈ channels, entryPlatform channel ≠ platform) ∨
    ∃ channel ∈ channels, entryPlatform channel = platform ∧
      platformTimes caps startDate endDate channels platform = channelTimes caps startDate endDate channel ∧
      ∀ other ∈ channels, entryPlatform other = platform → other = channel := by
  unfold platformTimes
  cases shape : channels.filter (entryPlatform · = platform) with
  | nil => exact Or.inl ⟨rfl, fun channel member same => List.filter_eq_nil_iff.mp shape channel member (decide_eq_true same)⟩
  | cons channel others =>
    have inside : ∀ other, other ∈ channel :: others ↔ other ∈ channels ∧ entryPlatform other = platform := by
      intro other
      rw [← shape, List.mem_filter, decide_eq_true_iff]
    have alone : others = [] := by
      have apart := (nodup_filter_map_iff.mp distinct).sublist (shape ▸ List.filter_sublist)
      refine List.eq_nil_iff_forall_not_mem.mpr fun other member => ?_
      have here := (inside channel).mp List.mem_cons_self
      have there := (inside other).mp (List.mem_cons_of_mem _ member)
      have unnamed := (List.pairwise_cons.mp apart).1 other member (here.2.trans there.2.symm)
      exact unnamed (decide_eq_true (here.2 ▸ named))
    subst alone
    obtain ⟨member, same⟩ := (inside channel).mp List.mem_cons_self
    refine Or.inr ⟨channel, member, same, List.flatMap_singleton .., fun other there onPlatform => ?_⟩
    exact List.mem_singleton.mp ((inside other).mpr ⟨there, onPlatform⟩)

/-- A calendar of channels with distinct platforms and positive shares of at
most a hundred is found exactly where every rule fits the touches of its
platform, as the platform's last rule bounds them. -/
theorem calendar_found_iff [WeeklyShares] (ordered : startDate ≤ endDate) (dates : endDate - startDate < 3652059)
    (listed : channelEntries payload = .ok channels)
    (distinct : ((channels.map entryPlatform).filter (· ≠ "")).Nodup)
    (shares : ∀ channel ∈ channels, ∃ share ∈ decimalOf (entryShare channel), 0 < share ∧ share ≤ 100)
    (caps : List (Dict String Json)) :
    (∃ out, generateCalendar payload startDate endDate caps = .ok out) ↔
      ∀ channel ∈ channels, ∀ touches,
        CalendarFloat.weeklyTouches (entryShare channel) (durationDays startDate endDate) = .ok (some touches) →
        ∀ rule ∈ caps.filterMap hardCapOf, rule.platform = entryPlatform channel →
          rule.Fits (durationDays startDate endDate)
            (touchCount caps (durationDays startDate endDate) (entryPlatform channel) touches) := by
  have duration := durationDays_eq ordered
  have weekly : ∀ channel ∈ channels, ∃ touches,
      CalendarFloat.weeklyTouches (entryShare channel) (durationDays startDate endDate) = .ok (some touches) ∧
        touches ≤ roundDiv (durationDays startDate endDate) 7 := by
    intro channel member
    obtain ⟨share, numeric, positive, most⟩ := shares channel member
    exact WeeklyShares.weeklyTouches_le _ share _ numeric positive most (by omega) (by omega)
  have laidOut : ∃ touches, layOut startDate endDate caps 0 channels = .ok touches := by
    refine layOut_total (fun channel member _ => ?_) 0
    obtain ⟨touches, counted, _⟩ := weekly channel member
    exact ⟨some touches, counted⟩
  obtain ⟨touches, laid⟩ := laidOut
  have found : (∃ out, generateCalendar payload startDate endDate caps = .ok out) ↔
      ∀ rule ∈ caps.filterMap hardCapOf, Sparse (days rule.windowDays) rule.limit
        (platformTimes caps startDate endDate channels rule.platform) := by
    rw [generateCalendar_eq listed laid]
    simp only [← breachAt_eq_none, ← List.filterMap_eq_nil_iff]
    split
    · rename_i none
      exact iff_of_true ⟨_, rfl⟩ none
    · rename_i some
      exact iff_of_false (fun ⟨_, found⟩ => nomatch found) some
  rw [found]
  -- each rule is about the one channel on its platform
  have each : ∀ channel ∈ channels, ∀ touches,
      CalendarFloat.weeklyTouches (entryShare channel) (durationDays startDate endDate) = .ok (some touches) →
      ∀ rule : HardCap, rule.platform = entryPlatform channel →
      (Sparse (days rule.windowDays) rule.limit (channelTimes caps startDate endDate channel) ↔
        rule.Fits (durationDays startDate endDate)
          (touchCount caps (durationDays startDate endDate) (entryPlatform channel) touches)) := by
    intro channel member touches counted rule same
    obtain ⟨touches', counted', most⟩ := weekly channel member
    cases counted.symm.trans counted'
    rw [channelTimes, if_neg (same ▸ rule.named), counted]
    refine fits_iff rule (by omega) (fun several => ?_) startDate
    have few := touchCount_le several
    have bound := full_share most
    omega
  constructor
  · intro sparse channel member touches counted rule listedRule same
    rcases platformTimes_distinct caps startDate endDate distinct rule.named with
      ⟨_, none⟩ | ⟨other, _, _, times, only⟩
    · exact absurd same.symm (none channel member)
    · rw [← only channel member same.symm] at times
      exact (each channel member touches counted rule same).mp (times ▸ sparse rule listedRule)
  · intro fits rule listedRule
    rcases platformTimes_distinct caps startDate endDate distinct rule.named with
      ⟨none, _⟩ | ⟨channel, member, same, times, _⟩
    · rw [none]
      exact Sparse.nil _ _
    · obtain ⟨touches, counted, _⟩ := weekly channel member
      rw [times]
      exact (each channel member touches counted rule same.symm).mpr
        (fits channel member touches counted rule listedRule same.symm)

end Checks

section Exact

variable [PyText] [CalendarFloat]

/-- Exact arithmetic gives no share more than the full one. -/
instance [ExactCalendar] : WeeklyShares where
  weeklyTouches_le text share duration numeric positive most long _ := by
    refine ⟨_, (ExactCalendar.weeklyTouches_eq text share duration numeric).trans
      (congrArg _ (if_neg (not_le.mpr positive))), ?_⟩
    have size : (0 : Int) < 700 * share.den := by
      have den := share.den_pos
      omega
    have portion : share.num ≤ 100 * share.den := by
      have bound := (Rat.le_iff share 100).mp most
      simpa using bound
    have part : share.num * duration ≤ 100 * share.den * duration := mul_le_mul_of_nonneg_right portion long.le
    have upper := (roundDiv_nearest size (share.num * duration)).upper
    have scaled : (share.den : Int) * (14 * roundDiv (share.num * duration) (700 * share.den)) ≤
        share.den * (2 * duration + 7) := by linarith
    have few := le_of_mul_le_mul_left scaled (by exact_mod_cast share.den_pos)
    have lower := (roundDiv_nearest (by decide : (0 : Int) < 7) duration).lower
    -- twice a week count is no half
    omega

end Exact

namespace Calendars

local instance capsText : PyText := PyText.plain

local instance capsFloat : CalendarFloat := CalendarFloat.plain

/-- A hard cap of a tenant. -/
def cap (platform per : String) (limit : Int) : Dict String Json :=
  [("platform", .str platform), ("per", .str per), ("limit", .int limit)]

/-- All of a proposal on one channel. -/
def emailOnly : Dict String Json := [("channels", .arr [channel "email" 100])]

/-- Three emails a week have room for twelve in four weeks. -/
theorem distribute_keeps_cap_weekly : maxTouchesForCap (cap "email" "week" 3) (durationDays 0 27) = 12 ∧
    ∀ opens, (((distribute 12 0 27 "email" 0).filter fun t =>
      opens ≤ t.scheduledAt ∧ t.scheduledAt < opens + days 7).length : Int) ≤ 3 := by
  have most : maxTouchesForCap (cap "email" "week" 3) (durationDays 0 27) = 12 := by decide +kernel
  have limitIs : capLimit (cap "email" "week" 3) = some 3 := by decide +kernel
  have window : hardCapWindow (capPer (cap "email" "week" 3)) = some 7 := by decide +kernel
  exact ⟨most, distribute_keeps_cap limitIs window (by decide) (by decide) most.ge "email" 0⟩

/-- Of two caps the last bounds the count, and the other one is broken, though
a calendar of one touch keeps both. -/
theorem first_cap_is_broken :
    (∃ violations, generateCalendar emailOnly 0 27 [cap "email" "month" 1, cap "email" "week" 5] =
      .error (.hardCaps violations)) ∧
    enforceHardCaps (distribute 1 0 27 "email" 0) [cap "email" "month" 1, cap "email" "week" 5] = .ok () :=
  ⟨⟨[⟨"email", "month", 1, 4, nineOClock 0⟩], by decide +kernel⟩, by decide +kernel⟩

/-- One cap on the platform bounds the count, and the calendar is found. -/
theorem calendar_found_iff_single : ∃ out, generateCalendar emailOnly 0 27 [cap "email" "month" 1] = .ok out := by
  have only : ∀ channel ∈ [[("platform", Json.str "email"), ("allocation_pct", .int 100)]],
      entryPlatform channel = "email" ∧ ∃ share ∈ decimalOf (entryShare channel), 0 < share ∧ share ≤ 100 := by
    decide +kernel
  refine (calendar_found_iff (by decide) (by decide) rfl (by decide +kernel) (fun channel member => (only channel member).2)
    [cap "email" "month" 1]).mpr fun channel member touches _ rule listed same => ?_
  obtain ⟨bound, here, read⟩ := List.mem_filterMap.mp listed
  rw [List.mem_singleton.mp here] at read
  rw [(only channel member).1]
  exact lastRule_fits (by decide +kernel) read touches

end Calendars

end MarketingAgents
