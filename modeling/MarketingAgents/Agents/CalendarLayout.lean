import MarketingAgents.Agents.Calendar
import MarketingAgents.Lib.Spread

namespace MarketingAgents

open Lib PyText

section Offsets

variable {n d : Int}

/-- `round(n / d)` is a nearest whole number. -/
theorem roundDiv_nearest (positive : 0 < d) (n : Int) : Nearest n d (roundDiv n d) := by
  have whole := Int.mul_ediv_add_emod n d
  have low := Int.emod_nonneg n positive.ne'
  have high := Int.emod_lt_of_pos n positive
  have above : d * (n / d + 1) = d * (n / d) + d := by ring
  unfold roundDiv
  split
  · constructor <;> linarith
  · split
    · constructor <;> rw [above] <;> linarith
    · split
      · constructor <;> linarith
      · constructor <;> rw [above] <;> linarith

/-- Halves go to the even neighbour, so rounding commutes with even shifts. -/
theorem roundDiv_add_even (positive : 0 < d) (n : Int) {k : Int} (even : k % 2 = 0) :
    roundDiv (n + k * d) d = roundDiv n d + k := by
  have quotient : (n + k * d) / d = n / d + k := Int.add_mul_ediv_right n k positive.ne'
  have rest : (n + k * d) % d = n % d := Int.add_mul_emod_self_right ..
  have parity : (n / d + k) % 2 = n / d % 2 := by omega
  unfold roundDiv
  rw [quotient, rest, parity]
  split
  · rfl
  · split
    · ring
    · split
      · rfl
      · ring

/-- Two touches or more are spread over the days of the campaign. -/
theorem dayOffsets_spread {count : Nat} (several : 2 ≤ count) (duration : Int) :
    Spread (duration - 1) (count - 1) (fun i => roundDiv (i * (duration - 1)) (count - 1)) := by
  intro i _
  have steps : ((count - 1 : Nat) : Int) = count - 1 := by omega
  rw [steps]
  exact roundDiv_nearest (by omega) _

theorem dayOffsets_several {count : Nat} (several : 2 ≤ count) (duration : Int) :
    dayOffsets count duration = (List.range count).map fun i : Nat => roundDiv (i * (duration - 1)) (count - 1) := by
  unfold dayOffsets
  have places : (do let i ← List.range count; pure (i : Int)) = (List.range count).map Nat.cast :=
    List.flatMap_pure_eq_map ..
  rw [if_neg (by omega), places, List.map_map]
  rfl

theorem dayOffsets_length (count : Nat) (duration : Int) : (dayOffsets count duration).length = count := by
  by_cases several : 2 ≤ count
  · rw [dayOffsets_several several, List.length_map, List.length_range]
  · unfold dayOffsets
    split
    · rename_i one
      rw [one]
      rfl
    · have none : count = 0 := by omega
      rw [none]
      rfl

/-- Every touch is on a day of the campaign. -/
theorem dayOffsets_within {count : Nat} {duration : Int} (long : 1 ≤ duration) :
    ∀ offset ∈ dayOffsets count duration, 0 ≤ offset ∧ offset < duration := by
  intro offset member
  by_cases several : 2 ≤ count
  · rw [dayOffsets_several several] at member
    obtain ⟨i, inside, rfl⟩ := List.mem_map.mp member
    have place := List.mem_range.mp inside
    have between := (dayOffsets_spread several duration).between (by omega) (by omega) (i := i) (by omega)
    omega
  · unfold dayOffsets at member
    split at member
    · rw [List.mem_singleton.mp member]
      omega
    · have none : count = 0 := by omega
      rw [none] at member
      simp at member

/-- The touches go forward through the days. -/
theorem dayOffsets_sorted {count : Nat} {duration : Int} (long : 1 ≤ duration) :
    (dayOffsets count duration).Pairwise (· ≤ ·) := by
  by_cases several : 2 ≤ count
  · rw [dayOffsets_several several, List.pairwise_map]
    refine List.pairwise_lt_range.imp_of_mem fun {i j} _ inside less => ?_
    have place := List.mem_range.mp inside
    exact (dayOffsets_spread several duration).mono (by omega) (by omega) less.le (by omega)
  · unfold dayOffsets
    split
    · exact List.pairwise_singleton ..
    · have none : count = 0 := by omega
      rw [none]
      exact List.Pairwise.nil

/-- A campaign with a day for every touch gives each a day of its own. -/
theorem dayOffsets_distinct {count : Nat} {duration : Int} (room : (count : Int) ≤ duration) :
    (dayOffsets count duration).Nodup := by
  by_cases several : 2 ≤ count
  · rw [dayOffsets_several several, List.nodup_iff_pairwise_ne, List.pairwise_map]
    refine List.pairwise_lt_range.imp_of_mem fun {i j} _ inside less => ?_
    have place := List.mem_range.mp inside
    exact ((dayOffsets_spread several duration).strictMono (by omega) less (by omega)).ne
  · unfold dayOffsets
    split
    · exact List.nodup_singleton _
    · have none : count = 0 := by omega
      rw [none]
      exact List.nodup_nil

/-- Of several touches the first is on the first day and the last on the last. -/
theorem dayOffsets_ends {count : Nat} (several : 2 ≤ count) (duration : Int) :
    (dayOffsets count duration).head? = some 0 ∧ (dayOffsets count duration).getLast? = some (duration - 1) := by
  have spread := dayOffsets_spread several duration
  have first := spread.first (by omega)
  have last := spread.last (by omega)
  obtain ⟨more, rfl⟩ := Nat.exists_eq_add_of_le' (Nat.le_of_succ_le several)
  rw [dayOffsets_several several]
  constructor
  · rw [List.head?_map, List.range_succ_eq_map, List.head?_cons, Option.map_some]
    exact congrArg some first
  · rw [List.getLast?_map, List.range_succ, List.getLast?_append, List.getLast?_singleton]
    exact congrArg some last

end Offsets

/-- Nine o'clock of a day. -/
def nineOClock (day : Int) : Int := days day + 32400000000

theorem nineOClock_injective : Function.Injective nineOClock := by
  intro day day' same
  unfold nineOClock days at same
  omega

theorem durationDays_eq {startDate endDate : Int} (ordered : startDate ≤ endDate) :
    durationDays startDate endDate = endDate - startDate + 1 := by
  unfold durationDays
  omega

section Blocks

variable {count : Nat} {startDate endDate positionStart : Int} {platform : String}

theorem distribute_times : (distribute count startDate endDate platform positionStart).map PlannedTouchpoint.scheduledAt =
    (dayOffsets count (durationDays startDate endDate)).map fun offset => nineOClock (startDate + offset) := by
  conv_rhs => rw [← List.zipIdx_map_fst 0 (dayOffsets count (durationDays startDate endDate)), List.map_map]
  rw [distribute, List.map_map]
  rfl

theorem distribute_positions : (distribute count startDate endDate platform positionStart).map PlannedTouchpoint.position =
    (List.range count).map fun i : Nat => positionStart + i := by
  have places : List.range count = (dayOffsets count (durationDays startDate endDate)).zipIdx.map Prod.snd := by
    rw [List.zipIdx_map_snd, dayOffsets_length, List.range_eq_range']
  rw [places, distribute, List.map_map, List.map_map]
  rfl

theorem distribute_length : (distribute count startDate endDate platform positionStart).length = count := by
  rw [distribute, List.length_map, List.length_zipIdx, dayOffsets_length]

theorem distribute_platform : ∀ t ∈ distribute count startDate endDate platform positionStart,
    t.channelPlatform = platform := by
  intro t member
  obtain ⟨entry, _, rfl⟩ := List.mem_map.mp member
  rfl

end Blocks

section Entries

variable [PyText]

def entryPlatform (channel : Dict String Json) : String :=
  normalised (str ((channel.get? "platform").getD (.str "")))

/-- `str(ch.get("allocation_pct", 0))`. -/
def entryShare (channel : Dict String Json) : String := str ((channel.get? "allocation_pct").getD (.int 0))

variable [CalendarFloat]

/-- What each pass of the loop over the channels appends. -/
def contributions (startDate endDate : Int) (caps : List (Dict String Json)) :
    Int → List (Dict String Json) → Except CalendarError (List (List PlannedTouchpoint))
  | _, [] => .ok []
  | position, channel :: rest => do
    match ← channelTouches caps (durationDays startDate endDate) (entryPlatform channel) channel with
    | none =>
      let later ← contributions startDate endDate caps position rest
      pure ([] :: later)
    | some count =>
      let later ← contributions startDate endDate caps (position + count) rest
      pure (distribute count startDate endDate (entryPlatform channel) position :: later)

/-- What a pass of the loop appends for the channel. -/
inductive Passed (startDate endDate : Int) (caps : List (Dict String Json)) (channel : Dict String Json) :
    List PlannedTouchpoint → Prop
  | skipped : channelTouches caps (durationDays startDate endDate) (entryPlatform channel) channel = .ok none →
      Passed startDate endDate caps channel []
  | counted {count : Nat} (position : Int) :
      channelTouches caps (durationDays startDate endDate) (entryPlatform channel) channel = .ok (some count) →
      Passed startDate endDate caps channel (distribute count startDate endDate (entryPlatform channel) position)

variable {startDate endDate : Int} {caps : List (Dict String Json)}

/-- A pass of the loop skips the channel or appends its touches, and goes on behind them. -/
theorem layOut_cons {position : Int} {channel : Dict String Json} {rest : List (Dict String Json)}
    {touches : List PlannedTouchpoint} :
    layOut startDate endDate caps position (channel :: rest) = .ok touches ↔
      (channelTouches caps (durationDays startDate endDate) (entryPlatform channel) channel = .ok none ∧
        layOut startDate endDate caps position rest = .ok touches) ∨
      ∃ count later, channelTouches caps (durationDays startDate endDate) (entryPlatform channel) channel = .ok (some count) ∧
        layOut startDate endDate caps (position + (count : Nat)) rest = .ok later ∧
          touches = distribute count startDate endDate (entryPlatform channel) position ++ later := by
  rw [layOut]
  simp only [bind_eq_ok]
  constructor
  · rintro ⟨found, counted, laid⟩
    cases found with
    | none => exact Or.inl ⟨counted, laid⟩
    | some count =>
      simp only [bind_eq_ok, pure_eq_ok] at laid
      obtain ⟨later, below, rfl⟩ := laid
      exact Or.inr ⟨count, later, counted, below, rfl⟩
  · rintro (⟨uncounted, laid⟩ | ⟨count, later, counted, below, rfl⟩)
    · exact ⟨none, uncounted, laid⟩
    · exact ⟨some count, counted, bind_eq_ok.mpr ⟨later, below, rfl⟩⟩

theorem contributions_cons {position : Int} {channel : Dict String Json} {rest : List (Dict String Json)}
    {blocks : List (List PlannedTouchpoint)} :
    contributions startDate endDate caps position (channel :: rest) = .ok blocks ↔
      (∃ later, channelTouches caps (durationDays startDate endDate) (entryPlatform channel) channel = .ok none ∧
        contributions startDate endDate caps position rest = .ok later ∧ blocks = [] :: later) ∨
      ∃ count later, channelTouches caps (durationDays startDate endDate) (entryPlatform channel) channel = .ok (some count) ∧
        contributions startDate endDate caps (position + (count : Nat)) rest = .ok later ∧
          blocks = distribute count startDate endDate (entryPlatform channel) position :: later := by
  rw [contributions]
  simp only [bind_eq_ok]
  constructor
  · rintro ⟨found, counted, contributed⟩
    cases found with
    | none =>
      simp only [bind_eq_ok, pure_eq_ok] at contributed
      obtain ⟨later, below, rfl⟩ := contributed
      exact Or.inl ⟨later, counted, below, rfl⟩
    | some count =>
      simp only [bind_eq_ok, pure_eq_ok] at contributed
      obtain ⟨later, below, rfl⟩ := contributed
      exact Or.inr ⟨count, later, counted, below, rfl⟩
  · rintro (⟨later, uncounted, below, rfl⟩ | ⟨count, later, counted, below, rfl⟩)
    · exact ⟨none, uncounted, bind_eq_ok.mpr ⟨later, below, rfl⟩⟩
    · exact ⟨some count, counted, bind_eq_ok.mpr ⟨later, below, rfl⟩⟩

theorem layOut_contributions {position : Int} {channels : List (Dict String Json)} {touches : List PlannedTouchpoint} :
    layOut startDate endDate caps position channels = .ok touches ↔
      ∃ blocks, contributions startDate endDate caps position channels = .ok blocks ∧ touches = blocks.flatten := by
  induction channels generalizing position touches with
  | nil =>
    simp only [layOut, contributions, Except.ok.injEq]
    constructor
    · rintro rfl
      exact ⟨[], rfl, rfl⟩
    · rintro ⟨_, rfl, rfl⟩
      rfl
  | cons channel rest ih =>
    simp only [layOut_cons, contributions_cons, ih]
    constructor
    · rintro (⟨uncounted, later, below, rfl⟩ | ⟨count, _, counted, ⟨later, below, rfl⟩, rfl⟩)
      · exact ⟨_, Or.inl ⟨later, uncounted, below, rfl⟩, rfl⟩
      · exact ⟨_, Or.inr ⟨count, later, counted, below, rfl⟩, rfl⟩
    · rintro ⟨_, ⟨later, uncounted, below, rfl⟩ | ⟨count, later, counted, below, rfl⟩, rfl⟩
      · exact Or.inl ⟨uncounted, later, below, rfl⟩
      · exact Or.inr ⟨count, _, counted, ⟨later, below, rfl⟩, rfl⟩

/-- Each block is the pass of its channel. -/
theorem contributions_each {position : Int} {channels : List (Dict String Json)} {blocks : List (List PlannedTouchpoint)}
    (done : contributions startDate endDate caps position channels = .ok blocks) :
    List.Forall₂ (Passed startDate endDate caps) channels blocks := by
  induction channels generalizing position blocks with
  | nil =>
    cases done
    exact .nil
  | cons channel rest ih =>
    rcases contributions_cons.mp done with ⟨later, uncounted, below, rfl⟩ | ⟨count, later, counted, below, rfl⟩
    · exact .cons (.skipped uncounted) (ih below)
    · exact .cons (.counted position counted) (ih below)

/-- The cursor numbers the touches through. -/
theorem contributions_positions {position : Int} {channels : List (Dict String Json)}
    {blocks : List (List PlannedTouchpoint)} (done : contributions startDate endDate caps position channels = .ok blocks) :
    blocks.flatten.map PlannedTouchpoint.position =
      (List.range blocks.flatten.length).map fun i : Nat => position + i := by
  induction channels generalizing position blocks with
  | nil =>
    cases done
    rfl
  | cons channel rest ih =>
    rcases contributions_cons.mp done with ⟨later, _, below, rfl⟩ | ⟨count, later, _, below, rfl⟩
    · rw [List.flatten_cons, List.nil_append]
      exact ih below
    · rw [List.flatten_cons, List.map_append, List.length_append, distribute_positions, distribute_length, ih below,
        List.range_add, List.map_append, List.map_map]
      refine congrArg _ (List.map_congr_left fun i _ => ?_)
      simp only [Function.comp_apply]
      push_cast
      ring

/-- How many touches a channel of so many touches a week gets, within the maximum of the platform's last rule. -/
def touchCount (caps : List (Dict String Json)) (duration : Int) (platform : String) (touches : Int) : Nat :=
  (max 1 (match capByPlatform caps platform with
    | some cap => min (max 1 touches) (maxTouchesForCap cap duration)
    | none => max 1 touches)).toNat

theorem channelTouches_eq {duration : Int} {platform : String} (named : platform ≠ "") (channel : Dict String Json) :
    channelTouches caps duration platform channel =
      match CalendarFloat.weeklyTouches (entryShare channel) duration with
      | .error _ => .error .raised
      | .ok none => .ok none
      | .ok (some touches) => .ok (some (touchCount caps duration platform touches)) := by
  unfold channelTouches
  rw [if_neg named]
  rfl

/-- The times of a channel's touches. -/
def channelTimes (caps : List (Dict String Json)) (startDate endDate : Int) (channel : Dict String Json) : List Int :=
  if entryPlatform channel = "" then []
  else match CalendarFloat.weeklyTouches (entryShare channel) (durationDays startDate endDate) with
    | .ok (some touches) =>
      (dayOffsets (touchCount caps (durationDays startDate endDate) (entryPlatform channel) touches)
        (durationDays startDate endDate)).map fun offset => nineOClock (startDate + offset)
    | _ => []

/-- The times of a platform's touches, channel by channel. -/
def platformTimes (caps : List (Dict String Json)) (startDate endDate : Int) (channels : List (Dict String Json))
    (platform : String) : List Int :=
  (channels.filter (entryPlatform · = platform)).flatMap (channelTimes caps startDate endDate)

theorem Passed.times {channel : Dict String Json} {block : List PlannedTouchpoint}
    (passed : Passed startDate endDate caps channel block) :
    block.map PlannedTouchpoint.scheduledAt = channelTimes caps startDate endDate channel := by
  unfold channelTimes
  by_cases named : entryPlatform channel = ""
  · rw [if_pos named]
    cases passed with
    | skipped => rfl
    | counted position counted =>
      rw [channelTouches, if_pos named] at counted
      cases counted
  · rw [if_neg named]
    cases passed with
    | skipped uncounted =>
      rw [channelTouches_eq named] at uncounted
      split at uncounted
      · cases uncounted
      · rename_i weekly
        rw [weekly]
        rfl
      · cases uncounted
    | counted position counted =>
      rw [channelTouches_eq named] at counted
      split at counted
      · cases counted
      · cases counted
      · rename_i touches weekly
        cases counted
        rw [weekly, distribute_times]

theorem Passed.platform {channel : Dict String Json} {block : List PlannedTouchpoint}
    (passed : Passed startDate endDate caps channel block) : ∀ t ∈ block, t.channelPlatform = entryPlatform channel := by
  cases passed with
  | skipped => simp
  | counted position counted => exact distribute_platform

/-- The touches of a platform are those of its channels. -/
theorem layOut_times {position : Int} {channels : List (Dict String Json)} {touches : List PlannedTouchpoint}
    (laid : layOut startDate endDate caps position channels = .ok touches) (platform : String) :
    (touches.filter (·.channelPlatform = platform)).map PlannedTouchpoint.scheduledAt =
      platformTimes caps startDate endDate channels platform := by
  obtain ⟨blocks, contributed, rfl⟩ := layOut_contributions.mp laid
  have each := contributions_each contributed
  clear contributed laid
  unfold platformTimes
  induction each with
  | nil => rfl
  | @cons channel block rest others passed _ ih =>
    rw [List.flatten_cons, List.filter_append, List.map_append]
    by_cases here : entryPlatform channel = platform
    · have whole : block.filter (·.channelPlatform = platform) = block :=
        List.filter_eq_self.mpr fun t member => decide_eq_true ((passed.platform t member).trans here)
      rw [whole, passed.times, List.filter_cons_of_pos (by simpa using here), List.flatMap_cons]
      exact congrArg _ ih
    · have none : block.filter (·.channelPlatform = platform) = [] :=
        List.filter_eq_nil_iff.mpr fun t member same =>
          here ((passed.platform t member).symm.trans (of_decide_eq_true same))
      rw [none, List.filter_cons_of_neg (by simpa using here)]
      exact ih

/-- The loop ends where no share raises. -/
theorem layOut_total {channels : List (Dict String Json)} (counted : ∀ channel ∈ channels, entryPlatform channel ≠ "" →
      ∃ found, CalendarFloat.weeklyTouches (entryShare channel) (durationDays startDate endDate) = .ok found)
    (position : Int) : ∃ touches, layOut startDate endDate caps position channels = .ok touches := by
  induction channels generalizing position with
  | nil => exact ⟨[], rfl⟩
  | cons channel rest ih =>
    have later := ih fun other member => counted other (List.mem_cons_of_mem _ member)
    have found : ∃ found,
        channelTouches caps (durationDays startDate endDate) (entryPlatform channel) channel = .ok found := by
      by_cases named : entryPlatform channel = ""
      · exact ⟨none, if_pos named⟩
      · obtain ⟨found, weekly⟩ := counted channel List.mem_cons_self named
        rw [channelTouches_eq named, weekly]
        cases found with
        | none => exact ⟨none, rfl⟩
        | some touches => exact ⟨some _, rfl⟩
    obtain ⟨found, here⟩ := found
    cases found with
    | none =>
      obtain ⟨touches, below⟩ := later position
      exact ⟨touches, layOut_cons.mpr (Or.inl ⟨here, below⟩)⟩
    | some count =>
      obtain ⟨touches, below⟩ := later (position + count)
      exact ⟨_, layOut_cons.mpr (Or.inr ⟨count, touches, here, below, rfl⟩)⟩

theorem channelTouches_pos {duration : Int} {platform : String} {channel : Dict String Json} {count : Nat}
    (counted : channelTouches caps duration platform channel = .ok (some count)) : 1 ≤ count := by
  unfold channelTouches at counted
  split at counted
  · cases counted
  · split at counted
    · cases counted
    · cases counted
    · simp only [Except.ok.injEq, Option.some.injEq] at counted
      rw [← counted]
      omega

/-- The weekly touches of a share in exact rational arithmetic. -/
class ExactCalendar : Prop where
  weeklyTouches_eq : ∀ text share duration, decimalOf text = some share →
    CalendarFloat.weeklyTouches text duration =
      .ok (if share ≤ 0 then none else some (roundDiv (share.num * duration) (700 * share.den)))

instance : Std.Total plannedOrder where
  total a b := by
    unfold plannedOrder
    omega

instance : IsTrans PlannedTouchpoint plannedOrder where
  trans a b c := by
    unfold plannedOrder
    omega

/-- What a channel contributes to a calendar. -/
structure Contribution (startDate endDate : Int) (channel : Dict String Json) (block : List PlannedTouchpoint) : Prop where
  touched : block ≠ [] ↔ entryPlatform channel ≠ "" ∧ ∃ share ∈ decimalOf (entryShare channel), 0 < share
  platform : ∀ t ∈ block, t.channelPlatform = entryPlatform channel
  ends : 2 ≤ block.length → block.head?.map PlannedTouchpoint.scheduledAt = some (nineOClock startDate) ∧
    block.getLast?.map PlannedTouchpoint.scheduledAt = some (nineOClock endDate)
  apart : (block.length : Int) ≤ endDate - startDate + 1 → (block.map PlannedTouchpoint.scheduledAt).Nodup

/-- What one channel adds to the calendar: its touches lie on the days of the
campaign, from the first to the last, and on days of their own where there are
enough. -/
theorem distribute_contribution [ExactCalendar] (ordered : startDate ≤ endDate) {channel : Dict String Json} {share : Rat}
    (numeric : decimalOf (entryShare channel) = some share) {count : Nat} {position : Int}
    (counted : channelTouches caps (durationDays startDate endDate) (entryPlatform channel) channel = .ok (some count)) :
    Contribution startDate endDate channel (distribute count startDate endDate (entryPlatform channel) position) where
  touched := by
    have some := channelTouches_pos counted
    refine iff_of_true (fun empty => ?_) ?_
    · have none := congrArg List.length empty
      rw [distribute_length, List.length_nil] at none
      omega
    · unfold channelTouches at counted
      split at counted
      · cases counted
      · rename_i named
        rw [← entryShare, ExactCalendar.weeklyTouches_eq _ _ _ numeric] at counted
        refine ⟨named, share, numeric, ?_⟩
        by_contra negative
        rw [if_pos (not_lt.mp negative)] at counted
        cases counted
  platform := distribute_platform
  ends := by
    intro several
    rw [distribute_length] at several
    obtain ⟨first, last⟩ := dayOffsets_ends several (durationDays startDate endDate)
    have final : startDate + (durationDays startDate endDate - 1) = endDate := by
      have long := durationDays_eq ordered
      omega
    rw [← List.head?_map, ← List.getLast?_map, distribute_times, List.head?_map, List.getLast?_map, first, last,
      Option.map_some, Option.map_some, final, add_zero]
    exact ⟨rfl, rfl⟩
  apart := by
    intro room
    rw [distribute_length] at room
    rw [distribute_times, durationDays_eq ordered]
    refine (dayOffsets_distinct room).map fun offset offset' same => ?_
    exact add_left_cancel (nineOClock_injective same)

theorem nil_contribution [ExactCalendar] {channel : Dict String Json} {share : Rat}
    (numeric : decimalOf (entryShare channel) = some share)
    (uncounted : channelTouches caps (durationDays startDate endDate) (entryPlatform channel) channel = .ok none) :
    Contribution startDate endDate channel [] where
  touched := by
    refine iff_of_false (fun some => some rfl) ?_
    rintro ⟨named, share', same, positive⟩
    cases numeric.symm.trans same
    unfold channelTouches at uncounted
    rw [if_neg named, ← entryShare, ExactCalendar.weeklyTouches_eq _ _ _ numeric, if_neg (not_le.mpr positive)] at uncounted
    cases uncounted
  platform := by simp
  ends := by simp
  apart := fun _ => List.nodup_nil

/-- A calendar is sorted and numbered through, at nine o'clock of its days. Each
channel with a platform and a share has a part in it, from the first day to the
last where it has several touches, and on days of their own where there are enough. -/
theorem calendar_layout [ExactCalendar] {payload : Dict String Json} {channels : List (Dict String Json)}
    {out : List PlannedTouchpoint} (ordered : startDate ≤ endDate) (listed : channelEntries payload = .ok channels)
    (numeric : ∀ channel ∈ channels, (decimalOf (entryShare channel)).isSome)
    (done : generateCalendar payload startDate endDate caps = .ok out) :
    (∀ t ∈ out, ∃ day, startDate ≤ day ∧ day ≤ endDate ∧ t.scheduledAt = nineOClock day) ∧
      out.Pairwise plannedOrder ∧
      (out.map PlannedTouchpoint.position).Perm ((List.range out.length).map Nat.cast) ∧
      ∃ blocks, contributions startDate endDate caps 0 channels = .ok blocks ∧ out.Perm blocks.flatten ∧
        List.Forall₂ (Contribution startDate endDate) channels blocks := by
  simp only [generateCalendar, bind_eq_ok, pure_eq_ok] at done
  obtain ⟨channels', found, touches, laid, _, _, rfl⟩ := done
  cases listed.symm.trans found
  obtain ⟨blocks, contributed, rfl⟩ := layOut_contributions.mp laid
  have perm := List.perm_insertionSort plannedOrder blocks.flatten
  have each := contributions_each contributed
  refine ⟨fun t member => ?_, List.pairwise_insertionSort plannedOrder _, ?_, blocks, contributed, perm, ?_⟩
  · obtain ⟨block, inside, here⟩ := List.mem_flatten.mp (perm.mem_iff.mp member)
    obtain ⟨channel, _, passed⟩ := forall₂_origin each inside
    cases passed with
    | skipped => cases here
    | counted position _ =>
      have time := List.mem_map_of_mem (f := PlannedTouchpoint.scheduledAt) here
      rw [distribute_times] at time
      obtain ⟨offset, listed, same⟩ := List.mem_map.mp time
      rw [durationDays_eq ordered] at listed
      have within := dayOffsets_within (by omega) offset listed
      exact ⟨startDate + offset, by omega, by omega, same.symm⟩
  · have positions := contributions_positions contributed
    simp only [zero_add] at positions
    rw [← perm.length_eq] at positions
    exact positions ▸ perm.map _
  · obtain ⟨length, pairs⟩ := List.forall₂_iff_get.mp each
    refine List.forall₂_iff_get.mpr ⟨length, fun i bound bound' => ?_⟩
    obtain ⟨share, isShare⟩ := Option.isSome_iff_exists.mp (numeric _ (List.get_mem channels ⟨i, bound⟩))
    have passed := pairs i bound bound'
    generalize blocks.get ⟨i, bound'⟩ = block at passed
    cases passed with
    | skipped uncounted => exact nil_contribution isShare uncounted
    | counted position counted => exact distribute_contribution ordered isShare counted

end Entries

namespace Calendars

local instance layoutText : PyText := PyText.plain

local instance layoutFloat : CalendarFloat := CalendarFloat.plain

instance : ExactCalendar where
  weeklyTouches_eq text share duration numeric := by
    have value : ((text.toList.foldl (fun n c => 10 * n + (c.toNat - '0'.toNat)) 0 : Nat) : Rat) = share :=
      Option.some.inj numeric
    rw [← value, Rat.num_natCast, Rat.den_natCast]
    show Except.ok _ = Except.ok _
    refine congrArg _ (if_congr ?_ rfl (by simp))
    simp

/-- A channel of a proposal. -/
def channel (platform : String) (share : Int) : Json := .obj [("platform", .str platform), ("allocation_pct", .int share)]

/-- Four weeks of one email a week, and two messages. -/
theorem calendar_layout_weeks :
    let payload := [("channels", Json.arr [channel "email" 100, channel "sms" 50, channel "push" 0])]
    ∃ out, generateCalendar payload 0 27 [] = .ok out ∧ out.length = 6 ∧ out.Pairwise plannedOrder ∧
      ∀ t ∈ out, ∃ day, 0 ≤ day ∧ day ≤ 27 ∧ t.scheduledAt = nineOClock day := by
  intro payload
  have read : ∃ out ∈ (generateCalendar payload 0 27 []).toOption, ∃ channels ∈ (channelEntries payload).toOption,
      out.length = 6 ∧ ∀ channel ∈ channels, (decimalOf (entryShare channel)).isSome := by decide +kernel
  obtain ⟨out, done, channels, listed, six, numeric⟩ := read
  obtain ⟨days, sorted, _⟩ := calendar_layout (by decide) (ok_of_mem listed) numeric (ok_of_mem done)
  exact ⟨out, ok_of_mem done, six, sorted, days⟩

end Calendars

end MarketingAgents
