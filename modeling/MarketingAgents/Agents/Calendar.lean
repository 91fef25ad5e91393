import MarketingAgents.Db.Models
import MarketingAgents.Lib.Result
import MarketingAgents.Lib.Rows
import MarketingAgents.Lib.Window

namespace MarketingAgents

open Lib PyText

/-- What `generate_calendar` uses of Python's decimal and float arithmetic. -/
class CalendarFloat where
  /-- `int(round(float(Decimal(text)) / 100.0 * duration_days / 7.0))`, `none`
  where the share is no number or not positive; it raises on a NaN or an infinity. -/
  weeklyTouches : String → Int → Except Unit (Option Int)

/-- A row of `tenant_constraint`. -/
structure TenantConstraint where
  tenantId : Uuid
  kind : String
  payload : Dict String Json
deriving DecidableEq

def hardCapsOf (constraints : List TenantConstraint) (tenantId : Uuid) : List (Dict String Json) :=
  (constraints.filter fun c => c.tenantId = tenantId ∧ c.kind = "hard_cap").map TenantConstraint.payload

/-- One scheduled touch; the audience of a calendar is the same throughout. -/
structure PlannedTouchpoint where
  channelPlatform : String
  position : Int
  scheduledAt : Int
deriving DecidableEq

structure HardCapViolation where
  platform : String
  per : String
  limit : Nat
  observed : Nat
  windowStart : Int
deriving DecidableEq

/-- How a calendar fails: `CalendarSeedError`, `HardCapViolationError`, another
error of Python, or one of the database, which ends the transaction. -/
inductive CalendarError where
  | seed (message : String)
  | hardCaps (violations : List HardCapViolation)
  | raised
  | unstored
deriving DecidableEq

def days (n : Int) : Int := n * 86400000000

/-- `_HARD_CAP_WINDOWS`, in days. -/
def hardCapWindow : String → Option Int
  | "day" => some 1
  | "week" => some 7
  | "month" => some 30
  | _ => none

/-- A cap that the checks read: with a platform, a window and a positive limit. -/
structure HardCap where
  platform : String
  per : String
  windowDays : Int
  limit : Nat
  named : platform ≠ ""
  window : hardCapWindow per = some windowDays
  positive : 0 < limit

theorem hardCapWindow_pos {per : String} {windowDays : Int} (window : hardCapWindow per = some windowDays) :
    0 < days windowDays := by
  unfold hardCapWindow at window
  unfold days
  split at window <;> cases window <;> decide

section Calendar

variable [PyText]

def capPlatform (cap : Dict String Json) : String := lower (str ((cap.get? "platform").getD (.str "")))

def capPer (cap : Dict String Json) : String := lower (str ((cap.get? "per").getD (.str "")))

def capLimit (cap : Dict String Json) : Option Int := intOf ((cap.get? "limit").getD (.int 0))

/-- A rule as the checks read it, `none` where they pass over it. -/
def hardCapOf (cap : Dict String Json) : Option HardCap :=
  match capLimit cap with
  | none => none
  | some limit =>
    match window : hardCapWindow (capPer cap) with
    | none => none
    | some windowDays =>
      if valid : capPlatform cap ≠ "" ∧ 0 < limit then
        some ⟨capPlatform cap, capPer cap, windowDays, limit.toNat, valid.1, window, by omega⟩
      else none

def HardCapViolation.detail (v : HardCapViolation) : String :=
  v.platform ++ ": " ++ toString v.observed ++ " touches within " ++ v.per ++ " starting " ++
    isoformat v.windowStart ++ " (cap " ++ toString v.limit ++ ")"

/-- The times of the platform's touches, `sorted`. -/
def matchingTimes (touchpoints : List PlannedTouchpoint) (platform : String) : List Int :=
  ((touchpoints.filter (·.channelPlatform = platform)).map PlannedTouchpoint.scheduledAt).insertionSort (· ≤ ·)

/-- The first anchor whose window holds too many, with the count. -/
def firstBreach (len : Int) (limit : Nat) : List Int → Option (Int × Nat)
  | [] => none
  | anchor :: later =>
    if limit < reach len anchor later then some (anchor, reach len anchor later) else firstBreach len limit later

def breachOf (touchpoints : List PlannedTouchpoint) (cap : HardCap) : Option HardCapViolation :=
  let matching := matchingTimes touchpoints cap.platform
  if matching.length ≤ cap.limit then none
  else (firstBreach (days cap.windowDays) cap.limit matching).map fun found =>
    ⟨cap.platform, cap.per, cap.limit, found.2, found.1⟩

def enforceHardCaps (touchpoints : List PlannedTouchpoint) (hardCaps : List (Dict String Json)) :
    Except CalendarError Unit :=
  if hardCaps = [] ∨ touchpoints = [] then .ok ()
  else match (hardCaps.filterMap hardCapOf).filterMap (breachOf touchpoints) with
    | [] => .ok ()
    | violations => .error (.hardCaps violations)

/-- The rule `_index_hard_caps` keeps for a platform: the last one. -/
def capByPlatform (caps : List (Dict String Json)) (platform : String) : Option (Dict String Json) :=
  if platform = "" then none else (caps.filter (capPlatform · = platform)).getLast?

def maxTouchesForCap (cap : Dict String Json) (durationDays : Int) : Int :=
  match capLimit cap, hardCapWindow (capPer cap) with
  | some limit, some windowDays => if limit ≤ 0 then 0 else max 1 (durationDays * limit / max 1 windowDays)
  | _, _ => 0

def durationDays (startDate endDate : Int) : Int := max 1 (endDate - startDate + 1)

/-- `round(n / d)`, to the even neighbour of a half. -/
def roundDiv (n d : Int) : Int :=
  if 2 * (n % d) < d then n / d
  else if d < 2 * (n % d) then n / d + 1
  else if n / d % 2 = 0 then n / d else n / d + 1

/-- The days `_distribute` spreads the touches over. -/
def dayOffsets (count : Nat) (duration : Int) : List Int :=
  if count = 1 then [duration / 2]
  else (List.range count).map fun i => roundDiv (i * (duration - 1)) (count - 1)

/-- `_distribute`: every touch at nine o'clock of its day. -/
def distribute (count : Nat) (startDate endDate : Int) (platform : String) (positionStart : Int) :
    List PlannedTouchpoint :=
  (dayOffsets count (durationDays startDate endDate)).zipIdx.map fun entry =>
    { channelPlatform := platform
      position := positionStart + entry.2
      scheduledAt := days (startDate + entry.1) + 32400000000 }

/-- `payload.get("channels", [])`, as far as a loop finds dictionaries in it. -/
def channelEntries (payload : Dict String Json) : Except CalendarError (List (Dict String Json)) :=
  match payload.get? "channels" with
  | none => .ok []
  | some (.arr items) => .ok (items.filterMap Json.dict?)
  | some (.obj _) | some (.str _) => .ok []
  | some _ => .error .raised

variable [CalendarFloat]

/-- How many touches a channel gets; `none` passes over it. -/
def channelTouches (caps : List (Dict String Json)) (duration : Int) (platform : String) (channel : Dict String Json) :
    Except CalendarError (Option Nat) :=
  if platform = "" then .ok none
  else match CalendarFloat.weeklyTouches (str ((channel.get? "allocation_pct").getD (.int 0))) duration with
    | .error _ => .error .raised
    | .ok none => .ok none
    | .ok (some touches) =>
      let count := match capByPlatform caps platform with
        | some cap => min (max 1 touches) (maxTouchesForCap cap duration)
        | none => max 1 touches
      .ok (some (max 1 count).toNat)

/-- The loop over the channels; `position` is the cursor. -/
def layOut (startDate endDate : Int) (caps : List (Dict String Json)) :
    Int → List (Dict String Json) → Except CalendarError (List PlannedTouchpoint)
  | _, [] => .ok []
  | position, channel :: rest => do
    let platform := normalised (str ((channel.get? "platform").getD (.str "")))
    match ← channelTouches caps (durationDays startDate endDate) platform channel with
    | none => layOut startDate endDate caps position rest
    | some count =>
      let later ← layOut startDate endDate caps (position + count) rest
      pure (distribute count startDate endDate platform position ++ later)

/-- `key=lambda t: (t.scheduled_at, t.position)`. -/
def plannedOrder (a b : PlannedTouchpoint) : Prop :=
  a.scheduledAt < b.scheduledAt ∨ a.scheduledAt = b.scheduledAt ∧ a.position ≤ b.position

instance : DecidableRel plannedOrder := fun a b =>
  inferInstanceAs (Decidable (a.scheduledAt < b.scheduledAt ∨ a.scheduledAt = b.scheduledAt ∧ a.position ≤ b.position))

/-- `generate_calendar`: the touches of the channels in order, once they keep the caps. -/
def generateCalendar (payload : Dict String Json) (startDate endDate : Int) (hardCaps : List (Dict String Json)) :
    Except CalendarError (List PlannedTouchpoint) := do
  let channels ← channelEntries payload
  let touches ← layOut startDate endDate hardCaps 0 channels
  let out := touches.insertionSort plannedOrder
  enforceHardCaps out hardCaps
  pure out

end Calendar

/-- No half-open window of a rule's length holds more touches of its platform than its limit. -/
def MeetsCaps [PyText] (caps : List (Dict String Json)) (touchpoints : List PlannedTouchpoint) : Prop :=
  ∀ cap ∈ caps.filterMap hardCapOf, ∀ opens,
    (touchpoints.filter fun t => t.channelPlatform = cap.platform ∧ opens ≤ t.scheduledAt ∧
      t.scheduledAt < opens + days cap.windowDays).length ≤ cap.limit

section Checks

variable [PyText] {caps : List (Dict String Json)} {touchpoints : List PlannedTouchpoint}

omit [PyText] in
theorem firstBreach_eq_none {len : Int} {limit : Nat} {times : List Int} :
    firstBreach len limit times = none ↔ Anchored len limit times := by
  induction times with
  | nil => simp [firstBreach, Anchored]
  | cons anchor later ih =>
    unfold firstBreach Anchored
    by_cases breach : limit < reach len anchor later
    · rw [if_pos breach]
      exact iff_of_false (by simp) fun anchored => absurd anchored.1 (Nat.not_le.mpr breach)
    · rw [if_neg breach, ih]
      exact (and_iff_right (Nat.le_of_not_lt breach)).symm

omit [PyText] in
theorem occupancy_matchingTimes (touchpoints : List PlannedTouchpoint) (platform : String) (len opens : Int) :
    occupancy len (matchingTimes touchpoints platform) opens =
      (touchpoints.filter fun t => t.channelPlatform = platform ∧ opens ≤ t.scheduledAt ∧
        t.scheduledAt < opens + len).length := by
  have sorted := List.perm_insertionSort (· ≤ ·)
    ((touchpoints.filter (·.channelPlatform = platform)).map PlannedTouchpoint.scheduledAt)
  rw [occupancy, matchingTimes, sorted.countP_eq, List.countP_map, List.countP_filter, List.countP_eq_length_filter]
  refine congrArg List.length (List.filter_congr fun t _ => ?_)
  simp only [Function.comp_apply, Bool.decide_and, Bool.and_comm]

omit [PyText] in
/-- The check of one rule is exact: it finds a breach where there is one. -/
theorem breachOf_eq_none {cap : HardCap} : breachOf touchpoints cap = none ↔ ∀ opens,
    (touchpoints.filter fun t => t.channelPlatform = cap.platform ∧ opens ≤ t.scheduledAt ∧
      t.scheduledAt < opens + days cap.windowDays).length ≤ cap.limit := by
  have windows : Sparse (days cap.windowDays) cap.limit (matchingTimes touchpoints cap.platform) ↔ ∀ opens,
      (touchpoints.filter fun t => t.channelPlatform = cap.platform ∧ opens ≤ t.scheduledAt ∧
        t.scheduledAt < opens + days cap.windowDays).length ≤ cap.limit :=
    forall_congr' fun opens => by rw [occupancy_matchingTimes]
  rw [← windows]
  unfold breachOf
  by_cases few : (matchingTimes touchpoints cap.platform).length ≤ cap.limit
  · rw [if_pos few]
    exact iff_of_true rfl (.of_length_le few)
  · have sorted : (matchingTimes touchpoints cap.platform).Pairwise (· ≤ ·) := List.pairwise_insertionSort (· ≤ ·) _
    rw [if_neg few, Option.map_eq_none_iff, firstBreach_eq_none,
      anchored_iff_sparse (hardCapWindow_pos cap.window) sorted]

theorem enforceHardCaps_ok : enforceHardCaps touchpoints caps = .ok () ↔ MeetsCaps caps touchpoints := by
  have exact_ : (caps.filterMap hardCapOf).filterMap (breachOf touchpoints) = [] ↔ MeetsCaps caps touchpoints := by
    rw [List.filterMap_eq_nil_iff]
    exact forall₂_congr fun cap _ => breachOf_eq_none
  unfold enforceHardCaps
  by_cases trivial_ : caps = [] ∨ touchpoints = []
  · rw [if_pos trivial_]
    refine iff_of_true rfl ?_
    rcases trivial_ with rfl | rfl
    · exact fun cap member => by cases member
    · exact fun cap _ opens => Nat.zero_le _
  · rw [if_neg trivial_, ← exact_]
    split
    · rename_i none
      exact iff_of_true rfl none
    · rename_i found
      exact iff_of_false (by simp) found

theorem hardCapOf_some {cap : Dict String Json} {rule : HardCap} (read : hardCapOf cap = some rule) :
    capPlatform cap = rule.platform ∧ capPer cap = rule.per ∧ capLimit cap = some (rule.limit : Int) := by
  unfold hardCapOf at read
  split at read
  · cases read
  · rename_i limit limitIs
    split at read
    · cases read
    · split at read
      · rename_i valid
        cases read
        exact ⟨rfl, rfl, by rw [limitIs, Int.toNat_of_nonneg (le_of_lt valid.2)]⟩
      · cases read

theorem hardCapOf_exists {cap : Dict String Json} {limit windowDays : Int} (named : capPlatform cap ≠ "")
    (window : hardCapWindow (capPer cap) = some windowDays) (limitIs : capLimit cap = some limit)
    (positive : 1 ≤ limit) : ∃ rule, hardCapOf cap = some rule ∧ rule.windowDays = windowDays := by
  have valid : capPlatform cap ≠ "" ∧ 0 < limit := ⟨named, by omega⟩
  refine ⟨⟨capPlatform cap, capPer cap, windowDays, limit.toNat, named, window, by omega⟩, ?_, rfl⟩
  unfold hardCapOf
  split
  · rename_i none
    rw [limitIs] at none
    cases none
  · rename_i read
    cases limitIs.symm.trans read
    split
    · rename_i none
      rw [window] at none
      cases none
    · rename_i found
      cases window.symm.trans found
      rw [dif_pos valid]

omit [PyText] in
/-- The first anchor opens a window that holds exactly as many as were counted. -/
theorem firstBreach_some {len : Int} (positive : 0 < len) {limit count : Nat} {times : List Int} {anchor : Int}
    (sorted : times.Pairwise (· ≤ ·)) (found : firstBreach len limit times = some (anchor, count)) :
    anchor ∈ times ∧ limit < count ∧ occupancy len times anchor = count := by
  induction times with
  | nil => cases found
  | cons first later ih =>
    have ahead := reach_eq_occupancy positive sorted
    obtain ⟨before, ordered⟩ := List.pairwise_cons.mp sorted
    unfold firstBreach at found
    split at found
    · rename_i breach
      cases found
      exact ⟨List.mem_cons_self .., breach, ahead.symm⟩
    · rename_i fine
      obtain ⟨member, breach, counted⟩ := ih ordered found
      have after := before anchor member
      have step : occupancy len (first :: later) anchor =
          occupancy len later anchor + if anchor ≤ first ∧ first < anchor + len then 1 else 0 := by
        simp only [occupancy, List.countP_cons, decide_eq_true_eq]
      -- a time equal to the first one would have been found there
      have strict : ¬ anchor ≤ first := by
        intro notAfter
        have same : anchor = first := by omega
        subst same
        rw [if_pos (by omega)] at step
        omega
      rw [if_neg (fun within => strict within.1)] at step
      exact ⟨List.mem_cons_of_mem _ member, breach, by omega⟩

/-- How many touches of the platform lie in the window that opens at `opens`. -/
def windowTouches (touchpoints : List PlannedTouchpoint) (platform : String) (windowDays opens : Int) : Nat :=
  (touchpoints.filter fun t => t.channelPlatform = platform ∧ opens ≤ t.scheduledAt ∧
    t.scheduledAt < opens + days windowDays).length

/-- The rule has a platform, a known period and a limit of at least one, and
some half-open window of that period holds more touches of the platform. -/
def Breached (touchpoints : List PlannedTouchpoint) (cap : Dict String Json) : Prop :=
  capPlatform cap ≠ "" ∧ ∃ windowDays limit, hardCapWindow (capPer cap) = some windowDays ∧
    capLimit cap = some limit ∧ 1 ≤ limit ∧ ∃ opens, limit < windowTouches touchpoints (capPlatform cap) windowDays opens

/-- What an entry says of the rule it is raised for. -/
structure Reports (touchpoints : List PlannedTouchpoint) (cap : Dict String Json) (v : HardCapViolation) : Prop where
  platform : v.platform = capPlatform cap
  per : v.per = capPer cap
  limit : capLimit cap = some (v.limit : Int)
  above : v.limit < v.observed
  observed : ∃ windowDays, hardCapWindow (capPer cap) = some windowDays ∧
    windowTouches touchpoints (capPlatform cap) windowDays v.windowStart = v.observed

/-- The entry of a rule, when the loop appends one. -/
def violationOf (touchpoints : List PlannedTouchpoint) (cap : Dict String Json) : Option HardCapViolation :=
  (hardCapOf cap).bind (breachOf touchpoints)

theorem breached_iff {cap : Dict String Json} : Breached touchpoints cap ↔ (violationOf touchpoints cap).isSome := by
  unfold violationOf
  constructor
  · rintro ⟨named, windowDays, limit, window, limitIs, positive, opens, above⟩
    obtain ⟨rule, read, windowIs⟩ := hardCapOf_exists named window limitIs positive
    obtain ⟨platformIs, _, ruleLimit⟩ := hardCapOf_some read
    have same : limit = rule.limit := Option.some.inj (limitIs.symm.trans ruleLimit)
    rw [read, Option.bind_some, Option.isSome_iff_ne_none]
    intro none
    have fits := breachOf_eq_none.mp none opens
    rw [platformIs, ← windowIs, windowTouches] at above
    omega
  · intro found
    obtain ⟨v, found⟩ := Option.isSome_iff_exists.mp found
    obtain ⟨rule, read, breach⟩ := Option.bind_eq_some_iff.mp found
    obtain ⟨platformIs, perIs, limitIs⟩ := hardCapOf_some read
    have positive := rule.positive
    refine ⟨platformIs ▸ rule.named, rule.windowDays, rule.limit, perIs ▸ rule.window, limitIs, by omega, ?_⟩
    by_contra fits
    have none : breachOf touchpoints rule = none := breachOf_eq_none.mpr fun opens => by
      have within := not_exists.mp fits opens
      rw [platformIs, windowTouches] at within
      omega
    rw [none] at breach
    cases breach

instance decidableBreached (cap : Dict String Json) : Decidable (Breached touchpoints cap) :=
  decidable_of_iff' _ breached_iff

theorem violationOf_reports {cap : Dict String Json} {v : HardCapViolation}
    (found : violationOf touchpoints cap = some v) : Reports touchpoints cap v := by
  obtain ⟨rule, read, breach⟩ := Option.bind_eq_some_iff.mp found
  obtain ⟨platformIs, perIs, limitIs⟩ := hardCapOf_some read
  simp only [breachOf] at breach
  split at breach
  · cases breach
  · obtain ⟨⟨anchor, count⟩, first, rfl⟩ := Option.map_eq_some_iff.mp breach
    obtain ⟨_, above, counted⟩ := firstBreach_some (hardCapWindow_pos rule.window)
      (List.pairwise_insertionSort (· ≤ ·) _) first
    refine ⟨platformIs.symm, perIs.symm, limitIs, above, rule.windowDays, perIs ▸ rule.window, ?_⟩
    rw [platformIs, windowTouches, ← occupancy_matchingTimes]
    exact counted

theorem enforceHardCaps_eq (touchpoints : List PlannedTouchpoint) (caps : List (Dict String Json)) :
    enforceHardCaps touchpoints caps = match caps.filterMap (violationOf touchpoints) with
      | [] => .ok ()
      | violations => .error (.hardCaps violations) := by
  have whole : (caps.filterMap hardCapOf).filterMap (breachOf touchpoints) = caps.filterMap (violationOf touchpoints) :=
    List.filterMap_filterMap ..
  unfold enforceHardCaps
  by_cases trivial_ : caps = [] ∨ touchpoints = []
  · have fine : MeetsCaps caps touchpoints := by
      rcases trivial_ with rfl | rfl
      · exact fun cap member => by cases member
      · exact fun cap _ opens => Nat.zero_le _
    have none : caps.filterMap (violationOf touchpoints) = [] := by
      rw [← whole, List.filterMap_eq_nil_iff]
      exact fun cap member => breachOf_eq_none.mpr (fine cap member)
    rw [if_pos trivial_, none]
  · rw [if_neg trivial_, whole]

/-- The check raises exactly when a rule is breached, with one entry for each
breached rule, in the order of the rules. A breach may open anywhere; that the loop
looks at the windows which open at a touch alone loses none. -/
theorem enforceHardCaps_exact (touchpoints : List PlannedTouchpoint) (caps : List (Dict String Json)) :
    ((∃ violations, enforceHardCaps touchpoints caps = .error (.hardCaps violations)) ↔
      ∃ cap ∈ caps, Breached touchpoints cap) ∧
    ((∀ cap ∈ caps, ¬ Breached touchpoints cap) → enforceHardCaps touchpoints caps = .ok ()) ∧
    ∀ violations, enforceHardCaps touchpoints caps = .error (.hardCaps violations) →
      List.Forall₂ (Reports touchpoints) (caps.filter fun cap => Breached touchpoints cap) violations := by
  have entries : List.Forall₂ (fun cap v => violationOf touchpoints cap = some v)
      (caps.filter fun cap => Breached touchpoints cap) (caps.filterMap (violationOf touchpoints)) := by
    have same : (caps.filter fun cap => decide (Breached touchpoints cap)) =
        caps.filter fun cap => (violationOf touchpoints cap).isSome :=
      List.filter_congr fun cap _ => by simp only [breached_iff, Bool.decide_eq_true]
    rw [same]
    exact forall₂_filterMap _ caps
  rw [enforceHardCaps_eq]
  cases found : caps.filterMap (violationOf touchpoints) with
  | nil =>
    have none : ∀ cap ∈ caps, ¬ Breached touchpoints cap := by
      intro cap member breached
      have absent := List.filterMap_eq_nil_iff.mp found cap member
      rw [breached_iff, absent] at breached
      cases breached
    refine ⟨⟨by simp, ?_⟩, fun _ => rfl, by simp⟩
    rintro ⟨cap, member, breached⟩
    exact absurd breached (none cap member)
  | cons v rest =>
    obtain ⟨cap, member, value⟩ := List.mem_filterMap.mp (found ▸ List.mem_cons_self : v ∈ caps.filterMap _)
    have breached : Breached touchpoints cap := breached_iff.mpr (by rw [value]; rfl)
    refine ⟨⟨fun _ => ⟨cap, member, breached⟩, fun _ => ⟨v :: rest, rfl⟩⟩,
      fun none => absurd breached (none cap member), fun violations raised => ?_⟩
    cases raised
    rw [found] at entries
    exact entries.imp fun cap v reported => violationOf_reports reported

/-- What is generated keeps to the rules it was generated under. -/
theorem generateCalendar_meetsCaps [CalendarFloat] {payload : Dict String Json} {startDate endDate : Int}
    (done : generateCalendar payload startDate endDate caps = .ok touchpoints) : MeetsCaps caps touchpoints := by
  simp only [generateCalendar, bind_eq_ok, pure_eq_ok] at done
  obtain ⟨_, _, _, _, u, enforced, rfl⟩ := done
  exact enforceHardCaps_ok.mp enforced

end Checks

/-- Shares that are whole numbers in digits, counted exactly: all that the
closed runs of this development contain. -/
@[reducible] def CalendarFloat.plain : CalendarFloat where
  weeklyTouches text duration :=
    let share := text.toList.foldl (fun n c => 10 * n + (c.toNat - '0'.toNat)) 0
    .ok (if share = 0 then none else some (roundDiv (share * duration) 700))

end MarketingAgents
