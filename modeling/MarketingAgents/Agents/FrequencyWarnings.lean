import Mathlib.Data.List.Dedup
import MarketingAgents.Agents.Calendar
import MarketingAgents.Lib.Neighbours

namespace MarketingAgents

open Lib

/-- The JSON that `detect_frequency_warnings` stores on a touchpoint. -/
structure FrequencyWarning where
  capPerDays : Int
  limit : Nat
  countInWindow : Nat
deriving DecidableEq

/-- A `PlannedTouchpoint` with its audience and its warning. -/
structure AudienceTouchpoint extends PlannedTouchpoint where
  audienceId : Uuid
  frequencyWarning : Option FrequencyWarning := none
deriving DecidableEq

namespace FrequencyWarnings

/-- The touchpoints of an audience in the order of `sort(key=scheduled_at)`,
each with its place in the list that was passed. -/
def audienceTouches (touchpoints : List AudienceTouchpoint) (audienceId : Uuid) : List (AudienceTouchpoint × Nat) :=
  (touchpoints.zipIdx.filter (·.1.audienceId = audienceId)).insertionSort fun a b => a.1.scheduledAt ≤ b.1.scheduledAt

/-- `audience_touches[max(0, i - cap * 2) : i + cap * 2 + 1]`. -/
def slice (cap : Nat) (touches : List (AudienceTouchpoint × Nat)) (i : Nat) : List (AudienceTouchpoint × Nat) :=
  (touches.take (i + cap * 2 + 1)).drop (i - cap * 2)

/-- `in_window` of an anchor. -/
def inWindow (window : Int) (touches : List (AudienceTouchpoint × Nat)) (anchor : AudienceTouchpoint) :
    List (AudienceTouchpoint × Nat) :=
  touches.filter fun t => |t.1.scheduledAt - anchor.scheduledAt| < window

def warningOf (cap : Nat) (window : Int) (count : Nat) : Option FrequencyWarning :=
  if cap < count then some ⟨window / 86400000000, cap, count⟩ else none

/-- The loop over the touches of an audience: the places that get a warning.
`scanned` are the touches an anchor is compared with. -/
def anchorWarnings (scanned : List (AudienceTouchpoint × Nat) → Nat → List (AudienceTouchpoint × Nat)) (cap : Nat)
    (window : Int) (touches : List (AudienceTouchpoint × Nat)) : List (Nat × FrequencyWarning) :=
  touches.zipIdx.filterMap fun entry =>
    (warningOf cap window (inWindow window (scanned touches entry.2) entry.1.1).length).map (entry.1.2, ·)

def detectBy (scanned : List (AudienceTouchpoint × Nat) → Nat → List (AudienceTouchpoint × Nat))
    (touchpoints : List AudienceTouchpoint) (cap : Nat) (window : Int) : List AudienceTouchpoint :=
  let audiences := (touchpoints.map AudienceTouchpoint.audienceId).dedup
  let warned := audiences.flatMap fun audienceId => anchorWarnings scanned cap window (audienceTouches touchpoints audienceId)
  touchpoints.zipIdx.map fun entry =>
    { entry.1 with frequencyWarning := (warned.find? (·.1 = entry.2)).map Prod.snd }

/-- `detect_frequency_warnings`, with the list as it is afterwards. -/
def detectFrequencyWarnings (touchpoints : List AudienceTouchpoint) (cap : Nat) (window : Int) : List AudienceTouchpoint :=
  detectBy (slice cap) touchpoints cap window

/-- The same, with every anchor compared with all touches of its audience. -/
def detectByFullScan (touchpoints : List AudienceTouchpoint) (cap : Nat) (window : Int) : List AudienceTouchpoint :=
  detectBy (fun touches _ => touches) touchpoints cap window

/-- When the audience is touched. -/
def audienceTimes (touchpoints : List AudienceTouchpoint) (audienceId : Uuid) : List Int :=
  (touchpoints.filter (·.audienceId = audienceId)).map fun t => t.scheduledAt

section Places

variable {touchpoints : List AudienceTouchpoint} {audienceId : Uuid} {t : AudienceTouchpoint} {k : Nat}

theorem audienceTouches_perm (touchpoints : List AudienceTouchpoint) (audienceId : Uuid) :
    (audienceTouches touchpoints audienceId).Perm (touchpoints.zipIdx.filter (·.1.audienceId = audienceId)) :=
  List.perm_insertionSort _ _

theorem mem_audienceTouches : (t, k) ∈ audienceTouches touchpoints audienceId ↔
    touchpoints[k]? = some t ∧ t.audienceId = audienceId := by
  rw [(audienceTouches_perm touchpoints audienceId).mem_iff, List.mem_filter, List.mem_zipIdx_iff_getElem?]
  simp

theorem audienceTouches_places (touchpoints : List AudienceTouchpoint) (audienceId : Uuid) :
    ((audienceTouches touchpoints audienceId).map Prod.snd).Nodup := by
  have places : (touchpoints.zipIdx.map Prod.snd).Nodup := by
    rw [List.zipIdx_map_snd]
    exact List.nodup_range' 1
  exact ((audienceTouches_perm touchpoints audienceId).map _).nodup_iff.mpr (places.sublist (List.filter_sublist.map _))

theorem audienceTouches_sorted (touchpoints : List AudienceTouchpoint) (audienceId : Uuid) :
    ((audienceTouches touchpoints audienceId).map fun entry => entry.1.scheduledAt).Pairwise (· ≤ ·) := by
  rw [List.pairwise_map]
  have total : Std.Total fun a b : AudienceTouchpoint × Nat => a.1.scheduledAt ≤ b.1.scheduledAt :=
    ⟨fun a b => le_total a.1.scheduledAt b.1.scheduledAt⟩
  have trans : IsTrans (AudienceTouchpoint × Nat) fun a b => a.1.scheduledAt ≤ b.1.scheduledAt := ⟨fun _ _ _ => le_trans⟩
  exact List.pairwise_insertionSort _ _

theorem audienceTouches_times (touchpoints : List AudienceTouchpoint) (audienceId : Uuid) :
    ((audienceTouches touchpoints audienceId).map fun entry => entry.1.scheduledAt).Perm
      (audienceTimes touchpoints audienceId) := by
  refine ((audienceTouches_perm touchpoints audienceId).map _).trans (List.Perm.of_eq ?_)
  rw [audienceTimes, ← List.zipIdx_map_fst 0 touchpoints, List.filter_map, List.map_map, List.zipIdx_map_fst]
  rfl

end Places

section Scan

variable {scanned : List (AudienceTouchpoint × Nat) → Nat → List (AudienceTouchpoint × Nat)}
  {touchpoints : List AudienceTouchpoint} {cap : Nat} {window : Int} {t : AudienceTouchpoint} {k i : Nat}

/-- What each touchpoint carries afterwards, from its place among the touches of its audience. -/
theorem detectBy_at (scanned : List (AudienceTouchpoint × Nat) → Nat → List (AudienceTouchpoint × Nat))
    (place : (audienceTouches touchpoints t.audienceId)[i]? = some (t, k)) :
    (detectBy scanned touchpoints cap window)[k]? = some { t with
      frequencyWarning := warningOf cap window
        (inWindow window (scanned (audienceTouches touchpoints t.audienceId) i) t).length } := by
  have listed := (mem_audienceTouches.mp (List.mem_of_getElem? place)).1
  unfold detectBy
  simp only [List.getElem?_map, List.getElem?_zipIdx, listed, Option.map_some, Nat.zero_add]
  congr 2
  refine find?_snd_of_iff fun w => ?_
  simp only [List.mem_flatMap, anchorWarnings, List.mem_filterMap, Prod.exists, Option.map_eq_some_iff, Prod.mk.injEq,
    List.mem_dedup, List.mem_map, List.mem_zipIdx_iff_getElem?]
  constructor
  · rintro ⟨audienceId, _, t', k', j, there, w', warned, rfl, rfl⟩
    obtain ⟨same, audience⟩ := mem_audienceTouches.mp (List.mem_of_getElem? there)
    cases listed.symm.trans same
    subst audience
    have once := audienceTouches_places touchpoints t.audienceId
    obtain ⟨inside, _⟩ := List.getElem?_eq_some_iff.mp there
    have equal : j = i := (List.getElem?_inj (by simpa using inside) once).mp (by simp [there, place])
    rw [← equal]
    exact warned
  · intro warned
    exact ⟨t.audienceId, ⟨t, List.mem_of_getElem? listed, rfl⟩, t, k, i, place, w, warned, rfl, rfl⟩

theorem place_of_getElem? (listed : touchpoints[k]? = some t) :
    ∃ i : Nat, (audienceTouches touchpoints t.audienceId)[i]? = some (t, k) :=
  List.getElem?_of_mem (mem_audienceTouches.mpr ⟨listed, rfl⟩)

theorem detectBy_congr {other : List (AudienceTouchpoint × Nat) → Nat → List (AudienceTouchpoint × Nat)}
    (same : ∀ t k i, (audienceTouches touchpoints t.audienceId)[i]? = some (t, k) →
      warningOf cap window (inWindow window (scanned (audienceTouches touchpoints t.audienceId) i) t).length =
        warningOf cap window (inWindow window (other (audienceTouches touchpoints t.audienceId) i) t).length) :
    detectBy scanned touchpoints cap window = detectBy other touchpoints cap window := by
  refine List.ext_getElem? fun k => ?_
  cases listed : touchpoints[k]? with
  | none =>
    have short := List.getElem?_eq_none_iff.mp listed
    have none : ∀ scanned, (detectBy scanned touchpoints cap window)[k]? = none := fun scanned =>
      List.getElem?_eq_none_iff.mpr (by simpa [detectBy] using short)
    exact (none _).trans (none _).symm
  | some t =>
    obtain ⟨i, place⟩ := place_of_getElem? listed
    rw [detectBy_at scanned place, detectBy_at other place, same t k i place]

end Scan

section Counts

variable {touchpoints : List AudienceTouchpoint} {cap : Nat} {window : Int} {t : AudienceTouchpoint} {k i : Nat}

theorem inWindow_length (window : Int) (touches : List (AudienceTouchpoint × Nat)) (t : AudienceTouchpoint) :
    (inWindow window touches t).length = near window t.scheduledAt (touches.map fun entry => entry.1.scheduledAt) := by
  rw [near, List.countP_map, List.countP_eq_length_filter]
  rfl

/-- The times of the audience around a place. -/
theorem times_at {touches : List (AudienceTouchpoint × Nat)} (place : touches[i]? = some (t, k)) :
    ∃ before after, before.length = i ∧
      touches.map (fun entry => entry.1.scheduledAt) = before ++ t.scheduledAt :: after := by
  obtain ⟨bound, value⟩ := List.getElem?_eq_some_iff.mp place
  refine ⟨(touches.take i).map fun entry => entry.1.scheduledAt, (touches.drop (i + 1)).map fun entry => entry.1.scheduledAt,
    by simp [Nat.le_of_lt bound], ?_⟩
  have parts : touches = touches.take i ++ touches[i] :: touches.drop (i + 1) := by simp
  rw [value] at parts
  conv_lhs => rw [parts]
  rw [List.map_append, List.map_cons]

theorem slice_count (cap : Nat) (window : Int) (place : (audienceTouches touchpoints t.audienceId)[i]? = some (t, k)) :
    ∃ before after, before.length = i ∧
      (audienceTouches touchpoints t.audienceId).map (fun entry => entry.1.scheduledAt) =
        before ++ t.scheduledAt :: after ∧
      (inWindow window (slice cap (audienceTouches touchpoints t.audienceId) i) t).length =
        min (cap * 2) (near window t.scheduledAt before) + near window t.scheduledAt [t.scheduledAt] +
          min (cap * 2) (near window t.scheduledAt after) ∧
      (inWindow window (audienceTouches touchpoints t.audienceId) t).length =
        near window t.scheduledAt before + near window t.scheduledAt [t.scheduledAt] + near window t.scheduledAt after := by
  obtain ⟨before, after, length, times⟩ := times_at place
  have sorted := audienceTouches_sorted touchpoints t.audienceId
  rw [times] at sorted
  refine ⟨before, after, length, times, ?_, ?_⟩
  · rw [inWindow_length, slice, List.map_drop, List.map_take, times, ← length]
    exact near_slice sorted (cap * 2)
  · rw [inWindow_length, times]
    exact near_split

/-- The slice never hides that there are more than `cap` neighbours. -/
theorem slice_exceeds_iff (place : (audienceTouches touchpoints t.audienceId)[i]? = some (t, k)) :
    cap < (inWindow window (slice cap (audienceTouches touchpoints t.audienceId) i) t).length ↔
      cap < near window t.scheduledAt (audienceTimes touchpoints t.audienceId) := by
  obtain ⟨before, after, _, times, sliced, _⟩ := slice_count cap window place
  rw [← near_perm (audienceTouches_times touchpoints t.audienceId), times, near_split, sliced]
  by_cases positive : 0 < window
  · rw [near_self positive]
    omega
  · simp only [near_eq_zero (Int.not_lt.mp positive)]
    omega

theorem warningOf_isSome {count : Nat} : (warningOf cap window count).isSome ↔ cap < count := by
  unfold warningOf
  split <;> simp_all

/-- Two counts give one warning where they are equal or neither exceeds the cap. -/
theorem warningOf_congr {count other : Nat} :
    warningOf cap window count = warningOf cap window other ↔ count = other ∨ count ≤ cap ∧ other ≤ cap := by
  unfold warningOf
  split <;> split <;> simp <;> omega

/-- After the scan the touchpoint at the place carries a warning. -/
def Warned (touchpoints : List AudienceTouchpoint) (cap : Nat) (window : Int) (k : Nat) : Prop :=
  ∃ t ∈ (detectFrequencyWarnings touchpoints cap window)[k]?, t.frequencyWarning.isSome

/-- Some rolling period of length `window` contains the touchpoint and more
than `cap` touches of its audience. -/
def Crowded (touchpoints : List AudienceTouchpoint) (cap : Nat) (window : Int) (t : AudienceTouchpoint) : Prop :=
  ∃ opens, (opens ≤ t.scheduledAt ∧ t.scheduledAt < opens + window) ∧
    cap < occupancy window (audienceTimes touchpoints t.audienceId) opens

theorem warned_iff (listed : touchpoints[k]? = some t) : Warned touchpoints cap window k ↔
    cap < near window t.scheduledAt (audienceTimes touchpoints t.audienceId) := by
  obtain ⟨i, place⟩ := place_of_getElem? listed
  rw [Warned, detectFrequencyWarnings, detectBy_at (slice cap) place, ← slice_exceeds_iff place]
  simp [warningOf_isSome]

/-- A touch in a crowded period is always warned. -/
theorem Crowded.exceeds (crowded : Crowded touchpoints cap window t) :
    cap < near window t.scheduledAt (audienceTimes touchpoints t.audienceId) := by
  obtain ⟨opens, inside, many⟩ := crowded
  exact many.trans_le (occupancy_le_near inside)

/-- The warnings are those of the crowded periods exactly where no touch has
more than `cap` touches of its audience around it, before and after taken
together, without more than `cap` in one period. -/
theorem frequency_warnings_match_iff (touchpoints : List AudienceTouchpoint) (cap : Nat) (window : Int) :
    (∀ k t, touchpoints[k]? = some t → (Warned touchpoints cap window k ↔ Crowded touchpoints cap window t)) ↔
    ∀ t ∈ touchpoints, near window t.scheduledAt (audienceTimes touchpoints t.audienceId) ≤ cap ∨
      Crowded touchpoints cap window t := by
  constructor
  · intro matching t member
    obtain ⟨k, listed⟩ := List.getElem?_of_mem member
    have same := (warned_iff listed).symm.trans (matching k t listed)
    by_cases few : near window t.scheduledAt (audienceTimes touchpoints t.audienceId) ≤ cap
    · exact Or.inl few
    · exact Or.inr (same.mp (Nat.not_le.mp few))
  · intro each k t listed
    rw [warned_iff listed]
    refine ⟨fun exceeds => ?_, Crowded.exceeds⟩
    rcases each t (List.mem_of_getElem? listed) with few | crowded
    · exact absurd exceeds (Nat.not_lt.mpr few)
    · exact crowded

/-- One warning is the same under both scans where the slice leaves out no neighbour. -/
theorem warning_congr_iff (positive : 0 < window) (place : (audienceTouches touchpoints t.audienceId)[i]? = some (t, k)) :
    warningOf cap window (inWindow window (slice cap (audienceTouches touchpoints t.audienceId) i) t).length =
        warningOf cap window (inWindow window (audienceTouches touchpoints t.audienceId) t).length ↔
      ∃ before after, before.length = i ∧
        (audienceTouches touchpoints t.audienceId).map (fun entry => entry.1.scheduledAt) =
          before ++ t.scheduledAt :: after ∧
        near window t.scheduledAt before ≤ cap * 2 ∧ near window t.scheduledAt after ≤ cap * 2 := by
  obtain ⟨before, after, length, times, sliced, whole⟩ := slice_count cap window place
  rw [warningOf_congr, sliced, whole, near_self positive]
  constructor
  · intro same
    exact ⟨before, after, length, times, by omega, by omega⟩
  · rintro ⟨before', after', length', times', behind, ahead⟩
    obtain ⟨rfl, rest⟩ := List.append_inj (times.symm.trans times') (length.trans length'.symm)
    cases rest
    omega

/-- The slice changes no warning exactly where no rolling period of length
`window` holds more than `2 * cap + 1` touches of one audience. -/
theorem slice_is_full_scan_iff (touchpoints : List AudienceTouchpoint) (cap : Nat) (window : Int) :
    detectFrequencyWarnings touchpoints cap window = detectByFullScan touchpoints cap window ↔
      ∀ audienceId, Sparse window (cap * 2 + 1) (audienceTimes touchpoints audienceId) := by
  by_cases positive : 0 < window
  · constructor
    · intro same audienceId
      refine Sparse.perm ?_ (audienceTouches_times touchpoints audienceId)
      rw [sparse_iff_near positive (audienceTouches_sorted touchpoints audienceId)]
      intro before x after times
      have bound : before.length < (audienceTouches touchpoints audienceId).length := by
        have length := congrArg List.length times
        simp only [List.length_map, List.length_append, List.length_cons] at length
        omega
      obtain ⟨⟨t, k⟩, place⟩ : ∃ entry, (audienceTouches touchpoints audienceId)[before.length]? = some entry :=
        ⟨_, List.getElem?_eq_getElem bound⟩
      obtain ⟨listed, rfl⟩ := mem_audienceTouches.mp (List.mem_of_getElem? place)
      have equal := (detectBy_at (slice cap) place).symm.trans
        ((congrArg (·[k]?) same).trans (detectBy_at (fun touches _ => touches) place))
      have warning := congrArg (Option.bind · AudienceTouchpoint.frequencyWarning) equal
      obtain ⟨before', after', length', times', behind, ahead⟩ := (warning_congr_iff positive place).mp warning
      obtain ⟨rfl, rest⟩ := List.append_inj (times.symm.trans times') length'.symm
      cases rest
      exact ⟨behind, ahead⟩
    · intro sparse
      refine detectBy_congr fun t k i place => ?_
      have sides := (sparse_iff_near positive (audienceTouches_sorted touchpoints t.audienceId)).mp
        ((sparse t.audienceId).perm (audienceTouches_times touchpoints t.audienceId).symm)
      obtain ⟨before, after, length, times⟩ := times_at place
      obtain ⟨behind, ahead⟩ := sides before t.scheduledAt after times
      exact (warning_congr_iff positive place).mpr ⟨before, after, length, times, behind, ahead⟩
  · -- nothing is less than a window of no length away from anything
    have empty : window ≤ 0 := Int.not_lt.mp positive
    refine iff_of_true (detectBy_congr fun t k i _ => ?_) fun audienceId => .of_empty empty _ _
    simp only [inWindow_length, near_eq_zero empty]

end Counts

namespace Sample

/-- A touch of audience 1 at nine o'clock of a day. -/
def touch (day : Int) : AudienceTouchpoint :=
  { channelPlatform := "email", position := 0, scheduledAt := days day + 32400000000, audienceId := 1 }

/-- Three touches four days apart: no week holds more than two of them, and
the one in the middle is warned of three. -/
theorem middle_touch_is_warned :
    Warned [touch 0, touch 4, touch 8] 2 (days 7) 1 ∧ ¬ Crowded [touch 0, touch 4, touch 8] 2 (days 7) (touch 4) := by
  refine ⟨by unfold Warned; decide, ?_⟩
  have sparse : Sparse (days 7) 2 (audienceTimes [touch 0, touch 4, touch 8] 1) := sparse_iff_members.mpr (by decide)
  rintro ⟨opens, _, many⟩
  exact absurd (sparse opens) (Nat.not_le.mpr many)

/-- Of four touches at once under a cap of one, the first is said to be one of three. -/
theorem slice_counts_three_of_four :
    let touches := [touch 0, touch 0, touch 0, touch 0]
    (detectFrequencyWarnings touches 1 (days 7))[0]?.bind AudienceTouchpoint.frequencyWarning = some ⟨7, 1, 3⟩ ∧
    (detectByFullScan touches 1 (days 7))[0]?.bind AudienceTouchpoint.frequencyWarning = some ⟨7, 1, 4⟩ := by
  decide

end Sample

end FrequencyWarnings

end MarketingAgents
