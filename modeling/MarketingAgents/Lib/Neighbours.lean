import Mathlib.Algebra.Order.Group.Unbundled.Abs
import Mathlib.Algebra.Order.Group.Int
import MarketingAgents.Lib.Window

namespace Lib

/-- How many of the times are less than `len` away from `x`, on either side. -/
def near (len x : Int) (times : List Int) : Nat := times.countP fun time => |time - x| < len

variable {len x : Int} {limit : Nat} {times before after : List Int}

theorem near_append (first last : List Int) : near len x (first ++ last) = near len x first + near len x last :=
  List.countP_append ..

theorem near_self (positive : 0 < len) : near len x [x] = 1 := by simp [near, positive]

theorem near_eq_zero (empty : len ≤ 0) (x : Int) (times : List Int) : near len x times = 0 := by
  refine List.countP_eq_zero.mpr fun time _ within => ?_
  have apart := abs_nonneg (time - x)
  have close : |time - x| < len := of_decide_eq_true within
  omega

theorem near_perm {times' : List Int} (perm : times.Perm times') : near len x times = near len x times' := perm.countP_eq _

/-- What shares a window with `x` is less than its length away from `x`. -/
theorem occupancy_le_near {opens : Int} (inside : opens ≤ x ∧ x < opens + len) :
    occupancy len times opens ≤ near len x times := by
  refine List.countP_mono_left fun time _ within => ?_
  simp only [decide_eq_true_eq, abs_lt] at within ⊢
  omega

theorem near_split : near len x (before ++ x :: after) = near len x before + near len x [x] + near len x after := by
  rw [near_append, ← List.singleton_append, near_append, Nat.add_assoc]

section Split

variable (sorted : (before ++ x :: after).Pairwise (· ≤ ·))

include sorted

theorem before_le : ∀ time ∈ before, time ≤ x :=
  fun time member => (List.pairwise_append.mp sorted).2.2 time member x (List.mem_cons_self ..)

theorem le_after : ∀ time ∈ after, x ≤ time :=
  (List.pairwise_cons.mp (List.pairwise_append.mp sorted).2.1).1

theorem near_after_take (k : Nat) : near len x (after.take k) = min k (near len x after) := by
  have ordered := (List.pairwise_cons.mp (List.pairwise_append.mp sorted).2.1).2
  refine countP_take (ordered.imp_of_mem fun {a b} first _ step close => ?_) k
  have late := le_after sorted a first
  simp only [decide_eq_true_eq, abs_lt] at close ⊢
  omega

theorem near_before_drop (k : Nat) : near len x (before.drop (before.length - k)) = min k (near len x before) := by
  have ordered := (List.pairwise_append.mp sorted).1
  refine countP_drop (ordered.imp_of_mem fun {a b} _ last step close => ?_) k
  have early := before_le sorted b last
  simp only [decide_eq_true_eq, abs_lt] at close ⊢
  omega

/-- The neighbours within `k` places of `x`, of those on each side no more than `k`. -/
theorem near_slice (k : Nat) :
    near len x (((before ++ x :: after).take (before.length + k + 1)).drop (before.length - k)) =
      min k (near len x before) + near len x [x] + min k (near len x after) := by
  have taken : (before ++ x :: after).take (before.length + k + 1) = before ++ x :: after.take k := by
    rw [Nat.add_assoc, List.take_length_add_append, List.take_succ_cons]
  have dropped : (before ++ x :: after.take k).drop (before.length - k) =
      before.drop (before.length - k) ++ [x] ++ after.take k := by
    rw [List.drop_append_of_le_length (Nat.sub_le ..), List.append_assoc, List.singleton_append]
  rw [taken, dropped, near_append, near_append, near_before_drop sorted, near_after_take sorted]

theorem near_after_lt_occupancy (positive : 0 < len) : near len x after < occupancy len (before ++ x :: after) x := by
  have counted : near len x after ≤ occupancy len after x := by
    refine List.countP_mono_left fun time member close => ?_
    have late := le_after sorted time member
    simp only [decide_eq_true_eq, abs_lt] at close ⊢
    omega
  have here : occupancy len [x] x = 1 := by simp [occupancy, positive]
  rw [occupancy_append, ← List.singleton_append, occupancy_append]
  omega

theorem near_before_lt_occupancy (positive : 0 < len) :
    near len x before < occupancy len (before ++ x :: after) (x + 1 - len) := by
  have counted : near len x before ≤ occupancy len before (x + 1 - len) := by
    refine List.countP_mono_left fun time member close => ?_
    have early := before_le sorted time member
    simp only [decide_eq_true_eq, abs_lt] at close ⊢
    omega
  have here : occupancy len [x] (x + 1 - len) = 1 := by
    have within : x + 1 - len ≤ x ∧ x < x + 1 - len + len := by omega
    rw [occupancy, List.countP_singleton, if_pos (decide_eq_true within)]
  rw [occupancy_append, ← List.singleton_append, occupancy_append]
  omega

end Split

/-- Times in order are sparse where none has more than `limit` neighbours on either side. -/
theorem sparse_iff_near (positive : 0 < len) (sorted : times.Pairwise (· ≤ ·)) :
    Sparse len (limit + 1) times ↔ ∀ before x after, times = before ++ x :: after →
      near len x before ≤ limit ∧ near len x after ≤ limit := by
  constructor
  · rintro sparse before x after rfl
    have ahead := near_after_lt_occupancy sorted positive
    have behind := near_before_lt_occupancy sorted positive
    have first := sparse x
    have last := sparse (x + 1 - len)
    exact ⟨by omega, by omega⟩
  · intro sides
    rw [sparse_iff_members]
    intro x member
    -- at its first occurrence the times before `x` are earlier, and its window misses them
    obtain ⟨before, after, rfl, first⟩ := List.eq_append_cons_of_mem member
    obtain ⟨_, bound⟩ := sides before x after rfl
    have none : occupancy len before x = 0 := by
      refine List.countP_eq_zero.mpr fun time here within => first ?_
      have early := before_le sorted time here
      have late : x ≤ time ∧ time < x + len := of_decide_eq_true within
      have same : time = x := le_antisymm early late.1
      exact same ▸ here
    have counted : occupancy len after x ≤ near len x after := by
      refine List.countP_mono_left fun time _ within => ?_
      simp only [decide_eq_true_eq, abs_lt] at within ⊢
      omega
    have one : occupancy len [x] x ≤ 1 := List.countP_le_length
    rw [occupancy_append, ← List.singleton_append, occupancy_append]
    omega

end Lib
