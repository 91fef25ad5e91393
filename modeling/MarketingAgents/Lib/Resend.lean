import Mathlib.Data.List.Count
import Mathlib.Data.List.Range

namespace Lib

variable {α : Type*} {passing : α → Bool} {answers : Nat → α}

/-- The call at which a loop stops that calls again after a passing failure, `left` more times at most. -/
def lastCall (passing : α → Bool) (answers : Nat → α) : Nat → Nat → Nat
  | 0, made => made
  | left + 1, made => if passing (answers made) then lastCall passing answers left (made + 1) else made

theorem lastCall_bounds (left made : Nat) :
    made ≤ lastCall passing answers left made ∧ lastCall passing answers left made ≤ made + left := by
  induction left generalizing made with
  | zero => exact ⟨le_rfl, le_rfl⟩
  | succ left ih =>
    rw [lastCall]
    split
    · have later := ih (made + 1)
      omega
    · omega

/-- Each call before the last was answered with a passing failure. -/
theorem passing_of_lt_lastCall {left made i : Nat} (onward : made ≤ i) (early : i < lastCall passing answers left made) :
    passing (answers i) = true := by
  induction left generalizing made with
  | zero => exact absurd early (Nat.not_lt.mpr onward)
  | succ left ih =>
    rw [lastCall] at early
    split at early
    · rename_i failed
      rcases Nat.eq_or_lt_of_le onward with rfl | after
      · exact failed
      · exact ih after early
    · exact absurd early (Nat.not_lt.mpr onward)

/-- A loop that stops before its last try was answered with something else. -/
theorem settled_of_lastCall_lt {left made : Nat} (early : lastCall passing answers left made < made + left) :
    passing (answers (lastCall passing answers left made)) = false := by
  induction left generalizing made with
  | zero => exact absurd early (Nat.lt_irrefl made)
  | succ left ih =>
    rw [lastCall] at early ⊢
    split
    · rename_i failed
      rw [if_pos failed] at early
      exact ih (by omega)
    · rename_i settled
      exact Bool.eq_false_iff.mpr settled

/-- Where no call before the last has an effect that is answered with a passing failure, only the last can have one. -/
theorem countP_calls {effect : Nat → Bool} {left : Nat}
    (none : ∀ i < lastCall passing answers left 0, passing (answers i) = true → effect i = false) :
    (List.range (lastCall passing answers left 0 + 1)).countP effect =
      if effect (lastCall passing answers left 0) then 1 else 0 := by
  have before : (List.range (lastCall passing answers left 0)).countP effect = 0 := by
    refine List.countP_eq_zero.mpr fun i inside => ?_
    rw [none i (List.mem_range.mp inside) (passing_of_lt_lastCall (Nat.zero_le i) (List.mem_range.mp inside))]
    exact Bool.false_ne_true
  rw [List.range_succ, List.countP_append, before, Nat.zero_add, List.countP_singleton]

end Lib
