import Mathlib.Order.Nat

namespace Lib

variable {σ : Type*}

/-- A `while` loop: `step` is a pass of it, `none` where the loop is left. The
loop is `none` where it is still going after `fuel` looks at its condition. -/
def loop (step : σ → Option σ) : Nat → σ → Option σ
  | 0, _ => none
  | fuel + 1, s =>
    match step s with
    | none => some s
    | some next => loop step fuel next

variable {step : σ → Option σ} {s next : σ} {fuel : Nat}

theorem loop_left (left : step s = none) : loop step (fuel + 1) s = some s := by rw [loop, left]

theorem loop_pass (pass : step s = some next) : loop step (fuel + 1) s = loop step fuel next := by rw [loop, pass]

/-- The rule for a loop: under an invariant that each pass keeps while a measure
falls, the loop ends, in a state that has the invariant and that it is left in. -/
theorem loop_ends {I : σ → Prop} (measure : σ → Nat)
    (keep : ∀ s next, I s → step s = some next → I next ∧ measure next < measure s) (start : I s) :
    ∃ last, I last ∧ step last = none ∧ ∀ fuel, measure s < fuel → loop step fuel s = some last := by
  induction size : measure s using Nat.strongRecOn generalizing s with
  | ind size ih =>
    subst size
    cases pass : step s with
    | none =>
      refine ⟨s, start, pass, fun fuel enough => ?_⟩
      obtain ⟨less, rfl⟩ := Nat.exists_eq_succ_of_ne_zero (Nat.ne_of_gt (Nat.zero_lt_of_lt enough))
      exact loop_left pass
    | some next =>
      obtain ⟨kept, falls⟩ := keep s next start pass
      obtain ⟨last, holds, left, ends⟩ := ih (measure next) falls kept rfl
      refine ⟨last, holds, left, fun fuel enough => ?_⟩
      obtain ⟨less, rfl⟩ := Nat.exists_eq_succ_of_ne_zero (Nat.ne_of_gt (Nat.zero_lt_of_lt enough))
      rw [loop_pass pass]
      exact ends less (by omega)

end Lib
