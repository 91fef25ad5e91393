import Mathlib.Order.Nat
import MarketingAgents.Lib.Result

namespace Lib

universe u v

variable {ε : Type u} {α : Type v}

/-- The better of the best so far and the next: the next only if it costs less. -/
def cheaper (cost : α → Nat) (best : Option α) (next : α) : α :=
  match best with
  | some kept => if cost next < cost kept then next else kept
  | none => next

/-- Up to `left` more attempts, from the one numbered `made` on, until one costs
nothing. The result comes with the number of attempts made. -/
def attempts (f : Nat → Except ε α) (cost : α → Nat) : Nat → Nat → Option α → Except ε (Option α × Nat)
  | 0, made, best => .ok (best, made)
  | left + 1, made, best => do
    let next ← f made
    if cost next = 0 then pure (some next, made + 1)
    else attempts f cost left (made + 1) (some (cheaper cost best next))

/-- Of the first `n` attempts, those that return, the one numbered `i` costs least, and it is the earliest of these. -/
structure Cheapest (f : Nat → Except ε α) (cost : α → Nat) (n i : Nat) (a : α) : Prop where
  within : i < n
  returns : f i = .ok a
  least : ∀ j b, j < n → f j = .ok b → cost a ≤ cost b
  earliest : ∀ j b, j < i → f j = .ok b → cost a < cost b

/-- Every attempt returns that comes before one that costs nothing. -/
def Goes (f : Nat → Except ε α) (cost : α → Nat) (n : Nat) : Prop :=
  ∀ i < n, (∀ j < i, ∀ b, f j = .ok b → cost b ≠ 0) → ∃ a, f i = .ok a

variable {f : Nat → Except ε α} {cost : α → Nat} {n made : Nat}

theorem Cheapest.unique {i j : Nat} {a b : α} (left : Cheapest f cost n i a) (right : Cheapest f cost n j b) :
    i = j ∧ a = b := by
  have one : i = j := by
    rcases Nat.lt_trichotomy i j with before | same | after
    · exact absurd (left.least j b right.within right.returns) (Nat.not_le.mpr (right.earliest i a before left.returns))
    · exact same
    · exact absurd (right.least i a left.within left.returns) (Nat.not_le.mpr (left.earliest j b after right.returns))
  subst one
  exact ⟨rfl, Except.ok.inj (left.returns.symm.trans right.returns)⟩

/-- An attempt that costs nothing is the cheapest if those before it cost something. -/
theorem cheapest_of_free {i : Nat} {a : α} (within : i < n) (returns : f i = .ok a) (free : cost a = 0)
    (before : ∀ j < i, ∀ b, f j = .ok b → cost b ≠ 0) : Cheapest f cost n i a where
  within := within
  returns := returns
  least _ _ _ _ := free ▸ Nat.zero_le _
  earliest j b early made := free ▸ Nat.pos_of_ne_zero (before j early b made)

/-- The best so far: none before the first attempt, then the cheapest of those made. -/
def BestSoFar (f : Nat → Except ε α) (cost : α → Nat) (made : Nat) : Option α → Prop
  | none => made = 0
  | some kept => ∃ i, Cheapest f cost made i kept

theorem BestSoFar.next {best : Option α} (held : BestSoFar f cost made best) {a : α} (returns : f made = .ok a) :
    BestSoFar f cost (made + 1) (some (cheaper cost best a)) := by
  cases best with
  | none =>
    cases held
    refine ⟨0, Nat.zero_lt_one, returns, fun j b within other => ?_, fun j b early => absurd early (Nat.not_lt_zero j)⟩
    cases Nat.lt_one_iff.mp within
    cases Except.ok.inj (returns.symm.trans other)
    exact le_rfl
  | some kept =>
    obtain ⟨i, cheapest⟩ := held
    simp only [BestSoFar, cheaper]
    split
    · rename_i better
      refine ⟨made, Nat.lt_succ_self made, returns, fun j b within other => ?_, fun j b early other => ?_⟩
      · rcases Nat.lt_succ_iff_lt_or_eq.mp within with early | rfl
        · exact better.le.trans (cheapest.least j b early other)
        · cases Except.ok.inj (returns.symm.trans other)
          exact le_rfl
      · exact better.trans_le (cheapest.least j b early other)
    · rename_i worse
      refine ⟨i, Nat.lt_succ_of_lt cheapest.within, cheapest.returns, fun j b within other => ?_, cheapest.earliest⟩
      rcases Nat.lt_succ_iff_lt_or_eq.mp within with early | rfl
      · exact cheapest.least j b early other
      · cases Except.ok.inj (returns.symm.trans other)
        exact Nat.le_of_not_lt worse

/-- What the loop returns is the cheapest attempt of all. -/
theorem attempts_cheapest {left last : Nat} {best result : Option α} (sofar : BestSoFar f cost made best)
    (costly : ∀ j < made, ∀ b, f j = .ok b → cost b ≠ 0) (done : attempts f cost left made best = .ok (result, last)) :
    BestSoFar f cost (made + left) result := by
  induction left generalizing made best with
  | zero =>
    cases Except.ok.inj done
    exact sofar
  | succ left ih =>
    rw [attempts, bind_eq_ok] at done
    obtain ⟨next, returns, rest⟩ := done
    split at rest
    · rename_i free
      rw [pure_eq_ok] at rest
      cases rest
      exact ⟨made, cheapest_of_free (by omega) returns free costly⟩
    · rename_i costs
      have later := ih (sofar.next returns) (fun j early b other => ?_) rest
      · rwa [Nat.add_right_comm] at later
      · rcases Nat.lt_succ_iff_lt_or_eq.mp early with before | rfl
        · exact costly j before b other
        · cases Except.ok.inj (returns.symm.trans other)
          exact costs

/-- The loop fails with the error of an attempt before which none is free. -/
theorem attempts_error {left : Nat} {best : Option α} {error : ε}
    (failed : attempts f cost left made best = .error error) :
    ∃ i, made ≤ i ∧ i < made + left ∧ f i = .error error ∧ ∀ j < i, made ≤ j → ∃ b, f j = .ok b ∧ cost b ≠ 0 := by
  induction left generalizing made best with
  | zero => cases failed
  | succ left ih =>
    rw [attempts, bind_eq_error] at failed
    rcases failed with here | ⟨next, returns, rest⟩
    · exact ⟨made, le_rfl, by omega, here, fun j early onward => absurd early (by omega)⟩
    · split at rest
      · cases rest
      · rename_i costs
        obtain ⟨i, onward, within, fails, before⟩ := ih rest
        refine ⟨i, by omega, by omega, fails, fun j early late => ?_⟩
        rcases Nat.eq_or_lt_of_le late with rfl | after
        · exact ⟨next, returns, costs⟩
        · exact before j early after

/-- Attempts from the start give the cheapest one, unless one of them fails first. -/
theorem attempts_ok (positive : 0 < n) {result : Option α} {last : Nat} (done : attempts f cost n 0 none = .ok (result, last)) :
    ∃ i a, result = some a ∧ Cheapest f cost n i a := by
  have start : BestSoFar f cost 0 none := rfl
  have best := attempts_cheapest start (fun j early => absurd early (Nat.not_lt_zero j)) done
  rw [Nat.zero_add] at best
  cases result with
  | none => exact absurd best positive.ne'
  | some a =>
    obtain ⟨i, cheapest⟩ := best
    exact ⟨i, a, rfl, cheapest⟩

theorem attempts_ok_iff : (∃ result, attempts f cost n 0 none = .ok result) ↔ Goes f cost n := by
  constructor
  · rintro ⟨⟨result, last⟩, done⟩
    -- an attempt that fails before any free one ends the loop
    suffices stops : ∀ left made best, (∀ j < made, ∀ b, f j = .ok b → cost b ≠ 0) →
        attempts f cost left made best = .ok (result, last) → ∀ i, made ≤ i → i < made + left →
        (∀ j < i, ∀ b, f j = .ok b → cost b ≠ 0) → ∃ a, f i = .ok a from
      fun i within costly => stops n 0 none (fun j early => absurd early (Nat.not_lt_zero j)) done i (Nat.zero_le i)
        (by omega) costly
    intro left
    induction left with
    | zero => exact fun made best _ _ i onward within => absurd within (by omega)
    | succ left ih =>
      intro made best _ done i onward within costly
      rw [attempts, bind_eq_ok] at done
      obtain ⟨next, returns, rest⟩ := done
      rcases Nat.eq_or_lt_of_le onward with rfl | after
      · exact ⟨next, returns⟩
      · rw [if_neg (costly made after next returns)] at rest
        exact ih (made + 1) _ (fun j early => costly j (by omega)) rest i after (by omega) costly
  · intro goes
    cases outcome : attempts f cost n 0 none with
    | ok result => exact ⟨result, rfl⟩
    | error error =>
      obtain ⟨i, _, within, fails, before⟩ := attempts_error outcome
      obtain ⟨a, returns⟩ := goes i (by omega) fun j early b other => by
        obtain ⟨b', other', costs⟩ := before j early (Nat.zero_le j)
        cases Except.ok.inj (other.symm.trans other')
        exact costs
      cases fails.symm.trans returns

/-- The loop gives the cheapest attempt exactly if every attempt returns that comes before a free one. -/
theorem attempts_iff (positive : 0 < n) :
    (∃ i a last, Cheapest f cost n i a ∧ attempts f cost n 0 none = .ok (some a, last)) ↔ Goes f cost n := by
  rw [← attempts_ok_iff]
  constructor
  · rintro ⟨i, a, last, _, done⟩
    exact ⟨(some a, last), done⟩
  · rintro ⟨⟨result, last⟩, done⟩
    obtain ⟨i, a, rfl, cheapest⟩ := attempts_ok positive done
    exact ⟨i, a, last, cheapest, done⟩

end Lib
