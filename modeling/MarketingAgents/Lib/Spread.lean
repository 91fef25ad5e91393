import Mathlib.Tactic.Linarith
import Mathlib.Tactic.Ring

namespace Lib

/-- `r` is an integer nearest to `n / d`. -/
structure Nearest (n d r : Int) : Prop where
  lower : 2 * n ≤ 2 * (d * r) + d
  upper : 2 * (d * r) ≤ 2 * n + d

/-- `r 0, …, r steps` are spread as evenly over `0, …, span` as whole numbers can be. -/
def Spread (span : Int) (steps : Nat) (r : Nat → Int) : Prop := ∀ i ≤ steps, Nearest (i * span) steps (r i)

section Nearest

variable {n d r : Int}

/-- A whole number is nearest to itself only. -/
theorem Nearest.exact {k : Int} (positive : 0 < d) (nearest : Nearest (k * d) d r) : r = k := by
  have above : d * (2 * k) ≤ d * (2 * r + 1) := by linarith [nearest.lower, mul_comm k d]
  have below : d * (2 * r) ≤ d * (2 * k + 1) := by linarith [nearest.upper, mul_comm k d]
  have low := le_of_mul_le_mul_left above positive
  have high := le_of_mul_le_mul_left below positive
  omega

end Nearest

section Spread

variable {span : Int} {steps : Nat} {r : Nat → Int}

theorem Spread.first (spread : Spread span steps r) (positive : 0 < steps) : r 0 = 0 := by
  have start := spread 0 (Nat.zero_le _)
  rw [Nat.cast_zero, zero_mul, ← zero_mul (steps : Int)] at start
  exact start.exact (by exact_mod_cast positive)

theorem Spread.last (spread : Spread span steps r) (positive : 0 < steps) : r steps = span := by
  have finish := spread steps le_rfl
  rw [mul_comm] at finish
  exact finish.exact (by exact_mod_cast positive)

/-- Where the even distance of `apart` places exceeds a whole number, the distance of the values reaches it. -/
theorem Spread.gap (spread : Spread span steps r) (positive : 0 < steps) {width : Int} {apart i : Nat}
    (within : i + apart ≤ steps) (roomy : width * steps < apart * span) : width ≤ r (i + apart) - r i := by
  have here := (spread i (by omega)).upper
  have there := (spread (i + apart) within).lower
  have moved : ((i + apart : Nat) : Int) * span = i * span + apart * span := by push_cast; ring
  rw [moved] at there
  have far : (steps : Int) * (width - 1) < steps * (r (i + apart) - r i) := by
    rw [mul_sub, mul_sub, mul_one, mul_comm (steps : Int) width]
    linarith
  have more := lt_of_mul_lt_mul_left far (by exact_mod_cast positive.le)
  omega

theorem Spread.between (spread : Spread span steps r) (positive : 0 < steps) (long : 0 ≤ span) {i : Nat}
    (within : i ≤ steps) : 0 ≤ r i ∧ r i ≤ span := by
  have place := spread i within
  have size : (0 : Int) < steps := by exact_mod_cast positive
  have low : (0 : Int) ≤ i * span := mul_nonneg (Int.natCast_nonneg i) long
  have high : (i : Int) * span ≤ steps * span := mul_le_mul_of_nonneg_right (by exact_mod_cast within) long
  have above : (steps : Int) * 0 ≤ steps * (2 * r i + 1) := by linarith [place.lower]
  have below : (steps : Int) * (2 * r i) ≤ steps * (2 * span + 1) := by linarith [place.upper]
  have least := le_of_mul_le_mul_left above size
  have most := le_of_mul_le_mul_left below size
  omega

theorem Spread.mono (spread : Spread span steps r) (positive : 0 < steps) (long : 0 ≤ span) {i j : Nat} (le : i ≤ j)
    (within : j ≤ steps) : r i ≤ r j := by
  obtain ⟨apart, rfl⟩ := Nat.exists_eq_add_of_le le
  cases apart with
  | zero => exact le_rfl
  | succ apart =>
    rcases long.eq_or_lt with flat | long
    · have here := spread.between positive flat.le (i := i) (by omega)
      have there := spread.between positive flat.le within
      omega
    · have ahead : (0 : Int) * steps < (apart + 1 : Nat) * span := by
        rw [zero_mul]
        exact mul_pos (by exact_mod_cast Nat.succ_pos apart) long
      have gap := spread.gap positive within ahead
      omega

/-- With room for all of them, no two of the values are the same. -/
theorem Spread.strictMono (spread : Spread span steps r) (room : (steps : Int) ≤ span) {i j : Nat} (less : i < j)
    (within : j ≤ steps) : r i < r j := by
  have positive : 0 < steps := by omega
  rcases room.eq_or_lt with full | room
  · have value : ∀ k ≤ steps, r k = k := by
      intro k inside
      have place := spread k inside
      rw [← full] at place
      exact place.exact (by exact_mod_cast positive)
    rw [value i (by omega), value j within]
    exact_mod_cast less
  · obtain ⟨apart, rfl⟩ := Nat.exists_eq_add_of_lt less
    rw [Nat.add_assoc] at within ⊢
    have steps : (1 : Int) * steps < (apart + 1 : Nat) * span := by
      push_cast
      nlinarith [Int.natCast_nonneg apart, Int.natCast_nonneg steps]
    have gap := spread.gap positive within steps
    omega

theorem Spread.climbs (spread : Spread span steps r) (room : (steps : Int) ≤ span) {i apart : Nat}
    (within : i + apart ≤ steps) : (apart : Int) ≤ r (i + apart) - r i := by
  induction apart with
  | zero => simp
  | succ apart ih =>
    have before := ih (by omega)
    have next := spread.strictMono room (Nat.lt_succ_self (i + apart)) within
    rw [Nat.succ_eq_add_one, Nat.add_assoc] at next
    push_cast
    omega

/-- Where no width has room for more than `apart` of the values, counted with both
ends, and a width is at least as many places, each is a width before the one `apart` after it. -/
theorem Spread.gap_of_dense (spread : Spread span steps r) {width : Int} {apart i : Nat} (positive : 0 < apart)
    (daily : (apart : Int) ≤ width) (dense : width * (steps + 1) ≤ apart * (span + 1)) (within : i + apart ≤ steps) :
    width ≤ r (i + apart) - r i := by
  rcases daily.eq_or_lt with full | room
  · -- a value for every place: only their being distinct is left
    rw [← full] at dense ⊢
    have places : (steps : Int) + 1 ≤ span + 1 := le_of_mul_le_mul_left dense (by exact_mod_cast positive)
    exact spread.climbs (by omega) within
  · refine spread.gap (by omega) within ?_
    rw [mul_add, mul_add] at dense
    omega

/-- Where `apart` even steps and a bit fall short of a width, the values do somewhere. -/
theorem Spread.crowded (spread : Spread span steps r) {width : Int} {apart : Nat} (positive : 0 < apart)
    (fits : apart ≤ steps) (short : apart * (span + 1) ≤ width * steps) :
    ∃ i, i + apart ≤ steps ∧ r (i + apart) - r i < width := by
  by_contra none
  have gaps : ∀ i, i + apart ≤ steps → width ≤ r (i + apart) - r i :=
    fun i within => not_lt.mp fun less => none ⟨i, within, less⟩
  have climb : ∀ q, q * apart ≤ steps → q * width ≤ r (q * apart) := by
    intro q
    induction q with
    | zero =>
      intro _
      rw [Nat.zero_mul, spread.first (by omega)]
      simp
    | succ q ih =>
      intro within
      have next : (q + 1) * apart = q * apart + apart := by ring
      rw [next] at within ⊢
      have before := ih (by omega)
      have gap := gaps (q * apart) within
      push_cast
      linarith
  -- as many whole strides as there are, and a rest shorter than one
  have whole : steps / apart * apart ≤ steps := Nat.div_mul_le_self ..
  have rest : steps < steps / apart * apart + apart := Nat.lt_div_mul_add positive
  have once : apart ≤ steps / apart * apart := Nat.le_mul_of_pos_left _ (Nat.div_pos fits positive)
  generalize steps / apart = q at whole rest once
  have reached := climb q whole
  have place := (spread (q * apart) whole).upper
  have high : (steps : Int) * (q * width) ≤ steps * r (q * apart) :=
    mul_le_mul_of_nonneg_left reached (Int.natCast_nonneg steps)
  have strides : (q : Int) * (apart * (span + 1)) ≤ q * (width * steps) :=
    mul_le_mul_of_nonneg_left short (Int.natCast_nonneg q)
  have half : 2 * ((q * apart : Nat) : Int) ≤ steps := by
    push_cast at place ⊢
    nlinarith [place, high, strides]
  have tooFar : 2 * (q * apart) ≤ steps := by exact_mod_cast half
  omega

end Spread

end Lib
