import Mathlib.Data.Int.Log
import Mathlib.Tactic.Positivity
import MarketingAgents.Db.Double

namespace MarketingAgents

/-- What the last place of the float of the size of the number stands for; all subnormal floats share one. -/
def lastPlace (x : Rat) : Rat := 2 ^ max (Int.log 2 |x| - 52) (-1074)

/-- The float nearest to a number, the even one of two. The numbers past the largest float stand for the
infinities: Python's operators do not raise there. -/
def nearest (x : Rat) : Rat := roundHalfEven (x / lastPlace x) * lastPlace x

/-- Whole numbers from here on are too large for `float`: `OverflowError`. -/
@[irreducible] def floatLimit : Nat := 2 ^ 1024 - 2 ^ 970

theorem lastPlace_pos (x : Rat) : 0 < lastPlace x := zpow_pos (by norm_num) _

theorem le_roundHalfEven {x : Rat} {n : Int} (le : n ≤ x) : n ≤ roundHalfEven x := by
  have high := (roundHalfEven_spec x).2.1
  have near : (n : Rat) < roundHalfEven x + 1 := by linarith
  have less : n < roundHalfEven x + 1 := by exact_mod_cast near
  omega

theorem roundHalfEven_intCast (n : Int) : roundHalfEven (n : Rat) = n :=
  le_antisymm (roundHalfEven_le le_rfl) (le_roundHalfEven le_rfl)

theorem nearest_le {x grid : Rat} (places : Int) (whole : grid = places * lastPlace x) (le : x ≤ grid) :
    nearest x ≤ grid := by
  have scaled : x / lastPlace x ≤ places := (div_le_iff₀ (lastPlace_pos x)).mpr (whole ▸ le)
  have rounded : (roundHalfEven (x / lastPlace x) : Rat) ≤ places := by exact_mod_cast roundHalfEven_le scaled
  rw [whole]
  exact mul_le_mul_of_nonneg_right rounded (lastPlace_pos x).le

theorem le_nearest {x grid : Rat} (places : Int) (whole : grid = places * lastPlace x) (le : grid ≤ x) :
    grid ≤ nearest x := by
  have scaled : (places : Rat) ≤ x / lastPlace x := (le_div_iff₀ (lastPlace_pos x)).mpr (whole ▸ le)
  have rounded : (places : Rat) ≤ roundHalfEven (x / lastPlace x) := by exact_mod_cast le_roundHalfEven scaled
  rw [whole]
  exact mul_le_mul_of_nonneg_right rounded (lastPlace_pos x).le

theorem nearest_nonneg {x : Rat} (nonneg : 0 ≤ x) : 0 ≤ nearest x := le_nearest 0 (by simp) nonneg

theorem nearest_nonpos {x : Rat} (nonpos : x ≤ 0) : nearest x ≤ 0 := nearest_le 0 (by simp) nonpos

theorem nearest_pos_of_subnormal {x : Rat} (positive : 2 ^ (-1074 : Int) ≤ x) : 0 < nearest x := by
  have above : 0 < x := lt_of_lt_of_le (zpow_pos (by norm_num) _) positive
  have least : lastPlace x ≤ x := by
    rw [lastPlace, abs_of_pos above]
    rcases max_cases (Int.log 2 x - 52) (-1074) with ⟨eq, _⟩ | ⟨eq, _⟩
    · rw [eq]
      calc (2 : Rat) ^ (Int.log 2 x - 52) ≤ 2 ^ Int.log 2 x := zpow_le_zpow_right₀ (by norm_num) (by omega)
        _ ≤ x := by exact_mod_cast Int.zpow_log_le_self (by norm_num) above
    · rw [eq]
      exact positive
  exact lt_of_lt_of_le (lastPlace_pos x) (le_nearest 1 (by simp) least)

theorem nearest_pos {x : Rat} (positive : 2 ^ (-537 : Int) ≤ x) : 0 < nearest x :=
  nearest_pos_of_subnormal ((zpow_le_zpow_right₀ (by norm_num) (by norm_num)).trans positive)

/-- A number has at most 53 places. -/
theorem abs_lt_lastPlace (x : Rat) : |x| < 2 ^ 53 * lastPlace x := by
  have bits : |x| < 2 ^ (Int.log 2 |x| + 1) := by
    exact_mod_cast Int.lt_zpow_succ_log_self (b := 2) (by norm_num) |x|
  calc |x| < 2 ^ (Int.log 2 |x| + 1) := bits
    _ = 2 ^ 53 * 2 ^ (Int.log 2 |x| - 52) := by
      rw [← zpow_natCast, ← zpow_add₀ (by norm_num)]
      congr 1
      push_cast
      ring
    _ ≤ 2 ^ 53 * lastPlace x :=
      mul_le_mul_of_nonneg_left (zpow_le_zpow_right₀ (by norm_num) (le_max_left _ _)) (by positivity)

/-- A number of 53 bits and not less than the least subnormal is a float. -/
theorem nearest_grid {k e : Int} (small : |k| ≤ 2 ^ 53) (above : -1074 ≤ e) :
    nearest (k * 2 ^ e) = k * 2 ^ e := by
  suffices whole : ∃ places : Int, (k * 2 ^ e : Rat) = places * lastPlace (k * 2 ^ e) by
    obtain ⟨places, same⟩ := whole
    have quotient : (k * 2 ^ e : Rat) / lastPlace (k * 2 ^ e) = places :=
      (div_eq_iff (lastPlace_pos _).ne').mpr same
    rw [nearest, quotient, roundHalfEven_intCast, ← same]
  have shifted : ∀ (m : Int) (f : Int), f ≤ e → ∃ places : Int, (m * 2 ^ e : Rat) = places * 2 ^ f := by
    intro m f low
    obtain ⟨shift, rfl⟩ : ∃ shift : Nat, e = f + shift := ⟨(e - f).toNat, by omega⟩
    refine ⟨m * 2 ^ shift, ?_⟩
    rw [zpow_add₀ (by norm_num), zpow_natCast]
    push_cast
    ring
  have power : (0 : Rat) < 2 ^ e := zpow_pos (by norm_num) e
  rw [lastPlace]
  by_cases low : max (Int.log 2 |(k * 2 ^ e : Rat)| - 52) (-1074) ≤ e
  · exact shifted k _ low
  · -- only the next power of two has a last place that stands for more
    have log : e + 53 ≤ Int.log 2 |(k * 2 ^ e : Rat)| := by omega
    rcases eq_or_ne k 0 with rfl | nonzero
    · exact ⟨0, by simp⟩
    have size : |(k * 2 ^ e : Rat)| = |k| * 2 ^ e := by
      rw [abs_mul, abs_of_pos power, Int.cast_abs]
    have positive : 0 < |(k * 2 ^ e : Rat)| := abs_pos.mpr (mul_ne_zero (by exact_mod_cast nonzero) power.ne')
    have reach : (2 : Rat) ^ (e + 53) ≤ |k| * 2 ^ e := by
      rw [← size]
      calc (2 : Rat) ^ (e + 53) ≤ 2 ^ Int.log 2 |(k * 2 ^ e : Rat)| := zpow_le_zpow_right₀ (by norm_num) log
        _ ≤ _ := by exact_mod_cast Int.zpow_log_le_self (by norm_num) positive
    have whole : |k| = 2 ^ 53 := by
      refine le_antisymm small ?_
      rw [zpow_add₀ (by norm_num), mul_comm] at reach
      have bits := le_of_mul_le_mul_right reach power
      exact_mod_cast bits
    have next : Int.log 2 |(k * 2 ^ e : Rat)| = e + 53 := by
      rw [size, whole]
      have shift : (((2 ^ 53 : Int) : Rat) * 2 ^ e) = 2 ^ (e + 53) := by
        rw [zpow_add₀ (by norm_num), mul_comm]
        norm_num
      rw [shift]
      exact_mod_cast Int.log_zpow (R := Rat) (b := 2) (by norm_num) (e + 53)
    have place : max (Int.log 2 |(k * 2 ^ e : Rat)| - 52) (-1074) = e + 1 := by omega
    rw [place]
    have double : (2 : Rat) ^ (e + 1) = 2 * 2 ^ e := by rw [zpow_add₀ (by norm_num), zpow_one, mul_comm]
    rcases abs_choice k with same | opposite
    · refine ⟨2 ^ 52, ?_⟩
      have value : k = 2 ^ 53 := same.symm.trans whole
      rw [double, value]
      push_cast
      ring
    · refine ⟨-2 ^ 52, ?_⟩
      have value : k = -2 ^ 53 := by omega
      rw [double, value]
      push_cast
      ring

/-- Floats stay what they are. -/
theorem nearest_nearest (x : Rat) : nearest (nearest x) = nearest x := by
  have range := abs_lt.mp (abs_lt_lastPlace x)
  have positive := lastPlace_pos x
  refine nearest_grid (abs_le.mpr ⟨?_, ?_⟩) (le_max_right _ _)
  · refine le_roundHalfEven ?_
    rw [le_div_iff₀ positive]
    push_cast
    linarith
  · refine roundHalfEven_le ?_
    rw [div_le_iff₀ positive]
    push_cast
    exact range.2.le

theorem nearest_intCast {n : Int} (small : |n| ≤ 2 ^ 53) : nearest n = n := by
  have grid := nearest_grid small (by norm_num : (-1074 : Int) ≤ 0)
  simpa using grid

/-- Rounding moves a number by half a last place at most. -/
theorem nearest_near {x : Rat} {bits : Nat} (small : |x| ≤ 2 ^ bits) : |nearest x - x| ≤ 2 ^ bits / 2 ^ 53 := by
  obtain ⟨low, high, _⟩ := roundHalfEven_spec (x / lastPlace x)
  have positive := lastPlace_pos x
  have back : x / lastPlace x * lastPlace x = x := div_mul_cancel₀ x positive.ne'
  have half : |nearest x - x| ≤ lastPlace x / 2 := by
    rw [nearest, abs_le]
    constructor <;> nlinarith
  have place : lastPlace x ≤ 2 ^ ((bits : Int) - 52) := by
    refine zpow_le_zpow_right₀ (by norm_num) (max_le ?_ (by omega))
    rcases (abs_nonneg x).eq_or_lt with zero | positive
    · rw [← zero, Int.log_zero_right]
      omega
    · have mono := Int.log_mono_right (b := 2) positive small
      have power : Int.log 2 ((2 : Rat) ^ bits) = bits := by
        exact_mod_cast Int.log_zpow (R := Rat) (b := 2) (by norm_num) (bits : Int)
      omega
  calc |nearest x - x| ≤ lastPlace x / 2 := half
    _ ≤ 2 ^ ((bits : Int) - 52) / 2 := by linarith
    _ = 2 ^ bits / 2 ^ 53 := by
      rw [zpow_sub₀ (by norm_num), zpow_natCast, div_div]
      norm_num

/-- Near one, a float is off by less than a millionth. -/
theorem nearest_bounds {x : Rat} (small : |x| ≤ 1) : x - 1 / 1000000 ≤ nearest x ∧ nearest x ≤ x + 1 / 1000000 := by
  have unit : |x| ≤ 2 ^ 0 := by simpa using small
  have near := abs_le.mp (nearest_near unit)
  norm_num at near
  constructor <;> linarith [near.1, near.2]

/-- Rounding keeps the order of numbers that are not negative. The greater number
has the coarser grid, and its grid is part of the finer one. -/
theorem nearest_mono_of_nonneg {x y : Rat} (nonneg : 0 ≤ x) (le : x ≤ y) : nearest x ≤ nearest y := by
  by_cases same : lastPlace x = lastPlace y
  · have rounded : roundHalfEven (x / lastPlace x) ≤ roundHalfEven (y / lastPlace x) := by
      have low := (roundHalfEven_spec (x / lastPlace x))
      have high := (roundHalfEven_spec (y / lastPlace x))
      have ordered : x / lastPlace x ≤ y / lastPlace x := div_le_div_of_nonneg_right le (lastPlace_pos x).le
      by_contra passed
      have step : roundHalfEven (y / lastPlace x) + 1 ≤ roundHalfEven (x / lastPlace x) := by omega
      have stepped : (roundHalfEven (y / lastPlace x) : Rat) + 1 ≤ roundHalfEven (x / lastPlace x) := by exact_mod_cast step
      -- both are halfway between the same two whole numbers, of which only one is even
      have alike : x / lastPlace x = y / lastPlace x := le_antisymm ordered (by linarith [low.1, high.2.1])
      rw [alike] at step
      omega
    rw [nearest, nearest, ← same]
    exact mul_le_mul_of_nonneg_right (by exact_mod_cast rounded) (lastPlace_pos x).le
  · rcases nonneg.eq_or_lt with rfl | positive
    · rw [show nearest 0 = 0 from le_antisymm (nearest_nonpos le_rfl) (nearest_nonneg le_rfl)]
      exact nearest_nonneg le
    · have above : 0 < y := positive.trans_le le
      have logs : Int.log 2 x ≤ Int.log 2 y := Int.log_mono_right positive le
      rw [lastPlace, lastPlace, abs_of_pos positive, abs_of_pos above] at same
      have differ : max (Int.log 2 x - 52) (-1074) ≠ max (Int.log 2 y - 52) (-1074) := fun equal => same (by rw [equal])
      have place : max (Int.log 2 y - 52) (-1074) = Int.log 2 y - 52 := by omega
      have less : Int.log 2 x < Int.log 2 y := by omega
      -- the power of two between them is a float of the size of either
      have below : x ≤ 2 ^ Int.log 2 y := by
        have bits : x < 2 ^ (Int.log 2 x + 1) := by exact_mod_cast Int.lt_zpow_succ_log_self (b := 2) (by norm_num) x
        exact bits.le.trans (zpow_le_zpow_right₀ (by norm_num) (by omega))
      have reach : (2 : Rat) ^ Int.log 2 y ≤ y := by exact_mod_cast Int.zpow_log_le_self (by norm_num) above
      obtain ⟨shift, shifted⟩ : ∃ shift : Nat, Int.log 2 y = max (Int.log 2 x - 52) (-1074) + shift :=
        ⟨(Int.log 2 y - max (Int.log 2 x - 52) (-1074)).toNat, by omega⟩
      refine (nearest_le (2 ^ shift) ?_ below).trans (le_nearest (2 ^ 52) ?_ reach)
      · rw [lastPlace, abs_of_pos positive, shifted, zpow_add₀ (by norm_num), zpow_natCast]
        push_cast
        ring
      · have places : (2 : Rat) ^ Int.log 2 y = 2 ^ (52 : Int) * 2 ^ (Int.log 2 y - 52) := by
          rw [← zpow_add₀ (by norm_num)]
          congr 1
          ring
        rw [lastPlace, abs_of_pos above, place, places]
        norm_num

/-- A float, as the number that it is. -/
structure Double where
  value : Rat
  isNearest : nearest value = value
deriving DecidableEq

namespace Double

/-- The float that an operation returns for the number it means. -/
def of (x : Rat) : Double := ⟨nearest x, nearest_nearest x⟩

instance : Zero Double := ⟨of 0⟩
instance : One Double := ⟨of 1⟩
instance : NatCast Double := ⟨fun n => of n⟩
instance : IntCast Double := ⟨fun n => of n⟩
instance : RatCast Double := ⟨of⟩
instance : Neg Double := ⟨fun a => of (-a.value)⟩
instance : Add Double := ⟨fun a b => of (a.value + b.value)⟩
instance : Sub Double := ⟨fun a b => of (a.value - b.value)⟩
instance : Mul Double := ⟨fun a b => of (a.value * b.value)⟩
instance : Div Double := ⟨fun a b => of (a.value / b.value)⟩
instance : Pow Double Nat := ⟨fun a n => of (a.value ^ n)⟩

theorem value_injective : Function.Injective value := by
  rintro ⟨x, _⟩ ⟨y, _⟩ rfl
  rfl

instance : LinearOrder Double := LinearOrder.lift' value value_injective

theorem le_iff {a b : Double} : a ≤ b ↔ a.value ≤ b.value := Iff.rfl

theorem lt_iff {a b : Double} : a < b ↔ a.value < b.value := Iff.rfl

theorem value_ratCast (x : Rat) : (x : Double).value = nearest x := rfl
theorem value_add (a b : Double) : (a + b).value = nearest (a.value + b.value) := rfl
theorem value_sub (a b : Double) : (a - b).value = nearest (a.value - b.value) := rfl
theorem value_mul (a b : Double) : (a * b).value = nearest (a.value * b.value) := rfl
theorem value_div (a b : Double) : (a / b).value = nearest (a.value / b.value) := rfl

theorem value_cast {n : Nat} (small : n ≤ 2 ^ 53) : (n : Double).value = n := by
  have whole := nearest_intCast (n := n) (by rw [abs_of_nonneg (by omega)]; exact_mod_cast small)
  exact_mod_cast whole

@[simp] theorem value_zero : (0 : Double).value = 0 := value_cast (n := 0) (by norm_num)

@[simp] theorem value_one : (1 : Double).value = 1 := by
  have one := value_cast (n := 1) (by norm_num)
  exact_mod_cast one

theorem nonneg_iff {a : Double} : 0 ≤ a ↔ 0 ≤ a.value := by rw [le_iff, value_zero]

theorem pos_iff {a : Double} : 0 < a ↔ 0 < a.value := by rw [lt_iff, value_zero]

theorem value_ofNat (n : Nat) [n.AtLeastTwo] (small : n ≤ 2 ^ 53) : (OfNat.ofNat n : Double).value = OfNat.ofNat n :=
  value_cast small

end Double

end MarketingAgents
