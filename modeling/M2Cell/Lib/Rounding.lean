import Mathlib.Data.Int.Log
import Mathlib.Data.Rat.Floor
import Mathlib.Algebra.Order.Floor.Ring
import Mathlib.Tactic.Linarith
import Mathlib.Tactic.Ring
import Mathlib.Tactic.Positivity

/-!
# Rounding to a binary significand

`roundTo p` takes a number to the nearest one that has a significand of `p` bits, and to
the one with the even significand when two are equally near.  The exponent is unbounded:
there is neither overflow nor underflow.

The error of one rounding is relative (`abs_roundTo_sub_le`).  A computation is a chain of
roundings, and `Within u n x y` says that `y` is what `n` of them make of `x`.  The chain
is followed through products with a constant (`Within.mul_left`) and through sums of two
numbers that are not negative (`Within.add_left`).
-/

namespace M2Cell

/-! ## Rounding -/

/-- The nearest integer, the even one if there are two. -/
def roundEven (x : ℚ) : ℤ :=
  if 2 * Int.fract x < 1 then ⌊x⌋
  else if 1 < 2 * Int.fract x then ⌊x⌋ + 1
  else if ⌊x⌋ % 2 = 0 then ⌊x⌋ else ⌊x⌋ + 1

/-- The last place of a significand of `p` bits. -/
def lastPlace (p : ℕ) (x : ℚ) : ℚ := 2 ^ (Int.log 2 |x| + 1 - p)

/-- The nearest number with a significand of `p` bits. -/
def roundTo (p : ℕ) (x : ℚ) : ℚ := roundEven (x / lastPlace p x) * lastPlace p x

theorem abs_roundEven_sub_le (x : ℚ) : |(roundEven x : ℚ) - x| ≤ 1 / 2 := by
  have hsplit := Int.floor_add_fract x
  have hnonneg := Int.fract_nonneg x
  have hlt := Int.fract_lt_one x
  unfold roundEven
  rw [abs_le]
  split_ifs <;> push_cast <;> constructor <;> linarith

theorem lastPlace_pos (p : ℕ) (x : ℚ) : 0 < lastPlace p x := zpow_pos (by norm_num) _

/-- The last place, against the number itself. -/
theorem lastPlace_le (p : ℕ) {x : ℚ} (hx : x ≠ 0) : lastPlace p x ≤ 2 / 2 ^ p * |x| := by
  have hlog : (2 : ℚ) ^ Int.log 2 |x| ≤ |x| := by
    exact_mod_cast Int.zpow_log_le_self (b := 2) (by norm_num) (abs_pos.mpr hx)
  have hplace : lastPlace p x = 2 / 2 ^ p * 2 ^ Int.log 2 |x| := by
    rw [lastPlace, zpow_sub₀ (by norm_num), zpow_add₀ (by norm_num), zpow_one, zpow_natCast]
    ring
  rw [hplace]
  exact mul_le_mul_of_nonneg_left hlog (by positivity)

/-- **The error of a rounding** is at most half of the last place. -/
theorem abs_roundTo_sub_le (p : ℕ) (x : ℚ) : |roundTo p x - x| ≤ 1 / 2 ^ p * |x| := by
  by_cases hx : x = 0
  · subst hx
    simp [roundTo, roundEven]
  · have hplace := lastPlace_pos p x
    calc
      |roundTo p x - x|
          = |(roundEven (x / lastPlace p x) : ℚ) - x / lastPlace p x| * lastPlace p x := by
            rw [roundTo, ← abs_of_pos hplace, ← abs_mul, sub_mul, abs_of_pos hplace,
              div_mul_cancel₀ _ hplace.ne']
      _ ≤ 1 / 2 * lastPlace p x :=
        mul_le_mul_of_nonneg_right (abs_roundEven_sub_le _) hplace.le
      _ ≤ 1 / 2 * (2 / 2 ^ p * |x|) := mul_le_mul_of_nonneg_left (lastPlace_le p hx) (by norm_num)
      _ = 1 / 2 ^ p * |x| := by ring

/-- What is not positive stays so. -/
theorem roundTo_nonpos (p : ℕ) {x : ℚ} (hx : x ≤ 0) : roundTo p x ≤ 0 := by
  have herror := (abs_le.mp (abs_roundTo_sub_le p x)).2
  have hunit : (1 : ℚ) / 2 ^ p ≤ 1 := by
    rw [div_le_one (by positivity)]
    exact one_le_pow₀ (by norm_num)
  have hscale := mul_le_mul_of_nonneg_right hunit (abs_nonneg x)
  rw [abs_of_nonpos hx] at herror hscale
  linarith

theorem roundEven_le {x : ℚ} {m : ℤ} (h : x ≤ m) : roundEven x ≤ m := by
  have hfloor : ⌊x⌋ ≤ m := by
    have hmono := Int.floor_le_floor h
    rwa [Int.floor_intCast] at hmono
  obtain hlt | heq := lt_or_eq_of_le hfloor
  · unfold roundEven
    split_ifs <;> omega
  · have hle : x ≤ ⌊x⌋ := heq ▸ h
    have hfract : Int.fract x = 0 := by
      have hnonneg := Int.fract_nonneg x
      have hsplit := Int.floor_add_fract x
      linarith
    rw [roundEven, hfract, mul_zero, if_pos one_pos]
    exact hfloor

/-- A natural number with a significand of `p` bits is a bound that roundings keep. -/
theorem roundTo_le {p k : ℕ} {x : ℚ} (hk : k < 2 ^ p) (h : x ≤ k) : roundTo p x ≤ k := by
  by_cases hx : x ≤ 0
  · exact (roundTo_nonpos p hx).trans (Nat.cast_nonneg k)
  push Not at hx
  have hplace := lastPlace_pos p x
  -- the last place of a number up to `k` divides one
  obtain ⟨i, hi⟩ : ∃ i : ℕ, Int.log 2 |x| + 1 - p = -i := by
    have hlog : (2 : ℚ) ^ Int.log 2 |x| ≤ |x| := by
      exact_mod_cast Int.zpow_log_le_self (b := 2) (by norm_num) (abs_pos.mpr hx.ne')
    rw [abs_of_pos hx] at hlog ⊢
    have hlt : (2 : ℚ) ^ Int.log 2 x < 2 ^ (p : ℤ) := by
      have hbound : (k : ℚ) < 2 ^ (p : ℤ) := by exact_mod_cast hk
      exact (hlog.trans h).trans_lt hbound
    have hexp := (zpow_lt_zpow_iff_right₀ (by norm_num : (1 : ℚ) < 2)).mp hlt
    exact ⟨(p - 1 - Int.log 2 x).toNat, by omega⟩
  have hunit : lastPlace p x * 2 ^ i = 1 := by
    rw [lastPlace, hi, zpow_neg, zpow_natCast]
    exact inv_mul_cancel₀ (by positivity)
  have hquot : x / lastPlace p x ≤ ((k * 2 ^ i : ℕ) : ℤ) := by
    rw [div_le_iff₀ hplace]
    push_cast
    rw [mul_assoc, mul_comm (2 ^ i), hunit, mul_one]
    exact h
  have hround : (roundEven (x / lastPlace p x) : ℚ) ≤ ((k * 2 ^ i : ℕ) : ℤ) := by
    exact_mod_cast roundEven_le hquot
  calc
    roundTo p x ≤ ((k * 2 ^ i : ℕ) : ℤ) * lastPlace p x :=
      mul_le_mul_of_nonneg_right hround hplace.le
    _ = k := by
      push_cast
      rw [mul_assoc, mul_comm (2 ^ i), hunit, mul_one]

/-! ## Chains of roundings -/

section within

variable {K : Type*} [Field K] [LinearOrder K] [IsStrictOrderedRing K] {u a x y z : K} {m n : ℕ}

/-- What `n` roundings, each with an error of `u` relative to its number, can make of `x`. -/
def Within (u : K) (n : ℕ) (x y : K) : Prop := |y - x| ≤ ((1 + u) ^ n - 1) * |x|

theorem Within.abs_le (h : Within u n x y) : |y| ≤ (1 + u) ^ n * |x| := by
  have htriangle := abs_sub_abs_le_abs_sub y x
  unfold Within at h
  linarith

theorem Within.trans (hu : 0 ≤ u) (h : Within u m x y) (h' : Within u n y z) :
    Within u (m + n) x z := by
  have hone : 1 ≤ (1 + u) ^ n := one_le_pow₀ (by linarith)
  have hgrow := mul_le_mul_of_nonneg_left h.abs_le (sub_nonneg.mpr hone)
  calc
    |z - x| ≤ |z - y| + |y - x| := abs_sub_le z y x
    _ ≤ ((1 + u) ^ n - 1) * |y| + ((1 + u) ^ m - 1) * |x| := add_le_add h' h
    _ ≤ ((1 + u) ^ n - 1) * ((1 + u) ^ m * |x|) + ((1 + u) ^ m - 1) * |x| :=
      add_le_add_left hgrow _
    _ = ((1 + u) ^ (m + n) - 1) * |x| := by ring

theorem Within.mul_left (c : K) (h : Within u n x y) : Within u n (c * x) (c * y) := by
  unfold Within at h ⊢
  rw [← mul_sub, abs_mul, abs_mul, mul_left_comm]
  exact mul_le_mul_of_nonneg_left h (abs_nonneg c)

/-- A sum of numbers that are not negative is no less exact than its parts. -/
theorem Within.add_left (hu : 0 ≤ u) (ha : 0 ≤ a) (hx : 0 ≤ x) (h : Within u n x y) :
    Within u n (a + x) (a + y) := by
  have hone : 1 ≤ (1 + u) ^ n := one_le_pow₀ (by linarith)
  unfold Within at h ⊢
  rw [add_sub_add_left_eq_sub, abs_of_nonneg (add_nonneg ha hx)]
  rw [abs_of_nonneg hx] at h
  exact h.trans (mul_le_mul_of_nonneg_left (le_add_of_nonneg_left ha) (sub_nonneg.mpr hone))

/-- The error, when it is small in all. -/
theorem Within.abs_sub_le {e : K} (h : Within u n x y) (hx : 0 ≤ x) (he : (1 + u) ^ n - 1 ≤ e) :
    |y - x| ≤ e * x := by
  unfold Within at h
  rw [abs_of_nonneg hx] at h
  exact h.trans (mul_le_mul_of_nonneg_right he hx)

end within

theorem within_roundTo (p : ℕ) (x : ℚ) : Within (1 / 2 ^ p) 1 x (roundTo p x) := by
  unfold Within
  rw [pow_one, add_sub_cancel_left]
  exact abs_roundTo_sub_le p x

end M2Cell
