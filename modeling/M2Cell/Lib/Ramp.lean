import Mathlib.Algebra.Order.Group.MinMax
import Mathlib.Algebra.Order.Field.Basic
import Mathlib.Tactic.Linarith
import Mathlib.Tactic.Ring

/-!
# Ramps that stop at a limit

A value that moves at a constant rate towards a limit and stays there.  `rampUp` and
`rampDown` are one step of it; the step takes the time `dt`.

A value that is computed step by step goes wrong a little at each step.  `Near ramp x e y`
says that `y` is where the ramp from `x` is, up to an error of `e` in `x`.  In this measure
errors add up and time does not count: a step from `y` with an error of `ε` makes a ramp
from `x` with an error of `e + ε` (`near_rampUp_step`, `near_rampDown_step`), as long as a
value that has reached the limit stays there.  And an error is forgotten at the limit: a
ramp that has run long enough is there whatever it started from.

`near_rampUp_of_error` and `near_rampDown_of_error` take a relative error of the sum to one
in this measure.  A step may be so long that the sum and its error are far beyond the
limit, so the two cases are those of a short step and of one that passes the limit.
-/

namespace M2Cell

variable {K : Type*} [CommRing K] [LinearOrder K] {limit rate dt x y : K}

/-- Rise for the time `dt`, up to `limit`. -/
def rampUp (limit rate dt x : K) : K := min limit (x + rate * dt)

/-- Fall for the time `dt`, down to zero. -/
def rampDown (rate dt x : K) : K := max 0 (x - rate * dt)

/-- `y` is where the ramp from `x` is, up to an error of `e` in `x`. -/
def Near (ramp : K → K) (x e y : K) : Prop := ramp (x - e) ≤ y ∧ y ≤ ramp (x + e)

theorem near_zero_iff {ramp : K → K} : Near ramp x 0 y ↔ y = ramp x := by
  unfold Near
  rw [sub_zero, add_zero]
  exact ⟨fun h => le_antisymm h.2 h.1, fun h => ⟨h.ge, h.le⟩⟩

/-! ## The limits -/

theorem rampUp_zero (hx : x ≤ limit) : rampUp limit rate 0 x = x := by
  rw [rampUp, mul_zero, add_zero]
  exact min_eq_right hx

theorem rampUp_eq_limit (h : limit ≤ x + rate * dt) : rampUp limit rate dt x = limit :=
  min_eq_left h

theorem rampDown_zero (hx : 0 ≤ x) : rampDown rate 0 x = x := by
  rw [rampDown, mul_zero, sub_zero]
  exact max_eq_right hx

variable [IsStrictOrderedRing K] {e ε t y' : K}

theorem rampDown_eq_zero (h : x ≤ rate * dt) : rampDown rate dt x = 0 :=
  max_eq_left (sub_nonpos.mpr h)

/-! ## Steps of a ramp -/

/-- **One more step upwards.** -/
theorem near_rampUp_step (hnear : Near (rampUp limit rate t) x e y)
    (hstay : limit ≤ y → y' = limit) (hstep : Near (rampUp limit rate dt) y ε y') :
    Near (rampUp limit rate (t + dt)) x (e + ε) y' := by
  obtain ⟨hlow, hhigh⟩ := hnear
  obtain ⟨hlow', hhigh'⟩ := hstep
  obtain ⟨-, hhigh⟩ := le_min_iff.mp hhigh
  constructor
  · by_cases hlimit : limit ≤ y
    · rw [hstay hlimit]
      exact min_le_left _ _
    · have hbelow : x - e + rate * t ≤ y := (min_le_iff.mp hlow).resolve_left hlimit
      refine le_trans (min_le_min_left limit ?_) hlow'
      linarith
  · refine hhigh'.trans (min_le_min_left limit ?_)
    linarith

/-- **One more step downwards.** -/
theorem near_rampDown_step (hnear : Near (rampDown rate t) x e y) (hstay : y ≤ 0 → y' = 0)
    (hstep : Near (rampDown rate dt) y ε y') :
    Near (rampDown rate (t + dt)) x (e + ε) y' := by
  obtain ⟨hlow, hhigh⟩ := hnear
  obtain ⟨hlow', hhigh'⟩ := hstep
  obtain ⟨-, hlow⟩ := max_le_iff.mp hlow
  constructor
  · refine le_trans (max_le_max_left 0 ?_) hlow'
    linarith
  · by_cases hzero : y ≤ 0
    · rw [hstay hzero]
      exact le_max_left _ _
    · have habove : y ≤ x + e - rate * t := (le_max_iff.mp hhigh).resolve_left hzero
      refine hhigh'.trans (max_le_max_left 0 ?_)
      linarith

/-! ## Errors of a sum -/

/-- A sum with the relative error `u / 4`, cut off at the limit. -/
theorem near_rampUp_of_error {u v : K} (hu : 0 ≤ u) (hsmall : u ≤ 1) (hy : 0 ≤ y)
    (hle : y ≤ limit)
    (herror : |v - (y + rate * dt)| * 4 ≤ u * (y + rate * dt)) :
    Near (rampUp limit rate dt) y (u * limit) (min limit v) := by
  have hlimit : 0 ≤ limit := hy.trans hle
  obtain ⟨hbelow, habove⟩ := abs_le.mp (le_refl |v - (y + rate * dt)|)
  by_cases hshort : rate * dt ≤ 2 * limit
  · have hsum : u * (y + rate * dt) ≤ u * (3 * limit) :=
      mul_le_mul_of_nonneg_left (by linarith) hu
    have hscale : 0 ≤ u * limit := mul_nonneg hu hlimit
    constructor
    · exact min_le_min_left limit (by linarith)
    · exact min_le_min_left limit (by linarith)
  · -- the sum is beyond the limit, with its error and without
    have hsum : u * (y + rate * dt) ≤ 1 * (y + rate * dt) :=
      mul_le_mul_of_nonneg_right hsmall (by linarith)
    have hscale : u * limit ≤ 1 * limit := mul_le_mul_of_nonneg_right hsmall hlimit
    have hv : min limit v = limit := min_eq_left (by linarith)
    rw [hv]
    refine ⟨min_le_left _ _, le_min le_rfl ?_⟩
    have hnonneg : 0 ≤ u * limit := mul_nonneg hu hlimit
    linarith

/-- A difference with the relative error `u / 4`, cut off at zero. -/
theorem near_rampDown_of_error {u v : K} (hu : 0 ≤ u) (hsmall : u ≤ 1) (hy : 0 ≤ y)
    (hle : y ≤ limit)
    (herror : |v - (y - rate * dt)| * 4 ≤ u * (y + rate * dt)) :
    Near (rampDown rate dt) y (u * limit) (max 0 v) := by
  have hlimit : 0 ≤ limit := hy.trans hle
  obtain ⟨hbelow, habove⟩ := abs_le.mp (le_refl |v - (y - rate * dt)|)
  by_cases hshort : rate * dt ≤ 2 * limit
  · have hsum : u * (y + rate * dt) ≤ u * (3 * limit) :=
      mul_le_mul_of_nonneg_left (by linarith) hu
    have hscale : 0 ≤ u * limit := mul_nonneg hu hlimit
    constructor
    · exact max_le_max_left 0 (by linarith)
    · exact max_le_max_left 0 (by linarith)
  · -- the difference is below zero, with its error and without
    have hsum : u * (y + rate * dt) ≤ 1 * (y + rate * dt) :=
      mul_le_mul_of_nonneg_right hsmall (by linarith)
    have hscale : 0 ≤ u * limit := mul_nonneg hu hlimit
    have hv : max 0 v = 0 := max_eq_left (by linarith)
    rw [hv]
    exact ⟨max_le le_rfl (by linarith), le_max_left _ _⟩

end M2Cell
