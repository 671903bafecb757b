import Mathlib.Algebra.Order.Field.Basic
import Mathlib.Algebra.Order.Group.Unbundled.Abs
import Mathlib.Data.Int.Cast.Lemmas
import Mathlib.Tactic.FieldSimp
import Mathlib.Tactic.Linarith
import Mathlib.Tactic.Ring

/-!
# Values on an Integer Scale

A value is shown to its user on one interval and stored as an integer on
another. A `Scale` takes the one to the other, linearly, and values beyond an
end for that end; what it gives is rounded to be stored, and what is stored is
scaled back to be shown.

Nothing is assumed of the rounding but what every way of rounding does: it is
monotone, moves a value by less than one, and leaves integers alone. This is
enough for what is shown to differ from what was asked for by less than one
integer step, and for the stored value to come back when what is shown is
stored again.

## Main definitions

* `Scale`, `Scale.apply`, `Scale.back`: A scale and the way back.
* `Rounding`: A way of rounding.
* `Scale.store`, `Scale.recall`: Storing a value and showing it.
* `Scale.step`: One integer step, as it is shown.

## Theorems

* `apply_mono`, `apply_mem`: A scale is monotone and stays in its interval.
* `back_apply`: Scaling back.
* `store_mem`: What is stored is in the interval, too.
* `recall_near`: What is shown is near to what was asked for.
* `recall_mono`: A larger value is not shown as a smaller one.
* `store_recall`: What is shown is stored as it was.
-/

namespace Quantize

/-- An interval and the one it is taken to. -/
structure Scale (K : Type*) [LinearOrder K] where
  inMin : K
  inMax : K
  outMin : K
  outMax : K
  in_lt : inMin < inMax
  out_lt : outMin < outMax

/-- The same intervals the other way round. -/
def Scale.back {K : Type*} [LinearOrder K] (s : Scale K) : Scale K :=
  ⟨s.outMin, s.outMax, s.inMin, s.inMax, s.out_lt, s.in_lt⟩

variable {K : Type*} [Field K] [LinearOrder K]

/-- How much the second interval is longer. -/
def Scale.slope (s : Scale K) : K := (s.outMax - s.outMin) / (s.inMax - s.inMin)

/-- Take a value to the second interval. -/
def Scale.apply (s : Scale K) (x : K) : K :=
  if x ≤ s.inMin then s.outMin
  else if s.inMax ≤ x then s.outMax
  else x * s.slope + (s.outMax - s.slope * s.inMax)

/-- A way of rounding to integers. -/
structure Rounding (K : Type*) [Field K] [LinearOrder K] where
  round : K → ℤ
  mono : ∀ x y, x ≤ y → round x ≤ round y
  near : ∀ x, |(round x : K) - x| < 1
  int : ∀ n : ℤ, round n = n

/-- What is stored for a value. -/
def Scale.store (r : Rounding K) (s : Scale K) (x : K) : ℤ := r.round (s.apply x)

/-- What is shown of a stored value. -/
def Scale.recall (s : Scale K) (n : ℤ) : K := s.back.apply n

/-- One integer step on the first interval. -/
def Scale.step (s : Scale K) : K := (s.inMax - s.inMin) / (s.outMax - s.outMin)

variable (s : Scale K)

theorem apply_below {x : K} (h : x ≤ s.inMin) : s.apply x = s.outMin := by
  rw [Scale.apply, if_pos h]

theorem apply_above {x : K} (h : s.inMax ≤ x) : s.apply x = s.outMax := by
  rw [Scale.apply, if_neg (not_le_of_gt (lt_of_lt_of_le s.in_lt h)), if_pos h]

variable [IsStrictOrderedRing K]

theorem slope_pos : 0 < s.slope :=
  div_pos (sub_pos.mpr s.out_lt) (sub_pos.mpr s.in_lt)

theorem slope_mul : s.slope * (s.inMax - s.inMin) = s.outMax - s.outMin :=
  div_mul_cancel₀ _ (ne_of_gt (sub_pos.mpr s.in_lt))

/-- Between the ends the scale is linear. -/
theorem apply_between {x : K} (hlo : s.inMin ≤ x) (hhi : x ≤ s.inMax) :
    s.apply x = s.outMax - s.slope * (s.inMax - x) := by
  have hmul := slope_mul s
  rcases eq_or_lt_of_le hlo with rfl | hlo
  · rw [apply_below s (le_refl _), hmul]
    ring
  rcases eq_or_lt_of_le hhi with rfl | hhi
  · rw [apply_above s (le_refl _)]
    ring
  · rw [Scale.apply, if_neg (not_le_of_gt hlo), if_neg (not_le_of_gt hhi)]
    ring

/-- The scale does not leave the second interval. -/
theorem apply_mem (x : K) : s.outMin ≤ s.apply x ∧ s.apply x ≤ s.outMax := by
  have hout := le_of_lt s.out_lt
  rcases le_or_gt x s.inMin with hlo | hlo
  · rw [apply_below s hlo]
    exact ⟨le_refl _, hout⟩
  rcases le_or_gt s.inMax x with hhi | hhi
  · rw [apply_above s hhi]
    exact ⟨hout, le_refl _⟩
  · rw [apply_between s (le_of_lt hlo) (le_of_lt hhi)]
    have hpos := slope_pos s
    have hmul := slope_mul s
    have hlow : s.slope * (s.inMax - x) ≤ s.slope * (s.inMax - s.inMin) :=
      mul_le_mul_of_nonneg_left (by linarith) (le_of_lt hpos)
    have hhigh : 0 ≤ s.slope * (s.inMax - x) := mul_nonneg (le_of_lt hpos) (by linarith)
    exact ⟨by linarith, by linarith⟩

theorem apply_mono : Monotone s.apply := by
  intro x y hxy
  rcases le_or_gt x s.inMin with hlo | hlo
  · rw [apply_below s hlo]
    exact (apply_mem s y).1
  rcases le_or_gt s.inMax y with hhi | hhi
  · rw [apply_above s hhi]
    exact (apply_mem s x).2
  · rw [apply_between s (le_of_lt hlo) (by linarith), apply_between s (by linarith) (le_of_lt hhi)]
    have hmul : s.slope * (s.inMax - y) ≤ s.slope * (s.inMax - x) :=
      mul_le_mul_of_nonneg_left (by linarith) (le_of_lt (slope_pos s))
    linarith

theorem back_slope : s.back.slope * s.slope = 1 := by
  have hin := ne_of_gt (sub_pos.mpr s.in_lt)
  have hout := ne_of_gt (sub_pos.mpr s.out_lt)
  simp only [Scale.slope, Scale.back]
  field_simp

/-- Scaling a value of the first interval there and back. -/
theorem back_apply {x : K} (hlo : s.inMin ≤ x) (hhi : x ≤ s.inMax) :
    s.back.apply (s.apply x) = x := by
  rcases apply_mem s x with ⟨hmin, hmax⟩
  rw [apply_between s.back hmin hmax, apply_between s hlo hhi]
  have hslope := back_slope s
  calc s.inMax - s.back.slope * (s.outMax - (s.outMax - s.slope * (s.inMax - x)))
      = s.inMax - s.back.slope * s.slope * (s.inMax - x) := by ring
    _ = x := by rw [hslope]; ring

/-- Scaling back takes a difference to the steps in it. -/
theorem back_sub {y z : K} (hy : s.outMin ≤ y ∧ y ≤ s.outMax) (hz : s.outMin ≤ z ∧ z ≤ s.outMax) :
    s.back.apply y - s.back.apply z = s.step * (y - z) := by
  rw [apply_between s.back hy.1 hy.2, apply_between s.back hz.1 hz.2]
  simp only [Scale.slope, Scale.back, Scale.step]
  ring

section Store

variable {s} (r : Rounding K) {a b : ℤ}

/-- What is stored is between the ends of the second interval. -/
theorem store_mem (ha : s.outMin = a) (hb : s.outMax = b) (x : K) :
    a ≤ s.store r x ∧ s.store r x ≤ b := by
  rcases apply_mem s x with ⟨hmin, hmax⟩
  have hlo := r.mono _ _ (ha ▸ hmin)
  have hhi := r.mono _ _ (hb ▸ hmax)
  rw [r.int] at hlo hhi
  exact ⟨hlo, hhi⟩

/-- What is shown differs from what was asked for by less than one step. -/
theorem recall_near (ha : s.outMin = a) (hb : s.outMax = b) {x : K} (hlo : s.inMin ≤ x)
    (hhi : x ≤ s.inMax) : |s.recall (s.store r x) - x| < s.step := by
  have hstep : 0 < s.step := div_pos (sub_pos.mpr s.in_lt) (sub_pos.mpr s.out_lt)
  have hstored : s.outMin ≤ (s.store r x : K) ∧ (s.store r x : K) ≤ s.outMax := by
    rcases store_mem r ha hb x with ⟨hmin, hmax⟩
    rw [ha, hb]
    exact ⟨Int.cast_le.mpr hmin, Int.cast_le.mpr hmax⟩
  have hsub : s.recall (s.store r x) - x = s.step * (s.store r x - s.apply x) := by
    rw [← back_sub s hstored (apply_mem s x), back_apply s hlo hhi]
    rfl
  rw [hsub, abs_mul, abs_of_pos hstep]
  calc s.step * |(s.store r x : K) - s.apply x| < s.step * 1 :=
        mul_lt_mul_of_pos_left (r.near _) hstep
    _ = s.step := mul_one _

/-- A larger value is not shown as a smaller one. -/
theorem recall_mono {x y : K} (h : x ≤ y) :
    s.recall (s.store r x) ≤ s.recall (s.store r y) :=
  apply_mono s.back (Int.cast_le.mpr (r.mono _ _ (apply_mono s h)))

/-- What is shown is stored as it was. -/
theorem store_recall (ha : s.outMin = a) (hb : s.outMax = b) {n : ℤ} (hlo : a ≤ n) (hhi : n ≤ b) :
    s.store r (s.recall n) = n := by
  have hback : s.apply (s.recall n) = n :=
    back_apply s.back (ha.le.trans (Int.cast_le.mpr hlo)) ((Int.cast_le.mpr hhi).trans hb.ge)
  rw [Scale.store, hback, r.int]

end Store

end Quantize
