import RaspiCam.Core.Types

/-!
# What Both Classes Make of a Setting

`Private_Impl` and `Private_Impl_Still` bring an argument into its range, and
translate a recorded setting to a parameter, with the same few expressions.

## Main definitions

* `clamp`: The nearest value in a range.
* `addTurns`: The loop of `setRotation`.
* `percent`: A setting of so many hundredths.
* `mirrorOf`: The mirroring that two flips amount to.
* `Nearest`: The value of a range nearest to a given one.

## Theorems

* `nearest_clamp`: Clamping takes the nearest value.
* `Nearest.mono`: A larger value has no smaller nearest one.
* `turned_eq`: What `setRotation` makes of an angle.
-/

namespace RaspiCam

/-- The nearest value between two bounds. -/
def clamp (lo hi v : Int) : Int :=
  let v := if v < lo then lo else v
  if v > hi then hi else v

/-- The loop of `setRotation`, which adds whole turns to a negative angle. -/
def addTurns (rotation : Int) : Int :=
  if rotation < 0 then addTurns (rotation + 360) else rotation
termination_by (-rotation).toNat

/-- A setting of `n` hundredths. -/
def percent (n : Int) : MmalRational := ⟨n, 100⟩

/-- The mirroring that two flips amount to. -/
def mirrorOf (hflip vflip : Bool) : MmalMirror :=
  if hflip && vflip then .both
  else if hflip then .horizontal
  else if vflip then .vertical
  else .none

/-- `x` is the value between `lo` and `hi` that is nearest to `a`. -/
def Nearest (lo hi a x : Int) : Prop :=
  (lo ≤ x ∧ x ≤ hi) ∧ ∀ y, lo ≤ y → y ≤ hi → (a - x).natAbs ≤ (a - y).natAbs

theorem clamp_mem {lo hi : Int} (h : lo ≤ hi) (v : Int) :
    lo ≤ clamp lo hi v ∧ clamp lo hi v ≤ hi := by
  unfold clamp
  simp only
  split <;> split <;> omega

/-- Clamping takes the nearest value. -/
theorem nearest_clamp {lo hi : Int} (h : lo ≤ hi) (v : Int) : Nearest lo hi v (clamp lo hi v) := by
  refine ⟨clamp_mem h v, fun y hlo hhi => ?_⟩
  unfold clamp
  simp only
  split <;> split <;> omega

/-- A larger value has no smaller nearest one. -/
theorem Nearest.mono {lo hi a b x y : Int} (hx : Nearest lo hi a x) (hy : Nearest lo hi b y)
    (hab : a ≤ b) : x ≤ y := by
  rcases hx with ⟨⟨hxlo, hxhi⟩, hx⟩
  rcases hy with ⟨⟨hylo, hyhi⟩, hy⟩
  refine Int.le_of_not_gt fun hlt => ?_
  -- Both values are then the middle between `y` and `x`, which is in the range.
  have hax := hx y hylo hyhi
  have hby := hy x hxlo hxhi
  have hmid := hx a (by omega) (by omega)
  omega

theorem Nearest.unique {lo hi a x y : Int} (hx : Nearest lo hi a x) (hy : Nearest lo hi a y) :
    x = y :=
  Int.le_antisymm (hx.mono hy (Int.le_refl a)) (hy.mono hx (Int.le_refl a))

/-- A value of the range is nearest to itself. -/
theorem nearest_self {lo hi a : Int} (hlo : lo ≤ a) (hhi : a ≤ hi) : Nearest lo hi a a :=
  ⟨⟨hlo, hhi⟩, fun _ _ _ => by omega⟩

theorem addTurns_nonneg {a : Int} (h : 0 ≤ a) : addTurns a = a := by
  rw [addTurns, if_neg (by omega)]

/-- Adding whole turns does not change the residue, and ends at an angle that
    is not negative. -/
theorem addTurns_emod (a : Int) : 0 ≤ addTurns a ∧ addTurns a % 360 = a % 360 := by
  induction a using addTurns.induct with
  | case1 a hneg ih =>
      rw [addTurns, if_pos hneg]
      refine ⟨ih.1, ih.2.trans ?_⟩
      omega
  | case2 a hpos =>
      rw [addTurns_nonneg (by omega)]
      exact ⟨by omega, rfl⟩

/-- What `setRotation` makes of an angle. -/
theorem turned_eq (a : Int) :
    (if addTurns a ≥ 360 then (addTurns a).tmod 360 else addTurns a) = a % 360 := by
  rcases addTurns_emod a with ⟨hpos, hmod⟩
  by_cases hbig : addTurns a ≥ 360
  · rw [if_pos hbig, Int.tmod_eq_emod_of_nonneg hpos, hmod]
  · rw [if_neg hbig, ← hmod, Int.emod_eq_of_lt hpos (by omega)]

end RaspiCam
