import Mathlib.Data.Rat.Floor
import RaspiCam.Lib.Quantize
import RaspiCam.Still.Properties
import RaspiCam.Video.Properties

/-!
# Properties on a Scale

Contrast, saturation, gain and exposure are shown from 0 to 100 and recorded as
integers of other ranges. `set` scales a value to the range and drops its
fraction, and `get` scales the integer back; the ranges are written out in
either function of either wrapper.

Here the two fit together. `truncate` is a way of rounding, so that the rules
for values on an integer scale apply: what is shown after a call of `set`
differs from the value by less than one step of the device, and setting what is
shown changes nothing. `scaled_fit` says so for every property, every value it
is shown for, and every state of any run.

## Main definitions

* `truncation`: Dropping the fraction as a way of rounding.
* `ScaledProp`: The properties, with their scales and steps.
* `FitsTogether`: `set` and `get` of a property fit together.

## Theorems

* `scale_eq`: The scales of the source.
* `toInt_eq`, `toUnsigned_eq`: What is recorded of a scaled value.
* `fitsTogether_of_spec`: What it takes to fit together.
* `Video.set_scaled`, `Still.set_record`: What `set` and `get` do.
* `scaled_fit`: The properties in any run.
-/

namespace RaspiCam

open Mmal Machine Transition Quantize

open Video (CapProp)

/-- Dropping the fraction rounds down what is not negative, and up what is. -/
theorem truncate_eq (q : ℚ) : truncate q = if 0 ≤ q then ⌊q⌋ else ⌈q⌉ := by
  by_cases h : 0 ≤ q
  · rw [if_pos h, Rat.floor_def', truncate, Int.tdiv_eq_ediv_of_nonneg (Rat.num_nonneg.mpr h)]
  · rw [if_neg h, Rat.ceil_def', truncate]
    have hneg : 0 ≤ -q.num := by
      have hnum := Rat.num_neg.mpr (not_le.mp h)
      omega
    rw [← Int.tdiv_eq_ediv_of_nonneg hneg, Int.neg_tdiv, Int.neg_neg]

/-- Dropping the fraction. -/
def truncation : Rounding ℚ where
  round := truncate
  mono := by
    intro x y hxy
    rw [truncate_eq, truncate_eq]
    by_cases hx : 0 ≤ x
    · rw [if_pos hx, if_pos (hx.trans hxy)]
      exact Int.floor_mono hxy
    rw [if_neg hx]
    by_cases hy : 0 ≤ y
    · rw [if_pos hy]
      exact (Int.ceil_le.mpr (by exact_mod_cast (not_le.mp hx).le)).trans (Int.floor_nonneg.mpr hy)
    · rw [if_neg hy]
      exact Int.ceil_mono hxy
  near := by
    intro x
    rw [truncate_eq, abs_lt]
    by_cases hx : 0 ≤ x
    · rw [if_pos hx]
      have hle := Int.floor_le x
      have hlt := Int.lt_floor_add_one x
      exact ⟨by linarith, by linarith⟩
    · rw [if_neg hx]
      have hle := Int.le_ceil x
      have hlt := Int.ceil_lt_add_one x
      exact ⟨by linarith, by linarith⟩
  int := by
    intro n
    rw [truncate, Rat.num_intCast, Rat.den_intCast, Int.natCast_one, Int.tdiv_one]

/-- The scales of the source. -/
theorem scale_eq (s : Scale ℚ) (q : ℚ) :
    Scaler.scale s.inMin s.inMax s.outMin s.outMax (.finite q) = .finite (s.apply q) := by
  unfold Scaler.scale Scaler.eval
  by_cases hlo : q ≤ (Scaler.setParams s.inMin s.inMax s.outMin s.outMax).inMin
  · rw [apply_below s hlo]
    exact if_pos hlo
  by_cases hhi : (Scaler.setParams s.inMin s.inMax s.outMin s.outMax).inMax ≤ q
  · rw [apply_above s hhi]
    exact (if_neg hlo).trans (if_pos hhi)
  · have happly : s.apply q = q * s.slope + (s.outMax - s.slope * s.inMax) :=
      (if_neg hlo).trans (if_neg hhi)
    rw [happly]
    exact (if_neg hlo).trans (if_neg hhi)

/-- A value that is between two values of `int` converts to one. -/
theorem toInt_eq (pf : Platform) {q : ℚ} (hlo : -2147483648 ≤ q) (hhi : q ≤ 2147483647) :
    (toInt pf (.finite q)).toInt = truncate q := by
  have hmin : ((-2147483648 : ℤ) : ℚ) ≤ q := by exact_mod_cast hlo
  have hmax : q ≤ ((2147483647 : ℤ) : ℚ) := by exact_mod_cast hhi
  have htmin := truncation.mono _ _ hmin
  have htmax := truncation.mono _ _ hmax
  rw [truncation.int] at htmin htmax
  simp only [toInt, if_pos (show -2147483649 < q ∧ q < 2147483648 from ⟨by linarith, by linarith⟩)]
  exact Int32.toInt_ofInt_of_le htmin (Int.lt_of_le_of_lt htmax (by decide))

/-- A value that is between two values of `unsigned int` converts to one. -/
theorem toUnsigned_eq (pf : Platform) {q : ℚ} (hlo : 0 ≤ q) (hhi : q ≤ 4294967295) :
    ((toUnsigned pf (.finite q)).toNat : ℤ) = truncate q := by
  have hmin : ((0 : ℤ) : ℚ) ≤ q := by exact_mod_cast hlo
  have hmax : q ≤ ((4294967295 : ℤ) : ℚ) := by exact_mod_cast hhi
  have htmin : 0 ≤ truncate q := truncation.int 0 ▸ truncation.mono _ _ hmin
  have htmax : truncate q ≤ 4294967295 := truncation.int 4294967295 ▸ truncation.mono _ _ hmax
  simp only [toUnsigned, if_pos (show -1 < q ∧ q < 4294967296 from ⟨by linarith, by linarith⟩)]
  have hlt : (truncate q).toNat < 4294967296 := by omega
  have hnat : (UInt32.ofNat (truncate q).toNat).toNat = (truncate q).toNat :=
    UInt32.toNat_ofNat_of_lt hlt
  rw [hnat, Int.toNat_of_nonneg htmin]

/-- The properties that are shown on a scale. -/
inductive ScaledProp
  | contrast
  | saturation
  | gain
  | exposure
deriving DecidableEq

namespace ScaledProp

/-- The property. -/
def prop : ScaledProp → CapProp
  | .contrast => .contrast
  | .saturation => .saturation
  | .gain => .gain
  | .exposure => .exposure

/-- The values that are shown, and the range of the setting. -/
def scale : ScaledProp → Scale ℚ
  | .contrast => ⟨0, 100, -100, 100, by norm_num, by norm_num⟩
  | .saturation => ⟨0, 100, -100, 100, by norm_num, by norm_num⟩
  | .gain => ⟨0, 100, 0, 800, by norm_num, by norm_num⟩
  | .exposure => ⟨0, 100, 0, 330000, by norm_num, by norm_num⟩

/-- The least setting. -/
def lower : ScaledProp → ℤ
  | .contrast => -100
  | .saturation => -100
  | .gain => 0
  | .exposure => 0

/-- The greatest setting. -/
def upper : ScaledProp → ℤ
  | .contrast => 100
  | .saturation => 100
  | .gain => 800
  | .exposure => 330000

/-- How much is shown for a step of the setting. -/
def step : ScaledProp → ℚ
  | .contrast => 1 / 2
  | .saturation => 1 / 2
  | .gain => 1 / 8
  | .exposure => 1 / 3300

/-- Below 1, an exposure may be taken for an automatic one. -/
def Shown (p : ScaledProp) (x : ℚ) : Prop := p = .exposure → 1 ≤ x ∧ x ≤ 100

/-- The integer that is recorded. -/
def stored (p : ScaledProp) (x : ℚ) : ℤ := p.scale.store truncation x

end ScaledProp

/-- `set` and `get` fit together in a state. What is shown after a call of
    `set` is near to the value, larger values are shown as larger ones, values
    beyond an end are set like the end, and setting what is shown changes
    nothing that is recorded. -/
structure FitsTogether {σ ρ τ : Type} (set : ρ → ℚ → σ → Option (Bool × σ)) (get : σ → Double)
    (recorded : σ → τ) (Shown : ℚ → Prop) (step : ℚ) (s : σ) : Prop where
  near : ∀ r x, Shown x → 0 ≤ x → x ≤ 100 →
    ∃ s' g, set r x s = some (true, s') ∧ get s' = .finite g ∧ |g - x| < step
  mono : ∀ r r' x y s' t' g h, Shown x → Shown y → x ≤ y → set r x s = some (true, s') →
    set r' y s = some (true, t') → get s' = .finite g → get t' = .finite h → g ≤ h
  below : ∀ r x, Shown x → x ≤ 0 → set r x s = set r 0 s
  above : ∀ r x, Shown x → 100 ≤ x → set r x s = set r 100 s
  again : ∀ r r' x s' g, Shown x → set r x s = some (true, s') → get s' = .finite g →
    ∃ s'', set r' g s' = some (true, s'') ∧ recorded s'' = recorded s'

namespace ScaledProp

theorem scale_ends (p : ScaledProp) :
    p.scale.inMin = 0 ∧ p.scale.inMax = 100 ∧ p.scale.outMin = p.lower ∧
      p.scale.outMax = p.upper := by
  cases p <;> exact ⟨rfl, rfl, by norm_num [scale, lower], by norm_num [scale, upper]⟩

theorem scale_step (p : ScaledProp) : p.scale.step = p.step := by
  cases p <;> norm_num [scale, Scale.step, step]

theorem stored_mem (p : ScaledProp) (x : ℚ) : p.lower ≤ p.stored x ∧ p.stored x ≤ p.upper :=
  store_mem truncation p.scale_ends.2.2.1 p.scale_ends.2.2.2 x

/-- What is stored is not clamped any more. -/
theorem clamp_stored (p : ScaledProp) (x : ℚ) :
    clamp p.lower p.upper (p.stored x) = p.stored x := by
  rcases p.stored_mem x with ⟨hlo, hhi⟩
  exact (nearest_clamp (hlo.trans hhi) _).unique (nearest_self hlo hhi)

/-- What is shown is stored as it was. -/
theorem stored_recall (p : ScaledProp) (x : ℚ) :
    p.stored (p.scale.recall (p.stored x)) = p.stored x :=
  store_recall truncation p.scale_ends.2.2.1 p.scale_ends.2.2.2 (p.stored_mem x).1
    (p.stored_mem x).2

/-- An exposure of 1 or more is not stored as an automatic one. -/
theorem exposure_recall {x : ℚ} (hlo : 1 ≤ x) :
    3300 ≤ exposure.stored x ∧ 1 ≤ exposure.scale.recall (exposure.stored x) ∧
      exposure.scale.recall (exposure.stored x) ≤ 100 := by
  have hone : exposure.stored 1 = 3300 := by
    have happly : exposure.scale.apply 1 = ((3300 : ℤ) : ℚ) := by
      rw [apply_between exposure.scale (by norm_num [scale]) (by norm_num [scale])]
      norm_num [scale, Scale.slope]
    rw [stored, Scale.store, happly, truncation.int]
  have hback : exposure.scale.recall 3300 = 1 := by
    rw [Scale.recall, apply_between exposure.scale.back (by norm_num [scale, Scale.back])
      (by norm_num [scale, Scale.back])]
    norm_num [scale, Scale.slope, Scale.back]
  have hmono := recall_mono (s := exposure.scale) truncation hlo
  refine ⟨hone ▸ truncation.mono _ _ (apply_mono exposure.scale hlo), ?_,
    (apply_mem exposure.scale.back _).2⟩
  calc (1 : ℚ) = exposure.scale.recall (exposure.stored 1) := by rw [hone, hback]
    _ ≤ _ := hmono

/-- What is shown is a value the property is shown for. -/
theorem shown_recall {p : ScaledProp} {x : ℚ} (h : p.Shown x) :
    p.Shown (p.scale.recall (p.stored x)) := by
  rintro rfl
  exact (exposure_recall (h rfl).1).2

/-- The scaled value is far inside the range of `int`. -/
theorem apply_range (p : ScaledProp) (x : ℚ) :
    -100 ≤ p.scale.apply x ∧ p.scale.apply x ≤ 330000 := by
  rcases apply_mem p.scale x with ⟨hmin, hmax⟩
  cases p <;> norm_num [scale] at hmin hmax ⊢ <;> exact ⟨by linarith, by linarith⟩

/-- What the conversion to `int` gives of a scaled value. -/
theorem toInt_stored (pf : Platform) (p : ScaledProp) (x : ℚ) :
    (toInt pf (.finite (p.scale.apply x))).toInt = p.stored x := by
  rcases p.apply_range x with ⟨hmin, hmax⟩
  exact toInt_eq pf (by linarith) (by linarith)

/-- What the conversion to `unsigned int` gives of a scaled exposure. -/
theorem toUnsigned_stored (pf : Platform) (x : ℚ) :
    ((toUnsigned pf (.finite (exposure.scale.apply x))).toNat : ℤ) = exposure.stored x := by
  have hmem := apply_mem exposure.scale x
  exact toUnsigned_eq pf (le_trans (by norm_num [scale]) hmem.1)
    (le_trans hmem.2 (by norm_num [scale]))

/-- Values beyond an end are scaled like the end. -/
theorem apply_beyond (p : ScaledProp) (x : ℚ) :
    (x ≤ 0 → p.scale.apply x = p.scale.apply 0) ∧
      (100 ≤ x → p.scale.apply x = p.scale.apply 100) := by
  rcases p.scale_ends with ⟨hmin, hmax, _, _⟩
  constructor
  · intro h
    rw [apply_below p.scale (hmin ▸ h), apply_below p.scale hmin.ge]
  · intro h
    rw [apply_above p.scale (hmax ▸ h), apply_above p.scale hmax.le]

end ScaledProp

/-- `set` and `get` fit together when `set` records the rounded value, and `get`
    scales back what is recorded. -/
theorem fitsTogether_of_spec {σ ρ τ : Type} {set : ρ → ℚ → σ → Option (Bool × σ)}
    {get : σ → Double} {recorded : σ → τ} {Shown : ℚ → Prop} {p : ScaledProp} {Inv : σ → Prop}
    {write : ℤ → τ → τ}
    (hspec : ∀ s, Inv s → ∀ r x, Shown x → ∃ s', set r x s = some (true, s') ∧ Inv s' ∧
      get s' = .finite (p.scale.recall (p.stored x)) ∧
      recorded s' = write (p.stored x) (recorded s))
    (hwrite : ∀ n t, write n (write n t) = write n t)
    (hends : ∀ s r x, Shown x → (x ≤ 0 → set r x s = set r 0 s) ∧
      (100 ≤ x → set r x s = set r 100 s))
    (hshown : ∀ x, Shown x → Shown (p.scale.recall (p.stored x))) {s : σ} (hs : Inv s) :
    FitsTogether set get recorded Shown p.step s := by
  have hget : ∀ r x s' g, Shown x → set r x s = some (true, s') → get s' = .finite g →
      g = p.scale.recall (p.stored x) := by
    intro r x s' g hx hset hg
    rcases hspec s hs r x hx with ⟨t, ht, _, hgt, _⟩
    rw [ht, Option.some.injEq, Prod.mk.injEq] at hset
    rw [← hset.2, hgt, Double.finite.injEq] at hg
    exact hg.symm
  refine ⟨?_, ?_, fun r x hx => (hends s r x hx).1, fun r x hx => (hends s r x hx).2, ?_⟩
  · intro r x hx hlo hhi
    rcases hspec s hs r x hx with ⟨s', hset, _, hg, _⟩
    rcases p.scale_ends with ⟨hmin, hmax, houtMin, houtMax⟩
    refine ⟨s', _, hset, hg, ?_⟩
    rw [← p.scale_step]
    exact recall_near truncation houtMin houtMax (hmin ▸ hlo) (hmax ▸ hhi)
  · intro r r' x y s' t' g h hx hy hxy hset hset' hg hh
    rw [hget r x s' g hx hset hg, hget r' y t' h hy hset' hh]
    exact recall_mono truncation hxy
  · intro r r' x s' g hx hset hg
    rw [hget r x s' g hx hset hg]
    rcases hspec s hs r x hx with ⟨t, ht, hinv, _, hrecorded⟩
    rw [ht, Option.some.injEq, Prod.mk.injEq] at hset
    rw [← hset.2]
    rcases hspec t hinv r' _ (hshown x hx) with ⟨s'', hset'', _, _, hrecorded''⟩
    refine ⟨s'', hset'', ?_⟩
    rw [hrecorded'', p.stored_recall, hrecorded, hwrite]

namespace Video

/-- The setter that is called for a value. -/
def settingFor (pf : Platform) (p : ScaledProp) (x : ℚ) : Setting :=
  match p with
  | .contrast => .contrast (toInt pf (.finite (p.scale.apply x)))
  | .saturation => .saturation (toInt pf (.finite (p.scale.apply x)))
  | .gain => .iso (toInt pf (.finite (p.scale.apply x)))
  | .exposure => .shutterSpeed (toUnsigned pf (.finite (p.scale.apply x)))

/-- Record an integer. -/
def record (p : ScaledProp) (n : ℤ) (s : RaspividState) : RaspividState :=
  match p with
  | .contrast => { s with contrast := n }
  | .saturation => { s with saturation := n }
  | .gain => { s with iso := n }
  | .exposure => { s with shutterSpeed := n }

/-- `set` calls the setter for the value. -/
theorem set_setting (pf : Platform) (r : SetResults) {p : ScaledProp} {x : ℚ} (hx : p.Shown x)
    (v : RaspiCamCv) : v.set pf r p.prop (.finite x)
      = (do .ok (true, v.with (← (settingFor pf p x).apply r v.camera))) := by
  cases p with
  | contrast =>
      rw [settingFor, ← scale_eq]
      rfl
  | saturation =>
      rw [settingFor, ← scale_eq]
      rfl
  | gain =>
      rw [settingFor, ← scale_eq]
      rfl
  | exposure =>
      have hasks : 0 < x ∧ x ≤ 100 := ⟨by linarith [(hx rfl).1], (hx rfl).2⟩
      rw [settingFor, ← scale_eq]
      simp only [ScaledProp.prop, RaspiCamCv.set, RaspiCamCv.setExposure, if_pos hasks]
      rfl

/-- The setter records the rounded value. -/
theorem settingFor_recorded (pf : Platform) (p : ScaledProp) (x : ℚ) (s : RaspividState) :
    (settingFor pf p x).recorded s = record p (p.stored x) s := by
  cases p with
  | contrast =>
      have hclamp :
          clamp (-100) 100 (ScaledProp.contrast.stored x) = ScaledProp.contrast.stored x :=
        ScaledProp.contrast.clamp_stored x
      rw [settingFor, Setting.recorded, ScaledProp.toInt_stored, hclamp, record]
  | saturation =>
      have hclamp : clamp (-100) 100 (ScaledProp.saturation.stored x)
          = ScaledProp.saturation.stored x := ScaledProp.saturation.clamp_stored x
      rw [settingFor, Setting.recorded, ScaledProp.toInt_stored, hclamp, record]
  | gain => rw [settingFor, Setting.recorded, ScaledProp.toInt_stored, record]
  | exposure =>
      have hnat := ScaledProp.toUnsigned_stored pf x
      have hle :
          ¬ (toUnsigned pf (.finite (ScaledProp.exposure.scale.apply x))).toNat > 330000 := by
        have hhi : ScaledProp.exposure.stored x ≤ 330000 := (ScaledProp.exposure.stored_mem x).2
        omega
      simp only [settingFor, Setting.recorded, if_neg hle, hnat, record]

/-- `get` scales back what is recorded. -/
theorem get_record {p : ScaledProp} {n : ℤ} {v : RaspiCamCv} {s : RaspividState}
    (hn : p = .exposure → 0 < n ∧ n ≤ 330000) (h : v.camera.impl.state = record p n s) :
    v.get p.prop = .finite (p.scale.recall n) := by
  cases p with
  | contrast =>
      simp only [RaspiCamCv.get, ScaledProp.prop, PrivateImpl.getContrast, h, record]
      exact scale_eq ScaledProp.contrast.scale.back n
  | saturation =>
      simp only [RaspiCamCv.get, ScaledProp.prop, PrivateImpl.getSaturation, h, record]
      exact scale_eq ScaledProp.saturation.scale.back n
  | gain =>
      simp only [RaspiCamCv.get, ScaledProp.prop, PrivateImpl.getIso, h, record]
      exact scale_eq ScaledProp.gain.scale.back n
  | exposure =>
      rcases hn rfl with ⟨hpos, hhi⟩
      have hshutter : v.camera.impl.state.shutterSpeed = n := congrArg RaspividState.shutterSpeed h
      have hu : v.camera.impl.getShutterSpeed = n.toNat := by
        rw [PrivateImpl.getShutterSpeed, hshutter, u32_toNat (by omega) (by omega)]
      have hcast : ((n.toNat : ℕ) : ℚ) = (n : ℚ) := by
        exact_mod_cast Int.toNat_of_nonneg (Int.le_of_lt hpos)
      simp only [RaspiCamCv.get, ScaledProp.prop, hu, if_neg (show ¬ n.toNat = 0 by omega), hcast]
      exact scale_eq ScaledProp.exposure.scale.back n

/-- What `set` records of a value, and what `get` shows of it. -/
theorem set_scaled (pf : Platform) {p : ScaledProp} {v : RaspiCamCv} (ha : v.camera.Attached)
    (r : SetResults) {x : ℚ} (hx : p.Shown x) :
    ∃ v', (v.set pf r p.prop (.finite x)).toOption = some (true, v') ∧ v'.camera.Attached ∧
      v'.get p.prop = .finite (p.scale.recall (p.stored x)) ∧
      v'.camera.impl.state = record p (p.stored x) v.camera.impl.state := by
  rcases setting_ok ha (settingFor pf p x) r with ⟨c, hc, himpl⟩
  have hstate : (v.with c).camera.impl.state = record p (p.stored x) v.camera.impl.state := by
    rw [← settingFor_recorded pf p x]
    exact congrArg PrivateImpl.state himpl
  have hattached : c.Attached := attached_step _ _ _ ha (step_set hc)
  refine ⟨v.with c, ?_, hattached, get_record ?_ hstate, hstate⟩
  · rw [set_setting pf r hx, hc, ok_bind]
    rfl
  · rintro rfl
    have hlow := (ScaledProp.exposure_recall (hx rfl).1).1
    exact ⟨by omega, (ScaledProp.exposure.stored_mem x).2⟩

/-- Values beyond an end are set like the end. -/
theorem set_beyond (pf : Platform) (r : SetResults) {p : ScaledProp} {x : ℚ} (hx : p.Shown x)
    (v : RaspiCamCv) :
    (x ≤ 0 → v.set pf r p.prop (.finite x) = v.set pf r p.prop (.finite 0)) ∧
      (100 ≤ x → v.set pf r p.prop (.finite x) = v.set pf r p.prop (.finite 100)) := by
  by_cases hp : p = .exposure
  · -- An exposure is neither below the lower end nor over the upper one.
    rcases hx hp with ⟨hlo, hhi⟩
    exact ⟨fun h => absurd h (by linarith), fun h => by rw [le_antisymm hhi h]⟩
  · have hshown : ∀ y, p.Shown y := fun y h => absurd h hp
    have hsame : ∀ {y}, p.scale.apply x = p.scale.apply y →
        v.set pf r p.prop (.finite x) = v.set pf r p.prop (.finite y) := by
      intro y h
      have hsetting : settingFor pf p x = settingFor pf p y := by
        unfold settingFor
        rw [h]
      rw [set_setting pf r hx, set_setting pf r (hshown y), hsetting]
    exact ⟨fun h => hsame ((p.apply_beyond x).1 h), fun h => hsame ((p.apply_beyond x).2 h)⟩

/-- The properties in any run of the wrapper. -/
theorem scaled_always (pf : Platform) (ls : List CvCall) (p : ScaledProp) :
    Always (callStep pf) (FitsTogether (fun r x v => (v.set pf r p.prop (.finite x)).toOption)
      (RaspiCamCv.get p.prop) (fun v => v.camera.impl.state) p.Shown p.step) .init ls := by
  refine always_mono (fun v ha => ?_) (attached_calls pf ls)
  refine fitsTogether_of_spec (fun v ha r x hx => set_scaled pf ha r hx) ?_ ?_
    (fun x hx => ScaledProp.shown_recall hx) ha
  · intro n t
    cases p <;> rfl
  · intro v r x hx
    rcases set_beyond pf r hx v with ⟨hbelow, habove⟩
    exact ⟨fun h => congrArg Except.toOption (hbelow h),
      fun h => congrArg Except.toOption (habove h)⟩

end Video

namespace Still

/-- Record an integer. There is no setting for an exposure. -/
def record (p : ScaledProp) (n : ℤ) (q : PrivateImplStill) : PrivateImplStill :=
  match p with
  | .contrast => { q with contrast := n, changedSettings := true }
  | .saturation => { q with saturation := n, changedSettings := true }
  | .gain => { q with iso := n, changedSettings := true }
  | .exposure => q

/-- What `set` records of a value. -/
theorem set_record (pf : Platform) {p : ScaledProp} (hp : p ≠ .exposure) (x : ℚ)
    (v : RaspiCamStillCv) :
    v.set pf p.prop (.finite x) = (true, v.onImpl (record p (p.stored x))) := by
  have hconverts := ScaledProp.toInt_stored pf p x
  rw [← scale_eq] at hconverts
  cases p with
  | contrast =>
      have hclamp :
          clamp (-100) 100 (ScaledProp.contrast.stored x) = ScaledProp.contrast.stored x :=
        ScaledProp.contrast.clamp_stored x
      have hset : setContrast v.camera.impl (toInt pf (Scaler.scale 0 100 (-100) 100 (.finite x)))
          = record .contrast (ScaledProp.contrast.stored x) v.camera.impl := by
        rw [record, ← hclamp, ← hconverts]
        rfl
      exact congrArg (fun q => (true, { v with camera := { v.camera with impl := q } })) hset
  | saturation =>
      have hclamp : clamp (-100) 100 (ScaledProp.saturation.stored x)
          = ScaledProp.saturation.stored x := ScaledProp.saturation.clamp_stored x
      have hset : setSaturation v.camera.impl (toInt pf (Scaler.scale 0 100 (-100) 100 (.finite x)))
          = record .saturation (ScaledProp.saturation.stored x) v.camera.impl := by
        rw [record, ← hclamp, ← hconverts]
        rfl
      exact congrArg (fun q => (true, { v with camera := { v.camera with impl := q } })) hset
  | gain =>
      have hset : setIso v.camera.impl (toInt pf (Scaler.scale 0 100 0 800 (.finite x)))
          = record .gain (ScaledProp.gain.stored x) v.camera.impl := by
        rw [record, ← hconverts]
        rfl
      exact congrArg (fun q => (true, { v with camera := { v.camera with impl := q } })) hset
  | exposure => exact absurd rfl hp

/-- `get` scales back what is recorded. -/
theorem get_record {p : ScaledProp} (hp : p ≠ .exposure) {n : ℤ} {v : RaspiCamStillCv}
    {q : PrivateImplStill} (h : v.camera.impl = record p n q) :
    v.get p.prop = .finite (p.scale.recall n) := by
  cases p with
  | contrast =>
      simp only [RaspiCamStillCv.get, ScaledProp.prop, h, record]
      exact scale_eq ScaledProp.contrast.scale.back n
  | saturation =>
      simp only [RaspiCamStillCv.get, ScaledProp.prop, h, record]
      exact scale_eq ScaledProp.saturation.scale.back n
  | gain =>
      simp only [RaspiCamStillCv.get, ScaledProp.prop, h, record]
      exact scale_eq ScaledProp.gain.scale.back n
  | exposure => exact absurd rfl hp

/-- The properties in any state of the wrapper. -/
theorem scaled_fits (pf : Platform) (p : ScaledProp) (v : RaspiCamStillCv) :
    FitsTogether (fun (_ : Unit) x v => some (v.set pf p.prop (.finite x)))
      (RaspiCamStillCv.get p.prop) (fun v => v.camera.impl) (fun _ => p ≠ .exposure) p.step v := by
  have hspec : ∀ v : RaspiCamStillCv, True → ∀ (_ : Unit) (x : ℚ), p ≠ .exposure →
      ∃ v', some (v.set pf p.prop (.finite x)) = some (true, v') ∧ True ∧
        v'.get p.prop = .finite (p.scale.recall (p.stored x)) ∧
        v'.camera.impl = record p (p.stored x) v.camera.impl := by
    intro v _ _ x hp
    rw [set_record pf hp x v]
    exact ⟨_, rfl, trivial, get_record hp rfl, rfl⟩
  refine fitsTogether_of_spec hspec ?_ ?_ (fun _ hp => hp) trivial
  · intro n t
    cases p <;> rfl
  · intro v _ x hp
    have hsame : ∀ {y}, p.scale.apply x = p.scale.apply y →
        some (v.set pf p.prop (.finite x)) = some (v.set pf p.prop (.finite y)) := by
      intro y h
      have hstored : p.stored x = p.stored y := congrArg truncate h
      rw [set_record pf hp x, set_record pf hp y, hstored]
    exact ⟨fun h => hsame ((p.apply_beyond x).1 h), fun h => hsame ((p.apply_beyond x).2 h)⟩

end Still

/-- In every state of any run of either wrapper, `set` and `get` of contrast,
    saturation and gain fit together, and in `RaspiCam_Cv` those of an exposure
    of 1 or more, too. -/
theorem scaled_fit (pf : Platform) (ls : List Video.CvCall) (ks : List Still.CvOp)
    (p : ScaledProp) :
    Always (Video.callStep pf)
        (FitsTogether (fun r x v => (v.set pf r p.prop (.finite x)).toOption)
          (Video.RaspiCamCv.get p.prop) (fun v => v.camera.impl.state) p.Shown p.step) .init ls ∧
      Always (Still.cvStep pf) (fun s =>
        FitsTogether (fun (_ : Unit) x v => some (v.set pf p.prop (.finite x)))
          (Still.RaspiCamStillCv.get p.prop) (fun v => v.camera.impl) (fun _ => p ≠ .exposure)
          p.step s.cv) .init ks :=
  ⟨Video.scaled_always pf ls p,
    always_mono (fun s _ => Still.scaled_fits pf p s.cv) (Still.sides_always pf ks)⟩

end RaspiCam
