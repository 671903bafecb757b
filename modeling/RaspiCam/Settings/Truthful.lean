import RaspiCam.Still.Properties
import RaspiCam.Video.Properties

/-!
# What the Answer of `set` Tells

`set` of either wrapper answers whether a property was set. The answer is taken
at its word here: after `false` nothing is changed, and after `true` the
recorded setting is what the value comes to, converted and brought into its
range, at least for a property that `get` shows.

Five kinds of calls answer otherwise. In `RaspiCam_Cv` the frame rate is
recorded, and the answer is the one for unknown properties; the sensor mode and
the format are refused by the implementation while the camera is open, and the
answer is `true`. In `RaspiCam_Still_Cv` a brightness over 100 is recorded as
its remainder, and the conversion to RGB cannot be turned off. These are all,
`set_truthful_iff`: in every state of any run, a call is answered truthfully
exactly when it is none of them, or when it asks for what is recorded anyway.

## Main definitions

* `RaspiCamCv.Took`, `RaspiCamStillCv.Took`: The setting is what was asked for.
* `RaspiCamCv.Truthful`, `RaspiCamStillCv.Truthful`: The answer tells so.
* `RaspiCamCv.Heeded`, `RaspiCamStillCv.Heeded`: The condition on a call.

## Theorems

* `truthful_of_false`, `truthful_of_true`: What each answer has to mean.
* `Video.truthful_iff`, `Still.truthful_iff`: The calls of each class.
* `set_truthful_iff`: The calls in any run.
* `set_misleads`: Calls that mislead.
-/

namespace RaspiCam

open Mmal Machine Transition

/-- Values over the upper end of a range are taken for the end. -/
theorem nearest_upper (hi v : Nat) : Nearest 0 hi v (if v > hi then hi else v : Nat) := by
  by_cases h : v > hi
  · rw [if_pos h]
    exact ⟨⟨by omega, Int.le_refl _⟩, fun y _ _ => by omega⟩
  · rw [if_neg h]
    exact nearest_self (by omega) (by omega)

namespace Video

/-- The value is a shutter speed. All others ask for automatic exposure. -/
def AsksShutter (value : Double) : Prop := ∃ q, value = .finite q ∧ 0 < q ∧ q ≤ 100

/-- The recorded setting of a property is what the value comes to. -/
def RaspiCamCv.Took (pf : Platform) (value : Double) (v : RaspiCamCv) : CapProp → Prop
  | .mode => v.camera.impl.state.sensorMode = (toInt pf value).toInt
  | .frameWidth => v.camera.impl.getWidth = (toUnsigned pf value).toNat
  | .frameHeight => v.camera.impl.getHeight = (toUnsigned pf value).toNat
  | .fps => v.camera.impl.state.framerate = (toInt pf value).toInt
  | .format => ∃ fmt ∈ requested value,
      v.imgFormat = pixelType fmt ∧ v.camera.impl.state.captureFtm = fmt
  | .brightness => Nearest 0 100 (toUnsigned pf value).toNat v.camera.impl.state.brightness
  | .contrast => Nearest (-100) 100 (toInt pf (Scaler.scale 0 100 (-100) 100 value)).toInt
      v.camera.impl.state.contrast
  | .saturation => Nearest (-100) 100 (toInt pf (Scaler.scale 0 100 (-100) 100 value)).toInt
      v.camera.impl.state.saturation
  | .gain => v.camera.impl.state.iso = (toInt pf (Scaler.scale 0 100 0 800 value)).toInt
  | .exposure =>
      (AsksShutter value →
        Nearest 0 330000 (toUnsigned pf (Scaler.scale 0 100 0 330000 value)).toNat
        v.camera.impl.state.shutterSpeed) ∧
      (¬ AsksShutter value → v.camera.impl.state.shutterSpeed = 0 ∧
        v.camera.impl.state.rpcExposureMode = .auto)
  | .convertRgb => v.imgFormat = cv8uc3
  | .other _ => False

/-- The call does not fault, and its answer is to be believed. -/
def RaspiCamCv.Truthful (pf : Platform) (r : SetResults) (propId : CapProp) (value : Double)
    (v : RaspiCamCv) : Prop :=
  ∃ answer v', v.set pf r propId value = .ok (answer, v') ∧
    (answer = false → v' = v) ∧
    (answer = true → RaspiCamCv.Reports propId → v'.Took pf value propId)

/-- The call is not about the frame rate, and while the camera is open it is
    neither about the sensor mode nor asks for a format; or it asks for what is
    recorded. -/
def RaspiCamCv.Heeded (pf : Platform) (value : Double) (v : RaspiCamCv) : CapProp → Prop
  | .fps => v.camera.impl.state.framerate = (toInt pf value).toInt
  | .mode => v.camera.impl.isOpened = true →
      v.camera.impl.state.sensorMode = (toInt pf value).toInt
  | .format => v.camera.impl.isOpened = true → ∀ fmt ∈ requested value,
      v.camera.impl.state.captureFtm = fmt
  | _ => True

section Answers

variable {pf : Platform} {r : SetResults} {propId : CapProp} {value : Double} {v v' : RaspiCamCv}

theorem truthful_of_false (h : v.set pf r propId value = .ok (false, v')) :
    v.Truthful pf r propId value ↔ v' = v := by
  constructor
  · rintro ⟨answer, u, hu, hsame, _⟩
    rcases Prod.mk.inj (Except.ok.inj (h.symm.trans hu)) with ⟨rfl, rfl⟩
    exact hsame rfl
  · intro hsame
    exact ⟨false, v', h, fun _ => hsame, fun h => absurd h Bool.false_ne_true⟩

theorem truthful_of_true (h : v.set pf r propId value = .ok (true, v'))
    (hreports : RaspiCamCv.Reports propId) :
    v.Truthful pf r propId value ↔ v'.Took pf value propId := by
  constructor
  · rintro ⟨answer, u, hu, _, htook⟩
    rcases Prod.mk.inj (Except.ok.inj (h.symm.trans hu)) with ⟨rfl, rfl⟩
    exact htook rfl hreports
  · intro htook
    exact ⟨true, v', h, fun h => absurd h.symm Bool.false_ne_true, fun _ _ => htook⟩

/-- A property with a setter of the implementation that goes through. -/
theorem truthful_of_setting (ha : v.camera.Attached) (x : Setting)
    (hset : v.set pf r propId value = do .ok (true, v.with (← x.apply r v.camera)))
    (hreports : RaspiCamCv.Reports propId)
    (htook : ∀ c, c.impl = { v.camera.impl with state := x.recorded v.camera.impl.state } →
      (v.with c).Took pf value propId) : v.Truthful pf r propId value := by
  rcases setting_ok ha x r with ⟨c, hc, himpl⟩
  have hdone : v.set pf r propId value = .ok (true, v.with c) := by rw [hset, hc, ok_bind]
  exact (truthful_of_true hdone hreports).mpr (htook c himpl)

/-- Whatever is asked of the exposure is recorded. -/
theorem exposure_truthful (ha : v.camera.Attached) : v.Truthful pf r .exposure value := by
  have hreports : RaspiCamCv.Reports .exposure := (reports_iff _).mpr (by decide)
  by_cases hasks : AsksShutter value
  · refine truthful_of_setting ha
      (.shutterSpeed (toUnsigned pf (Scaler.scale 0 100 0 330000 value)))
      ?_ hreports fun c himpl => ⟨fun _ => ?_, fun h => absurd hasks h⟩
    · rcases hasks with ⟨q, rfl, hq⟩
      simp only [RaspiCamCv.set, RaspiCamCv.setExposure, if_pos hq]
      rfl
    · rw [show (v.with c).camera.impl = c.impl from rfl, himpl]
      exact nearest_upper 330000 _
  · rcases setting_ok ha (.exposure .auto) r with ⟨d, hd, hdimpl⟩
    have had : d.Attached := attached_step _ _ _ ha (step_set (x := .exposure .auto) hd)
    rcases setting_ok had (.shutterSpeed 0) r with ⟨c, hc, himpl⟩
    have hexposure : Video.setExposure r v.camera .auto = .ok d := hd
    have hshutter : setShutterSpeed r d 0 = .ok c := hc
    have hset : v.set pf r .exposure value = .ok (true, v.with c) := by
      cases value with
      | finite q =>
          have hq : ¬ (0 < q ∧ q ≤ 100) := fun h => hasks ⟨q, rfl, h⟩
          simp only [RaspiCamCv.set, RaspiCamCv.setExposure, if_neg hq, hexposure, ok_bind,
            hshutter]
      | posInf =>
          simp only [RaspiCamCv.set, RaspiCamCv.setExposure, hexposure, ok_bind, hshutter]
      | negInf =>
          simp only [RaspiCamCv.set, RaspiCamCv.setExposure, hexposure, ok_bind, hshutter]
      | nan =>
          simp only [RaspiCamCv.set, RaspiCamCv.setExposure, hexposure, ok_bind, hshutter]
    refine (truthful_of_true hset hreports).mpr ⟨fun h => absurd h hasks, fun _ => ?_⟩
    rw [show (v.with c).camera.impl = c.impl from rfl, himpl, hdimpl]
    exact ⟨rfl, rfl⟩

/-- An open camera keeps its sensor mode, a closed one takes the new one. -/
theorem mode_truthful_iff :
    v.Truthful pf r .mode value ↔ (v.camera.impl.isOpened = true →
      v.camera.impl.state.sensorMode = (toInt pf value).toInt) := by
  have hset : v.set pf r .mode value
      = .ok (true, v.with (setSensorMode (toInt pf value) v.camera)) := rfl
  rw [truthful_of_true hset ((reports_iff _).mpr (by decide))]
  by_cases ho : v.camera.impl.isOpened = true
  · rw [setSensorMode, if_pos ho]
    exact ⟨fun h _ => h, fun h => h ho⟩
  · rw [setSensorMode, if_neg ho]
    exact iff_of_true rfl fun h => absurd h ho

/-- The format of an open camera stays, and its pixel type does not. -/
theorem format_truthful_iff :
    v.Truthful pf r .format value ↔ (v.camera.impl.isOpened = true →
      ∀ fmt ∈ requested value, v.camera.impl.state.captureFtm = fmt) := by
  have hset : v.set pf r .format value = .ok (v.setFormat value) := rfl
  cases hreq : requested value with
  | none =>
      rw [setFormat_other v hreq] at hset
      exact iff_of_true ((truthful_of_false hset).mpr rfl)
        fun _ fmt h => absurd h (Option.not_mem_none fmt)
  | some fmt =>
      rw [(setFormat_requested v hreq).1] at hset
      rw [truthful_of_true hset ((reports_iff _).mpr (by decide))]
      simp only [RaspiCamCv.Took, hreq, Option.mem_some_iff, exists_eq_left', true_and, forall_eq']
      by_cases ho : v.camera.impl.isOpened = true
      · rw [Video.setFormat, if_pos ho]
        exact ⟨fun h _ => h, fun h => h ho⟩
      · rw [Video.setFormat, if_neg ho]
        exact iff_of_true rfl fun h => absurd h ho

/-- The frame rate is recorded, and the answer denies it. -/
theorem fps_truthful_iff :
    v.Truthful pf r .fps value ↔ v.camera.impl.state.framerate = (toInt pf value).toInt := by
  have hset : v.set pf r .fps value
      = .ok (false, v.with (setFrameRate (toInt pf value) v.camera)) := rfl
  rw [truthful_of_false hset]
  constructor
  · intro h
    rw [← h]
    rfl
  · intro h
    unfold RaspiCamCv.with setFrameRate Camera.record
    rw [← h]

/-- Which calls are answered truthfully. -/
theorem truthful_iff (ha : v.camera.Attached) :
    v.Truthful pf r propId value ↔ v.Heeded pf value propId := by
  cases propId with
  | mode => exact mode_truthful_iff
  | format => exact format_truthful_iff
  | fps => exact fps_truthful_iff
  | exposure => exact iff_of_true (exposure_truthful ha) trivial
  | frameWidth =>
      have hreports : RaspiCamCv.Reports .frameWidth := (reports_iff _).mpr (by decide)
      refine iff_of_true ((truthful_of_true rfl hreports).mpr ?_) trivial
      have hlt := (toUnsigned pf value).toNat_lt
      simp only [RaspiCamCv.Took, RaspiCamCv.with, setWidth, Camera.record, PrivateImpl.getWidth,
        u32, i32]
      omega
  | frameHeight =>
      have hreports : RaspiCamCv.Reports .frameHeight := (reports_iff _).mpr (by decide)
      refine iff_of_true ((truthful_of_true rfl hreports).mpr ?_) trivial
      have hlt := (toUnsigned pf value).toNat_lt
      simp only [RaspiCamCv.Took, RaspiCamCv.with, setHeight, Camera.record, PrivateImpl.getHeight,
        u32, i32]
      omega
  | brightness =>
      refine iff_of_true (truthful_of_setting ha (.brightness _) rfl
        ((reports_iff _).mpr (by decide))
        fun c himpl => ?_) trivial
      simp only [RaspiCamCv.Took, RaspiCamCv.with, himpl]
      exact nearest_upper 100 _
  | contrast =>
      refine iff_of_true (truthful_of_setting ha (.contrast _) rfl ((reports_iff _).mpr (by decide))
        fun c himpl => ?_) trivial
      simp only [RaspiCamCv.Took, RaspiCamCv.with, himpl]
      exact nearest_clamp (by decide) _
  | saturation =>
      refine iff_of_true (truthful_of_setting ha (.saturation _) rfl
        ((reports_iff _).mpr (by decide))
        fun c himpl => ?_) trivial
      simp only [RaspiCamCv.Took, RaspiCamCv.with, himpl]
      exact nearest_clamp (by decide) _
  | gain =>
      refine iff_of_true (truthful_of_setting ha (.iso _) rfl ((reports_iff _).mpr (by decide))
        fun c himpl => ?_) trivial
      simp only [RaspiCamCv.Took, RaspiCamCv.with, himpl]
      rfl
  | convertRgb =>
      refine iff_of_true ⟨true, _, rfl, fun h => absurd h.symm Bool.false_ne_true, fun _ h => ?_⟩
        trivial
      exact absurd ((reports_iff _).mp h) (by decide)
  | other id => exact iff_of_true ((truthful_of_false rfl).mpr rfl) trivial

end Answers

end Video

namespace Still

open Video (CapProp cv8uc3)

/-- The recorded setting of a property, or the constant that is shown of it, is
    what the value comes to. -/
def RaspiCamStillCv.Took (pf : Platform) (value : Double) (v : RaspiCamStillCv) : CapProp → Prop
  | .frameWidth => v.camera.impl.width = (toUnsigned pf value).toNat
  | .frameHeight => v.camera.impl.height = (toUnsigned pf value).toNat
  | .fps => value = .finite 30
  | .format => value = .finite cv8uc3
  | .mode => value = .finite 0
  | .brightness => Nearest 0 100 (toUnsigned pf value).toNat v.camera.impl.brightness
  | .contrast => Nearest (-100) 100 (toInt pf (Scaler.scale 0 100 (-100) 100 value)).toInt
      v.camera.impl.contrast
  | .saturation => Nearest (-100) 100 (toInt pf (Scaler.scale 0 100 (-100) 100 value)).toInt
      v.camera.impl.saturation
  | .gain => v.camera.impl.iso = (toInt pf (Scaler.scale 0 100 0 800 value)).toInt
  | .convertRgb => value ≠ .finite 0
  | .exposure => False
  | .other _ => False

/-- The answer of the call is to be believed. -/
def RaspiCamStillCv.Truthful (pf : Platform) (propId : CapProp) (value : Double)
    (v : RaspiCamStillCv) : Prop :=
  ((v.set pf propId value).1 = false → (v.set pf propId value).2 = v) ∧
  ((v.set pf propId value).1 = true → RaspiCamStillCv.Reports propId →
    (v.set pf propId value).2.Took pf value propId)

/-- The call does not ask for a brightness over 100, nor for no conversion to
    RGB. -/
def RaspiCamStillCv.Heeded (pf : Platform) (value : Double) : CapProp → Prop
  | .brightness => (toUnsigned pf value).toNat ≤ 100
  | .convertRgb => value ≠ .finite 0
  | _ => True

section Answers

variable {pf : Platform} {propId : CapProp} {value : Double} {v : RaspiCamStillCv}

theorem truthful_of_false (h : v.set pf propId value = (false, v)) :
    v.Truthful pf propId value := by
  refine ⟨fun _ => by rw [h], fun htrue => ?_⟩
  rw [h] at htrue
  exact absurd htrue Bool.false_ne_true

theorem truthful_of_true {v' : RaspiCamStillCv} (h : v.set pf propId value = (true, v'))
    (hreports : RaspiCamStillCv.Reports propId) :
    v.Truthful pf propId value ↔ v'.Took pf value propId := by
  unfold RaspiCamStillCv.Truthful
  rw [h]
  exact ⟨fun htook => htook.2 rfl hreports,
    fun htook => ⟨fun hfalse => absurd hfalse.symm Bool.false_ne_true, fun _ _ => htook⟩⟩

/-- A number of `unsigned int` as a value converts to itself. -/
theorem toUnsigned_natCast (pf : Platform) {n : Nat} (h : n < 4294967296) :
    (toUnsigned pf (.finite n)).toNat = n := by
  have hrange : (-1 : Rat) < n ∧ (n : Rat) < 4294967296 :=
    ⟨Std.lt_of_lt_of_le (by decide) Rat.natCast_nonneg, by exact_mod_cast h⟩
  simp only [toUnsigned, if_pos hrange, truncate, Rat.num_natCast, Rat.den_natCast]
  rw [Int.natCast_one, Int.tdiv_one, Int.toNat_natCast]
  exact UInt32.toNat_ofNat_of_lt h

/-- A side that is asked for as it is stays, and any other one is recorded. -/
theorem side_took {side : Nat} (hside : side < 4294967296) :
    (if value ≠ .finite side then (toUnsigned pf value).toNat else side)
      = (toUnsigned pf value).toNat := by
  by_cases h : value ≠ .finite side
  · rw [if_pos h]
  · rw [if_neg h, not_not.mp h, toUnsigned_natCast pf hside]

/-- The remainder modulo 100 is not the nearest value for a larger brightness. -/
theorem brightness_took (u : Nat) :
    Nearest 0 100 u (if u > 100 then u % 100 else u : Nat) ↔ u ≤ 100 := by
  constructor
  · intro h
    refine Nat.le_of_not_lt fun hgt => ?_
    have heq := h.unique (nearest_upper 100 u)
    rw [if_pos hgt, if_pos hgt] at heq
    omega
  · intro hle
    rw [if_neg (by omega)]
    exact nearest_self (by omega) (by omega)

/-- Which calls are answered truthfully. -/
theorem truthful_iff (hw : v.camera.impl.width < 4294967296)
    (hh : v.camera.impl.height < 4294967296) :
    v.Truthful pf propId value ↔ RaspiCamStillCv.Heeded pf value propId := by
  cases propId with
  | fps => exact iff_of_true (truthful_of_false rfl) trivial
  | format => exact iff_of_true (truthful_of_false rfl) trivial
  | mode => exact iff_of_true (truthful_of_false rfl) trivial
  | other id => exact iff_of_true (truthful_of_false rfl) trivial
  | frameWidth =>
      have hreports : RaspiCamStillCv.Reports .frameWidth := (reports_iff _).mpr (by decide)
      refine iff_of_true ((truthful_of_true rfl hreports).mpr ?_) trivial
      rw [RaspiCamStillCv.Took, ← side_took hw]
      by_cases h : value ≠ .finite v.camera.impl.width
      · rw [if_pos h, if_pos h]
        rfl
      · rw [if_neg h, if_neg h]
  | frameHeight =>
      have hreports : RaspiCamStillCv.Reports .frameHeight := (reports_iff _).mpr (by decide)
      refine iff_of_true ((truthful_of_true rfl hreports).mpr ?_) trivial
      rw [RaspiCamStillCv.Took, ← side_took hh]
      by_cases h : value ≠ .finite v.camera.impl.height
      · rw [if_pos h, if_pos h]
        rfl
      · rw [if_neg h, if_neg h]
  | brightness =>
      have hreports : RaspiCamStillCv.Reports .brightness := (reports_iff _).mpr (by decide)
      rw [truthful_of_true rfl hreports]
      exact brightness_took (toUnsigned pf value).toNat
  | contrast =>
      have hreports : RaspiCamStillCv.Reports .contrast := (reports_iff _).mpr (by decide)
      refine iff_of_true ((truthful_of_true rfl hreports).mpr ?_) trivial
      exact nearest_clamp (by decide) _
  | saturation =>
      have hreports : RaspiCamStillCv.Reports .saturation := (reports_iff _).mpr (by decide)
      refine iff_of_true ((truthful_of_true rfl hreports).mpr ?_) trivial
      exact nearest_clamp (by decide) _
  | gain =>
      have hreports : RaspiCamStillCv.Reports .gain := (reports_iff _).mpr (by decide)
      refine iff_of_true ((truthful_of_true rfl hreports).mpr ?_) trivial
      rfl
  | convertRgb =>
      have hreports : RaspiCamStillCv.Reports .convertRgb := (reports_iff _).mpr (by decide)
      exact truthful_of_true rfl hreports
  | exposure =>
      refine iff_of_true ⟨fun h => absurd h.symm Bool.false_ne_true, fun _ h => ?_⟩ trivial
      exact absurd ((reports_iff _).mp h) (by decide)

end Answers

end Still

/-- In every state of any run of either wrapper, a call of `set` is answered
    truthfully exactly when it meets its condition. -/
theorem set_truthful_iff (pf : Platform) (ls : List Video.CvCall) (ks : List Still.CvOp) :
    Always (Video.callStep pf) (fun v => ∀ r propId value,
        v.Truthful pf r propId value ↔ v.Heeded pf value propId) .init ls ∧
      Always (Still.cvStep pf) (fun s => ∀ propId value,
        s.cv.Truthful pf propId value ↔ Still.RaspiCamStillCv.Heeded pf value propId) .init ks :=
  ⟨always_mono (fun _ ha _ _ _ => Video.truthful_iff ha) (Video.attached_calls pf ls),
    always_mono (fun _ hs _ _ => Still.truthful_iff hs.1 hs.2) (Still.sides_always pf ks)⟩

/-- Calls that mislead: the frame rate of a fresh camera, the sensor mode and
    the format of an open one, a brightness of 150 and no conversion to RGB of
    a still camera. -/
theorem set_misleads :
    ¬ Video.RaspiCamCv.init.Truthful ⟨fun _ => 0, fun _ => 0⟩ .allOk .fps (.finite 30) ∧
    (∃ v, run (Video.callStep ⟨fun _ => 0, fun _ => 0⟩) .init [.op (.openCamera .allOk)] = some v ∧
      ¬ v.Truthful ⟨fun _ => 0, fun _ => 0⟩ .allOk .mode (.finite 1) ∧
      ¬ v.Truthful ⟨fun _ => 0, fun _ => 0⟩ .allOk .format (.finite Video.cv8uc1)) ∧
    ¬ Still.RaspiCamStillCv.init.Truthful ⟨fun _ => 0, fun _ => 0⟩ .brightness (.finite 150) ∧
    ¬ Still.RaspiCamStillCv.init.Truthful ⟨fun _ => 0, fun _ => 0⟩ .convertRgb (.finite 0) := by
  refine ⟨fun h => absurd (Video.fps_truthful_iff.mp h) (by decide), ?_,
    fun h => ?_, fun h => (Still.truthful_iff (by decide) (by decide)).mp h rfl⟩
  · have hrun : (run (Video.callStep ⟨fun _ => 0, fun _ => 0⟩) .init
        [.op (.openCamera .allOk)]).map (fun v => (v.camera.impl.isOpened,
          v.camera.impl.state.sensorMode, v.camera.impl.state.captureFtm)) =
        some (true, 0, .rgb) := by
      decide
    rcases Option.map_eq_some_iff.mp hrun with ⟨v, hv, hshape⟩
    rcases Prod.mk.inj hshape with ⟨hopen, hrest⟩
    rcases Prod.mk.inj hrest with ⟨hmode, hformat⟩
    refine ⟨v, hv, fun h => ?_, fun h => ?_⟩
    · have hmode' := Video.mode_truthful_iff.mp h hopen
      exact absurd (hmode.symm.trans hmode') (by decide)
    · have hformat' := Video.format_truthful_iff.mp h hopen .gray rfl
      exact absurd (hformat.symm.trans hformat') (by decide)
  · have hle : (toUnsigned ⟨fun _ => 0, fun _ => 0⟩ (.finite 150)).toNat ≤ 100 :=
      (Still.truthful_iff (by decide) (by decide)).mp h
    exact absurd hle (by decide)

end RaspiCam
