import RaspiCam.Still.Cv

/-!
# Reading Properties of Stills Back

`RaspiCam_Still_Cv::get` shows the recorded settings on the same scales as
`RaspiCam_Cv::get`. Four properties have no setting behind them: the frame
rate, the format, the sensor mode and the conversion to RGB are constants, and
the exposure is not shown yet.

The sides are kept in fields of type `unsigned int`. `sides_always` carries
their range along any run.

## Main definitions

* `RaspiCamStillCv.get`: Reading a property.
* `RaspiCamStillCv.Reports`: Properties of which something is shown.
* `CvSession.Sides`: The range of the sides.

## Theorems

* `reports_iff`: The properties that are shown.
* `sides_always`: The sides in any run.
-/

namespace RaspiCam

open Mmal Machine Transition

namespace Still

open Video (CapProp cv8uc3)

/-- `RaspiCam_Still_Cv::get`. -/
def RaspiCamStillCv.get (propId : CapProp) (v : RaspiCamStillCv) : Double :=
  let p := v.camera.impl
  match propId with
  | .frameWidth => .finite p.width
  | .frameHeight => .finite p.height
  | .fps => .finite 30
  | .format => .finite cv8uc3
  | .mode => .finite 0
  | .brightness => .finite p.brightness
  | .contrast => Scaler.scale (-100) 100 0 100 (.finite p.contrast)
  | .saturation => Scaler.scale (-100) 100 0 100 (.finite p.saturation)
  | .gain => Scaler.scale 0 800 0 100 (.finite p.iso)
  | .exposure => .finite (-1)
  | .convertRgb => .finite 1
  | .other _ => .finite (-1)

/-- `get` shows something of the property, in some state. -/
def RaspiCamStillCv.Reports (propId : CapProp) : Prop :=
  ∃ v, RaspiCamStillCv.get propId v ≠ .finite (-1)

/-- The sides are values of `unsigned int`. -/
def CvSession.Sides (s : CvSession) : Prop :=
  s.cv.camera.impl.width < 4294967296 ∧ s.cv.camera.impl.height < 4294967296

/-- The properties that are shown. -/
theorem reports_iff (propId : CapProp) : RaspiCamStillCv.Reports propId ↔
    propId ∈ [CapProp.frameWidth, .frameHeight, .fps, .format, .mode, .brightness, .contrast,
      .saturation, .gain, .convertRgb] := by
  constructor
  · rintro ⟨v, hv⟩
    cases propId with
    | exposure => exact absurd rfl hv
    | other id => exact absurd rfl hv
    | _ => decide
  · intro h
    cases propId with
    | exposure => exact absurd h (by decide)
    | other id => exact absurd h (by simp)
    | _ =>
        -- Every setting at the upper end of its range.
        exact ⟨RaspiCamStillCv.init.onImpl fun p =>
          { p with contrast := 100, saturation := 100, iso := 800 }, by decide⟩

/-- What does not change the sides keeps their range. -/
theorem CvSession.Sides.congr {s s' : CvSession} (hs : s.Sides)
    (h : s'.cv.camera.impl.size = s.cv.camera.impl.size) : s'.Sides := by
  rcases Prod.mk.inj h with ⟨hw, hh⟩
  exact ⟨hw ▸ hs.1, hh ▸ hs.2⟩

/-- A side is set to a value of `unsigned int`. -/
theorem CvSession.Sides.set {s : CvSession} (hs : s.Sides) (pf : Platform) (propId : CapProp)
    (value : Double) : ({ s with cv := (s.cv.set pf propId value).2 } : CvSession).Sides := by
  have hlt := (toUnsigned pf value).toNat_lt
  cases propId with
  | frameWidth =>
      by_cases h : value ≠ .finite s.cv.camera.impl.width
      · simp only [RaspiCamStillCv.set, if_pos h]
        exact ⟨hlt, hs.2⟩
      · simp only [RaspiCamStillCv.set, if_neg h]
        exact hs
  | frameHeight =>
      by_cases h : value ≠ .finite s.cv.camera.impl.height
      · simp only [RaspiCamStillCv.set, if_pos h]
        exact ⟨hs.1, hlt⟩
      · simp only [RaspiCamStillCv.set, if_neg h]
        exact hs
  | _ => exact hs

theorem sides_step {pf : Platform} {s s' : CvSession} {l : CvOp} (hs : s.Sides)
    (hstep : cvStep pf s l = some s') : s'.Sides := by
  cases l with
  | openCamera o r =>
      rcases Option.map_eq_some_iff.mp hstep with ⟨⟨b, v⟩, hv, rfl⟩
      rcases bind_ok (toOption_ok hv) with ⟨⟨initialized, c⟩, hc, hv⟩
      rcases Prod.mk.inj (Except.ok.inj hv) with ⟨rfl, rfl⟩
      exact hs.congr (size_anew (initializeCamera_anew hc))
  | set propId value =>
      rw [← Option.some.inj hstep]
      exact hs.set pf propId value
  | grab g =>
      rcases Option.map_eq_some_iff.mp hstep with ⟨⟨t, v⟩, hv, rfl⟩
      rcases grab_some hv with ⟨c, hc, rfl⟩
      exact hs.congr (size_anew (takePictureInto_some hc).1)
  | retrieve image fresh =>
      rw [← Option.some.inj hstep]
      exact hs

theorem sides_always (pf : Platform) (ls : List CvOp) :
    Always (cvStep pf) CvSession.Sides .init ls :=
  always_of_step (fun _ _ _ hs hstep => sides_step hs hstep) ⟨by decide, by decide⟩ ls

end Still

end RaspiCam
