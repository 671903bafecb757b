import RaspiCam.Video.Cv
import RaspiCam.Video.Feedback

/-!
# Reading Properties Back

`RaspiCam_Cv::get` shows the recorded settings as values of properties, some of
them on a scale of their own. Beside `set` the wrapper has a setter for each of
eight more settings, which bring their argument into its range and call the
implementation.

`call_run` relates the wrapper to the implementation: every call amounts to a
run of operations of the implementation. So what holds in every run of
`Video.step` holds of the camera behind the wrapper; in particular the
component of an open camera exists, and no call of `set` faults.

## Main definitions

* `RaspiCamCv.get`: Reading a property.
* `CvSetter`: The setters beside `set`.
* `CvCall`, `callStep`: The wrapper with all of its calls.

## Theorems

* `call_run`: A call as a run of the implementation.
* `attached_call`: The camera behind the wrapper.
* `setting_ok`: What a setter of the implementation does.
* `reports_iff`: The properties that are shown.
-/

namespace RaspiCam

open Mmal Machine Transition

namespace Video

/-- `Private_Impl::getSensorMode`. -/
def PrivateImpl.getSensorMode (p : PrivateImpl) : Nat := u32 p.state.sensorMode

/-- `Private_Impl::getBrightness`. -/
def PrivateImpl.getBrightness (p : PrivateImpl) : Nat := u32 p.state.brightness

/-- `Private_Impl::getISO`. -/
def PrivateImpl.getIso (p : PrivateImpl) : Int := p.state.iso

/-- `Private_Impl::getContrast`. -/
def PrivateImpl.getContrast (p : PrivateImpl) : Int := p.state.contrast

/-- `Private_Impl::getSaturation`. -/
def PrivateImpl.getSaturation (p : PrivateImpl) : Int := p.state.saturation

/-- `Private_Impl::getShutterSpeed`. -/
def PrivateImpl.getShutterSpeed (p : PrivateImpl) : Nat := u32 p.state.shutterSpeed

/-- `Private_Impl::getFrameRate`. -/
def PrivateImpl.getFrameRate (p : PrivateImpl) : Int := p.state.framerate

/-- `RaspiCam_Cv::get`. An automatic shutter speed is shown as -1, like a
    property that is not known. -/
def RaspiCamCv.get (propId : CapProp) (v : RaspiCamCv) : Double :=
  let p := v.camera.impl
  match propId with
  | .mode => .finite p.getSensorMode
  | .frameWidth => .finite p.getWidth
  | .frameHeight => .finite p.getHeight
  | .fps => .finite p.getFrameRate
  | .format => .finite v.imgFormat
  | .brightness => .finite p.getBrightness
  | .contrast => Scaler.scale (-100) 100 0 100 (.finite p.getContrast)
  | .saturation => Scaler.scale (-100) 100 0 100 (.finite p.getSaturation)
  | .gain => Scaler.scale 0 800 0 100 (.finite p.getIso)
  | .exposure =>
    if p.getShutterSpeed = 0 then .finite (-1)
    else Scaler.scale 0 330000 0 100 (.finite p.getShutterSpeed)
  | .convertRgb => .finite (-1)
  | .other _ => .finite (-1)

/-- The setters of the wrapper beside `set`. -/
inductive CvSetter
  | rotation (nRotation : Int32)
  | imageEffect (nEffect : Int32)
  | videoStabilization (enable : Bool)
  | horizontalFlip (enable : Bool)
  | verticalFlip (enable : Bool)
  | exposureCompensation (value : Int32)
  | awb (nEnumValue : Int32)
  | metering (nEnumValue : Int32)

/-- What each of them asks of the implementation: `RaspiCam_Cv::setRotation`,
    `setImageEffect` and so on. -/
def CvSetter.setting : CvSetter → Setting
  | .rotation nRotation => .rotation (Int32.ofInt (max 0 (min nRotation.toInt 3) * 90))
  | .imageEffect nEffect =>
    .imageEffect (RaspicamImageEffect.ofNat (max 0 (min nEffect.toInt 19)).toNat)
  | .videoStabilization enable => .videoStabilization enable
  | .horizontalFlip enable => .horizontalFlip enable
  | .verticalFlip enable => .verticalFlip enable
  | .exposureCompensation value =>
    .exposureCompensation (Int32.ofInt (max (-10) (min value.toInt 10)))
  | .awb nEnumValue => .awb (RaspicamAwb.ofNat (max 0 (min nEnumValue.toInt 9)).toNat)
  | .metering nEnumValue =>
    .metering (RaspicamMetering.ofNat (max 0 (min nEnumValue.toInt 3)).toNat)

/-- The calls of the wrapper, and the device behind it. -/
inductive CvCall
  | op (o : CvOp)
  | setter (x : CvSetter) (r : SetResults)

/-- The wrapper with all of its calls. -/
def callStep (pf : Platform) (v : RaspiCamCv) : CvCall → Option RaspiCamCv
  | .op o => cvStep pf v o
  | .setter x r => ((x.setting.apply r v.camera).toOption).map v.with

/-- `get` shows something of the property, in some state. -/
def RaspiCamCv.Reports (propId : CapProp) : Prop := ∃ v, RaspiCamCv.get propId v ≠ .finite (-1)

/-- What a setter of the implementation does: it goes through, and records its
    argument. -/
theorem setting_ok {c : Camera} (ha : c.Attached) (x : Setting) (r : SetResults) :
    ∃ c', x.apply r c = .ok c' ∧ c'.impl = { c.impl with state := x.recorded c.impl.state } := by
  rcases Setting.apply_total x r ha with ⟨c', hc'⟩
  refine ⟨c', hc', ?_⟩
  rw [Setting.apply_params] at hc'
  exact (put_ok hc' (Setting.commit_quiet x)).1

theorem step_set {c c' : Camera} {x : Setting} {r : SetResults} (h : x.apply r c = .ok c') :
    step c (.set x r) = some c' := by
  have hexec : exec c (.set x r) = .ok c' := h
  rw [step, hexec]
  rfl

theorem run_set {c c' : Camera} {x : Setting} {r : SetResults} (h : x.apply r c = .ok c') :
    ∃ os, run step c os = some c' :=
  ⟨[.set x r], by rw [run_cons, step_set h, Option.bind_some, run_nil]⟩

/-- Setting the exposure as a run of the implementation. -/
theorem setExposure_run {pf : Platform} {r : SetResults} {value : Double} {c c' : Camera}
    (h : RaspiCamCv.setExposure pf r value c = .ok c') : ∃ os, run step c os = some c' := by
  have hauto : (do setShutterSpeed r (← Video.setExposure r c .auto) 0) = Except.ok c' →
      ∃ os, run step c os = some c' := by
    intro h
    rcases bind_ok h with ⟨d, hd, h⟩
    refine ⟨[.set (.exposure .auto) r, .set (.shutterSpeed 0) r], ?_⟩
    rw [run_cons, step_set (x := .exposure .auto) hd, Option.bind_some, run_cons,
      step_set (x := .shutterSpeed 0) h, Option.bind_some, run_nil]
  unfold RaspiCamCv.setExposure at h
  cases value with
  | finite q =>
      by_cases hq : 0 < q ∧ q ≤ 100
      · simp only [if_pos hq] at h
        exact run_set (x := .shutterSpeed _) h
      · simp only [if_neg hq] at h
        exact hauto h
  | posInf => exact hauto h
  | negInf => exact hauto h
  | nan => exact hauto h

/-- A call of `set` as a run of the implementation. -/
theorem set_run {pf : Platform} {r : SetResults} {propId : CapProp} {value : Double}
    {v v' : RaspiCamCv} {b : Bool} (h : v.set pf r propId value = .ok (b, v')) :
    ∃ os, run step v.camera os = some v'.camera := by
  have hsetter :
      ∀ {x : Setting}, (do .ok (true, v.with (← x.apply r v.camera))) = Except.ok (b, v') →
      ∃ os, run step v.camera os = some v'.camera := by
    intro x h
    rcases bind_ok h with ⟨c, hc, h⟩
    rw [← (Prod.mk.inj (Except.ok.inj h)).2]
    exact run_set hc
  cases propId with
  | mode =>
      rw [← (Prod.mk.inj (Except.ok.inj h)).2]
      exact ⟨[.setSensorMode _], rfl⟩
  | frameWidth =>
      rw [← (Prod.mk.inj (Except.ok.inj h)).2]
      exact ⟨[.setWidth _], rfl⟩
  | frameHeight =>
      rw [← (Prod.mk.inj (Except.ok.inj h)).2]
      exact ⟨[.setHeight _], rfl⟩
  | fps =>
      rw [← (Prod.mk.inj (Except.ok.inj h)).2]
      exact ⟨[.setFrameRate _], rfl⟩
  | format =>
      have hset : v.setFormat value = (b, v') := Except.ok.inj h
      cases hreq : requested value with
      | none =>
          rw [setFormat_other v hreq] at hset
          rw [← (Prod.mk.inj hset).2]
          exact ⟨[], rfl⟩
      | some fmt =>
          rw [(setFormat_requested v hreq).1] at hset
          rw [← (Prod.mk.inj hset).2]
          exact ⟨[.setFormat fmt], rfl⟩
  | brightness => exact hsetter (x := .brightness _) h
  | contrast => exact hsetter (x := .contrast _) h
  | saturation => exact hsetter (x := .saturation _) h
  | gain => exact hsetter (x := .iso _) h
  | exposure =>
      rcases bind_ok h with ⟨c, hc, h⟩
      rw [← (Prod.mk.inj (Except.ok.inj h)).2]
      exact setExposure_run hc
  | convertRgb =>
      rw [← (Prod.mk.inj (Except.ok.inj h)).2]
      exact ⟨[], rfl⟩
  | other propId =>
      rw [← (Prod.mk.inj (Except.ok.inj h)).2]
      exact ⟨[], rfl⟩

/-- A call of the wrapper as a run of the implementation. -/
theorem call_run {pf : Platform} {v v' : RaspiCamCv} {l : CvCall} (h : callStep pf v l = some v') :
    ∃ os, run step v.camera os = some v'.camera := by
  cases l with
  | setter x r =>
      rcases Option.map_eq_some_iff.mp h with ⟨c, hc, rfl⟩
      exact run_set (toOption_ok hc)
  | op o =>
      have hcall : ∀ op : Op, (step v.camera op).map v.with = some v' →
          ∃ os, run step v.camera os = some v'.camera := by
        intro op hm
        rcases Option.map_eq_some_iff.mp hm with ⟨c, hc, rfl⟩
        exact ⟨[op], by rw [run_cons, hc, Option.bind_some, run_nil]; rfl⟩
      cases o with
      | set r propId value =>
          rcases Option.map_eq_some_iff.mp h with ⟨⟨b, u⟩, hu, rfl⟩
          exact set_run (toOption_ok hu)
      | setUserCallback userCallback => exact hcall (.setUserCallback userCallback) h
      | openCamera o => exact hcall (.openCamera true o) h
      | release => exact hcall .release h
      | grab => exact hcall .grab h
      | retrieve => exact hcall .retrieve h
      | frame b fresh r => exact hcall (.frame b fresh r) h
      | control e => exact hcall (.control e) h

/-- The camera behind the wrapper is as the implementation leaves it. -/
theorem attached_call {pf : Platform} {v v' : RaspiCamCv} {l : CvCall} (ha : v.camera.Attached)
    (h : callStep pf v l = some v') : v'.camera.Attached := by
  rcases call_run h with ⟨os, hos⟩
  exact run_invariant attached_step ha hos

theorem attached_calls (pf : Platform) (ls : List CvCall) :
    Always (callStep pf) (fun v => v.camera.Attached) .init ls :=
  always_of_step (fun _ _ _ ha hstep => attached_call ha hstep) ledger_init.attached ls

/-- The properties that are shown. -/
theorem reports_iff (propId : CapProp) : RaspiCamCv.Reports propId ↔
    propId ∈ [CapProp.mode, .frameWidth, .frameHeight, .fps, .format, .brightness, .contrast,
      .saturation, .gain, .exposure] := by
  constructor
  · rintro ⟨v, hv⟩
    cases propId with
    | convertRgb => exact absurd rfl hv
    | other id => exact absurd rfl hv
    | _ => decide
  · intro h
    cases propId with
    | convertRgb => exact absurd h (by decide)
    | other id => exact absurd h (by simp)
    | _ =>
        -- Every setting at the upper end of its range.
        exact ⟨RaspiCamCv.init.with (Camera.init.record { defaultStateParams with
          contrast := 100, saturation := 100, iso := 800, shutterSpeed := 330000 }), by decide⟩

end Video

end RaspiCam
