import RaspiCam.Lib.Unwinding
import RaspiCam.Video.Ledger

/-!
# What the Camera Reports

The control port reports the exposure and the white balance gains the camera
is using, and `camera_control_callback` stores them where the setters store
what the user asked for. From there they are committed again: all of them when
the camera is next opened, and the shutter speed with every frame while the
exposure mode is FIXEDFPS. Since a shutter speed other than automatic switches
the exposure mode to FIXEDFPS when the camera is opened, a camera that was
left on automatic stays with the last reported exposure after it was released
and opened again.

`feedback_iff` compares two runs that differ in their reports only: the same
values are sent to the device exactly when, at every open and at every frame in
mode FIXEDFPS, what was last set or reported is the same in both.

## Main definitions

* `Feedback`: The settings that reports have to do with.
* `Camera.told`: A camera with other values of these settings.
* `commitParams`, `Setting.params`, `refreshParams`: What is sent to the device.
* `Op.sends`: The values an operation sends of those settings.
* `Op.settles`: What an operation makes of the settings.
* `lastPut`: What was last set or reported.
* `Unaffected`: An operation finds the same on both sides.

## Theorems

* `commitParameters_eq`, `Setting.apply_params`, `refreshShutter_eq`: These are
  the values that are sent.
* `step_told`: The other values make no difference to anything else.
* `step_settings`: The settings after an operation.
* `reported_run`: The settings after a run.
* `sends_iff`: When an operation sends the same on both sides.
* `feedback_iff`: The runs between which reports make no difference.
* `reopened_with_reported_exposure`: A run in which they do.
-/

namespace RaspiCam

open Mmal Machine Transition

namespace Video

/-- The settings that the camera reports, and the exposure mode, which depends
    on one of them. -/
structure Feedback where
  shutterSpeed : Int
  awbgRed : Float32
  awbgBlue : Float32
  rpcExposureMode : RaspicamExposure
deriving DecidableEq

/-- The current values. -/
def RaspividState.feedback (s : RaspividState) : Feedback where
  shutterSpeed := s.shutterSpeed
  awbgRed := s.awbgRed
  awbgBlue := s.awbgBlue
  rpcExposureMode := s.rpcExposureMode

/-- The state with other values. -/
def RaspividState.told (s : RaspividState) (f : Feedback) : RaspividState :=
  { s with
    shutterSpeed := f.shutterSpeed
    awbgRed := f.awbgRed
    awbgBlue := f.awbgBlue
    rpcExposureMode := f.rpcExposureMode }

/-- The object with other values. -/
def PrivateImpl.told (p : PrivateImpl) (f : Feedback) : PrivateImpl :=
  { p with state := p.state.told f }

/-- The object with other values, in front of a device that may have been told
    other values. -/
def Camera.told (c : Camera) (f : Feedback) (v : World) : Camera := ⟨c.impl.told f, v⟩

/-- Two devices that differ in their parameters only. -/
def SameDevices (w v : World) : Prop := v.forgetParams = w.forgetParams

namespace SameDevices

variable {w v : World}

theorem alive (h : SameDevices w v) (g : Handle) : v.alive g = w.alive g := by
  rw [← World.alive_forgetParams, h, World.alive_forgetParams]

theorem pools (h : SameDevices w v) : v.pools = w.pools := by
  rw [← World.pools_forgetParams, h, World.pools_forgetParams]

theorem poolAlive (h : SameDevices w v) (g : Handle) : v.poolAlive g = w.poolAlive g :=
  World.poolAlive_congr h.pools g

theorem portEnabled (h : SameDevices w v) (g : Handle) (p : PortId) :
    v.portEnabled g p = w.portEnabled g p := by
  rw [← World.portEnabled_forgetParams, h, World.portEnabled_forgetParams]

theorem committed (h : SameDevices w v) (g : Handle) (p : PortId) :
    v.committed g p = w.committed g p := by
  rw [← World.committed_forgetParams, h, World.committed_forgetParams]

theorem nextComponent (h : SameDevices w v) : v.nextComponent = w.nextComponent := by
  rw [← World.nextComponent_forgetParams, h, World.nextComponent_forgetParams]

theorem nextPool (h : SameDevices w v) : v.nextPool = w.nextPool := by
  rw [World.nextPool, h.pools, World.nextPool]

end SameDevices

/-- Nothing but those values and what the device was told is different. -/
def Twin (c d : Camera) : Prop :=
  ∃ f v, d = c.told f v ∧ SameDevices c.world v

/-- The exposure mode after everything was committed. -/
def Feedback.committed (f : Feedback) : Feedback :=
  if f.shutterSpeed ≠ 0 then { f with rpcExposureMode := .fixedfps } else f

/-- What `commitParameters` sends before the flips. -/
def commitParamsFirst (s : RaspividState) : List (PortId × Param) :=
  let rotation := s.rotation.tdiv 90 * 90
  [(.control, .saturation (percent s.saturation)), (.control, .sharpness (percent s.sharpness)),
   (.control, .contrast (percent s.contrast)), (.control, .brightness (percent s.brightness)),
   (.control, .iso (u32 s.iso))]
  ++ (if s.shutterSpeed ≠ 0 then [(.control, .shutterSpeed (u32 s.shutterSpeed))] else [])
  ++ [(.control, .exposureMode (convertExposure s.feedback.committed.rpcExposureMode)),
      (.control, .exposureComp s.exposureCompensation),
      (.control, .expMeteringMode (convertMetering s.rpcExposureMeterMode)),
      (.control, .imageEffect (convertImageEffect s.rpcImageEffect)),
      (.output 0, .rotation rotation), (.output 1, .rotation rotation),
      (.output 2, .rotation rotation)]

/-- The flips. -/
def flipParams (s : RaspividState) : List (PortId × Param) :=
  let mirror := mirrorOf s.hflip s.vflip
  [(.output 0, .mirror mirror), (.output 1, .mirror mirror), (.output 2, .mirror mirror)]

/-- What `commitParameters` sends after the flips. -/
def commitParamsThen (s : RaspividState) : List (PortId × Param) :=
  [(.control, .videoStabilisation s.videoStabilisation),
   (.control, .awbMode (convertAwb s.rpcAwbMode)),
   (.control, .customAwbGains (awbGain s.awbgRed) (awbGain s.awbgBlue))]

/-- What `commitParameters` sends. -/
def commitParams (s : RaspividState) : List (PortId × Param) :=
  commitParamsFirst s ++ flipParams s ++ commitParamsThen s

/-- The state after everything was committed. -/
def RaspividState.afterCommit (s : RaspividState) : RaspividState := s.told s.feedback.committed

/-- `commitParameters` in terms of what it sends. -/
theorem commitParameters_eq (s : RaspividState) (r : SetResults) (w : World) :
    commitParameters s r w = (do
      let w ← sendAll s.cameraComponent r (commitParamsFirst s) w
      let w ← sendWhileOk s.cameraComponent r (flipParams s) w
      let w ← sendAll s.cameraComponent r (commitParamsThen s) w
      .ok (s.afterCommit, w)) := by
  -- The shutter speed is the one commit that may be left out, and the one that
  -- changes the state: the exposure mode is committed after it.
  by_cases hs : s.shutterSpeed ≠ 0
  · have hc : s.feedback.committed = ⟨s.shutterSpeed, s.awbgRed, s.awbgBlue, .fixedfps⟩ :=
      if_pos hs
    simp only [commitParameters, commitSaturation, commitSharpness, commitContrast,
      commitBrightness, commitIso, commitShutterSpeed, commitExposure, commitExposureCompensation,
      commitMetering, commitImageEffect, commitRotation, commitFlips, commitVideoStabilization,
      commitAwb, commitAwbRb, commitParamsFirst, commitParamsThen, flipParams, if_pos hs, sendAll,
      List.cons_append, List.nil_append, bind_assoc, ok_bind, RaspividState.afterCommit, hc,
      RaspividState.told]
  · have hc : s.feedback.committed
        = ⟨s.shutterSpeed, s.awbgRed, s.awbgBlue, s.rpcExposureMode⟩ := if_neg hs
    simp only [commitParameters, commitSaturation, commitSharpness, commitContrast,
      commitBrightness, commitIso, commitShutterSpeed, commitExposure, commitExposureCompensation,
      commitMetering, commitImageEffect, commitRotation, commitFlips, commitVideoStabilization,
      commitAwb, commitAwbRb, commitParamsFirst, commitParamsThen, flipParams, if_neg hs, sendAll,
      List.cons_append, List.nil_append, bind_assoc, ok_bind, RaspividState.afterCommit, hc,
      RaspividState.told]

/-- The settings without those that are fixed when the camera opens, and
    without the objects. -/
def RaspividState.forgetCapture (s : RaspividState) : RaspividState :=
  { s with
    sensorMode := 0
    width := 0
    height := 0
    framerate := 0
    cameraComponent := none
    videoPool := none
    captureFtm := .rgb }

theorem feedback_forgetCapture (s : RaspividState) : s.forgetCapture.feedback = s.feedback := rfl

/-- What a setter records. -/
def Setting.recorded (s : RaspividState) : Setting → RaspividState
  | .videoStabilization v => { s with videoStabilisation := v }
  | .brightness v => { s with brightness := (if v.toNat > 100 then 100 else v.toNat : Nat) }
  | .shutterSpeed v =>
    { s with shutterSpeed := (if v.toNat > 330000 then 330000 else v.toNat : Nat) }
  | .rotation v =>
    let rotation := addTurns v.toInt
    { s with rotation := if rotation ≥ 360 then rotation.tmod 360 else rotation }
  | .iso v => { s with iso := v.toInt }
  | .sharpness v => { s with sharpness := clamp (-100) 100 v.toInt }
  | .contrast v => { s with contrast := clamp (-100) 100 v.toInt }
  | .saturation v => { s with saturation := clamp (-100) 100 v.toInt }
  | .awbRb red blue => { s with awbgBlue := blue, awbgRed := red }
  | .exposure v => { s with rpcExposureMode := v }
  | .awb v => { s with rpcAwbMode := v }
  | .imageEffect v => { s with rpcImageEffect := v }
  | .metering v => { s with rpcExposureMeterMode := v }
  | .exposureCompensation v => { s with exposureCompensation := clamp (-10) 10 v.toInt }
  | .horizontalFlip v => { s with hflip := v }
  | .verticalFlip v => { s with vflip := v }

/-- What a setter sends from the recorded settings, while the camera is
    open. -/
def Setting.params (s : RaspividState) : Setting → List (PortId × Param)
  | .videoStabilization _ => [(.control, .videoStabilisation s.videoStabilisation)]
  | .brightness _ => [(.control, .brightness (percent s.brightness))]
  | .shutterSpeed _ => [(.control, .shutterSpeed (u32 s.shutterSpeed))]
  | .rotation _ =>
    let rotation := s.rotation.tdiv 90 * 90
    [(.output 0, .rotation rotation), (.output 1, .rotation rotation),
     (.output 2, .rotation rotation)]
  | .iso _ => [(.control, .iso (u32 s.iso))]
  | .sharpness _ => [(.control, .sharpness (percent s.sharpness))]
  | .contrast _ => [(.control, .contrast (percent s.contrast))]
  | .saturation _ => [(.control, .saturation (percent s.saturation))]
  | .awbRb _ _ => [(.control, .customAwbGains (awbGain s.awbgRed) (awbGain s.awbgBlue))]
  | .exposure _ => [(.control, .exposureMode (convertExposure s.rpcExposureMode))]
  | .awb _ => [(.control, .awbMode (convertAwb s.rpcAwbMode))]
  | .imageEffect _ => [(.control, .imageEffect (convertImageEffect s.rpcImageEffect))]
  | .metering _ => [(.control, .expMeteringMode (convertMetering s.rpcExposureMeterMode))]
  | .exposureCompensation _ => [(.control, .exposureComp s.exposureCompensation)]
  | .horizontalFlip _ => flipParams s
  | .verticalFlip _ => flipParams s

/-- How a setter sends it: the flips stop at the first port that refuses. -/
def Setting.commit (x : Setting) (s : RaspividState) (r : SetResults) (w : World) :
    Except Fault World :=
  match x with
  | .horizontalFlip _ => sendWhileOk s.cameraComponent r (x.params s) w
  | .verticalFlip _ => sendWhileOk s.cameraComponent r (x.params s) w
  | _ => sendAll s.cameraComponent r (x.params s) w

/-- A setter in terms of what it records and sends. -/
theorem Setting.apply_params (x : Setting) (r : SetResults) (c : Camera) :
    x.apply r c = c.put (x.recorded c.impl.state) x.commit r := by
  cases x <;> rfl

theorem Setting.commit_quiet (x : Setting) : Quiet x.commit := by
  intro s r w w' h
  cases x with
  | horizontalFlip v => exact sendWhileOk_forgetParams h
  | verticalFlip v => exact sendWhileOk_forgetParams h
  | _ => exact sendAll_forgetParams h

/-- What a frame sends. -/
def refreshParams (s : RaspividState) : List (PortId × Param) :=
  if s.shutterSpeed ≠ 0 ∧ s.rpcExposureMode = .fixedfps then
    [(.control, .shutterSpeed (u32 s.shutterSpeed))]
  else []

/-- `refreshShutter` in terms of what it sends. -/
theorem refreshShutter_eq (s : RaspividState) (r : SetResults) (w : World) :
    refreshShutter s r w = sendAll s.cameraComponent r (refreshParams s) w := by
  unfold refreshShutter refreshParams
  by_cases hs : s.shutterSpeed ≠ 0 ∧ s.rpcExposureMode = .fixedfps
  · rw [if_pos hs, if_pos hs, sendAll]
    cases sendTo (portOf s.cameraComponent .control) (.shutterSpeed (u32 s.shutterSpeed)) r w <;>
      rfl
  · rw [if_neg hs, if_neg hs, sendAll]

/-- The parameters in question. -/
def watched (q : PortId × Param) : Bool :=
  match q.2.id with
  | .shutterSpeed => true
  | .exposureMode => true
  | .customAwbGains => true
  | _ => false

/-- The values of these parameters that an operation sends to the device, in
    order. -/
def Op.sends (c : Camera) : Op → List (PortId × Param)
  | .set x _ =>
    if c.impl.isOpened then (x.params (x.recorded c.impl.state)).filter watched else []
  | .openCamera _ o =>
    if c.impl.isOpened = false ∧ o.Creates then (commitParams c.impl.state).filter watched else []
  | .frame _ _ _ => (refreshParams c.impl.state).filter watched
  | _ => []

/-- The operations of the camera rather than of a client or of a frame. -/
def Op.reports : Op → Bool
  | .control _ => true
  | _ => false

/-- The values after a setter. -/
def Setting.tells (f : Feedback) : Setting → Feedback
  | .shutterSpeed v =>
    { f with shutterSpeed := (if v.toNat > 330000 then 330000 else v.toNat : Nat) }
  | .awbRb red blue => { f with awbgRed := red, awbgBlue := blue }
  | .exposure v => { f with rpcExposureMode := v }
  | _ => f

theorem Setting.recorded_told (x : Setting) (s : RaspividState) (f : Feedback) :
    x.recorded (s.told f) = (x.recorded s).told (x.tells f) := by
  cases x <;> rfl

theorem Setting.recorded_feedback (x : Setting) (s : RaspividState) :
    (x.recorded s).feedback = x.tells s.feedback := by
  cases x <;> rfl

/-- A setter that goes through on both sides. -/
theorem put_told {c c' d' : Camera} {s : RaspividState} {f g : Feedback} {v : World}
    {commit : RaspividState → SetResults → World → Except Fault World} {r : SetResults}
    (hv : SameDevices c.world v) (hq : Quiet commit) (hc : c.put s commit r = .ok c')
    (hd : (c.told f v).put (s.told g) commit r = .ok d') : Twin c' d' := by
  rcases put_ok hc hq with ⟨himpl, hworld⟩
  rcases put_ok hd hq with ⟨himpl', hworld'⟩
  refine ⟨g, d'.world, ?_, hworld'.trans (hv.trans hworld.symm)⟩
  rw [Camera.told, himpl, ← show _ = PrivateImpl.told { c.impl with state := s } g from himpl']

theorem SameDevices.released {w v : World} (hv : SameDevices w v) (h : Handle)
    (pool : Option Handle) : SameDevices (releasedWorld h pool w) (releasedWorld h pool v) := by
  unfold SameDevices releasedWorld
  rw [hv.portEnabled]
  by_cases hen : w.portEnabled h cameraVideoPort = true
  · rw [if_pos hen, if_pos hen]
    cases pool <;> simp only [World.forgetParams_destroyComponent, World.forgetParams_destroyPool,
      World.forgetParams_setEnabled, World.forgetParams_setPortEnabled, show _ = _ from hv]
  · rw [if_neg hen, if_neg hen]
    cases pool <;> simp only [World.forgetParams_destroyComponent, World.forgetParams_destroyPool,
      World.forgetParams_setEnabled, show _ = _ from hv]

theorem release_told {c c' : Camera} {f : Feedback} {v : World} (ha : c.Attached)
    (hv : SameDevices c.world v) (h : release c = .ok c') :
    ∃ d', release (c.told f v) = .ok d' ∧ Twin c' d' := by
  by_cases ho : c.impl.isOpened = true
  · rcases ha.opened ho with ⟨g, hcam, hport, halive, _⟩
    rw [release_eq ho hcam hport halive, Except.ok.injEq] at h
    subst h
    have hd := release_eq (c := c.told f v) (h := g) ho hcam hport ((hv.alive g).trans halive)
    rw [show (c.told f v).world.portEnabled g cameraVideoPort
      = c.world.portEnabled g cameraVideoPort from hv.portEnabled g _] at hd
    exact ⟨_, hd, f, _, rfl, hv.released g _⟩
  · rw [Bool.not_eq_true] at ho
    rw [release_closed ho, Except.ok.injEq] at h
    subst h
    exact ⟨c.told f v, release_closed ho, f, v, rfl, hv⟩

theorem SameDevices.trySet {w v : World} (hv : SameDevices w v) (h : Handle) (p : PortId)
    (q : Param) (r : SetResults) : SameDevices (trySet h p q r w) (Mmal.trySet h p q r v) := by
  unfold SameDevices
  rw [forgetParams_trySet, forgetParams_trySet, hv]

theorem Camera.Attached.congr {c d : Camera} (h : c.Attached)
    (hcam : d.impl.state.cameraComponent = c.impl.state.cameraComponent)
    (hpool : d.impl.state.videoPool = c.impl.state.videoPool)
    (hport : d.impl.cameraVideoPort = c.impl.cameraVideoPort)
    (hopen : d.impl.isOpened = c.impl.isOpened) (hcap : d.impl.isCapturing = c.impl.isCapturing)
    (hv : SameDevices c.world d.world) : d.Attached := by
  refine ⟨fun ho => hcam.trans (h.closed (hopen ▸ ho)), fun ho => ?_,
    fun hc => hopen ▸ h.capturing (hcap ▸ hc)⟩
  rcases h.opened (hopen ▸ ho) with ⟨g, hg, hgp, halive, hq⟩
  refine ⟨g, hcam.trans hg, hport.trans hgp, (hv.alive g).trans halive, fun q hm => ?_⟩
  exact (hv.poolAlive q).trans (hq q (hpool ▸ hm))

theorem Camera.Attached.told {c : Camera} (h : c.Attached) {f : Feedback} {v : World}
    (hv : SameDevices c.world v) : (c.told f v).Attached := h.congr rfl rfl rfl rfl rfl hv

theorem startCapture_told {r : SetResults} {b : Bool} {c c' : Camera} {f : Feedback} {v : World}
    (ha : c.Attached) (hv : SameDevices c.world v) (h : startCapture r c = .ok (b, c')) :
    ∃ d', startCapture r (c.told f v) = .ok (b, d') ∧ Twin c' d' := by
  by_cases ho : c.impl.isOpened = true
  · rcases ha.opened ho with ⟨g, hcam, hport, halive, _⟩
    rw [startCapture_eq ho hport halive] at h
    rw [startCapture_eq (c := c.told f v) ho hport ((hv.alive g).trans halive)]
    have hset := hv.trySet g cameraVideoPort (.capture true) r
    by_cases hr : r.param cameraVideoPort .capture = false
    · rw [if_pos hr] at h ⊢
      rcases bind_ok h with ⟨d, hd, h⟩
      rcases Prod.mk.inj (Except.ok.inj h) with ⟨rfl, rfl⟩
      have hattached := ha.trySet g cameraVideoPort (.capture true) r
      rcases release_told (f := f) hattached hset hd with ⟨d', hd', htwin⟩
      refine ⟨d', ?_, htwin⟩
      rw [show release ⟨(c.told f v).impl,
        trySet g cameraVideoPort (.capture true) r (c.told f v).world⟩ = .ok d' from hd', ok_bind]
    · rw [if_neg hr] at h ⊢
      rcases bind_ok h with ⟨q, hq, h⟩
      rcases Prod.mk.inj (Except.ok.inj h) with ⟨rfl, rfl⟩
      -- Both worlds have the same pools, with the same ones alive.
      have hpool : usePool (c.told f v).impl.state.videoPool v = .ok q := by
        refine Eq.trans ?_ hq
        simp only [usePool, hv.poolAlive]
        rfl
      rw [show usePool (c.told f v).impl.state.videoPool (c.told f v).world = .ok q from hpool,
        ok_bind]
      exact ⟨_, rfl, f, _, rfl, hset⟩
  · rw [Bool.not_eq_true] at ho
    rw [startCapture_closed ho, Except.ok.injEq, Prod.mk.injEq] at h
    rcases h with ⟨rfl, rfl⟩
    exact ⟨c.told f v, startCapture_closed ho, f, v, rfl, hv⟩

/-- Configuring the camera. -/
theorem configureCamera_told (o : OpenOutcome) (h : Handle) (p : PrivateImpl) (f : Feedback)
    {w v : World} (hv : SameDevices w v) :
    (configureCamera o h (p.told f) v).1 = (configureCamera o h p w).1 ∧
      Twin (configureCamera o h p w).2 (configureCamera o h (p.told f) v).2 := by
  unfold configureCamera
  by_cases h1 : o.outputPorts = false
  · rw [if_pos h1, if_pos h1]
    refine ⟨rfl, f, _, rfl, ?_⟩
    simp only [SameDevices, World.forgetParams_destroyComponent, show _ = _ from hv]
  rw [if_neg h1, if_neg h1]
  -- The first parameters are set or not.
  have hsensor : SameDevices
      (if p.state.sensorMode ≠ 0 then
        trySet h .control (.cameraCustomSensorConfig (u32 p.state.sensorMode)) o.sets w else w)
      (if p.state.sensorMode ≠ 0 then
        trySet h .control (.cameraCustomSensorConfig (u32 p.state.sensorMode)) o.sets v
          else v) := by
    by_cases hs : p.state.sensorMode ≠ 0
    · rw [if_pos hs, if_pos hs]
      exact hv.trySet _ _ _ _
    · rw [if_neg hs, if_neg hs]
      exact hv
  have hparams := (hsensor.trySet h .control (.cameraConfig (cameraConfig p.state)) o.sets).trySet
    h .control (.changeEventRequest true) o.sets
  simp only [show (p.told f).state.sensorMode = p.state.sensorMode from rfl,
    show cameraConfig (p.told f).state = cameraConfig p.state from rfl]
  -- From here on only the two devices matter, not how they came about.
  revert hparams
  generalize trySet h .control (.changeEventRequest true) o.sets _ = w₁
  generalize trySet h .control (.changeEventRequest true) o.sets _ = v₁
  intro hparams
  by_cases h2 : o.sets.param .control .changeEventRequest = false
  · rw [if_pos h2, if_pos h2]
    refine ⟨rfl, f, _, rfl, ?_⟩
    simp only [SameDevices, World.forgetParams_destroyComponent, show _ = _ from hparams]
  rw [if_neg h2, if_neg h2]
  by_cases h3 : o.controlEnable = false
  · rw [if_pos h3, if_pos h3]
    refine ⟨rfl, f, _, rfl, ?_⟩
    simp only [SameDevices, World.forgetParams_destroyComponent, show _ = _ from hparams]
  rw [if_neg h3, if_neg h3]
  by_cases h4 : o.sets.formatCommit = false
  · rw [if_pos h4, if_pos h4]
    refine ⟨rfl, f, _, rfl, ?_⟩
    simp only [SameDevices, World.forgetParams_destroyComponent, World.forgetParams_writeFormat,
      World.forgetParams_setPortEnabled, show _ = _ from hparams]
    rfl
  rw [if_neg h4, if_neg h4]
  by_cases h5 : o.videoEnable = false
  · rw [if_pos h5, if_pos h5]
    refine ⟨rfl, f, _, rfl, ?_⟩
    simp only [SameDevices, World.forgetParams_destroyComponent, World.forgetParams_commitFormat,
      World.forgetParams_writeFormat, World.forgetParams_setPortEnabled, show _ = _ from hparams]
    rfl
  rw [if_neg h5, if_neg h5]
  have hformat : SameDevices
      (((w₁.setPortEnabled h .control true).writeFormat h cameraVideoPort
        (videoFormat p.state (!o.rgbOrderFixed))).commitFormat h cameraVideoPort true)
      (((v₁.setPortEnabled h .control true).writeFormat h cameraVideoPort
        (videoFormat (p.told f).state (!o.rgbOrderFixed))).commitFormat h cameraVideoPort
          true) := by
    simp only [SameDevices, World.forgetParams_commitFormat, World.forgetParams_writeFormat,
      World.forgetParams_setPortEnabled, show _ = _ from hparams]
    rfl
  revert hformat
  generalize World.commitFormat _ h cameraVideoPort true = w₂
  generalize World.commitFormat _ h cameraVideoPort true = v₂
  intro hformat
  -- The handle of the new pool is the same on both sides.
  have hpool : (v₂.setPortEnabled h cameraVideoPort true).nextPool
      = (w₂.setPortEnabled h cameraVideoPort true).nextPool := hformat.nextPool
  by_cases h6 : o.componentEnable = false
  · rw [if_pos h6, if_pos h6]
    refine ⟨rfl, f, _, by rw [hpool]; rfl, ?_⟩
    by_cases hp : o.poolCreate = true
    · simp only [if_pos hp, SameDevices, World.forgetParams_destroyComponent,
        World.forgetParams_createPool, World.forgetParams_setPortEnabled, show _ = _ from hformat]
    · simp only [if_neg hp, SameDevices, World.forgetParams_destroyComponent,
        World.forgetParams_setPortEnabled, show _ = _ from hformat]
  · rw [if_neg h6, if_neg h6]
    refine ⟨rfl, f, _, by rw [hpool]; rfl, ?_⟩
    by_cases hp : o.poolCreate = true
    · simp only [if_pos hp, SameDevices, World.forgetParams_setEnabled,
        World.forgetParams_createPool, World.forgetParams_setPortEnabled, show _ = _ from hformat]
    · simp only [if_neg hp, SameDevices, World.forgetParams_setEnabled,
        World.forgetParams_setPortEnabled, show _ = _ from hformat]

/-- Creating the camera. -/
theorem createCameraComponent_told (o : OpenOutcome) {c : Camera} (f : Feedback) {v : World}
    (hv : SameDevices c.world v) :
    (createCameraComponent o (c.told f v)).1 = (createCameraComponent o c).1 ∧
      Twin (createCameraComponent o c).2 (createCameraComponent o (c.told f v)).2 := by
  unfold createCameraComponent
  by_cases hc : o.componentCreate = false
  · rw [if_pos hc, if_pos hc]
    exact ⟨rfl, f, v, rfl, hv⟩
  · rw [if_neg hc, if_neg hc, show (c.told f v).world.nextComponent = c.world.nextComponent from
      hv.nextComponent]
    refine configureCamera_told o _ c.impl f ?_
    exact (World.forgetParams_createComponent _ _ _).trans
      ((congrArg (World.createComponent · .camera o.formats) hv).trans
        (World.forgetParams_createComponent _ _ _).symm)

/-- Attaching the object to a live camera. -/
theorem attachCamera_eq {c : Camera} {h : Handle} (o : OpenOutcome)
    (hcam : c.impl.state.cameraComponent = some h) (ha : c.world.alive h = true) :
    ∃ w, attachCamera o c = .ok ⟨{ c.impl with
        state := c.impl.state.afterCommit
        cameraVideoPort := some ⟨h, cameraVideoPort⟩
        callbackData := { c.impl.callbackData with attached := true }
        isOpened := true }, w⟩ ∧
      SameDevices ((c.world.setUserdata h cameraVideoPort (some 0)).setUserdata h .control (some 0))
        w := by
  rcases commitParameters_total o.sets hcam ha with ⟨⟨s, w⟩, hs⟩
  have hafter : s = c.impl.state.afterCommit := by
    rw [commitParameters_eq] at hs
    rcases bind_ok hs with ⟨_, _, hs⟩
    rcases bind_ok hs with ⟨_, _, hs⟩
    rcases bind_ok hs with ⟨_, _, hs⟩
    exact (Prod.mk.inj (Except.ok.inj hs)).1.symm
  have hw : SameDevices c.world w := (commitParameters_ok hs).2
  unfold attachCamera
  rw [hs, ok_bind]
  simp only [hafter, show c.impl.state.afterCommit.cameraComponent = some h from hcam,
    useComponent_of_alive ((hw.alive h).trans ha), ok_bind]
  refine ⟨_, rfl, ?_⟩
  simp only [SameDevices, World.forgetParams_setUserdata, show _ = _ from hw]

theorem attachCamera_told {o : OpenOutcome} {c c' : Camera} {f : Feedback} {v : World}
    (hv : SameDevices c.world v) (h : attachCamera o c = .ok c') :
    ∃ d', attachCamera o (c.told f v) = .ok d' ∧ Twin c' d' := by
  have hlive : ∃ g, c.impl.state.cameraComponent = some g ∧ c.world.alive g = true := by
    rcases bind_ok h with ⟨⟨s, w⟩, hs, h⟩
    rcases commitParameters_ok hs with ⟨hsame, hw⟩
    rcases bind_ok h with ⟨g, hg, _⟩
    rcases useComponent_ok hg with ⟨hcam, halive⟩
    have hw : SameDevices c.world w := hw
    exact ⟨g, hsame.cameraComponent.symm.trans hcam, (hw.alive g).symm.trans halive⟩
  rcases hlive with ⟨g, hcam, halive⟩
  rcases attachCamera_eq o hcam halive with ⟨w, hw, hsame⟩
  rcases attachCamera_eq (c := c.told f v) o hcam ((hv.alive g).trans halive) with ⟨w', hw', hsame'⟩
  rw [hw, Except.ok.injEq] at h
  subst h
  refine ⟨_, hw', f.committed, w', rfl, ?_⟩
  refine Eq.trans hsame' (Eq.trans ?_ hsame.symm)
  simp only [World.forgetParams_setUserdata, show (c.told f v).world = v from rfl,
    show _ = _ from hv]

theorem openCamera_told {b b' : Bool} {o : OpenOutcome} {c c' : Camera} {f : Feedback} {v : World}
    (hv : SameDevices c.world v) (h : openCamera b o c = .ok (b', c')) :
    ∃ d', openCamera b o (c.told f v) = .ok (b', d') ∧ Twin c' d' := by
  unfold openCamera at h ⊢
  by_cases ho : c.impl.isOpened = true
  · rw [if_pos ho, Except.ok.injEq, Prod.mk.injEq] at h
    rcases h with ⟨rfl, rfl⟩
    exact ⟨_, if_pos ho, f, v, rfl, hv⟩
  rw [if_neg ho] at h
  rw [if_neg (show ¬ (c.told f v).impl.isOpened = true from ho)]
  -- The new component is created alike, so both attempts fail at the same place or nowhere.
  rcases createCameraComponent_told o f hv with ⟨hb, htwin⟩
  cases hd : createCameraComponent o c with
  | mk created d =>
      cases hd' : createCameraComponent o (c.told f v) with
      | mk created' d' =>
          rw [hd, hd'] at hb htwin
          rw [hd] at h
          simp only at hb htwin
          subst hb
          rcases htwin with ⟨g, u, rfl, hu⟩
          cases created' with
          | false =>
              rcases Prod.mk.inj (Except.ok.inj h) with ⟨rfl, rfl⟩
              exact ⟨_, rfl, g, u, rfl, hu⟩
          | true =>
              rcases bind_ok h with ⟨e, he, h⟩
              rcases attachCamera_told (f := g) hu he with ⟨e', he', k, x, rfl, hx⟩
              simp only [he', ok_bind]
              by_cases hs : b = true
              · rw [if_pos hs] at h ⊢
                exact startCapture_told (attached_of_created (Bool.eq_false_iff.mpr ho) hd he).1
                  hx h
              · rw [if_neg hs] at h ⊢
                rcases Prod.mk.inj (Except.ok.inj h) with ⟨rfl, rfl⟩
                exact ⟨_, rfl, k, x, rfl, hx⟩

theorem refreshShutter_total {s : RaspividState} {w : World} {h : Handle} (r : SetResults)
    (hcam : s.cameraComponent = some h) (ha : w.alive h = true) :
    ∃ w', refreshShutter s r w = .ok w' := by
  rw [refreshShutter_eq, hcam]
  rcases sendAll_goes ha r (refreshParams s) with ⟨w', hw', _⟩
  exact ⟨w', hw'⟩

/-- A frame. -/
theorem videoBufferCallback_told {h : Handle} {b : Buffer} {fresh : Nat → UInt8} {r : SetResults}
    {c c' : Camera} {grabbed : Bool} {f : Feedback} {v : World}
    (hcam : c.impl.state.cameraComponent = some h) (ha : c.world.alive h = true)
    (hv : SameDevices c.world v) (hc : videoBufferCallback h b fresh r c = .ok (grabbed, c')) :
    ∃ d', videoBufferCallback h b fresh r (c.told f v) = .ok (grabbed, d') ∧ Twin c' d' := by
  rcases videoBufferCallback_ok hc with ⟨rfl, himpl, hworld⟩
  rcases bind_ok hc with ⟨q, hq, _⟩
  -- Storing the frame and sending a header have nothing to do with the values;
  -- only the shutter speed that is sent at the end is another one.
  have hkeep : ∀ p : PrivateImpl, (if c.impl.callbackData.wantsFrame b then p.keepFrame b fresh
      else p).state = p.state := by
    intro p
    split <;> rfl
  have htold : (if c.impl.callbackData.wantsFrame b then (c.impl.told f).keepFrame b fresh
      else c.impl.told f) = c'.impl.told f := by
    rw [himpl]
    split <;> rfl
  have hpool : (if v.portEnabled h cameraVideoPort then usePool c.impl.state.videoPool v
      else .ok h) = .ok q := by
    rw [hkeep] at hq
    rw [hv.portEnabled, ← hq]
    cases c.impl.state.videoPool with
    | none => rfl
    | some g => simp only [usePool, hv.poolAlive]
  rcases refreshShutter_total (s := c.impl.state.told f) r hcam ((hv.alive h).trans ha) with
    ⟨w, hw⟩
  refine ⟨⟨c'.impl.told f, w⟩, ?_, f, w, rfl,
    (refreshShutter_quiet _ _ _ _ hw).trans (hv.trans hworld.symm)⟩
  rw [← htold]
  unfold videoBufferCallback
  simp only [Camera.told, show (c.impl.told f).callbackData = c.impl.callbackData from rfl, hkeep,
    show (c.impl.told f).state = c.impl.state.told f from rfl, hw,
    show (c.impl.state.told f).videoPool = c.impl.state.videoPool from rfl, hpool, ok_bind]

theorem enabled_told (c : Camera) (f : Feedback) {v : World} (hv : SameDevices c.world v) (o : Op) :
    o.enabled (c.told f v) = o.enabled c := by
  cases o with
  | frame b fresh r =>
      simp only [Op.enabled, Camera.delivers, Camera.told, PrivateImpl.told, RaspividState.told,
        hv.portEnabled, hv.committed]
  | control e =>
      simp only [Op.enabled, Camera.told, PrivateImpl.told, RaspividState.told, hv.portEnabled]
  | _ => rfl

/-- What an operation does when it goes through. -/
theorem exec_told {c c' : Camera} {f : Feedback} {v : World} {o : Op} (ha : c.Attached)
    (hv : SameDevices c.world v) (ho : o.reports = false) (h : exec c o = .ok c') :
    ∃ d', exec (c.told f v) o = .ok d' ∧ Twin c' d' := by
  -- No branch of an operation looks at the values in question, except to send
  -- them, and no result depends on what the device was told.
  cases o with
  | setWidth width =>
      rw [← Except.ok.inj h]
      exact ⟨_, rfl, f, v, rfl, hv⟩
  | setHeight height =>
      rw [← Except.ok.inj h]
      exact ⟨_, rfl, f, v, rfl, hv⟩
  | setCaptureSize width height =>
      rw [← Except.ok.inj h]
      exact ⟨_, rfl, f, v, rfl, hv⟩
  | setFormat fmt =>
      rw [← Except.ok.inj h]
      refine ⟨_, rfl, f, v, ?_, ?_⟩ <;> unfold setFormat <;> by_cases ho : c.impl.isOpened = true
      · rw [if_pos ho, if_pos (show (c.told f v).impl.isOpened = true from ho)]
      · rw [if_neg ho, if_neg (show ¬ (c.told f v).impl.isOpened = true from ho)]
        rfl
      · rw [if_pos ho]
        exact hv
      · rw [if_neg ho]
        exact hv
  | setSensorMode mode =>
      rw [← Except.ok.inj h]
      refine ⟨_, rfl, f, v, ?_, ?_⟩ <;> unfold setSensorMode <;>
        by_cases ho : c.impl.isOpened = true
      · rw [if_pos ho, if_pos (show (c.told f v).impl.isOpened = true from ho)]
      · rw [if_neg ho, if_neg (show ¬ (c.told f v).impl.isOpened = true from ho)]
        rfl
      · rw [if_pos ho]
        exact hv
      · rw [if_neg ho]
        exact hv
  | setFrameRate framesPerSecond =>
      rw [← Except.ok.inj h]
      exact ⟨_, rfl, f, v, rfl, hv⟩
  | set x r =>
      rcases x.apply_total r (ha.told (f := f) hv) with ⟨d', hd'⟩
      refine ⟨d', hd', ?_⟩
      simp only [exec, Setting.apply_params] at h hd'
      refine put_told (f := f) (g := x.tells f) hv x.commit_quiet h ?_
      rw [← Setting.recorded_told]
      exact hd'
  | setUserCallback userCallback =>
      rw [← Except.ok.inj h]
      exact ⟨_, rfl, f, v, rfl, hv⟩
  | openCamera startCapturing out =>
      rcases bind_ok h with ⟨⟨b, d⟩, hd, h⟩
      rcases openCamera_told (f := f) hv hd with ⟨d', hd', htwin⟩
      rw [← Except.ok.inj h]
      exact ⟨d', by simp only [exec, hd', ok_bind], htwin⟩
  | startCapture r =>
      rcases bind_ok h with ⟨⟨b, d⟩, hd, h⟩
      rcases startCapture_told (f := f) ha hv hd with ⟨d', hd', htwin⟩
      rw [← Except.ok.inj h]
      exact ⟨d', by simp only [exec, hd', ok_bind], htwin⟩
  | grab =>
      rw [← Except.ok.inj h]
      refine ⟨_, rfl, f, v, ?_, ?_⟩
      · rw [grab_camera, grab_camera]
        rfl
      · rw [grab_camera]
        exact hv
  | release => exact release_told ha hv h
  | retrieve =>
      rw [← Except.ok.inj h]
      exact ⟨_, rfl, f, v, rfl, hv⟩
  | frame b fresh r =>
      rcases bind_ok h with ⟨g, hg, h⟩
      rcases bind_ok h with ⟨⟨grabbed, d⟩, hd, h⟩
      rcases useComponent_ok hg with ⟨hcam, halive⟩
      rcases videoBufferCallback_told (f := f) hcam halive hv hd with ⟨d', hd', htwin⟩
      rw [← Except.ok.inj h]
      refine ⟨d', ?_, htwin⟩
      simp only [exec, show (c.told f v).impl.state.cameraComponent = some g from hcam,
        show (c.told f v).world = v from rfl, useComponent_of_alive ((hv.alive g).trans halive),
        ok_bind, hd']
  | control e => exact absurd ho.symm Bool.false_ne_true

/-- Other values of the settings in question, and what the device was told of
    them, make no difference to anything else. -/
theorem step_told {c c' d : Camera} {o : Op} (ha : c.Attached) (ht : Twin c d)
    (ho : o.reports = false) (h : step c o = some c') : ∃ d', step d o = some d' ∧ Twin c' d' := by
  rcases ht with ⟨f, v, rfl, hv⟩
  rcases step_ok h with ⟨hen, hx⟩
  rcases exec_told (f := f) ha hv ho hx with ⟨d', hd', htwin⟩
  refine ⟨d', ?_, htwin⟩
  unfold step
  rw [enabled_told c f hv, if_pos hen, hd']
  rfl

/-- The values after an operation that reports nothing. -/
def Op.tells (c : Camera) (f : Feedback) : Op → Feedback
  | .set x _ => x.tells f
  | .openCamera _ o => if c.impl.isOpened = false ∧ o.Creates then f.committed else f
  | _ => f

/-- Configuring the camera leaves the settings alone. -/
theorem configureCamera_settings (o : OpenOutcome) (h : Handle) (p : PrivateImpl) (w : World) :
    (configureCamera o h p w).2.impl.state.forgetCapture = p.state.forgetCapture := by
  unfold configureCamera
  -- Every result is the object with a few other fields changed.
  repeat' first
    | rfl
    | split

theorem release_settings {c c' : Camera} (ha : c.Attached) (h : release c = .ok c') :
    c'.impl.state.forgetCapture = c.impl.state.forgetCapture := by
  by_cases ho : c.impl.isOpened = true
  · rcases ha.opened ho with ⟨g, hcam, hport, halive, _⟩
    rw [release_eq ho hcam hport halive] at h
    rw [← Except.ok.inj h]
    rfl
  · rw [release_closed (Bool.eq_false_iff.mpr ho)] at h
    rw [Except.ok.inj h]

theorem startCapture_settings {r : SetResults} {b : Bool} {c c' : Camera} (ha : c.Attached)
    (h : startCapture r c = .ok (b, c')) :
    c'.impl.state.forgetCapture = c.impl.state.forgetCapture := by
  by_cases ho : c.impl.isOpened = true
  · rcases ha.opened ho with ⟨g, hcam, hport, halive, _⟩
    rw [startCapture_eq ho hport halive] at h
    by_cases hr : r.param cameraVideoPort .capture = false
    · rw [if_pos hr] at h
      rcases bind_ok h with ⟨d, hd, h⟩
      have hattached := ha.trySet g cameraVideoPort (.capture true) r
      have hkeeps := release_settings hattached hd
      rw [← (Prod.mk.inj (Except.ok.inj h)).2, hkeeps]
    · rw [if_neg hr] at h
      rcases bind_ok h with ⟨q, _, h⟩
      rw [← (Prod.mk.inj (Except.ok.inj h)).2]
  · rw [startCapture_closed (Bool.eq_false_iff.mpr ho)] at h
    rw [(Prod.mk.inj (Except.ok.inj h)).2]

theorem openCamera_settings {b b' : Bool} {o : OpenOutcome} {c c' : Camera}
    (h : openCamera b o c = .ok (b', c')) : c'.impl.state.forgetCapture =
      (if c.impl.isOpened = false ∧ o.Creates then c.impl.state.afterCommit
        else c.impl.state).forgetCapture := by
  by_cases ho : c.impl.isOpened = true
  · unfold openCamera at h
    rw [if_pos ho] at h
    rw [if_neg (fun hc => absurd (ho.symm.trans hc.1) (by decide)),
      (Prod.mk.inj (Except.ok.inj h)).2]
  rw [Bool.not_eq_true] at ho
  -- Creating the component commits nothing.
  have hcreated : (createCameraComponent o c).2.impl.state.forgetCapture
      = c.impl.state.forgetCapture := by
    unfold createCameraComponent
    by_cases hc : o.componentCreate = false
    · rw [if_pos hc]
    · rw [if_neg hc]
      exact configureCamera_settings o _ c.impl _
  unfold openCamera at h
  rw [if_neg (by rw [ho]; decide)] at h
  cases hd : createCameraComponent o c with
  | mk created d =>
      rw [hd] at h hcreated
      cases created with
      | false =>
          rw [← (Prod.mk.inj (Except.ok.inj h)).2, hcreated, if_neg]
          intro hc
          have htrue := createCameraComponent_creates c hc.2
          rw [hd] at htrue
          exact absurd htrue Bool.false_ne_true
      | true =>
          rcases bind_ok h with ⟨e, he, h⟩
          rcases attached_of_created ho hd he with ⟨hattached, hcreates⟩
          have hattach : e.impl.state.forgetCapture = c.impl.state.afterCommit.forgetCapture := by
            rcases bind_ok he with ⟨⟨s, w⟩, hs, he⟩
            rcases bind_ok he with ⟨g, _, he⟩
            rw [commitParameters_eq] at hs
            rcases bind_ok hs with ⟨_, _, hs⟩
            rcases bind_ok hs with ⟨_, _, hs⟩
            rcases bind_ok hs with ⟨_, _, hs⟩
            rw [← Except.ok.inj he, ← (Prod.mk.inj (Except.ok.inj hs)).1]
            exact congrArg RaspividState.afterCommit hcreated
          -- Committing may have switched the exposure mode, whatever becomes of capturing.
          rw [if_pos ⟨ho, hcreates⟩, ← hattach]
          by_cases hb : b = true
          · rw [if_pos hb] at h
            exact startCapture_settings hattached h
          · rw [if_neg hb] at h
            rw [(Prod.mk.inj (Except.ok.inj h)).2]

/-- The state after an operation, as far as settings go. -/
def Op.settles (c : Camera) : Op → RaspividState
  | .set x _ => x.recorded c.impl.state
  | .openCamera _ o =>
    if c.impl.isOpened = false ∧ o.Creates then c.impl.state.afterCommit else c.impl.state
  | .control e => (cameraControlCallback e c.impl).state
  | _ => c.impl.state

/-- What an operation makes of the settings. -/
theorem step_settings {c c' : Camera} {o : Op} (ha : c.Attached) (h : step c o = some c') :
    c'.impl.state.forgetCapture = (o.settles c).forgetCapture := by
  rcases step_ok h with ⟨_, hx⟩
  -- Besides the setters and reports only `open` changes them, when it commits.
  cases o with
  | setFormat fmt =>
      rw [← Except.ok.inj hx]
      unfold setFormat
      by_cases ho : c.impl.isOpened = true
      · rw [if_pos ho]
        rfl
      · rw [if_neg ho]
        rfl
  | setSensorMode mode =>
      rw [← Except.ok.inj hx]
      unfold setSensorMode
      by_cases ho : c.impl.isOpened = true
      · rw [if_pos ho]
        rfl
      · rw [if_neg ho]
        rfl
  | set x r =>
      simp only [exec, Setting.apply_params] at hx
      rw [(put_ok hx x.commit_quiet).1]
      rfl
  | openCamera startCapturing out =>
      rcases bind_ok hx with ⟨⟨b, d⟩, hd, hx⟩
      rw [← Except.ok.inj hx]
      exact openCamera_settings hd
  | startCapture r =>
      rcases bind_ok hx with ⟨⟨b, d⟩, hd, hx⟩
      rw [← Except.ok.inj hx]
      exact startCapture_settings ha hd
  | grab =>
      rw [← Except.ok.inj hx]
      rw [grab_camera]
      rfl
  | release => exact release_settings ha hx
  | frame b fresh r =>
      rcases bind_ok hx with ⟨g, _, hx⟩
      rcases bind_ok hx with ⟨⟨grabbed, d⟩, hd, hx⟩
      rw [← Except.ok.inj hx, (videoBufferCallback_ok hd).2.1]
      split <;> rfl
  | _ =>
      rw [← Except.ok.inj hx]
      rfl

/-- What an operation makes of the values. -/
theorem step_feedback {c c' : Camera} {o : Op} (ha : c.Attached) (ho : o.reports = false)
    (h : step c o = some c') : c'.impl.state.feedback = o.tells c c.impl.state.feedback := by
  have hsettled := congrArg RaspividState.feedback (step_settings ha h)
  rw [feedback_forgetCapture, feedback_forgetCapture] at hsettled
  rw [hsettled]
  cases o with
  | set x r => exact x.recorded_feedback c.impl.state
  | openCamera b out =>
      simp only [Op.settles, Op.tells]
      split <;> rfl
  | control e => exact absurd ho.symm Bool.false_ne_true
  | _ => rfl

/-- The shutter speed is an `int`. -/
def Feedback.InRange (f : Feedback) : Prop :=
  -2147483648 ≤ f.shutterSpeed ∧ f.shutterSpeed < 2147483648

/-- The settings that a report overwrites. -/
structure Reported where
  shutterSpeed : Int
  awbgRed : Float32
  awbgBlue : Float32

/-- Their current values. -/
def RaspividState.reported (s : RaspividState) : Reported := ⟨s.shutterSpeed, s.awbgRed, s.awbgBlue⟩

/-- What a call or a report puts there. -/
def Reported.put (v : Reported) : Op → Reported
  | .set (.shutterSpeed shutter) _ => { v with shutterSpeed := min shutter.toNat 330000 }
  | .set (.awbRb red blue) _ => { v with awbgRed := red, awbgBlue := blue }
  | .control (.cameraSettings exposure red blue) =>
    { shutterSpeed := i32 exposure.toNat
      awbgRed := Float32.ofInt red.num / Float32.ofInt red.den
      awbgBlue := Float32.ofInt blue.num / Float32.ofInt blue.den }
  | _ => v

/-- What was last set or reported, from the automatic shutter speed and the
    gains an object begins with. -/
def lastPut (os : List Op) : Reported := os.foldl Reported.put ⟨0, 1, 1⟩

/-- The same gain in units of `1 / 65536`. -/
def SameGain (g h : Float32) : Prop := (g * 65536).toUInt32 = (h * 65536).toUInt32

-- A report of slightly less than one is rounded to one, so it is not the gain
-- next below one.
example : ¬ SameGain (Float32.ofInt 67108863 / Float32.ofInt 67108864) (65535 / 65536) := by
  unfold SameGain
  decide +kernel

/-- The same shutter speed and, as far as the device can tell, the same
    gains. -/
structure Reported.Agrees (v w : Reported) : Prop where
  shutterSpeed : v.shutterSpeed = w.shutterSpeed
  awbgRed : SameGain v.awbgRed w.awbgRed
  awbgBlue : SameGain v.awbgBlue w.awbgBlue

/-- The operation finds the same on both sides, as far as it commits it: opening
    the camera commits everything, and a frame in mode FIXEDFPS the shutter
    speed. -/
def Unaffected (c : Camera) (v w : Reported) : Op → Prop
  | .openCamera _ o => c.impl.isOpened = false ∧ o.Creates → v.Agrees w
  | .frame _ _ _ =>
    c.impl.state.rpcExposureMode = .fixedfps → v.shutterSpeed = w.shutterSpeed
  | _ => True

/-- Two cameras that were called alike, as long as every operation found the
    same on both sides. -/
structure Sides (c d : Camera) : Prop where
  attached : c.Attached
  twin : Twin c d
  mode : c.impl.state.rpcExposureMode = d.impl.state.rpcExposureMode
  left : c.impl.state.feedback.InRange
  right : d.impl.state.feedback.InRange

theorem u32_inj {x y : Int} (hx : -2147483648 ≤ x ∧ x < 2147483648)
    (hy : -2147483648 ≤ y ∧ y < 2147483648) : u32 x = u32 y ↔ x = y := by
  unfold u32
  omega

theorem awbGain_inj {g h : Float32} : awbGain g = awbGain h ↔ SameGain g h := by
  unfold awbGain SameGain
  rw [MmalRational.mk.injEq, and_iff_left rfl, ← UInt32.toNat_inj]
  -- Reading a number of 32 bits as an `int` loses nothing.
  have hg := (g * 65536).toUInt32.toNat_lt
  have hh := (h * 65536).toUInt32.toNat_lt
  unfold i32
  omega

theorem Feedback.InRange.committed {f : Feedback} (h : f.InRange) : f.committed.InRange := by
  unfold Feedback.committed
  by_cases hs : f.shutterSpeed ≠ 0
  · rw [if_pos hs]
    exact h
  · rw [if_neg hs]
    exact h

theorem Feedback.InRange.tells {f : Feedback} (h : f.InRange) (x : Setting) :
    (x.tells f).InRange := by
  cases x with
  | shutterSpeed v =>
      unfold Setting.tells Feedback.InRange
      by_cases hv : v.toNat > 330000
      · simp only [if_pos hv]
        omega
      · simp only [if_neg hv]
        omega
  | _ => exact h

theorem Op.tells_inRange {c : Camera} {f : Feedback} (h : f.InRange) (o : Op) :
    (o.tells c f).InRange := by
  cases o with
  | set x r => exact h.tells x
  | openCamera b out =>
      simp only [Op.tells]
      by_cases hc : c.impl.isOpened = false ∧ out.Creates
      · rw [if_pos hc]
        exact h.committed
      · rw [if_neg hc]
        exact h
  | _ => exact h

/-- A shutter speed is sent unless it is automatic. -/
def shutterParams (s : RaspividState) : List (PortId × Param) :=
  if s.shutterSpeed ≠ 0 then [(.control, .shutterSpeed (u32 s.shutterSpeed))] else []

theorem shutterParams_inj {s t : RaspividState} (hs : s.feedback.InRange)
    (ht : t.feedback.InRange) :
    shutterParams s = shutterParams t ↔ s.shutterSpeed = t.shutterSpeed := by
  unfold shutterParams
  by_cases h : s.shutterSpeed ≠ 0 <;> by_cases h' : t.shutterSpeed ≠ 0
  · simp only [if_pos h, if_pos h', List.cons.injEq, Prod.mk.injEq, Param.shutterSpeed.injEq,
      true_and, and_true]
    exact u32_inj hs ht
  · rw [if_pos h, if_neg h']
    exact iff_of_false nofun fun heq => h' (heq ▸ h)
  · rw [if_neg h, if_pos h']
    exact iff_of_false nofun fun heq => h (heq ▸ h')
  · rw [if_neg h, if_neg h']
    exact iff_of_true rfl ((not_not.mp h).trans (not_not.mp h').symm)

/-- What opening the camera sends of the parameters in question. -/
theorem watched_commitParams (s : RaspividState) : (commitParams s).filter watched =
    shutterParams s ++
      [(.control, .exposureMode (convertExposure s.feedback.committed.rpcExposureMode)),
       (.control, .customAwbGains (awbGain s.awbgRed) (awbGain s.awbgBlue))] := by
  unfold commitParams commitParamsFirst shutterParams
  by_cases hs : s.shutterSpeed ≠ 0
  · rw [if_pos hs]
    rfl
  · rw [if_neg hs]
    rfl

/-- Opening the camera sends the same exactly when it finds the same. -/
theorem commitParams_iff {s t : RaspividState} (hmode : s.rpcExposureMode = t.rpcExposureMode)
    (hs : s.feedback.InRange) (ht : t.feedback.InRange) :
    (commitParams s).filter watched = (commitParams t).filter watched ↔
      s.reported.Agrees t.reported := by
  rw [watched_commitParams, watched_commitParams]
  constructor
  · -- The shutter speed is the only part of variable length, and the rest is
    -- two parameters on both sides.
    intro h
    rcases List.append_inj' h rfl with ⟨hshutter, hrest⟩
    simp only [List.cons.injEq, Prod.mk.injEq, Param.customAwbGains.injEq, awbGain_inj, true_and,
      and_true] at hrest
    exact ⟨(shutterParams_inj hs ht).mp hshutter, hrest.2.1, hrest.2.2⟩
  · rintro ⟨hshutter, hred, hblue⟩
    have hcommitted : s.feedback.committed.rpcExposureMode
        = t.feedback.committed.rpcExposureMode := by
      unfold Feedback.committed
      rw [show s.feedback.shutterSpeed = t.feedback.shutterSpeed from hshutter]
      by_cases h : t.feedback.shutterSpeed ≠ 0
      · rw [if_pos h, if_pos h]
      · rw [if_neg h, if_neg h]
        exact hmode
    rw [(shutterParams_inj hs ht).mpr hshutter, hcommitted]
    rw [show awbGain s.awbgRed = awbGain t.awbgRed from awbGain_inj.mpr hred,
      show awbGain s.awbgBlue = awbGain t.awbgBlue from awbGain_inj.mpr hblue]

theorem watched_refreshParams (s : RaspividState) : (refreshParams s).filter watched =
    if s.rpcExposureMode = .fixedfps then shutterParams s else [] := by
  unfold refreshParams shutterParams
  by_cases hs : s.shutterSpeed ≠ 0 <;> by_cases hm : s.rpcExposureMode = .fixedfps
  · rw [if_pos ⟨hs, hm⟩, if_pos hm, if_pos hs]
    rfl
  · rw [if_neg fun h => hm h.2, if_neg hm]
    rfl
  · rw [if_neg fun h => hs h.1, if_pos hm, if_neg hs]
    rfl
  · rw [if_neg fun h => hs h.1, if_neg hm]
    rfl

/-- A frame sends the same exactly when it finds the same. -/
theorem refreshParams_iff {s t : RaspividState} (hmode : s.rpcExposureMode = t.rpcExposureMode)
    (hs : s.feedback.InRange) (ht : t.feedback.InRange) :
    (refreshParams s).filter watched = (refreshParams t).filter watched ↔
      (s.rpcExposureMode = .fixedfps → s.shutterSpeed = t.shutterSpeed) := by
  rw [watched_refreshParams, watched_refreshParams, ← hmode]
  by_cases hm : s.rpcExposureMode = .fixedfps
  · rw [if_pos hm, if_pos hm, shutterParams_inj hs ht]
    exact ⟨fun h _ => h, fun h => h hm⟩
  · rw [if_neg hm, if_neg hm]
    exact iff_of_true rfl fun h => absurd h hm

/-- An operation sends the same on both sides exactly when it finds the same. -/
theorem sends_iff {c d : Camera} {o : Op} (hs : Sides c d) :
    o.sends c = o.sends d ↔ Unaffected c c.impl.state.reported d.impl.state.reported o := by
  rcases hs.twin with ⟨f, v, rfl, hv⟩
  cases o with
  | set x r =>
      refine iff_of_true ?_ trivial
      simp only [Op.sends]
      by_cases ho : c.impl.isOpened = true
      · rw [if_pos ho, if_pos (show (c.told f v).impl.isOpened = true from ho)]
        cases x <;> rfl
      · rw [if_neg ho, if_neg (show ¬ (c.told f v).impl.isOpened = true from ho)]
  | openCamera b out =>
      simp only [Op.sends, Unaffected]
      by_cases hc : c.impl.isOpened = false ∧ out.Creates
      · rw [if_pos hc, if_pos (show (c.told f v).impl.isOpened = false ∧ out.Creates from hc),
          commitParams_iff hs.mode hs.left hs.right]
        exact ⟨fun h _ => h, fun h => h hc⟩
      · rw [if_neg hc, if_neg (show ¬ ((c.told f v).impl.isOpened = false ∧ out.Creates) from hc)]
        exact iff_of_true rfl fun h => absurd h hc
  | frame b fresh r => exact refreshParams_iff hs.mode hs.left hs.right
  | _ => exact iff_of_true rfl trivial

/-- The exposure mode stays the same on both sides when an operation finds the
    same. -/
theorem mode_tells {c d : Camera} {o : Op} (hs : Sides c d)
    (hp : Unaffected c c.impl.state.reported d.impl.state.reported o) :
    (o.tells c c.impl.state.feedback).rpcExposureMode
      = (o.tells d d.impl.state.feedback).rpcExposureMode := by
  have hopen : d.impl.isOpened = c.impl.isOpened := by
    rcases hs.twin with ⟨f, v, rfl, _⟩
    rfl
  -- `open` records a fixed frame rate when there is a shutter speed, and then
  -- both sides have the same one.
  cases o with
  | set x r =>
      cases x with
      | exposure v => rfl
      | _ => exact hs.mode
  | openCamera b out =>
      simp only [Op.tells, hopen]
      by_cases hc : c.impl.isOpened = false ∧ out.Creates
      · rw [if_pos hc, if_pos hc]
        unfold Feedback.committed
        rw [show c.impl.state.feedback.shutterSpeed = d.impl.state.feedback.shutterSpeed from
          (hp hc).shutterSpeed]
        by_cases h : d.impl.state.feedback.shutterSpeed ≠ 0
        · rw [if_pos h, if_pos h]
        · rw [if_neg h, if_neg h]
          exact hs.mode
      · rw [if_neg hc, if_neg hc]
        exact hs.mode
  | _ => exact hs.mode

/-- A report is stored into an `int`, so that the shutter speed stays in
    range, and changes nothing else that the two sides are compared by. -/
theorem report_told {c c' : Camera} {o : Op} (ho : o.reports = true) (h : step c o = some c')
    (hin : c.impl.state.feedback.InRange) :
    ∃ f, c' = c.told f c.world ∧ f.rpcExposureMode = c.impl.state.rpcExposureMode ∧ f.InRange := by
  cases o with
  | control e =>
      rw [← Except.ok.inj (step_ok h).2]
      cases e with
      | cameraSettings exposure red blue =>
          refine ⟨⟨_, _, _, c.impl.state.rpcExposureMode⟩, rfl, rfl, ?_⟩
          simp only [Feedback.InRange]
          omega
      | _ => exact ⟨c.impl.state.feedback, rfl, rfl, hin⟩
  | _ => exact absurd ho Bool.false_ne_true

/-- A report keeps the two sides together, on the left. -/
theorem sides_left {c d c' : Camera} {o : Op} (hs : Sides c d) (ho : o.reports = true)
    (h : step c o = some c') : Sides c' d := by
  have hattached := attached_step c o c' hs.attached h
  rcases hs.twin with ⟨f, v, rfl, hv⟩
  rcases report_told ho h hs.left with ⟨g, rfl, hmode, hin⟩
  exact ⟨hattached, ⟨f, v, rfl, hv⟩, hmode.trans hs.mode, hin, hs.right⟩

/-- And on the right. -/
theorem sides_right {c d d' : Camera} {o : Op} (hs : Sides c d) (ho : o.reports = true)
    (h : step d o = some d') : Sides c d' := by
  rcases hs.twin with ⟨f, v, rfl, hv⟩
  rcases report_told ho h hs.right with ⟨g, rfl, hmode, hin⟩
  exact ⟨hs.attached, ⟨g, v, rfl, hv⟩, hs.mode.trans hmode.symm, hs.left, hin⟩

/-- Any other operation sends the same and keeps them together exactly when it
    finds the same. -/
theorem sides_both {c c' d d' : Camera} {o : Op} (hs : Sides c d) (ho : o.reports = false)
    (h : step c o = some c') (h' : step d o = some d') :
    (o.sends c = o.sends d ↔ Unaffected c c.impl.state.reported d.impl.state.reported o) ∧
      (Unaffected c c.impl.state.reported d.impl.state.reported o → Sides c' d') := by
  rcases step_told hs.attached hs.twin ho h with ⟨e, he, htwin⟩
  obtain rfl : e = d' := Option.some.inj (he.symm.trans h')
  -- Being twins is kept in any case; the exposure mode is what may come apart.
  have hattached : d.Attached := by
    rcases hs.twin with ⟨f, v, rfl, hv⟩
    exact hs.attached.told hv
  refine ⟨sends_iff hs, fun hp => ⟨attached_step c o c' hs.attached h, htwin, ?_, ?_, ?_⟩⟩
  · have hmode := mode_tells hs hp
    rw [← step_feedback hs.attached ho h, ← step_feedback hattached ho h'] at hmode
    exact hmode
  · rw [step_feedback hs.attached ho h]
    exact o.tells_inRange hs.left
  · rw [step_feedback hattached ho h']
    exact o.tells_inRange hs.right

theorem sides_init : Sides .init .init :=
  ⟨ledger_init.attached, ⟨PrivateImpl.init.state.feedback, World.empty, rfl, rfl⟩, rfl,
    by unfold Feedback.InRange; decide, by unfold Feedback.InRange; decide⟩

theorem reported_settles (c : Camera) (o : Op) :
    (o.settles c).reported = c.impl.state.reported.put o := by
  cases o with
  | set x r =>
      cases x with
      | shutterSpeed shutter =>
          simp only [Op.settles, Setting.recorded, Reported.put, RaspividState.reported,
            Reported.mk.injEq, and_true]
          by_cases h : shutter.toNat > 330000
          · rw [if_pos h]
            omega
          · rw [if_neg h]
            omega
      | _ => rfl
  | openCamera b out =>
      simp only [Op.settles]
      split
      · unfold RaspividState.afterCommit Feedback.committed
        split <;> rfl
      · rfl
  | control e => cases e <;> rfl
  | _ => rfl

/-- The settings that reports overwrite are what was last put there. -/
theorem reported_run {os : List Op} {c : Camera} (h : run step .init os = some c) :
    c.impl.state.reported = lastPut os := by
  refine (run_history (I := fun os c => c.Attached ∧ c.impl.state.reported = lastPut os)
    (fun os c o c' hc hstep => ?_) ⟨ledger_init.attached, rfl⟩ h).2
  refine ⟨attached_step c o c' hc.1 hstep, ?_⟩
  -- What is fixed when the camera opens is not among them.
  have hsettled : c'.impl.state.forgetCapture.reported = (o.settles c).forgetCapture.reported :=
    congrArg RaspividState.reported (step_settings hc.1 hstep)
  rw [show c'.impl.state.reported = (o.settles c).reported from hsettled, reported_settles, hc.2,
    lastPut, lastPut, List.foldl_append]
  rfl

/-- Two runs that differ in their reports only send the same shutter speeds,
    exposure modes and white balance gains exactly when, wherever they come to
    the same operation, what it commits of the last shutter speed and gains set
    or reported is the same in both. -/
theorem feedback_iff {os os' : List Op} {c c' : Camera} (hrun : run step .init os = some c)
    (hrun' : run step .init os' = some c') (hsame : purge Op.reports os = purge Op.reports os') :
    outputs step Op.reports (fun c o => o.sends c) .init os
        = outputs step Op.reports (fun c o => o.sends c) .init os' ↔
      ∀ past past' o d, Meet Op.reports os os' past past' o → run step .init past = some d →
        Unaffected d (lastPut past) (lastPut past') o := by
  rw [outputs_iff (R := Sides)
    (P := fun c d o => Unaffected c c.impl.state.reported d.impl.state.reported o)
    (fun _ _ _ _ hs ho h => sides_left hs ho h) (fun _ _ _ _ hs ho h => sides_right hs ho h)
    (fun _ _ _ _ _ hs ho h h' => sides_both hs ho h h') sides_init hrun hrun' hsame]
  constructor
  · intro hP past past' o d hmeet hd
    rcases run_of_prefix hmeet.right hrun' with ⟨e, he⟩
    rw [← reported_run hd, ← reported_run he]
    exact hP past past' o d e hmeet hd he
  · intro hP past past' o d e hmeet hd he
    rw [reported_run hd, reported_run he]
    exact hP past past' o d hmeet hd

/-- Open the camera, let it report, do `os` and open it again. -/
def reopening (os : List Op) : List Op :=
  [.openCamera true .allOk, .control (.cameraSettings 10000 ⟨2, 1⟩ ⟨1, 1⟩)] ++ os
    ++ [.release, .openCamera true .allOk]

/-- Two runs that set everything again after their reports, one of which is a
    gain that is not a number. -/
theorem restored_before_reopening :
    outputs step Op.reports (fun c o => o.sends c) .init
          (reopening [.set (.shutterSpeed 0) .allOk, .set (.awbRb 1 1) .allOk])
        = outputs step Op.reports (fun c o => o.sends c) .init
          (reopening [.control (.cameraSettings 7 ⟨0, 0⟩ ⟨1, 1⟩), .set (.shutterSpeed 0) .allOk,
            .set (.awbRb 1 1) .allOk]) ↔
      ∀ past past' o d, Meet Op.reports
          (reopening [.set (.shutterSpeed 0) .allOk, .set (.awbRb 1 1) .allOk])
          (reopening [.control (.cameraSettings 7 ⟨0, 0⟩ ⟨1, 1⟩), .set (.shutterSpeed 0) .allOk,
            .set (.awbRb 1 1) .allOk]) past past' o →
        run step .init past = some d → Unaffected d (lastPut past) (lastPut past') o :=
  feedback_iff (show run step .init
      (reopening [.set (.shutterSpeed 0) .allOk, .set (.awbRb 1 1) .allOk]) = some _ from rfl)
    (show run step .init (reopening [.control (.cameraSettings 7 ⟨0, 0⟩ ⟨1, 1⟩),
      .set (.shutterSpeed 0) .allOk, .set (.awbRb 1 1) .allOk]) = some _ from rfl) rfl

/-- When nothing is set in between, the second open commits what the camera
    reported. -/
theorem reopened_with_reported_exposure :
    (run step .init (reopening [])).isSome = true ∧
      (run step .init (purge Op.reports (reopening []))).isSome = true ∧
      outputs step Op.reports (fun c o => o.sends c) .init (reopening [])
        ≠ outputs step Op.reports (fun c o => o.sends c) .init
          (purge Op.reports (reopening [])) := by
  refine ⟨rfl, rfl, ?_⟩
  decide +kernel

end Video

end RaspiCam
