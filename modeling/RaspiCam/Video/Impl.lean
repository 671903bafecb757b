import RaspiCam.Core.Mmal
import RaspiCam.Core.Scaler
import RaspiCam.Core.Settings
import RaspiCam.Video.Frame

/-!
# The Video Implementation: Settings

The object behind the video API, its settings, and how they reach the device.
A setter records its argument in `RASPIVID_STATE` and, while the camera is
open, commits it at once; `commitParameters` commits everything when the
camera opens. The size and the format are only recorded.

Settings are `int` in the source and integers here, so an argument of type
`unsigned int` is stored as the `int` it converts to. The two white balance
gains are of type `float`.

## Main definitions

* `RaspividState`: The recorded settings.
* `PortUserdata`: What the frame callback is given.
* `PrivateImpl`: The object.
* `Camera`: The object together with the device.
* `commitParameters`: Committing everything.
* `Setting`, `Setting.apply`: The settings that are committed while open.

## Theorems

* `put_ok`: What a setter changes.
* `Setting.apply_keeps`: No such setting touches the size or the stored frame.
* `commitParameters_ok`: What committing everything changes.
-/

namespace RaspiCam

open Mmal Machine

namespace Video

/-- `RASPIVID_STATE`. -/
structure RaspividState where
  sensorMode : Int
  width : Int
  height : Int
  framerate : Int
  cameraComponent : Option Handle
  videoPool : Option Handle
  sharpness : Int
  contrast : Int
  brightness : Int
  saturation : Int
  iso : Int
  videoStabilisation : Bool
  exposureCompensation : Int
  shutterSpeed : Int
  captureFtm : RaspicamFormat
  rpcExposureMode : RaspicamExposure
  rpcExposureMeterMode : RaspicamMetering
  rpcAwbMode : RaspicamAwb
  rpcImageEffect : RaspicamImageEffect
  rotation : Int
  hflip : Bool
  vflip : Bool
  awbgRed : Float32
  awbgBlue : Float32

/-- `PORT_USERDATA`, less the lock and the condition. `attached` says that
    `pstate` and `inst` point to the object. -/
structure PortUserdata where
  attached : Bool
  wantToGrab : Bool
  buffData : Membuf
  userCallback : Bool

/-- `Private_Impl`. -/
structure PrivateImpl where
  state : RaspividState
  cameraVideoPort : Option PortRef
  callbackData : PortUserdata
  isOpened : Bool
  isCapturing : Bool
  rgbBgrFixed : Bool

/-- The object together with the device. -/
structure Camera where
  impl : PrivateImpl
  world : World

/-- `Private_Impl::setDefaultStateParams`. -/
def defaultStateParams : RaspividState where
  sensorMode := 0
  width := 1280
  height := 960
  framerate := 10
  cameraComponent := none
  videoPool := none
  sharpness := 0
  contrast := 0
  brightness := 50
  saturation := 0
  iso := 400
  videoStabilisation := false
  exposureCompensation := 0
  shutterSpeed := 0
  captureFtm := .rgb
  rpcExposureMode := .auto
  rpcExposureMeterMode := .average
  rpcAwbMode := .auto
  rpcImageEffect := .none
  rotation := 0
  hflip := false
  vflip := false
  awbgRed := 1
  awbgBlue := 1

/-- `Private_Impl::Private_Impl`. -/
def PrivateImpl.init : PrivateImpl where
  state := defaultStateParams
  cameraVideoPort := none
  callbackData := { attached := false, wantToGrab := false, buffData := Membuf.empty,
                    userCallback := false }
  isOpened := false
  isCapturing := false
  rgbBgrFixed := false

/-- A fresh object in front of a device on which nothing was created yet. -/
def Camera.init : Camera := ⟨PrivateImpl.init, World.empty⟩

/-- `Private_Impl::getWidth`. -/
def PrivateImpl.getWidth (p : PrivateImpl) : Nat := u32 p.state.width

/-- `Private_Impl::getHeight`. -/
def PrivateImpl.getHeight (p : PrivateImpl) : Nat := u32 p.state.height

/-- `Private_Impl::getFormat`. -/
def PrivateImpl.getFormat (p : PrivateImpl) : RaspicamFormat := p.state.captureFtm

/-- `Private_Impl::getImageTypeSize`. -/
def PrivateImpl.imageTypeSize (p : PrivateImpl) (type : RaspicamFormat) : Nat :=
  getImageTypeSize p.getWidth p.getHeight type

/-- `Private_Impl::getImageBufferSize`. -/
def PrivateImpl.getImageBufferSize (p : PrivateImpl) : Nat := p.imageTypeSize p.getFormat

/-- `Private_Impl::convertFormat`. -/
def convertFormat (rgbBgrFixed : Bool) : RaspicamFormat → MmalEncoding
  | .rgb => if rgbBgrFixed then .rgb24 else .bgr24
  | .bgr => if rgbBgrFixed then .bgr24 else .rgb24
  | .gray => .i420
  | .yuv420 => .i420
  | .ignore => .i420

section Commit

variable (s : RaspividState) (r : SetResults) (w : World)

/-- `Private_Impl::commitBrightness`. -/
def commitBrightness : Except Fault World :=
  sendAll s.cameraComponent r [(.control, .brightness (percent s.brightness))] w

/-- `Private_Impl::commitRotation`. -/
def commitRotation : Except Fault World :=
  let rotation := s.rotation.tdiv 90 * 90
  sendAll s.cameraComponent r
    [(.output 0, .rotation rotation), (.output 1, .rotation rotation),
     (.output 2, .rotation rotation)] w

/-- `Private_Impl::commitISO`. -/
def commitIso : Except Fault World :=
  sendAll s.cameraComponent r [(.control, .iso (u32 s.iso))] w

/-- `Private_Impl::commitSharpness`. -/
def commitSharpness : Except Fault World :=
  sendAll s.cameraComponent r [(.control, .sharpness (percent s.sharpness))] w

/-- `Private_Impl::commitShutterSpeed`. -/
def commitShutterSpeed : Except Fault World :=
  sendAll s.cameraComponent r [(.control, .shutterSpeed (u32 s.shutterSpeed))] w

/-- `Private_Impl::commitContrast`. -/
def commitContrast : Except Fault World :=
  sendAll s.cameraComponent r [(.control, .contrast (percent s.contrast))] w

/-- `Private_Impl::commitSaturation`. -/
def commitSaturation : Except Fault World :=
  sendAll s.cameraComponent r [(.control, .saturation (percent s.saturation))] w

/-- `Private_Impl::commitExposure`. -/
def commitExposure : Except Fault World :=
  sendAll s.cameraComponent r [(.control, .exposureMode (convertExposure s.rpcExposureMode))] w

/-- `Private_Impl::commitExposureCompensation`. -/
def commitExposureCompensation : Except Fault World :=
  sendAll s.cameraComponent r [(.control, .exposureComp s.exposureCompensation)] w

/-- `Private_Impl::commitAWB`. -/
def commitAwb : Except Fault World :=
  sendAll s.cameraComponent r [(.control, .awbMode (convertAwb s.rpcAwbMode))] w

/-- `Private_Impl::commitImageEffect`. -/
def commitImageEffect : Except Fault World :=
  sendAll s.cameraComponent r [(.control, .imageEffect (convertImageEffect s.rpcImageEffect))] w

/-- `Private_Impl::commitMetering`. -/
def commitMetering : Except Fault World :=
  sendAll s.cameraComponent r
    [(.control, .expMeteringMode (convertMetering s.rpcExposureMeterMode))] w

/-- `Private_Impl::commitFlips`. The three calls are chained by `||`. -/
def commitFlips : Except Fault World :=
  let mirror := mirrorOf s.hflip s.vflip
  sendWhileOk s.cameraComponent r
    [(.output 0, .mirror mirror), (.output 1, .mirror mirror), (.output 2, .mirror mirror)] w

/-- `Private_Impl::commitVideoStabilization`. -/
def commitVideoStabilization : Except Fault World :=
  sendAll s.cameraComponent r [(.control, .videoStabilisation s.videoStabilisation)] w

/-- A white balance gain in units of `1 / 65536`. The conversion of a value that
    an `unsigned int` cannot hold is undefined; the processor of the camera takes
    the nearest one it can hold, and zero for NaN, as `Float32.toUInt32` does. -/
def awbGain (g : Float32) : MmalRational := ⟨i32 (g * 65536).toUInt32.toNat, 65536⟩

/-- `Private_Impl::commitAWB_RB`. -/
def commitAwbRb : Except Fault World :=
  sendAll s.cameraComponent r
    [(.control, .customAwbGains (awbGain s.awbgRed) (awbGain s.awbgBlue))] w

end Commit

/-- `Private_Impl::commitParameters`. A shutter speed other than automatic
    also changes the recorded exposure mode. -/
def commitParameters (s : RaspividState) (r : SetResults) (w : World) :
    Except Fault (RaspividState × World) := do
  let w ← commitSaturation s r w
  let w ← commitSharpness s r w
  let w ← commitContrast s r w
  let w ← commitBrightness s r w
  let w ← commitIso s r w
  let w ← (if s.shutterSpeed ≠ 0 then commitShutterSpeed s r w else .ok w)
  let s := if s.shutterSpeed ≠ 0 then { s with rpcExposureMode := .fixedfps } else s
  let w ← commitExposure s r w
  let w ← commitExposureCompensation s r w
  let w ← commitMetering s r w
  let w ← commitImageEffect s r w
  let w ← commitRotation s r w
  let w ← commitFlips s r w
  let w ← commitVideoStabilization s r w
  let w ← commitAwb s r w
  let w ← commitAwbRb s r w
  .ok (s, w)

/-- Record new settings and, while the camera is open, commit what changed. -/
def Camera.put (c : Camera) (s : RaspividState)
    (commit : RaspividState → SetResults → World → Except Fault World) (r : SetResults) :
    Except Fault Camera :=
  if c.impl.isOpened then do
    .ok { impl := { c.impl with state := s }, world := ← commit s r c.world }
  else .ok { c with impl := { c.impl with state := s } }

section Setters

variable (r : SetResults) (c : Camera)

/-- `Private_Impl::setVideoStabilization`. -/
def setVideoStabilization (v : Bool) : Except Fault Camera :=
  c.put { c.impl.state with videoStabilisation := v } commitVideoStabilization r

/-- `Private_Impl::setBrightness`. -/
def setBrightness (brightness : UInt32) : Except Fault Camera :=
  let brightness := if brightness.toNat > 100 then 100 else brightness.toNat
  c.put { c.impl.state with brightness := brightness } commitBrightness r

/-- `Private_Impl::setShutterSpeed`. -/
def setShutterSpeed (shutter : UInt32) : Except Fault Camera :=
  let shutter := if shutter.toNat > 330000 then 330000 else shutter.toNat
  c.put { c.impl.state with shutterSpeed := shutter } commitShutterSpeed r

/-- `Private_Impl::setRotation`. -/
def setRotation (rotation : Int32) : Except Fault Camera :=
  let rotation := addTurns rotation.toInt
  let rotation := if rotation ≥ 360 then rotation.tmod 360 else rotation
  c.put { c.impl.state with rotation := rotation } commitRotation r

/-- `Private_Impl::setISO`. -/
def setIso (iso : Int32) : Except Fault Camera :=
  c.put { c.impl.state with iso := iso.toInt } commitIso r

/-- `Private_Impl::setSharpness`. -/
def setSharpness (sharpness : Int32) : Except Fault Camera :=
  c.put { c.impl.state with sharpness := clamp (-100) 100 sharpness.toInt } commitSharpness r

/-- `Private_Impl::setContrast`. -/
def setContrast (contrast : Int32) : Except Fault Camera :=
  c.put { c.impl.state with contrast := clamp (-100) 100 contrast.toInt } commitContrast r

/-- `Private_Impl::setSaturation`. -/
def setSaturation (saturation : Int32) : Except Fault Camera :=
  c.put { c.impl.state with saturation := clamp (-100) 100 saturation.toInt } commitSaturation r

/-- `Private_Impl::setAWB_RB`. -/
def setAwbRb (redG blueG : Float32) : Except Fault Camera :=
  c.put { c.impl.state with awbgBlue := blueG, awbgRed := redG } commitAwbRb r

/-- `Private_Impl::setExposure`. -/
def setExposure (exposure : RaspicamExposure) : Except Fault Camera :=
  c.put { c.impl.state with rpcExposureMode := exposure } commitExposure r

/-- `Private_Impl::setAWB`. -/
def setAwb (awb : RaspicamAwb) : Except Fault Camera :=
  c.put { c.impl.state with rpcAwbMode := awb } commitAwb r

/-- `Private_Impl::setImageEffect`. -/
def setImageEffect (imageEffect : RaspicamImageEffect) : Except Fault Camera :=
  c.put { c.impl.state with rpcImageEffect := imageEffect } commitImageEffect r

/-- `Private_Impl::setMetering`. -/
def setMetering (metering : RaspicamMetering) : Except Fault Camera :=
  c.put { c.impl.state with rpcExposureMeterMode := metering } commitMetering r

/-- `Private_Impl::setExposureCompensation`. -/
def setExposureCompensation (val : Int32) : Except Fault Camera :=
  c.put { c.impl.state with exposureCompensation := clamp (-10) 10 val.toInt }
    commitExposureCompensation r

/-- `Private_Impl::setHorizontalFlip`. -/
def setHorizontalFlip (hFlip : Bool) : Except Fault Camera :=
  c.put { c.impl.state with hflip := hFlip } commitFlips r

/-- `Private_Impl::setVerticalFlip`. -/
def setVerticalFlip (vFlip : Bool) : Except Fault Camera :=
  c.put { c.impl.state with vflip := vFlip } commitFlips r

end Setters

/-- Record new settings without committing anything. -/
def Camera.record (c : Camera) (s : RaspividState) : Camera :=
  { c with impl := { c.impl with state := s } }

/-- `Private_Impl::setWidth`. -/
def setWidth (width : UInt32) (c : Camera) : Camera :=
  c.record { c.impl.state with width := i32 width.toNat }

/-- `Private_Impl::setHeight`. -/
def setHeight (height : UInt32) (c : Camera) : Camera :=
  c.record { c.impl.state with height := i32 height.toNat }

/-- `Private_Impl::setCaptureSize`. -/
def setCaptureSize (width height : UInt32) (c : Camera) : Camera :=
  setHeight height (setWidth width c)

theorem setCaptureSize_eq (width height : UInt32) (c : Camera) :
    setCaptureSize width height c = c.record { c.impl.state with
      width := i32 width.toNat
      height := i32 height.toNat } := rfl

/-- `Private_Impl::setFormat`. -/
def setFormat (fmt : RaspicamFormat) (c : Camera) : Camera :=
  if c.impl.isOpened then c else c.record { c.impl.state with captureFtm := fmt }

/-- `Private_Impl::setSensorMode`. -/
def setSensorMode (mode : Int32) (c : Camera) : Camera :=
  if c.impl.isOpened then c else c.record { c.impl.state with sensorMode := mode.toInt }

/-- `Private_Impl::setFrameRate`. -/
def setFrameRate (framesPerSecond : Int32) (c : Camera) : Camera :=
  c.record { c.impl.state with framerate := framesPerSecond.toInt }

/-- `Private_Impl::setUserCallback`, by whether there is a callback. -/
def setUserCallback (userCallback : Bool) (c : Camera) : Camera :=
  { c with impl := { c.impl with
      callbackData := { c.impl.callbackData with userCallback := userCallback } } }

/-- The settings that are committed at once while the camera is open. -/
inductive Setting
  | videoStabilization (v : Bool)
  | brightness (v : UInt32)
  | shutterSpeed (v : UInt32)
  | rotation (v : Int32)
  | iso (v : Int32)
  | sharpness (v : Int32)
  | contrast (v : Int32)
  | saturation (v : Int32)
  | awbRb (red blue : Float32)
  | exposure (v : RaspicamExposure)
  | awb (v : RaspicamAwb)
  | imageEffect (v : RaspicamImageEffect)
  | metering (v : RaspicamMetering)
  | exposureCompensation (v : Int32)
  | horizontalFlip (v : Bool)
  | verticalFlip (v : Bool)

/-- Call the setter. -/
def Setting.apply (r : SetResults) (c : Camera) : Setting → Except Fault Camera
  | .videoStabilization v => setVideoStabilization r c v
  | .brightness v => setBrightness r c v
  | .shutterSpeed v => setShutterSpeed r c v
  | .rotation v => setRotation r c v
  | .iso v => setIso r c v
  | .sharpness v => setSharpness r c v
  | .contrast v => setContrast r c v
  | .saturation v => setSaturation r c v
  | .awbRb red blue => setAwbRb r c red blue
  | .exposure v => setExposure r c v
  | .awb v => setAwb r c v
  | .imageEffect v => setImageEffect r c v
  | .metering v => setMetering r c v
  | .exposureCompensation v => setExposureCompensation r c v
  | .horizontalFlip v => setHorizontalFlip r c v
  | .verticalFlip v => setVerticalFlip r c v

/-- Committing changes nothing but parameters. -/
def Quiet (commit : RaspividState → SetResults → World → Except Fault World) : Prop :=
  ∀ s r w w', commit s r w = .ok w' → w'.forgetParams = w.forgetParams

/-- The settings that are fixed when the camera opens, and the objects, are
    the same. -/
structure RaspividState.SameCapture (s s' : RaspividState) : Prop where
  width : s'.width = s.width
  height : s'.height = s.height
  captureFtm : s'.captureFtm = s.captureFtm
  framerate : s'.framerate = s.framerate
  sensorMode : s'.sensorMode = s.sensorMode
  cameraComponent : s'.cameraComponent = s.cameraComponent
  videoPool : s'.videoPool = s.videoPool

/-- Nothing changed but settings that are committed at once. -/
structure Camera.Keeps (c c' : Camera) : Prop where
  state : c.impl.state.SameCapture c'.impl.state
  cameraVideoPort : c'.impl.cameraVideoPort = c.impl.cameraVideoPort
  callbackData : c'.impl.callbackData = c.impl.callbackData
  isOpened : c'.impl.isOpened = c.impl.isOpened
  isCapturing : c'.impl.isCapturing = c.impl.isCapturing
  rgbBgrFixed : c'.impl.rgbBgrFixed = c.impl.rgbBgrFixed
  devices : c'.world.forgetParams = c.world.forgetParams

theorem RaspividState.SameCapture.trans {s t u : RaspividState} (h : s.SameCapture t)
    (h' : t.SameCapture u) : s.SameCapture u :=
  ⟨h'.width.trans h.width, h'.height.trans h.height, h'.captureFtm.trans h.captureFtm,
    h'.framerate.trans h.framerate, h'.sensorMode.trans h.sensorMode,
    h'.cameraComponent.trans h.cameraComponent, h'.videoPool.trans h.videoPool⟩

theorem RaspividState.SameCapture.refl (s : RaspividState) : s.SameCapture s :=
  ⟨rfl, rfl, rfl, rfl, rfl, rfl, rfl⟩

theorem commitVideoStabilization_quiet : Quiet commitVideoStabilization :=
  fun _ _ _ _ h => sendAll_forgetParams h

theorem commitBrightness_quiet : Quiet commitBrightness := fun _ _ _ _ h => sendAll_forgetParams h

theorem commitShutterSpeed_quiet : Quiet commitShutterSpeed :=
  fun _ _ _ _ h => sendAll_forgetParams h

theorem commitRotation_quiet : Quiet commitRotation := fun _ _ _ _ h => sendAll_forgetParams h

theorem commitIso_quiet : Quiet commitIso := fun _ _ _ _ h => sendAll_forgetParams h

theorem commitSharpness_quiet : Quiet commitSharpness := fun _ _ _ _ h => sendAll_forgetParams h

theorem commitContrast_quiet : Quiet commitContrast := fun _ _ _ _ h => sendAll_forgetParams h

theorem commitSaturation_quiet : Quiet commitSaturation := fun _ _ _ _ h => sendAll_forgetParams h

theorem commitAwbRb_quiet : Quiet commitAwbRb := fun _ _ _ _ h => sendAll_forgetParams h

theorem commitExposure_quiet : Quiet commitExposure := fun _ _ _ _ h => sendAll_forgetParams h

theorem commitAwb_quiet : Quiet commitAwb := fun _ _ _ _ h => sendAll_forgetParams h

theorem commitImageEffect_quiet : Quiet commitImageEffect :=
  fun _ _ _ _ h => sendAll_forgetParams h

theorem commitMetering_quiet : Quiet commitMetering := fun _ _ _ _ h => sendAll_forgetParams h

theorem commitExposureCompensation_quiet : Quiet commitExposureCompensation :=
  fun _ _ _ _ h => sendAll_forgetParams h

theorem commitFlips_quiet : Quiet commitFlips := fun _ _ _ _ h => sendWhileOk_forgetParams h

/-- What a setter changes. -/
theorem put_ok {c c' : Camera} {s : RaspividState}
    {commit : RaspividState → SetResults → World → Except Fault World} {r : SetResults}
    (h : c.put s commit r = .ok c') (hq : Quiet commit) :
    c'.impl = { c.impl with state := s } ∧ c'.world.forgetParams = c.world.forgetParams := by
  unfold Camera.put at h
  by_cases ho : c.impl.isOpened = true
  · rw [if_pos ho] at h
    rcases bind_ok h with ⟨w, hw, hc⟩
    rw [← Except.ok.inj hc]
    exact ⟨rfl, hq _ _ _ _ hw⟩
  · rw [if_neg ho] at h
    rw [← Except.ok.inj h]
    exact ⟨rfl, rfl⟩

/-- A setter that leaves the capture settings alone keeps everything else,
    too. -/
theorem put_keeps {c c' : Camera} {s : RaspividState}
    {commit : RaspividState → SetResults → World → Except Fault World} {r : SetResults}
    (h : c.put s commit r = .ok c') (hq : Quiet commit) (hs : c.impl.state.SameCapture s) :
    c.Keeps c' := by
  rcases put_ok h hq with ⟨himpl, hworld⟩
  refine ⟨?_, ?_, ?_, ?_, ?_, ?_, hworld⟩ <;> rw [himpl]
  exact hs

/-- No setting that is committed at once touches the size, the format, the
    stored frame or the devices. -/
theorem Setting.apply_keeps {x : Setting} {r : SetResults} {c c' : Camera}
    (h : x.apply r c = .ok c') : c.Keeps c' := by
  cases x with
  | videoStabilization v =>
      exact put_keeps h commitVideoStabilization_quiet ⟨rfl, rfl, rfl, rfl, rfl, rfl, rfl⟩
  | brightness v => exact put_keeps h commitBrightness_quiet ⟨rfl, rfl, rfl, rfl, rfl, rfl, rfl⟩
  | shutterSpeed v => exact put_keeps h commitShutterSpeed_quiet ⟨rfl, rfl, rfl, rfl, rfl, rfl, rfl⟩
  | rotation v => exact put_keeps h commitRotation_quiet ⟨rfl, rfl, rfl, rfl, rfl, rfl, rfl⟩
  | iso v => exact put_keeps h commitIso_quiet ⟨rfl, rfl, rfl, rfl, rfl, rfl, rfl⟩
  | sharpness v => exact put_keeps h commitSharpness_quiet ⟨rfl, rfl, rfl, rfl, rfl, rfl, rfl⟩
  | contrast v => exact put_keeps h commitContrast_quiet ⟨rfl, rfl, rfl, rfl, rfl, rfl, rfl⟩
  | saturation v => exact put_keeps h commitSaturation_quiet ⟨rfl, rfl, rfl, rfl, rfl, rfl, rfl⟩
  | awbRb red blue => exact put_keeps h commitAwbRb_quiet ⟨rfl, rfl, rfl, rfl, rfl, rfl, rfl⟩
  | exposure v => exact put_keeps h commitExposure_quiet ⟨rfl, rfl, rfl, rfl, rfl, rfl, rfl⟩
  | awb v => exact put_keeps h commitAwb_quiet ⟨rfl, rfl, rfl, rfl, rfl, rfl, rfl⟩
  | imageEffect v => exact put_keeps h commitImageEffect_quiet ⟨rfl, rfl, rfl, rfl, rfl, rfl, rfl⟩
  | metering v => exact put_keeps h commitMetering_quiet ⟨rfl, rfl, rfl, rfl, rfl, rfl, rfl⟩
  | exposureCompensation v =>
      exact put_keeps h commitExposureCompensation_quiet ⟨rfl, rfl, rfl, rfl, rfl, rfl, rfl⟩
  | horizontalFlip v => exact put_keeps h commitFlips_quiet ⟨rfl, rfl, rfl, rfl, rfl, rfl, rfl⟩
  | verticalFlip v => exact put_keeps h commitFlips_quiet ⟨rfl, rfl, rfl, rfl, rfl, rfl, rfl⟩

/-- What committing everything changes. -/
theorem commitParameters_ok {s s' : RaspividState} {r : SetResults} {w w' : World}
    (h : commitParameters s r w = .ok (s', w')) :
    s.SameCapture s' ∧ w'.forgetParams = w.forgetParams := by
  rcases bind_ok h with ⟨w1, h1, h⟩
  rcases bind_ok h with ⟨w2, h2, h⟩
  rcases bind_ok h with ⟨w3, h3, h⟩
  rcases bind_ok h with ⟨w4, h4, h⟩
  rcases bind_ok h with ⟨w5, h5, h⟩
  rcases bind_ok h with ⟨w6, h6, h⟩
  rcases bind_ok h with ⟨w7, h7, h⟩
  rcases bind_ok h with ⟨w8, h8, h⟩
  rcases bind_ok h with ⟨w9, h9, h⟩
  rcases bind_ok h with ⟨w10, h10, h⟩
  rcases bind_ok h with ⟨w11, h11, h⟩
  rcases bind_ok h with ⟨w12, h12, h⟩
  rcases bind_ok h with ⟨w13, h13, h⟩
  rcases bind_ok h with ⟨w14, h14, h⟩
  rcases bind_ok h with ⟨w15, h15, h⟩
  have hshutter : w6.forgetParams = w5.forgetParams := by
    by_cases hs : s.shutterSpeed ≠ 0
    · rw [if_pos hs] at h6
      exact commitShutterSpeed_quiet _ _ _ _ h6
    · rw [if_neg hs] at h6
      rw [Except.ok.inj h6]
  rcases Prod.mk.inj (Except.ok.inj h) with ⟨rfl, rfl⟩
  constructor
  · by_cases hs : s.shutterSpeed ≠ 0
    · rw [if_pos hs]
      exact ⟨rfl, rfl, rfl, rfl, rfl, rfl, rfl⟩
    · rw [if_neg hs]
      exact .refl s
  · calc w15.forgetParams = w14.forgetParams := commitAwbRb_quiet _ _ _ _ h15
      _ = w13.forgetParams := commitAwb_quiet _ _ _ _ h14
      _ = w12.forgetParams := commitVideoStabilization_quiet _ _ _ _ h13
      _ = w11.forgetParams := commitFlips_quiet _ _ _ _ h12
      _ = w10.forgetParams := commitRotation_quiet _ _ _ _ h11
      _ = w9.forgetParams := commitImageEffect_quiet _ _ _ _ h10
      _ = w8.forgetParams := commitMetering_quiet _ _ _ _ h9
      _ = w7.forgetParams := commitExposureCompensation_quiet _ _ _ _ h8
      _ = w6.forgetParams := commitExposure_quiet _ _ _ _ h7
      _ = w5.forgetParams := hshutter
      _ = w4.forgetParams := commitIso_quiet _ _ _ _ h5
      _ = w3.forgetParams := commitBrightness_quiet _ _ _ _ h4
      _ = w2.forgetParams := commitContrast_quiet _ _ _ _ h3
      _ = w1.forgetParams := commitSharpness_quiet _ _ _ _ h2
      _ = w.forgetParams := commitSaturation_quiet _ _ _ _ h1

end Video

end RaspiCam
