import RaspiCam.Core.Commit
import RaspiCam.Core.Settings
import RaspiCam.Lib.Machine

/-!
# The Still Implementation: Settings

The object behind the still API and its settings. A setter only records its
argument and sets `changedSettings`; `commitParameters` commits everything
when that flag is set and clears it. The quality and the encoding belong to
the encoder and are only committed once there is one.

The fields of type `unsigned int` are naturals here, those of type `int` are
integers.

## Main definitions

* `PrivateImplStill`: The object.
* `StillCamera`: The object together with the device.
* `Setting`, `Setting.apply`: The setters.
* `commitParameters`: Committing everything.
* `cameraParams`: What the camera is told.

## Theorems

* `Setting.apply_keeps`: A setter only records its setting.
* `commitParameters_ok`: What committing does in any case.
* `commitParameters_allOk`: What committing does when all of it is accepted.
* `committedParams_nodup`: Everything that is told goes to its own place.
-/

namespace RaspiCam

open Mmal Machine

namespace Still

/-- `Private_Impl_Still`. -/
structure PrivateImplStill where
  camera : Option Handle
  encoder : Option Handle
  encoderConnection : Option Handle
  encoderPool : Option Handle
  cameraStillPort : Option PortRef
  encoderInputPort : Option PortRef
  encoderOutputPort : Option PortRef
  width : Nat
  height : Nat
  rotation : Nat
  brightness : Nat
  quality : Nat
  iso : Int
  sharpness : Int
  contrast : Int
  saturation : Int
  encoding : RaspicamEncoding
  exposure : RaspicamExposure
  awb : RaspicamAwb
  imageEffect : RaspicamImageEffect
  metering : RaspicamMetering
  changedSettings : Bool
  horizontalFlip : Bool
  verticalFlip : Bool
  isInitialized : Bool

/-- The object together with the device. -/
structure StillCamera where
  impl : PrivateImplStill
  world : World

/-- `Private_Impl_Still::Private_Impl_Still`, with `setDefaults`. -/
def PrivateImplStill.init : PrivateImplStill where
  camera := none
  encoder := none
  encoderConnection := none
  encoderPool := none
  cameraStillPort := none
  encoderInputPort := none
  encoderOutputPort := none
  width := 640
  height := 480
  rotation := 0
  brightness := 50
  quality := 85
  iso := 400
  sharpness := 0
  contrast := 0
  saturation := 0
  encoding := .bmp
  exposure := .auto
  awb := .auto
  imageEffect := .none
  metering := .average
  changedSettings := true
  horizontalFlip := false
  verticalFlip := false
  isInitialized := false

/-- A fresh object in front of a device on which nothing was created yet. -/
def StillCamera.init : StillCamera := ⟨PrivateImplStill.init, World.empty⟩

section Setters

variable (p : PrivateImplStill)

/-- `Private_Impl_Still::setWidth`. -/
def setWidth (width : UInt32) : PrivateImplStill :=
  { p with width := width.toNat, changedSettings := true }

/-- `Private_Impl_Still::setHeight`. -/
def setHeight (height : UInt32) : PrivateImplStill :=
  { p with height := height.toNat, changedSettings := true }

/-- `Private_Impl_Still::setCaptureSize`. -/
def setCaptureSize (width height : UInt32) : PrivateImplStill := setHeight (setWidth p width) height

/-- `Private_Impl_Still::setBrightness`. -/
def setBrightness (brightness : UInt32) : PrivateImplStill :=
  let brightness := brightness.toNat
  let brightness := if brightness > 100 then brightness % 100 else brightness
  { p with brightness := brightness, changedSettings := true }

/-- `Private_Impl_Still::setQuality`. -/
def setQuality (quality : UInt32) : PrivateImplStill :=
  let quality := quality.toNat
  let quality := if quality > 100 then 100 else quality
  { p with quality := quality, changedSettings := true }

/-- `Private_Impl_Still::setRotation`. -/
def setRotation (rotation : Int32) : PrivateImplStill :=
  let rotation := addTurns rotation.toInt
  let rotation := if rotation ≥ 360 then rotation.tmod 360 else rotation
  { p with rotation := u32 rotation, changedSettings := true }

/-- `Private_Impl_Still::setISO`. -/
def setIso (iso : Int32) : PrivateImplStill := { p with iso := iso.toInt, changedSettings := true }

/-- `Private_Impl_Still::setSharpness`. -/
def setSharpness (sharpness : Int32) : PrivateImplStill :=
  { p with sharpness := clamp (-100) 100 sharpness.toInt, changedSettings := true }

/-- `Private_Impl_Still::setContrast`. -/
def setContrast (contrast : Int32) : PrivateImplStill :=
  { p with contrast := clamp (-100) 100 contrast.toInt, changedSettings := true }

/-- `Private_Impl_Still::setSaturation`. -/
def setSaturation (saturation : Int32) : PrivateImplStill :=
  { p with saturation := clamp (-100) 100 saturation.toInt, changedSettings := true }

/-- `Private_Impl_Still::setEncoding`. -/
def setEncoding (encoding : RaspicamEncoding) : PrivateImplStill :=
  { p with encoding := encoding, changedSettings := true }

/-- `Private_Impl_Still::setExposure`. -/
def setExposure (exposure : RaspicamExposure) : PrivateImplStill :=
  { p with exposure := exposure, changedSettings := true }

/-- `Private_Impl_Still::setAWB`. -/
def setAwb (awb : RaspicamAwb) : PrivateImplStill := { p with awb := awb, changedSettings := true }

/-- `Private_Impl_Still::setImageEffect`. -/
def setImageEffect (imageEffect : RaspicamImageEffect) : PrivateImplStill :=
  { p with imageEffect := imageEffect, changedSettings := true }

/-- `Private_Impl_Still::setMetering`. -/
def setMetering (metering : RaspicamMetering) : PrivateImplStill :=
  { p with metering := metering, changedSettings := true }

/-- `Private_Impl_Still::setHorizontalFlip`. -/
def setHorizontalFlip (hFlip : Bool) : PrivateImplStill :=
  { p with horizontalFlip := hFlip, changedSettings := true }

/-- `Private_Impl_Still::setVerticalFlip`. -/
def setVerticalFlip (vFlip : Bool) : PrivateImplStill :=
  { p with verticalFlip := vFlip, changedSettings := true }

end Setters

/-- The setters with their arguments. -/
inductive Setting
  | width (v : UInt32)
  | height (v : UInt32)
  | captureSize (width height : UInt32)
  | brightness (v : UInt32)
  | quality (v : UInt32)
  | rotation (v : Int32)
  | iso (v : Int32)
  | sharpness (v : Int32)
  | contrast (v : Int32)
  | saturation (v : Int32)
  | encoding (v : RaspicamEncoding)
  | exposure (v : RaspicamExposure)
  | awb (v : RaspicamAwb)
  | imageEffect (v : RaspicamImageEffect)
  | metering (v : RaspicamMetering)
  | horizontalFlip (v : Bool)
  | verticalFlip (v : Bool)

/-- Call the setter. -/
def Setting.apply (p : PrivateImplStill) : Setting → PrivateImplStill
  | .width v => setWidth p v
  | .height v => setHeight p v
  | .captureSize w h => setCaptureSize p w h
  | .brightness v => setBrightness p v
  | .quality v => setQuality p v
  | .rotation v => setRotation p v
  | .iso v => setIso p v
  | .sharpness v => setSharpness p v
  | .contrast v => setContrast p v
  | .saturation v => setSaturation p v
  | .encoding v => setEncoding p v
  | .exposure v => setExposure p v
  | .awb v => setAwb p v
  | .imageEffect v => setImageEffect p v
  | .metering v => setMetering p v
  | .horizontalFlip v => setHorizontalFlip p v
  | .verticalFlip v => setVerticalFlip p v

section Commit

variable (p : PrivateImplStill) (r : SetResults) (w : World)

/-- `Private_Impl_Still::commitBrightness`. -/
def commitBrightness : Except Fault World :=
  sendAll p.camera r [(.control, .brightness (percent (i32 p.brightness)))] w

/-- `Private_Impl_Still::commitQuality`. -/
def commitQuality : Except Fault World :=
  match p.encoderOutputPort with
  | none => .ok w
  | some port => sendTo (some port) (.jpegQFactor p.quality) r w

/-- The angle `commitRotation` commits. -/
def committedRotation : Int := (p.rotation / 90 : Nat) * 90

/-- `Private_Impl_Still::commitRotation`. -/
def commitRotation : Except Fault World :=
  let rotation := committedRotation p
  sendAll p.camera r
    [(.output 0, .rotation rotation), (.output 1, .rotation rotation),
     (.output 2, .rotation rotation)] w

/-- `Private_Impl_Still::commitISO`. -/
def commitIso : Except Fault World := sendAll p.camera r [(.control, .iso (u32 p.iso))] w

/-- `Private_Impl_Still::commitSharpness`. -/
def commitSharpness : Except Fault World :=
  sendAll p.camera r [(.control, .sharpness (percent p.sharpness))] w

/-- `Private_Impl_Still::commitContrast`. -/
def commitContrast : Except Fault World :=
  sendAll p.camera r [(.control, .contrast (percent p.contrast))] w

/-- `Private_Impl_Still::commitSaturation`. -/
def commitSaturation : Except Fault World :=
  sendAll p.camera r [(.control, .saturation (percent p.saturation))] w

/-- `Private_Impl_Still::commitExposure`. -/
def commitExposure : Except Fault World :=
  sendAll p.camera r [(.control, .exposureMode (convertExposure p.exposure))] w

/-- `Private_Impl_Still::commitAWB`. -/
def commitAwb : Except Fault World :=
  sendAll p.camera r [(.control, .awbMode (convertAwb p.awb))] w

/-- `Private_Impl_Still::commitImageEffect`. -/
def commitImageEffect : Except Fault World :=
  sendAll p.camera r [(.control, .imageEffect (convertImageEffect p.imageEffect))] w

/-- `Private_Impl_Still::commitMetering`. -/
def commitMetering : Except Fault World :=
  sendAll p.camera r [(.control, .expMeteringMode (convertMetering p.metering))] w

/-- `Private_Impl_Still::commitFlips`. The three calls are chained by `||`. -/
def commitFlips : Except Fault World :=
  let mirror := mirrorOf p.horizontalFlip p.verticalFlip
  sendWhileOk p.camera r
    [(.output 0, .mirror mirror), (.output 1, .mirror mirror), (.output 2, .mirror mirror)] w

/-- The parameters `commitParameters` sets to the same value every time. -/
def fixedParams : List (PortId × Param) :=
  [(.control, .videoStabilisation false), (.control, .exposureComp 0),
   (.control, .colourEffect false 128 128), (.control, .inputCrop 0 0 65536 65536)]

/-- The last part of `commitParameters`: the encoding, once there is an
    encoder. Whether the format is accepted is not looked at. -/
def commitEncoding : Except Fault World :=
  match p.encoderOutputPort with
  | none => .ok w
  | some port => do
    let port ← usePort (some port) w
    let w := w.writeFormat port.component port.port fun f =>
      { f with encoding := convertEncoding p.encoding }
    .ok (w.commitFormat port.component port.port r.formatCommit)

end Commit

/-- `Private_Impl_Still::commitParameters`. -/
def commitParameters (r : SetResults) (c : StillCamera) : Except Fault StillCamera :=
  if c.impl.changedSettings = false then .ok c else do
  let p := c.impl
  let w ← commitSharpness p r c.world
  let w ← commitContrast p r w
  let w ← commitBrightness p r w
  let w ← commitQuality p r w
  let w ← commitSaturation p r w
  let w ← commitIso p r w
  let w ← commitExposure p r w
  let w ← commitMetering p r w
  let w ← commitAwb p r w
  let w ← commitImageEffect p r w
  let w ← commitRotation p r w
  let w ← commitFlips p r w
  let w ← sendAll p.camera r fixedParams w
  let w ← commitEncoding p r w
  .ok ⟨{ p with changedSettings := false }, w⟩

/-- What a setter does not touch: the pointers. -/
structure PrivateImplStill.SameObjects (p p' : PrivateImplStill) : Prop where
  camera : p'.camera = p.camera
  encoder : p'.encoder = p.encoder
  encoderConnection : p'.encoderConnection = p.encoderConnection
  encoderPool : p'.encoderPool = p.encoderPool
  cameraStillPort : p'.cameraStillPort = p.cameraStillPort
  encoderInputPort : p'.encoderInputPort = p.encoderInputPort
  encoderOutputPort : p'.encoderOutputPort = p.encoderOutputPort
  isInitialized : p'.isInitialized = p.isInitialized

/-- A setter only records its setting, and that something changed. -/
theorem Setting.apply_keeps (x : Setting) (p : PrivateImplStill) :
    p.SameObjects (x.apply p) ∧ (x.apply p).changedSettings = true := by
  cases x <;> exact ⟨⟨rfl, rfl, rfl, rfl, rfl, rfl, rfl, rfl⟩, rfl⟩

/-- What the camera is told before the quality of the encoder. -/
def cameraParamsFirst (p : PrivateImplStill) : List (PortId × Param) :=
  [(.control, .sharpness (percent p.sharpness)), (.control, .contrast (percent p.contrast)),
   (.control, .brightness (percent (i32 p.brightness)))]

/-- What it is told after that. -/
def cameraParamsThen (p : PrivateImplStill) : List (PortId × Param) :=
  let rotation := committedRotation p
  let mirror := mirrorOf p.horizontalFlip p.verticalFlip
  [(.control, .saturation (percent p.saturation)), (.control, .iso (u32 p.iso)),
   (.control, .exposureMode (convertExposure p.exposure)),
   (.control, .expMeteringMode (convertMetering p.metering)),
   (.control, .awbMode (convertAwb p.awb)),
   (.control, .imageEffect (convertImageEffect p.imageEffect)),
   (.output 0, .rotation rotation), (.output 1, .rotation rotation),
   (.output 2, .rotation rotation),
   (.output 0, .mirror mirror), (.output 1, .mirror mirror), (.output 2, .mirror mirror)]
  ++ fixedParams

/-- Everything the camera is told. -/
def cameraParams (p : PrivateImplStill) : List (PortId × Param) :=
  cameraParamsFirst p ++ cameraParamsThen p

/-- The parameters the camera is told, whatever their values. -/
theorem cameraParams_ids (p : PrivateImplStill) : (cameraParams p).map (fun q => q.2.id)
    = [.sharpness, .contrast, .brightness, .saturation, .iso, .exposureMode, .expMeteringMode,
      .awbMode, .imageEffect, .rotation, .rotation, .rotation, .mirror, .mirror, .mirror,
      .videoStabilisation, .exposureComp, .colourEffect, .inputCrop] := rfl

/-- The camera is told no other parameter. -/
theorem cameraParams_ne (p : PrivateImplStill) {i : ParamId}
    (hi : i ∉ [ParamId.sharpness, .contrast, .brightness, .saturation, .iso, .exposureMode,
      .expMeteringMode, .awbMode, .imageEffect, .rotation, .rotation, .rotation, .mirror, .mirror,
      .mirror, .videoStabilisation, .exposureComp, .colourEffect, .inputCrop]) :
    ∀ q ∈ cameraParams p, q.2.id ≠ i := by
  rintro q hq rfl
  rw [← cameraParams_ids p] at hi
  exact hi (List.mem_map_of_mem hq)

/-- What the encoder is told, once there is one. -/
def encoderParams (p : PrivateImplStill) : List (PortRef × Param) :=
  (p.encoderOutputPort.map fun port => (port, .jpegQFactor p.quality)).toList

/-- Everything that is told, in the order it is. -/
def committedParams (h : Handle) (p : PrivateImplStill) : List (PortRef × Param) :=
  toComponent h (cameraParamsFirst p) ++ (encoderParams p ++ toComponent h (cameraParamsThen p))

/-- Everything the camera is told goes to its own place, and so does the
    quality. -/
theorem committedParams_nodup (h : Handle) (p : PrivateImplStill) :
    ((committedParams h p).map slotOf).Nodup := by
  have hslots :
      (committedParams h p).map slotOf = (cameraParamsFirst p).map (fun q => (q.1, q.2.id))
      ++ ((encoderParams p).map slotOf ++ (cameraParamsThen p).map fun q => (q.1, q.2.id)) := by
    simp only [committedParams, toComponent, List.map_append, List.map_map]
    rfl
  rw [hslots]
  cases hp : p.encoderOutputPort with
  | none =>
      simp only [encoderParams, hp, Option.map_none, Option.toList_none, List.map_nil, Param.id,
        cameraParamsFirst, cameraParamsThen, fixedParams, List.map_cons, List.cons_append,
        List.nil_append]
      decide
  | some port =>
      simp only [encoderParams, hp, Option.map_some, Option.toList_some, List.map_cons,
        List.map_nil, slotOf, Param.id, cameraParamsFirst, cameraParamsThen, fixedParams,
        List.cons_append, List.nil_append, List.nodup_cons, List.mem_cons, Prod.mk.injEq,
        reduceCtorEq, and_false, and_true, PortId.output.injEq, List.not_mem_nil,
        or_self, not_false_eq_true, List.nodup_nil]
      decide

/-- What committing does when everything is accepted. -/
theorem commitParameters_allOk {r : SetResults} {c : StillCamera} {h : Handle} (hr : r.AllOk)
    (hchanged : c.impl.changedSettings = true) (hcamera : c.impl.camera = some h)
    (ha : c.world.alive h = true)
    (hport : ∀ port ∈ c.impl.encoderOutputPort, c.world.alive port.component = true) :
    commitParameters r c = (commitEncoding c.impl r (c.world.sent (committedParams h c.impl))).map
      fun w => ⟨{ c.impl with changedSettings := false }, w⟩ := by
  -- The quality alone goes to the encoder, and to no component before there is a port.
  have hquality : ∀ w : World, (∀ g, w.alive g = c.world.alive g) →
      commitQuality c.impl r w = .ok (w.sent (encoderParams c.impl)) := by
    intro w hw
    unfold commitQuality encoderParams
    cases hp : c.impl.encoderOutputPort with
    | none => rfl
    | some port =>
        have halive : w.alive port.component = true := by
          rw [hw]
          exact hport port hp
        simp only [sendTo_ok halive, hr.1, if_true]
        rfl
  unfold commitParameters
  simp only [hchanged, Bool.true_eq_false, if_false, commitSharpness, commitContrast,
    commitBrightness, commitSaturation, commitIso, commitExposure, commitMetering, commitAwb,
    commitImageEffect, commitRotation, commitFlips, sendWhileOk_eq_sendAll hr.paramsOk, hcamera,
    sendAll_eq_sent _ hr.paramsOk, World.alive_sent, ha, hquality, ok_bind, implies_true]
  simp only [← World.sent_append, committedParams, cameraParamsFirst, cameraParamsThen, fixedParams,
    toComponent, List.map_cons, List.map_nil, List.cons_append, List.nil_append,
    List.append_assoc]
  generalize commitEncoding c.impl r _ = x
  cases x with
  | error e => rfl
  | ok w => rfl

theorem commitQuality_forgetParams {p : PrivateImplStill} {r : SetResults} {w w' : World}
    (h : commitQuality p r w = .ok w') : w'.forgetParams = w.forgetParams := by
  unfold commitQuality at h
  cases hp : p.encoderOutputPort with
  | none =>
      simp only [hp, Except.ok.injEq] at h
      rw [h]
  | some port =>
      simp only [hp] at h
      exact sendTo_forgetParams h

/-- What committing the encoding does: it needs a port that is there, if any,
    and concerns nothing but the component of that port. -/
structure EncodingResult (p : PrivateImplStill) (w w' : World) : Prop where
  port : ∀ port ∈ p.encoderOutputPort, w.alive port.component = true
  alive : ∀ g, w'.alive g = w.alive g
  pools : w'.pools = w.pools
  next : w'.nextComponent = w.nextComponent

theorem commitEncoding_ok {p : PrivateImplStill} {r : SetResults} {w w' : World}
    (h : commitEncoding p r w = .ok w') : EncodingResult p w w' := by
  unfold commitEncoding at h
  cases hp : p.encoderOutputPort with
  | none =>
      simp only [hp, Except.ok.injEq] at h
      subst h
      exact ⟨by rw [hp]; exact nofun, fun _ => rfl, rfl, rfl⟩
  | some port =>
      simp only [hp] at h
      rcases bind_ok h with ⟨port', hport, h⟩
      rcases usePort_ok hport with ⟨heq, halive⟩
      rw [← Except.ok.inj h]
      refine ⟨fun q hq => ?_, fun g => ?_, ?_, ?_⟩
      · rw [hp, heq, Option.mem_some_iff] at hq
        exact hq ▸ halive
      · rw [World.alive_commitFormat, World.alive_writeFormat]
      · rw [World.pools_commitFormat]
        rfl
      · rw [World.nextComponent_commitFormat, World.nextComponent_writeFormat]

/-- Committing when the flag is set: nothing but parameters changes, up to the
    encoding. -/
theorem commitParameters_through {r : SetResults} {c c' : StillCamera}
    (h : commitParameters r c = .ok c') (hflag : c.impl.changedSettings = true) :
    c'.impl = { c.impl with changedSettings := false } ∧ ∃ w,
      w.forgetParams = c.world.forgetParams ∧ commitEncoding c.impl r w = .ok c'.world := by
  unfold commitParameters at h
  rw [if_neg (by rw [hflag]; decide)] at h
  rcases bind_ok h with ⟨w1, h1, h⟩
  rcases bind_ok h with ⟨w2, h2, h⟩
  rcases bind_ok h with ⟨w3, h3, h⟩
  rcases bind_ok h with ⟨w4, h4, h⟩
  rcases bind_ok h with ⟨w5, h5, h⟩
  rcases bind_ok h with ⟨w6, h6, h⟩
  rcases bind_ok h with ⟨w7, h7, h⟩
  rcases bind_ok h with ⟨w8, h8, h⟩
  rcases bind_ok h with ⟨w9, h9, h⟩
  rcases bind_ok h with ⟨w10, h10, h⟩
  rcases bind_ok h with ⟨w11, h11, h⟩
  rcases bind_ok h with ⟨w12, h12, h⟩
  rcases bind_ok h with ⟨w13, h13, h⟩
  rcases bind_ok h with ⟨w14, h14, h⟩
  rw [← Except.ok.inj h]
  -- Every commit but the last sets parameters only.
  refine ⟨rfl, w13, ?_, h14⟩
  calc w13.forgetParams = w12.forgetParams := sendAll_forgetParams h13
    _ = w11.forgetParams := sendWhileOk_forgetParams h12
    _ = w10.forgetParams := sendAll_forgetParams h11
    _ = w9.forgetParams := sendAll_forgetParams h10
    _ = w8.forgetParams := sendAll_forgetParams h9
    _ = w7.forgetParams := sendAll_forgetParams h8
    _ = w6.forgetParams := sendAll_forgetParams h7
    _ = w5.forgetParams := sendAll_forgetParams h6
    _ = w4.forgetParams := sendAll_forgetParams h5
    _ = w3.forgetParams := commitQuality_forgetParams h4
    _ = w2.forgetParams := sendAll_forgetParams h3
    _ = w1.forgetParams := sendAll_forgetParams h2
    _ = c.world.forgetParams := sendAll_forgetParams h1

/-- Without the flag, committing does nothing. -/
theorem commitParameters_unchanged {r : SetResults} {c : StillCamera}
    (hflag : c.impl.changedSettings = false) : commitParameters r c = .ok c := by
  rw [commitParameters, if_pos hflag]

/-- What committing does, whatever is accepted: it clears the flag, destroys
    nothing, and follows the encoder's port if it has anything to commit. -/
structure CommitResult (c c' : StillCamera) : Prop where
  impl : c'.impl = { c.impl with changedSettings := false }
  alive : ∀ g, c'.world.alive g = c.world.alive g
  pools : c'.world.pools = c.world.pools
  next : c'.world.nextComponent = c.world.nextComponent
  port : c.impl.changedSettings = true →
    ∀ port ∈ c.impl.encoderOutputPort, c.world.alive port.component = true

theorem commitParameters_ok {r : SetResults} {c c' : StillCamera}
    (h : commitParameters r c = .ok c') : CommitResult c c' := by
  by_cases hflag : c.impl.changedSettings = false
  · rw [commitParameters_unchanged hflag] at h
    rw [← Except.ok.inj h]
    exact ⟨by rw [← hflag], fun _ => rfl, rfl, rfl, fun h => absurd (hflag.symm.trans h) nofun⟩
  · rw [Bool.not_eq_false] at hflag
    rcases commitParameters_through h hflag with ⟨himpl, w, hw, hencoding⟩
    have halive : ∀ g, w.alive g = c.world.alive g := by
      intro g
      rw [← World.alive_forgetParams, hw, World.alive_forgetParams]
    have hpools : w.pools = c.world.pools := by
      rw [← World.pools_forgetParams, hw, World.pools_forgetParams]
    have hnext : w.nextComponent = c.world.nextComponent := by
      rw [← World.nextComponent_forgetParams, hw, World.nextComponent_forgetParams]
    rcases commitEncoding_ok hencoding with ⟨hport, halive', hpools', hnext'⟩
    refine ⟨himpl, fun g => (halive' g).trans (halive g), hpools'.trans hpools, hnext'.trans hnext,
      fun _ port hp => ?_⟩
    rw [← halive]
    exact hport port hp

/-- Without a camera there is nothing to commit to. -/
theorem commitParameters_noCamera {r : SetResults} {c c' : StillCamera}
    (h : commitParameters r c = .ok c') (hnone : c.impl.camera = none) :
    c.impl.changedSettings = false ∧ c' = c := by
  by_cases hc : c.impl.changedSettings = false
  · rw [commitParameters_unchanged hc] at h
    exact ⟨hc, (Except.ok.inj h).symm⟩
  · unfold commitParameters at h
    -- The first of the commits follows the camera.
    rw [if_neg hc] at h
    rcases bind_ok h with ⟨w, hw, _⟩
    simp only [commitSharpness, hnone, sendAll, portOf, Option.map_none, sendTo] at hw
    rcases bind_ok hw with ⟨_, hbad, _⟩
    exact absurd hbad (by simp only [reduceCtorEq, not_false_eq_true])

end Still

end RaspiCam
