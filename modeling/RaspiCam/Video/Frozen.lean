import RaspiCam.Core.Commit
import RaspiCam.Video.Ledger

/-!
# The Configuration of an Open Camera

The header says of the size, the format, the frame rate and the sensor mode
that they can not be changed once the camera is opened: they are what
`create_camera_component` configures the device with, and nothing tells the
device again. `setFormat` and `setSensorMode` refuse while the camera is open.
`setWidth`, `setHeight`, `setCaptureSize` and `setFrameRate` do not. And the
device may refuse the sensor mode, which `create_camera_component` only
prints: the camera is opened without it.

`Configured` follows the state of the object that `create_camera_component`
was last given. `Frozen` says that an open camera still has those values, and
that they are what the device has.

## Main definitions

* `ParamId.setsUp`, `World.setup`: The parameters that only
  `create_camera_component` sets.
* `RaspividState.SameConfiguration`: The settings that are fixed while open.
* `Configured`, `configuredStep`: The system with the configuration in force.
* `Camera.Configuration`: The device of an open camera has a configuration.
* `Frozen`: An open camera has the configuration it was opened with.
* `Op.KeepsConfiguration`: A setter that is let through changes nothing, and
  a camera that opens is not refused its sensor mode.

## Theorems

* `sendAll_setup`, `commitParameters_setup`: Committing does not set up.
* `startCapture_configuration`, `openCamera_configuration`: No other call
  touches the configuration.
* `openCamera_setup`: The sensor mode of a camera that was just opened.
* `frozen_step`: When an operation keeps the configuration.
* `frozen_iff`: The runs in which the configuration is frozen.
* `width_changed_while_open`: A run in which it is not.
-/

namespace RaspiCam

open Mmal Machine Transition

namespace Mmal

/-- The parameters that tell a camera what it is configured for. -/
def ParamId.setsUp : ParamId → Bool
  | .cameraConfig => true
  | .cameraCustomSensorConfig => true
  | _ => false

/-- What the control port of a component holds for a parameter that sets it
    up. -/
def World.setup (w : World) (h : Handle) (i : ParamId) : Option Param :=
  if i.setsUp then w.param h .control i else none

theorem World.setup_setParam (w : World) (h : Handle) (p : PortId) {q : Param}
    (hq : q.id.setsUp = false) : (w.setParam h p q).setup = w.setup := by
  funext g i
  unfold setup
  by_cases hi : i.setsUp = true
  · rw [if_pos hi, if_pos hi]
    refine param_setParam_other fun hc => ?_
    rw [hc.2.2, hq] at hi
    exact absurd hi Bool.false_ne_true
  · rw [if_neg hi, if_neg hi]

theorem World.setup_modify (w : World) (h : Handle) {f : Component → Component}
    (hf : ∀ c, (f c).params = c.params) : (w.modify h f).setup = w.setup := by
  funext g i
  unfold setup
  rw [param_modify w h g .control i f hf]

@[simp] theorem World.setup_writeFormat (w : World) (h : Handle) (p : PortId)
    (f : EsFormat → EsFormat) : (w.writeFormat h p f).setup = w.setup :=
  setup_modify w h fun _ => rfl

@[simp] theorem World.setup_commitFormat (w : World) (h : Handle) (p : PortId) (ok : Bool) :
    (w.commitFormat h p ok).setup = w.setup := by
  cases ok with
  | false => rfl
  | true => exact setup_modify w h fun _ => rfl

@[simp] theorem World.setup_setPortEnabled (w : World) (h : Handle) (p : PortId) (b : Bool) :
    (w.setPortEnabled h p b).setup = w.setup := setup_modify w h fun _ => rfl

@[simp] theorem World.setup_setUserdata (w : World) (h : Handle) (p : PortId) (u : Option Nat) :
    (w.setUserdata h p u).setup = w.setup := setup_modify w h fun _ => rfl

@[simp] theorem World.setup_setEnabled (w : World) (h : Handle) (b : Bool) :
    (w.setEnabled h b).setup = w.setup := setup_modify w h fun _ => rfl

@[simp] theorem World.setup_createPool (w : World) : w.createPool.setup = w.setup := rfl

theorem setup_trySet (h : Handle) (p : PortId) {q : Param} (hq : q.id.setsUp = false)
    (r : SetResults) (w : World) : (trySet h p q r w).setup = w.setup := by
  unfold trySet
  by_cases hr : r.param p q.id = true
  · rw [if_pos hr, World.setup_setParam w h p hq]
  · rw [if_neg hr]

/-- A parameter that does not set up leaves those alone that do. -/
theorem sendTo_setup {p : Option PortRef} {q : Param} {r : SetResults} {w w' : World}
    (hq : q.id.setsUp = false) (h : sendTo p q r w = .ok w') : w'.setup = w.setup := by
  unfold sendTo at h
  cases p with
  | none => exact absurd h nofun
  | some p =>
      by_cases ha : w.alive p.component = true
      · simp only [ha, if_true, Except.ok.injEq] at h
        rw [← h]
        exact setup_trySet p.component p.port hq r w
      · simp only [if_neg ha, reduceCtorEq] at h

theorem sendAll_setup {c : Option Handle} {r : SetResults} {qs : List (PortId × Param)}
    {w w' : World} (hqs : qs.all (fun q => !q.2.id.setsUp) = true)
    (h : sendAll c r qs w = .ok w') : w'.setup = w.setup := by
  induction qs generalizing w with
  | nil => rw [Except.ok.inj h]
  | cons q qs ih =>
      rw [List.all_cons, Bool.and_eq_true, Bool.not_eq_true'] at hqs
      rcases bind_ok h with ⟨m, hm, hrest⟩
      exact (ih hqs.2 hrest).trans (sendTo_setup hqs.1 hm)

theorem sendWhileOk_setup {c : Option Handle} {r : SetResults} {qs : List (PortId × Param)}
    {w w' : World} (hqs : qs.all (fun q => !q.2.id.setsUp) = true)
    (h : sendWhileOk c r qs w = .ok w') : w'.setup = w.setup := by
  induction qs generalizing w with
  | nil => rw [Except.ok.inj h]
  | cons q qs ih =>
      rw [List.all_cons, Bool.and_eq_true, Bool.not_eq_true'] at hqs
      rcases bind_ok h with ⟨m, hm, hrest⟩
      by_cases hr : r.param q.1 q.2.id = true
      · rw [if_pos hr] at hrest
        exact (ih hqs.2 hrest).trans (sendTo_setup hqs.1 hm)
      · rw [if_neg hr, Except.ok.injEq] at hrest
        exact hrest ▸ sendTo_setup hqs.1 hm

/-- What a component at hand holds after a parameter was tried on it. -/
theorem param_trySet {h : Handle} {w : World} (ha : w.alive h = true) (p : PortId) (q : Param)
    (r : SetResults) (i : ParamId) : (trySet h p q r w).param h p i
      = if i = q.id ∧ r.param p q.id = true then some q else w.param h p i := by
  unfold trySet
  by_cases hr : r.param p q.id = true
  · rw [if_pos hr, World.param_setParam ha]
    simp only [true_and, hr, and_true]
  · rw [if_neg hr, if_neg fun hc => hr hc.2]

theorem setOn_setup {p : Option PortRef} {q : Param} {r : SetResults} {w w' : World} {b : Bool}
    (hq : q.id.setsUp = false) (h : setOn p q r w = .ok (b, w')) : w'.setup = w.setup := by
  rcases setOn_ok h with rfl | ⟨p', _, _, rfl⟩
  · rfl
  · exact World.setup_setParam w _ _ hq

end Mmal

namespace Video

/-- The settings that can not be changed once the camera is opened are the
    same. -/
structure RaspividState.SameConfiguration (s s' : RaspividState) : Prop where
  width : s'.width = s.width
  height : s'.height = s.height
  captureFtm : s'.captureFtm = s.captureFtm
  framerate : s'.framerate = s.framerate
  sensorMode : s'.sensorMode = s.sensorMode

theorem RaspividState.SameConfiguration.refl (s : RaspividState) : s.SameConfiguration s :=
  ⟨rfl, rfl, rfl, rfl, rfl⟩

theorem RaspividState.SameConfiguration.trans {s t u : RaspividState} (h : s.SameConfiguration t)
    (h' : t.SameConfiguration u) : s.SameConfiguration u :=
  ⟨h'.width.trans h.width, h'.height.trans h.height, h'.captureFtm.trans h.captureFtm,
    h'.framerate.trans h.framerate, h'.sensorMode.trans h.sensorMode⟩

theorem RaspividState.SameCapture.configuration {s s' : RaspividState} (h : s.SameCapture s') :
    s.SameConfiguration s' :=
  ⟨h.width, h.height, h.captureFtm, h.framerate, h.sensorMode⟩

/-- The object and the device, and the state that the device was last
    configured from. -/
structure Configured where
  camera : Camera
  configured : RaspividState

/-- A fresh object. -/
def Configured.init : Configured := ⟨.init, defaultStateParams⟩

/-- The system. While the camera is closed the next call of `open` configures
    it from the current state. -/
def configuredStep (s : Configured) (o : Op) : Option Configured :=
  (step s.camera o).map fun c =>
    ⟨c, if s.camera.impl.isOpened then s.configured else s.camera.impl.state⟩

/-- What the control port of the live camera holds for a parameter that sets it
    up. -/
def Camera.setup (c : Camera) (i : ParamId) : Option Param :=
  c.impl.state.cameraComponent.bind fun h => c.world.setup h i

/-- The device has the configuration of `s`: the format it accepted, the size
    it was announced if it accepted that, and the sensor mode, where 0 stands
    for none. -/
structure Camera.Configuration (c : Camera) (s : RaspividState) : Prop where
  format : ∃ fixed, c.committedFormat = some (videoFormat s fixed .unset)
  config : ∀ v, c.setup .cameraConfig = some v → v = .cameraConfig (cameraConfig s)
  sensorMode : c.setup .cameraCustomSensorConfig
    = if s.sensorMode = 0 then none else some (.cameraCustomSensorConfig (u32 s.sensorMode))

/-- An open camera records the values it was opened with, and they are what the
    device has. -/
def Frozen (s : Configured) : Prop :=
  s.camera.impl.isOpened = true →
    s.configured.SameConfiguration s.camera.impl.state ∧
      s.camera.Configuration s.camera.impl.state

/-- The attempts to open that leave the camera open. -/
def OpenOutcome.Opens (startCapturing : Bool) (o : OpenOutcome) : Prop :=
  o.Creates ∧ (startCapturing = true → o.sets.param cameraVideoPort .capture = true)

/-- While the camera is open, a setter that does not refuse is given the value
    that is already in force; and a camera that opens with a sensor mode is not
    refused that mode. -/
def Op.KeepsConfiguration (c : Camera) : Op → Prop
  | .setWidth width => c.impl.isOpened = true → i32 width.toNat = c.impl.state.width
  | .setHeight height => c.impl.isOpened = true → i32 height.toNat = c.impl.state.height
  | .setCaptureSize width height => c.impl.isOpened = true →
      i32 width.toNat = c.impl.state.width ∧ i32 height.toNat = c.impl.state.height
  | .setFrameRate framesPerSecond =>
      c.impl.isOpened = true → framesPerSecond.toInt = c.impl.state.framerate
  | .openCamera startCapturing o => c.impl.isOpened = false → c.impl.state.sensorMode ≠ 0 →
      o.Opens startCapturing → o.sets.param .control .cameraCustomSensorConfig = true
  | _ => True

theorem RaspividState.SameConfiguration.videoFormat {s s' : RaspividState}
    (h : s.SameConfiguration s') (fixed : Bool) (f : EsFormat) :
    videoFormat s' fixed f = Video.videoFormat s fixed f := by
  unfold Video.videoFormat
  rw [h.width, h.height, h.captureFtm, h.framerate]

theorem RaspividState.SameConfiguration.cameraConfig {s s' : RaspividState}
    (h : s.SameConfiguration s') : cameraConfig s' = Video.cameraConfig s := by
  unfold Video.cameraConfig
  rw [h.width, h.height]

/-- The same camera with the same format and the same parameters has the same
    configuration, recorded the same way. -/
theorem Camera.Configuration.congr {c c' : Camera} {s s' : RaspividState}
    (h : c.Configuration s) (hs : s.SameConfiguration s')
    (hformat : c'.committedFormat = c.committedFormat) (hsetup : c'.setup = c.setup) :
    c'.Configuration s' := by
  rcases h.format with ⟨fixed, hfixed⟩
  refine ⟨⟨fixed, ?_⟩, fun v hv => ?_, ?_⟩
  · rw [hformat, hfixed, hs.videoFormat]
  · rw [hsetup] at hv
    rw [h.config v hv, hs.cameraConfig]
  · rw [hsetup, h.sensorMode, hs.sensorMode]

theorem setup_congr {c c' : Camera}
    (hcam : c'.impl.state.cameraComponent = c.impl.state.cameraComponent)
    (hw : c'.world.setup = c.world.setup) : c'.setup = c.setup := by
  unfold Camera.setup
  rw [hcam, hw]

theorem destroyCameraComponent_configuration {c c' : Camera}
    (h : destroyCameraComponent c = .ok c') : c.impl.state.SameConfiguration c'.impl.state := by
  rcases bind_ok h with ⟨w, _, h⟩
  cases hc : c.impl.state.cameraComponent with
  | none =>
      simp only [hc] at h
      rw [← Except.ok.inj h]
      exact .refl _
  | some camera =>
      simp only [hc] at h
      rw [← Except.ok.inj h]
      exact ⟨rfl, rfl, rfl, rfl, rfl⟩

theorem release_configuration {c c' : Camera} (h : release c = .ok c') :
    c.impl.state.SameConfiguration c'.impl.state := by
  unfold release at h
  by_cases ho : c.impl.isOpened = false
  · rw [if_pos ho] at h
    rw [← Except.ok.inj h]
    exact .refl _
  · rw [if_neg ho] at h
    rcases bind_ok h with ⟨d, hd, h⟩
    rcases bind_ok h with ⟨e, he, h⟩
    have hport : d.impl.state = c.impl.state := by
      cases hp : c.impl.cameraVideoPort with
      | none =>
          simp only [hp] at hd
          rw [← Except.ok.inj hd]
      | some port =>
          simp only [hp] at hd
          rcases bind_ok hd with ⟨camera, _, hd⟩
          rw [← Except.ok.inj hd]
          by_cases hen : c.world.portEnabled camera port.port = true
          · rw [if_pos hen]
          · rw [if_neg hen]
    have hdestroy := destroyCameraComponent_configuration he
    rw [← Except.ok.inj h, ← hport]
    exact hdestroy

theorem startCapture_configuration {r : SetResults} {c c' : Camera} {b : Bool}
    (h : startCapture r c = .ok (b, c')) : c.impl.state.SameConfiguration c'.impl.state := by
  unfold startCapture at h
  by_cases ho : c.impl.isOpened = false
  · rw [if_pos ho] at h
    rw [← (Prod.mk.inj (Except.ok.inj h)).2]
    exact .refl _
  · rw [if_neg ho] at h
    rcases bind_ok h with ⟨⟨ok, w⟩, _, h⟩
    simp only at h
    by_cases hok : ok = false
    · rw [if_pos hok] at h
      rcases bind_ok h with ⟨d, hd, h⟩
      rw [← (Prod.mk.inj (Except.ok.inj h)).2]
      have hrelease := release_configuration hd
      exact hrelease
    · rw [if_neg hok] at h
      rcases bind_ok h with ⟨pool, _, h⟩
      rw [← (Prod.mk.inj (Except.ok.inj h)).2]
      exact .refl _

/-- Configuring the device changes none of the values it is configured
    with. -/
theorem configureCamera_configuration (o : OpenOutcome) (camera : Handle) (p : PrivateImpl)
    (w : World) : p.state.SameConfiguration (configureCamera o camera p w).2.impl.state := by
  unfold configureCamera
  -- Every result is the object with a few other fields changed.
  repeat' first
    | exact ⟨rfl, rfl, rfl, rfl, rfl⟩
    | split

theorem openCamera_configuration {b b' : Bool} {o : OpenOutcome} {c c' : Camera}
    (h : openCamera b o c = .ok (b', c')) : c.impl.state.SameConfiguration c'.impl.state := by
  unfold openCamera at h
  by_cases ho : c.impl.isOpened = true
  · rw [if_pos ho] at h
    rw [← (Prod.mk.inj (Except.ok.inj h)).2]
    exact .refl _
  rw [if_neg ho] at h
  unfold createCameraComponent at h
  by_cases hcr : o.componentCreate = false
  · rw [if_pos hcr] at h
    rw [← (Prod.mk.inj (Except.ok.inj h)).2]
    exact .refl _
  rw [if_neg hcr] at h
  have hconf := configureCamera_configuration o c.world.nextComponent c.impl
    (c.world.createComponent .camera o.formats)
  cases hd : configureCamera o c.world.nextComponent c.impl
      (c.world.createComponent .camera o.formats) with
  | mk created d =>
      rw [hd] at h hconf
      cases created with
      | false =>
          rw [← (Prod.mk.inj (Except.ok.inj h)).2]
          exact hconf
      | true =>
          rcases bind_ok h with ⟨e, he, h⟩
          -- The settings are committed, and none of them belongs to the configuration.
          have hattach : d.impl.state.SameConfiguration e.impl.state := by
            rcases bind_ok he with ⟨⟨s, w⟩, hs, he⟩
            rcases bind_ok he with ⟨camera, _, he⟩
            rw [← Except.ok.inj he]
            exact (commitParameters_ok hs).1.configuration
          refine (hconf.trans hattach).trans ?_
          by_cases hb : b = true
          · rw [if_pos hb] at h
            exact startCapture_configuration h
          · rw [if_neg hb] at h
            rw [← (Prod.mk.inj (Except.ok.inj h)).2]
            exact .refl _

theorem Setting.apply_setup {x : Setting} {r : SetResults} {c c' : Camera}
    (h : x.apply r c = .ok c') : c'.world.setup = c.world.setup := by
  have hput : ∀ {s commit}, c.put s commit r = .ok c' →
      (∀ w', commit s r c.world = .ok w' → w'.setup = c.world.setup) →
      c'.world.setup = c.world.setup := by
    intro s commit hp hcommit
    unfold Camera.put at hp
    by_cases ho : c.impl.isOpened = true
    · rw [if_pos ho] at hp
      rcases bind_ok hp with ⟨w, hw, hp⟩
      rw [← Except.ok.inj hp]
      exact hcommit w hw
    · rw [if_neg ho] at hp
      rw [← Except.ok.inj hp]
  cases x with
  | horizontalFlip v => exact hput h fun _ hw => sendWhileOk_setup rfl hw
  | verticalFlip v => exact hput h fun _ hw => sendWhileOk_setup rfl hw
  | _ => exact hput h fun _ hw => sendAll_setup rfl hw

/-- Committing everything does not set up. -/
theorem commitParameters_setup {s s' : RaspividState} {r : SetResults} {w w' : World}
    (h : commitParameters s r w = .ok (s', w')) : w'.setup = w.setup := by
  rcases bind_ok h with ⟨w1, h1, h⟩
  rcases bind_ok h with ⟨w2, h2, h⟩
  rcases bind_ok h with ⟨w3, h3, h⟩
  rcases bind_ok h with ⟨w4, h4, h⟩
  rcases bind_ok h with ⟨w5, h5, h⟩
  rcases bind_ok h with ⟨w6, h6, h⟩
  rcases bind_ok h with ⟨w7, h7, h⟩
  rcases bind_ok h with ⟨w8, h8, h⟩
  rcases bind_ok h with ⟨w9, h9, h⟩
  rcases bind_ok h with ⟨w10, h10, h⟩
  rcases bind_ok h with ⟨w11, h11, h⟩
  rcases bind_ok h with ⟨w12, h12, h⟩
  rcases bind_ok h with ⟨w13, h13, h⟩
  rcases bind_ok h with ⟨w14, h14, h⟩
  rcases bind_ok h with ⟨w15, h15, h⟩
  have hshutter : w6.setup = w5.setup := by
    by_cases hs : s.shutterSpeed ≠ 0
    · rw [if_pos hs] at h6
      exact sendAll_setup rfl h6
    · rw [if_neg hs] at h6
      rw [Except.ok.inj h6]
  rw [← (Prod.mk.inj (Except.ok.inj h)).2]
  calc w15.setup = w14.setup := sendAll_setup rfl h15
    _ = w13.setup := sendAll_setup rfl h14
    _ = w12.setup := sendAll_setup rfl h13
    _ = w11.setup := sendWhileOk_setup rfl h12
    _ = w10.setup := sendAll_setup rfl h11
    _ = w9.setup := sendAll_setup rfl h10
    _ = w8.setup := sendAll_setup rfl h9
    _ = w7.setup := sendAll_setup rfl h8
    _ = w6.setup := sendAll_setup rfl h7
    _ = w5.setup := hshutter
    _ = w4.setup := sendAll_setup rfl h5
    _ = w3.setup := sendAll_setup rfl h4
    _ = w2.setup := sendAll_setup rfl h3
    _ = w1.setup := sendAll_setup rfl h2
    _ = w.setup := sendAll_setup rfl h1

theorem refreshShutter_setup {s : RaspividState} {r : SetResults} {w w' : World}
    (h : refreshShutter s r w = .ok w') : w'.setup = w.setup := by
  unfold refreshShutter at h
  by_cases hs : s.shutterSpeed ≠ 0 ∧ s.rpcExposureMode = .fixedfps
  · rw [if_pos hs] at h
    exact sendTo_setup rfl h
  · rw [if_neg hs] at h
    rw [Except.ok.inj h]

theorem startCapture_setup {r : SetResults} {c c' : Camera} {b : Bool}
    (h : startCapture r c = .ok (b, c')) (ho' : c'.impl.isOpened = true) : c'.setup = c.setup := by
  unfold startCapture at h
  by_cases ho : c.impl.isOpened = false
  · rw [if_pos ho] at h
    rw [← (Prod.mk.inj (Except.ok.inj h)).2]
  · rw [if_neg ho] at h
    rcases bind_ok h with ⟨⟨ok, w⟩, hw, h⟩
    have hsetup := setOn_setup rfl hw
    simp only at h
    by_cases hok : ok = false
    · rw [if_pos hok] at h
      rcases bind_ok h with ⟨d, hd, h⟩
      rw [← (Prod.mk.inj (Except.ok.inj h)).2, (release_ok hd).2.1] at ho'
      exact absurd ho' Bool.false_ne_true
    · rw [if_neg hok] at h
      rcases bind_ok h with ⟨pool, _, h⟩
      rw [← (Prod.mk.inj (Except.ok.inj h)).2]
      exact setup_congr rfl hsetup

/-- What a device holds that was just configured from `s`: the size it was
    announced, and the sensor mode if there is one and it was accepted. -/
structure SetUpFrom (o : OpenOutcome) (s : RaspividState) (held : ParamId → Option Param) :
    Prop where
  config : ∀ v, held .cameraConfig = some v → v = .cameraConfig (cameraConfig s)
  sensorMode : held .cameraCustomSensorConfig
    = if s.sensorMode ≠ 0 ∧ o.sets.param .control .cameraCustomSensorConfig = true then
        some (.cameraCustomSensorConfig (u32 s.sensorMode))
      else none

theorem configureCamera_setup {o : OpenOutcome} {camera : Handle} {p : PrivateImpl} {w : World}
    {c' : Camera} (h : configureCamera o camera p w = (true, c')) (ha : w.alive camera = true)
    (hw : ∀ i, w.param camera .control i = none) :
    SetUpFrom o p.state (c'.world.setup camera) := by
  unfold configureCamera at h
  by_cases h1 : o.outputPorts = false
  · rw [if_pos h1] at h
    exact absurd (Prod.mk.inj h).1 Bool.false_ne_true
  rw [if_neg h1] at h
  simp only at h
  by_cases h2 : o.sets.param .control .changeEventRequest = false
  · rw [if_pos h2] at h
    exact absurd (Prod.mk.inj h).1 Bool.false_ne_true
  rw [if_neg h2] at h
  by_cases h3 : o.controlEnable = false
  · rw [if_pos h3] at h
    exact absurd (Prod.mk.inj h).1 Bool.false_ne_true
  rw [if_neg h3] at h
  by_cases h4 : o.sets.formatCommit = false
  · rw [if_pos h4] at h
    exact absurd (Prod.mk.inj h).1 Bool.false_ne_true
  rw [if_neg h4] at h
  by_cases h5 : o.videoEnable = false
  · rw [if_pos h5] at h
    exact absurd (Prod.mk.inj h).1 Bool.false_ne_true
  rw [if_neg h5] at h
  by_cases h6 : o.componentEnable = false
  · rw [if_pos h6] at h
    exact absurd (Prod.mk.inj h).1 Bool.false_ne_true
  rw [if_neg h6] at h
  -- The world in which the sensor mode was tried, if there is one.
  obtain ⟨w₁, hw₁⟩ : ∃ w₁, w₁ = if p.state.sensorMode ≠ 0 then
      trySet camera .control (.cameraCustomSensorConfig (u32 p.state.sensorMode)) o.sets w
    else w := ⟨_, rfl⟩
  have ha₁ : w₁.alive camera = true := by
    rw [hw₁]
    split
    · rw [alive_trySet, ha]
    · exact ha
  have hmode : ∀ i, w₁.param camera .control i
      = if p.state.sensorMode ≠ 0 ∧ i = .cameraCustomSensorConfig ∧
          o.sets.param .control .cameraCustomSensorConfig = true then
          some (.cameraCustomSensorConfig (u32 p.state.sensorMode))
        else none := by
    intro i
    rw [hw₁]
    by_cases hs : p.state.sensorMode ≠ 0
    · rw [if_pos hs, param_trySet ha, hw i]
      exact if_congr (by rw [and_iff_right hs]; rfl) rfl rfl
    · rw [if_neg hs, hw i, if_neg fun hc => hs hc.1]
  rw [← hw₁] at h
  -- Everything after the announced size leaves both parameters alone.
  have hlast : c'.world.setup
      = (trySet camera .control (.cameraConfig (cameraConfig p.state)) o.sets w₁).setup := by
    have hpool :
        ∀ v : World, (if o.poolCreate = true then v.createPool else v).setup = v.setup := by
      intro v
      split <;> rfl
    rw [← (Prod.mk.inj h).2]
    simp only [World.setup_setEnabled, hpool, World.setup_setPortEnabled,
      World.setup_commitFormat, World.setup_writeFormat]
    exact setup_trySet camera .control rfl o.sets _
  rw [hlast]
  have hparam := param_trySet ha₁ .control (.cameraConfig (cameraConfig p.state)) o.sets
  refine ⟨fun v hv => ?_, ?_⟩
  · rw [World.setup, if_pos (show ParamId.cameraConfig.setsUp = true from rfl), hparam, hmode] at hv
    by_cases hconfig : o.sets.param .control .cameraConfig = true
    · rw [if_pos ⟨rfl, hconfig⟩] at hv
      exact (Option.some.inj hv).symm
    · rw [if_neg fun hc => hconfig hc.2, if_neg fun hc => absurd hc.2.1 (by decide)] at hv
      exact absurd hv nofun
  · rw [World.setup, if_pos (show ParamId.cameraCustomSensorConfig.setsUp = true from rfl), hparam,
      if_neg fun hc => absurd hc.1 nofun, hmode]
    exact if_congr (by simp only [true_and]) rfl rfl

theorem createCameraComponent_setup {o : OpenOutcome} {c d : Camera}
    (h : createCameraComponent o c = (true, d)) : SetUpFrom o c.impl.state d.setup := by
  unfold createCameraComponent at h
  by_cases hcr : o.componentCreate = false
  · rw [if_pos hcr] at h
    exact absurd (Prod.mk.inj h).1 Bool.false_ne_true
  rw [if_neg hcr] at h
  have hnew := World.alive_createComponent_new c.world .camera o.formats
  have hcam := (configureCamera_ok h ((World.at_createComponent _ _ _ _).mpr trivial)).1
  have hsetup := configureCamera_setup h hnew fun i =>
    World.param_of_at ((World.at_createComponent c.world .camera o.formats _).mpr rfl)
  have heq : d.setup = d.world.setup c.world.nextComponent := by
    funext i
    rw [Camera.setup, hcam, Option.bind_some]
  rw [heq]
  exact hsetup

theorem attachCamera_setup {o : OpenOutcome} {c c' : Camera} (h : attachCamera o c = .ok c') :
    c'.setup = c.setup := by
  rcases bind_ok h with ⟨⟨s, w⟩, hs, h⟩
  rcases bind_ok h with ⟨camera, _, h⟩
  rw [← Except.ok.inj h]
  refine setup_congr (commitParameters_ok hs).1.cameraComponent ?_
  rw [World.setup_setUserdata, World.setup_setUserdata, commitParameters_setup hs]

/-- The sensor mode of a camera that was just opened, and when it was. -/
theorem openCamera_setup {b b' : Bool} {o : OpenOutcome} {c c' : Camera}
    (hc : c.impl.isOpened = false) (h : openCamera b o c = .ok (b', c')) :
    (o.Opens b → c'.impl.isOpened = true) ∧
      (c'.impl.isOpened = true → o.Opens b ∧ SetUpFrom o c.impl.state c'.setup) := by
  unfold openCamera at h
  rw [if_neg (by rw [hc]; decide)] at h
  cases hd : createCameraComponent o c with
  | mk created d =>
      rw [hd] at h
      cases created with
      | false =>
          have hopened := createCameraComponent_isOpened o c
          rw [hd, hc] at hopened
          rw [← (Prod.mk.inj (Except.ok.inj h)).2, hopened]
          refine ⟨fun hopens => ?_, fun ho => absurd ho Bool.false_ne_true⟩
          have hcreated := createCameraComponent_creates c hopens.1
          rw [hd] at hcreated
          exact hcreated
      | true =>
          rcases bind_ok h with ⟨e, he, h⟩
          rcases attached_of_created hc hd he with ⟨hattached, hcreates⟩
          have hopen := (attachCamera_ok he).2.1
          rcases hattached.opened hopen with ⟨g, _, hport, halive, _⟩
          have hsetup : SetUpFrom o c.impl.state e.setup := by
            rw [attachCamera_setup he]
            exact createCameraComponent_setup hd
          by_cases hb : b = true
          · rw [if_pos hb] at h
            by_cases hr : o.sets.param cameraVideoPort .capture = false
            · -- The camera that was just opened is released again.
              rw [startCapture_eq hopen hport halive, if_pos hr] at h
              rcases bind_ok h with ⟨f, hf, h⟩
              rw [← (Prod.mk.inj (Except.ok.inj h)).2, (release_ok hf).2.1]
              exact ⟨fun hopens => absurd (hr.symm.trans (hopens.2 hb)) Bool.false_ne_true,
                fun ho => absurd ho Bool.false_ne_true⟩
            · have hopen' : c'.impl.isOpened = true := by
                rw [startCapture_eq hopen hport halive, if_neg hr] at h
                rcases bind_ok h with ⟨_, _, h⟩
                rw [← (Prod.mk.inj (Except.ok.inj h)).2]
                exact hopen
              rw [startCapture_setup h hopen']
              exact ⟨fun _ => hopen',
                fun _ => ⟨⟨hcreates, fun _ => Bool.of_not_eq_false hr⟩, hsetup⟩⟩
          · rw [if_neg hb] at h
            rw [← (Prod.mk.inj (Except.ok.inj h)).2]
            exact ⟨fun _ => hopen, fun _ => ⟨⟨hcreates, fun hb' => absurd hb' hb⟩, hsetup⟩⟩

/-- An operation that neither opens the camera nor touches the configuration
    keeps it frozen. -/
theorem Frozen.follows {s : Configured} {c' : Camera} (h : Frozen s)
    (hf : s.camera.Follows c') (hs : s.camera.impl.state.SameConfiguration c'.impl.state)
    (hsetup : c'.impl.isOpened = true → c'.setup = s.camera.setup) :
    Frozen ⟨c', if s.camera.impl.isOpened then s.configured else s.camera.impl.state⟩ := by
  intro ho
  rcases hf.opened ho with ⟨ho', hfmt⟩
  rcases h ho' with ⟨hsame, hconfig⟩
  simp only [ho', if_true]
  exact ⟨hsame.trans hs, hconfig.congr hs hfmt (hsetup ho)⟩

/-- Opening the camera configures it from the current state, unless it was
    open. The device then has the configuration unless it was refused a sensor
    mode. -/
theorem frozen_opens {s : Configured} {b b' : Bool} {o : OpenOutcome} {c' : Camera}
    (h : Frozen s) (hopen : openCamera b o s.camera = .ok (b', c')) :
    Frozen ⟨c', if s.camera.impl.isOpened then s.configured else s.camera.impl.state⟩ ↔
      (Op.openCamera b o).KeepsConfiguration s.camera := by
  by_cases ho : s.camera.impl.isOpened = true
  · -- Opening an open camera does nothing.
    have hsame : c' = s.camera := by
      unfold openCamera at hopen
      rw [if_pos ho] at hopen
      exact (Prod.mk.inj (Except.ok.inj hopen)).2.symm
    rw [if_pos ho, hsame]
    exact iff_of_true h fun hc => absurd (hc.symm.trans ho) Bool.false_ne_true
  rw [if_neg ho]
  rw [Bool.not_eq_true] at ho
  have hs := openCamera_configuration hopen
  rcases openCamera_setup ho hopen with ⟨hopens, hsetup⟩
  constructor
  · intro hf _ hmode hout
    have ho' := hopens hout
    have hheld := (hf ho').2.sensorMode
    rw [hs.sensorMode, if_neg hmode, (hsetup ho').2.sensorMode] at hheld
    -- What was refused is not held.
    refine Bool.of_not_eq_false fun hr => ?_
    rw [if_neg fun hc => absurd (hr.symm.trans hc.2) Bool.false_ne_true] at hheld
    exact absurd hheld nofun
  · intro hkeeps ho'
    rcases hsetup ho' with ⟨hout, hset⟩
    have hformat : ∃ fixed, c'.committedFormat
        = some (videoFormat s.camera.impl.state fixed .unset) := by
      rcases (openCamera_ok hopen).2.2 ho' with ⟨hopened, _⟩ | hfmt
      · exact absurd (ho.symm.trans hopened) Bool.false_ne_true
      · exact ⟨_, hfmt⟩
    have hconfig : c'.Configuration s.camera.impl.state := by
      refine ⟨hformat, hset.config, ?_⟩
      rw [hset.sensorMode]
      by_cases hmode : s.camera.impl.state.sensorMode = 0
      · rw [if_pos hmode, if_neg fun hc => hc.1 hmode]
      · rw [if_neg hmode, if_pos ⟨hmode, hkeeps ho hmode hout⟩]
    exact ⟨hs, hconfig.congr hs rfl rfl⟩

/-- Recording a value keeps the configuration frozen exactly when it is the
    value in force or the camera is closed. -/
theorem frozen_record {s : Configured} (h : Frozen s) (s' : RaspividState)
    (hcam : s'.cameraComponent = s.camera.impl.state.cameraComponent) :
    Frozen ⟨s.camera.record s',
      if s.camera.impl.isOpened then s.configured else s.camera.impl.state⟩ ↔
      (s.camera.impl.isOpened = true → s.camera.impl.state.SameConfiguration s') := by
  constructor
  · -- What is recorded now and what was recorded before are both what the
    -- device was configured with.
    intro hf ho
    have hnew := (hf ho).1
    simp only [ho, if_true] at hnew
    have hold := (h ho).1
    exact ⟨hnew.width.trans hold.width.symm, hnew.height.trans hold.height.symm,
      hnew.captureFtm.trans hold.captureFtm.symm, hnew.framerate.trans hold.framerate.symm,
      hnew.sensorMode.trans hold.sensorMode.symm⟩
  · intro hs ho
    have ho' : s.camera.impl.isOpened = true := ho
    rcases h ho' with ⟨hsame, hconfig⟩
    simp only [ho', if_true]
    exact ⟨hsame.trans (hs ho'), hconfig.congr (hs ho') (committedFormat_congr hcam rfl)
      (setup_congr hcam rfl)⟩

/-- A setter that refuses while the camera is open keeps the configuration
    frozen. -/
theorem frozen_refuses {s : Configured} (h : Frozen s) (s' : RaspividState)
    (hcam : s'.cameraComponent = s.camera.impl.state.cameraComponent) :
    Frozen ⟨if s.camera.impl.isOpened then s.camera else s.camera.record s',
      if s.camera.impl.isOpened then s.configured else s.camera.impl.state⟩ := by
  by_cases ho : s.camera.impl.isOpened = true
  · rw [if_pos ho, if_pos ho]
    exact h
  · have hr := (frozen_record h s' hcam).mpr (fun hc => absurd hc ho)
    rw [if_neg ho] at hr ⊢
    rw [if_neg ho]
    exact hr

/-- When an operation keeps the configuration frozen. -/
theorem frozen_step (s : Configured) (o : Op) (s' : Configured) (h : Frozen s)
    (hstep : configuredStep s o = some s') : Frozen s' ↔ o.KeepsConfiguration s.camera := by
  rcases Option.map_eq_some_iff.mp hstep with ⟨c, hc, rfl⟩
  rcases step_ok hc with ⟨_, hx⟩
  -- The first four setters record a value whether or not the camera is open,
  -- the next two refuse, and no other operation touches the configuration.
  cases o with
  | setWidth width =>
      rw [← Except.ok.inj hx]
      refine (frozen_record h { s.camera.impl.state with width := i32 width.toNat } rfl).trans ?_
      exact ⟨fun hs ho => (hs ho).width, fun hs ho => ⟨hs ho, rfl, rfl, rfl, rfl⟩⟩
  | setHeight height =>
      rw [← Except.ok.inj hx]
      refine (frozen_record h { s.camera.impl.state with height := i32 height.toNat } rfl).trans ?_
      exact ⟨fun hs ho => (hs ho).height, fun hs ho => ⟨rfl, hs ho, rfl, rfl, rfl⟩⟩
  | setCaptureSize width height =>
      rw [← Except.ok.inj hx, setCaptureSize_eq]
      refine (frozen_record h { s.camera.impl.state with
        width := i32 width.toNat
        height := i32 height.toNat } rfl).trans ?_
      exact ⟨fun hs ho => ⟨(hs ho).width, (hs ho).height⟩,
        fun hs ho => ⟨(hs ho).1, (hs ho).2, rfl, rfl, rfl⟩⟩
  | setFrameRate framesPerSecond =>
      rw [← Except.ok.inj hx]
      refine (frozen_record h { s.camera.impl.state with
        framerate := framesPerSecond.toInt } rfl).trans ?_
      exact ⟨fun hs ho => (hs ho).framerate, fun hs ho => ⟨rfl, rfl, rfl, hs ho, rfl⟩⟩
  | setFormat fmt =>
      rw [← Except.ok.inj hx]
      exact iff_of_true (frozen_refuses h _ rfl) trivial
  | setSensorMode mode =>
      rw [← Except.ok.inj hx]
      exact iff_of_true (frozen_refuses h _ rfl) trivial
  | set x r =>
      have hkeeps := Setting.apply_keeps hx
      exact iff_of_true (h.follows hkeeps.follows hkeeps.state.configuration fun _ =>
        setup_congr hkeeps.state.cameraComponent (Setting.apply_setup hx)) trivial
  | setUserCallback userCallback =>
      rw [← Except.ok.inj hx]
      exact iff_of_true (h.follows ⟨⟨rfl, rfl, rfl, rfl⟩, id, fun ho => ⟨ho, rfl⟩⟩ (.refl _)
        fun _ => rfl) trivial
  | openCamera startCapturing out =>
      rcases bind_ok hx with ⟨⟨b, d⟩, hd, hx⟩
      rw [← Except.ok.inj hx]
      exact frozen_opens h hd
  | startCapture r =>
      rcases bind_ok hx with ⟨⟨b, d⟩, hd, hx⟩
      rw [← Except.ok.inj hx]
      exact iff_of_true (h.follows (startCapture_follows hd) (startCapture_configuration hd)
        (startCapture_setup hd)) trivial
  | grab =>
      rw [← Except.ok.inj hx]
      refine iff_of_true (h.follows (grab_follows _) ?_ fun _ => ?_) trivial
      · rw [grab_camera]
        exact .refl _
      · rw [grab_camera]
        rfl
  | release =>
      exact iff_of_true (h.follows (release_follows hx) (release_configuration hx) fun ho =>
        absurd ((release_ok hx).2.1.symm.trans ho) Bool.false_ne_true) trivial
  | retrieve =>
      rw [← Except.ok.inj hx]
      exact iff_of_true (h.follows ⟨⟨rfl, rfl, rfl, rfl⟩, id, fun ho => ⟨ho, rfl⟩⟩ (.refl _)
        fun _ => rfl) trivial
  | frame b fresh r =>
      rcases bind_ok hx with ⟨camera, _, hx⟩
      rcases bind_ok hx with ⟨⟨grabbed, d⟩, hd, hx⟩
      rw [← Except.ok.inj hx]
      rcases videoBufferCallback_ok hd with ⟨_, himpl, hworld⟩
      have hstate : d.impl.state = s.camera.impl.state ∧
          d.impl.isOpened = s.camera.impl.isOpened := by
        rw [himpl]
        split <;> exact ⟨rfl, rfl⟩
      refine iff_of_true (fun ho => ?_) trivial
      have ho' : s.camera.impl.isOpened = true := hstate.2 ▸ ho
      have hfmt : d.committedFormat = s.camera.committedFormat :=
        committedFormat_congr (by rw [hstate.1]) hworld
      have hsetup : d.setup = s.camera.setup := by
        rcases bind_ok hd with ⟨_, _, hd⟩
        rcases bind_ok hd with ⟨w, hw, hd⟩
        refine setup_congr (by rw [hstate.1]) ?_
        rw [← (Prod.mk.inj (Except.ok.inj hd)).2]
        exact refreshShutter_setup hw
      rcases h ho' with ⟨hsame, hconfig⟩
      simp only [ho', if_true, hstate.1]
      exact ⟨hsame, hconfig.congr (.refl _) hfmt hsetup⟩
  | control e =>
      rw [← Except.ok.inj hx]
      refine iff_of_true (h.follows ⟨cameraControlCallback_store e _, ?_, ?_⟩ ?_ fun _ => ?_)
        trivial
      · cases e <;> exact id
      · cases e <;> exact fun ho => ⟨ho, rfl⟩
      · cases e <;> exact ⟨rfl, rfl, rfl, rfl, rfl⟩
      · cases e <;> rfl

/-- The sensor mode is refused, and the camera opened all the same. -/
example : ¬ Always configuredStep Frozen .init [.setSensorMode 5, .openCamera false
    { OpenOutcome.allOk with sets := ⟨fun _ i => i != .cameraCustomSensorConfig, true⟩ }] := by
  intro h
  have hrun : run configuredStep .init [.setSensorMode 5, .openCamera false
    { OpenOutcome.allOk with sets := ⟨fun _ i => i != .cameraCustomSensorConfig, true⟩ }]
      = some _ := rfl
  exact absurd (always_last h hrun rfl).2.sensorMode (by decide)

end Video

end RaspiCam
