import RaspiCam.Lib.Run
import RaspiCam.Video.Ledger

/-!
# Opening and Releasing, Step by Step

`open` and `release` are called by the client and the callbacks by MMAL, so a
callback may run between any two steps of the others. This module takes `open`,
with `create_camera_component`, `commitParameters` and `startCapture`, and
`release` apart into their steps, and lets MMAL call the callbacks for every
port that is enabled.

`openCamera_staged` and `release_staged` say that the steps amount to
`openCamera` and `release` when nothing comes between them.

## Main definitions

* `Commit`, `commits`: The steps of `commitParameters`.
* `Spot`: Where the client is.
* `createStep`, `attachStep`, `captureStep`, `releaseStep`: The next step.
* `Camera.Prepared`: A callback finds its data.
* `StageOp`, `stageStep`: What can happen.
* `Advances`: Some steps of the client.

## Theorems

* `commitParameters_eq_commits`: The steps of `commitParameters` are all of it.
* `openCamera_staged`, `release_staged`: The steps, one after another.
-/

namespace RaspiCam

open Mmal Machine Transition

namespace Mmal

/-- The data of port `p` of component `h`. -/
def World.userdata (w : World) (h : Handle) (p : PortId) : Option Nat :=
  (w.components[h]?).bind fun c => c.userdata p

end Mmal

namespace Video

/-- A step of `commitParameters`. -/
abbrev Commit := RaspividState → SetResults → World → Except Fault (RaspividState × World)

/-- A step that only sends. -/
def commitOnly (commit : RaspividState → SetResults → World → Except Fault World) : Commit :=
  fun s r w => do .ok (s, ← commit s r w)

/-- The step that changes the exposure mode. -/
def commitShutter : Commit := fun s r w => do
  let w ← (if s.shutterSpeed ≠ 0 then commitShutterSpeed s r w else .ok w)
  .ok (if s.shutterSpeed ≠ 0 then { s with rpcExposureMode := .fixedfps } else s, w)

/-- The steps of `commitParameters`. -/
def commits : List Commit :=
  [commitOnly commitSaturation, commitOnly commitSharpness, commitOnly commitContrast,
   commitOnly commitBrightness, commitOnly commitIso, commitShutter, commitOnly commitExposure,
   commitOnly commitExposureCompensation, commitOnly commitMetering, commitOnly commitImageEffect,
   commitOnly commitRotation, commitOnly commitFlips, commitOnly commitVideoStabilization,
   commitOnly commitAwb, commitOnly commitAwbRb]

/-- Taking several of them. -/
def commitAll (r : SetResults) : List Commit → RaspividState → World →
    Except Fault (RaspividState × World)
  | [], s, w => .ok (s, w)
  | commit :: rest, s, w => do
    let (s, w) ← commit s r w
    commitAll r rest s w

/-- Where `create_camera_component` is, after the component was created: what
    it did last. -/
inductive CreatePhase
  | created
  | requested
  | controlEnabled
  | formatCommitted
  | videoEnabled
  | pooled
  | enabled

/-- Where `open` is after that. -/
inductive AttachPhase
  | committing (rest : List Commit)
  | pointing
  | pointed
  | videoAttached
  | attached

/-- Where `release` is: what it does next. -/
inductive ReleasePhase
  | disablePort
  | disableComponent
  | destroyPool
  | destroyComponent
  | forget

/-- Where the client is. -/
inductive Spot
  | idle
  | creating (camera : Handle) (phase : CreatePhase)
  | attaching (phase : AttachPhase)
  | capturing
  | releasing (phase : ReleasePhase)

/-- The object and the device, where the client is, and how the call it is in
    was made and is answered. -/
structure Staged where
  camera : Camera
  spot : Spot
  startCapturing : Bool
  outcome : OpenOutcome

/-- A fresh object. -/
def Staged.init : Staged := ⟨.init, .idle, false, .allOk⟩

/-- The next step of `create_camera_component`. As long as no port is enabled
    its steps are taken together. A step that fails destroys the component. -/
def createStep (o : OpenOutcome) (camera : Handle) (c : Camera) : CreatePhase → Spot × Camera
  | .created =>
    if o.outputPorts = false then (.idle, ⟨c.impl, c.world.destroyComponent camera⟩) else
    let s := c.impl.state
    let w := if s.sensorMode ≠ 0 then
        trySet camera .control (.cameraCustomSensorConfig (u32 s.sensorMode)) o.sets c.world
      else c.world
    let p := { c.impl with rgbBgrFixed := !o.rgbOrderFixed }
    let w := trySet camera .control (.cameraConfig (cameraConfig s)) o.sets w
    let w := trySet camera .control (.changeEventRequest true) o.sets w
    if o.sets.param .control .changeEventRequest = false then
      (.idle, ⟨p, w.destroyComponent camera⟩)
    else (.creating camera .requested, ⟨p, w⟩)
  | .requested =>
    if o.controlEnable = false then (.idle, ⟨c.impl, c.world.destroyComponent camera⟩)
    else (.creating camera .controlEnabled, ⟨c.impl, c.world.setPortEnabled camera .control true⟩)
  | .controlEnabled =>
    let w := c.world.writeFormat camera cameraVideoPort
      (videoFormat c.impl.state c.impl.rgbBgrFixed)
    if o.sets.formatCommit = false then (.idle, ⟨c.impl, w.destroyComponent camera⟩)
    else (.creating camera .formatCommitted, ⟨c.impl, w.commitFormat camera cameraVideoPort true⟩)
  | .formatCommitted =>
    if o.videoEnable = false then (.idle, ⟨c.impl, c.world.destroyComponent camera⟩)
    else (.creating camera .videoEnabled,
      ⟨c.impl, c.world.setPortEnabled camera cameraVideoPort true⟩)
  | .videoEnabled =>
    let pool := if o.poolCreate then some c.world.nextPool else none
    let w := if o.poolCreate then c.world.createPool else c.world
    (.creating camera .pooled,
      ⟨{ c.impl with state := { c.impl.state with videoPool := pool } }, w⟩)
  | .pooled =>
    if o.componentEnable = false then (.idle, ⟨c.impl, c.world.destroyComponent camera⟩)
    else (.creating camera .enabled, ⟨c.impl, c.world.setEnabled camera true⟩)
  | .enabled =>
    (.attaching (.committing commits),
      ⟨{ c.impl with state := { c.impl.state with cameraComponent := some camera } }, c.world⟩)

/-- The next step of `open` after the camera component was created. -/
def attachStep (startCapturing : Bool) (r : SetResults) (c : Camera) :
    AttachPhase → Except Fault (Spot × Camera)
  | .committing [] => .ok (.attaching .pointing, c)
  | .committing (commit :: rest) => do
    let (s, w) ← commit c.impl.state r c.world
    .ok (.attaching (.committing rest), ⟨{ c.impl with state := s }, w⟩)
  | .pointing => do
    let camera ← useComponent c.impl.state.cameraComponent c.world
    .ok (.attaching .pointed, ⟨{ c.impl with
      cameraVideoPort := some ⟨camera, cameraVideoPort⟩
      callbackData := { c.impl.callbackData with attached := true } }, c.world⟩)
  | .pointed => do
    let port ← usePort c.impl.cameraVideoPort c.world
    .ok (.attaching .videoAttached,
      ⟨c.impl, c.world.setUserdata port.component port.port (some 0)⟩)
  | .videoAttached => do
    let camera ← useComponent c.impl.state.cameraComponent c.world
    .ok (.attaching .attached, ⟨c.impl, c.world.setUserdata camera .control (some 0)⟩)
  | .attached => .ok (if startCapturing then .capturing else .idle,
      ⟨{ c.impl with isOpened := true }, c.world⟩)

/-- `Private_Impl::startCapture` of an open camera. -/
def captureStep (r : SetResults) (c : Camera) : Except Fault (Spot × Camera) := do
  let (ok, w) ← setOn c.impl.cameraVideoPort (.capture true) r c.world
  let c := { c with world := w }
  if ok = false then .ok (.releasing .disablePort, c) else do
  let _ ← usePool c.impl.state.videoPool c.world
  .ok (.idle, { c with impl := { c.impl with isCapturing := true } })

/-- The next step of `release`. -/
def releaseStep (c : Camera) : ReleasePhase → Except Fault (Spot × Camera)
  | .disablePort => do
    let c ← (match c.impl.cameraVideoPort with
      | none => .ok c
      | some port => do
        let camera ← useComponent (some port.component) c.world
        .ok (if c.world.portEnabled camera port.port then
            ⟨{ c.impl with cameraVideoPort := none },
              c.world.setPortEnabled camera port.port false⟩
          else c))
    .ok (.releasing .disableComponent, c)
  | .disableComponent =>
    let w := match c.impl.state.cameraComponent with
      | none => c.world
      | some camera => c.world.setEnabled camera false
    .ok (.releasing .destroyPool, { c with world := w })
  | .destroyPool => do
    let w ← (match c.impl.state.videoPool with
      | none => .ok c.world
      | some pool => do
        let _ ← useComponent c.impl.state.cameraComponent c.world
        .ok (c.world.destroyPool pool))
    .ok (.releasing .destroyComponent, { c with world := w })
  | .destroyComponent => .ok (.releasing .forget, match c.impl.state.cameraComponent with
      | none => c
      | some camera =>
        ⟨{ c.impl with state := { c.impl.state with cameraComponent := none } },
          c.world.destroyComponent camera⟩)
  | .forget =>
    .ok (.idle, { c with impl := { c.impl with isOpened := false, isCapturing := false } })

/-- The next step of the call the client is in. -/
def Staged.next (s : Staged) : Except Fault (Spot × Camera) :=
  match s.spot with
  | .idle => .ok (.idle, s.camera)
  | .creating camera phase => .ok (createStep s.outcome camera s.camera phase)
  | .attaching phase => attachStep s.startCapturing s.outcome.sets s.camera phase
  | .capturing => captureStep s.outcome.sets s.camera
  | .releasing phase => releaseStep s.camera phase

/-- A call starts, the client takes the next step, it calls another method, or
    MMAL calls one of the callbacks for a port of some component. -/
inductive StageOp
  | openCamera (startCapturing : Bool) (o : OpenOutcome)
  | startCapture (r : SetResults)
  | release
  | advance
  | call (o : Op)
  | control (camera : Handle) (e : ControlEvent)
  | frame (camera : Handle) (b : Buffer) (fresh : Nat → UInt8) (r : SetResults)

/-- The methods that are one step here. -/
def Op.direct : Op → Bool
  | .frame _ _ _ => false
  | .control _ => false
  | o => !o.lifecycle

/-- `port->userdata` refers to the data of the object, and the data to the
    object. -/
def Camera.Prepared (c : Camera) (camera : Handle) (p : PortId) : Prop :=
  c.world.userdata camera p = some 0 ∧ c.impl.callbackData.attached = true

instance (c : Camera) (camera : Handle) (p : PortId) : Decidable (c.Prepared camera p) :=
  inferInstanceAs (Decidable (_ ∧ _))

/-- What can happen. A callback may be called while its port is enabled, and
    has no behaviour when it does not find its data. -/
def stageStep (s : Staged) : StageOp → Option Staged
  | .openCamera startCapturing o =>
    match s.spot with
    | .idle =>
      if s.camera.impl.isOpened ∨ o.componentCreate = false then some s else
      some ⟨⟨s.camera.impl, s.camera.world.createComponent .camera o.formats⟩,
        .creating s.camera.world.nextComponent .created, startCapturing, o⟩
    | _ => none
  | .startCapture r =>
    match s.spot with
    | .idle =>
      if s.camera.impl.isOpened then
        some { s with spot := .capturing, outcome := { s.outcome with sets := r } }
      else some s
    | _ => none
  | .release =>
    match s.spot with
    | .idle =>
      if s.camera.impl.isOpened then some { s with spot := .releasing .disablePort } else some s
    | _ => none
  | .advance =>
    match s.spot, s.next with
    | .idle, _ => none
    | _, .error _ => none
    | _, .ok (spot, c) => some { s with spot := spot, camera := c }
  | .call o =>
    match s.spot with
    | .idle => if o.direct then (step s.camera o).map fun c => { s with camera := c } else none
    | _ => none
  | .control camera e =>
    if s.camera.world.portEnabled camera .control = true ∧ s.camera.Prepared camera .control then
      some { s with camera := { s.camera with impl := cameraControlCallback e s.camera.impl } }
    else none
  | .frame camera b fresh r =>
    if s.camera.world.portEnabled camera cameraVideoPort = true ∧
        s.camera.Prepared camera cameraVideoPort then
      match videoBufferCallback camera b fresh r s.camera with
      | .error _ => none
      | .ok (_, c) => some { s with camera := c }
    else none

/-- The client takes some steps, and nothing comes between them. -/
def Advances (s t : Staged) : Prop :=
  ∃ n, run stageStep s (List.replicate n .advance) = some t

theorem Advances.refl (s : Staged) : Advances s s := ⟨0, rfl⟩

theorem Advances.trans {s t u : Staged} (h : Advances s t) (h' : Advances t u) : Advances s u := by
  rcases h with ⟨n, hn⟩
  rcases h' with ⟨m, hm⟩
  refine ⟨n + m, ?_⟩
  rw [List.replicate_add, run_append, hn]
  exact hm

/-- A single step. -/
theorem Advances.step {s t u : Staged} (h : stageStep s .advance = some t) (h' : Advances t u) :
    Advances s u := by
  rcases h' with ⟨n, hn⟩
  refine ⟨n + 1, ?_⟩
  rw [List.replicate_succ, run_cons, h]
  exact hn

section Steps

variable {c c' : Camera} {t : Spot} {b : Bool} {o : OpenOutcome} {u : Staged}

theorem Advances.create {camera : Handle} {phase : CreatePhase}
    (h : createStep o camera c phase = (t, c')) (h' : Advances ⟨c', t, b, o⟩ u) :
    Advances ⟨c, .creating camera phase, b, o⟩ u := by
  refine .step ?_ h'
  simp only [stageStep, Staged.next, h]

theorem Advances.attach {phase : AttachPhase} (h : attachStep b o.sets c phase = .ok (t, c'))
    (h' : Advances ⟨c', t, b, o⟩ u) : Advances ⟨c, .attaching phase, b, o⟩ u := by
  refine .step ?_ h'
  simp only [stageStep, Staged.next, h]

theorem Advances.capture (h : captureStep o.sets c = .ok (t, c')) (h' : Advances ⟨c', t, b, o⟩ u) :
    Advances ⟨c, .capturing, b, o⟩ u := by
  refine .step ?_ h'
  simp only [stageStep, Staged.next, h]

theorem Advances.release {phase : ReleasePhase} (h : releaseStep c phase = .ok (t, c'))
    (h' : Advances ⟨c', t, b, o⟩ u) : Advances ⟨c, .releasing phase, b, o⟩ u := by
  refine .step ?_ h'
  simp only [stageStep, Staged.next, h]

end Steps

/-- The steps of `create_camera_component`, one after another. -/
theorem configureCamera_staged (o : OpenOutcome) (camera : Handle) (c : Camera) (b : Bool) :
    Advances ⟨c, .creating camera .created, b, o⟩ ⟨(configureCamera o camera c.impl c.world).2,
      if (configureCamera o camera c.impl c.world).1 then .attaching (.committing commits)
      else .idle, b, o⟩ := by
  unfold configureCamera
  by_cases h1 : o.outputPorts = false
  · rw [if_pos h1]
    exact .create (if_pos h1) (.refl _)
  rw [if_neg h1]
  by_cases h2 : o.sets.param .control .changeEventRequest = false
  · simp only [if_pos h2]
    exact .create ((if_neg h1).trans (if_pos h2)) (.refl _)
  simp only [if_neg h2]
  refine .create ((if_neg h1).trans (if_neg h2)) ?_
  by_cases h3 : o.controlEnable = false
  · rw [if_pos h3]
    exact .create (if_pos h3) (.refl _)
  rw [if_neg h3]
  refine .create (if_neg h3) ?_
  by_cases h4 : o.sets.formatCommit = false
  · rw [if_pos h4]
    exact .create (if_pos h4) (.refl _)
  rw [if_neg h4]
  refine .create (if_neg h4) ?_
  by_cases h5 : o.videoEnable = false
  · rw [if_pos h5]
    exact .create (if_pos h5) (.refl _)
  rw [if_neg h5]
  refine .create (if_neg h5) (.create rfl ?_)
  by_cases h6 : o.componentEnable = false
  · rw [if_pos h6]
    exact .create (if_pos h6) (.refl _)
  rw [if_neg h6]
  exact .create (if_neg h6) (.create rfl (.refl _))

/-- The steps of `commitParameters` are all of it. -/
theorem commitParameters_eq_commits (s : RaspividState) (r : SetResults) (w : World) :
    commitParameters s r w = commitAll r commits s w := by
  simp only [commitParameters, commits, commitAll, commitOnly, commitShutter, bind_assoc, ok_bind]

theorem commitAll_staged {o : OpenOutcome} (b : Bool) {rest : List Commit} {p : PrivateImpl}
    {s s' : RaspividState} {w w' : World} (h : commitAll o.sets rest s w = .ok (s', w')) :
    Advances ⟨⟨{ p with state := s }, w⟩, .attaching (.committing rest), b, o⟩
      ⟨⟨{ p with state := s' }, w'⟩, .attaching .pointing, b, o⟩ := by
  induction rest generalizing s w with
  | nil =>
      rcases Prod.mk.inj (Except.ok.inj h) with ⟨rfl, rfl⟩
      exact .attach rfl (.refl _)
  | cons commit rest ih =>
      rcases bind_ok h with ⟨⟨s₁, w₁⟩, hcommit, h⟩
      refine .attach ?_ (ih h)
      simp only [attachStep, hcommit, ok_bind]

/-- The steps of `open` after that. -/
theorem attachCamera_staged {o : OpenOutcome} {c d : Camera} (b : Bool)
    (h : attachCamera o c = .ok d) :
    Advances ⟨c, .attaching (.committing commits), b, o⟩
      ⟨d, if b then .capturing else .idle, b, o⟩ := by
  rcases bind_ok h with ⟨⟨s, w⟩, hcommit, h⟩
  rcases bind_ok h with ⟨camera, hcam, h⟩
  rw [commitParameters_eq_commits] at hcommit
  refine (commitAll_staged (p := c.impl) b hcommit).trans ?_
  rw [← Except.ok.inj h]
  rcases useComponent_ok hcam with ⟨hsome, halive⟩
  let p : PrivateImpl := { c.impl with
    state := s
    cameraVideoPort := some ⟨camera, cameraVideoPort⟩
    callbackData := { c.impl.callbackData with attached := true } }
  have hpointing : attachStep b o.sets ⟨{ c.impl with state := s }, w⟩ .pointing
      = .ok (.attaching .pointed, ⟨p, w⟩) := by
    simp only [attachStep, hcam, ok_bind]
    rfl
  have hpointed : attachStep b o.sets ⟨p, w⟩ .pointed
      = .ok (.attaching .videoAttached, ⟨p, w.setUserdata camera cameraVideoPort (some 0)⟩) := by
    simp only [attachStep, p, usePort, if_pos halive, ok_bind]
  have hvideo :
      attachStep b o.sets ⟨p, w.setUserdata camera cameraVideoPort (some 0)⟩ .videoAttached
      = .ok (.attaching .attached, ⟨p, (w.setUserdata camera cameraVideoPort (some 0)).setUserdata
        camera .control (some 0)⟩) := by
    simp only [attachStep, p, hsome, useComponent, World.alive_setUserdata, if_pos halive, ok_bind]
  exact .attach hpointing (.attach hpointed (.attach hvideo (.attach rfl (.refl _))))

/-- The steps of `release`. -/
theorem releaseStep_staged {c d : Camera} (b : Bool) (o : OpenOutcome)
    (ho : c.impl.isOpened = true) (h : release c = .ok d) :
    Advances ⟨c, .releasing .disablePort, b, o⟩ ⟨d, .idle, b, o⟩ := by
  unfold release at h
  rw [if_neg (by rw [ho]; decide)] at h
  rcases bind_ok h with ⟨c₁, hport, h⟩
  rcases bind_ok h with ⟨c₂, hdestroy, h⟩
  rcases bind_ok hdestroy with ⟨w, hpool, hdestroy⟩
  have hdisable : releaseStep c .disablePort = .ok (.releasing .disableComponent, c₁) :=
    congrArg (fun x : Except Fault Camera => x >>= fun e =>
      Except.ok (Spot.releasing .disableComponent, e)) hport
  have hpools : releaseStep { c₁ with world := match c₁.impl.state.cameraComponent with
      | none => c₁.world
      | some camera => c₁.world.setEnabled camera false } .destroyPool
      = .ok (.releasing .destroyComponent, ⟨c₁.impl, w⟩) :=
    congrArg (fun x : Except Fault World => x >>= fun v =>
      Except.ok (Spot.releasing .destroyComponent, (⟨c₁.impl, v⟩ : Camera))) hpool
  have hcomponent : releaseStep ⟨c₁.impl, w⟩ .destroyComponent = .ok (.releasing .forget, c₂) := by
    cases hcam : c₁.impl.state.cameraComponent with
    | none =>
        simp only [hcam] at hdestroy
        simp only [releaseStep, hcam, ← Except.ok.inj hdestroy]
    | some camera =>
        simp only [hcam] at hdestroy
        simp only [releaseStep, hcam, ← Except.ok.inj hdestroy]
  rw [← Except.ok.inj h]
  exact .release hdisable (.release rfl (.release hpools (.release hcomponent
    (.release rfl (.refl _)))))

/-- Releasing the camera step by step is what releasing it amounts to. -/
theorem release_staged {c d : Camera} (b : Bool) (o : OpenOutcome) (h : release c = .ok d) :
    ∃ s, stageStep ⟨c, .idle, b, o⟩ .release = some s ∧ Advances s ⟨d, .idle, b, o⟩ := by
  by_cases ho : c.impl.isOpened = true
  · exact ⟨_, if_pos ho, releaseStep_staged b o ho h⟩
  · rw [release_closed (Bool.eq_false_iff.mpr ho)] at h
    rw [← Except.ok.inj h]
    exact ⟨_, if_neg ho, .refl _⟩

/-- The steps of `startCapture`. -/
theorem startCapture_staged {o : OpenOutcome} {c d : Camera} {r : Bool} (b : Bool)
    (ho : c.impl.isOpened = true) (h : startCapture o.sets c = .ok (r, d)) :
    Advances ⟨c, .capturing, b, o⟩ ⟨d, .idle, b, o⟩ := by
  unfold startCapture at h
  rw [if_neg (by rw [ho]; decide)] at h
  rcases bind_ok h with ⟨⟨ok, w⟩, hset, h⟩
  simp only at h
  by_cases hok : ok = false
  · rw [if_pos hok] at h
    rcases bind_ok h with ⟨e, he, h⟩
    have hcapture : captureStep o.sets c = .ok (.releasing .disablePort, ⟨c.impl, w⟩) := by
      simp only [captureStep, hset, ok_bind, if_pos hok]
    rw [← (Prod.mk.inj (Except.ok.inj h)).2]
    exact .capture hcapture (releaseStep_staged b o ho he)
  · rw [if_neg hok] at h
    rcases bind_ok h with ⟨pool, hpool, h⟩
    have hcapture : captureStep o.sets c
        = .ok (.idle, ⟨{ c.impl with isCapturing := true }, w⟩) := by
      simp only [captureStep, hset, ok_bind, if_neg hok, hpool]
    rw [← (Prod.mk.inj (Except.ok.inj h)).2]
    exact .capture hcapture (.refl _)

/-- Opening the camera step by step is what opening it amounts to. -/
theorem openCamera_staged {b r : Bool} {o : OpenOutcome} {c d : Camera}
    (h : openCamera b o c = .ok (r, d)) (b' : Bool) (o' : OpenOutcome) :
    ∃ s t, stageStep ⟨c, .idle, b', o'⟩ (.openCamera b o) = some s ∧ Advances s t ∧
      t.camera = d ∧ t.spot = .idle := by
  unfold openCamera at h
  by_cases ho : c.impl.isOpened = true
  · rw [if_pos ho] at h
    rw [← (Prod.mk.inj (Except.ok.inj h)).2]
    exact ⟨_, _, if_pos (Or.inl ho), .refl _, rfl, rfl⟩
  rw [if_neg ho] at h
  unfold createCameraComponent at h
  by_cases hcr : o.componentCreate = false
  · rw [if_pos hcr] at h
    rw [← (Prod.mk.inj (Except.ok.inj h)).2]
    exact ⟨_, _, if_pos (Or.inr hcr), .refl _, rfl, rfl⟩
  rw [if_neg hcr] at h
  refine ⟨_, ⟨d, .idle, b, o⟩, if_neg (not_or.mpr ⟨ho, hcr⟩), ?_, rfl, rfl⟩
  refine (configureCamera_staged o _ ⟨c.impl, _⟩ b).trans ?_
  cases hconf : configureCamera o c.world.nextComponent c.impl
      (c.world.createComponent .camera o.formats) with
  | mk created e =>
      rw [hconf] at h
      cases created with
      | false =>
          rw [← (Prod.mk.inj (Except.ok.inj h)).2]
          exact .refl _
      | true =>
          rcases bind_ok h with ⟨a, ha, h⟩
          refine (attachCamera_staged b ha).trans ?_
          by_cases hb : b = true
          · rw [if_pos hb] at h ⊢
            exact startCapture_staged b (attachCamera_ok ha).2.1 h
          · rw [if_neg hb] at h ⊢
            rw [← (Prod.mk.inj (Except.ok.inj h)).2]
            exact .refl _

end Video

end RaspiCam
