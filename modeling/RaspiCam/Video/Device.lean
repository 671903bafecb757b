import RaspiCam.Lib.Run
import RaspiCam.Video.Impl

/-!
# The Video Implementation: The Device

Opening and closing the camera, the two callbacks, and the system these make
up with the setters. `create_camera_component` creates and configures the
camera in about a dozen steps, each of which may fail; the results are an
`OpenOutcome`, which is chosen freely. The circulation of buffer headers
between pool and port does not change the object and is left to
`Headers.Circulation`; here only the pointer to the pool is followed.

`step` is the system seen from outside: a client calls any operation, MMAL
delivers any frame of the right length while the video port is enabled, and
the camera reports its settings. A call that faults has no next state. `grab`
only records that a frame is wanted: the wait is the subject of `Sync.Grab`,
and letting other operations happen before the frame covers every client.

## Main definitions

* `OpenOutcome`: The results of the calls `open` makes.
* `createCameraComponent`, `openCamera`, `startCapture`, `release`: The calls.
* `videoBufferCallback`, `cameraControlCallback`: The callbacks.
* `frameLength`: The length of a frame in a committed format.
* `Op`, `step`: The operations and the system.

## Theorems

* `openCamera_ok`: What opening leaves behind.
* `release_ok`: What releasing leaves behind.
* `videoBufferCallback_ok`: What a frame changes.
-/

namespace RaspiCam

open Mmal Machine Bytes

namespace Video

/-- The results of the MMAL calls that opening the camera makes, and what the
    firmware answers. -/
structure OpenOutcome where
  componentCreate : Bool
  outputPorts : Bool
  formats : PortId → EsFormat
  rgbOrderFixed : Bool
  controlEnable : Bool
  videoEnable : Bool
  poolCreate : Bool
  componentEnable : Bool
  sets : SetResults

/-- The outcome where every call succeeds. -/
def OpenOutcome.allOk : OpenOutcome where
  componentCreate := true
  outputPorts := true
  formats := fun _ => EsFormat.unset
  rgbOrderFixed := true
  controlEnable := true
  videoEnable := true
  poolCreate := true
  componentEnable := true
  sets := SetResults.allOk

/-- The configuration announced to the camera. -/
def cameraConfig (s : RaspividState) : CameraConfig where
  maxStillsW := u32 s.width
  maxStillsH := u32 s.height
  oneShotStills := false
  maxPreviewVideoW := u32 s.width
  maxPreviewVideoH := u32 s.height
  numPreviewVideoFrames := 3

/-- The format put on the video port. -/
def videoFormat (s : RaspividState) (rgbBgrFixed : Bool) (_ : EsFormat) : EsFormat where
  encoding := convertFormat rgbBgrFixed s.captureFtm
  encodingVariant := convertFormat rgbBgrFixed s.captureFtm
  width := u32 (vcosAlignUp s.width 32)
  height := u32 (vcosAlignUp s.height 16)
  cropWidth := u32 s.width
  cropHeight := u32 s.height
  frameRateNum := s.framerate
  frameRateDen := 1

/-- `Private_Impl::create_camera_component`, from the camera component on.
    Whether it went through comes first. -/
def configureCamera (o : OpenOutcome) (camera : Handle) (p : PrivateImpl) (w : World) :
    Bool × Camera :=
  if o.outputPorts = false then (false, ⟨p, w.destroyComponent camera⟩) else
  let s := p.state
  let w := if s.sensorMode ≠ 0 then
      trySet camera .control (.cameraCustomSensorConfig (u32 s.sensorMode)) o.sets w
    else w
  let p := { p with rgbBgrFixed := !o.rgbOrderFixed }
  let w := trySet camera .control (.cameraConfig (cameraConfig s)) o.sets w
  let w := trySet camera .control (.changeEventRequest true) o.sets w
  if o.sets.param .control .changeEventRequest = false then
    (false, ⟨p, w.destroyComponent camera⟩) else
  if o.controlEnable = false then (false, ⟨p, w.destroyComponent camera⟩) else
  let w := w.setPortEnabled camera .control true
  let w := w.writeFormat camera cameraVideoPort (videoFormat s p.rgbBgrFixed)
  if o.sets.formatCommit = false then (false, ⟨p, w.destroyComponent camera⟩) else
  let w := w.commitFormat camera cameraVideoPort true
  if o.videoEnable = false then (false, ⟨p, w.destroyComponent camera⟩) else
  let w := w.setPortEnabled camera cameraVideoPort true
  let pool := if o.poolCreate then some w.nextPool else none
  let w := if o.poolCreate then w.createPool else w
  let p := { p with state := { s with videoPool := pool } }
  if o.componentEnable = false then (false, ⟨p, w.destroyComponent camera⟩) else
  let w := w.setEnabled camera true
  (true, ⟨{ p with state := { p.state with cameraComponent := some camera } }, w⟩)

/-- `Private_Impl::create_camera_component`. -/
def createCameraComponent (o : OpenOutcome) (c : Camera) : Bool × Camera :=
  if o.componentCreate = false then (false, c) else
  configureCamera o c.world.nextComponent c.impl (c.world.createComponent .camera o.formats)

/-- `Private_Impl::destroy_camera_component`. The pool is destroyed through a
    port of the camera. -/
def destroyCameraComponent (c : Camera) : Except Fault Camera := do
  let s := c.impl.state
  let w ← (match s.videoPool with
    | none => .ok c.world
    | some pool => do
      let _ ← useComponent s.cameraComponent c.world
      .ok (c.world.destroyPool pool))
  match s.cameraComponent with
  | none => .ok { c with world := w }
  | some camera =>
    .ok ⟨{ c.impl with state := { s with cameraComponent := none } }, w.destroyComponent camera⟩

/-- `Private_Impl::release`. Disabling a port stops it before anything that
    can fail, and the result is not looked at. -/
def release (c : Camera) : Except Fault Camera :=
  if c.impl.isOpened = false then .ok c else do
  let c ← (match c.impl.cameraVideoPort with
    | none => .ok c
    | some port => do
      let camera ← useComponent (some port.component) c.world
      .ok (if c.world.portEnabled camera port.port then
          ⟨{ c.impl with cameraVideoPort := none },
            c.world.setPortEnabled camera port.port false⟩
        else c))
  let w := match c.impl.state.cameraComponent with
    | none => c.world
    | some camera => c.world.setEnabled camera false
  let c ← destroyCameraComponent { c with world := w }
  .ok { c with impl := { c.impl with isOpened := false, isCapturing := false } }

/-- `Private_Impl::startCapture`, without the headers it sends. -/
def startCapture (r : SetResults) (c : Camera) : Except Fault (Bool × Camera) :=
  if c.impl.isOpened = false then .ok (false, c) else do
  let (ok, w) ← setOn c.impl.cameraVideoPort (.capture true) r c.world
  let c := { c with world := w }
  if ok = false then .ok (false, ← release c) else do
  let _ ← usePool c.impl.state.videoPool c.world
  .ok (true, { c with impl := { c.impl with isCapturing := true } })

/-- `Private_Impl::open`, after the camera component was created. -/
def attachCamera (o : OpenOutcome) (c : Camera) : Except Fault Camera := do
  let (s, w) ← commitParameters c.impl.state o.sets c.world
  let camera ← useComponent s.cameraComponent w
  let w := w.setUserdata camera cameraVideoPort (some 0)
  let w := w.setUserdata camera .control (some 0)
  .ok ⟨{ c.impl with
      state := s
      cameraVideoPort := some ⟨camera, cameraVideoPort⟩
      callbackData := { c.impl.callbackData with attached := true }
      isOpened := true }, w⟩

/-- `Private_Impl::open`. -/
def openCamera (startCapturing : Bool) (o : OpenOutcome) (c : Camera) :
    Except Fault (Bool × Camera) :=
  if c.impl.isOpened then .ok (false, c) else
  match createCameraComponent o c with
  | (false, c) => .ok (false, c)
  | (true, c) => do
    let c ← attachCamera o c
    if startCapturing then startCapture o.sets c else .ok (true, c)

/-- `Private_Impl::grab`, up to the wait. -/
def grab (c : Camera) : Bool × Camera :=
  if c.impl.isCapturing = false then (false, c) else
  (true, { c with impl := { c.impl with
      callbackData := { c.impl.callbackData with wantToGrab := true } } })

/-- The copy `Private_Impl::retrieve` makes, if any. -/
def PrivateImpl.retrieveCopies (p : PrivateImpl) : List Copy :=
  if p.callbackData.buffData.size = 0 then []
  else [{ dst := 0, src := 0, len := p.imageTypeSize p.state.captureFtm }]

/-- `Private_Impl::retrieve`. -/
def PrivateImpl.retrieve (p : PrivateImpl) (data : Nat → UInt8) : Nat → UInt8 :=
  applyAll p.retrieveCopies p.callbackData.buffData.data data

/-- A frame is kept when it is not empty and somebody wants it. -/
def PortUserdata.wantsFrame (d : PortUserdata) (b : Buffer) : Bool :=
  b.length ≠ 0 && (d.userCallback || d.wantToGrab)

/-- The object after a frame was kept. -/
def PrivateImpl.keepFrame (p : PrivateImpl) (b : Buffer) (fresh : Nat → UInt8) : PrivateImpl :=
  { p with callbackData := { p.callbackData with
      buffData := storeFrame p.state.width p.state.height p.state.captureFtm b
        p.callbackData.buffData fresh
      wantToGrab := false } }

/-- A fixed shutter speed is sent again with every frame. -/
def refreshShutter (s : RaspividState) (r : SetResults) (w : World) : Except Fault World :=
  if s.shutterSpeed ≠ 0 ∧ s.rpcExposureMode = .fixedfps then
    sendTo (portOf s.cameraComponent .control) (.shutterSpeed (u32 s.shutterSpeed)) r w
  else .ok w

/-- `Private_Impl::video_buffer_callback`, called by the video port of
    component `camera`. Whether a frame was kept comes first: this is when the
    user's callback is called and the waiting clients are woken. -/
def videoBufferCallback (camera : Handle) (b : Buffer) (fresh : Nat → UInt8) (r : SetResults)
    (c : Camera) : Except Fault (Bool × Camera) := do
  let hasGrabbed := c.impl.callbackData.wantsFrame b
  let p := if hasGrabbed then c.impl.keepFrame b fresh else c.impl
  let s := p.state
  let _ ← (if c.world.portEnabled camera cameraVideoPort then
      usePool s.videoPool c.world
    else .ok camera)
  .ok (hasGrabbed, ⟨p, ← refreshShutter s r c.world⟩)

/-- What the control port reports. -/
inductive ControlEvent
  | cameraSettings (exposure : UInt32) (awbRedGain awbBlueGain : MmalRational)
  | otherParameter
  | error
  | unexpected

/-- `Private_Impl::camera_control_callback`. The gains are quotients of two
    numbers rounded to `float`, and not finite when the denominator is zero. -/
def cameraControlCallback (e : ControlEvent) (p : PrivateImpl) : PrivateImpl :=
  match e with
  | .cameraSettings exposure red blue =>
    { p with state := { p.state with
        shutterSpeed := i32 exposure.toNat
        awbgRed := Float32.ofInt red.num / Float32.ofInt red.den
        awbgBlue := Float32.ofInt blue.num / Float32.ofInt blue.den } }
  | .otherParameter => p
  | .error => p
  | .unexpected => p

/-- The length of a frame in a committed format: the size MMAL computes for
    the encoding, from the padded width and height. -/
def frameLength (f : EsFormat) : Nat :=
  match f.encoding with
  | .rgb24 => 3 * (f.width * f.height)
  | .bgr24 => 3 * (f.width * f.height)
  | _ => f.width * f.height + 2 * (f.width / 2 * (f.height / 2))

/-- The format the live camera of the object last accepted. -/
def Camera.committedFormat (c : Camera) : Option EsFormat :=
  c.impl.state.cameraComponent.bind fun h => c.world.committed h cameraVideoPort

/-- MMAL may deliver this buffer: the video port is enabled, and the buffer is
    empty or holds one whole frame. -/
def Camera.delivers (c : Camera) (b : Buffer) : Bool :=
  match c.impl.state.cameraComponent with
  | none => false
  | some h => c.world.portEnabled h cameraVideoPort &&
    match c.world.committed h cameraVideoPort with
    | none => false
    | some f => b.length == 0 || b.length == frameLength f

/-- The operations of the system. -/
inductive Op
  | setWidth (width : UInt32)
  | setHeight (height : UInt32)
  | setCaptureSize (width height : UInt32)
  | setFormat (fmt : RaspicamFormat)
  | setSensorMode (mode : Int32)
  | setFrameRate (framesPerSecond : Int32)
  | set (x : Setting) (r : SetResults)
  | setUserCallback (userCallback : Bool)
  | openCamera (startCapturing : Bool) (o : OpenOutcome)
  | startCapture (r : SetResults)
  | grab
  | release
  | retrieve
  | frame (b : Buffer) (fresh : Nat → UInt8) (r : SetResults)
  | control (e : ControlEvent)

/-- What an operation makes of the system. -/
def exec (c : Camera) : Op → Except Fault Camera
  | .setWidth width => .ok (setWidth width c)
  | .setHeight height => .ok (setHeight height c)
  | .setCaptureSize width height => .ok (setCaptureSize width height c)
  | .setFormat fmt => .ok (setFormat fmt c)
  | .setSensorMode mode => .ok (setSensorMode mode c)
  | .setFrameRate framesPerSecond => .ok (setFrameRate framesPerSecond c)
  | .set x r => x.apply r c
  | .setUserCallback userCallback => .ok (setUserCallback userCallback c)
  | .openCamera startCapturing o => do .ok (← openCamera startCapturing o c).2
  | .startCapture r => do .ok (← startCapture r c).2
  | .grab => .ok (grab c).2
  | .release => release c
  | .retrieve => .ok c
  | .frame b fresh r => do
    let camera ← useComponent c.impl.state.cameraComponent c.world
    .ok (← videoBufferCallback camera b fresh r c).2
  | .control e => .ok { c with impl := cameraControlCallback e c.impl }

/-- Which operations can happen: a client may call anything, MMAL reports
    settings while the control port is enabled and delivers only whole
    frames. -/
def Op.enabled (c : Camera) : Op → Bool
  | .frame b _ _ => c.delivers b
  | .control _ => match c.impl.state.cameraComponent with
    | none => false
    | some h => c.world.portEnabled h .control
  | _ => true

/-- The system. -/
def step (c : Camera) (o : Op) : Option Camera :=
  if o.enabled c then (exec c o).toOption else none

theorem step_ok {c c' : Camera} {o : Op} (h : step c o = some c') :
    o.enabled c = true ∧ exec c o = .ok c' := by
  unfold step at h
  by_cases he : o.enabled c = true
  · rw [if_pos he] at h
    exact ⟨he, toOption_ok h⟩
  · rw [if_neg he] at h
    exact absurd h (by simp only [reduceCtorEq, not_false_eq_true])

/-- What it takes for a buffer to be delivered. -/
theorem delivers_iff {c : Camera} {b : Buffer} : c.delivers b = true ↔
    ∃ h f, c.impl.state.cameraComponent = some h ∧
      c.world.portEnabled h cameraVideoPort = true ∧
      c.world.committed h cameraVideoPort = some f ∧
      (b.length = 0 ∨ b.length = frameLength f) := by
  unfold Camera.delivers
  cases hc : c.impl.state.cameraComponent with
  | none => simp only [Bool.false_eq_true, reduceCtorEq, false_and, exists_false]
  | some h =>
      cases hf : c.world.committed h cameraVideoPort with
      | none =>
          simp only [hf, Bool.and_false, Bool.false_eq_true, Option.some.injEq, false_iff]
          rintro ⟨h', f, rfl, _, hn, _⟩
          rw [hf] at hn
          exact absurd hn (by simp only [reduceCtorEq, not_false_eq_true])
      | some f =>
          simp only [hf, Bool.and_eq_true, Bool.or_eq_true, beq_iff_eq, Option.some.injEq]
          constructor
          · rintro ⟨hp, hl⟩
            exact ⟨h, f, rfl, hp, hf, hl⟩
          · rintro ⟨h', f', rfl, hp, hf', hl⟩
            rw [hf, Option.some.injEq] at hf'
            exact ⟨hp, hf' ▸ hl⟩

/-- The recorded size and format and the stored frame are the same. -/
structure PrivateImpl.SameStore (p p' : PrivateImpl) : Prop where
  width : p'.state.width = p.state.width
  height : p'.state.height = p.state.height
  captureFtm : p'.state.captureFtm = p.state.captureFtm
  buffData : p'.callbackData.buffData = p.callbackData.buffData

theorem PrivateImpl.SameStore.trans {p q r : PrivateImpl} (h : p.SameStore q)
    (h' : q.SameStore r) : p.SameStore r :=
  ⟨h'.width.trans h.width, h'.height.trans h.height, h'.captureFtm.trans h.captureFtm,
    h'.buffData.trans h.buffData⟩

/-- A closed object refers to no camera. -/
def Camera.Detached (c : Camera) : Prop :=
  c.impl.isOpened = false → c.impl.state.cameraComponent = none

/-- Nothing but settings that do not matter to frames changed, or the camera
    was closed. -/
structure Camera.Follows (c c' : Camera) : Prop where
  store : c.impl.SameStore c'.impl
  detached : c.Detached → c'.Detached
  opened : c'.impl.isOpened = true →
    c.impl.isOpened = true ∧ c'.committedFormat = c.committedFormat

theorem Camera.Follows.trans {c d e : Camera} (h : c.Follows d) (h' : d.Follows e) :
    c.Follows e := by
  refine ⟨h.store.trans h'.store, fun hd => h'.detached (h.detached hd), fun ho => ?_⟩
  rcases h'.opened ho with ⟨hd, hf⟩
  rcases h.opened hd with ⟨hc, hf'⟩
  exact ⟨hc, hf.trans hf'⟩

/-- The same component with the same formats accepted the same format. -/
theorem committedFormat_congr {c c' : Camera}
    (hc : c'.impl.state.cameraComponent = c.impl.state.cameraComponent)
    (hw : c'.world.forgetParams = c.world.forgetParams) :
    c'.committedFormat = c.committedFormat := by
  unfold Camera.committedFormat
  rw [hc]
  cases c.impl.state.cameraComponent with
  | none => rfl
  | some h =>
      simp only [Option.bind_some]
      rw [← World.committed_forgetParams, hw, World.committed_forgetParams]

theorem Camera.Keeps.follows {c c' : Camera} (h : c.Keeps c') : c.Follows c' := by
  refine ⟨⟨h.state.width, h.state.height, h.state.captureFtm, by rw [h.callbackData]⟩, ?_, ?_⟩
  · intro hd hc
    rw [h.state.cameraComponent]
    exact hd (h.isOpened ▸ hc)
  · intro ho
    exact ⟨h.isOpened ▸ ho, committedFormat_congr h.state.cameraComponent h.devices⟩

/-- What `grab` makes of the system: the next frame is wanted if the camera is
    capturing. -/
theorem grab_camera (c : Camera) : (grab c).2 = { c with impl := { c.impl with callbackData :=
    { c.impl.callbackData with
      wantToGrab := c.impl.isCapturing || c.impl.callbackData.wantToGrab } } } := by
  unfold grab
  by_cases hc : c.impl.isCapturing = false
  · have hwant : (c.impl.isCapturing || c.impl.callbackData.wantToGrab)
        = c.impl.callbackData.wantToGrab := by rw [hc, Bool.false_or]
    rw [if_pos hc, hwant]
  · have hwant : (c.impl.isCapturing || c.impl.callbackData.wantToGrab) = true := by
      rw [Bool.not_eq_false] at hc
      rw [hc, Bool.true_or]
    rw [if_neg hc, hwant]

theorem grab_follows (c : Camera) : c.Follows (grab c).2 := by
  rw [grab_camera]
  exact ⟨⟨rfl, rfl, rfl, rfl⟩, id, fun ho => ⟨ho, rfl⟩⟩

theorem destroyCameraComponent_ok {c c' : Camera} (h : destroyCameraComponent c = .ok c') :
    c.impl.SameStore c'.impl ∧ c'.impl.state.cameraComponent = none := by
  rcases bind_ok h with ⟨w, _, h⟩
  cases hc : c.impl.state.cameraComponent with
  | none =>
      simp only [hc] at h
      rw [← Except.ok.inj h]
      exact ⟨⟨rfl, rfl, rfl, rfl⟩, hc⟩
  | some camera =>
      simp only [hc] at h
      rw [← Except.ok.inj h]
      exact ⟨⟨rfl, rfl, rfl, rfl⟩, rfl⟩

/-- Releasing closes the camera and keeps the stored frame. -/
theorem release_ok {c c' : Camera} (h : release c = .ok c') :
    c.impl.SameStore c'.impl ∧ c'.impl.isOpened = false ∧ (c.Detached → c'.Detached) := by
  unfold release at h
  by_cases ho : c.impl.isOpened = false
  · rw [if_pos ho] at h
    rw [← Except.ok.inj h]
    exact ⟨⟨rfl, rfl, rfl, rfl⟩, ho, id⟩
  · rw [if_neg ho] at h
    rcases bind_ok h with ⟨d, hd, h⟩
    rcases bind_ok h with ⟨e, he, h⟩
    -- Disabling the port, if it is there and enabled, reaches the device only.
    have hport : c.impl.SameStore d.impl := by
      cases hp : c.impl.cameraVideoPort with
      | none =>
          simp only [hp] at hd
          rw [← Except.ok.inj hd]
          exact ⟨rfl, rfl, rfl, rfl⟩
      | some port =>
          simp only [hp] at hd
          rcases bind_ok hd with ⟨camera, _, hd⟩
          rw [← Except.ok.inj hd]
          by_cases hen : c.world.portEnabled camera port.port = true
          · rw [if_pos hen]
            exact ⟨rfl, rfl, rfl, rfl⟩
          · rw [if_neg hen]
            exact ⟨rfl, rfl, rfl, rfl⟩
    rcases destroyCameraComponent_ok he with ⟨hdestroy, hnone⟩
    rw [← Except.ok.inj h]
    exact ⟨hport.trans ⟨hdestroy.width, hdestroy.height, hdestroy.captureFtm,
      hdestroy.buffData⟩, rfl, fun _ _ => hnone⟩

theorem release_follows {c c' : Camera} (h : release c = .ok c') : c.Follows c' := by
  rcases release_ok h with ⟨hstore, hclosed, hdetached⟩
  exact ⟨hstore, hdetached, fun ho => absurd (hclosed.symm.trans ho) Bool.false_ne_true⟩

theorem setOn_forgetParams {p : Option PortRef} {q : Param} {r : SetResults} {w w' : World}
    {b : Bool} (h : setOn p q r w = .ok (b, w')) : w'.forgetParams = w.forgetParams := by
  cases p with
  | none =>
      rw [← (Prod.mk.inj (Except.ok.inj h)).2]
  | some p =>
      rcases bind_ok h with ⟨m, hm, h⟩
      rw [← (Prod.mk.inj (Except.ok.inj h)).2]
      exact sendTo_forgetParams hm

/-- Capturing starts, or the camera is closed. -/
theorem startCapture_follows {r : SetResults} {c c' : Camera} {b : Bool}
    (h : startCapture r c = .ok (b, c')) : c.Follows c' := by
  unfold startCapture at h
  by_cases ho : c.impl.isOpened = false
  · rw [if_pos ho] at h
    rw [← (Prod.mk.inj (Except.ok.inj h)).2]
    exact ⟨⟨rfl, rfl, rfl, rfl⟩, id, fun hc => ⟨hc, rfl⟩⟩
  · rw [if_neg ho] at h
    rcases bind_ok h with ⟨⟨ok, w⟩, hw, h⟩
    -- The CAPTURE parameter is set either way.
    have hset : c.Follows { c with world := w } :=
      ⟨⟨rfl, rfl, rfl, rfl⟩, id,
        fun hc => ⟨hc, committedFormat_congr rfl (setOn_forgetParams hw)⟩⟩
    simp only at h
    -- When it is refused the camera is released, and closed.
    by_cases hok : ok = false
    · rw [if_pos hok] at h
      rcases bind_ok h with ⟨d, hd, h⟩
      rw [← (Prod.mk.inj (Except.ok.inj h)).2]
      exact hset.trans (release_follows hd)
    · rw [if_neg hok] at h
      rcases bind_ok h with ⟨pool, _, h⟩
      rw [← (Prod.mk.inj (Except.ok.inj h)).2]
      exact hset.trans ⟨⟨rfl, rfl, rfl, rfl⟩, id, fun hc => ⟨hc, rfl⟩⟩

/-- What a successful configuration leaves behind: the format of the recorded
    size, accepted by the new camera. -/
theorem configureCamera_ok {o : OpenOutcome} {camera : Handle} {p : PrivateImpl} {w : World}
    {c' : Camera} (h : configureCamera o camera p w = (true, c')) (hw : w.At camera fun _ => True) :
    c'.impl.state.cameraComponent = some camera ∧
      c'.world.committed camera cameraVideoPort
        = some (videoFormat p.state (!o.rgbOrderFixed) (o.formats cameraVideoPort)) := by
  unfold configureCamera at h
  by_cases h1 : o.outputPorts = false
  · rw [if_pos h1] at h
    exact absurd (Prod.mk.inj h).1 Bool.false_ne_true
  rw [if_neg h1] at h
  simp only at h
  by_cases h2 : o.sets.param .control .changeEventRequest = false
  · rw [if_pos h2] at h
    exact absurd (Prod.mk.inj h).1 Bool.false_ne_true
  rw [if_neg h2] at h
  by_cases h3 : o.controlEnable = false
  · rw [if_pos h3] at h
    exact absurd (Prod.mk.inj h).1 Bool.false_ne_true
  rw [if_neg h3] at h
  by_cases h4 : o.sets.formatCommit = false
  · rw [if_pos h4] at h
    exact absurd (Prod.mk.inj h).1 Bool.false_ne_true
  rw [if_neg h4] at h
  by_cases h5 : o.videoEnable = false
  · rw [if_pos h5] at h
    exact absurd (Prod.mk.inj h).1 Bool.false_ne_true
  rw [if_neg h5] at h
  by_cases h6 : o.componentEnable = false
  · rw [if_pos h6] at h
    exact absurd (Prod.mk.inj h).1 Bool.false_ne_true
  rw [if_neg h6] at h
  rw [← (Prod.mk.inj h).2]
  refine ⟨rfl, World.committed_of_at ?_⟩
  -- A pool that could not be created is only reported.
  have hpool : ∀ v : World, ∀ P, (if o.poolCreate = true then v.createPool else v).At camera P
      ↔ v.At camera P := by
    intro v P
    by_cases hp : o.poolCreate = true
    · rw [if_pos hp]
      exact World.at_createPool v camera P
    · rw [if_neg hp]
  -- So are the parameters that a new camera refuses.
  have htry : ∀ (v : World) q, v.At camera (fun _ => True) →
      (trySet camera .control q o.sets v).At camera fun _ => True := by
    intro v q hv
    unfold trySet
    by_cases hq : o.sets.param .control q.id = true
    · rw [if_pos hq]
      exact (World.at_setParam v camera _ q _).mpr hv
    · rw [if_neg hq]
      exact hv
  simp only [World.at_setEnabled, hpool, World.at_setPortEnabled, World.at_commitFormat,
    World.at_writeFormat, if_true]
  refine (htry _ _ (htry _ _ ?_)).mono fun _ _ => rfl
  by_cases hs : p.state.sensorMode ≠ 0
  · rw [if_pos hs]
    exact htry _ _ hw
  · rw [if_neg hs]
    exact hw

/-- Whether it goes through or not, configuring touches neither the recorded
    size nor the stored frame, and opens nothing. -/
theorem configureCamera_store (o : OpenOutcome) (camera : Handle) (p : PrivateImpl) (w : World) :
    p.SameStore (configureCamera o camera p w).2.impl ∧
      (configureCamera o camera p w).2.impl.isOpened = p.isOpened ∧
      ((configureCamera o camera p w).1 = false →
        (configureCamera o camera p w).2.impl.state.cameraComponent
          = p.state.cameraComponent) := by
  unfold configureCamera
  -- Every result is the object with a few other fields changed.
  repeat' first
    | exact ⟨⟨rfl, rfl, rfl, rfl⟩, rfl, fun _ => rfl⟩
    | exact ⟨⟨rfl, rfl, rfl, rfl⟩, rfl, fun hb => absurd hb.symm Bool.false_ne_true⟩
    | split

/-- Attaching keeps the size, the frame and the format of the camera. -/
theorem attachCamera_ok {o : OpenOutcome} {c c' : Camera} (h : attachCamera o c = .ok c') :
    c.impl.SameStore c'.impl ∧ c'.impl.isOpened = true ∧
      c'.committedFormat = c.committedFormat := by
  rcases bind_ok h with ⟨⟨s, w⟩, hs, h⟩
  rcases commitParameters_ok hs with ⟨hsame, hw⟩
  rcases bind_ok h with ⟨camera, _, h⟩
  rw [← Except.ok.inj h]
  refine ⟨⟨hsame.width, hsame.height, hsame.captureFtm, rfl⟩, rfl, ?_⟩
  calc Camera.committedFormat _
      = Camera.committedFormat { impl := { c.impl with state := s }, world := w } := by
        simp only [Camera.committedFormat]
        cases s.cameraComponent with
        | none => rfl
        | some h' => simp only [Option.bind_some, World.committed_setUserdata]
    _ = c.committedFormat := committedFormat_congr hsame.cameraComponent hw

/-- What opening the camera leaves behind: if it is open afterwards, it either
    was before, or its format is that of the recorded size. -/
theorem openCamera_ok {b b' : Bool} {o : OpenOutcome} {c c' : Camera}
    (h : openCamera b o c = .ok (b', c')) : c.impl.SameStore c'.impl ∧
      (c.Detached → c'.Detached) ∧ (c'.impl.isOpened = true →
        c.impl.isOpened = true ∧ c'.committedFormat = c.committedFormat ∨
        c'.committedFormat = some
          (videoFormat c.impl.state (!o.rgbOrderFixed) (o.formats cameraVideoPort))) := by
  unfold openCamera at h
  by_cases ho : c.impl.isOpened = true
  · rw [if_pos ho] at h
    rw [← (Prod.mk.inj (Except.ok.inj h)).2]
    exact ⟨⟨rfl, rfl, rfl, rfl⟩, id, fun _ => Or.inl ⟨ho, rfl⟩⟩
  rw [if_neg ho] at h
  unfold createCameraComponent at h
  by_cases hcr : o.componentCreate = false
  · rw [if_pos hcr] at h
    rw [← (Prod.mk.inj (Except.ok.inj h)).2]
    exact ⟨⟨rfl, rfl, rfl, rfl⟩, id, fun hc => absurd hc ho⟩
  rw [if_neg hcr] at h
  have hstore := configureCamera_store o c.world.nextComponent c.impl
    (c.world.createComponent .camera o.formats)
  cases hd : configureCamera o c.world.nextComponent c.impl
      (c.world.createComponent .camera o.formats) with
  | mk created d =>
      rw [hd] at h hstore
      cases created with
      | false =>
          rw [← (Prod.mk.inj (Except.ok.inj h)).2]
          exact ⟨hstore.1, fun hd hc => (hstore.2.2 rfl).trans (hd (hstore.2.1 ▸ hc)),
            fun hc => absurd (hstore.2.1 ▸ hc) ho⟩
      | true =>
          rcases bind_ok h with ⟨e, he, h⟩
          rcases attachCamera_ok he with ⟨hstore', hopen, hfmt⟩
          have hdetached : e.Detached := fun hc => absurd (hc.symm.trans hopen) Bool.false_ne_true
          have hformat : e.committedFormat = some
              (videoFormat c.impl.state (!o.rgbOrderFixed) (o.formats cameraVideoPort)) := by
            rcases configureCamera_ok hd ((World.at_createComponent _ _ _ _).mpr trivial)
              with ⟨hcam, hcommitted⟩
            rw [hfmt, Camera.committedFormat, hcam]
            exact hcommitted
          -- Starting to capture may fail and release the camera that was just opened.
          have hfollows : e.Follows c' := by
            by_cases hb : b = true
            · rw [if_pos hb] at h
              exact startCapture_follows h
            · rw [if_neg hb] at h
              rw [← (Prod.mk.inj (Except.ok.inj h)).2]
              exact ⟨⟨rfl, rfl, rfl, rfl⟩, id, fun hc => ⟨hc, rfl⟩⟩
          refine ⟨(hstore.1.trans hstore').trans hfollows.store,
            fun _ => hfollows.detached hdetached, fun hc => Or.inr ?_⟩
          rw [(hfollows.opened hc).2, hformat]

theorem refreshShutter_quiet : Quiet refreshShutter := by
  intro s r w w' h
  unfold refreshShutter at h
  by_cases hs : s.shutterSpeed ≠ 0 ∧ s.rpcExposureMode = .fixedfps
  · rw [if_pos hs] at h
    exact sendTo_forgetParams h
  · rw [if_neg hs] at h
    rw [Except.ok.inj h]

/-- What a frame changes. -/
theorem videoBufferCallback_ok {camera : Handle} {b : Buffer} {fresh : Nat → UInt8}
    {r : SetResults} {c c' : Camera} {grabbed : Bool}
    (h : videoBufferCallback camera b fresh r c = .ok (grabbed, c')) :
    grabbed = c.impl.callbackData.wantsFrame b ∧
      c'.impl = (if grabbed then c.impl.keepFrame b fresh else c.impl) ∧
      c'.world.forgetParams = c.world.forgetParams := by
  rcases bind_ok h with ⟨_, _, h⟩
  rcases bind_ok h with ⟨w, hw, h⟩
  rcases Prod.mk.inj (Except.ok.inj h) with ⟨rfl, rfl⟩
  exact ⟨rfl, rfl, refreshShutter_quiet _ _ _ _ hw⟩

/-- What the camera reports changes neither the size nor the stored frame. -/
theorem cameraControlCallback_store (e : ControlEvent) (p : PrivateImpl) :
    p.SameStore (cameraControlCallback e p) := by
  cases e <;> exact ⟨rfl, rfl, rfl, rfl⟩

end Video

end RaspiCam
