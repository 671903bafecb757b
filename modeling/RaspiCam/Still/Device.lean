import RaspiCam.Still.Impl

/-!
# The Still Implementation: The Device

Setting the camera up, and taking a picture. `initialize` creates the camera,
then the encoder, then the connection between the two, in about a dozen calls
each of which may fail; the results are an `InitOutcome`, which is chosen
freely. The cleaning up is done by `destroyCamera` and `destroyEncoder`, which
look at the members of the object to see what there is to destroy.

A member may be null or refer to something that was destroyed. Following it
is then a fault, in the cleaning up as well as anywhere else.

`takePicture` is modelled as one operation, with the wait for the semaphore
left out: what the callbacks do in the meantime is the subject of
`Still.Collect` and `Still.Lifetime`, and the circulation of the headers that
of `Headers.Circulation`. Connecting two ports also configures and enables
them, which nothing looks at.

## Main definitions

* `InitOutcome`: The results of the calls `initialize` makes.
* `destroyCamera`, `destroyEncoder`: The cleaning up.
* `createCamera`, `createEncoder`, `connectPorts`: The setting up.
* `initializeCamera`, `startCapture`, `stopCapture`, `takePicture`: The calls.

## Theorems

* `destroyCamera_ok`: What cleaning up the camera leaves behind.
* `createCamera_ok`, `createEncoder_ok`: What setting up leaves behind.
* `initializeCamera_ok`: What initializing leaves behind.
-/

namespace RaspiCam

open Mmal Machine

namespace Still

/-- The results of the MMAL calls that initializing makes, and what the
    firmware answers. A camera that has outputs has the one for stills. -/
structure InitOutcome where
  cameraCreate : Bool
  cameraOutputs : Bool
  cameraFormats : PortId → EsFormat
  controlEnable : Bool
  stillFormatCommit : Bool
  cameraEnable : Bool
  cameraPoolCreate : Bool
  encoderCreate : Bool
  encoderInputs : Bool
  encoderOutputs : Bool
  encoderFormats : PortId → EsFormat
  encoderFormatCommit : Bool
  encoderEnable : Bool
  encoderPoolCreate : Bool
  connectionCreate : Bool
  connectionEnable : Bool

/-- Every call succeeds. -/
structure InitOutcome.AllOk (o : InitOutcome) : Prop where
  cameraCreate : o.cameraCreate = true
  cameraOutputs : o.cameraOutputs = true
  controlEnable : o.controlEnable = true
  stillFormatCommit : o.stillFormatCommit = true
  cameraEnable : o.cameraEnable = true
  cameraPoolCreate : o.cameraPoolCreate = true
  encoderCreate : o.encoderCreate = true
  encoderInputs : o.encoderInputs = true
  encoderOutputs : o.encoderOutputs = true
  encoderFormatCommit : o.encoderFormatCommit = true
  encoderEnable : o.encoderEnable = true
  encoderPoolCreate : o.encoderPoolCreate = true
  connectionCreate : o.connectionCreate = true
  connectionEnable : o.connectionEnable = true

/-- The calls before the settings are committed succeed. -/
structure InitOutcome.Commits (o : InitOutcome) : Prop where
  cameraCreate : o.cameraCreate = true
  cameraOutputs : o.cameraOutputs = true
  controlEnable : o.controlEnable = true

/-- Everything up to the pool of the camera succeeds. -/
structure InitOutcome.CameraOk (o : InitOutcome) : Prop where
  commits : o.Commits
  stillFormatCommit : o.stillFormatCommit = true
  cameraEnable : o.cameraEnable = true
  cameraPoolCreate : o.cameraPoolCreate = true

/-- The outcome where every call succeeds. -/
def InitOutcome.allOk : InitOutcome where
  cameraCreate := true
  cameraOutputs := true
  cameraFormats := fun _ => EsFormat.unset
  controlEnable := true
  stillFormatCommit := true
  cameraEnable := true
  cameraPoolCreate := true
  encoderCreate := true
  encoderInputs := true
  encoderOutputs := true
  encoderFormats := fun _ => EsFormat.unset
  encoderFormatCommit := true
  encoderEnable := true
  encoderPoolCreate := true
  connectionCreate := true
  connectionEnable := true

theorem InitOutcome.allOk_allOk : InitOutcome.allOk.AllOk :=
  ⟨rfl, rfl, rfl, rfl, rfl, rfl, rfl, rfl, rfl, rfl, rfl, rfl, rfl, rfl⟩

/-- Change the object. -/
def StillCamera.onImpl (c : StillCamera) (f : PrivateImplStill → PrivateImplStill) : StillCamera :=
  { c with impl := f c.impl }

/-- Change the device. -/
def StillCamera.onWorld (c : StillCamera) (f : World → World) : StillCamera :=
  { c with world := f c.world }

/-- `Private_Impl_Still::destroyCamera`. -/
def destroyCamera (c : StillCamera) : Except Fault StillCamera :=
  match c.impl.camera with
  | none => .ok c
  | some camera => do
    let camera ← useComponent (some camera) c.world
    .ok ⟨{ c.impl with camera := none }, c.world.destroyComponent camera⟩

/-- `encoder->output[0]`. A component is given its array of output ports when
    it `hasOutputs`, and otherwise the pointer to the array stays null. -/
def useOutput (hasOutputs : Bool) (encoder : Handle) : Except Fault PortRef :=
  if hasOutputs then .ok ⟨encoder, .output 0⟩ else .error .nullPointer

/-- `Private_Impl_Still::destroyEncoder`. The pool goes by way of the first
    output port of the encoder, and the member keeps pointing to it. -/
def destroyEncoder (hasOutputs : Bool) (c : StillCamera) : Except Fault StillCamera := do
  let w ← (match c.impl.encoderPool with
    | none => .ok c.world
    | some pool => do
      let encoder ← useComponent c.impl.encoder c.world
      let _ ← useOutput hasOutputs encoder
      let pool ← usePool (some pool) c.world
      .ok (c.world.destroyPool pool))
  match c.impl.encoder with
  | none => .ok { c with world := w }
  | some encoder => do
    let encoder ← useComponent (some encoder) w
    .ok ⟨{ c.impl with encoder := none }, w.destroyComponent encoder⟩

/-- The configuration announced to the camera. -/
def cameraConfig (p : PrivateImplStill) : CameraConfig where
  maxStillsW := p.width
  maxStillsH := p.height
  oneShotStills := true
  maxPreviewVideoW := p.width
  maxPreviewVideoH := p.height
  numPreviewVideoFrames := 3

/-- The format put on the port for stills: `STILLS_FRAME_RATE_NUM` is 3 and
    `STILLS_FRAME_RATE_DEN` is 1. -/
def stillFormat (p : PrivateImplStill) (f : EsFormat) : EsFormat where
  encoding := .opaq
  encodingVariant := f.encodingVariant
  width := p.width
  height := p.height
  cropWidth := p.width
  cropHeight := p.height
  frameRateNum := 3
  frameRateDen := 1

/-- The end of a creator that gives up: clean up and return -1. -/
def giveUp (destroy : StillCamera → Except Fault StillCamera) (c : StillCamera) :
    Except Fault (Bool × StillCamera) := do
  .ok (false, ← destroy c)

/-- `Private_Impl_Still::createCamera`, once there is a component. -/
def configureCamera (o : InitOutcome) (r : SetResults) (camera : Handle) (c : StillCamera) :
    Except Fault (Bool × StillCamera) :=
  if o.cameraOutputs = false then giveUp destroyCamera c else
  let c := c.onImpl fun p => { p with cameraStillPort := some ⟨camera, cameraCapturePort⟩ }
  if o.controlEnable = false then giveUp destroyCamera c else
  let c := c.onWorld fun w => w.setPortEnabled camera .control true
  let c := c.onWorld (trySet camera .control (.cameraConfig (cameraConfig c.impl)) r)
  do
  let c ← commitParameters r c
  let c := c.onWorld fun w => w.writeFormat camera cameraCapturePort (stillFormat c.impl)
  if o.stillFormatCommit = false then giveUp destroyCamera c else
  let c := c.onWorld fun w => w.commitFormat camera cameraCapturePort true
  if o.cameraEnable = false then giveUp destroyCamera c else
  let c := c.onWorld fun w => w.setEnabled camera true
  if o.cameraPoolCreate = false then
    giveUp destroyCamera (c.onImpl fun p => { p with encoderPool := none })
  else
  .ok (true, ⟨{ c.impl with encoderPool := some c.world.nextPool }, c.world.createPool⟩)

/-- `Private_Impl_Still::createCamera`. A component that cannot be created
    leaves a null pointer. -/
def createCamera (o : InitOutcome) (r : SetResults) (c : StillCamera) :
    Except Fault (Bool × StillCamera) :=
  if o.cameraCreate = false then
    giveUp destroyCamera (c.onImpl fun p => { p with camera := none })
  else
  configureCamera o r c.world.nextComponent
    ⟨{ c.impl with camera := some c.world.nextComponent },
      c.world.createComponent .camera o.cameraFormats⟩

/-- `Private_Impl_Still::createEncoder`, once there is a component. -/
def configureEncoder (o : InitOutcome) (encoder : Handle) (c : StillCamera) :
    Except Fault (Bool × StillCamera) :=
  if o.encoderInputs = false ∨ o.encoderOutputs = false then
    giveUp (destroyEncoder o.encoderOutputs) c else
  let c := c.onImpl fun p => { p with
    encoderInputPort := some ⟨encoder, .input 0⟩
    encoderOutputPort := some ⟨encoder, .output 0⟩ }
  let c := c.onWorld fun w => w.writeFormat encoder (.output 0) fun _ =>
    { o.encoderFormats (.input 0) with encoding := convertEncoding c.impl.encoding }
  if o.encoderFormatCommit = false then giveUp (destroyEncoder o.encoderOutputs) c else
  let c := c.onWorld fun w => w.commitFormat encoder (.output 0) true
  if o.encoderEnable = false then giveUp (destroyEncoder o.encoderOutputs) c else
  let c := c.onWorld fun w => w.setEnabled encoder true
  if o.encoderPoolCreate = false then
    giveUp (destroyEncoder o.encoderOutputs) (c.onImpl fun p => { p with encoderPool := none })
  else
  .ok (true, ⟨{ c.impl with encoderPool := some c.world.nextPool }, c.world.createPool⟩)

/-- `Private_Impl_Still::createEncoder`. -/
def createEncoder (o : InitOutcome) (c : StillCamera) : Except Fault (Bool × StillCamera) :=
  if o.encoderCreate = false then
    giveUp (destroyEncoder o.encoderOutputs) (c.onImpl fun p => { p with encoder := none })
  else
  configureEncoder o c.world.nextComponent
    ⟨{ c.impl with encoder := some c.world.nextComponent },
      c.world.createComponent .imageEncoder o.encoderFormats⟩

/-- `Private_Impl_Still::connectPorts`, on `encoder_connection`. A connection
    that cannot be enabled is destroyed, and the member keeps pointing to it. -/
def connectPorts (o : InitOutcome) (c : StillCamera) : Bool × StillCamera :=
  if o.connectionCreate = false then (false, c) else
  let connection := c.world.nextConnection
  let c : StillCamera :=
    ⟨{ c.impl with encoderConnection := some connection }, c.world.createConnection⟩
  if o.connectionEnable = false then
    (false, c.onWorld fun w => w.destroyConnection connection)
  else (true, c.onWorld fun w => w.enableConnection connection)

/-- The last part of `initialize`: the ports are looked up and connected. -/
def connectEncoder (o : InitOutcome) (c : StillCamera) : Except Fault (Bool × StillCamera) := do
  let camera ← useComponent c.impl.camera c.world
  let encoder ← useComponent c.impl.encoder c.world
  let c := c.onImpl fun p => { p with
    cameraStillPort := some ⟨camera, cameraCapturePort⟩
    encoderInputPort := some ⟨encoder, .input 0⟩
    encoderOutputPort := some ⟨encoder, .output 0⟩ }
  match connectPorts o c with
  | (false, c) => .ok (false, c)
  | (true, c) => .ok (true, c.onImpl fun p => { p with isInitialized := true })

/-- `Private_Impl_Still::initialize`. Whether it returns 0 comes first. -/
def initializeCamera (o : InitOutcome) (r : SetResults) (c : StillCamera) :
    Except Fault (Bool × StillCamera) :=
  if c.impl.isInitialized then .ok (true, c) else do
  let (created, c) ← createCamera o r c
  if created = false then giveUp destroyCamera c else
  let (created, c) ← createEncoder o c
  if created = false then giveUp destroyCamera c else
  connectEncoder o c

/-- `Private_Impl_Still::startCapture`. -/
def startCapture (enabled : Bool) (r : SetResults) (c : StillCamera) :
    Except Fault (Bool × StillCamera) := do
  let c ← commitParameters r c
  let port ← usePort c.impl.encoderOutputPort c.world
  if c.world.portEnabled port.component port.port then .ok (false, c) else
  if enabled = false then .ok (false, c) else
  let c := c.onWorld fun w => w.setPortEnabled port.component port.port true
  let _ ← usePool c.impl.encoderPool c.world
  let (captured, w) ← setOn c.impl.cameraStillPort (.capture true) r c.world
  .ok (captured, { c with world := w })

/-- `Private_Impl_Still::stopCapture`. -/
def stopCapture (disabled : Bool) (c : StillCamera) : Except Fault StillCamera := do
  let port ← usePort c.impl.encoderOutputPort c.world
  if c.world.portEnabled port.component port.port && disabled then
    .ok (c.onWorld fun w => w.setPortEnabled port.component port.port false)
  else .ok c

/-- The results of the calls `takePicture` makes itself, and the address of
    its user data. -/
structure PictureOutcome where
  userdata : Nat
  portEnable : Bool
  portDisable : Bool

/-- `Private_Impl_Still::takePicture`. What `initialize` returns is not looked
    at. -/
def takePicture (o : InitOutcome) (q : PictureOutcome) (r : SetResults) (c : StillCamera) :
    Except Fault (Bool × StillCamera) := do
  let (_, c) ← initializeCamera o r c
  let port ← usePort c.impl.encoderOutputPort c.world
  let c := c.onWorld fun w => w.setUserdata port.component port.port (some q.userdata)
  let (started, c) ← startCapture q.portEnable r c
  if started = false then .ok (false, c) else
  .ok (true, ← stopCapture q.portDisable c)

theorem giveUp_ok {destroy : StillCamera → Except Fault StillCamera} {c c' : StillCamera} {b : Bool}
    (h : giveUp destroy c = .ok (b, c')) : b = false ∧ destroy c = .ok c' := by
  rcases bind_ok h with ⟨d, hd, h⟩
  rcases Prod.mk.inj (Except.ok.inj h) with ⟨rfl, rfl⟩
  exact ⟨rfl, hd⟩

/-- What cleaning up the camera leaves behind. -/
theorem destroyCamera_ok {c c' : StillCamera} (h : destroyCamera c = .ok c') :
    c'.impl = { c.impl with camera := none } := by
  unfold destroyCamera at h
  cases hc : c.impl.camera with
  | none =>
      simp only [hc] at h
      rw [← Except.ok.inj h, ← hc]
  | some camera =>
      simp only [hc] at h
      rcases bind_ok h with ⟨camera', _, h⟩
      rw [← Except.ok.inj h]

theorem destroyCamera_next {c c' : StillCamera} (h : destroyCamera c = .ok c') :
    c'.world.nextComponent = c.world.nextComponent := by
  unfold destroyCamera at h
  cases hc : c.impl.camera with
  | none =>
      simp only [hc] at h
      rw [← Except.ok.inj h]
  | some camera =>
      simp only [hc] at h
      rcases bind_ok h with ⟨camera', _, h⟩
      rw [← Except.ok.inj h, World.nextComponent_destroyComponent]

theorem destroyEncoder_ok {b : Bool} {c c' : StillCamera} (h : destroyEncoder b c = .ok c') :
    c'.impl = { c.impl with encoder := none } := by
  rcases bind_ok h with ⟨w, _, h⟩
  cases hc : c.impl.encoder with
  | none =>
      simp only [hc] at h
      rw [← Except.ok.inj h, ← hc]
  | some encoder =>
      simp only [hc] at h
      rcases bind_ok h with ⟨encoder', _, h⟩
      rw [← Except.ok.inj h]

theorem destroyEncoder_next {b : Bool} {c c' : StillCamera} (h : destroyEncoder b c = .ok c') :
    c'.world.nextComponent = c.world.nextComponent := by
  rcases bind_ok h with ⟨w, hw, h⟩
  have hnext : w.nextComponent = c.world.nextComponent := by
    cases hp : c.impl.encoderPool with
    | none =>
        simp only [hp] at hw
        rw [← Except.ok.inj hw]
    | some pool =>
        simp only [hp] at hw
        rcases bind_ok hw with ⟨_, _, hw⟩
        rcases bind_ok hw with ⟨_, _, hw⟩
        rcases bind_ok hw with ⟨_, _, hw⟩
        rw [← Except.ok.inj hw, World.nextComponent_destroyPool]
  cases hc : c.impl.encoder with
  | none =>
      simp only [hc] at h
      rw [← Except.ok.inj h, hnext]
  | some encoder =>
      simp only [hc] at h
      rcases bind_ok h with ⟨encoder', _, h⟩
      rw [← Except.ok.inj h, World.nextComponent_destroyComponent, hnext]

/-- Cleaning up the encoder destroys no other component. -/
theorem destroyEncoder_alive {b : Bool} {c c' : StillCamera} (h : destroyEncoder b c = .ok c')
    {g : Handle} (hg : c.impl.encoder ≠ some g) : c'.world.alive g = c.world.alive g := by
  rcases bind_ok h with ⟨w, hw, h⟩
  have halive : w.alive g = c.world.alive g := by
    cases hp : c.impl.encoderPool with
    | none =>
        simp only [hp] at hw
        rw [← Except.ok.inj hw]
    | some pool =>
        simp only [hp] at hw
        rcases bind_ok hw with ⟨_, _, hw⟩
        rcases bind_ok hw with ⟨_, _, hw⟩
        rcases bind_ok hw with ⟨_, _, hw⟩
        rw [← Except.ok.inj hw]
        rfl
  cases hc : c.impl.encoder with
  | none =>
      simp only [hc] at h
      rw [← Except.ok.inj h, halive]
  | some encoder =>
      simp only [hc] at h
      rcases bind_ok h with ⟨encoder', he, h⟩
      rcases useComponent_ok he with ⟨heq, _⟩
      rw [← Except.ok.inj h]
      refine (World.alive_destroyComponent_other fun hne => hg ?_).trans halive
      rw [hc, heq, hne]

/-- The port of the encoder that the object points to, if any, belongs to a
    component that was created, and perhaps destroyed since. -/
def StillCamera.Known (c : StillCamera) : Prop :=
  ∀ port ∈ c.impl.encoderOutputPort, port.component < c.world.nextComponent

theorem StillCamera.Known.mono {c c' : StillCamera} (h : c.Known)
    (hport : c'.impl.encoderOutputPort = c.impl.encoderOutputPort)
    (hnext : c.world.nextComponent ≤ c'.world.nextComponent) : c'.Known := by
  intro port hp
  rw [hport] at hp
  exact Nat.lt_of_lt_of_le (h port hp) hnext

theorem known_destroyCamera {c c' : StillCamera} (hk : c.Known) (h : destroyCamera c = .ok c') :
    c'.Known := hk.mono (by rw [destroyCamera_ok h]) (Nat.le_of_eq (destroyCamera_next h).symm)

theorem known_destroyEncoder {b : Bool} {c c' : StillCamera} (hk : c.Known)
    (h : destroyEncoder b c = .ok c') : c'.Known :=
  hk.mono (by rw [destroyEncoder_ok h]) (Nat.le_of_eq (destroyEncoder_next h).symm)

theorem known_commit {c c' : StillCamera} (hk : c.Known) (h : CommitResult c c') : c'.Known :=
  hk.mono (by rw [h.impl]) (Nat.le_of_eq h.next.symm)

/-- What setting up component `camera` makes of the object: it is there and its
    settings are committed, or it is gone. If the settings were committed the
    flag is cleared, even if it is gone. -/
structure CameraResult (o : InitOutcome) (camera : Handle) (c : StillCamera) (created : Bool)
    (c' : StillCamera) : Prop where
  isInitialized : c'.impl.isInitialized = c.impl.isInitialized
  gone : created = false → c'.impl.camera = none
  there : created = true → c'.impl.camera = some camera
  cameraOk : created = true → o.CameraOk
  settled : o.Commits → c'.impl.changedSettings = false
  alive : created = true → c'.world.alive camera = true
  pool : created = true → c'.impl.encoderPool = some c.world.nextPool
  pools : created = true → c'.world.pools = c.world.pools ++ [{ destroyed := 0 }]
  known : c.Known → c'.Known

theorem configureCamera_ok {o : InitOutcome} {r : SetResults} {camera : Handle}
    {c c' : StillCamera} {b : Bool} (hcreate : o.cameraCreate = true)
    (hcamera : c.impl.camera = some camera) (halive : c.world.alive camera = true)
    (h : configureCamera o r camera c = .ok (b, c')) : CameraResult o camera c b c' := by
  -- Every failing exit cleans up the camera, from whatever state `d` it is taken in.
  have hgone : ∀ {d : StillCamera}, giveUp destroyCamera d = .ok (b, c') →
      d.impl.isInitialized = c.impl.isInitialized →
      (o.Commits → d.impl.changedSettings = false) → (c.Known → d.Known) →
      CameraResult o camera c b c' := by
    intro d hg hd hflag hknown
    rcases giveUp_ok hg with ⟨rfl, hdestroy⟩
    have himpl := destroyCamera_ok hdestroy
    exact ⟨by rw [himpl]; exact hd, fun _ => by rw [himpl], nofun, nofun,
      fun ho => by rw [himpl]; exact hflag ho, nofun, nofun, nofun,
      fun hk => known_destroyCamera (hknown hk) hdestroy⟩
  unfold configureCamera at h
  by_cases h1 : o.cameraOutputs = false
  · rw [if_pos h1] at h
    exact hgone h rfl (fun ho => absurd (h1.symm.trans ho.cameraOutputs) nofun) id
  rw [if_neg h1] at h
  dsimp only at h
  by_cases h2 : o.controlEnable = false
  · rw [if_pos h2] at h
    exact hgone h rfl (fun ho => absurd (h2.symm.trans ho.controlEnable) nofun) id
  rw [if_neg h2] at h
  rw [Bool.not_eq_false] at h1 h2
  rcases bind_ok h with ⟨d, hd, h⟩
  -- The settings are committed here, so every later exit finds the flag cleared.
  have hcommit := commitParameters_ok hd
  have hinit : d.impl.isInitialized = c.impl.isInitialized := by rw [hcommit.impl]; rfl
  have hflag : d.impl.changedSettings = false := by rw [hcommit.impl]
  have hknown : c.Known → d.Known := by
    intro hk
    refine hk.mono (by rw [hcommit.impl]; rfl) (Nat.le_of_eq ?_)
    rw [hcommit.next]
    simp only [StillCamera.onWorld, StillCamera.onImpl, nextComponent_trySet,
      World.nextComponent_setPortEnabled]
  by_cases h3 : o.stillFormatCommit = false
  · rw [if_pos h3] at h
    exact hgone h hinit (fun _ => hflag) fun hk => (hknown hk).mono rfl (Nat.le_of_eq (by
      simp only [StillCamera.onWorld, World.nextComponent_writeFormat]))
  rw [if_neg h3] at h
  by_cases h4 : o.cameraEnable = false
  · rw [if_pos h4] at h
    exact hgone h hinit (fun _ => hflag) fun hk => (hknown hk).mono rfl (Nat.le_of_eq (by
      simp only [StillCamera.onWorld, World.nextComponent_writeFormat,
        World.nextComponent_commitFormat]))
  rw [if_neg h4] at h
  by_cases h5 : o.cameraPoolCreate = false
  · rw [if_pos h5] at h
    exact hgone h hinit (fun _ => hflag) fun hk => (hknown hk).mono rfl (Nat.le_of_eq (by
      simp only [StillCamera.onWorld, StillCamera.onImpl, World.nextComponent_writeFormat,
        World.nextComponent_commitFormat, World.nextComponent_setEnabled]))
  rw [if_neg h5] at h
  rw [Bool.not_eq_false] at h3 h4 h5
  rcases Prod.mk.inj (Except.ok.inj h) with ⟨rfl, rfl⟩
  refine ⟨hinit, nofun, fun _ => ?_, fun _ => ⟨⟨hcreate, h1, h2⟩, h3, h4, h5⟩, fun _ => hflag,
    fun _ => ?_,
    fun _ => ?_, fun _ => ?_, fun hk => (hknown hk).mono rfl (Nat.le_of_eq ?_)⟩
  · simp only [StillCamera.onWorld, hcommit.impl, StillCamera.onImpl, hcamera]
  · simp only [StillCamera.onWorld, World.alive_createPool, World.alive_setEnabled,
      World.alive_commitFormat, World.alive_writeFormat, hcommit.alive, alive_trySet,
      World.alive_setPortEnabled, StillCamera.onImpl, halive]
  · have hpools : d.world.pools = c.world.pools := by
      rw [hcommit.pools]
      simp only [StillCamera.onWorld, pools_trySet]
      rfl
    show some d.world.pools.length = some c.world.pools.length
    rw [hpools]
  · show d.world.pools ++ [_] = _
    rw [hcommit.pools]
    simp only [StillCamera.onWorld, pools_trySet]
    rfl
  · simp only [StillCamera.onWorld, World.nextComponent_writeFormat, World.nextComponent_createPool,
      World.nextComponent_commitFormat, World.nextComponent_setEnabled]

theorem createCamera_ok {o : InitOutcome} {r : SetResults} {c c' : StillCamera} {b : Bool}
    (h : createCamera o r c = .ok (b, c')) : CameraResult o c.world.nextComponent c b c' := by
  unfold createCamera at h
  by_cases hc : o.cameraCreate = false
  · rw [if_pos hc] at h
    rcases giveUp_ok h with ⟨rfl, hdestroy⟩
    have himpl := destroyCamera_ok hdestroy
    exact ⟨by rw [himpl]; rfl, fun _ => by rw [himpl], nofun, nofun,
      fun ho => absurd (hc.symm.trans ho.cameraCreate) nofun, nofun, nofun, nofun,
      fun hk => known_destroyCamera (c := c.onImpl fun p => { p with camera := none }) hk hdestroy⟩
  · rw [if_neg hc] at h
    rw [Bool.not_eq_false] at hc
    have hres := configureCamera_ok hc (by rfl) (World.alive_createComponent_new _ _ _) h
    refine ⟨hres.isInitialized, hres.gone, hres.there, hres.cameraOk, hres.settled, hres.alive,
      hres.pool, hres.pools, fun hk => hres.known (hk.mono rfl ?_)⟩
    rw [World.nextComponent_createComponent]
    exact Nat.le_succ _

/-- What setting up component `encoder` makes of the object: it is there, was
    told nothing but its format, and the other components still are, too. -/
structure EncoderResult (encoder : Handle) (c : StillCamera) (created : Bool) (c' : StillCamera) :
    Prop where
  isInitialized : c'.impl.isInitialized = c.impl.isInitialized
  changedSettings : c'.impl.changedSettings = c.impl.changedSettings
  camera : c'.impl.camera = c.impl.camera
  there : created = true → c'.impl.encoder = some encoder
  untold : created = true → c'.world.At encoder fun k =>
    k.destroyed = 0 ∧ k.params (.output 0) .jpegQFactor = none
  alive : ∀ g, g ≠ encoder → c.world.alive g = true → c'.world.alive g = true
  pool : created = true → c'.impl.encoderPool = some c.world.nextPool
  pools : created = true → c'.world.pools = c.world.pools ++ [{ destroyed := 0 }]
  known : c.Known → c'.Known

theorem configureEncoder_ok {o : InitOutcome} {encoder : Handle} {c c' : StillCamera} {b : Bool}
    (hencoder : c.impl.encoder = some encoder)
    (huntold : c.world.At encoder fun k =>
      k.destroyed = 0 ∧ k.params (.output 0) .jpegQFactor = none)
    (h : configureEncoder o encoder c = .ok (b, c')) : EncoderResult encoder c b c' := by
  have hgone : ∀ {d : StillCamera}, giveUp (destroyEncoder o.encoderOutputs) d = .ok (b, c') →
      d.impl.isInitialized = c.impl.isInitialized ∧
        d.impl.changedSettings = c.impl.changedSettings ∧ d.impl.camera = c.impl.camera →
      (c.Known → d.Known) → d.impl.encoder = c.impl.encoder ∧
        (∀ g, d.world.alive g = c.world.alive g) → EncoderResult encoder c b c' := by
    intro d hg hd hknown halive
    rcases giveUp_ok hg with ⟨rfl, hdestroy⟩
    have himpl := destroyEncoder_ok hdestroy
    refine ⟨by rw [himpl]; exact hd.1, by rw [himpl]; exact hd.2.1, by rw [himpl]; exact hd.2.2,
      nofun, nofun, fun g hne hg => ?_, nofun, nofun,
      fun hk => known_destroyEncoder (hknown hk) hdestroy⟩
    rw [destroyEncoder_alive hdestroy, halive.2, hg]
    rw [halive.1, hencoder]
    exact fun heq => hne (Option.some.inj heq).symm
  -- Past the first exit the object points to the port of the new encoder, also where the
  -- encoder is destroyed again.
  have hport : ∀ {d : StillCamera}, d.impl.encoderOutputPort = some ⟨encoder, .output 0⟩ →
      d.world.nextComponent = c.world.nextComponent → d.Known := by
    intro d hd hnext port hp
    rw [hd, Option.mem_some_iff] at hp
    rw [← hp, hnext]
    exact huntold.lt
  unfold configureEncoder at h
  by_cases h1 : o.encoderInputs = false ∨ o.encoderOutputs = false
  · rw [if_pos h1] at h
    exact hgone h ⟨rfl, rfl, rfl⟩ id ⟨rfl, fun _ => rfl⟩
  rw [if_neg h1] at h
  dsimp only at h
  by_cases h2 : o.encoderFormatCommit = false
  · rw [if_pos h2] at h
    refine hgone h ⟨rfl, rfl, rfl⟩ (fun _ => hport rfl ?_) ⟨rfl, fun g => ?_⟩
    · simp only [StillCamera.onWorld, StillCamera.onImpl, World.nextComponent_writeFormat]
    · simp only [StillCamera.onWorld, StillCamera.onImpl, World.alive_writeFormat]
  rw [if_neg h2] at h
  by_cases h3 : o.encoderEnable = false
  · rw [if_pos h3] at h
    refine hgone h ⟨rfl, rfl, rfl⟩ (fun _ => hport rfl ?_) ⟨rfl, fun g => ?_⟩
    · simp only [StillCamera.onWorld, StillCamera.onImpl, World.nextComponent_writeFormat,
        World.nextComponent_commitFormat]
    · simp only [StillCamera.onWorld, StillCamera.onImpl, World.alive_writeFormat,
        World.alive_commitFormat]
  rw [if_neg h3] at h
  by_cases h4 : o.encoderPoolCreate = false
  · rw [if_pos h4] at h
    refine hgone h ⟨rfl, rfl, rfl⟩ (fun _ => hport rfl ?_) ⟨rfl, fun g => ?_⟩
    · simp only [StillCamera.onWorld, StillCamera.onImpl, World.nextComponent_writeFormat,
        World.nextComponent_commitFormat, World.nextComponent_setEnabled]
    · simp only [StillCamera.onWorld, StillCamera.onImpl, World.alive_writeFormat,
        World.alive_commitFormat, World.alive_setEnabled]
  rw [if_neg h4] at h
  rcases Prod.mk.inj (Except.ok.inj h) with ⟨rfl, rfl⟩
  refine ⟨rfl, rfl, rfl, fun _ => hencoder, fun _ => ?_, fun g _ hg => ?_, fun _ => rfl,
    fun _ => rfl, fun _ => hport rfl ?_⟩
  · simp only [StillCamera.onWorld, World.at_createPool, World.at_setEnabled,
      World.at_commitFormat, World.at_writeFormat]
    exact huntold
  · simp only [StillCamera.onWorld, World.alive_createPool, World.alive_setEnabled,
      World.alive_commitFormat, World.alive_writeFormat]
    exact hg
  · simp only [StillCamera.onWorld, StillCamera.onImpl, World.nextComponent_writeFormat,
      World.nextComponent_commitFormat, World.nextComponent_setEnabled,
      World.nextComponent_createPool]

theorem createEncoder_ok {o : InitOutcome} {c c' : StillCamera} {b : Bool}
    (h : createEncoder o c = .ok (b, c')) : EncoderResult c.world.nextComponent c b c' := by
  unfold createEncoder at h
  by_cases hc : o.encoderCreate = false
  · rw [if_pos hc] at h
    rcases giveUp_ok h with ⟨rfl, hdestroy⟩
    have himpl := destroyEncoder_ok hdestroy
    -- No encoder is there to destroy, but a pool may be.
    refine ⟨by rw [himpl]; rfl, by rw [himpl]; rfl, by rw [himpl]; rfl, nofun, nofun,
      fun g _ hg => ?_, nofun, nofun, fun hk =>
        known_destroyEncoder (c := c.onImpl fun p => { p with encoder := none }) hk hdestroy⟩
    rw [destroyEncoder_alive hdestroy nofun]
    exact hg
  · rw [if_neg hc] at h
    have hres := configureEncoder_ok (by rfl)
      ((World.at_createComponent c.world _ _ _).mpr ⟨rfl, rfl⟩) h
    refine ⟨hres.isInitialized, hres.changedSettings, hres.camera, hres.there, hres.untold,
      fun g hne hg => hres.alive g hne (World.alive_createComponent_old hg _ _), hres.pool,
      hres.pools, fun hk => hres.known (hk.mono rfl ?_)⟩
    rw [World.nextComponent_createComponent]
    exact Nat.le_succ _

/-- The object refers to camera `h` and to encoder `e`, to their ports and to a
    pool, and all of these are alive. -/
structure Attached (c : StillCamera) (h e : Handle) : Prop where
  camera : c.impl.camera = some h
  encoder : c.impl.encoder = some e
  cameraStillPort : c.impl.cameraStillPort = some ⟨h, cameraCapturePort⟩
  encoderOutputPort : c.impl.encoderOutputPort = some ⟨e, .output 0⟩
  cameraAlive : c.world.alive h = true
  encoderAlive : c.world.alive e = true
  distinct : e ≠ h
  pool : ∃ k, c.impl.encoderPool = some k ∧ c.world.poolAlive k = true

/-- The camera and the encoder were just set up: the settings were committed
    before there was an encoder, and it was never told a quality. -/
def JustSetUp (c : StillCamera) : Prop :=
  ∃ h e, Attached c h e ∧ c.impl.changedSettings = false ∧
    c.world.param e (.output 0) .jpegQFactor = none

/-- Connecting the two decides whether the object is initialized, and changes
    neither component. -/
structure ConnectResult (c : StillCamera) (connected : Bool) (c' : StillCamera) : Prop where
  attached : ∃ h e, Attached c' h e ∧ c.impl.camera = some h ∧ c.impl.encoder = some e
  isInitialized : c'.impl.isInitialized = connected
  changedSettings : c'.impl.changedSettings = c.impl.changedSettings
  components : c'.world.components = c.world.components
  pools : c'.world.pools = c.world.pools

theorem connectEncoder_ok {o : InitOutcome} {c c' : StillCamera} {b : Bool}
    (hinit : c.impl.isInitialized = false)
    (hdistinct : ∀ g k, c.impl.camera = some g → c.impl.encoder = some k → k ≠ g)
    (hpool : ∃ k, c.impl.encoderPool = some k ∧ c.world.poolAlive k = true)
    (h : connectEncoder o c = .ok (b, c')) : ConnectResult c b c' := by
  rcases bind_ok h with ⟨camera, hcamera, h⟩
  rcases bind_ok h with ⟨encoder, hencoder, h⟩
  rcases useComponent_ok hcamera with ⟨hcamera, hca⟩
  rcases useComponent_ok hencoder with ⟨hencoder, hea⟩
  dsimp only at h
  -- A failing connection is destroyed again, but neither component is.
  by_cases h1 : o.connectionCreate = false
  · simp only [connectPorts, if_pos h1] at h
    rcases Prod.mk.inj (Except.ok.inj h) with ⟨rfl, rfl⟩
    exact ⟨⟨camera, encoder, ⟨hcamera, hencoder, rfl, rfl, hca, hea,
      hdistinct camera encoder hcamera hencoder, hpool⟩, hcamera, hencoder⟩, hinit,
      rfl, rfl, rfl⟩
  by_cases h2 : o.connectionEnable = false
  · simp only [connectPorts, if_neg h1, if_pos h2] at h
    rcases Prod.mk.inj (Except.ok.inj h) with ⟨rfl, rfl⟩
    exact ⟨⟨camera, encoder, ⟨hcamera, hencoder, rfl, rfl, hca, hea,
      hdistinct camera encoder hcamera hencoder, hpool⟩, hcamera, hencoder⟩, hinit,
      rfl, rfl, rfl⟩
  · simp only [connectPorts, if_neg h1, if_neg h2] at h
    rcases Prod.mk.inj (Except.ok.inj h) with ⟨rfl, rfl⟩
    exact ⟨⟨camera, encoder, ⟨hcamera, hencoder, rfl, rfl, hca, hea,
      hdistinct camera encoder hcamera hencoder, hpool⟩, hcamera, hencoder⟩, rfl,
      rfl, rfl, rfl⟩

theorem Attached.known {c : StillCamera} {h e : Handle} (ha : Attached c h e) : c.Known := by
  intro port hp
  rw [ha.encoderOutputPort, Option.mem_some_iff] at hp
  rw [← hp]
  exact World.alive_lt ha.encoderAlive

/-- What initializing leaves behind: no camera, or a camera and an encoder
    that were just set up. If it got to commit the settings, the flag is
    cleared, whether or not it succeeded; and if it succeeded, it has created
    two pools. -/
structure InitializeResult (o : InitOutcome) (c : StillCamera) (b : Bool) (c' : StillCamera) :
    Prop where
  isInitialized : c'.impl.isInitialized = b
  setUp : (b = false ∧ c'.impl.camera = none) ∨ JustSetUp c'
  settled : o.Commits → c'.impl.changedSettings = false
  commits : b = true → o.Commits
  pools : b = true →
    c'.world.pools = c.world.pools ++ [{ destroyed := 0 }] ++ [{ destroyed := 0 }]
  known : c.Known → c'.Known

theorem initializeCamera_ok {o : InitOutcome} {r : SetResults} {c c' : StillCamera} {b : Bool}
    (hinit : c.impl.isInitialized = false) (h : initializeCamera o r c = .ok (b, c')) :
    InitializeResult o c b c' := by
  unfold initializeCamera at h
  rw [if_neg (by rw [hinit]; exact Bool.false_ne_true)] at h
  rcases bind_ok h with ⟨⟨created, d⟩, hd, h⟩
  have hcamera := createCamera_ok hd
  dsimp only at h
  by_cases h1 : created = false
  · rw [if_pos h1] at h
    rcases giveUp_ok h with ⟨rfl, hdestroy⟩
    have himpl := destroyCamera_ok hdestroy
    exact ⟨by rw [himpl]; exact hcamera.isInitialized.trans hinit, Or.inl ⟨rfl, by rw [himpl]⟩,
      fun ho => by rw [himpl]; exact hcamera.settled ho, nofun, nofun,
      fun hk => known_destroyCamera (hcamera.known hk) hdestroy⟩
  rw [if_neg h1] at h
  rw [Bool.not_eq_false] at h1
  rcases bind_ok h with ⟨⟨created', e⟩, he, h⟩
  have hencoder := createEncoder_ok he
  have hinit' : e.impl.isInitialized = false :=
    hencoder.isInitialized.trans (hcamera.isInitialized.trans hinit)
  have hflag : e.impl.changedSettings = false :=
    hencoder.changedSettings.trans (hcamera.settled (hcamera.cameraOk h1).commits)
  dsimp only at h
  by_cases h2 : created' = false
  · rw [if_pos h2] at h
    rcases giveUp_ok h with ⟨rfl, hdestroy⟩
    have himpl := destroyCamera_ok hdestroy
    exact ⟨by rw [himpl]; exact hinit', Or.inl ⟨rfl, by rw [himpl]⟩,
      fun _ => by rw [himpl]; exact hflag, nofun, nofun,
      fun hk => known_destroyCamera (hencoder.known (hcamera.known hk)) hdestroy⟩
  rw [if_neg h2] at h
  rw [Bool.not_eq_false] at h2
  have hpool : e.world.poolAlive d.world.nextPool = true := by
    rw [World.poolAlive, hencoder.pools h2, World.nextPool, List.getElem?_concat_length]
    rfl
  -- The camera was created first, so the encoder has the larger handle.
  have hdistinct : ∀ g k, e.impl.camera = some g → e.impl.encoder = some k → k ≠ g := by
    intro g k hg hk
    rw [hencoder.camera, hcamera.there h1, Option.some.injEq] at hg
    rw [hencoder.there h2, Option.some.injEq] at hk
    rw [← hg, ← hk]
    exact Nat.ne_of_gt (World.alive_lt (hcamera.alive h1))
  have hconnect := connectEncoder_ok hinit' hdistinct ⟨_, hencoder.pool h2, hpool⟩ h
  rcases hconnect.attached with ⟨g, k, hattached, _, hk⟩
  have hflag' := hconnect.changedSettings.trans hflag
  refine ⟨hconnect.isInitialized, Or.inr ⟨g, k, hattached, hflag', ?_⟩, fun _ => hflag',
    fun _ => (hcamera.cameraOk h1).commits, fun _ => ?_, fun _ => hattached.known⟩
  · have hsame : k = d.world.nextComponent := Option.some.inj (hk.symm.trans (hencoder.there h2))
    have huntold := (hencoder.untold h2).mono fun _ hk => hk.2
    rw [hsame]
    rw [← World.param_of_at huntold]
    simp only [World.param, hconnect.components]
  · rw [hconnect.pools, hencoder.pools h2, hcamera.pools h1]

/-- Nothing changed but which ports are enabled, their user data, and whether
    a capture was asked for. -/
structure StillCamera.SameDevice (c c' : StillCamera) : Prop where
  impl : c'.impl = c.impl
  alive : ∀ h, c'.world.alive h = c.world.alive h
  param : ∀ h p i, i ≠ .capture → c'.world.param h p i = c.world.param h p i
  committed : ∀ h p, c'.world.committed h p = c.world.committed h p
  pools : c'.world.pools = c.world.pools
  next : c'.world.nextComponent = c.world.nextComponent

theorem StillCamera.SameDevice.refl (c : StillCamera) : c.SameDevice c :=
  ⟨rfl, fun _ => rfl, fun _ _ _ _ => rfl, fun _ _ => rfl, rfl, rfl⟩

theorem StillCamera.SameDevice.trans {c d e : StillCamera} (h : c.SameDevice d)
    (h' : d.SameDevice e) : c.SameDevice e where
  impl := h'.impl.trans h.impl
  alive := fun g => (h'.alive g).trans (h.alive g)
  param := fun g p i hi => (h'.param g p i hi).trans (h.param g p i hi)
  committed := fun g p => (h'.committed g p).trans (h.committed g p)
  pools := h'.pools.trans h.pools
  next := h'.next.trans h.next

theorem Attached.sameDevice {c c' : StillCamera} {h e : Handle} (ha : Attached c h e)
    (hs : c.SameDevice c') : Attached c' h e where
  camera := by rw [hs.impl, ha.camera]
  encoder := by rw [hs.impl, ha.encoder]
  cameraStillPort := by rw [hs.impl, ha.cameraStillPort]
  encoderOutputPort := by rw [hs.impl, ha.encoderOutputPort]
  cameraAlive := by rw [hs.alive, ha.cameraAlive]
  encoderAlive := by rw [hs.alive, ha.encoderAlive]
  distinct := ha.distinct
  pool := by
    rcases ha.pool with ⟨k, hk, hp⟩
    exact ⟨k, by rw [hs.impl, hk], by rw [World.poolAlive_congr hs.pools, hp]⟩

/-- Committing settings leaves the object attached, and so does a setter. -/
theorem Attached.commit {c c' : StillCamera} {h e : Handle} (ha : Attached c h e)
    (hc : CommitResult c c') : Attached c' h e where
  camera := by rw [hc.impl]; exact ha.camera
  encoder := by rw [hc.impl]; exact ha.encoder
  cameraStillPort := by rw [hc.impl]; exact ha.cameraStillPort
  encoderOutputPort := by rw [hc.impl]; exact ha.encoderOutputPort
  cameraAlive := by rw [hc.alive, ha.cameraAlive]
  encoderAlive := by rw [hc.alive, ha.encoderAlive]
  distinct := ha.distinct
  pool := by
    rcases ha.pool with ⟨k, hk, hp⟩
    exact ⟨k, by rw [hc.impl]; exact hk, by rw [World.poolAlive_congr hc.pools, hp]⟩

theorem Attached.set {c : StillCamera} {f : PrivateImplStill → PrivateImplStill} {h e : Handle}
    (ha : Attached c h e) (hs : c.impl.SameObjects (f c.impl)) : Attached (c.onImpl f) h e where
  camera := hs.camera.trans ha.camera
  encoder := hs.encoder.trans ha.encoder
  cameraStillPort := hs.cameraStillPort.trans ha.cameraStillPort
  encoderOutputPort := hs.encoderOutputPort.trans ha.encoderOutputPort
  cameraAlive := ha.cameraAlive
  encoderAlive := ha.encoderAlive
  distinct := ha.distinct
  pool := by
    rcases ha.pool with ⟨k, hk, hp⟩
    exact ⟨k, hs.encoderPool.trans hk, hp⟩

/-- A change to a component that is neither of its parameters nor of its
    formats. -/
theorem sameDevice_modify (c : StillCamera) (h : Handle) {f : Component → Component}
    (hf : ∀ k, (f k).destroyed = k.destroyed ∧ (f k).params = k.params ∧
      (f k).committed = k.committed) : c.SameDevice (c.onWorld fun w => w.modify h f) where
  impl := rfl
  alive := fun g => c.world.alive_modify h g f fun k => (hf k).1
  param := fun g p i _ => c.world.param_modify h g p i f fun k => (hf k).2.1
  committed := fun g p => c.world.committed_modify h g p f fun k => (hf k).2.2
  pools := rfl
  next := c.world.nextComponent_modify h f

theorem sameDevice_setPortEnabled (c : StillCamera) (h : Handle) (p : PortId) (b : Bool) :
    c.SameDevice (c.onWorld fun w => w.setPortEnabled h p b) :=
  sameDevice_modify c h fun _ => ⟨rfl, rfl, rfl⟩

theorem sameDevice_setUserdata (c : StillCamera) (h : Handle) (p : PortId) (u : Option Nat) :
    c.SameDevice (c.onWorld fun w => w.setUserdata h p u) :=
  sameDevice_modify c h fun _ => ⟨rfl, rfl, rfl⟩

/-- What starting a capture changes, besides committing the settings. -/
theorem startCapture_ok {enabled : Bool} {r : SetResults} {c c' : StillCamera} {b : Bool}
    (h : startCapture enabled r c = .ok (b, c')) :
    ∃ d, commitParameters r c = .ok d ∧ d.SameDevice c' := by
  rcases bind_ok h with ⟨d, hd, h⟩
  refine ⟨d, hd, ?_⟩
  rcases bind_ok h with ⟨port, _, h⟩
  by_cases h1 : d.world.portEnabled port.component port.port = true
  · rw [if_pos h1] at h
    rw [← (Prod.mk.inj (Except.ok.inj h)).2]
    exact .refl d
  rw [if_neg h1] at h
  by_cases h2 : enabled = false
  · rw [if_pos h2] at h
    rw [← (Prod.mk.inj (Except.ok.inj h)).2]
    exact .refl d
  rw [if_neg h2] at h
  rcases bind_ok h with ⟨pool, _, h⟩
  rcases bind_ok h with ⟨⟨captured, w⟩, hw, h⟩
  rw [← (Prod.mk.inj (Except.ok.inj h)).2]
  -- Past the two early exits the port is enabled, and only the CAPTURE parameter is set.
  have henable := sameDevice_setPortEnabled d port.component port.port true
  rcases setOn_ok hw with rfl | ⟨p, _, _, rfl⟩
  · exact henable
  · refine henable.trans ⟨rfl, fun g => World.alive_setParam _ _ _ _ _, fun g p' i hi => ?_,
      fun g p' => World.committed_modify _ _ _ _ _ fun _ => rfl, rfl,
      World.nextComponent_setParam _ _ _ _⟩
    exact World.param_setParam_other fun hc => hi hc.2.2

theorem stopCapture_ok {disabled : Bool} {c c' : StillCamera}
    (h : stopCapture disabled c = .ok c') :
    c.SameDevice c' := by
  rcases bind_ok h with ⟨port, _, h⟩
  by_cases h1 : (c.world.portEnabled port.component port.port && disabled) = true
  · rw [if_pos h1] at h
    rw [← Except.ok.inj h]
    exact sameDevice_setPortEnabled c port.component port.port false
  · rw [if_neg h1] at h
    rw [← Except.ok.inj h]
    exact .refl c

/-- Taking a picture initializes, commits, and leaves the rest as it is. -/
theorem takePicture_ok {o : InitOutcome} {q : PictureOutcome} {r : SetResults}
    {c c' : StillCamera} {b : Bool} (h : takePicture o q r c = .ok (b, c')) :
    ∃ initialized c₁ c₂ c₃, initializeCamera o r c = .ok (initialized, c₁) ∧ c₁.SameDevice c₂ ∧
      commitParameters r c₂ = .ok c₃ ∧ c₃.SameDevice c' := by
  rcases bind_ok h with ⟨⟨initialized, c₁⟩, hinit, h⟩
  rcases bind_ok h with ⟨port, _, h⟩
  rcases bind_ok h with ⟨⟨started, d⟩, hd, h⟩
  rcases startCapture_ok hd with ⟨c₃, hcommit, hsame⟩
  refine ⟨initialized, c₁, _, c₃, hinit, ?_, hcommit, ?_⟩
  · exact sameDevice_setUserdata c₁ port.component port.port (some q.userdata)
  -- When the capture cannot be started, `stopCapture` is not called.
  · by_cases hs : started = false
    · simp only [if_pos hs] at h
      rw [← (Prod.mk.inj (Except.ok.inj h)).2]
      exact hsame
    · simp only [if_neg hs] at h
      rcases bind_ok h with ⟨e, he, h⟩
      rw [← (Prod.mk.inj (Except.ok.inj h)).2]
      exact hsame.trans (stopCapture_ok he)

end Still

end RaspiCam
