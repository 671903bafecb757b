import RaspiCam.Still.Calls

/-!
# Is Initializing All or Nothing?

Either `initialize` returns 0 and the object refers to one camera, one
encoder, one pool and one enabled connection, which are all there is; or it
returns -1, has destroyed everything it created, and a later attempt gives the
device the configuration a first one would have given it.

The first part never holds: the pool of the camera and the pool of the encoder
are kept in the same member, so a successful call leaves a pool behind that
nothing refers to. The second part depends on how far the call got. Once the
settings were committed the flag says that there is nothing to commit, and a
later attempt creates a camera that is told nothing. Before that, all is well
(`allOrNothing_iff`), as long as the settings were not committed to an earlier
camera, and the object does not point to the port of an encoder that is gone.

## Main definitions

* `Configuration`: What the components and the connection of an object are
  set to.
* `Acquired`, `Released`: The two good ends.
* `SameAsFirst`: A retry is as good as a first attempt.
* `AllOrNothing`: The whole contract.
* `configuredCamera`, `configuredEncoder`: The components after every call
  succeeded.

## Theorems

* `initializeCamera_allOk`: An attempt on which every call succeeds.
* `initializeCamera_early`: An attempt that fails before the settings are
  committed.
* `SameAsFirst.committable`, `sameAsFirst_of`: When a retry is as good as a
  first attempt.
* `allOrNothing_iff`: When the contract holds.
* `pool_left_behind`: A success that leaves a pool behind.
-/

namespace RaspiCam

open Mmal Machine Transition

namespace Still

/-- What the device is set to, as far as the object refers to it. -/
structure Configuration where
  camera : Option Component
  encoder : Option Component
  connection : Option Connection

/-- The configuration of the objects that a still camera refers to. -/
def configuration (c : StillCamera) : Configuration where
  camera := c.impl.camera.bind fun h => c.world.components[h]?
  encoder := c.impl.encoder.bind fun h => c.world.components[h]?
  connection := c.impl.encoderConnection.bind fun h => c.world.connections[h]?

/-- One camera, one encoder, one pool and one enabled connection are live, and
    the object refers to them. -/
structure Acquired (c : StillCamera) : Prop where
  camera : ∃ h, c.impl.camera = some h ∧
    ∀ g, c.world.At g (fun k => k.kind = .camera ∧ k.destroyed = 0) ↔ g = h
  encoder : ∃ h, c.impl.encoder = some h ∧
    ∀ g, c.world.At g (fun k => k.kind = .imageEncoder ∧ k.destroyed = 0) ↔ g = h
  pool : ∃ h, c.impl.encoderPool = some h ∧ ∀ g, c.world.poolAlive g = true ↔ g = h
  connection : ∃ h, c.impl.encoderConnection = some h ∧
    ∀ g, (∃ k, c.world.connections[g]? = some k ∧ k.enabled = true ∧ k.destroyed = 0) ↔ g = h

/-- Everything that was created in between was destroyed exactly once. -/
structure Released (c c' : StillCamera) : Prop where
  components : ∀ g k, c'.world.components[g]? = some k → c.world.nextComponent ≤ g →
    k.destroyed = 1
  pools : ∀ g k, c'.world.pools[g]? = some k → c.world.nextPool ≤ g → k.destroyed = 1
  connections : ∀ g k, c'.world.connections[g]? = some k → c.world.nextConnection ≤ g →
    k.destroyed = 1

/-- A fresh object with the same settings. -/
def PrivateImplStill.anew (p : PrivateImplStill) : PrivateImplStill :=
  { p with
    camera := none
    encoder := none
    encoderConnection := none
    encoderPool := none
    cameraStillPort := none
    encoderInputPort := none
    encoderOutputPort := none
    changedSettings := true
    isInitialized := false }

/-- An attempt from `c'` on which every call succeeds configures the device as
    a first attempt with the settings of `c` does. -/
def SameAsFirst (c c' : StillCamera) : Prop :=
  ∀ (o : InitOutcome) (r : SetResults), o.AllOk → r.AllOk → ∃ d d',
    initializeCamera o r c' = .ok (true, d) ∧
    initializeCamera o r ⟨c.impl.anew, World.empty⟩ = .ok (true, d') ∧
    configuration d = configuration d'

/-- Initializing is all or nothing, and follows no pointer that is null or
    refers to something that was destroyed. -/
def AllOrNothing (o : InitOutcome) (r : SetResults) (c : StillCamera) : Prop :=
  match initializeCamera o r c with
  | .error _ => False
  | .ok (true, c') => Acquired c'
  | .ok (false, c') => Released c c' ∧ SameAsFirst c c'

/-- The camera after every call succeeded. -/
def configuredCamera (o : InitOutcome) (p : PrivateImplStill) : Component :=
  let k := Component.created .camera o.cameraFormats
  let k := { k with portEnabled := fun q => if q = PortId.control then true else k.portEnabled q }
  let k := k.accept [(.control, .cameraConfig (cameraConfig p))]
  let k := if p.changedSettings then k.accept (cameraParams p) else k
  let k := { k with format := fun q : PortId =>
    if q = cameraCapturePort then stillFormat p (k.format cameraCapturePort) else k.format q }
  let k := { k with committed := fun q : PortId =>
    if q = cameraCapturePort then some (k.format cameraCapturePort) else k.committed q }
  { k with enabled := true }

/-- The encoder after every call succeeded. -/
def configuredEncoder (o : InitOutcome) (p : PrivateImplStill) : Component :=
  let k := Component.created .imageEncoder o.encoderFormats
  let f := { o.encoderFormats (.input 0) with encoding := convertEncoding p.encoding }
  { k with
    format := fun q => if q = .output 0 then f else k.format q
    committed := fun q => if q = .output 0 then some f else k.committed q
    enabled := true }

/-- Committing the encoding when everything is accepted concerns no component
    but the one the port belongs to. -/
theorem commitEncoding_allOk {p : PrivateImplStill} {r : SetResults} {w : World} (hr : r.AllOk)
    (hport : ∀ port ∈ p.encoderOutputPort, w.alive port.component = true) :
    ∃ w', commitEncoding p r w = .ok w' ∧
      ∀ h P, (∀ port ∈ p.encoderOutputPort, port.component ≠ h) → (w'.At h P ↔ w.At h P) := by
  unfold commitEncoding
  cases hp : p.encoderOutputPort with
  | none => exact ⟨w, rfl, fun _ _ _ => Iff.rfl⟩
  | some port =>
      rw [hp] at hport
      simp only [usePort, hport port rfl, if_true, ok_bind]
      refine ⟨_, rfl, fun h P hne => ?_⟩
      have hne := hne port rfl
      rw [hr.2]
      exact (World.at_modify_other hne _ _).trans (World.at_modify_other hne _ _)

/-- The component of a camera after its settings were committed, or were not
    because nothing had changed. -/
theorem commitParameters_at {r : SetResults} {c : StillCamera} {h : Handle} (hr : r.AllOk)
    (hcamera : c.impl.camera = some h) (ha : c.world.alive h = true)
    (hport : c.impl.changedSettings = true → ∀ port ∈ c.impl.encoderOutputPort,
      c.world.alive port.component = true ∧ port.component ≠ h) :
    ∃ d, commitParameters r c = .ok d ∧ ∀ P, d.world.At h P ↔ c.world.At h fun k =>
      P (if c.impl.changedSettings then k.accept (cameraParams c.impl) else k) := by
  by_cases hflag : c.impl.changedSettings = true
  · have hport := hport hflag
    rw [commitParameters_allOk hr hflag hcamera ha fun port hp => (hport port hp).1]
    rcases commitEncoding_allOk (p := c.impl) (w := c.world.sent (committedParams h c.impl)) hr
      (fun port hp => by rw [World.alive_sent, (hport port hp).1]) with ⟨w', hw', hat⟩
    refine ⟨⟨{ c.impl with changedSettings := false }, w'⟩, by rw [hw']; rfl, fun P => ?_⟩
    rw [hat h P fun port hp => (hport port hp).2]
    simp only [hflag, if_true, committedParams, World.sent_append]
    -- The quality goes to the encoder, another component.
    have hencoder : ∀ (w : World) Q, (w.sent (encoderParams c.impl)).At h Q ↔ w.At h Q := by
      intro w Q
      unfold encoderParams
      cases hp : c.impl.encoderOutputPort with
      | none => exact Iff.rfl
      | some port => exact World.at_modify_other (hport port hp).2 _ _
    rw [World.at_sent, hencoder, World.at_sent]
    simp only [cameraParams, Component.accept, List.foldl_append]
  · rw [Bool.not_eq_true] at hflag
    refine ⟨c, commitParameters_unchanged hflag, fun P => ?_⟩
    simp only [hflag, Bool.false_eq_true, if_false]

theorem configureCamera_allOk {o : InitOutcome} {r : SetResults} {camera : Handle} {c : StillCamera}
    (ho : o.AllOk) (hr : r.AllOk) (hcamera : c.impl.camera = some camera)
    (hat : c.world.At camera fun k => k = .created .camera o.cameraFormats)
    (hport : c.impl.changedSettings = true → ∀ port ∈ c.impl.encoderOutputPort,
      c.world.alive port.component = true ∧ port.component ≠ camera) :
    ∃ d, configureCamera o r camera c = .ok (true, d) ∧ d.impl.anew = c.impl.anew ∧
      d.world.At camera fun k => k = configuredCamera o c.impl := by
  have halive : c.world.alive camera = true :=
    (World.alive_iff_at _ _).mpr (hat.mono fun k hk => by rw [hk]; rfl)
  let c₁ : StillCamera :=
    ⟨{ c.impl with cameraStillPort := some ⟨camera, cameraCapturePort⟩ },
      trySet camera .control (.cameraConfig (cameraConfig c.impl)) r
        (c.world.setPortEnabled camera .control true)⟩
  have halive₁ : ∀ g, c₁.world.alive g = c.world.alive g := by
    intro g
    rw [alive_trySet, World.alive_setPortEnabled]
  have hat₁ : c₁.world.At camera fun k => k = Component.accept
      { Component.created .camera o.cameraFormats with portEnabled := fun q => if q = .control then
          true else false } [(.control, .cameraConfig (cameraConfig c.impl))] := by
    simp only [c₁]
    rw [trySet_allOk hr.paramsOk, World.at_setParam, World.at_setPortEnabled]
    exact hat.mono fun k hk => by rw [hk]; rfl
  rcases commitParameters_at (c := c₁) hr hcamera ((halive₁ _).trans halive)
    (fun hflag port hp => ⟨(halive₁ _).trans (hport hflag port hp).1, (hport hflag port hp).2⟩) with
    ⟨d, hd, hatd⟩
  have hconfig : configureCamera o r camera c = (commitParameters r c₁ >>= fun d =>
      .ok (true, ⟨{ d.impl with encoderPool := some d.world.nextPool },
        ((((d.world.writeFormat camera cameraCapturePort (stillFormat d.impl)).commitFormat
          camera cameraCapturePort true).setEnabled camera true).createPool)⟩)) := by
    simp only [configureCamera, ho.cameraOutputs, ho.controlEnable, ho.stillFormatCommit,
      ho.cameraEnable, ho.cameraPoolCreate, Bool.true_eq_false, if_false]
    rfl
  rw [hconfig, hd, ok_bind]
  refine ⟨_, rfl, ?_, ?_⟩
  · rw [(commitParameters_ok hd).impl]
    rfl
  · rw [(commitParameters_ok hd).impl, World.at_createPool, World.at_setEnabled,
      World.at_commitFormat, World.at_writeFormat, hatd]
    exact hat₁.mono fun k hk => by rw [hk]; rfl

theorem createCamera_allOk {o : InitOutcome} {r : SetResults} {c : StillCamera} (ho : o.AllOk)
    (hr : r.AllOk) (hport : c.impl.changedSettings = true →
      ∀ port ∈ c.impl.encoderOutputPort, c.world.alive port.component = true) :
    ∃ d, createCamera o r c = .ok (true, d) ∧ d.impl.anew = c.impl.anew ∧
      d.world.At c.world.nextComponent fun k => k = configuredCamera o c.impl := by
  have hnew := (World.at_createComponent c.world .camera o.cameraFormats
    fun k => k = .created .camera o.cameraFormats).mpr rfl
  rcases configureCamera_allOk (c := ⟨{ c.impl with camera := some c.world.nextComponent },
    c.world.createComponent .camera o.cameraFormats⟩) ho hr rfl hnew (fun hflag port hp =>
      ⟨World.alive_createComponent_old (hport hflag port hp) _ _,
        Nat.ne_of_lt (World.alive_lt (hport hflag port hp))⟩) with ⟨d, hd, hanew, hat⟩
  refine ⟨d, ?_, hanew, hat⟩
  rw [createCamera, if_neg (by rw [ho.cameraCreate]; decide), hd]

theorem createEncoder_allOk {o : InitOutcome} {c : StillCamera} (ho : o.AllOk) :
    ∃ d, createEncoder o c = .ok (true, d) ∧ d.impl.anew = c.impl.anew ∧
      (d.world.At c.world.nextComponent fun k => k = configuredEncoder o c.impl) ∧
      ∀ h P, c.world.At h P → d.world.At h P := by
  simp only [createEncoder, configureEncoder, ho.encoderCreate, ho.encoderInputs, ho.encoderOutputs,
    ho.encoderFormatCommit, ho.encoderEnable, ho.encoderPoolCreate, Bool.true_eq_false, or_self,
    if_false]
  refine ⟨_, rfl, rfl, ?_, fun h P hP => ?_⟩
  · simp only [StillCamera.onWorld, World.at_createPool, World.at_setEnabled, World.at_commitFormat,
      World.at_writeFormat]
    exact (World.at_createComponent _ _ _ _).mpr rfl
  · have hne := Nat.ne_of_gt hP.lt
    simp only [StillCamera.onWorld, World.at_createPool]
    refine (World.at_modify_other hne _ _).mpr ((World.at_modify_other hne _ _).mpr
      ((World.at_modify_other hne _ _).mpr ?_))
    exact World.at_createComponent_old hP _ _

theorem connectEncoder_allOk {o : InitOutcome} {c : StillCamera} {g k : Handle} (ho : o.AllOk)
    (hcamera : c.impl.camera = some g) (hencoder : c.impl.encoder = some k)
    (hg : c.world.alive g = true) (hk : c.world.alive k = true) :
    ∃ d, connectEncoder o c = .ok (true, d) ∧ d.impl.anew = c.impl.anew ∧
      d.impl.camera = some g ∧ d.impl.encoder = some k ∧
      d.world.components = c.world.components ∧
      (d.impl.encoderConnection.bind fun h => d.world.connections[h]?)
        = some { enabled := true, destroyed := 0 } := by
  simp only [connectEncoder, hcamera, hencoder, useComponent, hg, hk, if_true, ok_bind,
    connectPorts, ho.connectionCreate, ho.connectionEnable, Bool.true_eq_false, if_false]
  refine ⟨_, rfl, rfl, hcamera, hencoder, rfl, ?_⟩
  simp only [StillCamera.onImpl, StillCamera.onWorld, World.createConnection, World.nextConnection,
    World.enableConnection, Option.bind_some, List.getElem?_modify, List.getElem?_concat_length,
    if_true, Option.map_eq_map, Option.map_some]

/-- An attempt on which every call succeeds. If nothing changed, the camera is
    told nothing. -/
theorem initializeCamera_allOk {o : InitOutcome} {r : SetResults} {c : StillCamera}
    (hinit : c.impl.isInitialized = false) (ho : o.AllOk) (hr : r.AllOk)
    (hport : c.impl.changedSettings = true →
      ∀ port ∈ c.impl.encoderOutputPort, c.world.alive port.component = true) :
    ∃ d, initializeCamera o r c = .ok (true, d) ∧ d.impl.anew = c.impl.anew ∧ configuration d =
      { camera := some (configuredCamera o c.impl), encoder := some (configuredEncoder o c.impl),
        connection := some { enabled := true, destroyed := 0 } } := by
  rcases createCamera_allOk ho hr hport with ⟨d, hd, hanew, hcameraAt⟩
  have hcamera := createCamera_ok hd
  rcases createEncoder_allOk (c := d) ho with ⟨e, he, hanew', hencoderAt, hkeep⟩
  have hencoder := createEncoder_ok he
  have halive : e.world.alive d.world.nextComponent = true :=
    (World.alive_iff_at _ _).mpr ((hencoder.untold rfl).mono fun k hk => hk.1)
  rcases connectEncoder_allOk ho (hencoder.camera.trans (hcamera.there rfl)) (hencoder.there rfl)
    (hencoder.alive _ (Nat.ne_of_lt hcameraAt.lt) (hcamera.alive rfl)) halive with
    ⟨f, hf, hanew'', hg, hk, hcomponents, hconnection⟩
  have hencoding : d.impl.anew.encoding = c.impl.anew.encoding := by rw [hanew]
  refine ⟨f, ?_, hanew''.trans (hanew'.trans hanew), ?_⟩
  · simp only [initializeCamera, hinit, Bool.false_eq_true, if_false, hd, ok_bind, he,
      Bool.true_eq_false, hf]
  · rcases hkeep _ _ hcameraAt with ⟨kc, hkc, rfl⟩
    rcases hencoderAt with ⟨ke, hke, rfl⟩
    have hencoding : d.impl.encoding = c.impl.encoding := hencoding
    simp only [configuration, hg, hk, hcomponents, Option.bind_some, hkc, hke, hconnection,
      configuredEncoder, hencoding]

/-- What an attempt does that fails before the settings are committed: it
    leaves no live component behind, and the object as it was but for the
    camera. -/
structure EarlyFailure (c c' : StillCamera) : Prop where
  anew : c'.impl.anew = c.impl.anew
  isInitialized : c'.impl.isInitialized = c.impl.isInitialized
  changedSettings : c'.impl.changedSettings = c.impl.changedSettings
  encoderOutputPort : c'.impl.encoderOutputPort = c.impl.encoderOutputPort
  alive : ∀ g, c'.world.alive g = c.world.alive g
  next : c.world.nextComponent ≤ c'.world.nextComponent
  released : Released c c'

/-- If it creates anything, it is a camera that is destroyed again. -/
theorem earlyFailure_of {c d : StillCamera} {ks : List Component}
    (himpl : d.impl.anew = c.impl.anew ∧ d.impl.isInitialized = c.impl.isInitialized ∧
      d.impl.changedSettings = c.impl.changedSettings ∧
      d.impl.encoderOutputPort = c.impl.encoderOutputPort)
    (hcomponents : d.world.components = c.world.components ++ ks)
    (hdestroyed : ∀ k ∈ ks, k.destroyed = 1) (hpools : d.world.pools = c.world.pools)
    (hconnections : d.world.connections = c.world.connections) : EarlyFailure c d := by
  -- What is new has a handle that was not given out before.
  have hnew : ∀ g k, d.world.components[g]? = some k → c.world.nextComponent ≤ g →
      k.destroyed = 1 := by
    intro g k hg hle
    rw [hcomponents, List.getElem?_append_right hle] at hg
    exact hdestroyed k (List.mem_of_getElem? hg)
  refine ⟨himpl.1, himpl.2.1, himpl.2.2.1, himpl.2.2.2, fun g => ?_, ?_, hnew,
    fun g k hg hle => ?_, fun g k hg hle => ?_⟩
  · by_cases hlt : g < c.world.components.length
    · simp only [World.alive, hcomponents, List.getElem?_append_left hlt]
    · rw [Nat.not_lt] at hlt
      have hnone : c.world.components[g]? = none := List.getElem?_eq_none hlt
      simp only [World.alive, hnone]
      cases hg : d.world.components[g]? with
      | none => rfl
      | some k =>
          show (k.destroyed == 0) = false
          rw [hnew g k hg hlt]
          rfl
  · rw [World.nextComponent, World.nextComponent, hcomponents, List.length_append]
    exact Nat.le_add_right _ _
  · rw [hpools, List.getElem?_eq_none hle] at hg
    exact absurd hg (Option.some_ne_none k).symm
  · rw [hconnections, List.getElem?_eq_none hle] at hg
    exact absurd hg (Option.some_ne_none k).symm

/-- Destroying a camera that was just created. -/
theorem destroyCamera_created {c : StillCamera} {p : PrivateImplStill} {formats : PortId → EsFormat}
    (hcamera : p.camera = some c.world.nextComponent) :
    destroyCamera ⟨p, c.world.createComponent .camera formats⟩ = .ok ⟨{ p with camera := none },
      (c.world.createComponent .camera formats).destroyComponent c.world.nextComponent⟩ := by
  simp only [destroyCamera, hcamera, useComponent, World.alive_createComponent_new, if_true,
    ok_bind]

/-- An attempt that fails before the settings are committed. -/
theorem initializeCamera_early {o : InitOutcome} {r : SetResults} {c : StillCamera}
    (hinit : c.impl.isInitialized = false) (ho : ¬ o.Commits) :
    ∃ c', initializeCamera o r c = .ok (false, c') ∧ EarlyFailure c c' := by
  by_cases h0 : o.cameraCreate = false
  · refine ⟨c.onImpl fun p => { p with camera := none }, ?_, ?_⟩
    · simp only [initializeCamera, hinit, Bool.false_eq_true, if_false, createCamera, h0, if_true,
        giveUp, destroyCamera, StillCamera.onImpl, ok_bind]
    · exact earlyFailure_of ⟨rfl, rfl, rfl, rfl⟩ (List.append_nil _).symm
        (fun _ hk => absurd hk List.not_mem_nil) rfl rfl
  rw [Bool.not_eq_false] at h0
  have hdestroyed : ∀ (p : PrivateImplStill), p.anew = c.impl.anew →
      p.isInitialized = c.impl.isInitialized → p.changedSettings = c.impl.changedSettings →
      p.encoderOutputPort = c.impl.encoderOutputPort → EarlyFailure c ⟨{ p with camera := none },
        (c.world.createComponent .camera o.cameraFormats).destroyComponent
          c.world.nextComponent⟩ := by
    intro p hanew hi hc he
    exact earlyFailure_of ⟨hanew, hi, hc, he⟩ (World.components_modify_created _ _ _ _)
      (fun k hk => by rw [List.mem_singleton.mp hk]; rfl) rfl rfl
  by_cases h1 : o.cameraOutputs = false
  · refine ⟨_, ?_, hdestroyed { c.impl with camera := some c.world.nextComponent } rfl rfl rfl rfl⟩
    simp only [initializeCamera, hinit, Bool.false_eq_true, if_false, createCamera, h0,
      Bool.true_eq_false, configureCamera, h1, if_true, giveUp, destroyCamera_created, ok_bind]
    rfl
  rw [Bool.not_eq_false] at h1
  by_cases h2 : o.controlEnable = false
  · refine ⟨_, ?_, hdestroyed { c.impl with
      camera := some c.world.nextComponent
      cameraStillPort := some ⟨c.world.nextComponent, cameraCapturePort⟩ } rfl rfl rfl rfl⟩
    simp only [initializeCamera, hinit, Bool.false_eq_true, if_false, createCamera, h0,
      Bool.true_eq_false, configureCamera, h1, h2, if_true, giveUp, StillCamera.onImpl,
      destroyCamera_created, ok_bind]
    rfl
  · rw [Bool.not_eq_false] at h2
    exact absurd ⟨h0, h1, h2⟩ ho

/-- The camera is told its sharpness if and only if something had changed. -/
theorem configuredCamera_sharpness (o : InitOutcome) (p : PrivateImplStill) :
    (configuredCamera o p).params .control .sharpness
      = if p.changedSettings then some (.sharpness (percent p.sharpness)) else none := by
  unfold configuredCamera
  by_cases hflag : p.changedSettings = true
  · simp only [hflag, if_true]
    rfl
  · simp only [if_neg hflag]
    rfl

/-- An attempt that gets to commit the settings follows the port of the
    encoder, if the object points to one. -/
theorem initializeCamera_port {o : InitOutcome} {r : SetResults} {c d : StillCamera} {b : Bool}
    (hinit : c.impl.isInitialized = false) (ho : o.Commits) (hknown : c.Known)
    (h : initializeCamera o r c = .ok (b, d)) (hflag : c.impl.changedSettings = true) :
    ∀ port ∈ c.impl.encoderOutputPort, c.world.alive port.component = true := by
  simp only [initializeCamera, hinit, Bool.false_eq_true, if_false, createCamera, ho.cameraCreate,
    Bool.true_eq_false, configureCamera, ho.cameraOutputs, ho.controlEnable] at h
  rcases bind_ok h with ⟨_, hcreate, _⟩
  rcases bind_ok hcreate with ⟨e, he, _⟩
  -- The port is older than the new camera, so it cannot have come alive with it.
  intro port hp
  have halive := (commitParameters_ok he).port hflag port hp
  simp only [StillCamera.onWorld, StillCamera.onImpl, alive_trySet,
    World.alive_setPortEnabled] at halive
  rw [World.alive_createComponent_iff] at halive
  exact halive.resolve_right (Nat.ne_of_lt (hknown port hp))

/-- A first attempt on which every call succeeds. -/
theorem first_allOk (p : PrivateImplStill) {o : InitOutcome} {r : SetResults} (ho : o.AllOk)
    (hr : r.AllOk) : ∃ d, initializeCamera o r ⟨p.anew, World.empty⟩ = .ok (true, d) ∧
      d.impl.anew = p.anew ∧ configuration d =
        { camera := some (configuredCamera o p.anew), encoder := some (configuredEncoder o p.anew),
          connection := some { enabled := true, destroyed := 0 } } :=
  initializeCamera_allOk rfl ho hr fun _ _ hp => absurd hp (Option.not_mem_none _)

/-- For a retry to be as good as a first attempt there must be something to
    commit, and the port it is committed to must be there. -/
theorem SameAsFirst.committable {c c' : StillCamera} (h : SameAsFirst c c')
    (hinit : c'.impl.isInitialized = false) (hknown : c'.Known) :
    c'.impl.changedSettings = true ∧
      ∀ port ∈ c'.impl.encoderOutputPort, c'.world.alive port.component = true := by
  have hok := InitOutcome.allOk_allOk
  have hset := SetResults.allOk_allOk
  rcases h .allOk .allOk hok hset with ⟨d, d', hd, hd', heq⟩
  have hflag : c'.impl.changedSettings = true := by
    by_contra hflag
    -- The cameras differ in their sharpness.
    rcases first_allOk c.impl hok hset with ⟨e', he', _, hc'⟩
    rcases initializeCamera_allOk hinit hok hset (fun h => absurd h hflag) with ⟨e, he, _, hc⟩
    rw [he, Except.ok.injEq, Prod.mk.injEq] at hd
    rw [he', Except.ok.injEq, Prod.mk.injEq] at hd'
    rw [← hd.2, ← hd'.2, hc, hc', Configuration.mk.injEq, Option.some.injEq] at heq
    have hsharpness := congrArg (fun k => k.params .control .sharpness) heq.1
    simp only [configuredCamera_sharpness, if_neg hflag] at hsharpness
    exact absurd hsharpness nofun
  exact ⟨hflag, initializeCamera_port hinit ⟨rfl, rfl, rfl⟩ hknown hd hflag⟩

/-- This is also enough. -/
theorem sameAsFirst_of {c c' : StillCamera} (hinit : c'.impl.isInitialized = false)
    (hanew : c'.impl.anew = c.impl.anew) (hflag : c'.impl.changedSettings = true)
    (hport : ∀ port ∈ c'.impl.encoderOutputPort, c'.world.alive port.component = true) :
    SameAsFirst c c' := by
  intro o r ho hr
  rcases initializeCamera_allOk hinit ho hr (fun _ => hport) with ⟨d, hd, _, hc⟩
  rcases first_allOk c.impl ho hr with ⟨d', hd', _, hc'⟩
  refine ⟨d, d', hd, hd', ?_⟩
  rw [hc, hc', ← hanew]
  simp only [configuredCamera, hflag]
  rfl

/-- An attempt that succeeds leaves two pools behind. -/
theorem InitializeResult.not_acquired {o : InitOutcome} {c c' : StillCamera}
    (h : InitializeResult o c true c') : ¬ Acquired c' := by
  intro hacquired
  rcases hacquired.pool with ⟨k, _, hk⟩
  have hlive : ∀ g, g = c.world.pools.length ∨ g = c.world.pools.length + 1 →
      c'.world.poolAlive g = true := by
    rintro g (rfl | rfl)
    · rw [World.poolAlive, h.pools rfl, List.append_assoc,
        List.getElem?_append_right (Nat.le_refl _),
        Nat.sub_self]
      rfl
    · have hlen : c.world.pools.length + 1
          = (c.world.pools ++ [({ destroyed := 0 } : Pool)]).length := by
            rw [List.length_append]; rfl
      rw [World.poolAlive, h.pools rfl, hlen, List.getElem?_concat_length]
      rfl
  have h0 : c.world.pools.length = k := (hk _).mp (hlive _ (Or.inl rfl))
  have h1 : c.world.pools.length + 1 = k := (hk _).mp (hlive _ (Or.inr rfl))
  omega

/-- When the contract holds for an object whose pointer to the encoder's port,
    if it has one, is to something that was created. -/
theorem allOrNothing_of_known {c : StillCamera} (hinit : c.impl.isInitialized = false)
    (hknown : c.Known) (o : InitOutcome) (r : SetResults) :
    AllOrNothing o r c ↔ ¬ o.Commits ∧ c.impl.changedSettings = true ∧
      ∀ port ∈ c.impl.encoderOutputPort, c.world.alive port.component = true := by
  by_cases ho : o.Commits
  · refine ⟨fun h => ?_, fun h => absurd ho h.1⟩
    unfold AllOrNothing at h
    cases hrun : initializeCamera o r c with
    | error e =>
        rw [hrun] at h
        exact h.elim
    | ok d =>
        rcases d with ⟨b, c'⟩
        have hres := initializeCamera_ok hinit hrun
        rw [hrun] at h
        cases b with
        | true => exact absurd h hres.not_acquired
        | false =>
            -- The flag is cleared, and a retry has nothing to commit.
            have hflag := (h.2.committable hres.isInitialized (hres.known hknown)).1
            exact absurd ((hres.settled ho).symm.trans hflag) nofun
  · rcases initializeCamera_early (r := r) hinit ho with ⟨c', hrun, hearly⟩
    have hinit' := hearly.isInitialized.trans hinit
    unfold AllOrNothing
    rw [hrun]
    constructor
    · intro h
      rcases h.2.committable hinit' (hknown.mono hearly.encoderOutputPort hearly.next) with
        ⟨hflag, hport⟩
      refine ⟨ho, hearly.changedSettings.symm.trans hflag, fun port hp => ?_⟩
      rw [← hearly.alive]
      exact hport port (hearly.encoderOutputPort ▸ hp)
    · rintro ⟨_, hflag, hport⟩
      refine ⟨hearly.released,
        sameAsFirst_of hinit' hearly.anew (hearly.changedSettings.trans hflag) fun port hp => ?_⟩
      rw [hearly.alive]
      exact hport port (hearly.encoderOutputPort ▸ hp)

/-- In every state of a run in which the object is not initialized, the
    contract holds exactly when the attempt fails before the settings are
    committed, there are settings to commit, and the object points to the port
    of no encoder, or of one that is alive. -/
theorem allOrNothing_iff {ls : List Call} {c : StillCamera} (hrun : run callStep .init ls = some c)
    (hinit : c.impl.isInitialized = false) (o : InitOutcome) (r : SetResults) :
    AllOrNothing o r c ↔ ¬ o.Commits ∧ c.impl.changedSettings = true ∧
      ∀ port ∈ c.impl.encoderOutputPort, c.world.alive port.component = true :=
  allOrNothing_of_known hinit (linked_run hrun).known o r

/-- A fresh object and a camera that cannot be created. -/
theorem allOrNothing_noCamera :
    AllOrNothing { InitOutcome.allOk with cameraCreate := false } .allOk .init :=
  (allOrNothing_iff (run_nil _) rfl _ _).mpr
    ⟨fun h => absurd h.cameraCreate nofun, rfl, fun _ hp => absurd hp (Option.not_mem_none _)⟩

/-- A fresh object, and every call succeeds: the pool of the camera stays
    behind, and the object refers to the pool of the encoder. -/
theorem pool_left_behind :
    ∃ c, initializeCamera .allOk .allOk .init = .ok (true, c) ∧ c.world.poolAlive 0 = true ∧
      c.impl.encoderPool = some 1 ∧ ¬ AllOrNothing .allOk .allOk .init := by
  refine ⟨_, rfl, rfl, rfl, fun h => ?_⟩
  rcases Acquired.pool h with ⟨k, hk, hiff⟩
  have h0 : 0 = k := (hiff 0).mp rfl
  exact absurd (hk.trans (congrArg some h0.symm)) nofun

end Still

end RaspiCam
