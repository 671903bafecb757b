import RaspiCam.Lib.Ledger
import RaspiCam.Video.Device

/-!
# The Resources of the Video Camera

An open camera owns one component and, unless it could not be created, one
pool. Both are created by `create_camera_component` and destroyed by
`destroy_camera_component`, which `release` calls; `open` calls `release`
itself when capturing cannot be started. The component is also destroyed on
every exit of `create_camera_component` that fails, but the pool is not: the
last of these exits, where the component cannot be enabled, comes after the
pool was created.

`Attached` is what holds whatever happens: an open camera refers to a live
component, to the video port of that component and to a live pool, and that is
why nothing is used after it was destroyed. `Ledger` adds that everything else
was destroyed exactly once, and `ledger_iff` says when it holds throughout.

## Main definitions

* `World.deaths`, `World.poolDeaths`: The ledgers of components and pools.
* `Camera.Attached`: What the pointers of the object refer to.
* `Camera.Ledger`: What was destroyed, and how often.
* `OpenOutcome.Prepares`, `OpenOutcome.Creates`, `OpenOutcome.LeaksPool`: How
  far an attempt to open comes, and those that leave a pool behind.
* `Op.Sound`: An operation uses nothing that was destroyed.
* `releaseWith`: `release` with the results it does not look at.
* `Released`, `SameOwner`, `FreshlyOpened`, `Effect`: What an operation does to
  what the object owns.

## Theorems

* `releaseWith_same`: The results of disabling make no difference.
* `release_eq`, `startCapture_eq`: The calls with an open camera.
* `releaseWith_effect`, `startCapture_effect`, `openCamera_effect`: What
  happens to the ledgers.
* `step_effect`: What an operation does to what the object owns.
* `attached_step`, `sound_run`: Nothing is used after it was destroyed.
* `ledger_step`, `ledger_iff`: The runs in which nothing is left behind.
* `pool_left_by_failed_open`: A run in which a pool is.
-/

namespace RaspiCam

open Mmal Machine Transition Ledgers

namespace Mmal

namespace World

/-- How often each component was destroyed. -/
def deaths (w : World) : List Nat := w.components.map (·.destroyed)

/-- How often each pool was destroyed. -/
def poolDeaths (w : World) : List Nat := w.pools.map (·.destroyed)

theorem deaths_length (w : World) : w.deaths.length = w.nextComponent := List.length_map _

theorem poolDeaths_length (w : World) : w.poolDeaths.length = w.nextPool := List.length_map _

/-- What is alive can be read off the ledger. -/
theorem alive_eq_deaths (w : World) (g : Handle) : w.alive g = (w.deaths[g]? == some 0) := by
  simp only [alive, deaths, List.getElem?_map]
  cases w.components[g]? <;> rfl

theorem poolAlive_eq_deaths (w : World) (g : Handle) :
    w.poolAlive g = (w.poolDeaths[g]? == some 0) := by
  simp only [poolAlive, poolDeaths, List.getElem?_map]
  cases w.pools[g]? <;> rfl

theorem alive_of_deaths {w : World} {h : Handle} (hd : w.deaths[h]? = some 0) :
    w.alive h = true := by
  rw [alive_eq_deaths, hd, BEq.rfl]

/-- A new component is the last of the ledger, and has not been destroyed. -/
theorem alive_of_created {w w' : World} (h : w'.deaths = create w.deaths) :
    w'.alive w.nextComponent = true := by
  refine alive_of_deaths ?_
  rw [h, ← deaths_length]
  exact List.getElem?_concat_length

theorem poolAlive_of_deaths {w : World} {h : Handle} (hd : w.poolDeaths[h]? = some 0) :
    w.poolAlive h = true := by
  rw [poolAlive_eq_deaths, hd, BEq.rfl]

/-- Reconfiguring a component destroys nothing. -/
theorem deaths_modify (w : World) (h : Handle) (f : Component → Component)
    (hf : ∀ c, (f c).destroyed = c.destroyed) : (w.modify h f).deaths = w.deaths := by
  refine List.ext_getElem? (fun i => ?_)
  simp only [deaths, List.getElem?_map, getElem?_modify]
  by_cases hi : h = i
  · rw [if_pos hi]
    cases w.components[i]? with
    | none => rfl
    | some c => simp only [Option.map_some, hf]
  · rw [if_neg hi]

@[simp] theorem deaths_setParam (w : World) (h : Handle) (p : PortId) (q : Param) :
    (w.setParam h p q).deaths = w.deaths := deaths_modify w h _ fun _ => rfl

@[simp] theorem deaths_writeFormat (w : World) (h : Handle) (p : PortId)
    (f : EsFormat → EsFormat) : (w.writeFormat h p f).deaths = w.deaths :=
  deaths_modify w h _ fun _ => rfl

@[simp] theorem deaths_commitFormat (w : World) (h : Handle) (p : PortId) :
    (w.commitFormat h p true).deaths = w.deaths := deaths_modify w h _ fun _ => rfl

@[simp] theorem deaths_setPortEnabled (w : World) (h : Handle) (p : PortId) (b : Bool) :
    (w.setPortEnabled h p b).deaths = w.deaths := deaths_modify w h _ fun _ => rfl

@[simp] theorem deaths_setUserdata (w : World) (h : Handle) (p : PortId) (u : Option Nat) :
    (w.setUserdata h p u).deaths = w.deaths := deaths_modify w h _ fun _ => rfl

@[simp] theorem deaths_setEnabled (w : World) (h : Handle) (b : Bool) :
    (w.setEnabled h b).deaths = w.deaths := deaths_modify w h _ fun _ => rfl

@[simp] theorem deaths_createPool (w : World) : w.createPool.deaths = w.deaths := rfl

@[simp] theorem deaths_destroyPool (w : World) (h : Handle) :
    (w.destroyPool h).deaths = w.deaths := rfl

@[simp] theorem deaths_trySet (w : World) (h : Handle) (p : PortId) (q : Param)
    (r : SetResults) : (trySet h p q r w).deaths = w.deaths := by
  unfold trySet
  by_cases hq : r.param p q.id = true
  · rw [if_pos hq, deaths_setParam]
  · rw [if_neg hq]

@[simp] theorem poolDeaths_trySet (w : World) (h : Handle) (p : PortId) (q : Param)
    (r : SetResults) : (trySet h p q r w).poolDeaths = w.poolDeaths := by
  rw [poolDeaths, pools_trySet, poolDeaths]

theorem deaths_createComponent (w : World) (k : ComponentKind) (formats : PortId → EsFormat) :
    (w.createComponent k formats).deaths = create w.deaths := by
  simp only [deaths, createComponent, List.map_append, List.map_cons, List.map_nil, create,
    Component.created]

theorem deaths_destroyComponent (w : World) (h : Handle) :
    (w.destroyComponent h).deaths = destroy w.deaths h := by
  refine List.ext_getElem? (fun i => ?_)
  simp only [deaths, destroyComponent, destroy, List.getElem?_map, getElem?_modify,
    List.getElem?_modify]
  by_cases hi : h = i
  · simp only [if_pos hi]
    cases w.components[i]? <;> rfl
  · simp only [if_neg hi]
    cases w.components[i]? <;> rfl

theorem poolDeaths_createPool (w : World) : w.createPool.poolDeaths = create w.poolDeaths := by
  simp only [poolDeaths, createPool, List.map_append, List.map_cons, List.map_nil, create]

theorem poolDeaths_destroyPool (w : World) (h : Handle) :
    (w.destroyPool h).poolDeaths = destroy w.poolDeaths h := by
  refine List.ext_getElem? (fun i => ?_)
  simp only [poolDeaths, destroyPool, destroy, List.getElem?_map, List.getElem?_modify]
  by_cases hi : h = i
  · simp only [if_pos hi]
    cases w.pools[i]? <;> rfl
  · simp only [if_neg hi]
    cases w.pools[i]? <;> rfl

theorem alive_congr_deaths {w w' : World} (h : w'.deaths = w.deaths) (g : Handle) :
    w'.alive g = w.alive g := by
  rw [alive_eq_deaths, h, alive_eq_deaths]

theorem poolAlive_congr_deaths {w w' : World} (h : w'.poolDeaths = w.poolDeaths) (g : Handle) :
    w'.poolAlive g = w.poolAlive g := by
  rw [poolAlive_eq_deaths, h, poolAlive_eq_deaths]

/-- Setting parameters destroys nothing. -/
theorem deaths_congr {w w' : World} (h : w'.forgetParams = w.forgetParams) :
    w'.deaths = w.deaths ∧ w'.poolDeaths = w.poolDeaths := by
  have hforget : ∀ v : World, v.forgetParams.deaths = v.deaths := by
    intro v
    simp only [deaths, forgetParams, List.map_map, Function.comp_def]
  constructor
  · rw [← hforget w', h, hforget]
  · rw [poolDeaths, ← pools_forgetParams, h, pools_forgetParams, poolDeaths]

end World

end Mmal

namespace Video

/-- An open camera refers to a live component, to the video port of that
    component and, if there is one, to a live pool. -/
structure Camera.Attached (c : Camera) : Prop where
  closed : c.impl.isOpened = false → c.impl.state.cameraComponent = none
  opened : c.impl.isOpened = true → ∃ h, c.impl.state.cameraComponent = some h ∧
    c.impl.cameraVideoPort = some ⟨h, cameraVideoPort⟩ ∧ c.world.alive h = true ∧
    ∀ q ∈ c.impl.state.videoPool, c.world.poolAlive q = true
  capturing : c.impl.isCapturing = true → c.impl.isOpened = true

/-- Every component and every pool was destroyed exactly once, but those of an
    open camera, which are live. -/
structure Camera.Ledger (c : Camera) : Prop where
  attached : c.Attached
  closed : c.impl.isOpened = false → AllOnce c.world.deaths ∧ AllOnce c.world.poolDeaths
  opened : ∀ h ∈ c.impl.state.cameraComponent, c.impl.isOpened = true →
    OnlyLast c.world.deaths h ∧ match c.impl.state.videoPool with
      | none => AllOnce c.world.poolDeaths
      | some q => OnlyLast c.world.poolDeaths q

/-- Every call that comes before the pool succeeds. -/
structure OpenOutcome.Prepares (o : OpenOutcome) : Prop where
  componentCreate : o.componentCreate = true
  outputPorts : o.outputPorts = true
  changeEventRequest : o.sets.param .control .changeEventRequest = true
  controlEnable : o.controlEnable = true
  formatCommit : o.sets.formatCommit = true
  videoEnable : o.videoEnable = true

instance (o : OpenOutcome) : Decidable o.Prepares :=
  decidable_of_iff (o.componentCreate = true ∧ o.outputPorts = true ∧
    o.sets.param .control .changeEventRequest = true ∧ o.controlEnable = true ∧
    o.sets.formatCommit = true ∧ o.videoEnable = true)
    ⟨fun ⟨h1, h2, h3, h4, h5, h6⟩ => ⟨h1, h2, h3, h4, h5, h6⟩,
      fun ⟨h1, h2, h3, h4, h5, h6⟩ => ⟨h1, h2, h3, h4, h5, h6⟩⟩

/-- The attempts to open that leave a pool behind: it is created, and then the
    component cannot be enabled. -/
def OpenOutcome.LeaksPool (o : OpenOutcome) : Prop :=
  o.Prepares ∧ o.poolCreate = true ∧ o.componentEnable = false

instance (o : OpenOutcome) : Decidable o.LeaksPool := inferInstanceAs (Decidable (_ ∧ _))

/-- The attempts to open that create a camera. -/
def OpenOutcome.Creates (o : OpenOutcome) : Prop := o.Prepares ∧ o.componentEnable = true

instance (o : OpenOutcome) : Decidable o.Creates := inferInstanceAs (Decidable (_ ∧ _))

theorem OpenOutcome.Creates.keeps {o : OpenOutcome} (h : o.Creates) : ¬ o.LeaksPool :=
  fun hl => absurd (hl.2.2.symm.trans h.2) Bool.false_ne_true

/-- The operation leaves no pool behind. -/
def Op.KeepsLedger (c : Camera) : Op → Prop
  | .openCamera _ o => c.impl.isOpened = false → ¬ o.LeaksPool
  | _ => True

/-- An operation that is enabled uses nothing that was destroyed. -/
def Op.Sound (c : Camera) (o : Op) : Prop := o.enabled c = true → exec c o ≠ .error .deadObject

/-- `Private_Impl::release`, told whether the video port and the component can
    be disabled. A port that cannot be disabled stays enabled. -/
def releaseWith (portDisabled componentDisabled : Bool) (c : Camera) : Except Fault Camera :=
  if c.impl.isOpened = false then .ok c else do
  let c ← (match c.impl.cameraVideoPort with
    | none => .ok c
    | some port => do
      let camera ← useComponent (some port.component) c.world
      .ok (if c.world.portEnabled camera port.port then
          ⟨{ c.impl with cameraVideoPort := none },
            if portDisabled then c.world.setPortEnabled camera port.port false else c.world⟩
        else c))
  let w := match c.impl.state.cameraComponent with
    | none => c.world
    | some camera => if componentDisabled then c.world.setEnabled camera false else c.world
  let c ← destroyCameraComponent { c with world := w }
  .ok { c with impl := { c.impl with isOpened := false, isCapturing := false } }

theorem releaseWith_true (c : Camera) : releaseWith true true c = release c := rfl

/-- What is left of an open camera that was released. -/
structure Released (c c' : Camera) : Prop where
  state : c'.impl.state = { c.impl.state with cameraComponent := none }
  isOpened : c'.impl.isOpened = false
  isCapturing : c'.impl.isCapturing = false
  deaths : ∀ h ∈ c.impl.state.cameraComponent, c'.world.deaths = destroy c.world.deaths h
  poolDeaths : c'.world.poolDeaths = match c.impl.state.videoPool with
    | none => c.world.poolDeaths
    | some q => destroy c.world.poolDeaths q

theorem usePool_of_alive {q : Handle} {w : World} (h : w.poolAlive q = true) :
    usePool (some q) w = .ok q := if_pos h

theorem useComponent_of_alive {h : Handle} {w : World} (ha : w.alive h = true) :
    useComponent (some h) w = .ok h := if_pos ha

/-- Destroying the camera destroys its pool and its component. -/
theorem destroyCameraComponent_effect {c : Camera} {h : Handle}
    (hcam : c.impl.state.cameraComponent = some h) (ha : c.world.alive h = true) :
    ∃ w, destroyCameraComponent c
        = .ok ⟨{ c.impl with state := { c.impl.state with cameraComponent := none } }, w⟩ ∧
      w.deaths = destroy c.world.deaths h ∧
      w.poolDeaths = match c.impl.state.videoPool with
        | none => c.world.poolDeaths
        | some q => destroy c.world.poolDeaths q := by
  cases hpool : c.impl.state.videoPool with
  | none =>
      simp only [destroyCameraComponent, hcam, hpool, ok_bind]
      exact ⟨_, rfl, World.deaths_destroyComponent _ _, rfl⟩
  | some q =>
      simp only [destroyCameraComponent, hcam, hpool, useComponent_of_alive ha, ok_bind]
      refine ⟨_, rfl, ?_, World.poolDeaths_destroyPool c.world q⟩
      rw [World.deaths_destroyComponent, World.deaths_destroyPool]

/-- Whatever the results of disabling, releasing an open camera goes through
    and destroys what it owned. -/
theorem releaseWith_effect (b b' : Bool) {c : Camera} (ha : c.Attached)
    (ho : c.impl.isOpened = true) : ∃ c', releaseWith b b' c = .ok c' ∧ Released c c' := by
  rcases ha.opened ho with ⟨h, hcam, hport, halive, _⟩
  -- Disabling the port and the component destroys nothing.
  have hdisabled : ∀ (q : Bool) (w : World), w.deaths = c.world.deaths →
      w.poolDeaths = c.world.poolDeaths → w.alive h = true →
      ∃ v, v = (if q then w.setEnabled h false else w) ∧ v.deaths = c.world.deaths ∧
        v.poolDeaths = c.world.poolDeaths ∧ v.alive h = true := by
    intro q w hd hp hal
    cases q with
    | true => exact ⟨_, rfl, (World.deaths_setEnabled w h false).trans hd, hp,
        (World.alive_setEnabled w h h false).trans hal⟩
    | false => exact ⟨_, rfl, hd, hp, hal⟩
  have hstopped : ∀ d : Camera, d.impl.state = c.impl.state →
      d.world.deaths = c.world.deaths → d.world.poolDeaths = c.world.poolDeaths →
      d.world.alive h = true → ∃ c', (do
          let w := match d.impl.state.cameraComponent with
            | none => d.world
            | some camera => if b' then d.world.setEnabled camera false else d.world
          let c ← destroyCameraComponent { d with world := w }
          .ok { c with impl := { c.impl with isOpened := false, isCapturing := false } }
          : Except Fault Camera) = .ok c' ∧ Released c c' := by
    intro d hs hd hpd hal
    rcases hdisabled b' d.world hd hpd hal with ⟨v, hv, hvd, hvp, hva⟩
    rw [hs, hcam]
    simp only [← hv]
    rcases destroyCameraComponent_effect (c := { d with world := v }) (hs.symm ▸ hcam) hva with
      ⟨u, hu, hud, hup⟩
    rw [hu, ok_bind]
    refine ⟨_, rfl, by rw [hs], rfl, rfl, fun g hg => ?_, ?_⟩
    · rw [hcam, Option.mem_some_iff] at hg
      rw [hud, hvd, hg]
    · rw [hup, hvp, hs]
  unfold releaseWith
  rw [if_neg (by rw [ho]; decide), hport]
  simp only [useComponent_of_alive halive, ok_bind]
  by_cases hen : c.world.portEnabled h cameraVideoPort = true
  · rw [if_pos hen]
    cases b with
    | true =>
        refine hstopped ⟨{ c.impl with cameraVideoPort := none },
          c.world.setPortEnabled h cameraVideoPort false⟩ rfl ?_ rfl ?_
        · exact World.deaths_setPortEnabled _ _ _ _
        · exact (World.alive_setPortEnabled _ _ _ _ _).trans halive
    | false =>
        exact hstopped ⟨{ c.impl with cameraVideoPort := none }, c.world⟩ rfl rfl rfl halive
  · rw [if_neg hen]
    exact hstopped c rfl rfl rfl halive

/-- The results of disabling, which `release` does not look at, make no
    difference to what it leaves behind. -/
theorem releaseWith_same (b b' : Bool) {c c' d : Camera} (ha : c.Attached)
    (ho : c.impl.isOpened = true) (h : releaseWith b b' c = .ok c') (hd : release c = .ok d) :
    c'.impl.state = d.impl.state ∧ c'.impl.isOpened = d.impl.isOpened ∧
      c'.impl.isCapturing = d.impl.isCapturing ∧ c'.world.deaths = d.world.deaths ∧
      c'.world.poolDeaths = d.world.poolDeaths := by
  rcases ha.opened ho with ⟨g, hcam, _⟩
  rcases releaseWith_effect b b' ha ho with ⟨e, he, hc⟩
  rcases releaseWith_effect true true ha ho with ⟨f, hf, hr⟩
  rw [h, Except.ok.injEq] at he
  rw [releaseWith_true, hd, Except.ok.injEq] at hf
  subst he hf
  exact ⟨hc.state.trans hr.state.symm, hc.isOpened.trans hr.isOpened.symm,
    hc.isCapturing.trans hr.isCapturing.symm, (hc.deaths g hcam).trans (hr.deaths g hcam).symm,
    hc.poolDeaths.trans hr.poolDeaths.symm⟩

/-- What configuring the last component makes of the ledgers. -/
structure ConfigureResult (o : OpenOutcome) (p : PrivateImpl) (w : World) (ds : List Nat)
    (b : Bool) (c' : Camera) : Prop where
  isOpened : c'.impl.isOpened = p.isOpened
  isCapturing : c'.impl.isCapturing = p.isCapturing
  failed : b = false → c'.impl.state.cameraComponent = p.state.cameraComponent ∧
    c'.world.deaths = ds ++ [1] ∧
    c'.world.poolDeaths = if o.LeaksPool then create w.poolDeaths else w.poolDeaths
  done : b = true → o.Creates ∧ (c'.impl.state.videoPool = none ↔ o.poolCreate = false) ∧
    c'.impl.state.cameraComponent = some ds.length ∧ c'.world.deaths = create ds ∧
      match c'.impl.state.videoPool with
      | none => c'.world.poolDeaths = w.poolDeaths
      | some q => q = w.poolDeaths.length ∧ c'.world.poolDeaths = create w.poolDeaths

/-- An exit that destroys the component before there is a pool. -/
theorem ConfigureResult.early {o : OpenOutcome} {p p' : PrivateImpl} {w v : World} {ds : List Nat}
    (hp : p'.isOpened = p.isOpened ∧ p'.isCapturing = p.isCapturing ∧
      p'.state.cameraComponent = p.state.cameraComponent)
    (hd : v.deaths = create ds) (hpool : v.poolDeaths = w.poolDeaths) (ho : ¬ o.Prepares) :
    ConfigureResult o p w ds false ⟨p', v.destroyComponent ds.length⟩ := by
  refine ⟨hp.1, hp.2.1, fun _ => ⟨hp.2.2, ?_, ?_⟩, fun hb => absurd hb Bool.false_ne_true⟩
  · rw [World.deaths_destroyComponent, hd, destroy_create]
  · rw [if_neg fun hl => ho hl.1]
    exact hpool

/-- The exits after the pool was created or could not be. -/
theorem ConfigureResult.late {o : OpenOutcome} {p : PrivateImpl} {w u : World} {ds : List Nat}
    (fixed : Bool) (hd : u.deaths = create ds) (hpool : u.poolDeaths = w.poolDeaths)
    (ho : o.Prepares) :
    let v := if o.poolCreate then u.createPool else u
    let q : PrivateImpl := { p with
      rgbBgrFixed := fixed
      state := { p.state with videoPool := if o.poolCreate then some u.nextPool else none } }
    let result : Bool × Camera :=
      if o.componentEnable = false then (false, ⟨q, v.destroyComponent ds.length⟩)
      else (true, ⟨{ q with state := { q.state with cameraComponent := some ds.length } },
        v.setEnabled ds.length true⟩)
    ConfigureResult o p w ds result.1 result.2 := by
  intro v q result
  -- The ledgers before the component is enabled, with or without a pool.
  have hvd : v.deaths = create ds := by
    simp only [v]
    by_cases hp : o.poolCreate = true
    · rw [if_pos hp, World.deaths_createPool, hd]
    · rw [if_neg hp, hd]
  have hvp : v.poolDeaths = if o.poolCreate then create w.poolDeaths else w.poolDeaths := by
    simp only [v]
    by_cases hp : o.poolCreate = true
    · rw [if_pos hp, if_pos hp, World.poolDeaths_createPool, hpool]
    · rw [if_neg hp, if_neg hp, hpool]
  by_cases he : o.componentEnable = false
  · simp only [result, if_pos he]
    refine ⟨rfl, rfl, fun _ => ⟨rfl, ?_, ?_⟩, fun hb => absurd hb Bool.false_ne_true⟩
    · rw [World.deaths_destroyComponent, hvd, destroy_create]
    · refine (show _ = v.poolDeaths from rfl).trans (hvp.trans ?_)
      by_cases hp : o.poolCreate = true
      · rw [if_pos hp, if_pos ⟨ho, hp, he⟩]
      · rw [if_neg hp, if_neg fun hleak => hp hleak.2.1]
  · simp only [result, if_neg he]
    refine ⟨rfl, rfl, fun hb => absurd hb.symm Bool.false_ne_true,
      fun _ => ⟨⟨ho, Bool.of_not_eq_false he⟩, ?_, rfl, ?_, ?_⟩⟩
    · cases hp : o.poolCreate with
      | false => simp only [q, hp, Bool.false_eq_true, if_false]
      | true => simp only [q, hp, if_true, reduceCtorEq]
    · rw [World.deaths_setEnabled, hvd]
    · by_cases hp : o.poolCreate = true
      · rw [if_pos hp] at hvp
        simp only [q, if_pos hp]
        exact ⟨by rw [← hpool, World.poolDeaths_length], hvp⟩
      · rw [if_neg hp] at hvp
        simp only [q, if_neg hp]
        exact hvp

theorem configureCamera_effect (o : OpenOutcome) (p : PrivateImpl) {w : World} {ds : List Nat}
    (hc : o.componentCreate = true) (hd : w.deaths = create ds) :
    ConfigureResult o p w ds (configureCamera o ds.length p w).1
      (configureCamera o ds.length p w).2 := by
  unfold configureCamera
  by_cases h1 : o.outputPorts = false
  · rw [if_pos h1]
    exact .early ⟨rfl, rfl, rfl⟩ hd rfl fun ho =>
      absurd (h1.symm.trans ho.outputPorts) Bool.false_ne_true
  rw [if_neg h1]
  -- The first parameters are set or not.
  have hsensor : ∃ v, v = (if p.state.sensorMode ≠ 0 then
      trySet ds.length .control (.cameraCustomSensorConfig (u32 p.state.sensorMode)) o.sets w
    else w) ∧ v.deaths = create ds ∧ v.poolDeaths = w.poolDeaths := by
    by_cases hs : p.state.sensorMode ≠ 0
    · rw [if_pos hs]
      exact ⟨_, rfl, (World.deaths_trySet _ _ _ _ _).trans hd, World.poolDeaths_trySet _ _ _ _ _⟩
    · rw [if_neg hs]
      exact ⟨_, rfl, hd, rfl⟩
  rcases hsensor with ⟨v, hv, hvd, hvp⟩
  simp only [← hv]
  by_cases h2 : o.sets.param .control .changeEventRequest = false
  · rw [if_pos h2]
    refine .early ⟨rfl, rfl, rfl⟩ ?_ ?_ fun ho =>
      absurd (h2.symm.trans ho.changeEventRequest) Bool.false_ne_true
    · simp only [World.deaths_trySet, hvd]
    · simp only [World.poolDeaths_trySet, hvp]
  rw [if_neg h2]
  by_cases h3 : o.controlEnable = false
  · rw [if_pos h3]
    refine .early ⟨rfl, rfl, rfl⟩ ?_ ?_ fun ho =>
      absurd (h3.symm.trans ho.controlEnable) Bool.false_ne_true
    · simp only [World.deaths_trySet, hvd]
    · simp only [World.poolDeaths_trySet, hvp]
  rw [if_neg h3]
  -- From here on only ports and formats are changed until there is a pool.
  have hpools : ∀ u : World, (u.setPortEnabled ds.length .control true).poolDeaths = u.poolDeaths ∧
      (∀ f, (u.writeFormat ds.length cameraVideoPort f).poolDeaths = u.poolDeaths) ∧
      (u.commitFormat ds.length cameraVideoPort true).poolDeaths = u.poolDeaths ∧
      (u.setPortEnabled ds.length cameraVideoPort true).poolDeaths = u.poolDeaths :=
    fun _ => ⟨rfl, fun _ => rfl, rfl, rfl⟩
  by_cases h4 : o.sets.formatCommit = false
  · rw [if_pos h4]
    refine .early ⟨rfl, rfl, rfl⟩ ?_ ?_ fun ho =>
      absurd (h4.symm.trans ho.formatCommit) Bool.false_ne_true
    · simp only [World.deaths_writeFormat, World.deaths_setPortEnabled, World.deaths_trySet, hvd]
    · simp only [hpools, World.poolDeaths_trySet, hvp]
  rw [if_neg h4]
  by_cases h5 : o.videoEnable = false
  · rw [if_pos h5]
    refine .early ⟨rfl, rfl, rfl⟩ ?_ ?_ fun ho =>
      absurd (h5.symm.trans ho.videoEnable) Bool.false_ne_true
    · simp only [World.deaths_commitFormat, World.deaths_writeFormat, World.deaths_setPortEnabled,
        World.deaths_trySet, hvd]
    · simp only [hpools, World.poolDeaths_trySet, hvp]
  rw [if_neg h5]
  refine .late (!o.rgbOrderFixed) ?_ ?_ ⟨hc, Bool.of_not_eq_false h1, Bool.of_not_eq_false h2,
    Bool.of_not_eq_false h3, Bool.of_not_eq_false h4, Bool.of_not_eq_false h5⟩
  · simp only [World.deaths_commitFormat, World.deaths_writeFormat, World.deaths_setPortEnabled,
      World.deaths_trySet, hvd]
  · simp only [hpools, World.poolDeaths_trySet, hvp]

/-- Committing everything to a live camera goes through. -/
theorem commitParameters_total {s : RaspividState} {w : World} {h : Handle} (r : SetResults)
    (hcam : s.cameraComponent = some h) (ha : w.alive h = true) :
    ∃ t, commitParameters s r w = .ok t := by
  have hall : ∀ {v : World} qs, v.alive = w.alive → Goes w.alive (sendAll (some h) r qs v) := by
    intro v qs hv
    rw [← hv]
    exact sendAll_goes (by rw [hv, ha]) r qs
  have hflips : ∀ {v : World} qs, v.alive = w.alive →
      Goes w.alive (sendWhileOk (some h) r qs v) := by
    intro v qs hv
    rw [← hv]
    exact sendWhileOk_goes (by rw [hv, ha]) r qs
  simp only [commitParameters, commitSaturation, commitSharpness, commitContrast, commitBrightness,
    commitIso, commitShutterSpeed, commitExposure, commitExposureCompensation, commitMetering,
    commitImageEffect, commitRotation, commitFlips, commitVideoStabilization, commitAwb,
    commitAwbRb, apply_ite RaspividState.cameraComponent, hcam, ite_self]
  -- Fifteen commits, and each of them leaves alive what was alive.
  refine (hall _ rfl).bind fun w1 h1 => (hall _ h1).bind fun w2 h2 => (hall _ h2).bind fun w3 h3 =>
    (hall _ h3).bind fun w4 h4 => (hall _ h4).bind fun w5 h5 => ?_
  have hshutter : Goes w.alive (if s.shutterSpeed ≠ 0 then
      sendAll (some h) r [(.control, .shutterSpeed (u32 s.shutterSpeed))] w5 else .ok w5) := by
    by_cases hs : s.shutterSpeed ≠ 0
    · rw [if_pos hs]
      exact hall _ h5
    · rw [if_neg hs]
      exact ⟨w5, rfl, h5⟩
  refine hshutter.bind fun w6 h6 => (hall _ h6).bind fun w7 h7 => (hall _ h7).bind fun w8 h8 =>
    (hall _ h8).bind fun w9 h9 => (hall _ h9).bind fun w10 h10 =>
      (hall _ h10).bind fun w11 h11 => ?_
  exact (hflips _ h11).bind fun w12 h12 => (hall _ h12).bind fun w13 h13 =>
    (hall _ h13).bind fun w14 h14 => (hall _ h14).bind fun w15 h15 => ⟨_, rfl⟩

/-- Attaching an object to a live camera. -/
theorem attachCamera_effect {c : Camera} {h : Handle} (o : OpenOutcome)
    (hcam : c.impl.state.cameraComponent = some h) (ha : c.world.alive h = true) :
    ∃ c', attachCamera o c = .ok c' ∧ c'.impl.state.cameraComponent = some h ∧
      c'.impl.cameraVideoPort = some ⟨h, cameraVideoPort⟩ ∧ c'.impl.isOpened = true ∧
      c'.impl.isCapturing = c.impl.isCapturing ∧
      c'.impl.state.videoPool = c.impl.state.videoPool ∧
      c'.world.deaths = c.world.deaths ∧ c'.world.poolDeaths = c.world.poolDeaths := by
  rcases commitParameters_total o.sets hcam ha with ⟨⟨s, w⟩, hs⟩
  rcases commitParameters_ok hs with ⟨hsame, hw⟩
  rcases World.deaths_congr hw with ⟨hdeaths, hpools⟩
  have halive : w.alive h = true := by
    rw [← World.alive_forgetParams, hw, World.alive_forgetParams, ha]
  unfold attachCamera
  rw [hs, ok_bind]
  simp only [hsame.cameraComponent, hcam, useComponent_of_alive halive, ok_bind]
  refine ⟨_, rfl, hsame.cameraComponent.trans hcam, rfl, rfl, rfl, hsame.videoPool, ?_, hpools⟩
  rw [World.deaths_setUserdata, World.deaths_setUserdata, hdeaths]

/-- The object refers to the same things, and nothing was destroyed. -/
structure SameOwner (c c' : Camera) : Prop where
  cameraComponent : c'.impl.state.cameraComponent = c.impl.state.cameraComponent
  videoPool : c'.impl.state.videoPool = c.impl.state.videoPool
  cameraVideoPort : c'.impl.cameraVideoPort = c.impl.cameraVideoPort
  isOpened : c'.impl.isOpened = c.impl.isOpened
  capturing : c'.impl.isCapturing = true → c.impl.isCapturing = true ∨ c.impl.isOpened = true
  deaths : c'.world.deaths = c.world.deaths
  poolDeaths : c'.world.poolDeaths = c.world.poolDeaths

theorem SameOwner.refl (c : Camera) : SameOwner c c := ⟨rfl, rfl, rfl, rfl, Or.inl, rfl, rfl⟩

theorem Camera.Keeps.sameOwner {c c' : Camera} (h : c.Keeps c') : SameOwner c c' where
  cameraComponent := h.state.cameraComponent
  videoPool := h.state.videoPool
  cameraVideoPort := h.cameraVideoPort
  isOpened := h.isOpened
  capturing := fun hc => Or.inl (h.isCapturing ▸ hc)
  deaths := (World.deaths_congr h.devices).1
  poolDeaths := (World.deaths_congr h.devices).2

/-- The device after an open camera was released. -/
def releasedWorld (h : Handle) (pool : Option Handle) (w : World) : World :=
  let w := if w.portEnabled h cameraVideoPort then w.setPortEnabled h cameraVideoPort false else w
  let w := w.setEnabled h false
  let w := match pool with
    | none => w
    | some q => w.destroyPool q
  w.destroyComponent h

/-- The object after it was released. -/
def PrivateImpl.released (p : PrivateImpl) (stopped : Bool) : PrivateImpl :=
  { p with
    state := { p.state with cameraComponent := none }
    cameraVideoPort := if stopped then none else p.cameraVideoPort
    isOpened := false
    isCapturing := false }

/-- Releasing an open camera. -/
theorem release_eq {c : Camera} {h : Handle} (ho : c.impl.isOpened = true)
    (hcam : c.impl.state.cameraComponent = some h)
    (hport : c.impl.cameraVideoPort = some ⟨h, cameraVideoPort⟩) (ha : c.world.alive h = true) :
    release c = .ok ⟨c.impl.released (c.world.portEnabled h cameraVideoPort),
      releasedWorld h c.impl.state.videoPool c.world⟩ := by
  have hdestroy : ∀ (p : PrivateImpl) (w : World), p.state = c.impl.state → w.alive h = true →
      destroyCameraComponent ⟨p, w⟩
        = .ok ⟨{ p with state := { p.state with cameraComponent := none } },
            (match c.impl.state.videoPool with
              | none => w
              | some q => w.destroyPool q).destroyComponent h⟩ := by
    intro p w hp hw
    unfold destroyCameraComponent
    simp only [hp, hcam]
    cases c.impl.state.videoPool with
    | none => rfl
    | some q => simp only [useComponent_of_alive hw, ok_bind]
  unfold release releasedWorld PrivateImpl.released
  rw [if_neg (by rw [ho]; decide), hport]
  simp only [useComponent_of_alive ha, ok_bind]
  by_cases hen : c.world.portEnabled h cameraVideoPort = true
  · simp only [if_pos hen, hcam]
    rw [hdestroy { c.impl with cameraVideoPort := none } _ rfl
      (by rw [World.alive_setEnabled, World.alive_setPortEnabled, ha]), ok_bind]
  · simp only [if_neg hen, hcam]
    rw [hdestroy c.impl _ rfl (by rw [World.alive_setEnabled, ha]), ok_bind]
    simp only [hport]

theorem release_closed {c : Camera} (ho : c.impl.isOpened = false) : release c = .ok c :=
  if_pos ho

theorem startCapture_closed {r : SetResults} {c : Camera} (ho : c.impl.isOpened = false) :
    startCapture r c = .ok (false, c) := if_pos ho

/-- Starting to capture with an open camera. -/
theorem startCapture_eq {r : SetResults} {c : Camera} {h : Handle} (ho : c.impl.isOpened = true)
    (hport : c.impl.cameraVideoPort = some ⟨h, cameraVideoPort⟩) (ha : c.world.alive h = true) :
    startCapture r c =
      if r.param cameraVideoPort .capture = false then (do
        .ok (false, ← release ⟨c.impl, trySet h cameraVideoPort (.capture true) r c.world⟩))
      else (do
        let _ ← usePool c.impl.state.videoPool c.world
        .ok (true, ⟨{ c.impl with isCapturing := true },
          trySet h cameraVideoPort (.capture true) r c.world⟩)) := by
  unfold startCapture
  rw [if_neg (by rw [ho]; decide), hport]
  simp only [setOn, sendTo_ok ha, ok_bind]
  by_cases hr : r.param cameraVideoPort .capture = false
  · rw [if_pos hr, if_pos (show r.param cameraVideoPort (Param.capture true).id = false from hr)]
    rfl
  · rw [if_neg hr, if_neg (show ¬ r.param cameraVideoPort (Param.capture true).id = false from hr)]
    cases hq : c.impl.state.videoPool with
    | none => rfl
    | some q =>
        have hpool : ∀ w : World, w.pools = c.world.pools →
            usePool (some q) w = usePool (some q) c.world := by
          intro w hw
          simp only [usePool, World.poolAlive_congr hw]
        rw [← hpool _ (pools_trySet h cameraVideoPort (.capture true) r c.world), trySet]

/-- Sending a parameter, whether or not it is accepted, leaves the object
    attached. -/
theorem Camera.Attached.trySet {c : Camera} (ha : c.Attached) (h : Handle) (p : PortId) (q : Param)
    (r : SetResults) : Camera.Attached ⟨c.impl, Mmal.trySet h p q r c.world⟩ := by
  refine ⟨ha.closed, fun ho => ?_, ha.capturing⟩
  rcases ha.opened ho with ⟨g, hcam, hport, halive, hpool⟩
  refine ⟨g, hcam, hport, ?_, fun k hk => ?_⟩
  · rw [alive_trySet, halive]
  · rw [World.poolAlive_congr (pools_trySet _ _ _ _ _), hpool k hk]

/-- What starting to capture does with an open camera: it is refused and the
    camera released, there is no pool to send headers from, or it goes
    through. -/
theorem startCapture_effect (r : SetResults) {c : Camera} (ha : c.Attached)
    (ho : c.impl.isOpened = true) :
    (∃ c', startCapture r c = .ok (false, c') ∧ Released c c' ∧
        r.param cameraVideoPort .capture = false) ∨
      (r.param cameraVideoPort .capture = true ∧ c.impl.state.videoPool = none ∧
        startCapture r c = .error .nullPointer) ∨
      ∃ c', startCapture r c = .ok (true, c') ∧ SameOwner c c' ∧
        r.param cameraVideoPort .capture = true ∧ c.impl.state.videoPool ≠ none ∧
        c'.world.forgetParams = c.world.forgetParams := by
  rcases ha.opened ho with ⟨h, hcam, hport, halive, hpool⟩
  rw [startCapture_eq ho hport halive]
  by_cases hr : r.param cameraVideoPort .capture = false
  · -- The camera that is released has been asked to capture, and nothing else.
    have hattached := ha.trySet h cameraVideoPort (.capture true) r
    rcases releaseWith_effect true true hattached ho with ⟨c', hc', hreleased⟩
    rw [releaseWith_true] at hc'
    rw [if_pos hr, hc', ok_bind]
    refine Or.inl ⟨c', rfl, ⟨hreleased.state, hreleased.isOpened, hreleased.isCapturing,
      fun g hg => ?_, ?_⟩, hr⟩
    · rw [hreleased.deaths g hg, World.deaths_trySet]
    · exact hreleased.poolDeaths.trans (by rw [World.poolDeaths_trySet])
  · rw [if_neg hr]
    cases hq : c.impl.state.videoPool with
    | none => exact Or.inr (Or.inl ⟨Bool.of_not_eq_false hr, rfl, rfl⟩)
    | some q =>
        rw [usePool_of_alive (hpool q hq), ok_bind]
        exact Or.inr (Or.inr ⟨_, rfl, ⟨rfl, rfl, rfl, rfl, fun _ => Or.inr ho,
          World.deaths_trySet _ _ _ _ _, World.poolDeaths_trySet _ _ _ _ _⟩,
          Bool.of_not_eq_false hr, nofun, forgetParams_trySet _ _ _ _ _⟩)

/-- A camera that was just created and attached. -/
structure FreshlyOpened (c c' : Camera) : Prop where
  cameraComponent : c'.impl.state.cameraComponent = some c.world.nextComponent
  cameraVideoPort : c'.impl.cameraVideoPort = some ⟨c.world.nextComponent, cameraVideoPort⟩
  isOpened : c'.impl.isOpened = true
  isCapturing : c'.impl.isCapturing = c.impl.isCapturing
  deaths : c'.world.deaths = create c.world.deaths
  pool : match c'.impl.state.videoPool with
    | none => c'.world.poolDeaths = c.world.poolDeaths
    | some q => q = c.world.poolDeaths.length ∧ c'.world.poolDeaths = create c.world.poolDeaths

/-- What opening a closed camera does before capturing starts: it fails, and
    at most a pool is left behind, or the camera is open. -/
theorem openCamera_effect (b : Bool) (o : OpenOutcome) {c : Camera} (ho : c.impl.isOpened = false) :
    (∃ c', openCamera b o c = .ok (false, c') ∧ c'.impl.isOpened = false ∧
        c'.impl.isCapturing = c.impl.isCapturing ∧
        c'.impl.state.cameraComponent = c.impl.state.cameraComponent ∧
        (c'.world.deaths = c.world.deaths ∨ c'.world.deaths = c.world.deaths ++ [1]) ∧
        c'.world.poolDeaths
          = if o.LeaksPool then create c.world.poolDeaths else c.world.poolDeaths) ∨
      ∃ c', openCamera b o c = (if b then startCapture o.sets c' else .ok (true, c')) ∧
        FreshlyOpened c c' ∧ o.Creates ∧
          (c'.impl.state.videoPool = none ↔ o.poolCreate = false) := by
  unfold openCamera
  rw [if_neg (by rw [ho]; decide)]
  unfold createCameraComponent
  by_cases hcr : o.componentCreate = false
  · rw [if_pos hcr]
    refine Or.inl ⟨c, rfl, ho, rfl, rfl, Or.inl rfl, ?_⟩
    rw [if_neg fun hl => absurd (hcr.symm.trans hl.1.componentCreate) Bool.false_ne_true]
  rw [if_neg hcr]
  have hconf := configureCamera_effect o c.impl (Bool.of_not_eq_false hcr)
    (World.deaths_createComponent c.world .camera o.formats)
  rw [World.deaths_length] at hconf
  cases hd : configureCamera o c.world.nextComponent c.impl
      (c.world.createComponent .camera o.formats) with
  | mk created d =>
      rw [hd] at hconf
      cases created with
      | false =>
          rcases hconf.failed rfl with ⟨hcam, hdeaths, hpools⟩
          exact Or.inl ⟨d, rfl, hconf.isOpened.trans ho, hconf.isCapturing, hcam, Or.inr hdeaths,
            hpools⟩
      | true =>
          rcases hconf.done rfl with ⟨hcreates, hnone, hcam, hdeaths, hpools⟩
          rw [World.deaths_length] at hcam
          rcases attachCamera_effect o hcam (World.alive_of_created hdeaths) with
            ⟨e, he, hcam', hport, hopen, hcap, hpool, hdeaths', hpools'⟩
          refine Or.inr ⟨e, ?_, ⟨hcam', hport, hopen, hcap.trans hconf.isCapturing,
            hdeaths'.trans hdeaths, ?_⟩, hcreates, hpool ▸ hnone⟩
          · simp only [he, ok_bind]
          · rw [hpool, hpools']
            exact hpools

/-- An attempt to open a closed camera that fails. -/
structure FailedOpen (o : OpenOutcome) (c c' : Camera) : Prop where
  before : c.impl.isOpened = false
  isOpened : c'.impl.isOpened = false
  isCapturing : c'.impl.isCapturing = c.impl.isCapturing
  cameraComponent : c'.impl.state.cameraComponent = c.impl.state.cameraComponent
  deaths : c'.world.deaths = c.world.deaths ∨ c'.world.deaths = c.world.deaths ++ [1]
  poolDeaths : c'.world.poolDeaths
    = if o.LeaksPool then create c.world.poolDeaths else c.world.poolDeaths

/-- What an operation does to what the object owns: nothing, or it gives it
    up, or it opens the camera, perhaps only to give it up at once, or it
    fails to open the camera. -/
inductive Effect (c c' : Camera) (o : Op) : Prop
  | keeps (h : SameOwner c c') (ho : o.KeepsLedger c)
  | releases (hopen : c.impl.isOpened = true) (h : Released c c') (ho : o.KeepsLedger c)
  | opens (d : Camera) (hclosed : c.impl.isOpened = false) (hd : FreshlyOpened c d)
      (h : SameOwner d c' ∨ Released d c') (ho : o.KeepsLedger c)
  | fails (b : Bool) (out : OpenOutcome) (ho : o = .openCamera b out) (h : FailedOpen out c c')

theorem FreshlyOpened.attached {c d : Camera} (h : FreshlyOpened c d) : d.Attached := by
  refine ⟨fun hc => absurd (hc.symm.trans h.isOpened) Bool.false_ne_true,
    fun _ => ⟨_, h.cameraComponent, h.cameraVideoPort, ?_, fun q hq => ?_⟩, fun _ => h.isOpened⟩
  · exact World.alive_of_created h.deaths
  · have hpool := h.pool
    rw [Option.mem_def.mp hq] at hpool
    refine World.poolAlive_of_deaths ?_
    rw [hpool.2, hpool.1]
    exact List.getElem?_concat_length

theorem Camera.Attached.sameOwner {c c' : Camera} (h : c.Attached) (hs : SameOwner c c') :
    c'.Attached := by
  refine ⟨fun hc => ?_, fun ho => ?_, fun hc => ?_⟩
  · rw [hs.cameraComponent]
    exact h.closed (hs.isOpened ▸ hc)
  · rcases h.opened (hs.isOpened ▸ ho) with ⟨g, hcam, hport, halive, hpool⟩
    refine ⟨g, hs.cameraComponent.trans hcam, hs.cameraVideoPort.trans hport,
      (World.alive_congr_deaths hs.deaths g).trans halive, fun q hq => ?_⟩
    rw [hs.videoPool] at hq
    exact (World.poolAlive_congr_deaths hs.poolDeaths q).trans (hpool q hq)
  · rw [hs.isOpened]
    rcases hs.capturing hc with hc | ho
    · exact h.capturing hc
    · exact ho

theorem Released.attached {c c' : Camera} (h : Released c c') : c'.Attached :=
  ⟨fun _ => by rw [h.state], fun ho => absurd (h.isOpened.symm.trans ho) Bool.false_ne_true,
    fun hc => absurd (h.isCapturing.symm.trans hc) Bool.false_ne_true⟩

/-- The camera is created when every call that may fail succeeds. -/
theorem createCameraComponent_creates {o : OpenOutcome} (c : Camera) (ho : o.Creates) :
    (createCameraComponent o c).1 = true := by
  unfold createCameraComponent
  rw [if_neg (ne_false_of_eq_true ho.1.componentCreate)]
  unfold configureCamera
  rw [if_neg (ne_false_of_eq_true ho.1.outputPorts)]
  simp only
  rw [if_neg (ne_false_of_eq_true ho.1.changeEventRequest),
    if_neg (ne_false_of_eq_true ho.1.controlEnable), if_neg (ne_false_of_eq_true ho.1.formatCommit),
    if_neg (ne_false_of_eq_true ho.1.videoEnable), if_neg (ne_false_of_eq_true ho.2)]

/-- A component that was created is alive and not attached yet. -/
theorem createCameraComponent_live {o : OpenOutcome} {c d : Camera}
    (h : createCameraComponent o c = (true, d)) :
    d.impl.state.cameraComponent = some c.world.nextComponent ∧
      d.world.alive c.world.nextComponent = true ∧
      (d.impl.state.videoPool = none ↔ o.poolCreate = false) := by
  unfold createCameraComponent at h
  by_cases hcr : o.componentCreate = false
  · rw [if_pos hcr] at h
    exact absurd (Prod.mk.inj h).1 Bool.false_ne_true
  rw [if_neg hcr] at h
  have hconf := configureCamera_effect o c.impl (Bool.of_not_eq_false hcr)
    (World.deaths_createComponent c.world .camera o.formats)
  rw [World.deaths_length, h] at hconf
  rcases hconf.done rfl with ⟨_, hpool, hcam, hdeaths, _⟩
  rw [World.deaths_length] at hcam
  exact ⟨hcam, World.alive_of_created hdeaths, hpool⟩

theorem createCameraComponent_isOpened (o : OpenOutcome) (c : Camera) :
    (createCameraComponent o c).2.impl.isOpened = c.impl.isOpened := by
  unfold createCameraComponent
  by_cases hcr : o.componentCreate = false
  · rw [if_pos hcr]
  · rw [if_neg hcr]
    exact (configureCamera_store o _ c.impl _).2.1

/-- A camera that was created and attached owns what it refers to. -/
theorem attached_of_created {o : OpenOutcome} {c d e : Camera} (ho : c.impl.isOpened = false)
    (hd : createCameraComponent o c = (true, d)) (he : attachCamera o d = .ok e) :
    e.Attached ∧ o.Creates := by
  have hopen : openCamera false o c = .ok (true, e) := by
    unfold openCamera
    rw [if_neg (by rw [ho]; decide), hd]
    simp only [he, ok_bind, Bool.false_eq_true, if_false]
  rcases openCamera_effect false o ho with ⟨e', he', _⟩ | ⟨e', he', hfresh, hcreates, _⟩
  · exact absurd (Prod.mk.inj (Except.ok.inj (hopen.symm.trans he'))).1 (by decide)
  · rw [hopen] at he'
    rw [(Prod.mk.inj (Except.ok.inj he')).2]
    exact ⟨hfresh.attached, hcreates⟩

/-- Starting to capture, when it goes through at all. -/
theorem startCapture_owner {r : SetResults} {c c' : Camera} {b : Bool} (ha : c.Attached)
    (ho : c.impl.isOpened = true) (h : startCapture r c = .ok (b, c')) :
    SameOwner c c' ∨ Released c c' := by
  rcases startCapture_effect r ha ho with ⟨d, hd, hreleased, _⟩ | ⟨_, _, hd⟩ | ⟨d, hd, hsame, _⟩
  · rw [hd, Except.ok.injEq, Prod.mk.injEq] at h
    exact Or.inr (h.2 ▸ hreleased)
  · exact absurd (hd.symm.trans h) nofun
  · rw [hd, Except.ok.injEq, Prod.mk.injEq] at h
    exact Or.inl (h.2 ▸ hsame)

/-- The operations that open or close the camera or start to capture. -/
def Op.lifecycle : Op → Bool
  | .openCamera _ _ => true
  | .startCapture _ => true
  | .release => true
  | _ => false

/-- The other operations change nothing that the object owns. -/
theorem step_sameOwner {c c' : Camera} {o : Op} (ho : o.lifecycle = false)
    (h : step c o = some c') : SameOwner c c' := by
  rcases step_ok h with ⟨_, hx⟩
  -- A setter that only records a value.
  have hrecord : ∀ s : RaspividState, s.cameraComponent = c.impl.state.cameraComponent →
      s.videoPool = c.impl.state.videoPool → SameOwner c (c.record s) :=
    fun s hs hq => ⟨hs, hq, rfl, rfl, Or.inl, rfl, rfl⟩
  cases o with
  | openCamera startCapturing out => exact absurd ho.symm Bool.false_ne_true
  | startCapture r => exact absurd ho.symm Bool.false_ne_true
  | release => exact absurd ho.symm Bool.false_ne_true
  | setWidth width =>
      rw [← Except.ok.inj hx]
      exact hrecord _ rfl rfl
  | setHeight height =>
      rw [← Except.ok.inj hx]
      exact hrecord _ rfl rfl
  | setCaptureSize width height =>
      rw [← Except.ok.inj hx, setCaptureSize_eq]
      exact hrecord _ rfl rfl
  | setFormat fmt =>
      rw [← Except.ok.inj hx]
      unfold setFormat
      by_cases ho : c.impl.isOpened = true
      · rw [if_pos ho]
        exact .refl c
      · rw [if_neg ho]
        exact hrecord _ rfl rfl
  | setSensorMode mode =>
      rw [← Except.ok.inj hx]
      unfold setSensorMode
      by_cases ho : c.impl.isOpened = true
      · rw [if_pos ho]
        exact .refl c
      · rw [if_neg ho]
        exact hrecord _ rfl rfl
  | setFrameRate framesPerSecond =>
      rw [← Except.ok.inj hx]
      exact hrecord _ rfl rfl
  | set x r => exact (Setting.apply_keeps hx).sameOwner
  | setUserCallback userCallback =>
      rw [← Except.ok.inj hx]
      exact ⟨rfl, rfl, rfl, rfl, Or.inl, rfl, rfl⟩
  | grab =>
      rw [← Except.ok.inj hx]
      rw [grab_camera]
      exact ⟨rfl, rfl, rfl, rfl, Or.inl, rfl, rfl⟩
  | retrieve =>
      rw [← Except.ok.inj hx]
      exact .refl c
  | frame b fresh r =>
      rcases bind_ok hx with ⟨camera, _, hx⟩
      rcases bind_ok hx with ⟨⟨grabbed, d⟩, hd, hx⟩
      rw [← Except.ok.inj hx]
      rcases videoBufferCallback_ok hd with ⟨_, himpl, hworld⟩
      rcases World.deaths_congr hworld with ⟨hdeaths, hpools⟩
      refine ⟨?_, ?_, ?_, ?_, fun hc => Or.inl ?_, hdeaths, hpools⟩
      · rw [himpl]
        split <;> rfl
      · rw [himpl]
        split <;> rfl
      · rw [himpl]
        split <;> rfl
      · rw [himpl]
        split <;> rfl
      · rw [himpl] at hc
        split at hc <;> exact hc
  | control e =>
      rw [← Except.ok.inj hx]
      cases e <;> exact ⟨rfl, rfl, rfl, rfl, Or.inl, rfl, rfl⟩

/-- What an operation does to what the object owns. -/
theorem step_effect {c c' : Camera} {o : Op} (ha : c.Attached) (h : step c o = some c') :
    Effect c c' o := by
  rcases step_ok h with ⟨_, hx⟩
  -- Only these three calls create or destroy anything, and with a closed
  -- camera the last two do nothing.
  cases o with
  | openCamera startCapturing out =>
      rcases bind_ok hx with ⟨⟨b, d⟩, hd, hx⟩
      rw [Except.ok.injEq] at hx
      simp only at hx
      subst hx
      by_cases ho : c.impl.isOpened = true
      · unfold openCamera at hd
        rw [if_pos ho] at hd
        rw [← (Prod.mk.inj (Except.ok.inj hd)).2]
        exact .keeps (.refl c) fun hc => absurd (hc.symm.trans ho) Bool.false_ne_true
      rw [Bool.not_eq_true] at ho
      rcases openCamera_effect startCapturing out ho with
        ⟨e, he, hopen, hcap, hcam, hdeaths, hpools⟩ | ⟨e, he, hfresh, hcreates, _⟩
      · rw [hd, Except.ok.injEq, Prod.mk.injEq] at he
        rw [he.2]
        exact .fails startCapturing out rfl ⟨ho, hopen, hcap, hcam, hdeaths, hpools⟩
      · refine .opens e ho hfresh ?_ fun _ => hcreates.keeps
        rw [hd] at he
        by_cases hb : startCapturing = true
        · rw [if_pos hb] at he
          exact startCapture_owner hfresh.attached hfresh.isOpened he.symm
        · rw [if_neg hb, Except.ok.injEq, Prod.mk.injEq] at he
          rw [he.2]
          exact Or.inl (.refl e)
  | startCapture r =>
      rcases bind_ok hx with ⟨⟨b, d⟩, hd, hx⟩
      rw [← Except.ok.inj hx]
      by_cases ho : c.impl.isOpened = true
      · rcases startCapture_owner ha ho hd with hsame | hreleased
        · exact .keeps hsame trivial
        · exact .releases ho hreleased trivial
      · unfold startCapture at hd
        rw [if_pos (Bool.eq_false_iff.mpr ho)] at hd
        rw [← (Prod.mk.inj (Except.ok.inj hd)).2]
        exact .keeps (.refl c) trivial
  | release =>
      by_cases ho : c.impl.isOpened = true
      · rcases releaseWith_effect true true ha ho with ⟨d, hd, hreleased⟩
        have hsame : c' = d := Except.ok.inj (hx.symm.trans hd)
        exact .releases ho (hsame ▸ hreleased) trivial
      · unfold exec release at hx
        rw [if_pos (Bool.eq_false_iff.mpr ho)] at hx
        rw [← Except.ok.inj hx]
        exact .keeps (.refl c) trivial
  | _ => exact .keeps (step_sameOwner rfl h) trivial

/-- An open camera refers to what it owns, whatever happens. -/
theorem attached_step (c : Camera) (o : Op) (c' : Camera) (ha : c.Attached)
    (h : step c o = some c') : c'.Attached := by
  cases step_effect ha h with
  | keeps h _ => exact ha.sameOwner h
  | releases _ h _ => exact h.attached
  | opens d _ hd h _ =>
      rcases h with h | h
      · exact hd.attached.sameOwner h
      · exact h.attached
  | fails b out _ h =>
      refine ⟨fun _ => h.cameraComponent.trans (ha.closed h.before),
        fun ho => absurd (h.isOpened.symm.trans ho) Bool.false_ne_true, fun hc => ?_⟩
      have ho := ha.capturing (h.isCapturing ▸ hc)
      exact absurd (h.before.symm.trans ho) Bool.false_ne_true

/-- A setter goes through when its commit does. -/
theorem put_total {c : Camera} {s : RaspividState}
    {commit : RaspividState → SetResults → World → Except Fault World} {r : SetResults}
    (ha : c.Attached) (hs : s.cameraComponent = c.impl.state.cameraComponent)
    (hcommit : ∀ h, s.cameraComponent = some h → c.world.alive h = true →
      Goes c.world.alive (commit s r c.world)) : ∃ c', c.put s commit r = .ok c' := by
  unfold Camera.put
  by_cases ho : c.impl.isOpened = true
  · rw [if_pos ho]
    rcases ha.opened ho with ⟨h, hcam, _, halive, _⟩
    rcases hcommit h (hs.trans hcam) halive with ⟨w, hw, _⟩
    exact bind_total hw ⟨_, rfl⟩
  · rw [if_neg ho]
    exact ⟨_, rfl⟩

theorem Setting.apply_total (x : Setting) (r : SetResults) {c : Camera} (ha : c.Attached) :
    ∃ c', x.apply r c = .ok c' := by
  have hall : ∀ {s : RaspividState} (qs : List (PortId × Param)), ∀ h,
      s.cameraComponent = some h → c.world.alive h = true →
      Goes c.world.alive (sendAll s.cameraComponent r qs c.world) := by
    intro s qs h hs halive
    rw [hs]
    exact sendAll_goes halive r qs
  have hflips : ∀ {s : RaspividState} (qs : List (PortId × Param)), ∀ h,
      s.cameraComponent = some h → c.world.alive h = true →
      Goes c.world.alive (sendWhileOk s.cameraComponent r qs c.world) := by
    intro s qs h hs halive
    rw [hs]
    exact sendWhileOk_goes halive r qs
  cases x with
  | videoStabilization v => exact put_total ha rfl (hall _)
  | brightness v => exact put_total ha rfl (hall _)
  | shutterSpeed v => exact put_total ha rfl (hall _)
  | rotation v => exact put_total ha rfl (hall _)
  | iso v => exact put_total ha rfl (hall _)
  | sharpness v => exact put_total ha rfl (hall _)
  | contrast v => exact put_total ha rfl (hall _)
  | saturation v => exact put_total ha rfl (hall _)
  | awbRb red blue => exact put_total ha rfl (hall _)
  | exposure v => exact put_total ha rfl (hall _)
  | awb v => exact put_total ha rfl (hall _)
  | imageEffect v => exact put_total ha rfl (hall _)
  | metering v => exact put_total ha rfl (hall _)
  | exposureCompensation v => exact put_total ha rfl (hall _)
  | horizontalFlip v => exact put_total ha rfl (hflips _)
  | verticalFlip v => exact put_total ha rfl (hflips _)

theorem startCapture_sound {r : SetResults} {c : Camera} (ha : c.Attached) :
    startCapture r c ≠ .error .deadObject := by
  by_cases ho : c.impl.isOpened = true
  · rcases startCapture_effect r ha ho with ⟨d, hd, _⟩ | ⟨_, _, hd⟩ | ⟨d, hd, _⟩ <;>
      exact fun hc => nomatch hd.symm.trans hc
  · unfold startCapture
    rw [if_pos (Bool.eq_false_iff.mpr ho)]
    exact nofun

theorem openCamera_sound {b : Bool} {o : OpenOutcome} {c : Camera} :
    openCamera b o c ≠ .error .deadObject := by
  by_cases ho : c.impl.isOpened = true
  · unfold openCamera
    rw [if_pos ho]
    exact nofun
  rcases openCamera_effect b o (Bool.eq_false_iff.mpr ho) with ⟨d, hd, _⟩ | ⟨d, hd, hfresh, _⟩
  · exact fun hc => nomatch hd.symm.trans hc
  · rw [hd]
    by_cases hb : b = true
    · rw [if_pos hb]
      exact startCapture_sound hfresh.attached
    · rw [if_neg hb]
      exact nofun

/-- A frame that is delivered to an attached object finds the camera alive,
    and the pool, unless there is none. -/
theorem videoBufferCallback_sound {c : Camera} {b : Buffer} {fresh : Nat → UInt8} {r : SetResults}
    {h : Handle} (ha : c.Attached) (hcam : c.impl.state.cameraComponent = some h)
    (halive : c.world.alive h = true) :
    videoBufferCallback h b fresh r c ≠ .error .deadObject := by
  -- A closed object refers to no component, so none of its frames is delivered.
  have ho : c.impl.isOpened = true := by
    by_contra hc
    exact nomatch hcam.symm.trans (ha.closed (Bool.eq_false_iff.mpr hc))
  rcases ha.opened ho with ⟨_, _, _, _, hpool⟩
  have hkeep : (if c.impl.callbackData.wantsFrame b then c.impl.keepFrame b fresh
      else c.impl).state = c.impl.state := by
    split <;> rfl
  have hrefresh : ∃ w, refreshShutter c.impl.state r c.world = .ok w := by
    unfold refreshShutter
    by_cases hs : c.impl.state.shutterSpeed ≠ 0 ∧ c.impl.state.rpcExposureMode = .fixedfps
    · rw [if_pos hs, hcam]
      exact ⟨_, sendTo_ok halive _ _ r⟩
    · rw [if_neg hs]
      exact ⟨_, rfl⟩
  rcases hrefresh with ⟨w, hw⟩
  simp only [videoBufferCallback, hkeep, hw, ok_bind]
  by_cases hen : c.world.portEnabled h cameraVideoPort = true
  · rw [if_pos hen]
    cases hq : c.impl.state.videoPool with
    -- A null pool is not a dead one.
    | none => exact nofun
    | some q =>
        rw [usePool_of_alive (hpool q hq), ok_bind]
        exact nofun
  · rw [if_neg hen, ok_bind]
    exact nofun

/-- Nothing that was destroyed is used. -/
theorem sound_of_attached {c : Camera} (o : Op) (ha : c.Attached) : o.Sound c := by
  intro hen
  -- Every call reaches the device through the component, its port or its pool,
  -- and `Attached` says that these are live.
  cases o with
  | set x r =>
      rcases x.apply_total r ha with ⟨c', hc'⟩
      exact fun hc => nomatch hc'.symm.trans hc
  | openCamera startCapturing out =>
      simp only [exec]
      cases hd : openCamera startCapturing out c with
      | error e => exact fun hc => openCamera_sound (hd.trans (by rw [← Except.error.inj hc]))
      | ok d => exact nofun
  | startCapture r =>
      simp only [exec]
      cases hd : startCapture r c with
      | error e => exact fun hc => startCapture_sound ha (hd.trans (by rw [← Except.error.inj hc]))
      | ok d => exact nofun
  | release =>
      by_cases ho : c.impl.isOpened = true
      · rcases releaseWith_effect true true ha ho with ⟨d, hd, _⟩
        exact fun hc => nomatch hd.symm.trans hc
      · simp only [exec, release, if_pos (Bool.eq_false_iff.mpr ho)]
        exact nofun
  | frame b fresh r =>
      rcases delivers_iff.mp hen with ⟨h, _, hcam, _⟩
      have ho : c.impl.isOpened = true := by
        by_contra hc
        exact nomatch hcam.symm.trans (ha.closed (Bool.eq_false_iff.mpr hc))
      rcases ha.opened ho with ⟨g, hg, _, halive, _⟩
      have hgh : g = h := Option.some.inj (hg.symm.trans hcam)
      subst hgh
      simp only [exec, hcam, useComponent_of_alive halive, ok_bind]
      cases hd : videoBufferCallback g b fresh r c with
      | error e =>
          exact fun hc => videoBufferCallback_sound ha hcam halive
            (hd.trans (by rw [← Except.error.inj hc]))
      | ok d => exact nofun
  | _ => exact nofun

theorem Camera.Ledger.sameOwner {c c' : Camera} (hl : c.Ledger) (hs : SameOwner c c') :
    c'.Ledger := by
  refine ⟨hl.attached.sameOwner hs, fun hc => ?_, fun h hh ho => ?_⟩
  · rw [hs.deaths, hs.poolDeaths]
    exact hl.closed (hs.isOpened ▸ hc)
  · rw [hs.deaths, hs.poolDeaths, hs.videoPool]
    exact hl.opened h (hs.cameraComponent ▸ hh) (hs.isOpened ▸ ho)

theorem Camera.Ledger.released {c c' : Camera} (hl : c.Ledger) (ho : c.impl.isOpened = true)
    (hr : Released c c') : c'.Ledger := by
  refine ⟨hr.attached, fun _ => ?_,
    fun _ _ hc => absurd (hr.isOpened.symm.trans hc) Bool.false_ne_true⟩
  rcases hl.attached.opened ho with ⟨h, hcam, _⟩
  rcases hl.opened h hcam ho with ⟨hlast, hpool⟩
  refine ⟨?_, ?_⟩
  · rw [hr.deaths h hcam]
    exact allOnce_destroy hlast
  · rw [hr.poolDeaths]
    cases hq : c.impl.state.videoPool with
    | none =>
        rw [hq] at hpool
        exact hpool
    | some q =>
        rw [hq] at hpool
        exact allOnce_destroy hpool

theorem Camera.Ledger.opens {c d : Camera} (hl : c.Ledger) (hc : c.impl.isOpened = false)
    (hd : FreshlyOpened c d) : d.Ledger := by
  rcases hl.closed hc with ⟨hdeaths, hpools⟩
  refine ⟨hd.attached, fun ho => absurd (ho.symm.trans hd.isOpened) Bool.false_ne_true,
    fun h hh _ => ⟨?_, ?_⟩⟩
  · rw [hd.cameraComponent, Option.mem_some_iff] at hh
    rw [hd.deaths, ← hh, ← World.deaths_length]
    exact onlyLast_create hdeaths
  · have hpool := hd.pool
    cases hq : d.impl.state.videoPool with
    | none =>
        rw [hq] at hpool
        simp only [hpool]
        exact hpools
    | some q =>
        rw [hq] at hpool
        simp only [hpool]
        exact onlyLast_create hpools

/-- An attempt to open that fails leaves the ledgers in order exactly when it
    leaves no pool behind. -/
theorem Camera.Ledger.fails_iff {o : OpenOutcome} {c c' : Camera} (hl : c.Ledger)
    (hf : FailedOpen o c c') (ha : c'.Attached) : c'.Ledger ↔ ¬ o.LeaksPool := by
  rcases hl.closed hf.before with ⟨hdeaths, hpools⟩
  constructor
  · -- A pool that was left behind is a last entry that stays zero.
    intro hl' hleak
    have hpool := (hl'.closed hf.isOpened).2
    rw [hf.poolDeaths, if_pos hleak] at hpool
    exact not_allOnce_create _ hpool
  · intro hkept
    refine ⟨ha, fun _ => ⟨?_, ?_⟩,
      fun _ _ ho => absurd (hf.isOpened.symm.trans ho) Bool.false_ne_true⟩
    · rcases hf.deaths with hd | hd
      · rw [hd]
        exact hdeaths
      · rw [hd]
        exact allOnce_concat_iff.mpr ⟨hdeaths, rfl⟩
    · rw [hf.poolDeaths, if_neg hkept]
      exact hpools

/-- When an operation leaves the ledgers in order. -/
theorem ledger_step (c : Camera) (o : Op) (c' : Camera) (hl : c.Ledger) (h : step c o = some c') :
    c'.Ledger ↔ o.KeepsLedger c := by
  cases step_effect hl.attached h with
  | keeps h ho => exact iff_of_true (hl.sameOwner h) ho
  | releases hopen h ho => exact iff_of_true (hl.released hopen h) ho
  | opens d hclosed hd h ho =>
      refine iff_of_true ?_ ho
      rcases h with h | h
      · exact (hl.opens hclosed hd).sameOwner h
      · exact (hl.opens hclosed hd).released hd.isOpened h
  | fails b out ho hf =>
      subst ho
      refine (hl.fails_iff hf (attached_step c _ c' hl.attached h)).trans ?_
      exact ⟨fun hkept _ => hkept, fun hkept => hkept hf.before⟩

theorem ledger_init : Camera.init.Ledger :=
  ⟨⟨fun _ => rfl, fun ho => absurd ho Bool.false_ne_true, fun hc => absurd hc Bool.false_ne_true⟩,
    fun _ => ⟨allOnce_nil, allOnce_nil⟩, fun _ _ ho => absurd ho Bool.false_ne_true⟩

/-- Whatever is called and whatever MMAL answers, nothing is used after it was
    destroyed. -/
theorem sound_run (os : List Op) : Throughout step (fun c o => o.Sound c) Camera.init os := by
  have hall : ∀ (c : Camera) (ls : List Op), Throughout step (fun _ _ => True) c ls := by
    intro c ls
    induction ls generalizing c with
    | nil => trivial
    | cons l ls ih => exact ⟨trivial, fun s' _ => ih s'⟩
  exact throughout_of attached_step (fun c o ha _ => sound_of_attached o ha) ledger_init.attached
    (hall _ os)

/-- Everything the camera creates is destroyed exactly once and never used
    afterwards, and nothing is live while it is closed, exactly in the runs in
    which no attempt to open fails after it created a pool. -/
theorem ledger_iff {os : List Op} :
    (Always step Camera.Ledger .init os ∧ Throughout step (fun c o => o.Sound c) .init os) ↔
      Along step (fun c o => o.KeepsLedger c) Camera.init os := by
  refine ⟨fun h => ?_, fun h => ⟨?_, sound_run os⟩⟩
  · exact (always_iff_along ledger_step ledger_init).mp h.1
  · exact (always_iff_along ledger_step ledger_init).mpr h

/-- The component of a camera that has a pool cannot be enabled. -/
theorem pool_left_by_failed_open :
    ¬ (Always step Camera.Ledger .init [.openCamera true { OpenOutcome.allOk with
          componentEnable := false }] ∧
        Throughout step (fun c o => o.Sound c) .init [.openCamera true { OpenOutcome.allOk with
          componentEnable := false }]) := by
  rintro ⟨h, _⟩
  have hrun : run step .init [.openCamera true { OpenOutcome.allOk with componentEnable := false }]
    = some _ := rfl
  exact absurd ((always_last h hrun).closed rfl).2 (not_allOnce_create [])

end Video

end RaspiCam
