import RaspiCam.Video.Stages

/-!
# Are Callbacks Prepared?

The two callbacks follow `port->userdata` without looking at it; the one of the
video port looks at it after it has followed it. `create_camera_component`
enables the ports, and from then on MMAL may call the callbacks; `open` assigns
the data after everything was committed.

`prepared_iff` says that callbacks are prepared exactly in the runs in which
none is called on a port that `open` has enabled and not given its data yet.

## Main definitions

* `StageOp.Prepared`: The callback that is called finds its data.
* `Spot.preparing`: A port is enabled and has no data yet.
* `Wired`: What the ports are like at every spot.

## Theorems

* `wired_createStep`, `wired_attachStep`, `wired_captureStep`,
  `wired_releaseStep`: The steps of the client keep them so.
* `wired_step`: So does everything else.
* `prepared_iff_inTime`: When a callback is prepared.
* `prepared_iff`: The runs in which all of them are.
* `early_event_unprepared`: A run in which one is not.
-/

namespace RaspiCam

open Mmal Machine Transition

namespace Mmal

namespace World

theorem userdata_forgetParams (w : World) (h : Handle) (p : PortId) :
    w.forgetParams.userdata h p = w.userdata h p := by
  simp only [userdata, getElem?_forgetParams]
  cases w.components[h]? <;> rfl

/-- A change to a component that leaves the data of its ports alone. -/
theorem userdata_modify (w : World) (h h' : Handle) (p : PortId) (f : Component → Component)
    (hf : ∀ c, (f c).userdata = c.userdata) : (w.modify h f).userdata h' p = w.userdata h' p :=
  w.read_modify h h' (fun o => o.bind fun c => c.userdata p) fun c => congrFun (hf c) p

/-- A port that is enabled after another one was enabled or disabled. -/
theorem portEnabled_setPortEnabled {w : World} {h g : Handle} {p q : PortId} {b : Bool}
    (hen : (w.setPortEnabled h p b).portEnabled g q = true) :
    w.portEnabled g q = true ∨ b = true ∧ g = h ∧ q = p := by
  simp only [portEnabled, setPortEnabled, getElem?_modify] at hen ⊢
  by_cases hh : h = g
  · rw [if_pos hh] at hen
    cases hc : w.components[g]? with
    | none =>
        rw [hc] at hen
        exact absurd hen Bool.false_ne_true
    | some c =>
        rw [hc] at hen
        by_cases hq : q = p
        · simp only [Option.map_some, if_pos hq] at hen
          exact Or.inr ⟨hen, hh.symm, hq⟩
        · simp only [Option.map_some, if_neg hq] at hen
          exact Or.inl hen
  · rw [if_neg hh] at hen
    exact Or.inl hen

/-- A destroyed component has no port that is enabled. -/
theorem portEnabled_destroyComponent {w : World} {h g : Handle} {p : PortId}
    (hen : (w.destroyComponent h).portEnabled g p = true) : w.portEnabled g p = true ∧ g ≠ h := by
  simp only [portEnabled, destroyComponent, getElem?_modify] at hen ⊢
  by_cases hh : h = g
  · rw [if_pos hh] at hen
    cases hc : w.components[g]? with
    | none =>
        rw [hc] at hen
        exact absurd hen Bool.false_ne_true
    | some c =>
        rw [hc] at hen
        exact absurd hen Bool.false_ne_true
  · rw [if_neg hh] at hen
    exact ⟨hen, fun hg => hh hg.symm⟩

theorem portEnabled_createComponent (w : World) (k : ComponentKind) (formats : PortId → EsFormat)
    (g : Handle) (p : PortId) :
    (w.createComponent k formats).portEnabled g p = w.portEnabled g p := by
  simp only [portEnabled, createComponent]
  rcases Nat.lt_trichotomy g w.components.length with hlt | rfl | hgt
  · rw [List.getElem?_append_left hlt]
  · rw [List.getElem?_concat_length, List.getElem?_eq_none (Nat.le_refl _)]
    rfl
  · rw [List.getElem?_eq_none (by rw [List.length_append]; exact hgt),
      List.getElem?_eq_none (Nat.le_of_lt hgt)]

/-- A component that was just created has no data. -/
theorem userdata_createComponent (w : World) (k : ComponentKind) (formats : PortId → EsFormat)
    (p : PortId) : (w.createComponent k formats).userdata w.nextComponent p = none := by
  simp only [userdata, createComponent, nextComponent, List.getElem?_concat_length]
  rfl

theorem userdata_setUserdata {w : World} {h : Handle} (ha : w.alive h = true) (p q : PortId)
    (u : Option Nat) :
    (w.setUserdata h p u).userdata h q = if q = p then u else w.userdata h q := by
  rcases alive_getElem ha with ⟨c, hc, _⟩
  simp only [userdata, setUserdata, getElem?_modify, if_true, hc, Option.map_some, Option.bind_some]

/-- Neither the ports nor their data have to do with parameters. -/
theorem ports_congr {w v : World} (h : v.forgetParams = w.forgetParams) :
    v.portEnabled = w.portEnabled ∧ v.userdata = w.userdata := by
  refine ⟨funext fun g => funext fun p => ?_, funext fun g => funext fun p => ?_⟩
  · rw [← portEnabled_forgetParams, h, portEnabled_forgetParams]
  · rw [← userdata_forgetParams, h, userdata_forgetParams]

end World

end Mmal

namespace Video

/-- A callback that is called finds its data. -/
def StageOp.Prepared (s : Staged) : StageOp → Prop
  | .control camera _ => s.camera.world.portEnabled camera .control = true →
      s.camera.Prepared camera .control
  | .frame camera _ _ _ => s.camera.world.portEnabled camera cameraVideoPort = true →
      s.camera.Prepared camera cameraVideoPort
  | _ => True

/-- A port may be enabled. -/
def Spot.listens : Spot → PortId → Bool
  | .creating _ .created, _ => false
  | .creating _ .requested, _ => false
  | .creating _ .controlEnabled, p => p = .control
  | .creating _ .formatCommitted, p => p = .control
  | _, _ => true

/-- A port has its data. -/
def Spot.supplied : Spot → PortId → Bool
  | .creating _ _, _ => false
  | .attaching .attached, _ => true
  | .attaching .videoAttached, p => p = cameraVideoPort
  | .attaching _, _ => false
  | _, _ => true

/-- `open` has enabled the port and not given it its data yet. -/
def Spot.preparing (t : Spot) (p : PortId) : Bool := t.listens p && !t.supplied p

/-- No callback is called on a port that is being prepared. -/
def StageOp.InTime (s : Staged) : StageOp → Prop
  | .control camera _ => s.camera.world.portEnabled camera .control = true →
      s.spot.preparing .control = false
  | .frame camera _ _ _ => s.camera.world.portEnabled camera cameraVideoPort = true →
      s.spot.preparing cameraVideoPort = false
  | _ => True

/-- The component the ports of which are in question. -/
def Staged.current (s : Staged) : Option Handle :=
  match s.spot with
  | .creating camera _ => some camera
  | _ => s.camera.impl.state.cameraComponent

/-- The data of the object refers to the object. -/
def Spot.tied : Spot → Bool
  | .creating _ _ => false
  | .attaching (.committing _) => false
  | .attaching .pointing => false
  | _ => true

/-- A step of `commitParameters` changes parameters and settings only. -/
def QuietCommit (commit : Commit) : Prop :=
  ∀ s r w s' w', commit s r w = .ok (s', w') →
    s'.cameraComponent = s.cameraComponent ∧ w'.forgetParams = w.forgetParams

/-- What the object is like at a spot. -/
def PrivateImpl.At (p : PrivateImpl) : Spot → Prop
  | .idle => p.isOpened = false → p.state.cameraComponent = none
  | .creating _ _ => p.isOpened = false ∧ p.state.cameraComponent = none
  | .attaching (.committing rest) => ∀ commit ∈ rest, QuietCommit commit
  | .capturing => p.isOpened = true
  | .attaching .pointed => ∃ h, p.state.cameraComponent = some h ∧
      p.cameraVideoPort = some ⟨h, Mmal.cameraVideoPort⟩
  | .releasing .forget => p.state.cameraComponent = none
  | _ => True

/-- Only the current component has ports that are enabled, and only those that
    should be; they have their data as far as it was supplied. -/
structure Wired (s : Staged) : Prop where
  spot : s.camera.impl.At s.spot
  listening : ∀ g p, s.camera.world.portEnabled g p = true →
    s.current = some g ∧ s.spot.listens p = true
  userdata : ∀ g ∈ s.current, ∀ p, p = .control ∨ p = cameraVideoPort →
    s.camera.world.userdata g p = if s.spot.supplied p then some 0 else none
  tied : s.spot.tied = true → s.current ≠ none → s.camera.impl.callbackData.attached = true

/-- A port that has its data has it from an object that is tied to it. -/
theorem Spot.tied_of_supplied {t : Spot} {p : PortId} (h : t.supplied p = true) :
    t.tied = true := by
  cases t with
  | creating camera phase => exact absurd h Bool.false_ne_true
  | attaching phase => cases phase <;> first | rfl | exact absurd h Bool.false_ne_true
  | _ => rfl

/-- A port that is enabled is prepared unless it is being prepared. -/
theorem Wired.supplied_iff {s : Staged} (h : Wired s) {g : Handle} {p : PortId}
    (hp : p = .control ∨ p = cameraVideoPort) (hen : s.camera.world.portEnabled g p = true) :
    s.camera.Prepared g p ↔ s.spot.preparing p = false := by
  rcases h.listening g p hen with ⟨hcur, hlisten⟩
  have hdata := h.userdata g hcur p hp
  unfold Camera.Prepared Spot.preparing
  rw [hdata, hlisten]
  cases hs : s.spot.supplied p with
  | false =>
      refine iff_of_false (fun hc => ?_) fun hc => absurd hc.symm Bool.false_ne_true
      exact absurd hc.1.symm (Option.some_ne_none 0)
  | true =>
      refine iff_of_true ⟨rfl, h.tied (Spot.tied_of_supplied hs) ?_⟩ rfl
      exact fun hc => absurd (hcur.symm.trans hc) (Option.some_ne_none g)

/-- A step that leaves the ports and their data alone. -/
theorem Wired.moves {s : Staged} (h : Wired s) {t : Spot} {c : Camera}
    (hports : c.world.portEnabled = s.camera.world.portEnabled ∧
      c.world.userdata = s.camera.world.userdata)
    (hcur : ({ s with spot := t, camera := c } : Staged).current = s.current) (hat : c.impl.At t)
    (hlisten : ∀ p, s.spot.listens p = true → t.listens p = true)
    (hsupplied : ∀ p, t.supplied p = s.spot.supplied p)
    (htied : t.tied = true → s.current ≠ none → c.impl.callbackData.attached = true) :
    Wired { s with spot := t, camera := c } where
  spot := hat
  listening g p hen := by
    have hs := h.listening g p ((congrFun (congrFun hports.1 g) p).symm.trans hen)
    exact ⟨hcur.trans hs.1, hlisten p hs.2⟩
  userdata g hg p hp := by
    rw [hcur] at hg
    rw [hsupplied]
    exact (congrFun (congrFun hports.2 g) p).trans (h.userdata g hg p hp)
  tied ht hc := htied ht (hcur ▸ hc)

/-- When there is no current component, no port is enabled. -/
theorem Wired.silent {s : Staged} (h : Wired s) (hcur : s.current = none) (g : Handle)
    (p : PortId) :
    ¬ s.camera.world.portEnabled g p = true := fun hen =>
  absurd ((h.listening g p hen).1.symm.trans hcur) (Option.some_ne_none g)

/-- Without a component and with nothing enabled there is nothing to prepare. -/
theorem wired_silent {s : Staged} (hat : s.camera.impl.At s.spot) (hcur : s.current = none)
    (hsilent : ∀ g p, ¬ s.camera.world.portEnabled g p = true) : Wired s where
  spot := hat
  listening g p hen := absurd hen (hsilent g p)
  userdata g hg := absurd (hg.symm.trans hcur) (Option.some_ne_none g)
  tied _ hc := absurd hcur hc

theorem ports_trySet (h : Handle) (p : PortId) (q : Param) (r : SetResults) (w : World) :
    (trySet h p q r w).portEnabled = w.portEnabled ∧ (trySet h p q r w).userdata = w.userdata :=
  World.ports_congr (forgetParams_trySet h p q r w)

/-- A change to a component that has to do neither with its ports nor with
    their data. -/
theorem ports_modify (w : World) (h : Handle) (f : Component → Component)
    (hf : ∀ c, (f c).portEnabled = c.portEnabled ∧ (f c).userdata = c.userdata) :
    (w.modify h f).portEnabled = w.portEnabled ∧ (w.modify h f).userdata = w.userdata :=
  ⟨funext fun g => funext fun p => World.portEnabled_modify w h g p f fun c => (hf c).1,
    funext fun g => funext fun p => World.userdata_modify w h g p f fun c => (hf c).2⟩

theorem ports_writeFormat (w : World) (h : Handle) (p : PortId) (f : EsFormat → EsFormat) :
    (w.writeFormat h p f).portEnabled = w.portEnabled ∧
      (w.writeFormat h p f).userdata = w.userdata := ports_modify w h _ fun _ => ⟨rfl, rfl⟩

theorem ports_commitFormat (w : World) (h : Handle) (p : PortId) :
    (w.commitFormat h p true).portEnabled = w.portEnabled ∧
      (w.commitFormat h p true).userdata = w.userdata := ports_modify w h _ fun _ => ⟨rfl, rfl⟩

theorem ports_setEnabled (w : World) (h : Handle) (b : Bool) :
    (w.setEnabled h b).portEnabled = w.portEnabled ∧ (w.setEnabled h b).userdata = w.userdata :=
  ports_modify w h _ fun _ => ⟨rfl, rfl⟩

/-- Destroying the component that could not be configured. -/
theorem Wired.abandon {s : Staged} (h : Wired s) {camera : Handle} {phase : CreatePhase}
    (hs : s.spot = .creating camera phase) {p : PrivateImpl} {w : World}
    (hcam : p.state.cameraComponent = s.camera.impl.state.cameraComponent)
    (hports : w.portEnabled = s.camera.world.portEnabled) :
    Wired { s with spot := .idle, camera := ⟨p, w.destroyComponent camera⟩ } := by
  have hat := h.spot
  rw [hs] at hat
  have hnone : p.state.cameraComponent = none := hcam.trans hat.2
  refine wired_silent (fun _ => hnone) hnone fun g q hen => ?_
  rcases World.portEnabled_destroyComponent hen with ⟨hen, hne⟩
  rw [hports] at hen
  have hcur := (h.listening g q hen).1
  rw [Staged.current, hs] at hcur
  exact hne (Option.some.inj hcur).symm

/-- Enabling a port of the component that is being configured. -/
theorem Wired.enables {c : Camera} {camera : Handle} {phase next : CreatePhase} {b : Bool}
    {o : OpenOutcome} (h : Wired ⟨c, .creating camera phase, b, o⟩) {p : PortId}
    (hlisten : ∀ q, (Spot.creating camera phase).listens q = true ∨ q = p →
      (Spot.creating camera next).listens q = true) :
    Wired ⟨⟨c.impl, c.world.setPortEnabled camera p true⟩, .creating camera next, b, o⟩ where
  spot := h.spot
  listening g q hen := by
    rcases World.portEnabled_setPortEnabled hen with hen | ⟨_, hg, hq⟩
    · have hs := h.listening g q hen
      exact ⟨hs.1, hlisten q (Or.inl hs.2)⟩
    · exact ⟨congrArg some hg.symm, hlisten q (Or.inr hq)⟩
  userdata g hg q hq := by
    refine Eq.trans ?_ (h.userdata g hg q hq)
    exact World.userdata_modify c.world camera g q _ fun _ => rfl
  tied ht _ := absurd ht Bool.false_ne_true

theorem commitOnly_quiet {commit : RaspividState → SetResults → World → Except Fault World}
    (h : Quiet commit) : QuietCommit (commitOnly commit) := by
  intro s r w s' w' hx
  rcases bind_ok hx with ⟨v, hv, hx⟩
  rcases Prod.mk.inj (Except.ok.inj hx) with ⟨rfl, rfl⟩
  exact ⟨rfl, h _ _ _ _ hv⟩

theorem commitShutter_quiet : QuietCommit commitShutter := by
  intro s r w s' w' hx
  rcases bind_ok hx with ⟨v, hv, hx⟩
  rcases Prod.mk.inj (Except.ok.inj hx) with ⟨rfl, rfl⟩
  by_cases hs : s.shutterSpeed ≠ 0
  · rw [if_pos hs] at hv ⊢
    exact ⟨rfl, commitShutterSpeed_quiet _ _ _ _ hv⟩
  · rw [if_neg hs] at hv ⊢
    rw [Except.ok.inj hv]
    exact ⟨rfl, rfl⟩

theorem commits_quiet : ∀ commit ∈ commits, QuietCommit commit := by
  unfold commits
  simp only [List.forall_mem_cons]
  exact ⟨commitOnly_quiet commitSaturation_quiet, commitOnly_quiet commitSharpness_quiet,
    commitOnly_quiet commitContrast_quiet, commitOnly_quiet commitBrightness_quiet,
    commitOnly_quiet commitIso_quiet, commitShutter_quiet, commitOnly_quiet commitExposure_quiet,
    commitOnly_quiet commitExposureCompensation_quiet, commitOnly_quiet commitMetering_quiet,
    commitOnly_quiet commitImageEffect_quiet, commitOnly_quiet commitRotation_quiet,
    commitOnly_quiet commitFlips_quiet, commitOnly_quiet commitVideoStabilization_quiet,
    commitOnly_quiet commitAwb_quiet, commitOnly_quiet commitAwbRb_quiet,
    fun _ h => absurd h List.not_mem_nil⟩

/-- The steps of `create_camera_component`. -/
theorem wired_createStep {c : Camera} {camera : Handle} {phase : CreatePhase} {b : Bool}
    {o : OpenOutcome} (h : Wired ⟨c, .creating camera phase, b, o⟩) :
    Wired ⟨(createStep o camera c phase).2, (createStep o camera c phase).1, b, o⟩ := by
  have hsame : ∀ {w : World}, w.portEnabled = c.world.portEnabled ∧ w.userdata = c.world.userdata →
      ∀ (q : Param), (trySet camera .control q o.sets w).portEnabled = c.world.portEnabled ∧
        (trySet camera .control q o.sets w).userdata = c.world.userdata := fun hw q =>
    ⟨(ports_trySet _ _ q _ _).1.trans hw.1, (ports_trySet _ _ q _ _).2.trans hw.2⟩
  cases phase with
  | created =>
      unfold createStep
      by_cases hout : o.outputPorts = false
      · rw [if_pos hout]
        exact h.abandon rfl rfl rfl
      rw [if_neg hout]
      have hsensor : ∃ w, w = (if c.impl.state.sensorMode ≠ 0 then
          trySet camera .control (.cameraCustomSensorConfig (u32 c.impl.state.sensorMode)) o.sets
            c.world
        else c.world) ∧ w.portEnabled = c.world.portEnabled ∧
          w.userdata = c.world.userdata := by
        by_cases hs : c.impl.state.sensorMode ≠ 0
        · rw [if_pos hs]
          exact ⟨_, rfl, hsame ⟨rfl, rfl⟩ _⟩
        · rw [if_neg hs]
          exact ⟨_, rfl, rfl, rfl⟩
      rcases hsensor with ⟨w, hw, hports⟩
      simp only [← hw]
      have hall := hsame (hsame hports (.cameraConfig (cameraConfig c.impl.state)))
        (.changeEventRequest true)
      by_cases hreq : o.sets.param .control .changeEventRequest = false
      · rw [if_pos hreq]
        exact h.abandon rfl rfl hall.1
      · rw [if_neg hreq]
        exact h.moves hall rfl h.spot (fun _ hp => hp) (fun _ => rfl)
          fun ht _ => absurd ht Bool.false_ne_true
  | requested =>
      unfold createStep
      by_cases hc : o.controlEnable = false
      · rw [if_pos hc]
        exact h.abandon rfl rfl rfl
      · rw [if_neg hc]
        refine h.enables fun q hq => ?_
        rcases hq with hq | rfl
        · exact absurd hq Bool.false_ne_true
        · rfl
  | controlEnabled =>
      unfold createStep
      have hwrite := ports_writeFormat c.world camera cameraVideoPort
        (videoFormat c.impl.state c.impl.rgbBgrFixed)
      by_cases hf : o.sets.formatCommit = false
      · simp only [if_pos hf]
        exact h.abandon rfl rfl hwrite.1
      · simp only [if_neg hf]
        have hcommit := ports_commitFormat (c.world.writeFormat camera cameraVideoPort
          (videoFormat c.impl.state c.impl.rgbBgrFixed)) camera cameraVideoPort
        exact h.moves ⟨hcommit.1.trans hwrite.1, hcommit.2.trans hwrite.2⟩ rfl h.spot
          (fun _ hp => hp) (fun _ => rfl) fun ht _ => absurd ht Bool.false_ne_true
  | formatCommitted =>
      unfold createStep
      by_cases hv : o.videoEnable = false
      · rw [if_pos hv]
        exact h.abandon rfl rfl rfl
      · rw [if_neg hv]
        exact h.enables fun _ _ => rfl
  | videoEnabled =>
      refine h.moves ?_ rfl h.spot (fun _ hp => hp) (fun _ => rfl)
        fun ht _ => absurd ht Bool.false_ne_true
      unfold createStep
      cases o.poolCreate with
      | true => exact ⟨rfl, rfl⟩
      | false => exact ⟨rfl, rfl⟩
  | pooled =>
      unfold createStep
      by_cases he : o.componentEnable = false
      · rw [if_pos he]
        exact h.abandon rfl rfl rfl
      · rw [if_neg he]
        exact h.moves (ports_setEnabled c.world camera true) rfl h.spot
          (fun _ hp => hp) (fun _ => rfl) fun ht _ => absurd ht Bool.false_ne_true
  | enabled =>
      exact h.moves ⟨rfl, rfl⟩ rfl commits_quiet (fun _ hp => hp) (fun _ => rfl)
        fun ht _ => absurd ht Bool.false_ne_true

/-- The steps of `open` after that. -/
theorem wired_attachStep {c c' : Camera} {phase : AttachPhase} {t : Spot} {b : Bool}
    {o : OpenOutcome} (h : Wired ⟨c, .attaching phase, b, o⟩)
    (hx : attachStep b o.sets c phase = .ok (t, c')) : Wired ⟨c', t, b, o⟩ := by
  have hcv : ¬ PortId.control = cameraVideoPort := by decide
  cases phase with
  | committing rest =>
      cases rest with
      | nil =>
          rcases Prod.mk.inj (Except.ok.inj hx) with ⟨rfl, rfl⟩
          exact h.moves ⟨rfl, rfl⟩ rfl trivial (fun _ hp => hp) (fun _ => rfl)
            fun ht _ => absurd ht Bool.false_ne_true
      | cons commit rest =>
          rcases bind_ok hx with ⟨⟨s', w'⟩, hcommit, hx⟩
          rcases Prod.mk.inj (Except.ok.inj hx) with ⟨rfl, rfl⟩
          have hquiet : ∀ k ∈ commit :: rest, QuietCommit k := h.spot
          rcases hquiet commit List.mem_cons_self _ _ _ _ _ hcommit with ⟨hcam, hworld⟩
          exact h.moves (World.ports_congr hworld) hcam
            (fun k hk => hquiet k (List.mem_cons_of_mem commit hk)) (fun _ hp => hp) (fun _ => rfl)
            fun ht _ => absurd ht Bool.false_ne_true
  | pointing =>
      rcases bind_ok hx with ⟨camera, hcam, hx⟩
      rcases Prod.mk.inj (Except.ok.inj hx) with ⟨rfl, rfl⟩
      exact h.moves ⟨rfl, rfl⟩ rfl ⟨camera, (useComponent_ok hcam).1, rfl⟩ (fun _ hp => hp)
        (fun _ => rfl) fun _ _ => rfl
  | pointed =>
      rcases bind_ok hx with ⟨port, hport, hx⟩
      rcases Prod.mk.inj (Except.ok.inj hx) with ⟨rfl, rfl⟩
      rcases usePort_ok hport with ⟨hport, halive⟩
      rcases h.spot with ⟨camera, hcam, hvideo⟩
      obtain rfl : port = ⟨camera, cameraVideoPort⟩ := Option.some.inj (hport.symm.trans hvideo)
      refine ⟨trivial, fun g p hen => ?_, fun g hg p hp => ?_, fun _ _ => h.tied rfl ?_⟩
      · exact h.listening g p
          ((World.portEnabled_setUserdata c.world camera g _ p _).symm.trans hen)
      · obtain rfl : camera = g := Option.some.inj (hcam.symm.trans hg)
        rw [World.userdata_setUserdata halive]
        rcases hp with rfl | rfl
        · rw [if_neg hcv, if_neg (show ¬ (Spot.attaching .videoAttached).supplied .control = true by
            decide)]
          exact h.userdata camera hcam .control (Or.inl rfl)
        · rfl
      · exact fun hc => absurd (hcam.symm.trans hc) (Option.some_ne_none camera)
  | videoAttached =>
      rcases bind_ok hx with ⟨camera, hcam, hx⟩
      rcases Prod.mk.inj (Except.ok.inj hx) with ⟨rfl, rfl⟩
      rcases useComponent_ok hcam with ⟨hcam, halive⟩
      refine ⟨trivial, fun g p hen => ?_, fun g hg p hp => ?_, fun _ _ => h.tied rfl ?_⟩
      · exact h.listening g p
          ((World.portEnabled_setUserdata c.world camera g _ p _).symm.trans hen)
      · obtain rfl : camera = g := Option.some.inj (hcam.symm.trans hg)
        rw [World.userdata_setUserdata halive]
        rcases hp with rfl | rfl
        · rfl
        · rw [if_neg fun hc => hcv hc.symm]
          exact h.userdata camera hcam cameraVideoPort (Or.inr rfl)
      · exact fun hc => absurd (hcam.symm.trans hc) (Option.some_ne_none camera)
  | attached =>
      rcases Prod.mk.inj (Except.ok.inj hx) with ⟨rfl, rfl⟩
      have hidle : ∀ {t : Spot}, t = .idle ∨ t = .capturing →
          Wired ⟨⟨{ c.impl with isOpened := true }, c.world⟩, t, b, o⟩ := by
        intro t ht
        rcases ht with rfl | rfl
        · exact h.moves ⟨rfl, rfl⟩ rfl (fun hc => absurd hc.symm Bool.false_ne_true)
            (fun _ hp => hp) (fun _ => rfl) fun _ => h.tied rfl
        · exact h.moves ⟨rfl, rfl⟩ rfl rfl (fun _ hp => hp) (fun _ => rfl) fun _ => h.tied rfl
      by_cases hb : b = true
      · rw [if_pos hb]
        exact hidle (Or.inr rfl)
      · rw [if_neg hb]
        exact hidle (Or.inl rfl)

/-- Starting to capture. -/
theorem wired_captureStep {c c' : Camera} {t : Spot} {b : Bool} {o : OpenOutcome}
    (h : Wired ⟨c, .capturing, b, o⟩) (hx : captureStep o.sets c = .ok (t, c')) :
    Wired ⟨c', t, b, o⟩ := by
  rcases bind_ok hx with ⟨⟨ok, w⟩, hw, hx⟩
  have hports := World.ports_congr (setOn_forgetParams hw)
  simp only at hx
  by_cases hok : ok = false
  · rw [if_pos hok] at hx
    rcases Prod.mk.inj (Except.ok.inj hx) with ⟨rfl, rfl⟩
    exact h.moves hports rfl trivial (fun _ hp => hp) (fun _ => rfl) h.tied
  · rw [if_neg hok] at hx
    rcases bind_ok hx with ⟨_, _, hx⟩
    rcases Prod.mk.inj (Except.ok.inj hx) with ⟨rfl, rfl⟩
    have hopen : c.impl.isOpened = true := h.spot
    exact h.moves hports rfl (fun hc => absurd (hc.symm.trans hopen) Bool.false_ne_true)
      (fun _ hp => hp) (fun _ => rfl) h.tied

/-- The steps of `release`. -/
theorem wired_releaseStep {c c' : Camera} {phase : ReleasePhase} {t : Spot} {b : Bool}
    {o : OpenOutcome} (h : Wired ⟨c, .releasing phase, b, o⟩)
    (hx : releaseStep c phase = .ok (t, c')) : Wired ⟨c', t, b, o⟩ := by
  cases phase with
  | disablePort =>
      rcases bind_ok hx with ⟨d, hd, hx⟩
      rcases Prod.mk.inj (Except.ok.inj hx) with ⟨rfl, rfl⟩
      cases hport : c.impl.cameraVideoPort with
      | none =>
          rw [hport] at hd
          rw [← Except.ok.inj hd]
          exact h.moves ⟨rfl, rfl⟩ rfl trivial (fun _ hp => hp) (fun _ => rfl) h.tied
      | some port =>
          rw [hport] at hd
          rcases bind_ok hd with ⟨camera, _, hd⟩
          rw [← Except.ok.inj hd]
          by_cases hen : c.world.portEnabled camera port.port = true
          · rw [if_pos hen]
            refine ⟨trivial, fun g p hp => ?_, fun g hg p hp => ?_, h.tied⟩
            · rcases World.portEnabled_setPortEnabled hp with hp | ⟨hf, _⟩
              · exact h.listening g p hp
              · exact absurd hf Bool.false_ne_true
            · refine Eq.trans ?_ (h.userdata g hg p hp)
              exact World.userdata_modify c.world camera g p _ fun _ => rfl
          · rw [if_neg hen]
            exact h.moves ⟨rfl, rfl⟩ rfl trivial (fun _ hp => hp) (fun _ => rfl) h.tied
  | disableComponent =>
      rcases Prod.mk.inj (Except.ok.inj hx) with ⟨rfl, rfl⟩
      refine h.moves ?_ rfl trivial (fun _ hp => hp) (fun _ => rfl) h.tied
      cases c.impl.state.cameraComponent with
      | none => exact ⟨rfl, rfl⟩
      | some camera => exact ports_setEnabled c.world camera false
  | destroyPool =>
      rcases bind_ok hx with ⟨w, hw, hx⟩
      rcases Prod.mk.inj (Except.ok.inj hx) with ⟨rfl, rfl⟩
      refine h.moves ?_ rfl trivial (fun _ hp => hp) (fun _ => rfl) h.tied
      cases hpool : c.impl.state.videoPool with
      | none =>
          rw [hpool] at hw
          rw [← Except.ok.inj hw]
          exact ⟨rfl, rfl⟩
      | some pool =>
          rw [hpool] at hw
          rcases bind_ok hw with ⟨_, _, hw⟩
          rw [← Except.ok.inj hw]
          exact ⟨rfl, rfl⟩
  | destroyComponent =>
      rcases Prod.mk.inj (Except.ok.inj hx) with ⟨rfl, rfl⟩
      cases hcam : c.impl.state.cameraComponent with
      | none => exact wired_silent hcam hcam (h.silent hcam)
      | some camera =>
          refine wired_silent rfl rfl fun g p hen => ?_
          rcases World.portEnabled_destroyComponent hen with ⟨hen, hne⟩
          exact hne (Option.some.inj ((h.listening g p hen).1.symm.trans hcam))
  | forget =>
      rcases Prod.mk.inj (Except.ok.inj hx) with ⟨rfl, rfl⟩
      exact h.moves ⟨rfl, rfl⟩ rfl (fun _ => h.spot) (fun _ hp => hp) (fun _ => rfl) h.tied

/-- The methods that are one step leave the ports alone. -/
theorem step_direct {c c' : Camera} {o : Op} (ho : o.direct = true) (h : step c o = some c') :
    c'.world.forgetParams = c.world.forgetParams ∧
      c'.impl.callbackData.attached = c.impl.callbackData.attached := by
  rcases step_ok h with ⟨_, hx⟩
  cases o with
  | set x r =>
      have hkeeps := Setting.apply_keeps hx
      exact ⟨hkeeps.devices, congrArg PortUserdata.attached hkeeps.callbackData⟩
  | openCamera startCapturing out => exact absurd ho Bool.false_ne_true
  | startCapture r => exact absurd ho Bool.false_ne_true
  | release => exact absurd ho Bool.false_ne_true
  | frame b fresh r => exact absurd ho Bool.false_ne_true
  | control e => exact absurd ho Bool.false_ne_true
  | setFormat fmt =>
      rw [← Except.ok.inj hx]
      unfold setFormat
      split <;> exact ⟨rfl, rfl⟩
  | setSensorMode mode =>
      rw [← Except.ok.inj hx]
      unfold setSensorMode
      split <;> exact ⟨rfl, rfl⟩
  | grab =>
      rw [← Except.ok.inj hx]
      rw [grab_camera]
      exact ⟨rfl, rfl⟩
  | _ =>
      rw [← Except.ok.inj hx]
      exact ⟨rfl, rfl⟩

/-- A callback or a method that is one step keeps the ports as they should be. -/
theorem Wired.keeps {s : Staged} (h : Wired s) {c : Camera}
    (hworld : c.world.forgetParams = s.camera.world.forgetParams)
    (hcam : c.impl.state.cameraComponent = s.camera.impl.state.cameraComponent)
    (hport : c.impl.cameraVideoPort = s.camera.impl.cameraVideoPort)
    (hopen : c.impl.isOpened = s.camera.impl.isOpened)
    (hattached : c.impl.callbackData.attached = s.camera.impl.callbackData.attached) :
    Wired { s with camera := c } := by
  have hcur : ({ s with camera := c } : Staged).current = s.current := by
    unfold Staged.current
    cases s.spot <;> first | rfl | exact hcam
  have hat : c.impl.At s.spot := by
    have hold := h.spot
    unfold PrivateImpl.At at hold ⊢
    rw [hcam, hport, hopen]
    exact hold
  exact h.moves (World.ports_congr hworld) hcur hat (fun _ hp => hp) (fun _ => rfl)
    fun ht hc => hattached.trans (h.tied ht hc)

/-- What the next step of the client needs and does. -/
theorem advance_some {s s' : Staged} (h : stageStep s .advance = some s') :
    s.spot ≠ .idle ∧ ∃ r, s.next = .ok r ∧ s' = { s with spot := r.1, camera := r.2 } := by
  unfold stageStep at h
  cases hs : s.spot with
  | idle =>
      rw [hs] at h
      exact absurd h (Option.some_ne_none s').symm
  | _ =>
      refine ⟨Spot.noConfusion, ?_⟩
      rw [hs] at h
      cases hx : s.next with
      | error e =>
          rw [hx] at h
          exact absurd h (Option.some_ne_none s').symm
      | ok r =>
          rw [hx] at h
          exact ⟨r, rfl, (Option.some.inj h).symm⟩

/-- Whatever happens, the ports are as they should be. -/
theorem wired_step (s : Staged) (l : StageOp) (s' : Staged) (h : Wired s)
    (hstep : stageStep s l = some s') : Wired s' := by
  rcases s with ⟨c, t, b, o⟩
  cases l with
  | openCamera b' o' =>
      cases t with
      | idle =>
          simp only [stageStep] at hstep
          by_cases hc : c.impl.isOpened = true ∨ o'.componentCreate = false
          · rw [if_pos hc, Option.some.injEq] at hstep
            exact hstep ▸ h
          · rw [if_neg hc, Option.some.injEq] at hstep
            rw [← hstep]
            have hclosed : c.impl.isOpened = false := Bool.of_not_eq_true fun ho => hc (Or.inl ho)
            have hnone : c.impl.state.cameraComponent = none := h.spot hclosed
            refine ⟨⟨hclosed, hnone⟩, fun g p hen => ?_, fun g hg p hp => ?_,
              fun ht => absurd ht Bool.false_ne_true⟩
            · rw [World.portEnabled_createComponent] at hen
              exact absurd hen (h.silent hnone g p)
            · obtain rfl : c.world.nextComponent = g := Option.some.inj hg
              exact World.userdata_createComponent c.world .camera o'.formats p
      | _ => exact absurd hstep (Option.some_ne_none s').symm
  | startCapture r =>
      cases t with
      | idle =>
          simp only [stageStep] at hstep
          by_cases hc : c.impl.isOpened = true
          · rw [if_pos hc, Option.some.injEq] at hstep
            rw [← hstep]
            exact ⟨hc, h.listening, h.userdata, h.tied⟩
          · rw [if_neg hc, Option.some.injEq] at hstep
            exact hstep ▸ h
      | _ => exact absurd hstep (Option.some_ne_none s').symm
  | release =>
      cases t with
      | idle =>
          simp only [stageStep] at hstep
          by_cases hc : c.impl.isOpened = true
          · rw [if_pos hc, Option.some.injEq] at hstep
            rw [← hstep]
            exact ⟨trivial, h.listening, h.userdata, h.tied⟩
          · rw [if_neg hc, Option.some.injEq] at hstep
            exact hstep ▸ h
      | _ => exact absurd hstep (Option.some_ne_none s').symm
  | advance =>
      rcases advance_some hstep with ⟨hidle, ⟨t', c'⟩, hx, rfl⟩
      cases t with
      | idle => exact absurd rfl hidle
      | creating camera phase =>
          rw [← Except.ok.inj hx]
          exact wired_createStep h
      | attaching phase => exact wired_attachStep h hx
      | capturing => exact wired_captureStep h hx
      | releasing phase => exact wired_releaseStep h hx
  | call o' =>
      cases t with
      | idle =>
          simp only [stageStep] at hstep
          by_cases hd : o'.direct = true
          · rw [if_pos hd, Option.map_eq_some_iff] at hstep
            rcases hstep with ⟨c', hc', rfl⟩
            have hsame :=
              step_sameOwner (by cases o' <;> first | rfl | exact absurd hd Bool.false_ne_true) hc'
            rcases step_direct hd hc' with ⟨hworld, hattached⟩
            exact h.keeps hworld hsame.cameraComponent hsame.cameraVideoPort hsame.isOpened
              hattached
          · rw [if_neg hd] at hstep
            exact absurd hstep (Option.some_ne_none s').symm
      | _ => exact absurd hstep (Option.some_ne_none s').symm
  | control camera e =>
      simp only [stageStep] at hstep
      split at hstep
      · rw [← Option.some.inj hstep]
        cases e <;> exact h.keeps rfl rfl rfl rfl rfl
      · exact absurd hstep (Option.some_ne_none s').symm
  | frame camera buffer fresh r =>
      simp only [stageStep] at hstep
      split at hstep
      · cases hx : videoBufferCallback camera buffer fresh r c with
        | error e =>
            rw [hx] at hstep
            exact absurd hstep (Option.some_ne_none s').symm
        | ok d =>
            rw [hx] at hstep
            rw [← Option.some.inj hstep]
            rcases videoBufferCallback_ok hx with ⟨_, himpl, hworld⟩
            refine h.keeps hworld ?_ ?_ ?_ ?_ <;>
              · rw [himpl]
                split <;> rfl
      · exact absurd hstep (Option.some_ne_none s').symm

/-- While the ports are as they should be, a callback is prepared exactly when it
    is called in time. -/
theorem prepared_iff_inTime (s : Staged) (l : StageOp) (h : Wired s) :
    l.Prepared s ↔ l.InTime s := by
  cases l with
  | control camera e => exact forall_congr' fun hen => h.supplied_iff (Or.inl rfl) hen
  | frame camera b fresh r => exact forall_congr' fun hen => h.supplied_iff (Or.inr rfl) hen
  | _ => exact Iff.rfl

theorem wired_init : Wired .init :=
  wired_silent (fun _ => rfl) rfl fun _ _ hen => absurd hen Bool.false_ne_true

/-- Every callback that is called is prepared exactly when none is called on a
    port that `open` has enabled and not given its data yet. -/
theorem prepared_iff {ls : List StageOp} :
    Throughout stageStep (fun s l => l.Prepared s) .init ls ↔
      Throughout stageStep (fun s l => l.InTime s) .init ls :=
  ⟨throughout_of wired_step (fun s l h => (prepared_iff_inTime s l h).mp) wired_init,
    throughout_of wired_step (fun s l h => (prepared_iff_inTime s l h).mpr) wired_init⟩

/-- The camera reports its settings right after the control port was enabled:
    there is no data yet. -/
theorem early_event_unprepared : ¬ Throughout stageStep (fun s l => l.Prepared s) .init
    [.openCamera true .allOk, .advance, .advance,
      .control 0 (.cameraSettings 10000 ⟨1, 1⟩ ⟨1, 1⟩)] := by
  intro h
  have hevent := (((h.2 _ rfl).2 _ rfl).2 _ rfl).1 rfl
  exact absurd hevent.1.symm (Option.some_ne_none 0)

end Video

end RaspiCam
