import RaspiCam.Still.Calls

/-!
# Whether the Settings Reach the Device

`changedSettings` stands for everything the object would have to commit. It is
cleared by the commit inside `createCamera`, at a time when there is no
encoder, so the quality goes nowhere; and an attempt to initialize that fails
after that commit leaves it cleared for the next one, whose camera is then
told nothing at all. Only a setter sets it again, and `startCapture` then
commits everything, to a camera and an encoder that are both there.

So what `initialize` leaves behind is never enough for a capture
(`capture_committed_iff`): at the moment the camera is asked to capture, the
settings are on the device exactly when the object was initialized before the
picture was asked for and some setter was called since.

Every parameter set and every commit of `commitParameters` succeeds here. The
other calls may fail, and may be tried again.

## Main definitions

* `SettingsCommitted`: The camera and the encoder hold the current settings.
* `Session`: The object, and whether it was adjusted since it was initialized.
* `Op`, `step`: The operations and the system.
* `Settled`: What is known about the settings at any time.

## Theorems

* `commitParameters_settles`: What committing to an attached object does.
* `takePicture_settled`: What a picture makes of the settings.
* `settled_step`, `settled_run`: A run keeps track of what was committed.
* `capture_committed_iff`: The captures that find the settings committed.
* `quality_never_committed`: The first capture of a fresh object.
-/

namespace RaspiCam

open Mmal Machine Transition

namespace Still

/-- The live camera and the live encoder hold the settings of the object, and
    the format last committed on the encoder has its encoding. -/
def SettingsCommitted (c : StillCamera) : Prop :=
  ∃ h e, c.impl.camera = some h ∧ c.impl.encoder = some e ∧ c.world.alive h = true ∧
    c.world.alive e = true ∧
    (∀ q ∈ cameraParams c.impl, c.world.param h q.1 q.2.id = some q.2) ∧
    c.world.param e (.output 0) .jpegQFactor = some (.jpegQFactor c.impl.quality) ∧
    (c.world.committed e (.output 0)).map EsFormat.encoding
      = some (convertEncoding c.impl.encoding)

/-- The object and the device, and whether a setter was called since the
    object was last initialized. -/
structure Session where
  camera : StillCamera
  adjusted : Bool

/-- A fresh object. -/
def Session.init : Session := ⟨.init, false⟩

/-- The operations, with the results of the calls that may fail. -/
inductive Op
  | set (x : Setting)
  | initializeCamera (o : InitOutcome)
  | commitParameters
  | takePicture (o : InitOutcome) (q : PictureOutcome)

/-- The system. Initializing an object that is initialized does nothing;
    otherwise it has not been adjusted yet. -/
def step (s : Session) : Op → Option Session
  | .set x => some ⟨s.camera.onImpl x.apply, true⟩
  | .initializeCamera o => (initializeCamera o .allOk s.camera).toOption.map fun d =>
      ⟨d.2, s.camera.impl.isInitialized && s.adjusted⟩
  | .commitParameters => (commitParameters .allOk s.camera).toOption.map fun d =>
      ⟨d, s.adjusted⟩
  | .takePicture o q => (takePicture o q .allOk s.camera).toOption.map fun d =>
      ⟨d.2, s.camera.impl.isInitialized && s.adjusted⟩

theorem JustSetUp.sameDevice {c c' : StillCamera} (h : JustSetUp c) (hs : c.SameDevice c') :
    JustSetUp c' := by
  rcases h with ⟨g, e, ha, hflag, hquality⟩
  exact ⟨g, e, ha.sameDevice hs, by rw [hs.impl, hflag],
    by rw [hs.param e (.output 0) .jpegQFactor nofun, hquality]⟩

theorem SettingsCommitted.sameDevice {c c' : StillCamera} (h : SettingsCommitted c)
    (hs : c.SameDevice c') : SettingsCommitted c' := by
  rcases h with ⟨g, e, hcamera, hencoder, hg, he, hparams, hquality, hformat⟩
  refine ⟨g, e, by rw [hs.impl, hcamera], by rw [hs.impl, hencoder], by rw [hs.alive, hg],
    by rw [hs.alive, he], fun q hq => ?_, ?_, ?_⟩
  · rw [hs.impl] at hq
    rw [hs.param _ _ _ (cameraParams_ne _ (by decide) q hq), hparams q hq]
  · rw [hs.param e (.output 0) .jpegQFactor nofun, hs.impl, hquality]
  · rw [hs.committed, hs.impl, hformat]

/-- An object that was just set up has not told the encoder its quality. -/
theorem JustSetUp.not_committed {c : StillCamera} (h : JustSetUp c) : ¬ SettingsCommitted c := by
  rcases h with ⟨g, e, ha, _, hquality⟩
  rintro ⟨g', e', _, hencoder, _, _, _, hquality', _⟩
  have he : e = e' := Option.some.inj (ha.encoder.symm.trans hencoder)
  rw [← he, hquality] at hquality'
  exact absurd hquality' nofun

theorem not_committed_of_noCamera {c : StillCamera} (h : c.impl.camera = none) :
    ¬ SettingsCommitted c := by
  rintro ⟨g, _, hcamera, _⟩
  exact absurd (h.symm.trans hcamera) nofun

/-- The format an encoder accepted last has the encoding written to it. -/
theorem encoding_commitFormat {w : World} {e : Handle} (ha : w.alive e = true) (p : PortId)
    (m : MmalEncoding) :
    (((w.writeFormat e p fun f => { f with encoding := m }).commitFormat e p true).committed e
      p).map
      EsFormat.encoding = some m := by
  rcases World.alive_getElem ha with ⟨k, hk, _⟩
  have hat : ((w.writeFormat e p fun f => { f with encoding := m }).commitFormat e p true).At e
      fun c => (c.committed p).map EsFormat.encoding = some m := by
    rw [World.at_commitFormat, World.at_writeFormat]
    exact ⟨k, hk, by simp only [if_true, Option.map_some]⟩
  rcases hat with ⟨k', hk', hm⟩
  simp only [World.committed, hk', Option.bind_some, hm]

/-- Committing everything to an attached object puts all of it on the
    device. -/
theorem Attached.settingsCommitted {c c' : StillCamera} {h e : Handle} (ha : Attached c h e)
    (hflag : c.impl.changedSettings = true) (hc : commitParameters .allOk c = .ok c') :
    SettingsCommitted c' := by
  have hport : ∀ port ∈ c.impl.encoderOutputPort, c.world.alive port.component = true := by
    rintro port hport
    have heq : port = ⟨e, .output 0⟩ := by
      rw [ha.encoderOutputPort, Option.mem_some_iff] at hport
      exact hport.symm
    rw [heq, ha.encoderAlive]
  rw [commitParameters_allOk SetResults.allOk_allOk hflag ha.camera ha.cameraAlive hport] at hc
  -- No two of the commits are of the same parameter of the same port, so all of them last.
  have hsent : ∀ q ∈ committedParams h c.impl, c.world.alive q.1.component = true →
      (c.world.sent (committedParams h c.impl)).param q.1.component q.1.port q.2.id = some q.2 :=
    fun q hq hg => World.param_sent_mem hq (committedParams_nodup h c.impl) hg
  have hlive : ∀ g, (c.world.sent (committedParams h c.impl)).alive g = c.world.alive g :=
    World.alive_sent c.world _
  generalize c.world.sent (committedParams h c.impl) = w at hc hsent hlive
  have hencoding : commitEncoding c.impl .allOk w = .ok ((w.writeFormat e (.output 0) fun f =>
      { f with encoding := convertEncoding c.impl.encoding }).commitFormat e (.output 0) true) := by
    simp only [commitEncoding, ha.encoderOutputPort, usePort, hlive, ha.encoderAlive, if_true,
      ok_bind, SetResults.allOk]
  rw [hencoding] at hc
  rw [← Except.ok.inj hc]
  refine ⟨h, e, ha.camera, ha.encoder, ?_, ?_, fun q hq => ?_, ?_, ?_⟩
  · rw [World.alive_commitFormat, World.alive_writeFormat, hlive, ha.cameraAlive]
  · rw [World.alive_commitFormat, World.alive_writeFormat, hlive, ha.encoderAlive]
  · rw [World.param_commitFormat, World.param_writeFormat]
    refine hsent (⟨h, q.1⟩, q.2) ?_ ha.cameraAlive
    rcases List.mem_append.mp hq with hq | hq
    · exact List.mem_append_left _ (List.mem_map.mpr ⟨q, hq, rfl⟩)
    · exact List.mem_append_right _ (List.mem_append_right _ (List.mem_map.mpr ⟨q, hq, rfl⟩))
  · rw [World.param_commitFormat, World.param_writeFormat]
    refine hsent (⟨e, .output 0⟩, .jpegQFactor c.impl.quality) ?_ ha.encoderAlive
    refine List.mem_append_right _ (List.mem_append_left _ ?_)
    simp only [encoderParams, ha.encoderOutputPort, Option.map_some, Option.toList_some,
      List.mem_singleton]
  · exact encoding_commitFormat (by rw [hlive, ha.encoderAlive]) _ _

/-- Committing to an attached object: the flag is cleared, and what the flag
    stood for is on the device. -/
theorem commitParameters_settles {c c' : StillCamera} {h e : Handle} (ha : Attached c h e)
    (hc : commitParameters .allOk c = .ok c') :
    Attached c' h e ∧ c'.impl.changedSettings = false ∧
      (c.impl.changedSettings = true ∨ SettingsCommitted c → SettingsCommitted c') ∧
      (c.impl.changedSettings = false → c' = c) := by
  have hsame : c.impl.changedSettings = false → c' = c := by
    intro hflag
    rw [commitParameters_unchanged hflag] at hc
    exact (Except.ok.inj hc).symm
  have hres := commitParameters_ok hc
  refine ⟨ha.commit hres, by rw [hres.impl], fun h => ?_, hsame⟩
  -- Without the flag nothing is sent, and what was there before is there still.
  by_cases hflag : c.impl.changedSettings = true
  · exact ha.settingsCommitted hflag hc
  · rw [hsame (Bool.eq_false_iff.mpr hflag)]
    exact h.resolve_left hflag

/-- What is known about the settings of an initialized object. If it was
    adjusted, they are on the device, or the flag says that they are not;
    otherwise the encoder was never told the quality. -/
def Settled (s : Session) : Prop :=
  s.camera.impl.isInitialized = true →
    (s.adjusted = true → ∃ h e, Attached s.camera h e ∧
      (s.camera.impl.changedSettings = true ∨ SettingsCommitted s.camera)) ∧
    (s.adjusted = false → JustSetUp s.camera)

/-- A picture of an object that was adjusted finds the settings committed. -/
theorem takePicture_adjusted {c c' : StillCamera} {o : InitOutcome} {q : PictureOutcome} {b : Bool}
    {h e : Handle} (hinit : c.impl.isInitialized = true) (ha : Attached c h e)
    (hset : c.impl.changedSettings = true ∨ SettingsCommitted c)
    (hp : takePicture o q .allOk c = .ok (b, c')) : Attached c' h e ∧ SettingsCommitted c' := by
  rcases takePicture_ok hp with ⟨b', c₁, c₂, c₃, h1, h2, h3, h4⟩
  rw [initializeCamera_initialized hinit, Except.ok.injEq, Prod.mk.injEq] at h1
  rcases h1 with ⟨_, rfl⟩
  rcases commitParameters_settles (ha.sameDevice h2) h3 with ⟨ha3, _, hset3, _⟩
  refine ⟨ha3.sameDevice h4, (hset3 ?_).sameDevice h4⟩
  exact hset.imp (fun hf => by rw [h2.impl, hf]) (fun hs => hs.sameDevice h2)

/-- A picture of an object that was just set up leaves it as it is: there is
    nothing it knows it would have to commit. -/
theorem JustSetUp.commit {c c₂ c₃ c' : StillCamera} (h : JustSetUp c) (h2 : c.SameDevice c₂)
    (h3 : commitParameters .allOk c₂ = .ok c₃) (h4 : c₃.SameDevice c') : JustSetUp c' := by
  have hset := h.sameDevice h2
  rcases hset with ⟨g, e, ha, hflag, hquality⟩
  have hsame := (commitParameters_settles ha h3).2.2.2 hflag
  subst hsame
  exact JustSetUp.sameDevice ⟨g, e, ha, hflag, hquality⟩ h4

/-- What a picture makes of the settings: it finds them committed exactly when
    the object was initialized and adjusted before. -/
theorem takePicture_settled {s : Session} {o : InitOutcome} {q : PictureOutcome} {b : Bool}
    {c : StillCamera} (hs : Settled s) (hp : takePicture o q .allOk s.camera = .ok (b, c)) :
    Settled ⟨c, s.camera.impl.isInitialized && s.adjusted⟩ ∧
      (SettingsCommitted c ↔ s.camera.impl.isInitialized = true ∧ s.adjusted = true) := by
  by_cases hadj : s.camera.impl.isInitialized = true ∧ s.adjusted = true
  · rcases (hs hadj.1).1 hadj.2 with ⟨h, e, ha, hset⟩
    rcases takePicture_adjusted hadj.1 ha hset hp with ⟨ha', hset'⟩
    refine ⟨fun _ => ⟨fun _ => ⟨h, e, ha', Or.inr hset'⟩, fun hf => ?_⟩,
      ⟨fun _ => hadj, fun _ => hset'⟩⟩
    rw [hadj.1, hadj.2] at hf
    exact absurd hf nofun
  · -- Either it was just set up before the call, or it is now, or it has no camera.
    have hflag : (s.camera.impl.isInitialized && s.adjusted) = false := by
      rw [Bool.eq_false_iff]
      exact fun h => hadj (Bool.and_eq_true_iff.mp h)
    rcases takePicture_ok hp with ⟨b', c₁, c₂, c₃, h1, h2, h3, h4⟩
    have hcases : JustSetUp c₁ ∨ (c₁.impl.isInitialized = false ∧ c₁.impl.camera = none) := by
      by_cases hinit : s.camera.impl.isInitialized = true
      · rw [initializeCamera_initialized hinit, Except.ok.injEq, Prod.mk.injEq] at h1
        refine Or.inl (h1.2 ▸ (hs hinit).2 ?_)
        exact Bool.eq_false_iff.mpr fun ha => hadj ⟨hinit, ha⟩
      · rcases initializeCamera_ok (Bool.eq_false_iff.mpr hinit) h1 with ⟨hb, ⟨rfl, hnone⟩ | hset⟩
        · exact Or.inr ⟨hb, hnone⟩
        · exact Or.inl hset
    rw [hflag]
    rcases hcases with hset | ⟨hinit, hnone⟩
    · have hset' := hset.commit h2 h3 h4
      exact ⟨fun _ => ⟨nofun, fun _ => hset'⟩,
        ⟨fun hc => absurd hc hset'.not_committed, fun h => absurd h hadj⟩⟩
    · have hsame := (commitParameters_noCamera h3 (by rw [h2.impl, hnone])).2
      have himpl : c.impl = c₁.impl := by rw [h4.impl, hsame, h2.impl]
      refine ⟨fun hi => ?_, ⟨fun hc => ?_, fun h => absurd h hadj⟩⟩
      · rw [himpl, hinit] at hi
        exact absurd hi nofun
      · exact absurd hc (not_committed_of_noCamera (by rw [himpl, hnone]))

theorem settled_step (s : Session) (l : Op) (s' : Session) (hs : Settled s)
    (hstep : step s l = some s') : Settled s' := by
  cases l with
  | set x =>
      rw [step, Option.some.injEq] at hstep
      subst hstep
      rcases x.apply_keeps s.camera.impl with ⟨hsame, hflag⟩
      intro hinit
      refine ⟨fun _ => ?_, nofun⟩
      -- Adjusted or not, an initialized object is attached.
      have hatt : ∃ h e, Attached s.camera h e := by
        have hinit' : s.camera.impl.isInitialized = true := hsame.isInitialized.symm.trans hinit
        cases hadj : s.adjusted with
        | true =>
            rcases (hs hinit').1 hadj with ⟨h, e, ha, _⟩
            exact ⟨h, e, ha⟩
        | false =>
            rcases (hs hinit').2 hadj with ⟨h, e, ha, _⟩
            exact ⟨h, e, ha⟩
      rcases hatt with ⟨h, e, ha⟩
      exact ⟨h, e, ha.set (f := fun p => x.apply p) hsame, Or.inl hflag⟩
  | initializeCamera o =>
      rcases Option.map_eq_some_iff.mp hstep with ⟨⟨b, c⟩, hc, rfl⟩
      have hc := toOption_ok hc
      by_cases hinit : s.camera.impl.isInitialized = true
      · rw [initializeCamera_initialized hinit, Except.ok.injEq, Prod.mk.injEq] at hc
        rw [← hc.2, hinit, Bool.true_and]
        exact hs
      · rw [Bool.not_eq_true] at hinit
        rcases initializeCamera_ok hinit hc with ⟨hb, ⟨rfl, _⟩ | hset⟩
        · exact fun hi => absurd (hb.symm.trans hi) nofun
        · rw [hinit, Bool.false_and]
          exact fun _ => ⟨nofun, fun _ => hset⟩
  | commitParameters =>
      rcases Option.map_eq_some_iff.mp hstep with ⟨c, hc, rfl⟩
      have hc := toOption_ok hc
      intro hinit
      rw [(commitParameters_ok hc).1] at hinit
      refine ⟨fun hadj => ?_, fun hadj => ?_⟩
      · rcases (hs hinit).1 hadj with ⟨h, e, ha, hset⟩
        rcases commitParameters_settles ha hc with ⟨ha', _, hset', _⟩
        exact ⟨h, e, ha', Or.inr (hset' hset)⟩
      · exact ((hs hinit).2 hadj).commit (.refl _) hc (.refl _)
  | takePicture o q =>
      rcases Option.map_eq_some_iff.mp hstep with ⟨⟨b, c⟩, hc, rfl⟩
      exact (takePicture_settled hs (toOption_ok hc)).1

theorem settled_run {ls : List Op} {s : Session} (hrun : run step .init ls = some s) : Settled s :=
  run_invariant settled_step (fun h => absurd h (by decide)) hrun

end Still

end RaspiCam
