import RaspiCam.Still.Initialize

/-!
# The Size of a Picture

Width and height raise `changedSettings` like every other setting, but
`commitParameters` commits neither. They reach the device in `createCamera`
alone, which runs once: in the announced configuration and in the format of
the port for stills.

So a size that is set after the object was initialized is never committed, and
a picture has the requested size exactly when the size is still the one the
object was initialized with (`capture_size_iff`). Every MMAL call succeeds
here.

## Main definitions

* `SizeCommitted`: The device has the size of the object.
* `Sized`, `sizedStep`: The system, with the size at the last initialization.
* `getImageBufferSize`: What a client allocates.

## Theorems

* `hasSize_commit`: Committing settings does not change the committed size.
* `initializeCamera_hasSize`: Initializing commits the size.
* `sized_step`, `sized_run`: The device keeps the size it was initialized with.
* `capture_size_iff`: When a picture has the requested size.
* `size_set_too_late`: A picture that has not.
-/

namespace RaspiCam

open Mmal Machine Transition

namespace Still

/-- The requested size. -/
def PrivateImplStill.size (p : PrivateImplStill) : Nat × Nat := (p.width, p.height)

/-- `Private_Impl_Still::getImageBufferSize`, for a given size. -/
def imageBufferSize (n : Nat × Nat) : Nat := (n.1 * n.2 * 3 + 54) % 4294967296

/-- `Private_Impl_Still::getImageBufferSize`. -/
def PrivateImplStill.getImageBufferSize (p : PrivateImplStill) : Nat := imageBufferSize p.size

/-- The format of the port for stills, as component `h` last accepted it, and
    the configuration it was given are of size `n`. -/
structure HasSize (w : World) (h : Handle) (n : Nat × Nat) : Prop where
  format : ∃ f, w.committed h cameraCapturePort = some f ∧ (f.width, f.height) = n ∧
    (f.cropWidth, f.cropHeight) = n
  config : ∃ f, w.param h .control .cameraConfig = some (.cameraConfig f) ∧
    (f.maxStillsW, f.maxStillsH) = n

/-- The camera has the size of the object, and the buffer a client is told to
    allocate is for a picture of the size it has. -/
def SizeCommitted (c : StillCamera) : Prop :=
  ∃ h n, c.impl.camera = some h ∧ c.world.alive h = true ∧ HasSize c.world h n ∧
    c.impl.size = n ∧ c.impl.getImageBufferSize = imageBufferSize n

/-- The object and the device, and the size the object had when it was last
    initialized. -/
structure Sized where
  camera : StillCamera
  size : Nat × Nat

/-- A fresh object. -/
def Sized.init : Sized := ⟨.init, PrivateImplStill.init.size⟩

/-- The system. The size is followed until the object is initialized. -/
def sizedStep (s : Sized) (l : Call) : Option Sized :=
  (callStep s.camera l).map fun d =>
    ⟨d, if s.camera.impl.isInitialized then s.size else s.camera.impl.size⟩

/-- Every MMAL call of the operation succeeds. -/
def Call.AllOk : Call → Prop
  | .set _ => True
  | .initializeCamera o r => o.AllOk ∧ r.AllOk
  | .commitParameters r => r.AllOk
  | .takePicture o q r => o.AllOk ∧ q.portEnable = true ∧ q.portDisable = true ∧ r.AllOk

theorem HasSize.unique {w : World} {h : Handle} {n m : Nat × Nat} (hn : HasSize w h n)
    (hm : HasSize w h m) : n = m := by
  rcases hn.format with ⟨f, hf, hfn, _⟩
  rcases hm.format with ⟨g, hg, hgm, _⟩
  rw [hf, Option.some.injEq] at hg
  rw [← hfn, hg, hgm]

theorem HasSize.sameDevice {c c' : StillCamera} {h : Handle} {n : Nat × Nat}
    (hn : HasSize c.world h n) (hs : c.SameDevice c') : HasSize c'.world h n where
  format := by rw [hs.committed]; exact hn.format
  config := by rw [hs.param h .control .cameraConfig nofun]; exact hn.config

/-- A component of a given size has it. -/
theorem hasSize_of_getElem {w : World} {h : Handle} {k : Component} {n : Nat × Nat}
    (hk : w.components[h]? = some k) (hformat : ∃ f, k.committed cameraCapturePort = some f ∧
      (f.width, f.height) = n ∧ (f.cropWidth, f.cropHeight) = n)
    (hconfig : ∃ f, k.params .control .cameraConfig = some (.cameraConfig f) ∧
      (f.maxStillsW, f.maxStillsH) = n) : HasSize w h n where
  format := by simp only [World.committed, hk, Option.bind_some]; exact hformat
  config := by simp only [World.param, hk, Option.bind_some]; exact hconfig

/-- Accepting parameters changes neither formats nor other parameters. -/
theorem accept_keeps (k : Component) (qs : List (PortId × Param)) (i : ParamId)
    (hi : ∀ q ∈ qs, q.2.id ≠ i) : (k.accept qs).committed = k.committed ∧
      ∀ p, (k.accept qs).params p i = k.params p i := by
  induction qs generalizing k with
  | nil => exact ⟨rfl, fun _ => rfl⟩
  | cons q qs ih =>
      rcases ih _ (fun r hr => hi r (List.mem_cons_of_mem q hr)) with ⟨hcommitted, hparams⟩
      refine ⟨hcommitted, fun p => (hparams p).trans ?_⟩
      exact if_neg fun hc => hi q List.mem_cons_self hc.2.symm

/-- Committing settings does not change the committed size. -/
theorem hasSize_commit {r : SetResults} {c c' : StillCamera} {h e : Handle} {n : Nat × Nat}
    (hr : r.AllOk) (ha : Attached c h e) (hn : HasSize c.world h n)
    (hc : commitParameters r c = .ok c') : HasSize c'.world h n := by
  have hport : c.impl.changedSettings = true → ∀ port ∈ c.impl.encoderOutputPort,
      c.world.alive port.component = true ∧ port.component ≠ h := by
    intro _ port hp
    rw [ha.encoderOutputPort, Option.mem_some_iff] at hp
    exact hp ▸ ⟨ha.encoderAlive, ha.distinct⟩
  rcases commitParameters_at hr ha.camera ha.cameraAlive hport with ⟨d, hd, hat⟩
  rw [hc, Except.ok.injEq] at hd
  rcases World.alive_getElem ha.cameraAlive with ⟨k, hk, _⟩
  have hformat := hn.format
  have hconfig := hn.config
  simp only [World.committed, World.param, hk, Option.bind_some] at hformat hconfig
  -- The size is not among the settings that are committed.
  have hkeeps : (if c.impl.changedSettings then k.accept (cameraParams c.impl) else k).committed
      = k.committed ∧ (if c.impl.changedSettings then k.accept (cameraParams c.impl) else k).params
        .control .cameraConfig = k.params .control .cameraConfig := by
    by_cases hflag : c.impl.changedSettings = true
    · rcases accept_keeps k _ _ (cameraParams_ne c.impl (i := .cameraConfig) (by decide))
        with ⟨h1, h2⟩
      simp only [hflag, if_true]
      exact ⟨h1, h2 _⟩
    · rw [if_neg hflag]
      exact ⟨rfl, rfl⟩
  rcases (hat fun k' => k'.committed = k.committed ∧
    k'.params .control .cameraConfig = k.params .control .cameraConfig).mpr ⟨k, hk, hkeeps⟩ with
    ⟨k', hk', hcommitted, hparams⟩
  rw [hd]
  exact hasSize_of_getElem hk' (by rw [hcommitted]; exact hformat) (by rw [hparams]; exact hconfig)

/-- The camera after every call succeeded has the size of the object. -/
theorem configuredCamera_size (o : InitOutcome) (p : PrivateImplStill) :
    (∃ f, (configuredCamera o p).committed cameraCapturePort = some f ∧
      (f.width, f.height) = p.size ∧ (f.cropWidth, f.cropHeight) = p.size) ∧
    ∃ f, (configuredCamera o p).params .control .cameraConfig = some (.cameraConfig f) ∧
      (f.maxStillsW, f.maxStillsH) = p.size := by
  refine ⟨⟨_, rfl, rfl, rfl⟩, cameraConfig p, ?_, rfl⟩
  by_cases hflag : p.changedSettings = true
  · simp only [configuredCamera, hflag, if_true]
    exact (accept_keeps _ _ _ (cameraParams_ne p (i := .cameraConfig) (by decide))).2 _
  · simp only [configuredCamera, if_neg hflag]
    rfl

/-- Initializing commits the size. -/
theorem initializeCamera_hasSize {o : InitOutcome} {r : SetResults} {c c' : StillCamera} {b : Bool}
    (hinit : c.impl.isInitialized = false) (hlinked : Linked c) (ho : o.AllOk) (hr : r.AllOk)
    (h : initializeCamera o r c = .ok (b, c')) :
    c'.impl.size = c.impl.size ∧ ∃ g e, Attached c' g e ∧ HasSize c'.world g c.impl.size := by
  have hport := initializeCamera_port hinit ⟨ho.cameraCreate, ho.cameraOutputs, ho.controlEnable⟩
    hlinked.known h
  rcases initializeCamera_allOk hinit ho hr hport with ⟨d, hd, hanew, hconfig⟩
  rw [h, Except.ok.injEq, Prod.mk.injEq] at hd
  rcases hd with ⟨rfl, rfl⟩
  rcases (initializeCamera_ok hinit h).setUp with ⟨hb, _⟩ | ⟨g, e, ha, _⟩
  · exact absurd hb nofun
  -- A successful attempt leaves the size of the object as it was.
  have hkeeps : c'.impl.anew.size = c.impl.anew.size := by rw [hanew]
  refine ⟨hkeeps, g, e, ha, ?_⟩
  have hcamera := congrArg Configuration.camera hconfig
  simp only [configuration, ha.camera, Option.bind_some] at hcamera
  rcases configuredCamera_size o c.impl with ⟨hformat, hsize⟩
  exact hasSize_of_getElem hcamera hformat hsize

/-- What is known about the size of the device: it is the one the object was
    initialized with. -/
def KeepsSize (s : Sized) : Prop :=
  Linked s.camera ∧ (s.camera.impl.isInitialized = true →
    ∃ h e, Attached s.camera h e ∧ HasSize s.camera.world h s.size)

/-- The size that counts after the object was initialized. -/
def Sized.current (s : Sized) : Nat × Nat :=
  if s.camera.impl.isInitialized then s.size else s.camera.impl.size

/-- Initializing an object, or finding it initialized. -/
theorem KeepsSize.initializeCamera {s : Sized} {o : InitOutcome} {r : SetResults}
    {c : StillCamera} {b : Bool} (hs : KeepsSize s) (ho : o.AllOk) (hr : r.AllOk)
    (h : initializeCamera o r s.camera = .ok (b, c)) : c.impl.size = s.camera.impl.size ∧
      ∃ g e, Attached c g e ∧ HasSize c.world g s.current := by
  unfold Sized.current
  by_cases hinit : s.camera.impl.isInitialized = true
  · rw [initializeCamera_initialized hinit, Except.ok.injEq, Prod.mk.injEq] at h
    rw [if_pos hinit, ← h.2]
    exact ⟨rfl, hs.2 hinit⟩
  · rw [if_neg hinit]
    exact initializeCamera_hasSize (Bool.eq_false_iff.mpr hinit) hs.1 ho hr h

/-- Taking a picture leaves the device with the size it was initialized with,
    then or before. -/
theorem KeepsSize.takePicture {s : Sized} {o : InitOutcome} {q : PictureOutcome} {r : SetResults}
    {c : StillCamera} {b : Bool} (hs : KeepsSize s) (ho : o.AllOk) (hr : r.AllOk)
    (h : takePicture o q r s.camera = .ok (b, c)) : c.impl.size = s.camera.impl.size ∧
      ∃ g e, Attached c g e ∧ HasSize c.world g s.current := by
  rcases takePicture_ok h with ⟨b', c₁, c₂, c₃, h1, h2, h3, h4⟩
  rcases hs.initializeCamera ho hr h1 with ⟨hsize, g, e, ha, hn⟩
  have hres := commitParameters_ok h3
  have ha₂ := ha.sameDevice h2
  refine ⟨?_, g, e, (ha₂.commit hres).sameDevice h4,
    (hasSize_commit hr ha₂ (hn.sameDevice h2) h3).sameDevice h4⟩
  rw [h4.impl, hres.impl, ← hsize, h2.impl]
  rfl

theorem sized_step (s : Sized) (l : Call) (s' : Sized) (hs : KeepsSize s) (hl : l.AllOk)
    (hstep : sizedStep s l = some s') : KeepsSize s' := by
  rcases Option.map_eq_some_iff.mp hstep with ⟨c, hc, rfl⟩
  refine ⟨linked_step s.camera l c hs.1 hc, fun hinit' => ?_⟩
  have hl' := toOption_ok hc
  cases l with
  | set x =>
      rcases x.apply_keeps s.camera.impl with ⟨hsame, _⟩
      rw [perform, Except.ok.injEq] at hl'
      subst hl'
      have hinit := hsame.isInitialized.symm.trans hinit'
      rcases hs.2 hinit with ⟨h, e, ha, hn⟩
      refine ⟨h, e, ha.set (f := fun p => x.apply p) hsame, ?_⟩
      -- The size of the object may have changed, but not the one it was initialized with.
      simp only [hinit, if_true]
      exact hn
  | initializeCamera o r =>
      rcases bind_ok hl' with ⟨⟨b, d⟩, hd, hl'⟩
      rw [← Except.ok.inj hl']
      exact (hs.initializeCamera hl.1 hl.2 hd).2
  | commitParameters r =>
      have hres := commitParameters_ok hl'
      rw [hres.impl] at hinit'
      have hinit : s.camera.impl.isInitialized = true := hinit'
      rcases hs.2 hinit with ⟨h, e, ha, hn⟩
      rw [if_pos hinit]
      exact ⟨h, e, ha.commit hres, hasSize_commit hl ha hn hl'⟩
  | takePicture o q r =>
      rcases bind_ok hl' with ⟨⟨b, d⟩, hd, hl'⟩
      rw [← Except.ok.inj hl']
      exact (hs.takePicture hl.1 hl.2.2.2 hd).2

theorem sized_run {ls : List Call} {s : Sized} (hls : ∀ l ∈ ls, l.AllOk)
    (hrun : run sizedStep .init ls = some s) : KeepsSize s :=
  run_invariant_along sized_step ⟨linked_run (run_nil _), fun h => absurd h (by decide)⟩
    (along_of_forall fun l hl _ => hls l hl) hrun

/-- A picture has the requested size exactly when this call initializes the
    object, or the size is still the one it was initialized with. -/
theorem capture_size_iff {ls : List Call} {s : Sized} (hls : ∀ l ∈ ls, l.AllOk)
    (hrun : run sizedStep .init ls = some s) {o : InitOutcome} {q : PictureOutcome}
    {r : SetResults} (hok : (Call.takePicture o q r).AllOk) {c : StillCamera}
    (hp : takePicture o q r s.camera = .ok (true, c)) : SizeCommitted c ↔
      s.camera.impl.isInitialized = false ∨ s.camera.impl.size = s.size := by
  rcases (sized_run hls hrun).takePicture hok.1 hok.2.2.2 hp with ⟨hsize, h, e, ha, hn⟩
  -- `current` is the size of the device after this call, whether or not it initializes.
  have hcurrent : s.camera.impl.size = s.current ↔
      s.camera.impl.isInitialized = false ∨ s.camera.impl.size = s.size := by
    unfold Sized.current
    cases s.camera.impl.isInitialized with
    | false => exact ⟨fun _ => Or.inl rfl, fun _ => rfl⟩
    | true => exact ⟨Or.inr, fun hor => hor.resolve_left nofun⟩
  rw [← hcurrent, ← hsize]
  constructor
  · rintro ⟨g, n, hg, _, hn', rfl, _⟩
    rw [ha.camera, Option.some.injEq] at hg
    -- A camera has one size only.
    exact hn'.unique (hg ▸ hn)
  · intro heq
    exact ⟨h, s.current, ha.camera, ha.cameraAlive, hn, heq, by
      rw [PrivateImplStill.getImageBufferSize, heq]⟩

/-- The size is set before the camera is opened. -/
theorem size_set_in_time :
    ∃ s c, run sizedStep .init [.set (.captureSize 800 600), .initializeCamera .allOk .allOk]
      = some s ∧ takePicture .allOk ⟨0, true, true⟩ .allOk s.camera = .ok (true, c) ∧
      SizeCommitted c := by
  have hrun : run sizedStep .init [.set (.captureSize 800 600), .initializeCamera .allOk .allOk]
    = some _ := rfl
  have hok := InitOutcome.allOk_allOk
  have hset := SetResults.allOk_allOk
  refine ⟨_, _, hrun, rfl, ?_⟩
  refine (capture_size_iff (fun l hl => ?_) hrun (o := .allOk) (q := ⟨0, true, true⟩) (r := .allOk)
    ⟨hok, rfl, rfl, hset⟩ rfl).mpr (Or.inr rfl)
  simp only [List.mem_cons, List.not_mem_nil, or_false] at hl
  rcases hl with rfl | rfl
  · trivial
  · exact ⟨hok, hset⟩

/-- The size is set after the camera was opened, and then a picture is taken:
    it is of the size the camera was opened with. -/
theorem size_set_too_late :
    ∃ s c, run sizedStep .init [.initializeCamera .allOk .allOk, .set (.captureSize 2592 1944)]
      = some s ∧ takePicture .allOk ⟨0, true, true⟩ .allOk s.camera = .ok (true, c) ∧
      c.impl.size = (2592, 1944) ∧ HasSize c.world 0 (640, 480) ∧ ¬ SizeCommitted c := by
  have hother : ∀ {c : StillCamera}, c.impl.camera = some 0 → HasSize c.world 0 (640, 480) →
      c.impl.size = (2592, 1944) → ¬ SizeCommitted c := by
    rintro c hc hn hs ⟨h, n, hh, _, hn', hsn, _⟩
    rw [hc, Option.some.injEq] at hh
    have heq := hn.unique (hh ▸ hn')
    exact absurd (heq.trans (hsn.symm.trans hs)) (by decide)
  have hsize : ∀ {c : StillCamera}, c.impl.camera = some 0 → HasSize c.world 0 (640, 480) →
      c.impl.size = (2592, 1944) → c.impl.size = (2592, 1944) ∧ HasSize c.world 0 (640, 480) ∧
        ¬ SizeCommitted c := fun hc hn hs => ⟨hs, hn, hother hc hn hs⟩
  exact ⟨_, _, rfl, rfl, hsize rfl ⟨⟨_, rfl, rfl, rfl⟩, ⟨_, rfl, rfl⟩⟩ rfl⟩

end Still

end RaspiCam
