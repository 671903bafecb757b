import RaspiCam.Video.Frozen
import RaspiCam.Video.InStep

/-!
# Settings Made Before the Camera Is Opened

A setting may be made before the camera is opened or while it is open. Made
before, it is recorded, and `open` commits it with `commitParameters`; made
later, the setter commits it. `commitParameters` knows a rule that the setters
do not: a shutter speed other than automatic switches the exposure mode to
FIXEDFPS. `early_iff` says for which settings the two ways end the same.

## Main definitions

* `OpenOutcome.Succeeds`: Every call that opening the camera makes succeeds.
* `setters`, `recordAll`, `paramsAll`: Several setters, what they record, and
  what they send.
* `automatic`: A shutter speed that was never sent.
* `Camera.SameSettings`: The same settings, recorded and sent.
* `lastShutterSpeed`, `lastExposure`: What was asked for last.

## Theorems

* `run_setters_closed`, `run_setters_open`: What setters do.
* `openCamera_succeeds`: Opening the camera goes through.
* `createCameraComponent_record`: The settings do not concern the component
  that is created.
* `early_iff`: The settings that may be made early.
* `early_shutter_speed`: Settings that may not.
-/

namespace RaspiCam

open Mmal Machine Transition WriteThrough

namespace Video

/-- Every MMAL call that opening the camera makes succeeds. -/
structure OpenOutcome.Succeeds (o : OpenOutcome) : Prop where
  creates : o.Creates
  poolCreate : o.poolCreate = true
  sets : o.sets.ParamsOk

/-- The setters, called one after the other. -/
def setters (r : SetResults) (S : List Setting) : List Op := S.map fun x => .set x r

/-- What they record. -/
def recordAll : List Setting → RaspividState → RaspividState
  | [], s => s
  | x :: S, s => recordAll S (x.recorded s)

/-- What they send, while the camera is open. -/
def paramsAll : List Setting → RaspividState → List (PortId × Param)
  | [], _ => []
  | x :: S, s => x.params (x.recorded s) ++ paramsAll S (x.recorded s)

/-- A shutter speed that was never sent is 0, which is automatic. -/
def automatic (k : Slot) : Option Param :=
  if k = (.control, .shutterSpeed) then some (.shutterSpeed 0) else none

/-- The settings are the same, and so is what the components were told. -/
def Camera.SameSettings (c d : Camera) : Prop :=
  c.impl.state = d.impl.state ∧
    ∀ h, readAs automatic (c.world.held h) = readAs automatic (d.world.held h)

/-- The shutter speed that was asked for last. -/
def lastShutterSpeed (S : List Setting) : UInt32 :=
  S.foldl (fun v x => match x with
    | .shutterSpeed u => u
    | _ => v) 0

/-- The exposure mode that was asked for last. -/
def lastExposure (S : List Setting) : RaspicamExposure :=
  S.foldl (fun v x => match x with
    | .exposure u => u
    | _ => v) .auto

/-- What creating the camera component makes of the device, when everything
    succeeds. -/
def configuredWorld (o : OpenOutcome) (s : RaspividState) (w : World) : World :=
  let h := w.nextComponent
  let w := w.createComponent .camera o.formats
  let w := if s.sensorMode ≠ 0 then
      w.setParam h .control (.cameraCustomSensorConfig (u32 s.sensorMode))
    else w
  let w := w.setParam h .control (.cameraConfig (cameraConfig s))
  let w := w.setParam h .control (.changeEventRequest true)
  let w := w.setPortEnabled h .control true
  let w := w.writeFormat h cameraVideoPort (videoFormat s (!o.rgbOrderFixed))
  let w := w.commitFormat h cameraVideoPort true
  let w := w.setPortEnabled h cameraVideoPort true
  w.createPool.setEnabled h true

/-- Setters of a closed camera record. -/
theorem run_setters_closed (r : SetResults) (S : List Setting) {c : Camera}
    (hc : c.impl.isOpened = false) :
    run step c (setters r S) = some (c.record (recordAll S c.impl.state)) := by
  induction S generalizing c with
  | nil => rfl
  | cons x S ih =>
      have hexec : exec c (.set x r) = .ok (c.record (x.recorded c.impl.state)) := by
        simp only [exec, Setting.apply_params, Camera.put]
        rw [if_neg (by rw [hc]; decide)]
        rfl
      have hstep : step c (.set x r) = some (c.record (x.recorded c.impl.state)) := by
        unfold step
        rw [hexec]
        rfl
      refine (run_cons ..).trans ?_
      rw [hstep]
      exact ih (c := c.record (x.recorded c.impl.state)) hc

/-- Setters of an open camera record, and send what they recorded. -/
theorem run_setters_open {r : SetResults} (hr : r.ParamsOk) (S : List Setting) {c : Camera}
    {h : Handle} (ho : c.impl.isOpened = true) (hcam : c.impl.state.cameraComponent = some h)
    (ha : c.world.alive h = true) :
    run step c (setters r S) = some ⟨{ c.impl with state := recordAll S c.impl.state },
      c.world.sent (toComponent h (paramsAll S c.impl.state))⟩ := by
  induction S generalizing c with
  | nil => rfl
  | cons x S ih =>
      have hcam' : (x.recorded c.impl.state).cameraComponent = some h := by
        cases x <;> exact hcam
      have hexec : exec c (.set x r) = .ok ⟨{ c.impl with state := x.recorded c.impl.state },
          c.world.sent (toComponent h (x.params (x.recorded c.impl.state)))⟩ := by
        simp only [exec, Setting.apply_params, Camera.put]
        rw [if_pos ho, x.commit_sent hr hcam' ha]
        rfl
      have hstep : step c (.set x r) = some ⟨{ c.impl with state := x.recorded c.impl.state },
          c.world.sent (toComponent h (x.params (x.recorded c.impl.state)))⟩ := by
        unfold step
        rw [hexec]
        rfl
      refine (run_cons ..).trans ?_
      rw [hstep]
      have hrest := ih (c := ⟨{ c.impl with state := x.recorded c.impl.state },
        c.world.sent (toComponent h (x.params (x.recorded c.impl.state)))⟩) ho hcam'
        ((World.alive_sent _ _ h).trans ha)
      refine hrest.trans ?_
      simp only [paramsAll, toComponent, List.map_append, World.sent_append]
      rfl

theorem recordAll_configuration (S : List Setting) (s : RaspividState) :
    s.SameConfiguration (recordAll S s) := by
  induction S generalizing s with
  | nil => exact .refl s
  | cons x S ih =>
      have hone : s.SameConfiguration (x.recorded s) := by
        cases x <;> exact ⟨rfl, rfl, rfl, rfl, rfl⟩
      exact hone.trans (ih (x.recorded s))

/-- Recording does not concern what the camera is made of. -/
theorem recordAll_owning (S : List Setting) (s : RaspividState) (h q : Option Handle) :
    recordAll S { s with videoPool := q, cameraComponent := h }
      = { recordAll S s with videoPool := q, cameraComponent := h } := by
  induction S generalizing s with
  | nil => rfl
  | cons x S ih =>
      refine Eq.trans ?_ (ih (x.recorded s))
      cases x <;> rfl

theorem configuredWorld_congr (o : OpenOutcome) {s t : RaspividState} (h : s.SameConfiguration t)
    (w : World) : configuredWorld o t w = configuredWorld o s w := by
  unfold configuredWorld cameraConfig videoFormat
  rw [h.sensorMode, h.width, h.height, h.captureFtm, h.framerate]

/-- The camera component is created. -/
theorem createCameraComponent_succeeds {o : OpenOutcome} (ho : o.Succeeds) (c : Camera) :
    createCameraComponent o c = (true, ⟨{ c.impl with
        rgbBgrFixed := !o.rgbOrderFixed
        state := { c.impl.state with
          videoPool := some c.world.nextPool
          cameraComponent := some c.world.nextComponent } },
      configuredWorld o c.impl.state c.world⟩) := by
  rcases ho with ⟨⟨hp, henable⟩, hpool, hsets⟩
  unfold createCameraComponent
  rw [if_neg (ne_false_of_eq_true hp.componentCreate)]
  unfold configureCamera
  rw [if_neg (ne_false_of_eq_true hp.outputPorts)]
  simp only
  rw [if_neg (ne_false_of_eq_true hp.changeEventRequest),
    if_neg (ne_false_of_eq_true hp.controlEnable), if_neg (ne_false_of_eq_true hp.formatCommit),
    if_neg (ne_false_of_eq_true hp.videoEnable), if_neg (ne_false_of_eq_true henable), if_pos hpool,
    if_pos hpool]
  simp only [trySet_allOk hsets]
  unfold configuredWorld
  by_cases hs : c.impl.state.sensorMode ≠ 0
  · simp only [if_pos hs]
    rfl
  · simp only [if_neg hs]
    rfl

/-- It is not told a shutter speed. -/
theorem configuredWorld_unset (o : OpenOutcome) (s : RaspividState) (w : World) :
    (configuredWorld o s w).held w.nextComponent (.control, .shutterSpeed) = none := by
  refine World.param_of_at ?_
  unfold configuredWorld
  simp only [World.at_setEnabled, World.at_createPool, World.at_setPortEnabled,
    World.at_commitFormat, World.at_writeFormat, World.at_setParam]
  by_cases hs : s.sensorMode ≠ 0
  · rw [if_pos hs, World.at_setParam]
    exact (World.at_createComponent w .camera o.formats _).mpr rfl
  · rw [if_neg hs]
    exact (World.at_createComponent w .camera o.formats _).mpr rfl

/-- What a camera that was opened looks like. -/
structure OpenedFrom (b : Bool) (o : OpenOutcome) (c c' : Camera) : Prop where
  isOpened : c'.impl.isOpened = true
  state : c'.impl.state = { c.impl.state with
    videoPool := some c.world.nextPool
    cameraComponent := some c.world.nextComponent }.afterCommit
  alive : c'.world.alive c.world.nextComponent = true
  held : c'.world.held c.world.nextComponent
    = writeAll ((configuredWorld o c.impl.state c.world).held c.world.nextComponent)
      (entries (commitParams c.impl.state) ++ captureEntries b)
  nextComponent : c'.world.nextComponent = c.world.nextComponent + 1

/-- Opening the camera goes through. -/
theorem openCamera_succeeds (b : Bool) {o : OpenOutcome} (ho : o.Succeeds) {c : Camera}
    (hc : c.impl.isOpened = false) :
    ∃ c', openCamera b o c = .ok (true, c') ∧ OpenedFrom b o c c' := by
  have hcreated := createCameraComponent_succeeds ho c
  -- Nothing that could go wrong does.
  have hgoes : ∃ c', openCamera b o c = .ok (true, c') ∧ c'.impl.isOpened = true ∧
      c'.world.deaths = Ledgers.create c.world.deaths := by
    rcases openCamera_effect b o hc with ⟨c', hfail, _⟩ | ⟨e, he, hfresh, _, hpool⟩
    · rcases createCameraComponent_live hcreated with ⟨hcam, halive, _⟩
      have hattach := attachCamera_sent ho.sets hcam halive
      have hopen : openCamera b o c = .ok (false, c') := hfail
      unfold openCamera at hopen
      rw [if_neg (by rw [hc]; decide), hcreated] at hopen
      simp only [hattach, ok_bind] at hopen
      by_cases hb : b = true
      · rw [if_pos hb] at hopen
        exact absurd (startCapture_sent (attached_of_created hc hcreated hattach).1 ho.sets rfl hcam
          hopen).1 Bool.false_ne_true
      · rw [if_neg hb] at hopen
        exact absurd (Prod.mk.inj (Except.ok.inj hopen)).1.symm Bool.false_ne_true
    · by_cases hb : b = true
      · rw [if_pos hb] at he
        rcases startCapture_effect o.sets hfresh.attached hfresh.isOpened with
          ⟨_, _, _, hno⟩ | ⟨_, hnone, _⟩ | ⟨c', hs, hsame, _⟩
        · exact absurd (hno.symm.trans (ho.sets _ _)) Bool.false_ne_true
        · exact absurd ((hpool.mp hnone).symm.trans ho.poolCreate) Bool.false_ne_true
        · exact ⟨c', he.trans hs, hsame.isOpened.trans hfresh.isOpened,
            hsame.deaths.trans hfresh.deaths⟩
      · rw [if_neg hb] at he
        exact ⟨e, he, hfresh.isOpened, hfresh.deaths⟩
  rcases hgoes with ⟨c', hopen, hopened, hdeaths⟩
  rcases openCamera_opened hc ho.sets hopen hopened with ⟨d, g, hd, hcam, hstate, hheld⟩
  obtain rfl : _ = d := (Prod.mk.inj (hcreated.symm.trans hd)).2
  obtain rfl : c.world.nextComponent = g := Option.some.inj hcam
  refine ⟨c', hopen, hopened, hstate, World.alive_of_created hdeaths, hheld, ?_⟩
  rw [← World.deaths_length, hdeaths, ← World.deaths_length]
  exact List.length_append

/-- A state that asks for no shutter speed is what it was after everything was
    committed. -/
theorem afterCommit_eq_self_iff (s : RaspividState) :
    s.afterCommit = s ↔ s.shutterSpeed = 0 ∨ s.rpcExposureMode = .fixedfps := by
  have hmode : s.afterCommit.rpcExposureMode
      = if s.shutterSpeed ≠ 0 then .fixedfps else s.rpcExposureMode := by
    unfold RaspividState.afterCommit Feedback.committed
    by_cases hs : s.shutterSpeed ≠ 0
    · rw [if_pos hs, if_pos (show s.feedback.shutterSpeed ≠ 0 from hs)]
      rfl
    · rw [if_neg hs, if_neg (show ¬ s.feedback.shutterSpeed ≠ 0 from hs)]
      rfl
  constructor
  · intro h
    rw [h] at hmode
    by_cases hs : s.shutterSpeed = 0
    · exact Or.inl hs
    · rw [if_pos hs] at hmode
      exact Or.inr hmode
  · intro h
    unfold RaspividState.afterCommit Feedback.committed
    by_cases hs : s.shutterSpeed = 0
    · rw [if_neg (not_not_intro (show s.feedback.shutterSpeed = 0 from hs))]
      rfl
    · have hfixed := h.resolve_left hs
      rw [if_pos (show s.feedback.shutterSpeed ≠ 0 from hs), ← hfixed]
      rfl

/-- What setters record of the shutter speed and of the exposure mode. -/
theorem recordAll_last (S : List Setting) {s : RaspividState} (hs : s.shutterSpeed = 0)
    (hm : s.rpcExposureMode = .auto) :
    ((recordAll S s).shutterSpeed = 0 ↔ lastShutterSpeed S = 0) ∧
      (recordAll S s).rpcExposureMode = lastExposure S := by
  -- The induction is over what was asked for so far.
  have hall : ∀ (S : List Setting) (t : RaspividState) (v : UInt32) (m : RaspicamExposure),
      (t.shutterSpeed = 0 ↔ v = 0) → t.rpcExposureMode = m →
      ((recordAll S t).shutterSpeed = 0 ↔ S.foldl (fun v x => match x with
          | .shutterSpeed u => u
          | _ => v) v = 0) ∧
        (recordAll S t).rpcExposureMode = S.foldl (fun v x => match x with
          | .exposure u => u
          | _ => v) m := by
    intro S
    induction S with
    | nil => exact fun t v m hv hm => ⟨hv, hm⟩
    | cons x S ih =>
        intro t v m hv hm
        cases x with
        | shutterSpeed u =>
            refine ih _ u m ?_ hm
            have hlim : u = 0 ↔ u.toNat = 0 := by
              rw [← UInt32.toNat_inj]
              rfl
            rw [hlim]
            simp only [Setting.recorded]
            split <;> omega
        | exposure u => exact ih _ v u hv rfl
        | _ => exact ih _ v m hv hm
  exact hall S s 0 .auto (iff_of_true hs rfl) hm

/-- The setters bring the device in step with what they record. -/
theorem inStep_setters {P : Slot → Prop} {held : Slot → Option Param} (S : List Setting)
    {s : RaspividState} (h : InStep P (wanted s) held) :
    InStep P (wanted (recordAll S s)) (writeAll held (entries (paramsAll S s))) := by
  induction S generalizing s held with
  | nil => exact h
  | cons x S ih =>
      rw [paramsAll, entries, List.map_append, writeAll_append]
      exact ih (h.writeAll (x.params_wanted _) fun k _ hout => x.wanted_recorded s hout)

/-- Whether there is something a place should hold does not depend on the
    settings. -/
theorem wanted_eq_none_congr (s t : RaspividState) {k : Slot} (h : wanted s k = none) :
    wanted t k = none := by
  rcases k with ⟨p, i⟩
  unfold wanted at h ⊢
  by_cases hp : p ∈ portsOf i
  · rw [if_pos hp] at h ⊢
    cases i <;> first | rfl | exact absurd h (Option.some_ne_none _)
  · rw [if_neg hp]

/-- Setters write to places that should hold something. -/
theorem setters_untouched (S : List Setting) (s : RaspividState) {k : Slot}
    (hk : wanted s k = none) : ∀ w ∈ entries (paramsAll S s), w.1 ≠ k := by
  induction S generalizing s with
  | nil => exact fun w hw => absurd hw List.not_mem_nil
  | cons x S ih =>
      intro w hw
      rw [paramsAll, entries, List.map_append] at hw
      rcases List.mem_append.mp hw with hw | hw
      · rintro rfl
        have hwant := x.params_wanted _ w hw
        exact absurd (hwant.symm.trans (wanted_eq_none_congr s _ hk)) (Option.some_ne_none _)
      · exact ih _ (wanted_eq_none_congr s _ hk) w hw

theorem commitParams_untouched (s : RaspividState) {k : Slot} (hk : wanted s k = none) :
    ∀ w ∈ entries (commitParams s), w.1 ≠ k := by
  rintro w hw rfl
  exact absurd ((commitParams_wanted s w hw).symm.trans (wanted_eq_none_congr s _ hk))
    (Option.some_ne_none _)

/-- A device that was not told a shutter speed is in step after everything was
    committed, a shutter speed that is still missing counted as automatic. -/
theorem inStep_commitParams {held : Slot → Option Param} (s : RaspividState)
    (h : held (.control, .shutterSpeed) = none) :
    InStep (fun _ => True) (wanted s.afterCommit)
      (writeAll (readAs automatic held) (entries (commitParams s))) := by
  have hbase : InStep (fun _ => True) automatic (readAs automatic held) := by
    intro k v _ hv
    unfold automatic at hv
    by_cases hk : k = (.control, .shutterSpeed)
    · rw [hk, readAs_of_none h]
      rwa [if_pos hk] at hv
    · rw [if_neg hk] at hv
      exact absurd hv (Option.some_ne_none v).symm
  refine hbase.writeAll (commitParams_wanted s) fun k _ hout => ?_
  unfold automatic
  by_cases hk : k = (.control, .shutterSpeed)
  · -- It was left out, so it is automatic.
    rw [if_pos hk, hk]
    have hs : s.shutterSpeed = 0 := by
      by_contra hs
      refine hout (k, .shutterSpeed (u32 s.shutterSpeed)) ?_ rfl
      refine mem_entries_commitParams.mpr ?_
      rw [hk]
      refine ⟨?_, List.mem_singleton.mpr rfl, ?_⟩
      · change ParamId.shutterSpeed ∈ committedIds s
        unfold committedIds
        rw [if_pos hs]
        decide
      · simp only [settingValue, (afterCommit_feedback s).1]
    simp only [wanted, portsOf, settingValue, (afterCommit_feedback s).1, hs]
    rfl
  · rw [if_neg hk]
    by_cases hi : k.2 = .shutterSpeed
    · unfold wanted
      rw [hi, if_neg]
      intro hp
      exact hk (Prod.ext (List.mem_singleton.mp hp) hi)
    · exact wanted_afterCommit hi hout

theorem step_openCamera {b b' : Bool} {o : OpenOutcome} {c c' : Camera}
    (h : openCamera b o c = .ok (b', c')) : step c (.openCamera b o) = some c' := by
  simp only [step, exec, h]
  rfl

theorem held_of_le {w : World} {h : Handle} (hle : w.nextComponent ≤ h) :
    w.held h = fun _ => none := by
  funext k
  rw [World.held, World.param, List.getElem?_eq_none hle]
  rfl

/-- Committing everything at once, or defaults first and then each setting, gives
    the same device, if committing changes no setting. -/
theorem writeAll_early_late {held : Slot → Option Param} (S : List Setting) (b : Bool)
    {s : RaspividState} (h : held (.control, .shutterSpeed) = none) (hs : s.afterCommit = s)
    (ht : (recordAll S s).afterCommit = recordAll S s) :
    readAs automatic (writeAll held (entries (commitParams (recordAll S s)) ++ captureEntries b))
      = readAs automatic (writeAll (writeAll held (entries (commitParams s) ++ captureEntries b))
        (entries (paramsAll S s))) := by
  simp only [readAs_writeAll, writeAll_append]
  -- Both devices are in step with the same settings.
  have hearly := inStep_capture b (ht ▸ inStep_commitParams (recordAll S s) h)
  have hlate := inStep_setters S (inStep_capture b (hs ▸ inStep_commitParams s h))
  refine funext fun k => hearly.agree hlate (fun k _ hk => ?_) trivial
  rw [writeAll_other (setters_untouched S s (wanted_eq_none_congr _ s hk))]
  refine writeAll_congr ?_
  rw [writeAll_other (commitParams_untouched _ hk),
    writeAll_other (commitParams_untouched s (wanted_eq_none_congr _ s hk))]

/-- Settings made before the camera is opened end as they do when they are made
    while it is open exactly when no shutter speed is asked for, or the mode
    that goes with it is. -/
theorem early_iff {S : List Setting} {b : Bool} {o : OpenOutcome} {r : SetResults}
    (ho : o.Succeeds) (hr : r.ParamsOk) :
    ∃ c d, run step .init (setters r S ++ [.openCamera b o]) = some c ∧
      run step .init (.openCamera b o :: setters r S) = some d ∧
      c.impl.isOpened = true ∧ d.impl.isOpened = true ∧
      (c.SameSettings d ↔ lastShutterSpeed S = 0 ∨ lastExposure S = .fixedfps) := by
  let s : RaspividState :=
    { defaultStateParams with videoPool := some 0, cameraComponent := some 0 }
  have hs : s.afterCommit = s := (afterCommit_eq_self_iff s).mpr (Or.inl rfl)
  have howning : recordAll S s = { recordAll S defaultStateParams with
      videoPool := some 0, cameraComponent := some 0 } := recordAll_owning S defaultStateParams _ _
  -- The settings, then the camera.
  have hearly := run_setters_closed r S (c := .init) rfl
  rcases openCamera_succeeds b ho (c := Camera.init.record (recordAll S Camera.init.impl.state)) rfl
    with ⟨c, hc, hC⟩
  have hcstate : c.impl.state = (recordAll S s).afterCommit := by
    rw [howning]
    exact hC.state
  -- The camera, then the settings.
  rcases openCamera_succeeds b ho (c := .init) rfl with ⟨e, he, hE⟩
  have hestate : e.impl.state = s := hE.state.trans hs
  have halive : e.world.alive 0 = true := hE.alive
  have hlate := run_setters_open hr S hE.isOpened (congrArg RaspividState.cameraComponent hestate)
    halive
  rw [hestate] at hlate
  refine ⟨c, ⟨{ e.impl with state := recordAll S s }, e.world.sent (toComponent 0 (paramsAll S s))⟩,
    ?_, ?_, hC.isOpened, hE.isOpened, ?_⟩
  · rw [run_append, hearly]
    refine (run_cons ..).trans ?_
    rw [step_openCamera hc]
    rfl
  · refine (run_cons ..).trans ?_
    rw [step_openCamera he]
    exact hlate
  have hstates : c.impl.state = recordAll S s ↔
      lastShutterSpeed S = 0 ∨ lastExposure S = .fixedfps := by
    rcases recordAll_last S (s := s) rfl rfl with ⟨hshutter, hmode⟩
    rw [hcstate, afterCommit_eq_self_iff, hshutter, hmode]
  refine Iff.trans ⟨fun h => h.1, fun h => ⟨h, fun g => ?_⟩⟩ hstates
  by_cases hg : g = 0
  · -- The component that was created is configured in the same way.
    have hsame : configuredWorld o (recordAll S defaultStateParams) .empty
        = configuredWorld o s .empty :=
      configuredWorld_congr o (recordAll_configuration S defaultStateParams) _
    have hcommit :
        commitParams (recordAll S s) = commitParams (recordAll S defaultStateParams) := by
      rw [howning]
      rfl
    have hcheld : c.world.held 0 = writeAll ((configuredWorld o s .empty).held 0)
        (entries (commitParams (recordAll S s)) ++ captureEntries b) := by
      rw [hcommit, ← hsame]
      exact hC.held
    rw [hg, hcheld, World.held_sent halive]
    refine (writeAll_early_late S b (configuredWorld_unset o s .empty) hs
      (hcstate.symm.trans h)).trans
      ?_
    exact congrArg (fun held => readAs automatic (writeAll held _)) hE.held.symm
  · -- There is no other.
    have hpos : 1 ≤ g := Nat.one_le_iff_ne_zero.mpr hg
    have hcw : c.world.nextComponent = 1 := hC.nextComponent
    have hew : (e.world.sent (toComponent 0 (paramsAll S s))).nextComponent = 1 := by
      rw [← World.nextComponent_forgetParams, World.forgetParams_sent,
        World.nextComponent_forgetParams]
      exact hE.nextComponent
    refine congrArg (readAs automatic)
      ((held_of_le (Nat.le_trans (Nat.le_of_eq hcw) hpos)).trans ?_)
    exact (held_of_le (Nat.le_trans (Nat.le_of_eq hew) hpos)).symm

/-- A shutter speed and its mode. -/
theorem early_iff_fixed :
    ∃ c d, run step .init (setters .allOk [.shutterSpeed 1000, .exposure .fixedfps]
        ++ [.openCamera true .allOk]) = some c ∧
      run step .init (.openCamera true .allOk
        :: setters .allOk [.shutterSpeed 1000, .exposure .fixedfps]) = some d ∧
      c.impl.isOpened = true ∧ d.impl.isOpened = true ∧
      (c.SameSettings d ↔ lastShutterSpeed [.shutterSpeed 1000, .exposure .fixedfps] = 0 ∨
        lastExposure [.shutterSpeed 1000, .exposure .fixedfps] = .fixedfps) :=
  early_iff ⟨⟨⟨rfl, rfl, rfl, rfl, rfl, rfl⟩, rfl⟩, rfl, fun _ _ => rfl⟩ fun _ _ => rfl

/-- A shutter speed of 1000 that is set before the camera is opened changes the
    exposure mode, and one that is set afterwards does not. -/
theorem early_shutter_speed :
    ∃ c d, run step .init (setters .allOk [.shutterSpeed 1000] ++ [.openCamera true .allOk])
        = some c ∧
      run step .init (.openCamera true .allOk :: setters .allOk [.shutterSpeed 1000]) = some d ∧
      c.impl.state.rpcExposureMode = .fixedfps ∧ d.impl.state.rpcExposureMode = .auto ∧
      c.world.param 0 .control .exposureMode = some (.exposureMode .fixedfps) ∧
      d.world.param 0 .control .exposureMode = some (.exposureMode .auto) ∧
      ¬ c.SameSettings d :=
  ⟨_, _, rfl, rfl, rfl, rfl, rfl, rfl, fun h => absurd (congrArg RaspividState.rpcExposureMode h.1)
    (by decide)⟩

end Video

end RaspiCam
