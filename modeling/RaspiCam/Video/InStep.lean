import RaspiCam.Lib.WriteThrough
import RaspiCam.Core.Commit
import RaspiCam.Video.Feedback
import Mathlib.Order.Bounds.Defs

/-!
# Do the Settings and the Device Agree?

Every setter records its argument and, while the camera is open, commits it;
`open` commits everything to the component it created. As long as MMAL accepts
every parameter, the component of an open camera therefore holds what the
recorded settings translate to: `synced_run`. This is the write-through store
of `Lib.WriteThrough`, with the parameters of the component as the store.

Two parameters are left out. The camera reports its exposure and its white
balance gains, and the reports are recorded without being committed.

## Main definitions

* `portsOf`, `settingValue`: What a parameter should be, and on which ports.
* `wanted`, `held`: The same as a store, and what a component holds.
* `Op.ParamsOk`: MMAL accepts every parameter the operation sends.
* `Camera.Synced`: The component of an open camera holds what it should.
* `NamesExposure`, `NamesMetering`, `NamesAwb`, `NamesImageEffect`, `Mirrors`:
  What the values of the device stand for.
* `Holds`: What this means for each setting.

## Theorems

* `held_sent`: Sending parameters is writing to the store.
* `Setting.params_wanted`, `commitParams_wanted`: What is sent is what should be
  held.
* `openCamera_opened`: What opening the camera leaves behind.
* `synced_step`, `synced_run`: The operations keep the settings and the device
  in step.
* `settings_in_step`: What an open camera holds.
-/

namespace RaspiCam

open Mmal Machine Transition WriteThrough

namespace Mmal

/-- What the component holds in each place. -/
def World.held (w : World) (h : Handle) : Slot → Option Param := fun k => w.param h k.1 k.2

/-- Parameters as writes to their places. -/
def entries (qs : List (PortId × Param)) : List (Slot × Param) :=
  qs.map fun q => ((q.1, q.2.id), q.2)

theorem World.held_setParam {w : World} {h : Handle} (ha : w.alive h = true) (p : PortId)
    (q : Param) : (w.setParam h p q).held h = Function.update (w.held h) (p, q.id) (some q) := by
  funext k
  rcases k with ⟨p', i⟩
  rw [held, param_setParam ha]
  by_cases hk : p' = p ∧ i = q.id
  · rw [if_pos ⟨rfl, hk⟩, hk.1, hk.2, Function.update_self]
  · rw [if_neg fun hc => hk hc.2, Function.update_of_ne fun hc => hk (Prod.mk.inj hc)]
    rfl

/-- Sending parameters is writing to the store. -/
theorem World.held_sent {w : World} {h : Handle} (ha : w.alive h = true)
    (qs : List (PortId × Param)) :
    (w.sent (toComponent h qs)).held h = writeAll (w.held h) (entries qs) := by
  induction qs generalizing w with
  | nil => rfl
  | cons q qs ih =>
      have hstep := ih (w := w.setParam h q.1 q.2) (by rw [alive_setParam, ha])
      rw [held_setParam ha] at hstep
      exact hstep

end Mmal

namespace Video

/-- The ports a setting is committed to. -/
def portsOf : ParamId → List PortId
  | .rotation => [.output 0, .output 1, .output 2]
  | .mirror => [.output 0, .output 1, .output 2]
  | _ => [.control]

/-- What a parameter should be. -/
def settingValue (s : RaspividState) : ParamId → Option Param
  | .saturation => some (.saturation (percent s.saturation))
  | .sharpness => some (.sharpness (percent s.sharpness))
  | .contrast => some (.contrast (percent s.contrast))
  | .brightness => some (.brightness (percent s.brightness))
  | .iso => some (.iso (u32 s.iso))
  | .shutterSpeed => some (.shutterSpeed (u32 s.shutterSpeed))
  | .exposureMode => some (.exposureMode (convertExposure s.rpcExposureMode))
  | .exposureComp => some (.exposureComp s.exposureCompensation)
  | .expMeteringMode => some (.expMeteringMode (convertMetering s.rpcExposureMeterMode))
  | .imageEffect => some (.imageEffect (convertImageEffect s.rpcImageEffect))
  | .rotation => some (.rotation (s.rotation.tdiv 90 * 90))
  | .mirror => some (.mirror (mirrorOf s.hflip s.vflip))
  | .videoStabilisation => some (.videoStabilisation s.videoStabilisation)
  | .awbMode => some (.awbMode (convertAwb s.rpcAwbMode))
  | .customAwbGains => some (.customAwbGains (awbGain s.awbgRed) (awbGain s.awbgBlue))
  | _ => none

/-- What each place should hold. -/
def wanted (s : RaspividState) (k : Slot) : Option Param :=
  if k.1 ∈ portsOf k.2 then settingValue s k.2 else none

/-- The parameter a setter is about. -/
def Setting.id : Setting → ParamId
  | .videoStabilization _ => .videoStabilisation
  | .brightness _ => .brightness
  | .shutterSpeed _ => .shutterSpeed
  | .rotation _ => .rotation
  | .iso _ => .iso
  | .sharpness _ => .sharpness
  | .contrast _ => .contrast
  | .saturation _ => .saturation
  | .awbRb _ _ => .customAwbGains
  | .exposure _ => .exposureMode
  | .awb _ => .awbMode
  | .imageEffect _ => .imageEffect
  | .metering _ => .expMeteringMode
  | .exposureCompensation _ => .exposureComp
  | .horizontalFlip _ => .mirror
  | .verticalFlip _ => .mirror

theorem wanted_forgetCapture (s : RaspividState) : wanted s.forgetCapture = wanted s := rfl

/-- A setter sends its own parameter, to all its ports, and nothing else. -/
theorem Setting.params_eq (x : Setting) (s : RaspividState) :
    ∃ q, settingValue s x.id = some q ∧ q.id = x.id ∧
      x.params s = (portsOf x.id).map fun p => (p, q) := by
  cases x <;> exact ⟨_, rfl, rfl, rfl⟩

/-- A setter changes what its own parameter should be, and nothing else. -/
theorem Setting.settingValue_other (x : Setting) (s : RaspividState) {i : ParamId} (hi : i ≠ x.id) :
    settingValue (x.recorded s) i = settingValue s i := by
  cases x <;> cases i <;> first | rfl | exact absurd rfl hi

/-- What a setter sends is what should be held. -/
theorem Setting.params_wanted (x : Setting) (s : RaspividState) :
    ∀ w ∈ entries (x.params s), wanted s w.1 = some w.2 := by
  rcases x.params_eq s with ⟨q, hq, hid, hparams⟩
  intro w hw
  rw [entries, hparams, List.map_map] at hw
  rcases List.mem_map.mp hw with ⟨p, hp, rfl⟩
  simp only [Function.comp_apply, hid, wanted, if_pos hp, hq]

/-- What it does not send is what it was. -/
theorem Setting.wanted_recorded (x : Setting) (s : RaspividState) {k : Slot}
    (hk : ∀ w ∈ entries (x.params (x.recorded s)), w.1 ≠ k) :
    wanted (x.recorded s) k = wanted s k := by
  unfold wanted
  by_cases hp : k.1 ∈ portsOf k.2
  · rw [if_pos hp, if_pos hp]
    refine x.settingValue_other s fun hi => ?_
    rcases x.params_eq (x.recorded s) with ⟨q, _, hid, hparams⟩
    refine hk ((k.1, q.id), q) ?_ (Prod.ext rfl (hid.trans hi.symm))
    rw [entries, hparams, List.map_map]
    exact List.mem_map.mpr ⟨k.1, hi ▸ hp, rfl⟩
  · rw [if_neg hp, if_neg hp]

/-- Committing everything changes the exposure mode only. -/
theorem afterCommit_feedback (s : RaspividState) :
    s.afterCommit.shutterSpeed = s.shutterSpeed ∧ s.afterCommit.awbgRed = s.awbgRed ∧
      s.afterCommit.awbgBlue = s.awbgBlue := by
  simp only [RaspividState.afterCommit, RaspividState.told, Feedback.committed]
  split <;> exact ⟨rfl, rfl, rfl⟩

/-- The parameters that `commitParameters` sends. -/
def committedIds (s : RaspividState) : List ParamId :=
  [.saturation, .sharpness, .contrast, .brightness, .iso]
  ++ (if s.shutterSpeed ≠ 0 then [.shutterSpeed] else [])
  ++ [.exposureMode, .exposureComp, .expMeteringMode, .imageEffect, .rotation, .mirror,
      .videoStabilisation, .awbMode, .customAwbGains]

/-- All of them are sent to all their ports, with the values that are recorded
    afterwards. -/
theorem entries_commitParams (s : RaspividState) : entries (commitParams s) =
    (committedIds s).flatMap fun i => (settingValue s.afterCommit i).toList.flatMap fun q =>
      (portsOf i).map fun p => ((p, i), q) := by
  rcases afterCommit_feedback s with ⟨hshutter, hred, hblue⟩
  unfold commitParams commitParamsFirst flipParams commitParamsThen committedIds
  by_cases hs : s.shutterSpeed ≠ 0
  · simp only [if_pos hs, List.cons_append, List.nil_append, List.flatMap_cons, List.flatMap_nil,
      settingValue, hshutter, hred, hblue]
    rfl
  · simp only [if_neg hs, List.cons_append, List.nil_append, List.flatMap_cons, List.flatMap_nil,
      settingValue, hred, hblue]
    rfl

theorem mem_entries_commitParams {s : RaspividState} {w : Slot × Param} :
    w ∈ entries (commitParams s) ↔ w.1.2 ∈ committedIds s ∧ w.1.1 ∈ portsOf w.1.2 ∧
      settingValue s.afterCommit w.1.2 = some w.2 := by
  rcases w with ⟨⟨p, i⟩, q⟩
  simp only [entries_commitParams, List.mem_flatMap, List.mem_map, Option.mem_toList,
    Prod.mk.injEq]
  constructor
  · rintro ⟨i', hi, q', hq, p', hp, ⟨rfl, rfl⟩, rfl⟩
    exact ⟨hi, hp, hq⟩
  · rintro ⟨hi, hp, hq⟩
    exact ⟨i, hi, q, hq, p, hp, ⟨rfl, rfl⟩, rfl⟩

/-- What `commitParameters` sends is what should be held afterwards. -/
theorem commitParams_wanted (s : RaspividState) :
    ∀ w ∈ entries (commitParams s), wanted s.afterCommit w.1 = some w.2 := by
  intro w hw
  rcases mem_entries_commitParams.mp hw with ⟨_, hp, hq⟩
  rw [wanted, if_pos hp, hq]

/-- Every parameter that has a value is sent, but for the shutter speed. -/
theorem mem_committedIds {s : RaspividState} {i : ParamId} {q : Param} (hi : i ≠ .shutterSpeed)
    (hq : settingValue s.afterCommit i = some q) : i ∈ committedIds s := by
  unfold committedIds
  by_cases hs : s.shutterSpeed ≠ 0
  · rw [if_pos hs]
    cases i <;> first | decide | exact absurd rfl hi | exact absurd hq (Option.some_ne_none q).symm
  · rw [if_neg hs]
    cases i <;> first | decide | exact absurd rfl hi | exact absurd hq (Option.some_ne_none q).symm

/-- A place that `commitParameters` does not write is not wanted. -/
theorem wanted_afterCommit {s : RaspividState} {k : Slot} (hi : k.2 ≠ .shutterSpeed)
    (hk : ∀ w ∈ entries (commitParams s), w.1 ≠ k) : wanted s.afterCommit k = none := by
  unfold wanted
  by_cases hp : k.1 ∈ portsOf k.2
  · rw [if_pos hp]
    cases hq : settingValue s.afterCommit k.2 with
    | none => rfl
    | some q =>
        exact absurd rfl (hk (k, q) (mem_entries_commitParams.mpr ⟨mem_committedIds hi hq, hp, hq⟩))
  · rw [if_neg hp]

/-- A setter that is accepted sends its parameters. -/
theorem Setting.commit_sent (x : Setting) {s : RaspividState} {h : Handle} {r : SetResults}
    {w : World} (hr : r.ParamsOk) (hcam : s.cameraComponent = some h) (ha : w.alive h = true) :
    x.commit s r w = .ok (w.sent (toComponent h (x.params s))) := by
  rw [← sendAll_eq_sent ha hr, ← hcam]
  cases x with
  | horizontalFlip v => exact sendWhileOk_eq_sendAll hr _ _ _
  | verticalFlip v => exact sendWhileOk_eq_sendAll hr _ _ _
  | _ => rfl

/-- Committing everything, when all of it is accepted. -/
theorem commitParameters_sent {s : RaspividState} {h : Handle} {r : SetResults} {w : World}
    (hr : r.ParamsOk) (hcam : s.cameraComponent = some h) (ha : w.alive h = true) :
    commitParameters s r w
      = .ok (s.afterCommit, w.sent (toComponent h (commitParams s))) := by
  simp only [commitParameters_eq, hcam, sendWhileOk_eq_sendAll hr, sendAll_eq_sent, ha, hr,
    World.alive_sent, ok_bind, commitParams, toComponent, List.map_append, World.sent_append]

/-- Attaching the object to a live camera, when everything is accepted. -/
theorem attachCamera_sent {o : OpenOutcome} {c : Camera} {h : Handle} (hr : o.sets.ParamsOk)
    (hcam : c.impl.state.cameraComponent = some h) (ha : c.world.alive h = true) :
    attachCamera o c = .ok ⟨{ c.impl with
        state := c.impl.state.afterCommit
        cameraVideoPort := some ⟨h, cameraVideoPort⟩
        callbackData := { c.impl.callbackData with attached := true }
        isOpened := true },
      ((c.world.sent (toComponent h (commitParams c.impl.state))).setUserdata h cameraVideoPort
        (some 0)).setUserdata h .control (some 0)⟩ := by
  have hsame : c.impl.state.afterCommit.cameraComponent = some h := hcam
  simp only [attachCamera, commitParameters_sent hr hcam ha, ok_bind, hsame,
    useComponent_of_alive ((World.alive_sent _ _ h).trans ha)]

theorem held_setUserdata (w : World) (h g : Handle) (p : PortId) (u : Option Nat) :
    (w.setUserdata g p u).held h = w.held h :=
  funext fun k => World.param_modify w g h k.1 k.2 _ fun _ => rfl

/-- The component an object refers to is alive, and the camera is open. -/
theorem Camera.Attached.alive {c : Camera} {h : Handle} (ha : c.Attached)
    (hcam : c.impl.state.cameraComponent = some h) : c.world.alive h = true := by
  have ho : c.impl.isOpened = true := by
    refine Bool.of_not_eq_false fun hc => ?_
    exact absurd (hcam.symm.trans (ha.closed hc)) (Option.some_ne_none h)
  rcases ha.opened ho with ⟨g, hg, _, halive, _⟩
  rwa [Option.some.inj (hg.symm.trans hcam)] at halive

/-- Starting to capture, when it is accepted and goes through. -/
theorem startCapture_sent {r : SetResults} {c c' : Camera} {h : Handle} {b : Bool} (ha : c.Attached)
    (hr : r.ParamsOk) (ho : c.impl.isOpened = true) (hcam : c.impl.state.cameraComponent = some h)
    (hs : startCapture r c = .ok (b, c')) :
    b = true ∧ c' = ⟨{ c.impl with isCapturing := true },
      c.world.setParam h cameraVideoPort (.capture true)⟩ := by
  rcases ha.opened ho with ⟨g, hg, hport, halive, _⟩
  obtain rfl : g = h := Option.some.inj (hg.symm.trans hcam)
  rw [startCapture_eq ho hport halive, if_neg (by rw [hr]; decide)] at hs
  rcases bind_ok hs with ⟨_, _, hs⟩
  rcases Prod.mk.inj (Except.ok.inj hs) with ⟨rfl, rfl⟩
  rw [trySet_allOk hr]
  exact ⟨rfl, rfl⟩

/-- What is written when the camera is asked to capture. -/
def captureEntries (startCapturing : Bool) : List (Slot × Param) :=
  if startCapturing then [((cameraVideoPort, .capture), .capture true)] else []

/-- No setting is kept where capturing is asked for. -/
theorem captureEntries_untouched (b : Bool) {s : RaspividState} {k : Slot} {v : Param}
    (hk : wanted s k = some v) : ∀ w ∈ captureEntries b, w.1 ≠ k := by
  rintro w hw rfl
  unfold captureEntries at hw
  by_cases hb : b = true
  · rw [if_pos hb, List.mem_singleton] at hw
    rw [hw] at hk
    exact absurd hk (Option.some_ne_none v).symm
  · rw [if_neg hb] at hw
    exact absurd hw List.not_mem_nil

theorem inStep_capture {P : Slot → Prop} {s : RaspividState} {held : Slot → Option Param} (b : Bool)
    (h : InStep P (wanted s) held) : InStep P (wanted s) (writeAll held (captureEntries b)) :=
  h.congr (fun _ _ => rfl) fun _ _ _ hv => writeAll_other (captureEntries_untouched b hv)

/-- What opening the camera leaves behind, when every parameter is accepted:
    everything was sent to the component that was created. -/
theorem openCamera_opened {b b' : Bool} {o : OpenOutcome} {c c' : Camera}
    (hc : c.impl.isOpened = false) (hr : o.sets.ParamsOk) (h : openCamera b o c = .ok (b', c'))
    (ho : c'.impl.isOpened = true) : ∃ d g, createCameraComponent o c = (true, d) ∧
      d.impl.state.cameraComponent = some g ∧ c'.impl.state = d.impl.state.afterCommit ∧
      c'.world.held g = writeAll (d.world.held g)
        (entries (commitParams d.impl.state) ++ captureEntries b) := by
  unfold openCamera at h
  rw [if_neg (by rw [hc]; decide)] at h
  cases hd : createCameraComponent o c with
  | mk created d =>
      rw [hd] at h
      cases created with
      | false =>
          have hopened := createCameraComponent_isOpened o c
          rw [hd, hc] at hopened
          rw [← (Prod.mk.inj (Except.ok.inj h)).2, hopened] at ho
          exact absurd ho Bool.false_ne_true
      | true =>
          rcases createCameraComponent_live hd with ⟨hcam, halive, _⟩
          refine ⟨d, _, rfl, hcam, ?_⟩
          have hattach := attachCamera_sent hr hcam halive
          have hattached := (attached_of_created hc hd hattach).1
          simp only [hattach, ok_bind] at h
          have hsent : (d.world.sent (toComponent c.world.nextComponent
              (commitParams d.impl.state))).held c.world.nextComponent
              = writeAll (d.world.held c.world.nextComponent)
                  (entries (commitParams d.impl.state)) :=
            World.held_sent halive _
          by_cases hb : b = true
          · rw [if_pos hb] at h
            rcases startCapture_sent hattached hr rfl hcam h with ⟨_, rfl⟩
            refine ⟨rfl, ?_⟩
            rw [captureEntries, if_pos hb, writeAll_append,
              World.held_setParam (hattached.alive hcam),
              held_setUserdata, held_setUserdata, hsent]
            rfl
          · rw [if_neg hb] at h
            rw [← (Prod.mk.inj (Except.ok.inj h)).2, captureEntries, if_neg hb, List.append_nil]
            refine ⟨rfl, ?_⟩
            rw [held_setUserdata, held_setUserdata, hsent]

/-- MMAL accepts every parameter that the operation sends. -/
def Op.ParamsOk : Op → Prop
  | .set _ r => r.ParamsOk
  | .openCamera _ o => o.sets.ParamsOk
  | .startCapture r => r.ParamsOk
  | .frame _ _ r => r.ParamsOk
  | _ => True

/-- The camera reports nothing about the parameter. -/
def Unreported (k : Slot) : Prop := k.2 ≠ .shutterSpeed ∧ k.2 ≠ .customAwbGains

/-- The component of an open camera holds what it should. -/
def Camera.Synced (c : Camera) : Prop :=
  c.impl.isOpened = true → ∀ h ∈ c.impl.state.cameraComponent,
    InStep Unreported (wanted c.impl.state) (c.world.held h)

/-- Settings that are the same should be held the same. -/
theorem wanted_congr {s t : RaspividState} (h : t.forgetCapture = s.forgetCapture) :
    wanted t = wanted s := by
  rw [← wanted_forgetCapture, h, wanted_forgetCapture]

/-- What the camera reports is not about the other parameters. -/
theorem wanted_control (e : ControlEvent) (p : PrivateImpl) {k : Slot} (hk : Unreported k) :
    wanted (cameraControlCallback e p).state k = wanted p.state k := by
  cases e with
  | cameraSettings exposure red blue =>
      rcases k with ⟨port, i⟩
      unfold wanted
      cases i <;> first | rfl | exact absurd rfl hk.1 | exact absurd rfl hk.2
  | _ => rfl

/-- The device was not touched. -/
theorem Camera.Synced.untouched {c c' : Camera} (h : c.Synced)
    (hopen : c'.impl.isOpened = c.impl.isOpened)
    (hcam : c'.impl.state.cameraComponent = c.impl.state.cameraComponent)
    (hwant : ∀ k, Unreported k → wanted c'.impl.state k = wanted c.impl.state k)
    (hworld : c'.world = c.world) : c'.Synced := by
  intro ho g hg
  rw [hcam] at hg
  exact (h (hopen ▸ ho) g hg).congr hwant fun _ _ _ _ => by rw [hworld]

/-- Opening the camera brings them in step, or leaves it closed. -/
theorem synced_openCamera {b b' : Bool} {o : OpenOutcome} {c c' : Camera} (hs : c.Synced)
    (hr : o.sets.ParamsOk) (h : openCamera b o c = .ok (b', c')) : c'.Synced := by
  by_cases hc : c.impl.isOpened = true
  · unfold openCamera at h
    rw [if_pos hc] at h
    rw [← (Prod.mk.inj (Except.ok.inj h)).2]
    exact hs
  · intro ho g hg
    rcases openCamera_opened (Bool.eq_false_iff.mpr hc) hr h ho with ⟨d, g', _, hcam, hstate, hheld⟩
    obtain rfl : g' = g := by
      rw [hstate] at hg
      exact Option.some.inj (hcam.symm.trans hg)
    rw [hheld, writeAll_append, hstate]
    exact inStep_capture b
      (inStep_fresh (commitParams_wanted _) fun k hk hout => wanted_afterCommit hk.1 hout)

/-- Whatever happens, the settings and the device stay in step. -/
theorem synced_step {c c' : Camera} {o : Op} (ha : c.Attached) (hr : o.ParamsOk) (hs : c.Synced)
    (h : step c o = some c') : c'.Synced := by
  have hx := (step_ok h).2
  cases o with
  | set x r =>
      simp only [exec, Setting.apply_params] at hx
      intro ho g hg
      -- The setter records, and sends what it recorded.
      have hopen : c.impl.isOpened = true := by
        rw [(put_ok hx x.commit_quiet).1] at ho
        exact ho
      have hstate : c'.impl.state = x.recorded c.impl.state := by
        rw [(put_ok hx x.commit_quiet).1]
      have hcam : c.impl.state.cameraComponent = some g := by
        rw [hstate] at hg
        cases x <;> exact hg
      have hcam' : (x.recorded c.impl.state).cameraComponent = some g := hstate ▸ hg
      have halive := ha.alive hcam
      rw [Camera.put, if_pos hopen, x.commit_sent hr hcam' halive] at hx
      rw [← Except.ok.inj hx]
      simp only [World.held_sent halive]
      exact (hs hopen g hcam).writeAll (x.params_wanted _) fun k _ hout => x.wanted_recorded _ hout
  | openCamera b out =>
      rcases bind_ok hx with ⟨⟨b', d⟩, hd, hx⟩
      rw [← Except.ok.inj hx]
      exact synced_openCamera hs hr hd
  | startCapture r =>
      rcases bind_ok hx with ⟨⟨b, d⟩, hd, hx⟩
      rw [← Except.ok.inj hx]
      by_cases ho : c.impl.isOpened = true
      · rcases ha.opened ho with ⟨g, hcam, _, halive, _⟩
        rcases startCapture_sent ha hr ho hcam hd with ⟨_, rfl⟩
        intro _ g' hg'
        obtain rfl : g = g' := Option.some.inj (hcam.symm.trans hg')
        refine (hs ho g hcam).congr (fun _ _ => rfl) fun k v _ hv => ?_
        simp only [World.held_setParam halive]
        refine Function.update_of_ne ?_ _ _
        rintro rfl
        exact absurd hv (Option.some_ne_none v).symm
      · rw [startCapture_closed (Bool.eq_false_iff.mpr ho)] at hd
        rw [← (Prod.mk.inj (Except.ok.inj hd)).2]
        exact hs
  | release =>
      intro ho
      exact absurd ((release_ok hx).2.1.symm.trans ho) Bool.false_ne_true
  | frame b fresh r =>
      rcases bind_ok hx with ⟨g, hg, hx⟩
      rcases bind_ok hx with ⟨⟨grabbed, d⟩, hd, hx⟩
      rcases useComponent_ok hg with ⟨hcam, halive⟩
      rw [← Except.ok.inj hx]
      rcases bind_ok hd with ⟨_, _, hd⟩
      rcases bind_ok hd with ⟨w, hw, hd⟩
      have hkeep : (if c.impl.callbackData.wantsFrame b then c.impl.keepFrame b fresh
          else c.impl).state = c.impl.state := by
        split <;> rfl
      rw [hkeep, refreshShutter_eq, hcam, sendAll_eq_sent halive hr, Except.ok.injEq] at hw
      rw [← (Prod.mk.inj (Except.ok.inj hd)).2]
      intro ho g' hg'
      simp only [hkeep] at hg' ⊢
      obtain rfl : g = g' := Option.some.inj (hcam.symm.trans hg')
      have hopen : c.impl.isOpened = true := by
        refine Eq.trans ?_ ho
        split <;> rfl
      rw [← hw, World.held_sent halive]
      refine (hs hopen g hcam).writeAll (fun u hu => ?_) fun _ _ _ => rfl
      unfold refreshParams at hu
      split at hu
      · rw [List.mem_singleton.mp hu]
        rfl
      · exact absurd hu List.not_mem_nil
  | control e =>
      rw [← Except.ok.inj hx]
      refine hs.untouched ?_ ?_ (fun k hk => wanted_control e c.impl hk) rfl
      · cases e <;> rfl
      · cases e <;> rfl
  | _ =>
      have hsame := step_sameOwner rfl h
      refine hs.untouched hsame.isOpened hsame.cameraComponent
        (fun k _ => congrFun (wanted_congr (step_settings ha h)) k) ?_
      refine (congrArg Camera.world (Except.ok.inj hx).symm).trans ?_
      -- The calls that look at the state first do nothing or record something.
      first
        | rfl
        | (unfold setFormat; split <;> rfl)
        | (unfold setSensorMode; split <;> rfl)
        | rw [grab_camera]

/-- The recorded rotation is not negative. -/
theorem rotation_step {c c' : Camera} {o : Op} (ha : c.Attached) (h : 0 ≤ c.impl.state.rotation)
    (hstep : step c o = some c') : 0 ≤ c'.impl.state.rotation := by
  have hrotation : c'.impl.state.forgetCapture.rotation = (o.settles c).forgetCapture.rotation :=
    congrArg RaspividState.rotation (step_settings ha hstep)
  rw [show c'.impl.state.rotation = (o.settles c).rotation from hrotation]
  cases o with
  | set x r =>
      cases x with
      | rotation v =>
          simp only [Op.settles, Setting.recorded, turned_eq]
          omega
      | _ => exact h
  | openCamera b out =>
      simp only [Op.settles]
      split <;> exact h
  | control e => cases e <;> exact h
  | _ => exact h

/-- What every reachable state satisfies, when every parameter is accepted. -/
structure Camera.InTouch (c : Camera) : Prop where
  attached : c.Attached
  synced : c.Synced
  rotation : 0 ≤ c.impl.state.rotation

theorem synced_run {os : List Op} {c : Camera} (hr : ∀ o ∈ os, o.ParamsOk)
    (h : run step .init os = some c) : c.InTouch := by
  refine run_invariant_along (P := fun _ o => o.ParamsOk) (fun c o c' hc ho hstep => ?_) ?_
    (along_of_forall fun o ho _ => hr o ho) h
  · exact ⟨attached_step c o c' hc.attached hstep, synced_step hc.attached ho hc.synced hstep,
      rotation_step hc.attached hc.rotation hstep⟩
  · exact ⟨ledger_init.attached, fun ho => absurd ho Bool.false_ne_true, Int.le_refl 0⟩

/-- The exposure modes that have the same name on both sides. -/
inductive NamesExposure : RaspicamExposure → MmalExposureMode → Prop
  | off : NamesExposure .off .off
  | auto : NamesExposure .auto .auto
  | night : NamesExposure .night .night
  | nightpreview : NamesExposure .nightpreview .nightpreview
  | backlight : NamesExposure .backlight .backlight
  | spotlight : NamesExposure .spotlight .spotlight
  | sports : NamesExposure .sports .sports
  | snow : NamesExposure .snow .snow
  | beach : NamesExposure .beach .beach
  | verylong : NamesExposure .verylong .verylong
  | fixedfps : NamesExposure .fixedfps .fixedfps
  | antishake : NamesExposure .antishake .antishake
  | fireworks : NamesExposure .fireworks .fireworks

/-- The metering modes that have the same name on both sides. -/
inductive NamesMetering : RaspicamMetering → MmalExposureMeteringMode → Prop
  | average : NamesMetering .average .average
  | spot : NamesMetering .spot .spot
  | backlit : NamesMetering .backlit .backlit
  | matrix : NamesMetering .matrix .matrix

/-- The white balance modes that have the same name on both sides. -/
inductive NamesAwb : RaspicamAwb → MmalAwbMode → Prop
  | off : NamesAwb .off .off
  | auto : NamesAwb .auto .auto
  | sunlight : NamesAwb .sunlight .sunlight
  | cloudy : NamesAwb .cloudy .cloudy
  | shade : NamesAwb .shade .shade
  | tungsten : NamesAwb .tungsten .tungsten
  | fluorescent : NamesAwb .fluorescent .fluorescent
  | incandescent : NamesAwb .incandescent .incandescent
  | flash : NamesAwb .flash .flash
  | horizon : NamesAwb .horizon .horizon

/-- The image effects that have the same name on both sides, but for the spelling. -/
inductive NamesImageEffect : RaspicamImageEffect → MmalImageFx → Prop
  | none : NamesImageEffect .none .none
  | negative : NamesImageEffect .negative .negative
  | solarize : NamesImageEffect .solarize .solarize
  | sketch : NamesImageEffect .sketch .sketch
  | denoise : NamesImageEffect .denoise .denoise
  | emboss : NamesImageEffect .emboss .emboss
  | oilpaint : NamesImageEffect .oilpaint .oilpaint
  | hatch : NamesImageEffect .hatch .hatch
  | gpen : NamesImageEffect .gpen .gpen
  | pastel : NamesImageEffect .pastel .pastel
  | watercolor : NamesImageEffect .watercolor .watercolour
  | film : NamesImageEffect .film .film
  | blur : NamesImageEffect .blur .blur
  | saturation : NamesImageEffect .saturation .saturation
  | colorswap : NamesImageEffect .colorswap .colourswap
  | washedout : NamesImageEffect .washedout .washedout
  | posterise : NamesImageEffect .posterise .posterise
  | colorpoint : NamesImageEffect .colorpoint .colourpoint
  | colorbalance : NamesImageEffect .colorbalance .colourbalance
  | cartoon : NamesImageEffect .cartoon .cartoon

/-- The mirror value that stands for a pair of flips, horizontal and vertical. -/
inductive Mirrors : Bool → Bool → MmalMirror → Prop
  | none : Mirrors false false .none
  | horizontal : Mirrors true false .horizontal
  | vertical : Mirrors false true .vertical
  | both : Mirrors true true .both

theorem convertExposure_names (e : RaspicamExposure) : NamesExposure e (convertExposure e) := by
  cases e <;> constructor

theorem convertMetering_names (m : RaspicamMetering) : NamesMetering m (convertMetering m) := by
  cases m <;> constructor

theorem convertAwb_names (a : RaspicamAwb) : NamesAwb a (convertAwb a) := by
  cases a <;> constructor

theorem convertImageEffect_names (x : RaspicamImageEffect) :
    NamesImageEffect x (convertImageEffect x) := by
  cases x <;> constructor

theorem mirrorOf_mirrors (hflip vflip : Bool) : Mirrors hflip vflip (mirrorOf hflip vflip) := by
  cases hflip <;> cases vflip <;> constructor

/-- What the component holds for each setting. The values are hundredths, the
    ISO is reduced to an `unsigned int`, and the modes are those of the same
    name. -/
structure Holds (w : World) (h : Handle) (s : RaspividState) : Prop where
  saturation : w.param h .control .saturation = some (.saturation ⟨s.saturation, 100⟩)
  sharpness : w.param h .control .sharpness = some (.sharpness ⟨s.sharpness, 100⟩)
  contrast : w.param h .control .contrast = some (.contrast ⟨s.contrast, 100⟩)
  brightness : w.param h .control .brightness = some (.brightness ⟨s.brightness, 100⟩)
  iso : ∃ v : Nat, w.param h .control .iso = some (.iso v) ∧ (v : Int) = s.iso % 4294967296
  exposureMode : ∃ m, w.param h .control .exposureMode = some (.exposureMode m) ∧
    NamesExposure s.rpcExposureMode m
  exposureComp : w.param h .control .exposureComp = some (.exposureComp s.exposureCompensation)
  metering : ∃ m, w.param h .control .expMeteringMode = some (.expMeteringMode m) ∧
    NamesMetering s.rpcExposureMeterMode m
  imageEffect : ∃ x, w.param h .control .imageEffect = some (.imageEffect x) ∧
    NamesImageEffect s.rpcImageEffect x
  stabilisation : w.param h .control .videoStabilisation
    = some (.videoStabilisation s.videoStabilisation)
  awbMode : ∃ a, w.param h .control .awbMode = some (.awbMode a) ∧ NamesAwb s.rpcAwbMode a
  mirror : ∀ i < 3, ∃ m, w.param h (.output i) .mirror = some (.mirror m) ∧
    Mirrors s.hflip s.vflip m
  rotation : ∀ i < 3, ∃ a, w.param h (.output i) .rotation = some (.rotation a) ∧
    IsGreatest {b : Int | 90 ∣ b ∧ b ≤ s.rotation} a

/-- Whole quarter turns, rounded down. -/
theorem quarters_isGreatest {a : Int} (h : 0 ≤ a) :
    IsGreatest {b : Int | 90 ∣ b ∧ b ≤ a} (a.tdiv 90 * 90) := by
  rw [Int.tdiv_eq_ediv_of_nonneg h]
  refine ⟨⟨Int.dvd_mul_left _ _, by omega⟩, ?_⟩
  rintro b ⟨⟨k, rfl⟩, hle⟩
  omega

/-- The settings in step, one by one. -/
theorem InStep.holds {w : World} {h : Handle} {s : RaspividState}
    (hs : InStep Unreported (wanted s) (w.held h)) (hrot : 0 ≤ s.rotation) : Holds w h s := by
  have hport : ∀ i, i < 3 → i = 0 ∨ i = 1 ∨ i = 2 := fun i hi => by omega
  refine
    { saturation := hs (.control, .saturation) _ ⟨by decide, by decide⟩ rfl
      sharpness := hs (.control, .sharpness) _ ⟨by decide, by decide⟩ rfl
      contrast := hs (.control, .contrast) _ ⟨by decide, by decide⟩ rfl
      brightness := hs (.control, .brightness) _ ⟨by decide, by decide⟩ rfl
      iso := ⟨_, hs (.control, .iso) _ ⟨by decide, by decide⟩ rfl,
        Int.toNat_of_nonneg (Int.emod_nonneg _ (by decide))⟩
      exposureMode := ⟨_, hs (.control, .exposureMode) _ ⟨by decide, by decide⟩ rfl,
        convertExposure_names _⟩
      exposureComp := hs (.control, .exposureComp) _ ⟨by decide, by decide⟩ rfl
      metering := ⟨_, hs (.control, .expMeteringMode) _ ⟨by decide, by decide⟩ rfl,
        convertMetering_names _⟩
      imageEffect := ⟨_, hs (.control, .imageEffect) _ ⟨by decide, by decide⟩ rfl,
        convertImageEffect_names _⟩
      stabilisation := hs (.control, .videoStabilisation) _ ⟨by decide, by decide⟩ rfl
      awbMode := ⟨_, hs (.control, .awbMode) _ ⟨by decide, by decide⟩ rfl, convertAwb_names _⟩
      mirror := fun i hi => ⟨_, ?_, mirrorOf_mirrors _ _⟩
      rotation := fun i hi => ⟨_, ?_, quarters_isGreatest hrot⟩ }
  · rcases hport i hi with rfl | rfl | rfl <;> exact hs (_, .mirror) _ ⟨by decide, by decide⟩ rfl
  · rcases hport i hi with rfl | rfl | rfl <;> exact hs (_, .rotation) _ ⟨by decide, by decide⟩ rfl

/-- As long as every parameter is accepted, the component of an open camera
    holds what the recorded settings translate to. -/
theorem settings_in_step {os : List Op} {c : Camera} (hr : ∀ o ∈ os, o.ParamsOk)
    (h : run step .init os = some c) (ho : c.impl.isOpened = true) :
    ∃ g, c.impl.state.cameraComponent = some g ∧ c.world.alive g = true ∧
      Holds c.world g c.impl.state := by
  have hc := synced_run hr h
  rcases hc.attached.opened ho with ⟨g, hcam, _, halive, _⟩
  exact ⟨g, hcam, halive, InStep.holds (hc.synced ho g hcam) hc.rotation⟩

/-- A camera turned by 200 degrees while it is open, and flipped before. -/
theorem settings_in_step_turned : ∃ c, run step .init
      [.set (.horizontalFlip true) .allOk, .openCamera true .allOk, .set (.rotation 200) .allOk]
        = some c ∧
    ∃ g, c.impl.state.cameraComponent = some g ∧ c.world.alive g = true ∧
      Holds c.world g c.impl.state := by
  refine ⟨_, rfl, @settings_in_step [.set (.horizontalFlip true) .allOk, .openCamera true .allOk,
    .set (.rotation 200) .allOk] _ (fun o ho => ?_) rfl rfl⟩
  rcases List.mem_cons.mp ho with rfl | ho
  · exact fun _ _ => rfl
  rcases List.mem_cons.mp ho with rfl | ho
  · exact fun _ _ => rfl
  rw [List.mem_singleton.mp ho]
  exact fun _ _ => rfl

end Video

end RaspiCam
