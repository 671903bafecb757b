import RaspiCam.Still.Recorded
import RaspiCam.Video.Feedback

/-!
# The Ranges of the Settings

The headers document a range for every numeric setting, and the setters keep
to it. `commitParameters` changes the exposure mode only, which is not a
number, so in both classes the setters are the only calls that write these
settings. The video class has another writer: `camera_control_callback` stores
the exposure the camera reports where `setShutterSpeed` stores the shutter
speed, and does not bring it into the range. What was stored is sent again by
`commitParameters` and with every frame.

`ranges_iff` says that nothing else can go wrong: the settings stay in their
ranges, and no shutter speed over the limit is sent, exactly in the runs in
which the camera reports no exposure over the limit.

## Main definitions

* `Video.RaspividState.Ranged`, `Still.PrivateImplStill.Ranged`: The ranges.
* `Video.Op.SendsInRange`: No shutter speed over the limit is sent.
* `Video.Op.ReportsInRange`: No exposure over the limit is reported.

## Theorems

* `Video.recorded_ranged`, `Still.apply_ranged`: The setters keep to the
  ranges.
* `Video.ranged_step`, `Still.ranged_step`: So do the operations.
* `Video.sendsInRange_of_ranged`: What is sent while they do.
* `ranges_iff`: The runs in which all this holds.
* `reported_exposure_out_of_range`: A run in which it does not.
-/

namespace RaspiCam

open Mmal Machine Transition

/-- Turning an angle gives less than a whole turn. -/
theorem turned_mem (a : Int) :
    0 ≤ (if addTurns a ≥ 360 then (addTurns a).tmod 360 else addTurns a) ∧
      (if addTurns a ≥ 360 then (addTurns a).tmod 360 else addTurns a) ≤ 359 := by
  rw [turned_eq]
  omega

namespace Video

/-- The settings are in their documented ranges. -/
structure RaspividState.Ranged (s : RaspividState) : Prop where
  sharpness : -100 ≤ s.sharpness ∧ s.sharpness ≤ 100
  contrast : -100 ≤ s.contrast ∧ s.contrast ≤ 100
  saturation : -100 ≤ s.saturation ∧ s.saturation ≤ 100
  brightness : 0 ≤ s.brightness ∧ s.brightness ≤ 100
  exposureCompensation : -10 ≤ s.exposureCompensation ∧ s.exposureCompensation ≤ 10
  rotation : 0 ≤ s.rotation ∧ s.rotation ≤ 359
  shutterSpeed : 0 ≤ s.shutterSpeed ∧ s.shutterSpeed ≤ 330000

/-- No shutter speed over the limit is sent. -/
def Op.SendsInRange (c : Camera) (o : Op) : Prop :=
  ∀ p v, (p, Param.shutterSpeed v) ∈ o.sends c → v ≤ 330000

/-- The camera does not report an exposure over the limit. -/
def Op.ReportsInRange : Op → Prop
  | .control (.cameraSettings exposure _ _) => exposure.toNat ≤ 330000
  | _ => True

theorem ranged_forgetCapture (s : RaspividState) : s.forgetCapture.Ranged ↔ s.Ranged :=
  ⟨fun ⟨h1, h2, h3, h4, h5, h6, h7⟩ => ⟨h1, h2, h3, h4, h5, h6, h7⟩,
    fun ⟨h1, h2, h3, h4, h5, h6, h7⟩ => ⟨h1, h2, h3, h4, h5, h6, h7⟩⟩

/-- The setters keep to the ranges. -/
theorem recorded_ranged (x : Setting) {s : RaspividState} (h : s.Ranged) :
    (x.recorded s).Ranged := by
  cases x with
  | brightness v =>
      refine { h with brightness := ?_ }
      simp only [Setting.recorded]
      split <;> omega
  | shutterSpeed v =>
      refine { h with shutterSpeed := ?_ }
      simp only [Setting.recorded]
      split <;> omega
  | rotation v => exact { h with rotation := turned_mem v.toInt }
  | sharpness v => exact { h with sharpness := clamp_mem (by decide) _ }
  | contrast v => exact { h with contrast := clamp_mem (by decide) _ }
  | saturation v => exact { h with saturation := clamp_mem (by decide) _ }
  | exposureCompensation v => exact { h with exposureCompensation := clamp_mem (by decide) _ }
  | _ => exact { h with }

/-- Committing everything changes no number. -/
theorem afterCommit_ranged {s : RaspividState} (h : s.Ranged) : s.afterCommit.Ranged := by
  refine { h with shutterSpeed := ?_ }
  simp only [RaspividState.afterCommit, RaspividState.told, Feedback.committed]
  split <;> exact h.shutterSpeed

/-- A report keeps to the range exactly when what it reports does. -/
theorem control_ranged {p : PrivateImpl} (h : p.state.Ranged) (e : ControlEvent) :
    (cameraControlCallback e p).state.Ranged ↔ (Op.control e).ReportsInRange := by
  cases e with
  | cameraSettings exposure red blue =>
      have hlt := exposure.toNat_lt
      simp only [Op.ReportsInRange]
      constructor
      · intro h'
        have hrange := h'.shutterSpeed
        simp only [cameraControlCallback, i32] at hrange
        omega
      · intro hle
        refine { h with shutterSpeed := ?_ }
        simp only [cameraControlCallback]
        rw [i32_of_range (by omega) (by omega)]
        omega
  | _ => exact iff_of_true h trivial

/-- An operation keeps to the ranges exactly when it does not report an exposure
    over the limit. -/
theorem ranged_step {c c' : Camera} {o : Op} (ha : c.Attached) (h : c.impl.state.Ranged)
    (hstep : step c o = some c') : c'.impl.state.Ranged ↔ o.ReportsInRange := by
  rw [← ranged_forgetCapture, step_settings ha hstep, ranged_forgetCapture]
  cases o with
  | set x r => exact iff_of_true (recorded_ranged x h) trivial
  | openCamera b out =>
      refine iff_of_true ?_ trivial
      simp only [Op.settles]
      split
      · exact afterCommit_ranged h
      · exact h
  | control e => exact control_ranged h e
  | _ => exact iff_of_true h trivial

/-- What is sent of a state in range is in range. -/
theorem shutterParams_ranged {s : RaspividState} (h : s.Ranged) {p : PortId} {v : Nat}
    (hmem : (p, Param.shutterSpeed v) ∈ shutterParams s) : v ≤ 330000 := by
  unfold shutterParams at hmem
  by_cases hs : s.shutterSpeed ≠ 0
  · rw [if_pos hs, List.mem_singleton, Prod.mk.injEq, Param.shutterSpeed.injEq] at hmem
    have hrange := h.shutterSpeed
    rw [hmem.2, u32_toNat hrange.1 (by omega)]
    omega
  · rw [if_neg hs] at hmem
    exact absurd hmem List.not_mem_nil

/-- While the settings are in range, so is what is sent. -/
theorem sendsInRange_of_ranged {c : Camera} (h : c.impl.state.Ranged) (o : Op) :
    o.SendsInRange c := by
  intro p v hmem
  cases o with
  | set x r =>
      simp only [Op.sends] at hmem
      by_cases ho : c.impl.isOpened = true
      · rw [if_pos ho] at hmem
        have hsent := List.mem_of_mem_filter hmem
        cases x with
        | shutterSpeed u =>
            have hrange := (recorded_ranged (.shutterSpeed u) h).shutterSpeed
            simp only [Setting.params, List.mem_singleton, Prod.mk.injEq,
              Param.shutterSpeed.injEq] at hsent
            rw [hsent.2, u32_toNat hrange.1 (by omega)]
            omega
        | _ => simp [Setting.params, flipParams] at hsent
      · rw [if_neg ho] at hmem
        exact absurd hmem List.not_mem_nil
  | openCamera b out =>
      simp only [Op.sends] at hmem
      by_cases hc : c.impl.isOpened = false ∧ out.Creates
      · rw [if_pos hc, watched_commitParams, List.mem_append] at hmem
        rcases hmem with hmem | hmem
        · exact shutterParams_ranged h hmem
        · simp at hmem
      · rw [if_neg hc] at hmem
        exact absurd hmem List.not_mem_nil
  | frame b fresh r =>
      simp only [Op.sends, watched_refreshParams] at hmem
      by_cases hm : c.impl.state.rpcExposureMode = .fixedfps
      · rw [if_pos hm] at hmem
        exact shutterParams_ranged h hmem
      · rw [if_neg hm] at hmem
        exact absurd hmem List.not_mem_nil
  | _ => exact absurd hmem List.not_mem_nil

theorem ranged_init : Camera.init.impl.state.Ranged := by
  refine ⟨?_, ?_, ?_, ?_, ?_, ?_, ?_⟩ <;> decide

end Video

namespace Still

/-- The settings are in their documented ranges. -/
structure PrivateImplStill.Ranged (p : PrivateImplStill) : Prop where
  sharpness : -100 ≤ p.sharpness ∧ p.sharpness ≤ 100
  contrast : -100 ≤ p.contrast ∧ p.contrast ≤ 100
  saturation : -100 ≤ p.saturation ∧ p.saturation ≤ 100
  brightness : p.brightness ≤ 100
  rotation : p.rotation ≤ 359
  quality : p.quality ≤ 100

theorem ranged_anew (p : PrivateImplStill) : p.anew.Ranged ↔ p.Ranged :=
  ⟨fun ⟨h1, h2, h3, h4, h5, h6⟩ => ⟨h1, h2, h3, h4, h5, h6⟩,
    fun ⟨h1, h2, h3, h4, h5, h6⟩ => ⟨h1, h2, h3, h4, h5, h6⟩⟩

/-- The setters keep to the ranges. -/
theorem apply_ranged (x : Setting) {p : PrivateImplStill} (h : p.Ranged) : (x.apply p).Ranged := by
  cases x with
  | brightness v =>
      refine { h with brightness := ?_ }
      simp only [Setting.apply, setBrightness]
      split <;> omega
  | quality v =>
      refine { h with quality := ?_ }
      simp only [Setting.apply, setQuality]
      split <;> omega
  | rotation v =>
      refine { h with rotation := ?_ }
      have hturned := turned_mem v.toInt
      simp only [Setting.apply, setRotation]
      rw [u32_toNat hturned.1 (by omega)]
      omega
  | sharpness v => exact { h with sharpness := clamp_mem (by decide) _ }
  | contrast v => exact { h with contrast := clamp_mem (by decide) _ }
  | saturation v => exact { h with saturation := clamp_mem (by decide) _ }
  | _ => exact { h with }

theorem ranged_step {c c' : StillCamera} {l : Call} (h : c.impl.Ranged)
    (hstep : callStep c l = some c') : c'.impl.Ranged := by
  rw [← ranged_anew, perform_anew (toOption_ok hstep), ranged_anew]
  cases l with
  | set x => exact apply_ranged x h
  | _ => exact h

theorem ranged_always (ls : List Call) : Always callStep (fun c => c.impl.Ranged) .init ls := by
  refine always_of_step (fun _ _ _ h hstep => ranged_step h hstep) ?_ ls
  refine ⟨?_, ?_, ?_, ?_, ?_, ?_⟩ <;> decide

end Still

/-- The settings of both classes stay in their ranges, and no shutter speed over
    the limit is sent, exactly in the runs in which the camera reports no
    exposure over the limit. -/
theorem ranges_iff {os : List Video.Op} {ls : List Still.Call} :
    (Always Video.step (fun c => c.impl.state.Ranged) .init os ∧
        Along Video.step (fun c o => o.SendsInRange c) .init os ∧
        Always Still.callStep (fun c => c.impl.Ranged) .init ls) ↔
      Along Video.step (fun _ o => o.ReportsInRange) .init os := by
  have hattached : Always Video.step (fun c => c.impl.state.Ranged) .init os ↔
      Along Video.step (fun _ o => o.ReportsInRange) .init os := by
    rw [always_strengthen (J := Video.Camera.Attached)
      (fun c o c' ha _ hstep _ => Video.attached_step c o c' ha hstep)
      Video.ledger_init.attached]
    refine always_iff_along (fun c o c' hc hstep => ?_)
      ⟨Video.ledger_init.attached, Video.ranged_init⟩
    rw [← Video.ranged_step hc.1 hc.2 hstep]
    exact ⟨fun h => h.2, fun h => ⟨Video.attached_step c o c' hc.1 hstep, h⟩⟩
  rw [← hattached]
  refine ⟨fun h => h.1, fun h => ⟨h, ?_, Still.ranged_always ls⟩⟩
  exact along_of_always (fun _ o _ hc _ => Video.sendsInRange_of_ranged hc o) h

/-- The camera reports an exposure of 400000, which is then recorded, and sent
    when the camera is opened again. -/
theorem reported_exposure_out_of_range :
    ¬ (Always Video.step (fun c => c.impl.state.Ranged) .init
          [.openCamera true .allOk, .control (.cameraSettings 400000 ⟨1, 1⟩ ⟨1, 1⟩), .release,
            .openCamera true .allOk] ∧
        Along Video.step (fun c o => o.SendsInRange c) .init
          [.openCamera true .allOk, .control (.cameraSettings 400000 ⟨1, 1⟩ ⟨1, 1⟩), .release,
            .openCamera true .allOk] ∧
        Always Still.callStep (fun c => c.impl.Ranged) .init []) := by
  rintro ⟨h, _⟩
  have hrun : run Video.step .init
    [.openCamera true .allOk, .control (.cameraSettings 400000 ⟨1, 1⟩ ⟨1, 1⟩), .release,
      .openCamera true .allOk] = some _ := rfl
  have hrange := (always_last h hrun).shutterSpeed.2
  exact absurd hrange (by decide)

end RaspiCam
