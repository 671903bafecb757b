import RaspiCam.Still.Initialize

/-!
# The Recorded Settings

The setters are the only calls of the still camera that change a setting.
Initializing, committing and taking a picture change pointers and two flags,
whatever MMAL answers and on every exit.

## Theorems

* `initializeCamera_anew`, `takePicture_anew`: The calls leave the settings
  alone.
* `perform_anew`: What any operation makes of the settings.
-/

namespace RaspiCam

open Mmal

namespace Still

/-- A creator that gives up leaves the settings alone. -/
theorem giveUp_anew {destroy : StillCamera → Except Fault StillCamera}
    (hdestroy : ∀ {d d' : StillCamera}, destroy d = .ok d' → d'.impl.anew = d.impl.anew)
    {c c' : StillCamera} {b : Bool} {p : PrivateImplStill} (h : giveUp destroy c = .ok (b, c'))
    (hc : c.impl.anew = p) : c'.impl.anew = p := (hdestroy (giveUp_ok h).2).trans hc

theorem destroyCamera_anew {c c' : StillCamera} (h : destroyCamera c = .ok c') :
    c'.impl.anew = c.impl.anew := by
  rw [destroyCamera_ok h]
  rfl

theorem destroyEncoder_anew {b : Bool} {c c' : StillCamera} (h : destroyEncoder b c = .ok c') :
    c'.impl.anew = c.impl.anew := by
  rw [destroyEncoder_ok h]
  rfl

theorem CommitResult.anew {c c' : StillCamera} (h : CommitResult c c') :
    c'.impl.anew = c.impl.anew := by
  rw [h.impl]
  rfl

theorem createCamera_anew {o : InitOutcome} {r : SetResults} {c c' : StillCamera} {b : Bool}
    (h : createCamera o r c = .ok (b, c')) : c'.impl.anew = c.impl.anew := by
  unfold createCamera at h
  by_cases hc : o.cameraCreate = false
  · rw [if_pos hc] at h
    exact giveUp_anew destroyCamera_anew h rfl
  rw [if_neg hc] at h
  unfold configureCamera at h
  by_cases h1 : o.cameraOutputs = false
  · rw [if_pos h1] at h
    exact giveUp_anew destroyCamera_anew h rfl
  rw [if_neg h1] at h
  dsimp only at h
  by_cases h2 : o.controlEnable = false
  · rw [if_pos h2] at h
    exact giveUp_anew destroyCamera_anew h rfl
  rw [if_neg h2] at h
  -- Committing clears a flag, and the exits after it are like those before.
  rcases bind_ok h with ⟨d, hd, h⟩
  have hcommit : d.impl.anew = c.impl.anew := (commitParameters_ok hd).anew
  by_cases h3 : o.stillFormatCommit = false
  · rw [if_pos h3] at h
    exact giveUp_anew destroyCamera_anew h hcommit
  rw [if_neg h3] at h
  by_cases h4 : o.cameraEnable = false
  · rw [if_pos h4] at h
    exact giveUp_anew destroyCamera_anew h hcommit
  rw [if_neg h4] at h
  by_cases h5 : o.cameraPoolCreate = false
  · rw [if_pos h5] at h
    exact giveUp_anew destroyCamera_anew h hcommit
  · rw [if_neg h5] at h
    rw [← (Prod.mk.inj (Except.ok.inj h)).2]
    exact hcommit

theorem createEncoder_anew {o : InitOutcome} {c c' : StillCamera} {b : Bool}
    (h : createEncoder o c = .ok (b, c')) : c'.impl.anew = c.impl.anew := by
  unfold createEncoder at h
  by_cases hc : o.encoderCreate = false
  · rw [if_pos hc] at h
    exact giveUp_anew destroyEncoder_anew h rfl
  rw [if_neg hc] at h
  unfold configureEncoder at h
  by_cases h1 : o.encoderInputs = false ∨ o.encoderOutputs = false
  · rw [if_pos h1] at h
    exact giveUp_anew destroyEncoder_anew h rfl
  rw [if_neg h1] at h
  dsimp only at h
  by_cases h2 : o.encoderFormatCommit = false
  · rw [if_pos h2] at h
    exact giveUp_anew destroyEncoder_anew h rfl
  rw [if_neg h2] at h
  by_cases h3 : o.encoderEnable = false
  · rw [if_pos h3] at h
    exact giveUp_anew destroyEncoder_anew h rfl
  rw [if_neg h3] at h
  by_cases h4 : o.encoderPoolCreate = false
  · rw [if_pos h4] at h
    exact giveUp_anew destroyEncoder_anew h rfl
  · rw [if_neg h4] at h
    rw [← (Prod.mk.inj (Except.ok.inj h)).2]
    rfl

theorem connectPorts_anew (o : InitOutcome) (c : StillCamera) :
    (connectPorts o c).2.impl.anew = c.impl.anew := by
  unfold connectPorts
  by_cases h1 : o.connectionCreate = false
  · rw [if_pos h1]
  rw [if_neg h1]
  by_cases h2 : o.connectionEnable = false
  · rw [if_pos h2]
    rfl
  · rw [if_neg h2]
    rfl

theorem connectEncoder_anew {o : InitOutcome} {c c' : StillCamera} {b : Bool}
    (h : connectEncoder o c = .ok (b, c')) : c'.impl.anew = c.impl.anew := by
  rcases bind_ok h with ⟨g, _, h⟩
  rcases bind_ok h with ⟨e, _, h⟩
  dsimp only at h
  have hports := connectPorts_anew o (c.onImpl fun p => { p with
    cameraStillPort := some ⟨g, cameraCapturePort⟩
    encoderInputPort := some ⟨e, .input 0⟩
    encoderOutputPort := some ⟨e, .output 0⟩ })
  cases hd : connectPorts o (c.onImpl fun p => { p with
      cameraStillPort := some ⟨g, cameraCapturePort⟩
      encoderInputPort := some ⟨e, .input 0⟩
      encoderOutputPort := some ⟨e, .output 0⟩ }) with
  | mk connected d =>
      rw [hd] at h hports
      cases connected with
      | false =>
          rw [← (Prod.mk.inj (Except.ok.inj h)).2]
          exact hports
      | true =>
          rw [← (Prod.mk.inj (Except.ok.inj h)).2]
          exact hports

/-- Initializing leaves the settings alone. -/
theorem initializeCamera_anew {o : InitOutcome} {r : SetResults} {c c' : StillCamera} {b : Bool}
    (h : initializeCamera o r c = .ok (b, c')) : c'.impl.anew = c.impl.anew := by
  unfold initializeCamera at h
  by_cases hinit : c.impl.isInitialized = true
  · rw [if_pos hinit] at h
    rw [← (Prod.mk.inj (Except.ok.inj h)).2]
  rw [if_neg hinit] at h
  rcases bind_ok h with ⟨⟨created, d⟩, hd, h⟩
  have hcamera := createCamera_anew hd
  dsimp only at h
  by_cases h1 : created = false
  · rw [if_pos h1] at h
    exact giveUp_anew destroyCamera_anew h hcamera
  rw [if_neg h1] at h
  rcases bind_ok h with ⟨⟨created', e⟩, he, h⟩
  have hencoder := (createEncoder_anew he).trans hcamera
  dsimp only at h
  by_cases h2 : created' = false
  · rw [if_pos h2] at h
    exact giveUp_anew destroyCamera_anew h hencoder
  · rw [if_neg h2] at h
    exact (connectEncoder_anew h).trans hencoder

/-- Taking a picture leaves the settings alone. -/
theorem takePicture_anew {o : InitOutcome} {q : PictureOutcome} {r : SetResults}
    {c c' : StillCamera} {b : Bool} (h : takePicture o q r c = .ok (b, c')) :
    c'.impl.anew = c.impl.anew := by
  rcases takePicture_ok h with ⟨_, c₁, c₂, c₃, h1, h2, h3, h4⟩
  calc c'.impl.anew = c₃.impl.anew := by rw [h4.impl]
    _ = c₂.impl.anew := (commitParameters_ok h3).anew
    _ = c₁.impl.anew := by rw [h2.impl]
    _ = c.impl.anew := initializeCamera_anew h1

/-- What any operation makes of the settings. -/
theorem perform_anew {c c' : StillCamera} {l : Call} (h : perform c l = .ok c') :
    c'.impl.anew = (match l with
      | .set x => x.apply c.impl
      | _ => c.impl).anew := by
  cases l with
  | set x =>
      rw [← Except.ok.inj h]
      rfl
  | initializeCamera o r =>
      rcases bind_ok h with ⟨⟨b, d⟩, hd, h⟩
      rw [← Except.ok.inj h]
      exact initializeCamera_anew hd
  | commitParameters r => exact (commitParameters_ok h).anew
  | takePicture o q r =>
      rcases bind_ok h with ⟨⟨b, d⟩, hd, h⟩
      rw [← Except.ok.inj h]
      exact takePicture_anew hd

end Still

end RaspiCam
