import RaspiCam.Lib.Run
import RaspiCam.Still.Device

/-!
# Runs of the Still Camera

The operations of `RaspiCam_Still` in any order, with any results of the MMAL
calls they make. `open` is `initialize` and `grab_retrieve` is `takePicture`;
`release` does nothing. A call that faults has no next state.

## Main definitions

* `Call`, `perform`: The calls and what they do.
* `callStep`: The system.
* `Linked`: What the pointers of the object refer to.

## Theorems

* `initializeCamera_initialized`: Initializing an initialized object.
* `linked_step`, `linked_run`: The pointers in every state of a run.
-/

namespace RaspiCam

open Mmal Machine Transition

namespace Still

/-- The operations, with the results of the calls they make. -/
inductive Call
  | set (x : Setting)
  | initializeCamera (o : InitOutcome) (r : SetResults)
  | commitParameters (r : SetResults)
  | takePicture (o : InitOutcome) (q : PictureOutcome) (r : SetResults)

/-- What an operation makes of the object. -/
def perform (c : StillCamera) : Call → Except Fault StillCamera
  | .set x => .ok (c.onImpl x.apply)
  | .initializeCamera o r => do .ok (← initializeCamera o r c).2
  | .commitParameters r => commitParameters r c
  | .takePicture o q r => do .ok (← takePicture o q r c).2

/-- The system. -/
def callStep (c : StillCamera) (l : Call) : Option StillCamera := (perform c l).toOption

/-- What the pointers of the object refer to. -/
structure Linked (c : StillCamera) : Prop where
  known : c.Known
  attached : c.impl.isInitialized = true → ∃ h e, Attached c h e

/-- Initializing an initialized object does nothing. -/
theorem initializeCamera_initialized {o : InitOutcome} {r : SetResults} {c : StillCamera}
    (hinit : c.impl.isInitialized = true) : initializeCamera o r c = .ok (true, c) := by
  rw [initializeCamera, if_pos hinit]

theorem Linked.sameDevice {c c' : StillCamera} (h : Linked c) (hs : c.SameDevice c') :
    Linked c' := by
  refine ⟨h.known.mono (by rw [hs.impl]) (Nat.le_of_eq hs.next.symm), fun hinit => ?_⟩
  rw [hs.impl] at hinit
  rcases h.attached hinit with ⟨g, e, ha⟩
  exact ⟨g, e, ha.sameDevice hs⟩

theorem Linked.commit {c c' : StillCamera} (h : Linked c) (hc : CommitResult c c') :
    Linked c' := by
  refine ⟨known_commit h.known hc, fun hinit => ?_⟩
  rw [hc.impl] at hinit
  rcases h.attached hinit with ⟨g, e, ha⟩
  exact ⟨g, e, ha.commit hc⟩

theorem Linked.initializeCamera {o : InitOutcome} {r : SetResults} {c c' : StillCamera} {b : Bool}
    (h : Linked c) (hi : initializeCamera o r c = .ok (b, c')) : Linked c' := by
  by_cases hinit : c.impl.isInitialized = true
  · rw [initializeCamera_initialized hinit, Except.ok.injEq, Prod.mk.injEq] at hi
    exact hi.2 ▸ h
  · have hres := initializeCamera_ok (Bool.eq_false_iff.mpr hinit) hi
    refine ⟨hres.known h.known, fun hinit' => ?_⟩
    rcases hres.setUp with ⟨hb, _⟩ | ⟨g, e, ha, _⟩
    · exact absurd (hb.symm.trans (hres.isInitialized.symm.trans hinit')) nofun
    · exact ⟨g, e, ha⟩

theorem linked_step (c : StillCamera) (l : Call) (c' : StillCamera) (h : Linked c)
    (hstep : callStep c l = some c') : Linked c' := by
  have hl := toOption_ok hstep
  cases l with
  | set x =>
      rcases x.apply_keeps c.impl with ⟨hsame, _⟩
      rw [perform, Except.ok.injEq] at hl
      subst hl
      refine ⟨h.known.mono hsame.encoderOutputPort (Nat.le_refl _), fun hinit => ?_⟩
      rcases h.attached (hsame.isInitialized.symm.trans hinit) with ⟨g, e, ha⟩
      exact ⟨g, e, ha.set hsame⟩
  | initializeCamera o r =>
      rcases bind_ok hl with ⟨⟨b, d⟩, hd, hl⟩
      rw [← Except.ok.inj hl]
      exact h.initializeCamera hd
  | commitParameters r => exact h.commit (commitParameters_ok hl)
  | takePicture o q r =>
      rcases bind_ok hl with ⟨⟨b, d⟩, hd, hl⟩
      rw [← Except.ok.inj hl]
      rcases takePicture_ok hd with ⟨_, c₁, c₂, c₃, h1, h2, h3, h4⟩
      exact (((h.initializeCamera h1).sameDevice h2).commit (commitParameters_ok h3)).sameDevice h4

theorem linked_run {ls : List Call} {c : StillCamera} (hrun : run callStep .init ls = some c) :
    Linked c :=
  run_invariant linked_step ⟨fun _ hp => absurd hp (Option.not_mem_none _),
    fun h => absurd h (by decide)⟩ hrun

end Still

end RaspiCam
