import RaspiCam.Video.Ledger

/-!
# Sending the Headers of the Video Pool

`startCapture` reads the length of the pool's queue once and then takes that
many headers out of it, without looking whether it got one. Meanwhile the
callback puts headers back and takes others out. `mmal_port_send_buffer`
dereferences the header it is given, and `startCapture` dereferences the pool,
which `create_camera_component` may have failed to create with no more than a
warning.

The callback holds the mutex from its first line to its last, so one callback
runs at a time; between any two of its accesses to the queue the loop can take
turns and the other way round. What counts is how far the callback is when the
length is read: while it has put a header back and not yet taken the next one,
the queue is one longer than what the loop may have.

The object and the device are those of `Video.Device`, and only the numbers of
headers are followed. While the camera is being closed the port is not enabled
any more, and the object changes when the last callback has returned.

## Main definitions

* `Streaming`: The object with the headers, the callback and the loop.
* `SendOp`, `sendStep`: The steps, in any order.
* `SendOp.Safe`: A step follows no null pointer and sends no null buffer.
* `SendOp.Cautious`: The condition under which that is so.
* `Enough`: The queue holds what the loop and the callback will take.

## Theorems

* `enough_step`: A cautious step keeps the queue long enough.
* `safe_of_enough`: In such a state a cautious step is safe.
* `cautious_run_safe`: A run of cautious steps.
* `send_loop_runs_dry`: A run that sends a null buffer.
-/

namespace RaspiCam

open Mmal Transition

namespace Video

/-- Where the callback of the video port stands: it does not run, holds the
    header it was called with, has released it, is about to take another one,
    holds that one, or has only the shutter speed left to send. -/
inductive CallbackPhase
  | idle
  | entered
  | released
  | taking
  | sending
  | refreshing
deriving DecidableEq

/-- Where `startCapture` stands: it does not run, has turns of its loop left,
    or holds a header with some more turns left. -/
inductive StartPhase
  | idle
  | turns (left : Nat)
  | sending (left : Nat)
deriving DecidableEq

/-- The object and the device, the numbers of headers in the queue of the pool
    and at the video port, and what is on its way. -/
structure Streaming where
  camera : Camera
  queue : Nat
  port : Nat
  callback : CallbackPhase
  start : StartPhase
  closing : Bool

/-- A fresh object. -/
def Streaming.init : Streaming where
  camera := .init
  queue := 0
  port := 0
  callback := .idle
  start := .idle
  closing := false

/-- The steps. `call` is any operation that neither opens nor closes the
    camera nor starts to capture; `headers` is the size of the pool, if there
    is one. -/
inductive SendOp
  | call (o : Op)
  | openCamera (startCapturing : Bool) (o : OpenOutcome) (headers : Nat)
  | startCapture (r : SetResults)
  | getInitial
  | sendInitial (sent : Bool)
  | started
  | deliver (b : Buffer) (fresh : Nat → UInt8)
  | release
  | test
  | get
  | send (sent : Bool)
  | refresh (r : SetResults)
  | close
  | closed

/-- The client may call the next operation. -/
def Streaming.ready (s : Streaming) : Bool := s.start = .idle && !s.closing

/-- `port->is_enabled` of the video port. -/
def Streaming.portEnabled (s : Streaming) : Bool :=
  !s.closing && match s.camera.impl.state.cameraComponent with
    | none => false
    | some h => s.camera.world.portEnabled h cameraVideoPort

/-- The operations that are one step here. -/
def Streaming.allows (s : Streaming) : Op → Bool
  | .frame _ _ _ => false
  | .control _ => s.callback = .idle
  | o => !o.lifecycle && s.ready

/-- The camera with the headers of its new pool, if it was closed before. -/
def Streaming.opened (s : Streaming) (capturing : Bool) (c : Camera) (headers : Nat) : Streaming :=
  if s.camera.impl.isOpened then s else
  { camera := c
    queue := headers
    port := 0
    callback := .idle
    start := if capturing then .turns headers else .idle
    closing := false }

/-- The send loop and the callback, step by step. -/
def sendStep (s : Streaming) : SendOp → Option Streaming
  | .call o =>
    if s.allows o then (step s.camera o).map fun c => { s with camera := c } else none
  | .openCamera startCapturing o headers =>
    if s.ready then
      match openCamera startCapturing o s.camera with
      | .error _ => none
      | .ok (b, c) => some (s.opened (startCapturing && b) c headers)
    else none
  -- When the camera does not take the parameter, the object is released.
  | .startCapture r =>
    if s.ready then
      match startCapture r s.camera with
      | .error _ => none
      | .ok (false, _) => some { s with closing := s.camera.impl.isOpened }
      | .ok (true, c) => some { s with camera := c, start := .turns s.queue }
    else none
  | .getInitial =>
    match s.start, s.queue with
    | .turns (left + 1), queue + 1 => some { s with start := .sending left, queue := queue }
    | _, _ => none
  | .sendInitial sent =>
    match s.start with
    | .sending left =>
      if sent then
        if s.portEnabled then some { s with start := .turns left, port := s.port + 1 } else none
      else some { s with start := .turns left }
    | _ => none
  | .started => if s.start = .turns 0 then some { s with start := .idle } else none
  -- The callback until it releases the header.
  | .deliver b fresh =>
    if s.callback = .idle ∧ s.port ≠ 0 ∧ s.camera.delivers b = true then
      some { s with
        camera := { s.camera with impl :=
          if s.camera.impl.callbackData.wantsFrame b then s.camera.impl.keepFrame b fresh
          else s.camera.impl }
        port := s.port - 1
        callback := .entered }
    else none
  | .release =>
    if s.callback = .entered then some { s with callback := .released, queue := s.queue + 1 }
    else none
  | .test =>
    if s.callback = .released then
      some { s with callback := if s.portEnabled then .taking else .refreshing }
    else none
  | .get =>
    if s.callback = .taking then
      match usePool s.camera.impl.state.videoPool s.camera.world with
      | .error _ => none
      | .ok _ => some (if s.queue = 0 then { s with callback := .refreshing }
          else { s with callback := .sending, queue := s.queue - 1 })
    else none
  | .send sent =>
    if s.callback = .sending then
      if sent then
        if s.portEnabled then some { s with callback := .refreshing, port := s.port + 1 } else none
      else some { s with callback := .refreshing }
    else none
  | .refresh r =>
    if s.callback = .refreshing then
      match refreshShutter s.camera.impl.state r s.camera.world with
      | .error _ => none
      | .ok w => some { s with camera := { s.camera with world := w }, callback := .idle }
    else none
  | .close => if s.ready then some { s with closing := s.camera.impl.isOpened } else none
  | .closed =>
    if s.closing = true ∧ s.callback = .idle then
      match release s.camera with
      | .error _ => none
      | .ok c => some
          { camera := c, queue := 0, port := 0, callback := .idle, start := .idle,
            closing := false }
    else none

/-- No null pointer to a component, a port or a pool is followed, and the loop
    is never without a header to send. -/
def SendOp.Safe (s : Streaming) : SendOp → Prop
  | .openCamera startCapturing o _ =>
      s.ready = true → Video.openCamera startCapturing o s.camera ≠ .error .nullPointer
  | .startCapture r => s.ready = true → Video.startCapture r s.camera ≠ .error .nullPointer
  | .getInitial => ∀ left, s.start = .turns (left + 1) → s.queue ≠ 0
  | .get => s.callback = .taking →
      usePool s.camera.impl.state.videoPool s.camera.world ≠ .error .nullPointer
  | .refresh r => s.callback = .refreshing →
      refreshShutter s.camera.impl.state r s.camera.world ≠ .error .nullPointer
  | _ => True

/-- A header the callback has put back and is going to replace. -/
def CallbackPhase.pending : CallbackPhase → Nat
  | .released => 1
  | .taking => 1
  | _ => 0

/-- The turns the loop has left. -/
def StartPhase.left : StartPhase → Nat
  | .idle => 0
  | .turns left => left
  | .sending left => left

/-- The camera starts to capture only when it has a pool, and the length of
    its queue is not read between the two accesses of a callback. -/
def SendOp.Cautious (s : Streaming) : SendOp → Prop
  | .openCamera startCapturing o _ => s.ready = true → s.camera.impl.isOpened = false →
      startCapturing = true → o.Creates → o.sets.param cameraVideoPort .capture = true →
      o.poolCreate = true
  | .startCapture r => s.ready = true → s.camera.impl.isOpened = true →
      r.param cameraVideoPort .capture = true →
      s.camera.impl.state.videoPool ≠ none ∧ s.callback ≠ .released ∧ s.callback ≠ .taking
  | _ => True

instance SendOp.decidableCautious (s : Streaming) : ∀ l : SendOp, Decidable (l.Cautious s)
  | .openCamera _ _ _ => inferInstanceAs (Decidable (_ → _))
  | .startCapture _ => inferInstanceAs (Decidable (_ → _))
  | .call _ | .getInitial | .sendInitial _ | .started | .deliver _ _ | .release | .test | .get
  | .send _ | .refresh _ | .close | .closed => isTrue trivial

/-- The queue holds what the loop and the callback are going to take out, and
    whoever is going to take it finds the pool and the camera. -/
structure Enough (s : Streaming) : Prop where
  attached : s.camera.Attached
  owner : s.callback ≠ .idle ∨ s.port ≠ 0 ∨ s.start ≠ .idle →
    s.camera.impl.isOpened = true ∧ s.camera.impl.state.videoPool ≠ none
  enough : s.start.left + s.callback.pending ≤ s.queue

theorem allows_small {s : Streaming} {o : Op} (h : s.allows o = true) : o.lifecycle = false := by
  cases o with
  | openCamera b o => exact absurd h (by simp only [Streaming.allows, Op.lifecycle, Bool.not_true,
      Bool.false_and, Bool.false_eq_true, not_false_eq_true])
  | startCapture r => exact absurd h (by simp only [Streaming.allows, Op.lifecycle, Bool.not_true,
      Bool.false_and, Bool.false_eq_true, not_false_eq_true])
  | release => exact absurd h (by simp only [Streaming.allows, Op.lifecycle, Bool.not_true,
      Bool.false_and, Bool.false_eq_true, not_false_eq_true])
  | _ => rfl

/-- Opening a closed camera and starting to capture leave the object with a
    pool. -/
theorem openCamera_pool {startCapturing : Bool} {o : OpenOutcome} {c c' : Camera}
    (ho : c.impl.isOpened = false)
    (h : openCamera startCapturing o c = .ok (true, c')) (hs : startCapturing = true) :
    c'.impl.isOpened = true ∧ c'.impl.state.videoPool ≠ none := by
  subst hs
  rcases openCamera_effect true o ho with ⟨d, hd, _⟩ | ⟨d, hd, hfresh, _⟩
  · exact nomatch h.symm.trans hd
  · rw [h, if_pos rfl] at hd
    rcases startCapture_effect o.sets hfresh.attached hfresh.isOpened with
      ⟨e, he, _⟩ | ⟨_, _, he⟩ | ⟨e, he, hsame, _, hpool, _⟩
    · exact nomatch hd.trans he
    · exact nomatch hd.trans he
    · rw [he, Except.ok.injEq, Prod.mk.injEq] at hd
      rw [hd.2, hsame.isOpened, hsame.videoPool]
      exact ⟨hfresh.isOpened, hpool⟩

/-- Opening is an operation of the system, and so are starting to capture and
    releasing. -/
theorem attached_openCamera {b b' : Bool} {o : OpenOutcome} {c c' : Camera} (ha : c.Attached)
    (h : openCamera b o c = .ok (b', c')) : c'.Attached := by
  refine attached_step c (.openCamera b o) c' ha ?_
  simp only [step, Op.enabled, exec, h, if_true]
  rfl

theorem attached_release {c c' : Camera} (ha : c.Attached) (h : release c = .ok c') :
    c'.Attached := by
  refine attached_step c .release c' ha ?_
  simp only [step, Op.enabled, exec, h, if_true]
  rfl

/-- A step that leaves the object alone. -/
theorem Enough.step {s s' : Streaming} (h : Enough s) (hc : SameOwner s.camera s'.camera)
    (howner : s'.callback ≠ .idle ∨ s'.port ≠ 0 ∨ s'.start ≠ .idle →
      s.callback ≠ .idle ∨ s.port ≠ 0 ∨ s.start ≠ .idle)
    (henough : s'.start.left + s'.callback.pending ≤ s'.queue) : Enough s' := by
  refine ⟨h.attached.sameOwner hc, fun hs => ?_, henough⟩
  rw [hc.isOpened, hc.videoPool]
  exact h.owner (howner hs)

/-- An opened camera has a pool whose headers are all in the queue, and the
    loop takes each of them once. -/
theorem Enough.opened {s : Streaming} (h : Enough s) {startCapturing b : Bool} {o : OpenOutcome}
    {c : Camera} (hopen : openCamera startCapturing o s.camera = .ok (b, c)) (headers : Nat) :
    Enough (s.opened (startCapturing && b) c headers) := by
  unfold Streaming.opened
  by_cases ho : s.camera.impl.isOpened = true
  · rw [if_pos ho]
    exact h
  rw [if_neg ho]
  rw [Bool.not_eq_true] at ho
  refine ⟨attached_openCamera h.attached hopen, fun hs => ?_, ?_⟩
  · -- Only the loop can be at work, and it is when the camera was to start.
    rcases hs with hs | hs | hs
    · exact absurd rfl hs
    · exact absurd rfl hs
    · by_cases hb : (startCapturing && b) = true
      · rcases Bool.and_eq_true_iff.mp hb with ⟨hb₁, rfl⟩
        exact openCamera_pool ho hopen hb₁
      · simp only [hb] at hs
        exact absurd rfl hs
  · by_cases hb : (startCapturing && b) = true
    · simp only [hb, if_true]
      exact Nat.le_refl _
    · simp only [hb]
      exact Nat.zero_le _

/-- A loop that starts takes as many turns as there are headers in the queue,
    provided that no callback is about to take one of them. -/
theorem Enough.starts {s : Streaming} (h : Enough s) {r : SetResults} {c : Camera}
    (hready : s.ready = true) (hl : (SendOp.startCapture r).Cautious s)
    (hcapture : startCapture r s.camera = .ok (true, c)) :
    Enough { s with camera := c, start := .turns s.queue } := by
  have ho : s.camera.impl.isOpened = true := by
    by_contra ho
    unfold startCapture at hcapture
    rw [if_pos (Bool.eq_false_iff.mpr ho)] at hcapture
    exact nomatch hcapture
  rcases startCapture_effect r h.attached ho with
    ⟨e, he, _⟩ | ⟨_, _, he⟩ | ⟨e, he, hsame, haccepted, hpool, _⟩
  · exact nomatch hcapture.symm.trans he
  · exact nomatch hcapture.symm.trans he
  rw [hcapture, Except.ok.injEq, Prod.mk.injEq] at he
  rw [← he.2] at hsame
  rcases hl hready ho haccepted with ⟨_, hreleased, htaking⟩
  have hpending : s.callback.pending = 0 := by
    cases hcb : s.callback with
    | released => exact absurd hcb hreleased
    | taking => exact absurd hcb htaking
    | _ => rfl
  refine ⟨h.attached.sameOwner hsame, fun _ => ?_, ?_⟩
  · rw [hsame.isOpened, hsame.videoPool]
    exact ⟨ho, hpool⟩
  · simp only [StartPhase.left, hpending, Nat.add_zero]
    exact Nat.le_refl _

/-- A cautious step keeps the queue long enough. -/
theorem enough_step (s : Streaming) (l : SendOp) (s' : Streaming) (h : Enough s)
    (hl : l.Cautious s) (hstep : sendStep s l = some s') : Enough s' := by
  have henough := h.enough
  -- A callback at work and a loop at work both mean that there is a pool.
  have hcallback : ∀ {p : CallbackPhase}, s.callback = p → p ≠ .idle →
      s.callback ≠ .idle ∨ s.port ≠ 0 ∨ s.start ≠ .idle := fun hp hidle => Or.inl (hp ▸ hidle)
  have hloop : ∀ {p : StartPhase}, s.start = p → p ≠ .idle →
      s.callback ≠ .idle ∨ s.port ≠ 0 ∨ s.start ≠ .idle :=
    fun hp hidle => Or.inr (Or.inr (hp ▸ hidle))
  cases l with
  | call o =>
      rcases Option.ite_none_right_eq_some.mp hstep with ⟨ho, hstep⟩
      rcases Option.map_eq_some_iff.mp hstep with ⟨c, hc, rfl⟩
      exact h.step (step_sameOwner (allows_small ho) hc) id h.enough
  | openCamera startCapturing o headers =>
      rcases Option.ite_none_right_eq_some.mp hstep with ⟨_, hstep⟩
      split at hstep
      · exact absurd hstep (Option.some_ne_none s').symm
      · next b c hopen =>
          rw [← Option.some.inj hstep]
          exact h.opened hopen headers
  | startCapture r =>
      rcases Option.ite_none_right_eq_some.mp hstep with ⟨hready, hstep⟩
      split at hstep
      · exact absurd hstep (Option.some_ne_none s').symm
      · rw [← Option.some.inj hstep]
        exact h.step (.refl _) id h.enough
      · next c hcapture =>
          rw [← Option.some.inj hstep]
          exact h.starts hready hl hcapture
  | getInitial =>
      simp only [sendStep] at hstep
      split at hstep
      · next left queue hstart hqueue =>
          rw [← Option.some.inj hstep]
          simp only [hstart, hqueue, StartPhase.left] at henough
          refine h.step (.refl _) (fun _ => hloop hstart nofun) ?_
          simp only [StartPhase.left]
          omega
      · exact absurd hstep (Option.some_ne_none s').symm
  | sendInitial sent =>
      simp only [sendStep] at hstep
      split at hstep
      · next left hstart =>
          simp only [hstart, StartPhase.left] at henough
          split at hstep
          · rcases Option.ite_none_right_eq_some.mp hstep with ⟨_, hstep⟩
            rw [← Option.some.inj hstep]
            exact h.step (.refl _) (fun _ => hloop hstart nofun) henough
          · rw [← Option.some.inj hstep]
            exact h.step (.refl _) (fun _ => hloop hstart nofun) henough
      · exact absurd hstep (Option.some_ne_none s').symm
  | started =>
      rcases Option.ite_none_right_eq_some.mp hstep with ⟨hstart, hstep⟩
      simp only [hstart, StartPhase.left] at henough
      rw [← Option.some.inj hstep]
      exact h.step (.refl _) (fun _ => hloop hstart nofun) henough
  | deliver b fresh =>
      rcases Option.ite_none_right_eq_some.mp hstep with ⟨hdeliver, hstep⟩
      simp only [hdeliver.1, CallbackPhase.pending] at henough
      rw [← Option.some.inj hstep]
      refine h.step ?_ (fun _ => Or.inr (Or.inl hdeliver.2.1)) henough
      by_cases hw : s.camera.impl.callbackData.wantsFrame b = true
      · simp only [hw, if_true]
        exact ⟨rfl, rfl, rfl, rfl, Or.inl, rfl, rfl⟩
      · simp only [if_neg hw]
        exact .refl _
  | release =>
      -- The header that goes back is the one the callback is going to take.
      rcases Option.ite_none_right_eq_some.mp hstep with ⟨hcb, hstep⟩
      simp only [hcb, CallbackPhase.pending] at henough
      rw [← Option.some.inj hstep]
      refine h.step (.refl _) (fun _ => hcallback hcb nofun) ?_
      simp only [CallbackPhase.pending]
      omega
  | test =>
      rcases Option.ite_none_right_eq_some.mp hstep with ⟨hcb, hstep⟩
      simp only [hcb, CallbackPhase.pending] at henough
      rw [← Option.some.inj hstep]
      refine h.step (.refl _) (fun _ => hcallback hcb nofun) ?_
      by_cases hen : s.portEnabled = true
      · simp only [hen, if_true, CallbackPhase.pending]
        exact henough
      · simp only [if_neg hen, CallbackPhase.pending]
        omega
  | get =>
      rcases Option.ite_none_right_eq_some.mp hstep with ⟨hcb, hstep⟩
      simp only [hcb, CallbackPhase.pending] at henough
      split at hstep
      · exact absurd hstep (Option.some_ne_none s').symm
      · -- The callback finds the header it has put back, or another one.
        rw [← Option.some.inj hstep, if_neg (by omega : s.queue ≠ 0)]
        refine h.step (.refl _) (fun _ => hcallback hcb nofun) ?_
        simp only [CallbackPhase.pending]
        omega
  | send sent =>
      rcases Option.ite_none_right_eq_some.mp hstep with ⟨hcb, hstep⟩
      simp only [hcb, CallbackPhase.pending] at henough
      split at hstep
      · rcases Option.ite_none_right_eq_some.mp hstep with ⟨_, hstep⟩
        rw [← Option.some.inj hstep]
        exact h.step (.refl _) (fun _ => hcallback hcb nofun) henough
      · rw [← Option.some.inj hstep]
        exact h.step (.refl _) (fun _ => hcallback hcb nofun) henough
  | refresh r =>
      rcases Option.ite_none_right_eq_some.mp hstep with ⟨hcb, hstep⟩
      simp only [hcb, CallbackPhase.pending] at henough
      split at hstep
      · exact absurd hstep (Option.some_ne_none s').symm
      · next w hw =>
          rw [← Option.some.inj hstep]
          rcases World.deaths_congr (refreshShutter_quiet _ _ _ _ hw) with ⟨hdeaths, hpools⟩
          exact h.step ⟨rfl, rfl, rfl, rfl, Or.inl, hdeaths, hpools⟩
            (fun _ => hcallback hcb nofun) henough
  | close =>
      rcases Option.ite_none_right_eq_some.mp hstep with ⟨_, hstep⟩
      rw [← Option.some.inj hstep]
      exact h.step (.refl _) id h.enough
  | closed =>
      rcases Option.ite_none_right_eq_some.mp hstep with ⟨_, hstep⟩
      split at hstep
      · exact absurd hstep (Option.some_ne_none s').symm
      · next c hc =>
          rw [← Option.some.inj hstep]
          refine ⟨attached_release h.attached hc, fun hs => ?_, Nat.le_refl _⟩
          rcases hs with hs | hs | hs <;> exact absurd rfl hs

/-- Starting to capture follows no null pointer when there is a pool. -/
theorem startCapture_not_null {r : SetResults} {c : Camera} (ha : c.Attached)
    (hpool : c.impl.isOpened = true → r.param cameraVideoPort .capture = true →
      c.impl.state.videoPool ≠ none) : startCapture r c ≠ .error .nullPointer := by
  by_cases ho : c.impl.isOpened = true
  · rcases startCapture_effect r ha ho with ⟨d, hd, _⟩ | ⟨haccepted, hnone, _⟩ | ⟨d, hd, _⟩
    · exact fun hc => nomatch hd.symm.trans hc
    · exact absurd hnone (hpool ho haccepted)
    · exact fun hc => nomatch hd.symm.trans hc
  · unfold startCapture
    rw [if_pos (Bool.eq_false_iff.mpr ho)]
    exact nofun

/-- While the queue is long enough a cautious step is safe. -/
theorem safe_of_enough {s : Streaming} {l : SendOp} (h : Enough s) (hl : l.Cautious s) :
    l.Safe s := by
  -- The camera and its pool are there for whoever is at work, and the queue is
  -- as long as the loop; only starting to capture needs the caution.
  cases l with
  | openCamera startCapturing o headers =>
      intro hready
      by_cases ho : s.camera.impl.isOpened = true
      · unfold openCamera
        rw [if_pos ho]
        exact ok_ne_error _ _
      rw [Bool.not_eq_true] at ho
      rcases openCamera_effect startCapturing o ho
        with ⟨d, hd, _⟩ | ⟨d, hd, hfresh, hcreates, hnone⟩
      · rw [hd]
        exact ok_ne_error _ _
      · rw [hd]
        by_cases hb : startCapturing = true
        · rw [if_pos hb]
          refine startCapture_not_null hfresh.attached fun _ haccepted hp => ?_
          have hcreate := hl hready ho hb hcreates haccepted
          exact absurd (hcreate.symm.trans (hnone.mp hp)) Bool.false_ne_true.symm
        · rw [if_neg hb]
          exact ok_ne_error _ _
  | startCapture r =>
      intro hready
      exact startCapture_not_null h.attached fun ho haccepted => (hl hready ho haccepted).1
  | getInitial =>
      intro left hstart
      have henough := h.enough
      simp only [hstart, StartPhase.left] at henough
      omega
  | get =>
      intro hcb
      rcases h.owner (Or.inl (by rw [hcb]; exact nofun)) with ⟨_, hpool⟩
      cases hq : s.camera.impl.state.videoPool with
      | none => exact absurd hq hpool
      | some q =>
          unfold usePool
          by_cases ha : s.camera.world.poolAlive q = true
          · simp only [ha, if_true]
            exact ok_ne_error _ _
          · simp only [if_neg ha]
            exact fun hc => absurd (Except.error.inj hc) (by decide)
  | refresh r =>
      intro hcb
      rcases h.owner (Or.inl (by rw [hcb]; exact nofun)) with ⟨ho, _⟩
      rcases h.attached.opened ho with ⟨g, hcam, _, halive, _⟩
      unfold refreshShutter
      by_cases hs : s.camera.impl.state.shutterSpeed ≠ 0 ∧
          s.camera.impl.state.rpcExposureMode = .fixedfps
      · rw [if_pos hs, hcam, portOf, Option.map_some, sendTo_ok halive]
        exact ok_ne_error _ _
      · rw [if_neg hs]
        exact ok_ne_error _ _
  | _ => trivial

/-- A loop that has one turn more than there are headers takes them all. -/
theorem loop_drains (n : Nat) {s : Streaming} (hstart : s.start = .turns (n + 1))
    (hqueue : s.queue = n) : ∃ ls s', run sendStep s ls = some s' ∧ s'.start = .turns 1 ∧
      s'.queue = 0 := by
  induction n generalizing s with
  | zero => exact ⟨[], s, rfl, hstart, hqueue⟩
  | succ n ih =>
      let s₁ : Streaming := { s with start := .sending (n + 1), queue := n }
      let s₂ : Streaming := { s₁ with start := .turns (n + 1) }
      have hget : sendStep s .getInitial = some s₁ := by
        simp only [sendStep, hstart, hqueue, s₁]
      have hsend : sendStep s₁ (.sendInitial false) = some s₂ := by
        simp only [sendStep, s₁, s₂, Bool.false_eq_true, if_false]
      rcases ih (s := s₂) rfl rfl with ⟨ls, s', hrun, hs'⟩
      refine ⟨.getInitial :: .sendInitial false :: ls, s', ?_, hs'⟩
      rw [run_cons, hget, Option.bind_some, run_cons, hsend, Option.bind_some, hrun]

/-- The condition on starting again is needed: when the length is read while
    the callback is between its two accesses, there is a way to go on that
    ends with a null buffer. -/
theorem restart_between_faults {s : Streaming} {r : SetResults} (h : Enough s)
    (hready : s.ready = true) (ho : s.camera.impl.isOpened = true)
    (haccepted : r.param cameraVideoPort .capture = true)
    (hbetween : s.callback = .taking ∨ s.callback = .released ∧ s.portEnabled = true) :
    ∃ ls s', run sendStep s (.startCapture r :: ls) = some s' ∧ ¬ SendOp.Safe s' .getInitial := by
  have hbusy : s.callback ≠ .idle := by
    rcases hbetween with hc | ⟨hc, _⟩ <;> rw [hc] <;> exact nofun
  have hpool := (h.owner (Or.inl hbusy)).2
  rcases startCapture_effect r h.attached ho with
    ⟨_, _, _, hrefused⟩ | ⟨_, hnone, _⟩ | ⟨c, hc, hsame, _, _, hforget⟩
  · exact absurd (hrefused.symm.trans haccepted) Bool.false_ne_true
  · exact absurd hnone hpool
  · let s₁ : Streaming := { s with camera := c, start := .turns s.queue }
    have hstart : sendStep s (.startCapture r) = some s₁ := by
      simp only [sendStep, hready, if_true, hc, s₁]
    have hqueue : ∃ n, s.queue = n + 1 := by
      have henough := h.enough
      refine ⟨s.queue - 1, ?_⟩
      rcases hbetween with hcb | ⟨hcb, _⟩ <;> simp only [hcb, CallbackPhase.pending] at henough <;>
        omega
    rcases hqueue with ⟨n, hn⟩
    -- The callback takes its header first, and then the loop takes the rest.
    have htaken : ∀ {t : Streaming}, t.camera = c → t.start = .turns (n + 1) → t.queue = n + 1 →
        t.callback = .taking → ∃ ls s', run sendStep t ls = some s' ∧
          ¬ SendOp.Safe s' .getInitial := by
      intro t hcam hturns hlen hcb
      have hq : ∃ q, c.impl.state.videoPool = some q ∧ c.world.poolAlive q = true := by
        have ha := h.attached.sameOwner hsame
        rcases ha.opened (hsame.isOpened.trans ho) with ⟨_, _, _, _, hpools⟩
        cases hq : c.impl.state.videoPool with
        | none => exact absurd (hsame.videoPool.symm.trans hq) hpool
        | some q => exact ⟨q, rfl, hpools q hq⟩
      rcases hq with ⟨q, hq, hqa⟩
      have hget : sendStep t .get = some { t with callback := .sending, queue := n } := by
        simp only [sendStep, hcb, if_true, hcam, hq, usePool_of_alive hqa, hlen,
          Nat.add_one_ne_zero, if_false, Nat.add_sub_cancel]
      rcases loop_drains n (s := { t with callback := .sending, queue := n }) hturns rfl with
        ⟨ls, s', hrun, hone, hzero⟩
      refine ⟨.get :: ls, s', ?_, fun hsafe => hsafe 0 hone hzero⟩
      rw [run_cons, hget, Option.bind_some, hrun]
    rcases hbetween with hcb | ⟨hcb, hen⟩
    · rcases htaken (t := s₁) rfl (by rw [← hn]) hn hcb with ⟨ls, s', hrun, hunsafe⟩
      exact ⟨ls, s', by rw [run_cons, hstart, Option.bind_some, hrun], hunsafe⟩
    · have hen₁ : s₁.portEnabled = true := by
        simp only [Streaming.portEnabled, s₁, hsame.cameraComponent] at hen ⊢
        cases hcam : s.camera.impl.state.cameraComponent with
        | none => rw [hcam] at hen; exact hen
        | some g =>
            rw [hcam] at hen
            simp only at hen ⊢
            rw [← World.portEnabled_forgetParams, hforget, World.portEnabled_forgetParams]
            exact hen
      have htest : sendStep s₁ .test = some { s₁ with callback := .taking } := by
        have hcb₁ : s₁.callback = .released := hcb
        simp only [sendStep, hcb₁, if_true, hen₁]
      rcases htaken (t := { s₁ with callback := .taking }) rfl (by rw [← hn]) hn rfl with
        ⟨ls, s', hrun, hunsafe⟩
      refine ⟨.test :: ls, s', ?_, hunsafe⟩
      rw [run_cons, hstart, Option.bind_some, run_cons, htest, Option.bind_some, hrun]

theorem enough_init : Enough .init := by
  refine ⟨ledger_init.attached, fun hs => ?_, Nat.le_refl _⟩
  rcases hs with hs | hs | hs <;> exact absurd rfl hs

/-- In a run of cautious steps no null pointer is followed and no null buffer
    is sent. -/
theorem cautious_run_safe {ls : List SendOp}
    (h : Throughout sendStep (fun s l => l.Cautious s) .init ls) :
    Throughout sendStep (fun s l => l.Safe s) .init ls :=
  throughout_along enough_step (fun _ _ => safe_of_enough) enough_init h

/-- The camera starts to capture with a pool of two headers and, while
    a callback holds the first of them, starts once more. -/
theorem cautious_restart_safe :
    Throughout sendStep (fun s l => l.Safe s) .init
      [.openCamera true .allOk 2, .getInitial, .sendInitial true,
        .deliver ⟨fun _ => 0, 0⟩ fun _ => 0, .getInitial, .sendInitial true, .started,
        .startCapture .allOk, .started, .release, .test, .get, .send true, .refresh .allOk] :=
  cautious_run_safe (by decide)

/-- The length of the queue is read while the callback has put its header back
    and not yet taken the next one: the callback takes it, and the loop sends
    a null buffer. And a camera whose pool could not be created starts to
    capture. -/
theorem send_loop_runs_dry :
    ¬ Throughout sendStep (fun s l => l.Safe s) .init
        [.openCamera true .allOk 1, .getInitial, .sendInitial true, .started,
          .deliver ⟨fun _ => 0, 0⟩ fun _ => 0, .release, .test, .startCapture .allOk, .get,
          .getInitial] ∧
      ¬ Throughout sendStep (fun s l => l.Safe s) .init
        [.openCamera true { OpenOutcome.allOk with poolCreate := false } 0] := by
  refine ⟨fun h => ?_, fun h => h.1 rfl rfl⟩
  have hlast := ((((((((h.2 _ rfl).2 _ rfl).2 _ rfl).2 _ rfl).2 _ rfl).2 _ rfl).2 _ rfl).2 _ rfl).2
    _ rfl
  exact absurd rfl (hlast.1 0 rfl)

end Video

end RaspiCam
