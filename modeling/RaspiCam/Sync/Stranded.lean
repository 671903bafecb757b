import RaspiCam.Sync.Session

/-!
# Stranded Clients

Only a callback that stored a frame wakes the clients that wait for one, and
after the camera was released no frame arrives. `release` itself wakes nobody,
although it makes every later call of `grab` return at once: a client that
still waits then, while the flag is clear, waits until the camera is opened
again, if it ever is. So does one that found the camera capturing and had not
started to wait when it was released.

`stranded_iff` says exactly when nobody is stranded, by what happened in the
run: before a release comes to its end, every call of `Wait` was followed by a
broadcast, and nobody calls `Wait` while the camera is closed.

## Main definitions

* `NobodyStranded`: Nobody waits for a closed camera.
* `condOps`: What happened to the condition.
* `SessionOp.Heeds`: A step that strands nobody.

## Theorems

* `condition_run`: A session is a run of the condition.
* `followed_run`: When every call of `Wait` of a session was followed by a
  broadcast.
* `stranded_step`: What strands a client.
* `stranded_iff`: The runs in which nobody is stranded.
* `waiter_stranded`: A run in which somebody is.
-/

namespace RaspiCam

open Monitors Transition

namespace Sync

open Video

variable {ι : Type*} [DecidableEq ι]

/-- The camera is closed, no callback is running, and the flag is clear: no
    client waits. -/
def NobodyStranded (s : Session ι) : Prop :=
  s.isOpened = false → s.grabbing.callback = .idle → s.grabbing.condition.ready = false →
    ∀ i, ¬ s.grabbing.condition.sync.Waiting (.client i)

/-- The operation on the condition that a step makes. -/
def GrabOp.condOp? : GrabOp ι → Option (CondOp (Thread ι))
  | .request i => some (.lock (.client i))
  | .wait i => some (.wait (.client i))
  | .spurious i => some (.spurious (.client i))
  | .recheck i => some (.recheck (.client i))
  | .leave i => some (.unlock (.client i))
  | .arrive _ => some (.lock .videoPort)
  | .copy => none
  | .finish => none
  | .broadCast => some (.broadCast .videoPort)
  | .depart => some (.unlock .videoPort)
  | .controlEnter => some (.lock .controlPort)
  | .controlLeave => some (.unlock .controlPort)
  | .setUserCallback _ => none

/-- What happened to the condition. -/
def condOps (ls : List (SessionOp ι)) : List (CondOp (Thread ι)) :=
  (grabOps ls).filterMap GrabOp.condOp?

/-- The step strands nobody, after the steps that were made before: a release
    comes to its end when every call of `Wait` was followed by a broadcast, and
    nobody calls `Wait` while the camera is closed. -/
def SessionOp.Heeds (past : List (SessionOp ι)) (s : Session ι) : SessionOp ι → Prop
  | .released _ => Answered (condOps past)
  | .thread (.wait _) => s.isOpened = true
  | _ => True

theorem grabStep_condition {s s' : Grabbing ι} {l : GrabOp ι} (h : grabStep s l = some s') :
    run condStep s.condition ([l].filterMap GrabOp.condOp?) = some s'.condition := by
  have hone : ∀ {o c}, l.condOp? = some o → condStep s.condition o = some c →
      s'.condition = c → run condStep s.condition ([l].filterMap GrabOp.condOp?)
        = some s'.condition := by
    rintro o c ho hc rfl
    rw [List.filterMap_cons_some ho, List.filterMap_nil, run_cons, hc, Option.bind_some, run_nil]
  have hnone : l.condOp? = none → s'.condition = s.condition →
      run condStep s.condition ([l].filterMap GrabOp.condOp?) = some s'.condition := by
    intro ho hc
    rw [List.filterMap_cons_none ho, List.filterMap_nil, run_nil, hc]
  have hdoes := grabStep_some h
  cases l with
  | request i =>
      rcases hdoes with ⟨_, c, hc, rfl⟩
      exact hone rfl hc rfl
  | wait i =>
      rcases hdoes with ⟨_, c, hc, rfl⟩
      exact hone rfl hc rfl
  | leave i =>
      rcases hdoes with ⟨_, c, hc, rfl⟩
      exact hone rfl hc rfl
  | arrive a =>
      rcases hdoes with ⟨_, c, hc, rfl⟩
      refine hone rfl hc ?_
      split <;> rfl
  | copy =>
      rcases hdoes with ⟨a, c, rest, _, rfl⟩
      exact hnone rfl rfl
  | finish =>
      rcases hdoes with ⟨_, rfl⟩
      exact hnone rfl rfl
  | broadCast =>
      rcases hdoes with ⟨_, c, hc, rfl⟩
      exact hone rfl hc rfl
  | depart =>
      rcases hdoes with ⟨_, c, hc, rfl⟩
      exact hone rfl hc rfl
  | setUserCallback b =>
      rcases hdoes with rfl
      exact hnone rfl rfl
  | _ =>
      rcases hdoes with ⟨c, hc, rfl⟩
      exact hone rfl hc rfl

theorem grab_condition_run {s s' : Grabbing ι} {ls : List (GrabOp ι)}
    (h : run grabStep s ls = some s') :
    run condStep s.condition (ls.filterMap GrabOp.condOp?) = some s'.condition := by
  induction ls generalizing s with
  | nil => rw [Option.some.inj h, List.filterMap_nil, run_nil]
  | cons l ls ih =>
      rcases run_cons_some h with ⟨m, hm, hrest⟩
      rw [← List.singleton_append, List.filterMap_append, run_append, grabStep_condition hm,
        Option.bind_some]
      exact ih hrest

/-- What happens to the condition in a session is a run of
    `Sync.ThreadCondition`. -/
theorem condition_run {s : Session ι} {ls : List (SessionOp ι)}
    (h : run sessionStep .init ls = some s) :
    run condStep .init (condOps ls) = some s.grabbing.condition :=
  grab_condition_run (session_run h)

omit [DecidableEq ι] in
/-- Only clients call `Wait`. -/
theorem client_of_wait {ls : List (SessionOp ι)} {t : Thread ι} (h : .wait t ∈ condOps ls) :
    ∃ i, t = .client i := by
  rcases List.mem_filterMap.mp h with ⟨l, _, hl⟩
  cases l with
  | wait i => exact ⟨i, (CondOp.wait.inj (Option.some.inj hl)).symm⟩
  | _ => exact nomatch hl

/-- When every call of `Wait` of a session was followed by a broadcast. -/
theorem followed_run {s : Session ι} {ls : List (SessionOp ι)}
    (h : run sessionStep .init ls = some s) : Answered (condOps ls) ↔
      (s.grabbing.condition.ready = false →
        ∀ i, ¬ s.grabbing.condition.sync.Waiting (.client i)) := by
  have hcondition := condition_run h
  rw [answered_run hcondition]
  refine forall_congr' fun _ => ⟨fun hn i => hn (.client i), fun hn t hw => ?_⟩
  rcases client_of_wait (wait_of_waiting hcondition hw) with ⟨i, rfl⟩
  exact hn i hw

/-- No callback runs while the camera is closed. -/
def Settled (s : Session ι) : Prop := s.isOpened = false → s.grabbing.callback = .idle

/-- Only the end of `release` closes the camera. -/
theorem isOpened_mono {s s' : Session ι} {l : SessionOp ι} (h : sessionStep s l = some s')
    (hl : ∀ i, l ≠ .released i) (ho : s'.isOpened = false) : s.isOpened = false := by
  have hdoes := sessionStep_some h
  cases l with
  | openCamera i ok =>
      rw [hdoes.2] at ho
      split at ho
      · exact absurd ho Bool.false_ne_true.symm
      · exact ho
  | startCapture i ok =>
      rw [hdoes.2] at ho
      split at ho
      · split at ho <;> exact ho
      · exact ho
  | release i =>
      rw [hdoes.2] at ho
      split at ho <;> exact ho
  | released i => exact absurd rfl (hl i)
  | grab i =>
      rw [hdoes.2] at ho
      split at ho <;> exact ho
  | retrieve i => exact hdoes.2 ▸ ho
  | thread o =>
      rcases hdoes with ⟨_, g, _, rfl⟩
      exact ho

/-- These steps are only made while the callback runs. -/
theorem grabStep_busy {s s' : Grabbing ι} {l : GrabOp ι}
    (hl : l = .copy ∨ l = .finish ∨ l = .broadCast ∨ l = .depart)
    (h : grabStep s l = some s') : s.callback ≠ .idle := by
  intro hidle
  have hdoes := grabStep_some h
  rcases hl with rfl | rfl | rfl | rfl
  · rcases hdoes with ⟨a, c, rest, hcopying, _⟩
    exact nomatch hidle.symm.trans hcopying
  · rcases hdoes with ⟨⟨a, hcopied⟩, _⟩
    exact nomatch hidle.symm.trans hcopied
  · exact nomatch hidle.symm.trans hdoes.1
  · exact nomatch hidle.symm.trans hdoes.1

theorem settled_step {s s' : Session ι} {l : SessionOp ι} (hs : Settled s)
    (h : sessionStep s l = some s') : Settled s' := by
  -- `release` waits for the callback, and while the camera is closed no frame
  -- arrives that could start another one.
  cases l with
  | released i =>
      rcases sessionStep_some h with ⟨⟨hidle, _⟩, rfl⟩
      exact fun _ => hidle
  | thread o =>
      rcases thread_some h with ⟨hallowed, g, hg, rfl⟩
      intro ho
      have hidle : s.grabbing.callback = .idle := hs ho
      have hdoes := grabStep_some hg
      cases o with
      | arrive a => exact absurd (ho.symm.trans hallowed) Bool.false_ne_true
      | copy => exact absurd hidle (grabStep_busy (Or.inl rfl) hg)
      | finish => exact absurd hidle (grabStep_busy (Or.inr (Or.inl rfl)) hg)
      | broadCast => exact absurd hidle (grabStep_busy (Or.inr (Or.inr (Or.inl rfl))) hg)
      | depart => exact absurd hidle (grabStep_busy (Or.inr (Or.inr (Or.inr rfl))) hg)
      | request j =>
          rcases hdoes with ⟨_, c, _, rfl⟩
          exact hidle
      | wait j =>
          rcases hdoes with ⟨_, c, _, rfl⟩
          exact hidle
      | leave j =>
          rcases hdoes with ⟨_, c, _, rfl⟩
          exact hidle
      | setUserCallback b =>
          rcases hdoes with rfl
          exact hidle
      | _ =>
          rcases hdoes with ⟨c, _, rfl⟩
          exact hidle
  | _ =>
      intro ho
      rw [sessionStep_grabbing rfl h]
      exact hs (isOpened_mono h (fun _ => nofun) ho)

/-- A step of the clients and the callback that is no call of `Wait` makes
    nobody wait, and while no callback runs it leaves the flag alone. -/
theorem grabStep_waiting {s s' : Grabbing ι} {l : GrabOp ι} (hl : ∀ i, l ≠ .wait i)
    (hidle : s.callback = .idle) (h : grabStep s l = some s') :
    s'.condition.ready = s.condition.ready ∧
      ∀ i, s'.condition.sync.Waiting (.client i) → s.condition.sync.Waiting (.client i) := by
  -- Only a call of `Wait` puts a thread to sleep, and only a broadcast sets the flag.
  have hdoes := grabStep_some h
  cases l with
  | request j =>
      rcases hdoes with ⟨_, c, hc, rfl⟩
      exact ⟨condStep_ready hc, fun i hw => condStep_waiting hc nofun hw⟩
  | wait j => exact absurd rfl (hl j)
  | spurious j =>
      rcases hdoes with ⟨c, hc, rfl⟩
      exact ⟨condStep_ready hc, fun i hw => condStep_waiting hc nofun hw⟩
  | recheck j =>
      rcases hdoes with ⟨c, hc, rfl⟩
      exact ⟨condStep_ready hc, fun i hw => condStep_waiting hc nofun hw⟩
  | leave j =>
      rcases hdoes with ⟨_, c, hc, rfl⟩
      exact ⟨condStep_ready hc, fun i hw => condStep_waiting hc nofun hw⟩
  | arrive a =>
      rcases hdoes with ⟨_, c, hc, rfl⟩
      have hready : c.ready = s.condition.ready := condStep_ready hc
      split
      · exact ⟨hready, fun i hw => condStep_waiting hc nofun hw⟩
      · exact ⟨hready, fun i hw => condStep_waiting hc nofun hw⟩
  | copy => exact absurd hidle (grabStep_busy (Or.inl rfl) h)
  | finish => exact absurd hidle (grabStep_busy (Or.inr (Or.inl rfl)) h)
  | broadCast => exact absurd hidle (grabStep_busy (Or.inr (Or.inr (Or.inl rfl))) h)
  | depart => exact absurd hidle (grabStep_busy (Or.inr (Or.inr (Or.inr rfl))) h)
  | controlEnter =>
      rcases hdoes with ⟨c, hc, rfl⟩
      exact ⟨condStep_ready hc, fun i hw => condStep_waiting hc nofun hw⟩
  | controlLeave =>
      rcases hdoes with ⟨c, hc, rfl⟩
      exact ⟨condStep_ready hc, fun i hw => condStep_waiting hc nofun hw⟩
  | setUserCallback b =>
      rcases hdoes with rfl
      exact ⟨rfl, fun _ => id⟩

/-- A step that is neither the end of a release nor a call of `Wait` strands
    nobody. -/
theorem stranded_other {s s' : Session ι} {l : SessionOp ι} (h : sessionStep s l = some s')
    (hset : Settled s) (hs : NobodyStranded s) (hl : ∀ i, l ≠ .released i)
    (hl' : ∀ i, l ≠ .thread (.wait i)) : NobodyStranded s' := by
  intro ho _ hready
  have hclosed := isOpened_mono h hl ho
  have hidle := hset hclosed
  cases l with
  | thread o =>
      rcases thread_some h with ⟨_, g, hg, rfl⟩
      rcases grabStep_waiting (fun i hi => hl' i (hi ▸ rfl)) hidle hg with ⟨hsame, hwaiting⟩
      exact fun i hw => hs hclosed hidle (hsame.symm.trans hready) i (hwaiting i hw)
  | _ =>
      rw [sessionStep_grabbing rfl h] at hready ⊢
      exact hs hclosed hidle hready

/-- What strands a client. -/
theorem stranded_step (past : List (SessionOp ι)) (s : Session ι) (l : SessionOp ι)
    (s' : Session ι) (hpast : run sessionStep .init past = some s) (hset : Settled s)
    (hs : NobodyStranded s) (h : sessionStep s l = some s') :
    NobodyStranded s' ↔ l.Heeds past s := by
  -- Two steps can strand somebody: the camera is closed over the waiting
  -- clients, or a client starts to wait while it is closed.
  cases l with
  | released i =>
      rcases sessionStep_some h with ⟨⟨hidle, _⟩, rfl⟩
      refine Iff.trans ⟨fun hn => hn rfl hidle, fun hn _ _ => hn⟩ (followed_run hpast).symm
  | thread o =>
      cases o with
      | wait i =>
          rcases thread_some h with ⟨_, g, hg, rfl⟩
          rcases grabStep_some hg with ⟨_, c, hc, rfl⟩
          have hasleep : c.sync.phase (.client i) = .asleep := condStep_leaves hc
          constructor
          · intro hn
            by_cases ho : s.isOpened = true
            · exact ho
            · rw [Bool.not_eq_true] at ho
              exact absurd (Or.inl hasleep) (hn ho (hset ho) (condStep_ready hc) i)
          · exact fun ho hc => absurd (hc.symm.trans ho) Bool.false_ne_true
      | _ =>
          exact iff_of_true (stranded_other h hset hs (fun _ => nofun) (fun _ => nofun)) trivial
  | _ => exact iff_of_true (stranded_other h hset hs (fun _ => nofun) (fun _ => nofun)) trivial

/-- No client waits for a closed camera exactly in the runs in which, when a
    release comes to its end, every call of `Wait` before was followed by a
    broadcast, and nobody calls `Wait` while the camera is closed. -/
theorem stranded_iff {ls : List (SessionOp ι)} :
    Always sessionStep NobodyStranded .init ls ↔
      AlongPast sessionStep (fun past s l => l.Heeds past s) [] .init ls := by
  have hnobody : NobodyStranded (.init : Session ι) := by
    rintro - - - i (hw | hw) <;> exact nomatch hw
  refine always_iff_alongPast
    (I := fun past s => run sessionStep .init past = some s ∧ Settled s) ?_ ?_
    ⟨run_nil _, fun _ => rfl⟩ hnobody
  · rintro past s l s' ⟨hrun, hset⟩ h
    exact ⟨by rw [run_append, hrun, Option.bind_some, run_cons, h, Option.bind_some, run_nil],
      settled_step hset h⟩
  · rintro past s l s' ⟨hrun, hset⟩ hs h
    exact stranded_step past s l s' hrun hset hs h

/-- One client waits for a frame while another one releases the camera. -/
theorem waiter_stranded : ¬ Always sessionStep NobodyStranded (.init : Session Nat)
    [.openCamera 0 true, .startCapture 0 true, .grab 1, .thread (.request 1), .thread (.wait 1),
      .release 0, .released 0] := by
  intro h
  have hrun : run sessionStep (.init : Session Nat)
    [.openCamera 0 true, .startCapture 0 true, .grab 1, .thread (.request 1), .thread (.wait 1),
      .release 0, .released 0] = some _ := rfl
  exact always_last h hrun rfl rfl rfl 1 (Or.inl rfl)

end Sync

end RaspiCam
