import RaspiCam.Lib.Monitor
import RaspiCam.Lib.Run

/-!
# The Thread Condition

`ThreadCondition` adds one flag to a condition variable, `ready`, which every
call of `Wait` clears before it sleeps and every call of `BroadCast` sets.
`Wait` goes back to sleep for as long as the flag is clear when it is awake
again.

The flag is shared, so a thread woken by a broadcast leaves `Wait` only if no
other thread calls `Wait` before it has the mutex again. `broadCast_wakes_iff`
is the exact condition: between the broadcast and the moment the thread has
the mutex, every call of `Wait` is followed by another broadcast.

Each operation runs while the mutex is held, so one label covers all it does
between taking the mutex and giving it up or falling asleep.

## Main definitions

* `ThreadCondition`: The monitor with its flag.
* `wait`, `recheck`, `broadCast`: The operations.
* `CondOp`, `condStep`: The threads and their operations as a system.
* `CondOp.Needs`, `CondOp.Leaves`: Where an operation finds its thread and
  where it leaves it.
* `Answered`: Every call of `Wait` is followed by a broadcast.

## Theorems

* `condStep_ready`: What an operation does to the flag.
* `condStep_needs`, `condStep_leaves`: An operation finds and leaves its thread
  where it should.
* `condStep_others`: An operation neither lets another thread in nor throws it
  out.
* `condStep_waiting`, `condStep_keeps_waiting`: Who waits after an operation.
* `answered_run`: When every call of `Wait` was answered.
* `woken_run`: A woken thread that has not moved is awake, and the flag says
  whether every call of `Wait` since was answered.
* `broadCast_wakes_iff`: When a woken thread leaves `Wait`.
* `broadCast_wakes_sleeper`: A run in which it does.
* `later_wait_sends_back`: A run in which it does not.
-/

namespace RaspiCam

open Monitors Transition

namespace Sync

variable {τ : Type*}

/-- `ThreadCondition`, with the mutex of its user. -/
structure ThreadCondition (τ : Type*) where
  sync : Monitor τ
  ready : Bool

/-- What a thread can do. -/
inductive CondOp (τ : Type*)
  | lock (t : τ)
  | unlock (t : τ)
  | wait (t : τ)
  | spurious (t : τ)
  | recheck (t : τ)
  | broadCast (t : τ)
deriving DecidableEq

/-- What an operation makes of the flag. -/
def CondOp.flag (ready : Bool) : CondOp τ → Bool
  | .wait _ => false
  | .broadCast _ => true
  | _ => ready

/-- Who does it. -/
def CondOp.thread : CondOp τ → τ
  | .lock t => t
  | .unlock t => t
  | .wait t => t
  | .spurious t => t
  | .recheck t => t
  | .broadCast t => t

/-- Every call of `Wait` in the list is followed by a broadcast. -/
def Answered (ls : List (CondOp τ)) : Prop :=
  ∀ before t after, ls = before ++ .wait t :: after → ∃ u, .broadCast u ∈ after

theorem answered_nil : Answered ([] : List (CondOp τ)) := by
  intro before t after h
  exact absurd h.symm (List.append_ne_nil_of_right_ne_nil before (List.cons_ne_nil _ _))

/-- A list is answered after one more operation exactly when that operation is
    a broadcast, or is no call of `Wait` and the list was answered before. -/
theorem answered_concat (ls : List (CondOp τ)) (l : CondOp τ) : Answered (ls ++ [l]) ↔
    match l with
      | .wait _ => False
      | .broadCast _ => True
      | _ => Answered ls := by
  -- A call of `Wait` in the longer list is the new operation or an old one.
  have hsplit : ∀ before t after, ls ++ [l] = before ++ CondOp.wait t :: after →
      (l = .wait t ∧ after = []) ∨
        ∃ rest, ls = before ++ .wait t :: rest ∧ after = rest ++ [l] := by
    intro before t after h
    rcases List.eq_nil_or_concat after with rfl | ⟨rest, m, rfl⟩
    · exact Or.inl ⟨(List.append_inj' h rfl).2 |> List.cons.inj |>.1, rfl⟩
    · have h' : ls ++ [l] = (before ++ .wait t :: rest) ++ [m] := by
        rw [h, List.append_assoc, List.cons_append, List.concat_eq_append]
      rcases List.append_inj' h' rfl with ⟨hls, hlm⟩
      exact Or.inr ⟨rest, hls, by rw [List.concat_eq_append, ← (List.cons.inj hlm).1]⟩
  have hkeep : (∀ t, l ≠ .wait t) → Answered ls → Answered (ls ++ [l]) := by
    intro hl ha before t after h
    rcases hsplit before t after h with ⟨hlt, _⟩ | ⟨rest, hls, rfl⟩
    · exact absurd hlt (hl t)
    · rcases ha before t rest hls with ⟨u, hu⟩
      exact ⟨u, List.mem_append_left _ hu⟩
  have hdrop : (∀ u, l ≠ .broadCast u) → Answered (ls ++ [l]) → Answered ls := by
    intro hl ha before t after h
    rcases ha before t (after ++ [l]) (by rw [h, List.append_assoc, List.cons_append]) with ⟨u, hu⟩
    rcases List.mem_append.mp hu with hu | hu
    · exact ⟨u, hu⟩
    · exact absurd (List.mem_singleton.mp hu).symm (hl u)
  cases l with
  | wait t =>
      refine ⟨fun ha => ?_, False.elim⟩
      rcases ha ls t [] rfl with ⟨u, hu⟩
      exact absurd hu List.not_mem_nil
  | broadCast u =>
      refine ⟨fun _ => trivial, fun _ before t after h => ?_⟩
      rcases hsplit before t after h with ⟨hlt, _⟩ | ⟨rest, _, rfl⟩
      · exact absurd hlt nofun
      · exact ⟨u, List.mem_append_right _ List.mem_cons_self⟩
  | lock t => exact ⟨hdrop nofun, hkeep nofun⟩
  | unlock t => exact ⟨hdrop nofun, hkeep nofun⟩
  | spurious t => exact ⟨hdrop nofun, hkeep nofun⟩
  | recheck t => exact ⟨hdrop nofun, hkeep nofun⟩

variable [DecidableEq τ]

namespace ThreadCondition

/-- `ThreadCondition::ThreadCondition`. -/
def init : ThreadCondition τ := { sync := .idle, ready := false }

/-- `ThreadCondition::Wait`, up to the first time it sleeps. -/
def wait (c : ThreadCondition τ) (t : τ) : Option (ThreadCondition τ) :=
  (c.sync.sleep t).map fun s => { sync := s, ready := false }

/-- `ThreadCondition::Wait`, each time it is awake and has the mutex again:
    it returns when the flag is set and sleeps on otherwise. -/
def recheck (c : ThreadCondition τ) (t : τ) : Option (ThreadCondition τ) :=
  (c.sync.relock t).bind fun s =>
    if c.ready then some { c with sync := s } else (s.sleep t).map fun s => { c with sync := s }

/-- `ThreadCondition::BroadCast`. -/
def broadCast (c : ThreadCondition τ) (t : τ) : Option (ThreadCondition τ) :=
  if c.sync.holder = some t then some { sync := c.sync.notifyAll, ready := true } else none

end ThreadCondition

/-- The threads around one condition, in any order. -/
def condStep (c : ThreadCondition τ) : CondOp τ → Option (ThreadCondition τ)
  | .lock t => (c.sync.acquire t).map fun s => { c with sync := s }
  | .unlock t => (c.sync.release t).map fun s => { c with sync := s }
  | .wait t => c.wait t
  | .spurious t => (c.sync.wake t).map fun s => { c with sync := s }
  | .recheck t => c.recheck t
  | .broadCast t => c.broadCast t

/-- What checking again does: the thread leaves exactly when the flag is
    set. -/
theorem recheck_some {c c' : ThreadCondition τ} {t : τ} (h : c.recheck t = some c') :
    c.sync.phase t = .awake ∧ c'.ready = c.ready ∧ (c'.sync.phase t = .inside ↔ c.ready = true) ∧
      (∀ u, u ≠ t → c'.sync.phase u = c.sync.phase u) := by
  rcases Option.bind_eq_some_iff.mp h with ⟨s, hs, hrest⟩
  rcases Monitor.relock_some hs with ⟨_, hawake, hheld, hphase⟩
  -- The flag is tested with the mutex, which is given up again if it is not set.
  by_cases hr : c.ready = true
  · rw [if_pos hr, Option.some.injEq] at hrest
    rw [← hrest]
    refine ⟨hawake, rfl, ?_, fun u hu => ?_⟩
    · simp only [hphase, Function.update_self, hr]
    · simp only [hphase, Function.update_of_ne hu]
  · rw [if_neg hr, Option.map_eq_some_iff] at hrest
    rcases hrest with ⟨s', hs', rfl⟩
    rcases Monitor.sleep_some hs' with ⟨_, _, hphase'⟩
    refine ⟨hawake, rfl, ?_, fun u hu => ?_⟩
    · simp only [hphase', Function.update_self, hr, reduceCtorEq]
    · simp only [hphase', hphase, Function.update_of_ne hu]

theorem wait_some {c c' : ThreadCondition τ} {t : τ} (h : c.wait t = some c') :
    c.sync.holder = some t ∧ c'.ready = false ∧ c'.sync.holder = none ∧
      c'.sync.phase = Function.update c.sync.phase t .asleep := by
  rcases Option.map_eq_some_iff.mp h with ⟨s, hs, rfl⟩
  rcases Monitor.sleep_some hs with ⟨hheld, hfree, hphase⟩
  exact ⟨hheld, rfl, hfree, hphase⟩

theorem broadCast_some {c c' : ThreadCondition τ} {t : τ} (h : c.broadCast t = some c') :
    c.sync.holder = some t ∧ c' = { sync := c.sync.notifyAll, ready := true } := by
  unfold ThreadCondition.broadCast at h
  by_cases hh : c.sync.holder = some t
  · rw [if_pos hh, Option.some.injEq] at h
    exact ⟨hh, h.symm⟩
  · rw [if_neg hh] at h
    exact absurd h.symm (Option.some_ne_none c')

/-- What an operation does to the flag. -/
theorem condStep_ready {c c' : ThreadCondition τ} {l : CondOp τ} (h : condStep c l = some c') :
    c'.ready = l.flag c.ready := by
  cases l with
  | lock t =>
      rcases Option.map_eq_some_iff.mp h with ⟨s, _, rfl⟩
      rfl
  | unlock t =>
      rcases Option.map_eq_some_iff.mp h with ⟨s, _, rfl⟩
      rfl
  | wait t => exact (wait_some h).2.1
  | spurious t =>
      rcases Option.map_eq_some_iff.mp h with ⟨s, _, rfl⟩
      rfl
  | recheck t => exact (recheck_some h).2.1
  | broadCast t =>
      rw [(broadCast_some h).2]
      rfl

/-- Where an operation finds its thread. -/
def CondOp.Needs (c : ThreadCondition τ) : CondOp τ → Prop
  | .lock t => c.sync.holder = none ∧ c.sync.phase t = .outside
  | .unlock t => c.sync.phase t = .inside
  | .wait t => c.sync.phase t = .inside
  | .spurious t => c.sync.phase t = .asleep
  | .recheck t => c.sync.holder = none ∧ c.sync.phase t = .awake
  | .broadCast t => c.sync.phase t = .inside

theorem condStep_needs {c c' : ThreadCondition τ} {l : CondOp τ} (h : condStep c l = some c') :
    l.Needs c := by
  cases l with
  | lock t =>
      rcases Option.map_eq_some_iff.mp h with ⟨s, hs, _⟩
      rcases Monitor.acquire_some hs with ⟨hfree, hout, _⟩
      exact ⟨hfree, hout⟩
  | unlock t =>
      rcases Option.map_eq_some_iff.mp h with ⟨s, hs, _⟩
      exact (c.sync.exclusive t).mpr (Monitor.release_some hs).1
  | wait t => exact (c.sync.exclusive t).mpr (wait_some h).1
  | spurious t =>
      rcases Option.map_eq_some_iff.mp h with ⟨s, hs, _⟩
      exact (Monitor.wake_some hs).1
  | recheck t =>
      rcases Option.bind_eq_some_iff.mp h with ⟨s, hs, _⟩
      rcases Monitor.relock_some hs with ⟨hfree, hawake, _⟩
      exact ⟨hfree, hawake⟩
  | broadCast t => exact (c.sync.exclusive t).mpr (broadCast_some h).1

/-- Where an operation leaves its thread. -/
def CondOp.Leaves (c c' : ThreadCondition τ) : CondOp τ → Prop
  | .lock t => c'.sync.phase t = .inside
  | .unlock t => c'.sync.phase t = .outside
  | .wait t => c'.sync.phase t = .asleep
  | .spurious t => c'.sync.phase t = .awake
  | .recheck t => c'.sync.phase t = .inside ↔ c.ready = true
  | .broadCast t => c'.sync.phase t = .inside

theorem condStep_leaves {c c' : ThreadCondition τ} {l : CondOp τ} (h : condStep c l = some c') :
    l.Leaves c c' := by
  cases l with
  | lock t =>
      rcases Option.map_eq_some_iff.mp h with ⟨s, hs, rfl⟩
      simp only [CondOp.Leaves, (Monitor.acquire_some hs).2.2.2, Function.update_self]
  | unlock t =>
      rcases Option.map_eq_some_iff.mp h with ⟨s, hs, rfl⟩
      simp only [CondOp.Leaves, (Monitor.release_some hs).2.2, Function.update_self]
  | wait t => simp only [CondOp.Leaves, (wait_some h).2.2.2, Function.update_self]
  | spurious t =>
      rcases Option.map_eq_some_iff.mp h with ⟨s, hs, rfl⟩
      simp only [CondOp.Leaves, (Monitor.wake_some hs).2.2, Function.update_self]
  | recheck t => exact (recheck_some h).2.2.1
  | broadCast t =>
      have hin : c.sync.phase t = .inside := condStep_needs h
      rw [(broadCast_some h).2]
      simp only [CondOp.Leaves, Monitor.notifyAll_phase, hin, reduceCtorEq, if_false]

/-- An operation neither lets another thread in nor throws it out. -/
theorem condStep_others {c c' : ThreadCondition τ} {l : CondOp τ} (h : condStep c l = some c')
    {u : τ} (hu : u ≠ l.thread) : c'.sync.phase u = .inside ↔ c.sync.phase u = .inside := by
  cases l with
  | lock t =>
      rcases Option.map_eq_some_iff.mp h with ⟨s, hs, rfl⟩
      rw [(Monitor.acquire_some hs).2.2.2, Function.update_of_ne (show u ≠ t from hu)]
  | unlock t =>
      rcases Option.map_eq_some_iff.mp h with ⟨s, hs, rfl⟩
      rw [(Monitor.release_some hs).2.2, Function.update_of_ne (show u ≠ t from hu)]
  | wait t => rw [(wait_some h).2.2.2, Function.update_of_ne (show u ≠ t from hu)]
  | spurious t =>
      rcases Option.map_eq_some_iff.mp h with ⟨s, hs, rfl⟩
      rw [(Monitor.wake_some hs).2.2, Function.update_of_ne (show u ≠ t from hu)]
  | recheck t => rw [(recheck_some h).2.2.2 u hu]
  | broadCast t =>
      rw [(broadCast_some h).2, Monitor.notifyAll_phase]
      by_cases ha : c.sync.phase u = .asleep
      · simp only [ha, if_true, reduceCtorEq]
      · rw [if_neg ha]

/-- An operation of another thread, or a broadcast, leaves a thread awake. -/
theorem condStep_awake {c c' : ThreadCondition τ} {l : CondOp τ} {t : τ}
    (h : condStep c l = some c') (hawake : c.sync.phase t = .awake) (hl : l ≠ .recheck t) :
    c'.sync.phase t = .awake := by
  have hother : ∀ {u : τ} {p : Phase}, c.sync.phase u ≠ .awake →
      Function.update c.sync.phase u p t = .awake := by
    intro u p hu
    by_cases htu : t = u
    · exact absurd (htu ▸ hawake) hu
    · rw [Function.update_of_ne htu, hawake]
  -- The thread that has the mutex is not awake but inside.
  have hholder : ∀ {u : τ}, c.sync.holder = some u → c.sync.phase u ≠ .awake := by
    intro u hu hc
    exact Monitor.waiting_ne_holder (Or.inr hc) hu
  cases l with
  | lock u =>
      rcases Option.map_eq_some_iff.mp h with ⟨s, hs, rfl⟩
      rcases Monitor.acquire_some hs with ⟨_, hout, _, hphase⟩
      rw [hphase]
      exact hother (fun hc => Phase.noConfusion (hout.symm.trans hc))
  | unlock u =>
      rcases Option.map_eq_some_iff.mp h with ⟨s, hs, rfl⟩
      rcases Monitor.release_some hs with ⟨hheld, _, hphase⟩
      rw [hphase]
      exact hother (hholder hheld)
  | wait u =>
      rcases wait_some h with ⟨hheld, _, _, hphase⟩
      rw [hphase]
      exact hother (hholder hheld)
  | spurious u =>
      rcases Option.map_eq_some_iff.mp h with ⟨s, hs, rfl⟩
      rcases Monitor.wake_some hs with ⟨hasleep, _, hphase⟩
      rw [hphase]
      exact hother (fun hc => Phase.noConfusion (hasleep.symm.trans hc))
  | recheck u =>
      have htu : t ≠ u := fun hc => hl (by rw [hc])
      rw [(recheck_some h).2.2.2 t htu, hawake]
  | broadCast u =>
      rw [(broadCast_some h).2]
      exact Monitor.notifyAll_waiting (Or.inr hawake)

/-- A thread that waits after an operation waited before it, unless the
    operation is its call of `Wait`. -/
theorem condStep_waiting {c c' : ThreadCondition τ} {l : CondOp τ} {t : τ}
    (h : condStep c l = some c') (hl : l ≠ .wait t) (hw : c'.sync.Waiting t) :
    c.sync.Waiting t := by
  have hother : ∀ {u : τ} {p : Phase}, t ≠ u → c'.sync.phase = Function.update c.sync.phase u p →
      c.sync.Waiting t := by
    intro u p htu hphase
    unfold Monitor.Waiting at hw
    rw [hphase, Function.update_of_ne htu] at hw
    exact hw
  have hnot : ∀ {p : Phase}, c'.sync.phase t = p → p = .inside ∨ p = .outside → False := by
    intro p hp hout
    rcases hw with hw | hw <;> rcases hout with rfl | rfl <;> exact nomatch hp.symm.trans hw
  have hleaves := condStep_leaves h
  -- A thread's own step leads out of waiting, or finds it waiting; the steps of
  -- the others leave it where it is, and a broadcast wakes it, which is waiting
  -- for the mutex.
  cases l with
  | lock u =>
      by_cases htu : t = u
      · subst htu
        exact (hnot hleaves (Or.inl rfl)).elim
      · rcases Option.map_eq_some_iff.mp h with ⟨s, hs, rfl⟩
        exact hother htu (Monitor.acquire_some hs).2.2.2
  | unlock u =>
      by_cases htu : t = u
      · subst htu
        exact (hnot hleaves (Or.inr rfl)).elim
      · rcases Option.map_eq_some_iff.mp h with ⟨s, hs, rfl⟩
        exact hother htu (Monitor.release_some hs).2.2
  | wait u => exact hother (fun htu => hl (htu ▸ rfl)) (wait_some h).2.2.2
  | spurious u =>
      by_cases htu : t = u
      · subst htu
        exact Or.inl (condStep_needs h)
      · rcases Option.map_eq_some_iff.mp h with ⟨s, hs, rfl⟩
        exact hother htu (Monitor.wake_some hs).2.2
  | recheck u =>
      by_cases htu : t = u
      · subst htu
        exact Or.inr (condStep_needs h).2
      · unfold Monitor.Waiting at hw
        rw [(recheck_some h).2.2.2 t htu] at hw
        exact hw
  | broadCast u =>
      rw [(broadCast_some h).2] at hw
      unfold Monitor.Waiting at hw
      rw [Monitor.notifyAll_phase] at hw
      by_cases ha : c.sync.phase t = .asleep
      · exact Or.inl ha
      · rw [if_neg ha] at hw
        exact hw

/-- Without a broadcast a thread goes on waiting: when it is awake it finds the
    flag clear. -/
theorem condStep_keeps_waiting {c c' : ThreadCondition τ} {l : CondOp τ} {t : τ}
    (h : condStep c l = some c') (hready : c.ready = false) (hw : c.sync.Waiting t) :
    c'.sync.Waiting t := by
  have hne : ∀ {u : τ}, c.sync.phase u = .inside ∨ c.sync.phase u = .outside → t ≠ u := by
    rintro u hu rfl
    rcases hw with hw | hw <;> rcases hu with hu | hu <;> exact nomatch hw.symm.trans hu
  have hother : ∀ {u : τ} {p : Phase}, t ≠ u → c'.sync.phase = Function.update c.sync.phase u p →
      c'.sync.Waiting t := by
    intro u p htu hphase
    unfold Monitor.Waiting
    rw [hphase, Function.update_of_ne htu]
    exact hw
  cases l with
  | lock u =>
      rcases Option.map_eq_some_iff.mp h with ⟨s, hs, rfl⟩
      rcases Monitor.acquire_some hs with ⟨_, hout, _, hphase⟩
      exact hother (hne (Or.inr hout)) hphase
  | unlock u =>
      have hin : c.sync.phase u = .inside := condStep_needs h
      rcases Option.map_eq_some_iff.mp h with ⟨s, hs, rfl⟩
      exact hother (hne (Or.inl hin)) (Monitor.release_some hs).2.2
  | wait u =>
      have hin : c.sync.phase u = .inside := condStep_needs h
      exact hother (hne (Or.inl hin)) (wait_some h).2.2.2
  | spurious u =>
      rcases Option.map_eq_some_iff.mp h with ⟨s, hs, rfl⟩
      rcases Monitor.wake_some hs with ⟨_, _, hphase⟩
      by_cases htu : t = u
      · refine Or.inr ?_
        rw [hphase, htu, Function.update_self]
      · exact hother htu hphase
  | recheck u =>
      by_cases htu : t = u
      · subst htu
        rcases Option.bind_eq_some_iff.mp h with ⟨s, _, hrest⟩
        rw [if_neg (by rw [hready]; decide), Option.map_eq_some_iff] at hrest
        rcases hrest with ⟨s', hs', rfl⟩
        refine Or.inl ?_
        rw [(Monitor.sleep_some hs').2.2, Function.update_self]
      · unfold Monitor.Waiting
        rw [(recheck_some h).2.2.2 t htu]
        exact hw
  | broadCast u =>
      rw [(broadCast_some h).2]
      exact Or.inr (Monitor.notifyAll_waiting hw)

/-- Who waits has called `Wait`. -/
theorem wait_of_waiting {c : ThreadCondition τ} {ls : List (CondOp τ)} {t : τ}
    (h : run condStep .init ls = some c) (hw : c.sync.Waiting t) : .wait t ∈ ls := by
  refine run_history (I := fun ls c => c.sync.Waiting t → .wait t ∈ ls) ?_ ?_ h hw
  · intro ls c l c' ih hstep hw'
    by_cases hl : l = .wait t
    · exact List.mem_append_right _ (hl ▸ List.mem_cons_self)
    · exact List.mem_append_left _ (ih (condStep_waiting hstep hl hw'))
  · rintro (hw | hw) <;> exact nomatch hw

/-- Every call of `Wait` was answered exactly when the flag is set or nobody
    waits: the thread that called last cannot have left before a broadcast. -/
theorem answered_run {c : ThreadCondition τ} {ls : List (CondOp τ)}
    (h : run condStep .init ls = some c) :
    Answered ls ↔ (c.ready = false → ∀ t, ¬ c.sync.Waiting t) := by
  refine run_history (I := fun ls c =>
    Answered ls ↔ (c.ready = false → ∀ t, ¬ c.sync.Waiting t)) ?_ ?_ h
  · intro ls c l c' ih hstep
    have hflag := condStep_ready hstep
    -- An operation that leaves the flag alone keeps whoever waits waiting.
    have hkeep : l.flag c.ready = c.ready → (∀ t, l ≠ .wait t) →
        (Answered ls ↔ (c'.ready = false → ∀ t, ¬ c'.sync.Waiting t)) := by
      intro hl hwait
      rw [ih, hflag, hl]
      refine forall_congr' fun hready => forall_congr' fun t => not_congr ?_
      exact ⟨condStep_keeps_waiting hstep hready, condStep_waiting hstep (hwait t)⟩
    rw [answered_concat]
    cases l with
    | wait t =>
        refine iff_of_false not_false fun hn => hn hflag t (Or.inl ?_)
        exact condStep_leaves hstep
    | broadCast t =>
        exact iff_of_true trivial fun hc => absurd (hflag.symm.trans hc) Bool.false_ne_true.symm
    | lock t => exact hkeep rfl nofun
    | unlock t => exact hkeep rfl nofun
    | spurious t => exact hkeep rfl nofun
    | recheck t => exact hkeep rfl nofun
  · refine iff_of_true answered_nil fun _ t hw => ?_
    rcases hw with hw | hw <;> exact nomatch hw

/-- As long as a woken thread has not moved it is awake, and the flag says
    whether every later call of `Wait` was answered. -/
theorem woken_run {c c' : ThreadCondition τ} {ls : List (CondOp τ)} {t : τ}
    (h : run condStep c ls = some c') (hready : c.ready = true)
    (hawake : c.sync.phase t = .awake) (hls : .recheck t ∉ ls) :
    c'.sync.phase t = .awake ∧ (c'.ready = true ↔ Answered ls) := by
  -- By induction on the calls that came so far.
  refine run_history (I := fun ls c => .recheck t ∉ ls →
    c.sync.phase t = .awake ∧ (c.ready = true ↔ Answered ls)) ?_ ?_ h hls
  · intro ls c l c' ih hstep hls
    rcases ih (fun hm => hls (List.mem_append_left _ hm)) with ⟨ha, hr⟩
    have hl : l ≠ .recheck t :=
      fun hl => hls (List.mem_append_right _ (hl ▸ List.mem_cons_self))
    refine ⟨condStep_awake hstep ha hl, ?_⟩
    rw [condStep_ready hstep, answered_concat]
    cases l <;> simp only [CondOp.flag, hr, Bool.false_eq_true]
  · exact fun _ => ⟨hawake, iff_of_true hready answered_nil⟩

/-- A thread that was waiting when a broadcast happened leaves `Wait` the next
    time it has the mutex exactly when every call of `Wait` in between was
    answered by another broadcast. -/
theorem broadCast_wakes_iff {c₁ c₂ c₃ c₄ : ThreadCondition τ} {u t : τ} {ls : List (CondOp τ)}
    (hwaiting : c₁.sync.Waiting t) (hbroadCast : condStep c₁ (.broadCast u) = some c₂)
    (hrun : run condStep c₂ ls = some c₃) (hls : .recheck t ∉ ls)
    (hrecheck : condStep c₃ (.recheck t) = some c₄) :
    c₄.sync.phase t = .inside ↔ Answered ls := by
  rcases broadCast_some hbroadCast with ⟨_, rfl⟩
  rcases woken_run hrun rfl (Monitor.notifyAll_waiting hwaiting) hls with ⟨_, hready⟩
  exact (recheck_some hrecheck).2.2.1.trans hready

/-- The first thread sleeps and the second has the mutex. -/
private def called : ThreadCondition Nat :=
  (run condStep .init [.lock 0, .wait 0, .lock 1]).get (by decide)

/-- The second thread has woken the first. -/
private def woken : ThreadCondition Nat := (condStep called (.broadCast 1)).get (by decide)

/-- It gives the mutex up. -/
private def turn : ThreadCondition Nat := (run condStep woken [.unlock 1]).get (by decide)

/-- The first thread is next to have the mutex and leaves. -/
theorem broadCast_wakes_sleeper :
    ((condStep turn (.recheck 0)).get (by decide)).sync.phase 0 = .inside ↔
      Answered [.unlock (1 : Nat)] :=
  broadCast_wakes_iff (show called.sync.Waiting 0 from Or.inl rfl)
    (Option.some_get (by decide)).symm
    (Option.some_get (by decide)).symm (by decide) (Option.some_get (by decide)).symm

/-- The first thread waits when the second broadcasts, but before its turn a
    third one calls `Wait`: the first thread sleeps again. -/
theorem later_wait_sends_back : ∃ c₁ c₂ : ThreadCondition Nat,
    run condStep .init [.lock 0, .wait 0, .lock 1] = some c₁ ∧ c₁.sync.Waiting 0 ∧
      run condStep c₁ [.broadCast 1, .unlock 1, .lock 2, .wait 2, .recheck 0] = some c₂ ∧
      c₂.sync.phase 0 = .asleep :=
  ⟨_, _, rfl, Or.inl rfl, rfl, rfl⟩

end Sync

end RaspiCam
