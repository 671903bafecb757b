import Mathlib.Logic.Function.Basic

/-!
# Monitors

One mutex and one condition variable, shared by threads of any number. A
thread that waits on the condition releases the mutex and falls asleep in one
step; it wakes when it is notified or for no reason at all, and then has to
take the mutex again before it goes on.

Which thread takes the mutex next is not fixed: an operation is enabled or
not, and the order of the operations is up to whoever fires them. That the
mutex is held by at most one thread is part of the type.

## Main definitions

* `Phase`: Where a thread stands with respect to the monitor.
* `Monitor`: The monitor.
* `acquire`, `release`, `sleep`, `wake`, `relock`: The operations of a thread.
* `notifyAll`: Waking every sleeping thread.
* `Waiting`: A thread that waits on the condition.

## Theorems

* `holder_of_inside`: Only the holder is inside.
* `inside_unique`: At most one thread is inside.
* `waiting_ne_holder`: A waiting thread does not hold the mutex.
* `acquire_some`, `release_some`, `sleep_some`, `wake_some`, `relock_some`:
  What an operation needs and does.
-/

namespace Monitors

/-- Where a thread stands: it has nothing to do with the monitor, holds the
    mutex, sleeps on the condition, or is awake again and needs the mutex. -/
inductive Phase
  | outside
  | inside
  | asleep
  | awake
deriving DecidableEq

variable {τ : Type*}

/-- A mutex with a condition variable. -/
structure Monitor (τ : Type*) where
  holder : Option τ
  phase : τ → Phase
  exclusive : ∀ t, phase t = .inside ↔ holder = some t

namespace Monitor

/-- Nobody has used the monitor yet. -/
def idle : Monitor τ where
  holder := none
  phase := fun _ => .outside
  exclusive := fun t =>
    ⟨fun h => Phase.noConfusion h, fun h => absurd h.symm (Option.some_ne_none t)⟩

theorem holder_of_inside {m : Monitor τ} {t : τ} (h : m.phase t = .inside) :
    m.holder = some t := (m.exclusive t).mp h

theorem inside_unique {m : Monitor τ} {t u : τ} (ht : m.phase t = .inside)
    (hu : m.phase u = .inside) : t = u :=
  Option.some.inj ((holder_of_inside ht).symm.trans (holder_of_inside hu))

/-- Nobody is inside while the mutex is free. -/
theorem not_inside_of_free {m : Monitor τ} (h : m.holder = none) (t : τ) :
    m.phase t ≠ .inside :=
  fun ht => Option.some_ne_none t ((holder_of_inside ht).symm.trans h)

/-- The thread waits on the condition. -/
def Waiting (m : Monitor τ) (t : τ) : Prop := m.phase t = .asleep ∨ m.phase t = .awake

instance (m : Monitor τ) (t : τ) : Decidable (m.Waiting t) := inferInstanceAs (Decidable (_ ∨ _))

theorem waiting_ne_holder {m : Monitor τ} {t : τ} (h : m.Waiting t) : m.holder ≠ some t := by
  intro hh
  have hin := (m.exclusive t).mpr hh
  rcases h with h | h <;> exact Phase.noConfusion (hin.symm.trans h)

/-- Every sleeping thread is woken. -/
def notifyAll (m : Monitor τ) : Monitor τ where
  holder := m.holder
  phase := fun t => if m.phase t = .asleep then .awake else m.phase t
  exclusive := by
    intro t
    rw [← m.exclusive t]
    by_cases ht : m.phase t = .asleep
    · simp only [ht, if_true, reduceCtorEq]
    · rw [if_neg ht]

/-- A woken thread is awake, and the others stay where they are. -/
theorem notifyAll_phase (m : Monitor τ) (t : τ) : m.notifyAll.phase t
    = if m.phase t = .asleep then .awake else m.phase t := rfl

theorem notifyAll_waiting {m : Monitor τ} {t : τ} (h : m.Waiting t) :
    m.notifyAll.phase t = .awake := by
  rw [notifyAll_phase]
  rcases h with h | h
  · rw [if_pos h]
  · rw [if_neg (fun hc => Phase.noConfusion (hc.symm.trans h)), h]

variable [DecidableEq τ]

/-- A thread takes the free mutex and moves to a phase that comes with it. -/
private def take (m : Monitor τ) (t : τ) (hfree : m.holder = none) : Monitor τ where
  holder := some t
  phase := Function.update m.phase t .inside
  exclusive := by
    intro u
    by_cases hu : u = t
    · subst hu
      simp only [Function.update_self]
    · have hout : m.phase u ≠ .inside := fun h => by
        rw [m.exclusive u, hfree] at h
        exact absurd h.symm (Option.some_ne_none u)
      simp only [Function.update_of_ne hu, Option.some.injEq, hout, false_iff]
      exact fun h => hu h.symm

/-- The holder gives the mutex up and moves to another phase. -/
private def give (m : Monitor τ) (t : τ) (p : Phase) (hp : p ≠ .inside)
    (hheld : m.holder = some t) : Monitor τ where
  holder := none
  phase := Function.update m.phase t p
  exclusive := by
    intro u
    by_cases hu : u = t
    · subst hu
      simp only [Function.update_self, hp, reduceCtorEq]
    · have hout : m.phase u ≠ .inside := fun h => by
        rw [m.exclusive u, hheld, Option.some.injEq] at h
        exact hu h.symm
      simp only [Function.update_of_ne hu, hout, reduceCtorEq]

/-- A thread from outside takes the mutex. -/
def acquire (m : Monitor τ) (t : τ) : Option (Monitor τ) :=
  if h : m.holder = none ∧ m.phase t = .outside then some (m.take t h.1) else none

/-- The holder leaves. -/
def release (m : Monitor τ) (t : τ) : Option (Monitor τ) :=
  if h : m.holder = some t then some (m.give t .outside (by decide) h) else none

/-- The holder waits on the condition: it releases the mutex and falls
    asleep. -/
def sleep (m : Monitor τ) (t : τ) : Option (Monitor τ) :=
  if h : m.holder = some t then some (m.give t .asleep (by decide) h) else none

/-- A sleeping thread wakes for no reason. -/
def wake (m : Monitor τ) (t : τ) : Option (Monitor τ) :=
  if h : m.phase t = .asleep then
    some { m with
      phase := Function.update m.phase t .awake
      exclusive := by
        intro u
        by_cases hu : u = t
        · subst hu
          have hout : m.holder ≠ some u := waiting_ne_holder (Or.inl h)
          simp only [Function.update_self, reduceCtorEq, hout]
        · rw [Function.update_of_ne hu]
          exact m.exclusive u }
  else none

/-- A thread that is awake takes the mutex again. -/
def relock (m : Monitor τ) (t : τ) : Option (Monitor τ) :=
  if h : m.holder = none ∧ m.phase t = .awake then some (m.take t h.1) else none

theorem acquire_some {m m' : Monitor τ} {t : τ} (h : m.acquire t = some m') :
    m.holder = none ∧ m.phase t = .outside ∧ m'.holder = some t ∧
      m'.phase = Function.update m.phase t .inside := by
  unfold acquire at h
  by_cases hc : m.holder = none ∧ m.phase t = .outside
  · rw [dif_pos hc, Option.some.injEq] at h
    rw [← h]
    exact ⟨hc.1, hc.2, rfl, rfl⟩
  · rw [dif_neg hc] at h
    exact absurd h.symm (Option.some_ne_none m')

theorem release_some {m m' : Monitor τ} {t : τ} (h : m.release t = some m') :
    m.holder = some t ∧ m'.holder = none ∧ m'.phase = Function.update m.phase t .outside := by
  unfold release at h
  by_cases hc : m.holder = some t
  · rw [dif_pos hc, Option.some.injEq] at h
    rw [← h]
    exact ⟨hc, rfl, rfl⟩
  · rw [dif_neg hc] at h
    exact absurd h.symm (Option.some_ne_none m')

theorem sleep_some {m m' : Monitor τ} {t : τ} (h : m.sleep t = some m') :
    m.holder = some t ∧ m'.holder = none ∧ m'.phase = Function.update m.phase t .asleep := by
  unfold sleep at h
  by_cases hc : m.holder = some t
  · rw [dif_pos hc, Option.some.injEq] at h
    rw [← h]
    exact ⟨hc, rfl, rfl⟩
  · rw [dif_neg hc] at h
    exact absurd h.symm (Option.some_ne_none m')

theorem wake_some {m m' : Monitor τ} {t : τ} (h : m.wake t = some m') :
    m.phase t = .asleep ∧ m'.holder = m.holder ∧
      m'.phase = Function.update m.phase t .awake := by
  unfold wake at h
  by_cases hc : m.phase t = .asleep
  · rw [dif_pos hc, Option.some.injEq] at h
    rw [← h]
    exact ⟨hc, rfl, rfl⟩
  · rw [dif_neg hc] at h
    exact absurd h.symm (Option.some_ne_none m')

theorem relock_some {m m' : Monitor τ} {t : τ} (h : m.relock t = some m') :
    m.holder = none ∧ m.phase t = .awake ∧ m'.holder = some t ∧
      m'.phase = Function.update m.phase t .inside := by
  unfold relock at h
  by_cases hc : m.holder = none ∧ m.phase t = .awake
  · rw [dif_pos hc, Option.some.injEq] at h
    rw [← h]
    exact ⟨hc.1, hc.2, rfl, rfl⟩
  · rw [dif_neg hc] at h
    exact absurd h.symm (Option.some_ne_none m')

end Monitor

end Monitors
