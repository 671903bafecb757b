import RaspiCam.Lib.Run

/-!
# Runs that Show as Other Runs

A system that is written out in detail takes many steps where a simpler one
takes one, and most of its steps do not show at all. `shows` says what labels of
the simpler system a step shows as, none for a step that only matters inside.

If related states stay related when a step on one side is matched by what it
shows as on the other, then a whole run shows as a run, `run_shown`. What is
known about the runs of the simpler system then holds for the detailed one. The
states of the detailed system may be assumed to keep an invariant of their own.

## Main definitions

* `shown`: What a run shows as.

## Theorems

* `run_shown`: A run shows as a run.
* `filterMap_shown`: What is collected from it.
-/

namespace Transition

variable {σ τ lbl lbl' : Type*}

/-- What the steps of a run show as, one after the other. -/
def shown (step : σ → lbl → Option σ) (shows : σ → lbl → List lbl') : σ → List lbl → List lbl'
  | _, [] => []
  | s, l :: ls => match step s l with
    | none => []
    | some s' => shows s l ++ shown step shows s' ls

theorem run_shown {step : σ → lbl → Option σ} {spec : τ → lbl' → Option τ}
    {shows : σ → lbl → List lbl'} {Inv : σ → Prop} {R : σ → τ → Prop}
    (hinv : ∀ s l s', Inv s → step s l = some s' → Inv s')
    (hstep : ∀ s l s' t, Inv s → R s t → step s l = some s' →
      ∃ t', run spec t (shows s l) = some t' ∧ R s' t')
    {s s' : σ} {t : τ} {ls : List lbl} (hs : Inv s) (hR : R s t) (h : run step s ls = some s') :
    ∃ t', run spec t (shown step shows s ls) = some t' ∧ R s' t' := by
  induction ls generalizing s t with
  | nil =>
      simp only [run, Option.some.injEq] at h
      exact ⟨t, rfl, h ▸ hR⟩
  | cons l ls ih =>
      obtain ⟨m, hm, hrest⟩ := run_cons_some h
      obtain ⟨u, hu, hRu⟩ := hstep s l m t hs hR hm
      obtain ⟨t', ht', hR'⟩ := ih (hinv s l m hs hm) hRu hrest
      refine ⟨t', ?_, hR'⟩
      simp only [shown, hm]
      rw [run_append, hu]
      exact ht'

/-- What is collected from the labels that a run shows as comes from one step
    after the other. -/
theorem filterMap_shown {step : σ → lbl → Option σ} {shows : σ → lbl → List lbl'} {β : Type*}
    (f : lbl' → Option β) (s : σ) (ls : List lbl) :
    (shown step shows s ls).filterMap f =
      shown step (fun s l => (shows s l).filterMap f) s ls := by
  induction ls generalizing s with
  | nil => rfl
  | cons l ls ih =>
      simp only [shown]
      cases step s l with
      | none => rfl
      | some s' => simp [ih]

end Transition
