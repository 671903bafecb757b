import RaspiCam.Lib.Run

/-!
# Hidden Labels

Some labels of a system are hidden from an observer, who sees what the other
labels put out, in order. The system keeps the hidden labels secret when two
runs with the same visible labels put out the same.

The question is answered by running the two side by side and relating their
states. Two runs with the same visible labels are `Aligned`: each of them may
fire a hidden label on its own, and they fire the visible ones together. When
a hidden label keeps the relation on either side, and a visible one puts out
the same on both sides exactly when a condition holds, and then keeps the
relation, the runs put out the same exactly when the condition holds wherever
they come to a visible label (`outputs_iff`).

## Main definitions

* `purge`: A list of labels without the hidden ones.
* `outputs`: What the visible labels of a run put out.
* `Aligned`: Two lists with the same visible labels, step by step.
* `Meet`: Two lists come to the same visible label.

## Theorems

* `aligned_of_purge`: Lists with the same visible labels are aligned.
* `outputs_iff`: When two runs put out the same.
-/

namespace Transition

variable {σ lbl out : Type*}

/-- The labels that are not hidden. -/
def purge (hidden : lbl → Bool) (ls : List lbl) : List lbl := ls.filter fun l => !hidden l

/-- What the visible labels of a run put out, one after the other. -/
def outputs (step : σ → lbl → Option σ) (hidden : lbl → Bool) (puts : σ → lbl → out) :
    σ → List lbl → List out
  | _, [] => []
  | s, l :: ls => match step s l with
    | none => []
    | some s' =>
      if hidden l then outputs step hidden puts s' ls
      else puts s l :: outputs step hidden puts s' ls

/-- Two lists with the same visible labels. Each may fire a hidden label on its
    own. -/
inductive Aligned (hidden : lbl → Bool) : List lbl → List lbl → Prop
  | nil : Aligned hidden [] []
  | left {l : lbl} {ls ms : List lbl} : hidden l = true → Aligned hidden ls ms →
      Aligned hidden (l :: ls) ms
  | right {l : lbl} {ls ms : List lbl} : hidden l = true → Aligned hidden ls ms →
      Aligned hidden ls (l :: ms)
  | both {l : lbl} {ls ms : List lbl} : hidden l = false → Aligned hidden ls ms →
      Aligned hidden (l :: ls) (l :: ms)

/-- Two lists come to the same visible label, one of them after `past` and the
    other after `past'`. -/
structure Meet (hidden : lbl → Bool) (ls ms past past' : List lbl) (l : lbl) : Prop where
  visible : hidden l = false
  left : past ++ [l] <+: ls
  right : past' ++ [l] <+: ms
  same : purge hidden past = purge hidden past'

variable {step : σ → lbl → Option σ} {hidden : lbl → Bool} {puts : σ → lbl → out}

theorem purge_hidden {l : lbl} (ls : List lbl) (hl : hidden l = true) :
    purge hidden (l :: ls) = purge hidden ls := by
  rw [purge, List.filter_cons_of_neg (by simp only [hl, Bool.not_true, Bool.false_eq_true,
    not_false_eq_true]), purge]

theorem purge_visible {l : lbl} (ls : List lbl) (hl : hidden l = false) :
    purge hidden (l :: ls) = l :: purge hidden ls := by
  rw [purge, List.filter_cons_of_pos (by simp only [hl, Bool.not_false]), purge]

theorem outputs_hidden {s s' : σ} {l : lbl} (ls : List lbl) (hl : hidden l = true)
    (h : step s l = some s') : outputs step hidden puts s (l :: ls)
      = outputs step hidden puts s' ls := by
  simp only [outputs, h, hl, if_true]

theorem outputs_visible {s s' : σ} {l : lbl} (ls : List lbl) (hl : hidden l = false)
    (h : step s l = some s') : outputs step hidden puts s (l :: ls)
      = puts s l :: outputs step hidden puts s' ls := by
  simp only [outputs, h, hl, Bool.false_eq_true, if_false]

/-- A list whose labels are all hidden is aligned with the empty one. -/
theorem aligned_nil {ms : List lbl} (h : [] = purge hidden ms) : Aligned hidden [] ms := by
  induction ms with
  | nil => exact .nil
  | cons m ms ih =>
      cases hm : hidden m with
      | true => exact .right hm (ih (h.trans (purge_hidden ms hm)))
      | false => exact absurd (h.trans (purge_visible ms hm)) (List.cons_ne_nil _ _).symm

/-- The hidden labels of the second list come first when the next visible one
    is needed. -/
theorem aligned_cons {l : lbl} {ls ms : List lbl} (hl : hidden l = false)
    (ih : ∀ ns, purge hidden ls = purge hidden ns → Aligned hidden ls ns)
    (h : l :: purge hidden ls = purge hidden ms) : Aligned hidden (l :: ls) ms := by
  induction ms with
  | nil => exact absurd h (List.cons_ne_nil _ _)
  | cons m ms ihm =>
      cases hm : hidden m with
      | true => exact .right hm (ihm (h.trans (purge_hidden ms hm)))
      | false =>
          rw [purge_visible ms hm, List.cons.injEq] at h
          rcases h with ⟨rfl, h⟩
          exact .both hl (ih ms h)

theorem aligned_of_purge {ls ms : List lbl} (h : purge hidden ls = purge hidden ms) :
    Aligned hidden ls ms := by
  induction ls generalizing ms with
  | nil => exact aligned_nil h
  | cons l ls ih =>
      cases hl : hidden l with
      | true => exact .left hl (ih ((purge_hidden ls hl).symm.trans h))
      | false => exact aligned_cons hl (fun _ => ih) ((purge_visible ls hl).symm.trans h)

section Meet

variable {l k : lbl} {ls ms past past' : List lbl}

theorem not_meet_nil : ¬ Meet hidden [] ms past past' k := fun h => by
  rcases List.append_eq_nil_iff.mp (List.prefix_nil.mp h.left) with ⟨_, hk⟩
  exact List.cons_ne_nil _ _ hk

theorem Meet.symm (h : Meet hidden ls ms past past' k) : Meet hidden ms ls past' past k :=
  ⟨h.visible, h.right, h.left, h.same.symm⟩

/-- Past a hidden label, two lists come to the same labels as before. -/
theorem meet_left (hl : hidden l = true) : Meet hidden (l :: ls) ms past past' k ↔
    ∃ p, past = l :: p ∧ Meet hidden ls ms p past' k := by
  constructor
  · intro h
    cases past with
    | nil =>
        rcases List.cons_prefix_cons.mp h.left with ⟨rfl, _⟩
        exact absurd (h.visible.symm.trans hl) Bool.false_ne_true
    | cons a p =>
        rcases List.cons_prefix_cons.mp h.left with ⟨rfl, hp⟩
        exact ⟨p, rfl, h.visible, hp, h.right, (purge_hidden p hl).symm.trans h.same⟩
  · rintro ⟨p, rfl, h⟩
    exact ⟨h.visible, List.cons_prefix_cons.mpr ⟨rfl, h.left⟩, h.right,
      (purge_hidden p hl).trans h.same⟩

theorem meet_right (hl : hidden l = true) : Meet hidden ls (l :: ms) past past' k ↔
    ∃ p', past' = l :: p' ∧ Meet hidden ls ms past p' k := by
  constructor
  · intro h
    rcases (meet_left hl).mp h.symm with ⟨p', rfl, h'⟩
    exact ⟨p', rfl, h'.symm⟩
  · rintro ⟨p', rfl, h⟩
    exact ((meet_left hl).mpr ⟨p', rfl, h.symm⟩).symm

/-- Two lists that begin with the same visible label come to it, and to
    whatever comes after it. -/
theorem meet_both (hl : hidden l = false) : Meet hidden (l :: ls) (l :: ms) past past' k ↔
    (past = [] ∧ past' = [] ∧ k = l) ∨
      ∃ p p', past = l :: p ∧ past' = l :: p' ∧ Meet hidden ls ms p p' k := by
  constructor
  · intro h
    cases past with
    | nil =>
        rcases List.cons_prefix_cons.mp h.left with ⟨rfl, _⟩
        cases past' with
        | nil => exact .inl ⟨rfl, rfl, rfl⟩
        | cons a' p' =>
            -- A label that the other list has fired before would be one more.
            rcases List.cons_prefix_cons.mp h.right with ⟨rfl, _⟩
            exact absurd (h.same.trans (purge_visible p' hl)).symm (List.cons_ne_nil _ _)
    | cons a p =>
        rcases List.cons_prefix_cons.mp h.left with ⟨rfl, hp⟩
        have hsame := (purge_visible p hl).symm.trans h.same
        cases past' with
        | nil => exact absurd hsame (List.cons_ne_nil _ _)
        | cons a' p' =>
            rcases List.cons_prefix_cons.mp h.right with ⟨rfl, hp'⟩
            rw [purge_visible p' hl, List.cons.injEq] at hsame
            exact .inr ⟨p, p', rfl, rfl, h.visible, hp, hp', hsame.2⟩
  · rintro (⟨rfl, rfl, rfl⟩ | ⟨p, p', rfl, rfl, h⟩)
    · exact ⟨hl, List.prefix_append _ _, List.prefix_append _ _, rfl⟩
    · refine ⟨h.visible, List.cons_prefix_cons.mpr ⟨rfl, h.left⟩,
        List.cons_prefix_cons.mpr ⟨rfl, h.right⟩, ?_⟩
      rw [purge_visible p hl, purge_visible p' hl, h.same]

end Meet

/-- The condition holds wherever two runs come to the same visible label. -/
def AtMeets (step : σ → lbl → Option σ) (hidden : lbl → Bool) (P : σ → σ → lbl → Prop)
    (s t : σ) (ls ms : List lbl) : Prop :=
  ∀ past past' l a b, Meet hidden ls ms past past' l → run step s past = some a →
    run step t past' = some b → P a b l

section AtMeets

variable {P : σ → σ → lbl → Prop} {s s' t t' : σ} {l : lbl} {ls ms : List lbl}

theorem atMeets_left (hl : hidden l = true) (h : step s l = some s') :
    AtMeets step hidden P s t (l :: ls) ms ↔ AtMeets step hidden P s' t ls ms := by
  constructor
  · intro hP past past' k a b hmeet ha hb
    refine hP (l :: past) past' k a b ((meet_left hl).mpr ⟨past, rfl, hmeet⟩) ?_ hb
    rw [run_cons, h, Option.bind_some, ha]
  · intro hP past past' k a b hmeet ha hb
    rcases (meet_left hl).mp hmeet with ⟨p, rfl, hrest⟩
    rw [run_cons, h, Option.bind_some] at ha
    exact hP p past' k a b hrest ha hb

theorem atMeets_right (hl : hidden l = true) (h : step t l = some t') :
    AtMeets step hidden P s t ls (l :: ms) ↔ AtMeets step hidden P s t' ls ms := by
  constructor
  · intro hP past past' k a b hmeet ha hb
    refine hP past (l :: past') k a b ((meet_right hl).mpr ⟨past', rfl, hmeet⟩) ha ?_
    rw [run_cons, h, Option.bind_some, hb]
  · intro hP past past' k a b hmeet ha hb
    rcases (meet_right hl).mp hmeet with ⟨p', rfl, hrest⟩
    rw [run_cons, h, Option.bind_some] at hb
    exact hP past p' k a b hrest ha hb

theorem atMeets_both (hl : hidden l = false) (hs : step s l = some s') (ht : step t l = some t') :
    AtMeets step hidden P s t (l :: ls) (l :: ms) ↔
      P s t l ∧ AtMeets step hidden P s' t' ls ms := by
  constructor
  · intro hP
    refine ⟨hP [] [] l s t ((meet_both hl).mpr (.inl ⟨rfl, rfl, rfl⟩)) rfl rfl, ?_⟩
    intro past past' k a b hmeet ha hb
    refine hP (l :: past) (l :: past') k a b
      ((meet_both hl).mpr (.inr ⟨past, past', rfl, rfl, hmeet⟩)) ?_ ?_
    · rw [run_cons, hs, Option.bind_some, ha]
    · rw [run_cons, ht, Option.bind_some, hb]
  · rintro ⟨hl', hP⟩ past past' k a b hmeet ha hb
    rcases (meet_both hl).mp hmeet with ⟨rfl, rfl, rfl⟩ | ⟨p, p', rfl, rfl, hrest⟩
    · rw [run_nil, Option.some.injEq] at ha hb
      exact ha ▸ hb ▸ hl'
    · rw [run_cons, hs, Option.bind_some] at ha
      rw [run_cons, ht, Option.bind_some] at hb
      exact hP p p' k a b hrest ha hb

end AtMeets

/-- Two runs with the same visible labels put out the same exactly when the
    condition holds wherever they come to one. -/
theorem outputs_iff {R : σ → σ → Prop} {P : σ → σ → lbl → Prop}
    (hleft : ∀ s t l s', R s t → hidden l = true → step s l = some s' → R s' t)
    (hright : ∀ s t l t', R s t → hidden l = true → step t l = some t' → R s t')
    (hboth : ∀ s t l s' t', R s t → hidden l = false → step s l = some s' → step t l = some t' →
      (puts s l = puts t l ↔ P s t l) ∧ (P s t l → R s' t'))
    {s t s' t' : σ} {ls ms : List lbl} (h0 : R s t) (hrun : run step s ls = some s')
    (hrun' : run step t ms = some t') (hsame : purge hidden ls = purge hidden ms) :
    outputs step hidden puts s ls = outputs step hidden puts t ms ↔
      AtMeets step hidden P s t ls ms := by
  have haligned := aligned_of_purge hsame
  induction haligned generalizing s t with
  | nil => exact iff_of_true rfl fun _ _ _ _ _ hmeet => absurd hmeet not_meet_nil
  | left hl _ ih =>
      rcases run_cons_some hrun with ⟨m, hm, hrest⟩
      rw [purge_hidden _ hl] at hsame
      rw [outputs_hidden _ hl hm, atMeets_left hl hm]
      exact ih (hleft _ _ _ _ h0 hl hm) hrest hrun' hsame
  | right hl _ ih =>
      rcases run_cons_some hrun' with ⟨n, hn, hrest⟩
      rw [purge_hidden _ hl] at hsame
      rw [outputs_hidden _ hl hn, atMeets_right hl hn]
      exact ih (hright _ _ _ _ h0 hl hn) hrun hrest hsame
  | both hl _ ih =>
      rcases run_cons_some hrun with ⟨m, hm, hrest⟩
      rcases run_cons_some hrun' with ⟨n, hn, hrest'⟩
      rw [purge_visible _ hl, purge_visible _ hl, List.cons.injEq] at hsame
      rcases hboth _ _ _ _ _ h0 hl hm hn with ⟨hputs, hR⟩
      rw [outputs_visible _ hl hm, outputs_visible _ hl hn, List.cons.injEq, hputs,
        atMeets_both hl hm hn]
      -- Past a place where the condition fails, nothing is known of the rest.
      exact and_congr_right fun hP => ih (hR hP) hrest hrest' hsame.2

end Transition
