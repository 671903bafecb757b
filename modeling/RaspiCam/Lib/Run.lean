import Mathlib.Data.List.Induction

/-!
# Runs of a Step Function

A system is a step function `σ → lbl → Option σ`: the label says who moves
and what the environment answers, and `none` says that the label is not
enabled. A run fires a list of labels in order.

Three kinds of facts are carried along a run. An invariant speaks about
states and is carried by `run_invariant`. A history invariant also sees the
labels fired so far, and is carried by `run_history`; a statement of the
form "this happened because that happened before" is one of those. A
condition on the steps themselves is `Along`, and `run_invariant_along` is
the rule for systems that only behave when every step meets a condition.

`always_iff_along` is the exact version of that rule. When a condition is
not only enough for one step to keep the invariant but also needed, the runs
that keep the invariant throughout are exactly the runs whose steps all meet
the condition.

## Main definitions

* `run`: Firing a list of labels.
* `Along`: Every step of a run satisfies a predicate.
* `AlongPast`: The same with the labels fired before the step.
* `Always`: Every state of a run satisfies a predicate.
* `Throughout`: Every label satisfies a predicate, enabled or not.

## Theorems

* `run_append`: A run splits at any point.
* `run_concat`: A run ending in one more label.
* `run_invariant`: Carrying an invariant along a run.
* `run_history`: Carrying a fact about the labels fired so far.
* `run_history_forall`: Carrying it when every label meets a condition.
* `run_invariant_along`: Carrying an invariant when every step meets a
  condition.
* `along_of_forall`: A condition on labels alone.
* `always_last`: The last state of a run is one of its states.
* `always_iff_along`, `always_iff_alongPast`: The runs that keep an invariant,
  exactly.
* `always_iff_last`: A property that is never regained.
* `always_strengthen`: Assuming one invariant with another.
* `always_of_along`: The runs whose steps all meet a sufficient condition.
* `always_of_step`: An invariant of every step.
* `throughout_along`, `throughout_of`: A condition on labels that gives
  another one.
* `throughout_of_always`: A condition on labels that an invariant gives.
* `run_of_throughout`: A run that is never stuck.
* `run_length_le`: A run that has to end.
* `along_and`, `along_congr`, `along_of_always`: Conditions that follow from an invariant.
-/

namespace Transition

variable {σ lbl : Type*}

/-- Fire the labels in order, or `none` if one of them is not enabled. -/
def run (step : σ → lbl → Option σ) : σ → List lbl → Option σ
  | s, [] => some s
  | s, l :: ls => match step s l with
    | none => none
    | some s' => run step s' ls

/-- Every step the run takes satisfies `P`. -/
def Along (step : σ → lbl → Option σ) (P : σ → lbl → Prop) : σ → List lbl → Prop
  | _, [] => True
  | s, l :: ls => ∀ s', step s l = some s' → P s l ∧ Along step P s' ls

/-- Every step the run takes satisfies `P`, which may look at the labels fired
    before it. -/
def AlongPast (step : σ → lbl → Option σ) (P : List lbl → σ → lbl → Prop) :
    List lbl → σ → List lbl → Prop
  | _, _, [] => True
  | past, s, l :: ls =>
      ∀ s', step s l = some s' → P past s l ∧ AlongPast step P (past ++ [l]) s' ls

/-- Every state the run passes through satisfies `P`, both ends included. -/
def Always (step : σ → lbl → Option σ) (P : σ → Prop) : σ → List lbl → Prop
  | s, [] => P s
  | s, l :: ls => P s ∧ ∀ s', step s l = some s' → Always step P s' ls

/-- Every label of the list satisfies `P` where it comes up, enabled or not. -/
def Throughout (step : σ → lbl → Option σ) (P : σ → lbl → Prop) : σ → List lbl → Prop
  | _, [] => True
  | s, l :: ls => P s l ∧ ∀ s', step s l = some s' → Throughout step P s' ls

variable {step : σ → lbl → Option σ}

@[simp] theorem run_nil (s : σ) : run step s [] = some s := rfl

theorem run_cons (s : σ) (l : lbl) (ls : List lbl) :
    run step s (l :: ls) = (step s l).bind (fun s' => run step s' ls) := by
  simp only [run]
  cases step s l with
  | none => rfl
  | some s' => rfl

theorem run_cons_some {s s' : σ} {l : lbl} {ls : List lbl} (h : run step s (l :: ls) = some s') :
    ∃ m, step s l = some m ∧ run step m ls = some s' := by
  rw [run_cons, Option.bind_eq_some_iff] at h
  exact h

theorem run_append (s : σ) (ls ms : List lbl) :
    run step s (ls ++ ms) = (run step s ls).bind (fun s' => run step s' ms) := by
  induction ls generalizing s with
  | nil => rfl
  | cons l ls ih =>
      rw [List.cons_append, run_cons, run_cons]
      cases step s l with
      | none => rfl
      | some m => exact ih m

theorem run_append_some {s s' : σ} {ls ms : List lbl} (h : run step s (ls ++ ms) = some s') :
    ∃ m, run step s ls = some m ∧ run step m ms = some s' := by
  rw [run_append, Option.bind_eq_some_iff] at h
  exact h

theorem run_concat {s s' : σ} {ls : List lbl} {l : lbl} (h : run step s (ls ++ [l]) = some s') :
    ∃ m, run step s ls = some m ∧ step m l = some s' := by
  rcases run_append_some h with ⟨m, hm, hl⟩
  rcases run_cons_some hl with ⟨t, ht, hnil⟩
  rw [run_nil, Option.some.injEq] at hnil
  exact ⟨m, hm, hnil ▸ ht⟩

theorem run_of_prefix {s s' : σ} {ls ms : List lbl} {l : lbl} (hpre : ls ++ [l] <+: ms)
    (h : run step s ms = some s') : ∃ m, run step s ls = some m := by
  rcases hpre with ⟨ns, rfl⟩
  rcases run_append_some h with ⟨t, ht, _⟩
  rcases run_append_some ht with ⟨m, hm, _⟩
  exact ⟨m, hm⟩

/-- Carrying an invariant along a run. -/
theorem run_invariant {Inv : σ → Prop}
    (hstep : ∀ s l s', Inv s → step s l = some s' → Inv s')
    {s s' : σ} {ls : List lbl} (h0 : Inv s) (h : run step s ls = some s') : Inv s' := by
  induction ls generalizing s with
  | nil =>
      rw [run_nil, Option.some.injEq] at h
      exact h ▸ h0
  | cons l ls ih =>
      rcases run_cons_some h with ⟨m, hm, hrest⟩
      exact ih (hstep s l m h0 hm) hrest

/-- Carrying a fact about the labels fired so far. The induction is on the
    run read from its end, since a history grows there. -/
theorem run_history {I : List lbl → σ → Prop}
    (hstep : ∀ ls s l s', I ls s → step s l = some s' → I (ls ++ [l]) s')
    {s s' : σ} {ls : List lbl} (h0 : I [] s) (h : run step s ls = some s') : I ls s' := by
  induction ls using List.reverseRecOn generalizing s' with
  | nil =>
      rw [run_nil, Option.some.injEq] at h
      exact h ▸ h0
  | append_singleton ls l ih =>
      rcases run_concat h with ⟨m, hm, hl⟩
      exact hstep ls m l s' (ih hm) hl

/-- Carrying a fact about the labels fired so far, when every label of the run
    meets a condition. -/
theorem run_history_forall {I : List lbl → σ → Prop} {P : lbl → Prop}
    (hstep : ∀ ls s l s', P l → I ls s → step s l = some s' → I (ls ++ [l]) s')
    {s s' : σ} {ls : List lbl} (h0 : I [] s) (hP : ∀ l ∈ ls, P l)
    (h : run step s ls = some s') : I ls s' := by
  refine run_history (I := fun ls s => (∀ l ∈ ls, P l) → I ls s) ?_ (fun _ => h0) h hP
  intro ls s l s' ih hs hls
  exact hstep ls s l s' (hls l (List.mem_append_right _ List.mem_cons_self))
    (ih fun k hk => hls k (List.mem_append_left _ hk)) hs

/-- A run has to end if every label it may have makes a measure smaller. -/
theorem run_length_le {m : σ → Nat} {P : lbl → Prop}
    (hstep : ∀ s l s', P l → step s l = some s' → m s' < m s)
    {s s' : σ} {ls : List lbl} (hP : ∀ l ∈ ls, P l) (h : run step s ls = some s') :
    ls.length + m s' ≤ m s := by
  induction ls generalizing s with
  | nil =>
      rw [run_nil, Option.some.injEq] at h
      simp [h]
  | cons l ls ih =>
      rcases run_cons_some h with ⟨t, ht, hrest⟩
      have hless := hstep s l t (hP l List.mem_cons_self) ht
      have hmore := ih (fun k hk => hP k (List.mem_cons_of_mem l hk)) hrest
      rw [List.length_cons]
      omega

/-- Carrying an invariant along a run whose steps all meet a condition. -/
theorem run_invariant_along {Inv : σ → Prop} {P : σ → lbl → Prop}
    (hstep : ∀ s l s', Inv s → P s l → step s l = some s' → Inv s')
    {s s' : σ} {ls : List lbl} (h0 : Inv s) (hP : Along step P s ls)
    (h : run step s ls = some s') : Inv s' := by
  induction ls generalizing s with
  | nil =>
      rw [run_nil, Option.some.injEq] at h
      exact h ▸ h0
  | cons l ls ih =>
      rcases run_cons_some h with ⟨m, hm, hrest⟩
      have hl := hP m hm
      exact ih (hstep s l m h0 hl.1 hm) hl.2 hrest

/-- A condition that every label of the list meets on its own. -/
theorem along_of_forall {P : σ → lbl → Prop} {s : σ} {ls : List lbl}
    (h : ∀ l ∈ ls, ∀ t, P t l) : Along step P s ls := by
  induction ls generalizing s with
  | nil => trivial
  | cons l ls ih =>
      intro s' _
      exact ⟨h l List.mem_cons_self s, ih (fun k hk => h k (List.mem_cons_of_mem l hk))⟩

theorem always_last {P : σ → Prop} {s s' : σ} {ls : List lbl}
    (h : Always step P s ls) (hrun : run step s ls = some s') : P s' := by
  induction ls generalizing s with
  | nil =>
      rw [run_nil, Option.some.injEq] at hrun
      exact hrun ▸ h
  | cons l ls ih =>
      rcases run_cons_some hrun with ⟨m, hm, hrest⟩
      exact ih (h.2 m hm) hrest

/-- A property that is never regained holds throughout a run exactly when it
    holds at its end. -/
theorem always_iff_last {P : σ → Prop} (hback : ∀ s l s', step s l = some s' → P s' → P s)
    {s s' : σ} {ls : List lbl} (h : run step s ls = some s') : Always step P s ls ↔ P s' := by
  refine ⟨fun ha => always_last ha h, fun hs' => ?_⟩
  induction ls generalizing s with
  | nil =>
      rw [run_nil, Option.some.injEq] at h
      exact h ▸ hs'
  | cons l ls ih =>
      rcases run_cons_some h with ⟨m, hm, hrest⟩
      have hrec := ih hrest
      refine ⟨hback s l m hm ?_, fun t ht => ?_⟩
      · cases ls with
        | nil => exact hrec
        | cons k ks => exact hrec.1
      · rw [hm, Option.some.injEq] at ht
        exact ht ▸ hrec

theorem always_head {P : σ → Prop} {s : σ} {ls : List lbl} (h : Always step P s ls) : P s := by
  cases ls with
  | nil => exact h
  | cons l ls => exact h.1

/-- When a condition is both needed and enough for one step to keep the
    invariant, the runs that keep it throughout are exactly the runs whose
    steps all meet the condition. -/
theorem always_iff_along {Inv : σ → Prop} {P : σ → lbl → Prop}
    (hstep : ∀ s l s', Inv s → step s l = some s' → (Inv s' ↔ P s l))
    {s : σ} {ls : List lbl} (h0 : Inv s) : Always step Inv s ls ↔ Along step P s ls := by
  induction ls generalizing s with
  | nil => exact ⟨fun _ => trivial, fun _ => h0⟩
  | cons l ls ih =>
      constructor
      · intro h s' hs'
        have hinv : Inv s' := always_head (h.2 s' hs')
        exact ⟨(hstep s l s' h0 hs').mp hinv, (ih hinv).mp (h.2 s' hs')⟩
      · intro h
        refine ⟨h0, fun s' hs' => ?_⟩
        have hl := h s' hs'
        exact (ih ((hstep s l s' h0 hs').mpr hl.1)).mpr hl.2

/-- So it is with a condition on the labels fired so far, which the states of
    the run keep track of. -/
theorem always_iff_alongPast {I : List lbl → σ → Prop} {Inv : σ → Prop}
    {P : List lbl → σ → lbl → Prop}
    (hI : ∀ past s l s', I past s → step s l = some s' → I (past ++ [l]) s')
    (hstep : ∀ past s l s', I past s → Inv s → step s l = some s' → (Inv s' ↔ P past s l))
    {past : List lbl} {s : σ} {ls : List lbl} (h0 : I past s) (hs : Inv s) :
    Always step Inv s ls ↔ AlongPast step P past s ls := by
  induction ls generalizing past s with
  | nil => exact ⟨fun _ => trivial, fun _ => hs⟩
  | cons l ls ih =>
      constructor
      · intro h s' hs'
        have hinv : Inv s' := always_head (h.2 s' hs')
        exact ⟨(hstep past s l s' h0 hs hs').mp hinv,
          (ih (hI past s l s' h0 hs') hinv).mp (h.2 s' hs')⟩
      · intro h
        refine ⟨hs, fun s' hs' => ?_⟩
        have hl := h s' hs'
        exact (ih (hI past s l s' h0 hs') ((hstep past s l s' h0 hs hs').mpr hl.1)).mpr hl.2

/-- Two conditions that agree on the states of an invariant hold along the
    same runs that keep it. -/
theorem along_congr {Inv : σ → Prop} {P Q : σ → lbl → Prop}
    (hPQ : ∀ s l, Inv s → (P s l ↔ Q s l)) {s : σ} {ls : List lbl}
    (h : Always step Inv s ls) : Along step P s ls ↔ Along step Q s ls := by
  induction ls generalizing s with
  | nil => exact Iff.rfl
  | cons l ls ih =>
      have hs : Inv s := h.1
      constructor
      · intro hP s' hs'
        exact ⟨(hPQ s l hs).mp (hP s' hs').1, (ih (h.2 s' hs')).mp (hP s' hs').2⟩
      · intro hQ s' hs'
        exact ⟨(hPQ s l hs).mpr (hQ s' hs').1, (ih (h.2 s' hs')).mpr (hQ s' hs').2⟩

/-- A condition that every enabled step from a state of an invariant meets. -/
theorem along_of_always {Inv : σ → Prop} {P : σ → lbl → Prop}
    (hP : ∀ s l s', Inv s → step s l = some s' → P s l) {s : σ} {ls : List lbl}
    (h : Always step Inv s ls) : Along step P s ls := by
  induction ls generalizing s with
  | nil => trivial
  | cons l ls ih =>
      intro s' hs'
      exact ⟨hP s l s' h.1 hs', ih (h.2 s' hs')⟩

/-- When a condition is enough for one step to keep the invariant, every state
    of a run whose steps all meet it satisfies the invariant. -/
theorem always_of_along {Inv : σ → Prop} {P : σ → lbl → Prop}
    (hstep : ∀ s l s', Inv s → P s l → step s l = some s' → Inv s')
    {s : σ} {ls : List lbl} (h0 : Inv s) (hP : Along step P s ls) : Always step Inv s ls := by
  induction ls generalizing s with
  | nil => exact h0
  | cons l ls ih =>
      refine ⟨h0, fun s' hs' => ?_⟩
      have hl := hP s' hs'
      exact ih (hstep s l s' h0 hl.1 hs') hl.2

/-- An invariant of every step holds of every state of every run. -/
theorem always_of_step {Inv : σ → Prop} (hstep : ∀ s l s', Inv s → step s l = some s' → Inv s')
    {s : σ} (h0 : Inv s) (ls : List lbl) : Always step Inv s ls :=
  always_of_along (P := fun _ _ => True) (fun s l s' hs _ => hstep s l s' hs) h0
    (along_of_forall fun _ _ _ => trivial)

theorem always_mono {P Q : σ → Prop} (hPQ : ∀ s, P s → Q s) {s : σ} {ls : List lbl}
    (h : Always step P s ls) : Always step Q s ls := by
  induction ls generalizing s with
  | nil => exact hPQ s h
  | cons l ls ih => exact ⟨hPQ s h.1, fun s' hs' => ih (h.2 s' hs')⟩

/-- An invariant of the runs that keep another one may be assumed with it. -/
theorem always_strengthen {I J : σ → Prop}
    (hJ : ∀ s l s', J s → I s → step s l = some s' → I s' → J s') {s : σ} {ls : List lbl}
    (h0 : J s) :
    Always step I s ls ↔ Always step (fun t => J t ∧ I t) s ls := by
  induction ls generalizing s with
  | nil => exact ⟨fun h => ⟨h0, h⟩, fun h => h.2⟩
  | cons l ls ih =>
      constructor
      · intro h
        exact ⟨⟨h0, h.1⟩,
          fun s' hs' => (ih (hJ s l s' h0 h.1 hs' (always_head (h.2 s' hs')))).mp (h.2 s' hs')⟩
      · intro h
        exact ⟨h.1.2, fun s' hs' =>
          (ih (hJ s l s' h0 h.1.2 hs' (always_head (h.2 s' hs')).2)).mpr (h.2 s' hs')⟩

theorem along_and {P Q : σ → lbl → Prop} {s : σ} {ls : List lbl} :
    Along step (fun t l => P t l ∧ Q t l) s ls ↔ Along step P s ls ∧ Along step Q s ls := by
  induction ls generalizing s with
  | nil => exact ⟨fun _ => ⟨trivial, trivial⟩, fun _ => trivial⟩
  | cons l ls ih =>
      constructor
      · intro h
        exact ⟨fun s' hs' => ⟨(h s' hs').1.1, (ih.mp (h s' hs').2).1⟩,
          fun s' hs' => ⟨(h s' hs').1.2, (ih.mp (h s' hs').2).2⟩⟩
      · rintro ⟨hP, hQ⟩ s' hs'
        exact ⟨⟨(hP s' hs').1, (hQ s' hs').1⟩, ih.mpr ⟨(hP s' hs').2, (hQ s' hs').2⟩⟩

/-- A condition on labels that gives another one in the states of an
    invariant, and is enough for one step to keep the invariant. -/
theorem throughout_along {Inv : σ → Prop} {P Q : σ → lbl → Prop}
    (hstep : ∀ s l s', Inv s → P s l → step s l = some s' → Inv s')
    (hPQ : ∀ s l, Inv s → P s l → Q s l) {s : σ} {ls : List lbl} (h0 : Inv s)
    (h : Throughout step P s ls) : Throughout step Q s ls := by
  induction ls generalizing s with
  | nil => trivial
  | cons l ls ih =>
      exact ⟨hPQ s l h0 h.1, fun s' hs' => ih (hstep s l s' h0 h.1 hs') (h.2 s' hs')⟩

/-- So it is when the invariant is kept anyway. -/
theorem throughout_of {Inv : σ → Prop} {P Q : σ → lbl → Prop}
    (hstep : ∀ s l s', Inv s → step s l = some s' → Inv s') (hPQ : ∀ s l, Inv s → P s l → Q s l)
    {s : σ} {ls : List lbl} (h0 : Inv s) (h : Throughout step P s ls) : Throughout step Q s ls :=
  throughout_along (fun s l s' hs _ => hstep s l s' hs) hPQ h0 h

/-- What an invariant implies holds of every label. -/
theorem throughout_of_always {Inv : σ → Prop} {P : σ → lbl → Prop}
    (hP : ∀ s l, Inv s → P s l) {s : σ} {ls : List lbl} (h : Always step Inv s ls) :
    Throughout step P s ls := by
  induction ls generalizing s with
  | nil => trivial
  | cons l ls ih => exact ⟨hP s l h.1, fun s' hs' => ih (h.2 s' hs')⟩

/-- When the condition makes every label enabled, the run goes through. -/
theorem run_of_throughout {P : σ → lbl → Prop} (hP : ∀ s l, P s l → ∃ s', step s l = some s')
    {s : σ} {ls : List lbl} (h : Throughout step P s ls) : ∃ s', run step s ls = some s' := by
  induction ls generalizing s with
  | nil => exact ⟨s, rfl⟩
  | cons l ls ih =>
      rcases hP s l h.1 with ⟨m, hm⟩
      rcases ih (h.2 m hm) with ⟨t, ht⟩
      exact ⟨t, by rw [run_cons, hm, Option.bind_some, ht]⟩

/-- A decidable condition can be checked along a given run. -/
instance decidableAlong (step : σ → lbl → Option σ) (P : σ → lbl → Prop)
    [∀ s l, Decidable (P s l)] : ∀ s ls, Decidable (Along step P s ls)
  | _, [] => isTrue trivial
  | s, l :: ls =>
    match hs : step s l with
    | none =>
      isTrue (fun s' hs' => by rw [hs] at hs'; exact absurd hs' (Option.some_ne_none s').symm)
    | some m =>
      have := decidableAlong step P m ls
      if hP : P s l ∧ Along step P m ls then
        isTrue (fun s' hs' => by rw [hs, Option.some.injEq] at hs'; exact hs' ▸ hP)
      else isFalse (fun h => hP (h m hs))

/-- So can one that labels have to meet, enabled or not. -/
instance decidableThroughout (step : σ → lbl → Option σ) (P : σ → lbl → Prop)
    [∀ s l, Decidable (P s l)] : ∀ s ls, Decidable (Throughout step P s ls)
  | _, [] => isTrue trivial
  | s, l :: ls =>
    match hs : step s l with
    | none => if hP : P s l then
        isTrue ⟨hP, fun s' hs' => by
          rw [hs] at hs'
          exact absurd hs' (Option.some_ne_none s').symm⟩
      else isFalse (fun h => hP h.1)
    | some m =>
      have := decidableThroughout step P m ls
      if hP : P s l ∧ Throughout step P m ls then
        isTrue ⟨hP.1, fun s' hs' => by rw [hs, Option.some.injEq] at hs'; exact hs' ▸ hP.2⟩
      else isFalse (fun h => hP ⟨h.1, h.2 m hs⟩)

end Transition
