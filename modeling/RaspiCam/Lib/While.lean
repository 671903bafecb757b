import Mathlib.Data.Nat.Basic

/-!
# While Loops

A loop is a test and a body on a type of states. The body is `none` where what
it does is undefined. Running a loop takes fuel, one unit for every round, and
gives the state it is left in, or `none` when the fuel does not reach or a
round is undefined. A loop ends when some amount of fuel is enough, and goes on
forever when it makes any number of rounds. It may do neither: then it comes to
a round that is undefined.

`ends_of_variant` is the rule for loops that end: an invariant, under which
every round is defined and decreases a variant. `forever_of_stays` is the rule
for those that go on: a set of states in which the test succeeds, and which no
round leaves.

## Main definitions

* `Loop`: A test and a body.
* `Loop.exec`: Running a loop.
* `Loop.Ends`: The state a loop ends in.
* `Loop.rounds`, `Loop.Forever`: A loop that goes on forever.

## Theorems

* `ends_exit`, `ends_round`: What the test and one round come to.
* `ends_of_variant`: A loop with a variant ends.
* `forever_of_stays`: A loop that stays where its test succeeds goes on.
* `Loop.Forever.not_ends`: A loop that goes on does not end.
-/

namespace While

variable {σ : Type*}

/-- A `while` loop. The body is `none` where it is undefined. -/
structure Loop (σ : Type*) where
  test : σ → Bool
  body : σ → Option σ

/-- Run the loop, for as many rounds as there is fuel. -/
def Loop.exec (l : Loop σ) : Nat → σ → Option σ
  | 0, s => if l.test s then none else some s
  | fuel + 1, s => if l.test s then (l.body s).bind (l.exec fuel) else some s

/-- The loop ends in `t`. -/
def Loop.Ends (l : Loop σ) (s t : σ) : Prop := ∃ fuel, l.exec fuel s = some t

/-- Make a number of rounds, or `none` when the loop does not make as many. -/
def Loop.rounds (l : Loop σ) : Nat → σ → Option σ
  | 0, s => some s
  | n + 1, s => if l.test s then (l.body s).bind (l.rounds n) else none

/-- The loop goes on forever. -/
def Loop.Forever (l : Loop σ) (s : σ) : Prop := ∀ n, ∃ t, l.rounds n s = some t

variable {l : Loop σ}

theorem exec_exit (fuel : Nat) {s : σ} (h : l.test s = false) : l.exec fuel s = some s := by
  cases fuel with
  | zero => rw [Loop.exec, h, if_neg Bool.false_ne_true]
  | succ fuel => rw [Loop.exec, h, if_neg Bool.false_ne_true]

theorem exec_zero {s : σ} (h : l.test s = true) : l.exec 0 s = none := by
  rw [Loop.exec, if_pos h]

theorem exec_round (fuel : Nat) {s : σ} (h : l.test s = true) :
    l.exec (fuel + 1) s = (l.body s).bind (l.exec fuel) := by
  rw [Loop.exec, if_pos h]

/-- A loop whose test fails ends where it is. -/
theorem ends_exit {s t : σ} (h : l.test s = false) : l.Ends s t ↔ t = s := by
  constructor
  · rintro ⟨fuel, hfuel⟩
    rw [exec_exit fuel h] at hfuel
    exact (Option.some.inj hfuel).symm
  · rintro rfl
    exact ⟨0, exec_exit 0 h⟩

/-- A loop whose test succeeds ends where it does after one round. -/
theorem ends_round {s t : σ} (h : l.test s = true) :
    l.Ends s t ↔ ∃ m, l.body s = some m ∧ l.Ends m t := by
  constructor
  · rintro ⟨fuel, hfuel⟩
    cases fuel with
    | zero =>
        rw [exec_zero h] at hfuel
        exact absurd hfuel.symm (Option.some_ne_none t)
    | succ fuel =>
        rw [exec_round fuel h] at hfuel
        rcases Option.bind_eq_some_iff.mp hfuel with ⟨m, hm, hrest⟩
        exact ⟨m, hm, fuel, hrest⟩
  · rintro ⟨m, hm, fuel, hfuel⟩
    exact ⟨fuel + 1, by rw [exec_round fuel h, hm, Option.bind_some, hfuel]⟩

/-- A loop ends, and with its invariant, when every round is defined, keeps the
    invariant and decreases a variant. -/
theorem ends_of_variant {Inv : σ → Prop} (V : σ → Nat)
    (hround : ∀ s, Inv s → l.test s = true → ∃ m, l.body s = some m ∧ Inv m ∧ V m < V s)
    {s : σ} (h : Inv s) : ∃ t, l.Ends s t ∧ Inv t ∧ l.test t = false := by
  -- The induction is on a bound of the variant, which every round lowers.
  have hbound : ∀ n s, V s ≤ n → Inv s → ∃ t, l.Ends s t ∧ Inv t ∧ l.test t = false := by
    intro n
    induction n with
    | zero =>
        intro s hV hs
        cases htest : l.test s with
        | false => exact ⟨s, (ends_exit htest).mpr rfl, hs, htest⟩
        | true =>
            rcases hround s hs htest with ⟨m, _, _, hlt⟩
            omega
    | succ n ih =>
        intro s hV hs
        cases htest : l.test s with
        | false => exact ⟨s, (ends_exit htest).mpr rfl, hs, htest⟩
        | true =>
            rcases hround s hs htest with ⟨m, hm, hinv, hlt⟩
            rcases ih m (by omega) hinv with ⟨t, ht, hrest⟩
            exact ⟨t, (ends_round htest).mpr ⟨m, hm, ht⟩, hrest⟩
  exact hbound (V s) s (Nat.le_refl _) h

theorem rounds_succ (n : Nat) {s : σ} (h : l.test s = true) :
    l.rounds (n + 1) s = (l.body s).bind (l.rounds n) := by
  rw [Loop.rounds, if_pos h]

theorem not_forever_exit {s : σ} (h : l.test s = false) : ¬ l.Forever s := by
  intro hall
  rcases hall 1 with ⟨t, ht⟩
  rw [Loop.rounds, h, if_neg Bool.false_ne_true] at ht
  exact absurd ht.symm (Option.some_ne_none t)

/-- A loop whose test succeeds goes on when it does after one round. -/
theorem forever_round {s : σ} (h : l.test s = true) :
    l.Forever s ↔ ∃ m, l.body s = some m ∧ l.Forever m := by
  constructor
  · intro hall
    rcases hall 1 with ⟨t, ht⟩
    rw [rounds_succ 0 h] at ht
    rcases Option.bind_eq_some_iff.mp ht with ⟨m, hm, _⟩
    refine ⟨m, hm, fun n => ?_⟩
    rcases hall (n + 1) with ⟨u, hu⟩
    rw [rounds_succ n h, hm, Option.bind_some] at hu
    exact ⟨u, hu⟩
  · rintro ⟨m, hm, hall⟩ n
    cases n with
    | zero => exact ⟨s, rfl⟩
    | succ n =>
        rcases hall n with ⟨u, hu⟩
        exact ⟨u, by rw [rounds_succ n h, hm, Option.bind_some, hu]⟩

/-- A loop goes on forever when its test succeeds throughout a set of states
    in which every round is defined, and that no round leaves. -/
theorem forever_of_stays {Stays : σ → Prop}
    (hround : ∀ s, Stays s → l.test s = true ∧ ∃ m, l.body s = some m ∧ Stays m) {s : σ}
    (h : Stays s) : l.Forever s := by
  intro n
  induction n generalizing s with
  | zero => exact ⟨s, rfl⟩
  | succ n ih =>
      rcases hround s h with ⟨htest, m, hm, hstays⟩
      rcases ih hstays with ⟨t, ht⟩
      exact ⟨t, by rw [rounds_succ n htest, hm, Option.bind_some, ht]⟩

theorem Loop.Forever.not_ends {s : σ} (h : l.Forever s) (t : σ) : ¬ l.Ends s t := by
  rintro ⟨fuel, hfuel⟩
  induction fuel generalizing s with
  | zero =>
      cases htest : l.test s with
      | false => exact not_forever_exit htest h
      | true =>
          rw [exec_zero htest] at hfuel
          exact absurd hfuel.symm (Option.some_ne_none t)
  | succ fuel ih =>
      cases htest : l.test s with
      | false => exact not_forever_exit htest h
      | true =>
          rcases (forever_round htest).mp h with ⟨m, hm, hrest⟩
          rw [exec_round fuel htest, hm, Option.bind_some] at hfuel
          exact ih hrest hfuel

end While
