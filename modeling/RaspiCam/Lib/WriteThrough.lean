import Mathlib.Logic.Function.Basic

/-!
# Write-Through Stores

Somebody keeps values of his own and tells a store about them by writing. What
the store should hold follows from his values; what it does hold is what was
last written. The two are in step when the store holds what it should, in
every place that matters.

Values change and are written by the same operation. `InStep.writeAll` is the
rule for it: the writes are right for the new values, and every place that is
not written should hold what it should have held before. A store nobody wrote
to is in step after writes to every place (`inStep_fresh`).

## Main definitions

* `writeAll`: A store after some writes.
* `InStep`: The store holds what it should.
* `readAs`: A store where what nobody wrote reads as a default.

## Theorems

* `writeAll_other`, `writeAll_agree`: What a place holds after some writes.
* `InStep.writeAll`: Changing values and writing them.
* `inStep_fresh`: Writing everything.
* `InStep.agree`: Two stores that are in step with the same values.
* `readAs_writeAll`: Writing and reading.
-/

namespace WriteThrough

variable {κ ν : Type*} [DecidableEq κ]

/-- A store after some writes. -/
def writeAll (held : κ → Option ν) (ws : List (κ × ν)) : κ → Option ν :=
  ws.foldl (fun m w => Function.update m w.1 (some w.2)) held

/-- The store holds what is wanted, in the places of `S`. -/
def InStep (S : κ → Prop) (want held : κ → Option ν) : Prop :=
  ∀ k v, S k → want k = some v → held k = some v

@[simp] theorem writeAll_nil (held : κ → Option ν) : writeAll held [] = held := rfl

@[simp] theorem writeAll_cons (held : κ → Option ν) (w : κ × ν) (ws : List (κ × ν)) :
    writeAll held (w :: ws) = writeAll (Function.update held w.1 (some w.2)) ws := rfl

theorem writeAll_append (held : κ → Option ν) (ws us : List (κ × ν)) :
    writeAll held (ws ++ us) = writeAll (writeAll held ws) us := List.foldl_append

/-- A place that is not written keeps what it holds. -/
theorem writeAll_other {held : κ → Option ν} {ws : List (κ × ν)} {k : κ}
    (h : ∀ w ∈ ws, w.1 ≠ k) : writeAll held ws k = held k := by
  induction ws generalizing held with
  | nil => rfl
  | cons w ws ih =>
      rw [writeAll_cons, ih fun u hu => h u (List.mem_cons_of_mem w hu)]
      exact Function.update_of_ne (h w List.mem_cons_self).symm _ _

/-- Writing does not look at the other places. -/
theorem writeAll_congr {held held' : κ → Option ν} {ws : List (κ × ν)} {k : κ}
    (h : held k = held' k) : writeAll held ws k = writeAll held' ws k := by
  induction ws generalizing held held' with
  | nil => exact h
  | cons w ws ih =>
      rw [writeAll_cons, writeAll_cons]
      refine ih ?_
      by_cases hk : k = w.1
      · rw [hk, Function.update_self, Function.update_self]
      · rw [Function.update_of_ne hk, Function.update_of_ne hk, h]

/-- A place that is written with one value only holds it. -/
theorem writeAll_agree {held : κ → Option ν} {ws : List (κ × ν)} {k : κ} {v : ν}
    (hv : ∀ w ∈ ws, w.1 = k → w.2 = v) (hk : (∃ w ∈ ws, w.1 = k) ∨ held k = some v) :
    writeAll held ws k = some v := by
  induction ws generalizing held with
  | nil =>
      rcases hk with ⟨w, hw, _⟩ | hk
      · exact absurd hw List.not_mem_nil
      · exact hk
  | cons w ws ih =>
      rw [writeAll_cons]
      refine ih (fun u hu => hv u (List.mem_cons_of_mem w hu)) ?_
      by_cases hwk : w.1 = k
      · refine Or.inr ?_
        rw [← hwk, Function.update_self, hv w List.mem_cons_self hwk]
      · rcases hk with ⟨u, hu, huk⟩ | hk
        · rcases List.mem_cons.mp hu with rfl | hu
          · exact absurd huk hwk
          · exact Or.inl ⟨u, hu, huk⟩
        · exact Or.inr ((Function.update_of_ne (fun h => hwk h.symm) _ _).trans hk)

/-- Values change and are written: the writes are right, and a place that is
    not written should hold what it should have held before. -/
theorem InStep.writeAll {S : κ → Prop} {want want' held : κ → Option ν} {ws : List (κ × ν)}
    (h : InStep S want held) (hws : ∀ w ∈ ws, want' w.1 = some w.2)
    (hrest : ∀ k, S k → (∀ w ∈ ws, w.1 ≠ k) → want' k = want k) :
    InStep S want' (writeAll held ws) := by
  intro k v hk hv
  by_cases hin : ∃ w ∈ ws, w.1 = k
  · refine writeAll_agree (fun w hw hwk => ?_) (Or.inl hin)
    have hwv := hws w hw
    rw [hwk, hv, Option.some.injEq] at hwv
    exact hwv.symm
  · have hout : ∀ w ∈ ws, w.1 ≠ k := fun w hw hwk => hin ⟨w, hw, hwk⟩
    rw [writeAll_other hout]
    exact h k v hk ((hrest k hk hout).symm.trans hv)

/-- Whatever a store holds, it is in step once everything was written. -/
theorem inStep_fresh {S : κ → Prop} {want held : κ → Option ν} {ws : List (κ × ν)}
    (hws : ∀ w ∈ ws, want w.1 = some w.2)
    (hrest : ∀ k, S k → (∀ w ∈ ws, w.1 ≠ k) → want k = none) :
    InStep S want (writeAll held ws) := by
  have hnothing : InStep S (fun _ => none) held :=
    fun _ _ _ hv => absurd hv (Option.some_ne_none _).symm
  exact hnothing.writeAll hws hrest

omit [DecidableEq κ] in
/-- Other values that should be held in no other way. -/
theorem InStep.congr {S : κ → Prop} {want want' held held' : κ → Option ν}
    (h : InStep S want held) (hwant : ∀ k, S k → want' k = want k)
    (hheld : ∀ k v, S k → want k = some v → held' k = held k) : InStep S want' held' := by
  intro k v hk hv
  have hold := (hwant k hk).symm.trans hv
  exact (hheld k v hk hold).trans (h k v hk hold)

omit [DecidableEq κ] in
/-- Two stores that are in step with the same values are the same, if they are
    where nothing is wanted. -/
theorem InStep.agree {S : κ → Prop} {want held held' : κ → Option ν} (h : InStep S want held)
    (h' : InStep S want held') (hrest : ∀ k, S k → want k = none → held k = held' k) {k : κ}
    (hk : S k) : held k = held' k := by
  cases hv : want k with
  | none => exact hrest k hk hv
  | some v => exact (h k v hk hv).trans (h' k v hk hv).symm

/-- A store where what nobody wrote reads as a default. -/
def readAs (default held : κ → Option ν) : κ → Option ν := fun k => (held k).or (default k)

omit [DecidableEq κ] in
/-- Where nothing was written the default is read. -/
theorem readAs_of_none {default held : κ → Option ν} {k : κ} (h : held k = none) :
    readAs default held k = default k := by
  rw [readAs, h, Option.none_or]

/-- Writing and reading. -/
theorem readAs_writeAll (default held : κ → Option ν) (ws : List (κ × ν)) :
    readAs default (writeAll held ws) = writeAll (readAs default held) ws := by
  induction ws generalizing held with
  | nil => rfl
  | cons w ws ih =>
      rw [writeAll_cons, writeAll_cons, ih]
      refine congrArg (writeAll · ws) (funext fun k => ?_)
      by_cases hk : k = w.1
      · rw [hk, Function.update_self, readAs, Function.update_self, Option.some_or]
      · rw [Function.update_of_ne hk, readAs, Function.update_of_ne hk, readAs]

end WriteThrough
