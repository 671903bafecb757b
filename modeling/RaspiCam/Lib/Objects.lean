import Mathlib.Data.Option.Basic

/-!
# Objects and What They Answer

An object is a function that takes a call and gives an answer, or does not
come back. Two objects are compared by their answers to the same calls: one
implements the other when a caller cannot tell them apart.

The caller usually has to keep to a contract, which speaks of the state of the
object that is implemented, since this is the one a caller knows about. The
rule is the one of data refinement. A relation between the two states that
every call within the contract keeps, with the same answer on both sides,
makes all the answers the same, `answers_eq`.

## Main definitions

* `answers`: What an object answers to a list of calls.
* `Keeps`: The calls keep to a contract.
* `Agree`: Two calls come to the same, up to a relation of the states.

## Theorems

* `answers_eq`: The same answers from related states.
* `Keeps.mono`: A weaker contract.
-/

namespace Objects

variable {σ τ call out : Type*}

/-- The answers to a list of calls. Nothing is answered after a call that does
    not come back. -/
def answers (act : σ → call → Option (σ × out)) : σ → List call → List (Option out)
  | _, [] => []
  | s, c :: cs => match act s c with
    | none => [none]
    | some (s', a) => some a :: answers act s' cs

/-- Every call meets the contract in the state where it is made. -/
def Keeps (act : σ → call → Option (σ × out)) (contract : σ → call → Prop) :
    σ → List call → Prop
  | _, [] => True
  | s, c :: cs => contract s c ∧ ∀ s' a, act s c = some (s', a) → Keeps act contract s' cs

/-- Both calls come back with the same answer and related states, or neither
    comes back. -/
def Agree (R : σ → τ → Prop) : Option (σ × out) → Option (τ × out) → Prop
  | none, none => True
  | some (s, a), some (t, b) => a = b ∧ R s t
  | _, _ => False

variable {impl : σ → call → Option (σ × out)} {spec : τ → call → Option (τ × out)}
  {R : σ → τ → Prop} {contract : τ → call → Prop}

/-- A call whose outcome on either side is known. -/
theorem agree_some {x : Option (σ × out)} {y : Option (τ × out)} {s : σ} {t : τ} {a : out}
    (hx : x = some (s, a)) (hy : y = some (t, a)) (h : R s t) : Agree R x y := by
  rw [hx, hy]
  exact ⟨rfl, h⟩

/-- Related states answer the same, for a caller within the contract. -/
theorem answers_eq
    (hcall : ∀ s t c, R s t → contract t c → Agree R (impl s c) (spec t c))
    {s : σ} {t : τ} {cs : List call} (h : R s t) (hk : Keeps spec contract t cs) :
    answers impl s cs = answers spec t cs := by
  induction cs generalizing s t with
  | nil => rfl
  | cons c cs ih =>
      have hagree := hcall s t c h hk.1
      simp only [answers]
      cases hs : impl s c with
      | none =>
          cases ht : spec t c with
          | none => rfl
          | some q => simp [hs, ht, Agree] at hagree
      | some p =>
          cases ht : spec t c with
          | none => simp [hs, ht, Agree] at hagree
          | some q =>
              obtain ⟨s', a⟩ := p
              obtain ⟨t', b⟩ := q
              rw [hs, ht] at hagree
              obtain ⟨hab, hR⟩ := hagree
              simp only [hab, ih hR (hk.2 t' b ht)]

theorem Keeps.mono {act : σ → call → Option (σ × out)} {P Q : σ → call → Prop}
    (hPQ : ∀ s c, P s c → Q s c) {s : σ} {cs : List call} (h : Keeps act P s cs) :
    Keeps act Q s cs := by
  induction cs generalizing s with
  | nil => trivial
  | cons c cs ih => exact ⟨hPQ s c h.1, fun s' a hs => ih (h.2 s' a hs)⟩

end Objects
