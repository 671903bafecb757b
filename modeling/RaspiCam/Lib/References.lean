import Mathlib.Data.Fintype.Basic
import Mathlib.Data.Finset.Card
import Mathlib.Data.Finset.Max
import Mathlib.Data.Fintype.Card

/-!
# References between Objects

Finitely many objects, each with a reference to one other object, or to none.
A reference count has to agree with the number of objects that refer to one,
`count`, and that number changes by one when a reference is set or cleared.

When references are only ever set in objects that nobody refers to, they do not
form cycles, `acyclic_set`. Then any set of objects has one that no object of
the set refers to, `exists_top`, and this is why counting is enough to get
every object back.

## Main definitions

* `count`: The number of objects that refer to an object.
* `mask`: The references without those of some objects.
* `Acyclic`: Following references comes to an end.

## Theorems

* `count_clear`, `count_set`: A reference is cleared or set.
* `acyclic_mono`, `acyclic_set`: No cycle arises.
* `exists_top`: An object that is not referred to.
-/

namespace References

variable {η : Type*} [DecidableEq η]

/-- The references without those of some objects. -/
def mask (ref : η → Option η) (hidden : List η) (d : η) : Option η :=
  if d ∈ hidden then none else ref d

@[simp]
theorem mask_nil (ref : η → Option η) : mask ref [] = ref := by
  funext d
  simp [mask]

theorem mask_cons (ref : η → Option η) (d : η) (hidden : List η) :
    mask ref (d :: hidden) = Function.update (mask ref hidden) d none := by
  funext e
  by_cases h : e = d
  · simp [mask, h]
  · simp [mask, h]

/-- A reference is cleared while its object is hidden. -/
theorem mask_update (ref : η → Option η) (d : η) (hidden : List η) (h : d ∉ hidden) :
    mask (Function.update ref d none) hidden = mask ref (d :: hidden) := by
  funext e
  by_cases he : e = d
  · subst he
    simp [mask, h]
  · simp [mask, he]

/-- Following references comes to an end. -/
def Acyclic (ref : η → Option η) : Prop :=
  ∃ rank : η → Nat, ∀ d s, ref d = some s → rank s < rank d

omit [DecidableEq η] in
/-- Fewer references do not form a cycle either. -/
theorem acyclic_mono {ref ref' : η → Option η} (h : Acyclic ref)
    (hsub : ∀ d s, ref' d = some s → ref d = some s) : Acyclic ref' := by
  obtain ⟨rank, hrank⟩ := h
  exact ⟨rank, fun d s hs => hrank d s (hsub d s hs)⟩

/-- A reference is set in an object that nobody refers to. -/
theorem acyclic_set {ref : η → Option η} (h : Acyclic ref) {d s : η} (hds : d ≠ s)
    (hfree : ∀ e, ref e ≠ some d) : Acyclic (Function.update ref d (some s)) := by
  obtain ⟨rank, hrank⟩ := h
  refine ⟨Function.update rank d (rank s + 1), fun e t ht => ?_⟩
  by_cases he : e = d
  · subst he
    obtain rfl : s = t := by simpa using ht
    rw [Function.update_self, Function.update_of_ne (Ne.symm hds)]
    omega
  · rw [Function.update_of_ne he] at ht ⊢
    have htd : t ≠ d := fun hc => hfree e (hc ▸ ht)
    rw [Function.update_of_ne htd]
    exact hrank e t ht

variable [Fintype η]

/-- The number of objects that refer to an object. -/
def count (ref : η → Option η) (x : η) : Nat := (Finset.univ.filter fun d => ref d = some x).card

theorem count_eq_zero_iff {ref : η → Option η} {x : η} : count ref x = 0 ↔ ∀ d, ref d ≠ some x := by
  simp [count, Finset.filter_eq_empty_iff]

theorem count_clear (ref : η → Option η) (d x : η) :
    count ref x = count (Function.update ref d none) x + if ref d = some x then 1 else 0 := by
  by_cases h : ref d = some x
  · have hinsert : (Finset.univ.filter fun e => ref e = some x) =
        insert d (Finset.univ.filter fun e => Function.update ref d none e = some x) := by
      ext e
      by_cases he : e = d
      · simp [he, h]
      · simp [he]
    rw [count, hinsert, Finset.card_insert_of_notMem (by simp), if_pos h, count]
  · have hsame : (Finset.univ.filter fun e => ref e = some x) =
        Finset.univ.filter fun e => Function.update ref d none e = some x := by
      ext e
      by_cases he : e = d
      · simp [he, h]
      · simp [he]
    rw [if_neg h, Nat.add_zero, count, count, hsame]

theorem count_set {ref : η → Option η} {d : η} (h : ref d = none) (s x : η) :
    count (Function.update ref d (some s)) x = count ref x + if s = x then 1 else 0 := by
  have hclear := count_clear (Function.update ref d (some s)) d x
  have hback : Function.update ref d none = ref := by rw [← h, Function.update_eq_self]
  simpa [hback] using hclear

omit [DecidableEq η] in
/-- Of any objects without a cycle, one is not referred to by the others. -/
theorem exists_top {ref : η → Option η} (h : Acyclic ref) {S : η → Prop} {x : η} (hx : S x) :
    ∃ y, S y ∧ ∀ d, S d → ref d ≠ some y := by
  classical
  obtain ⟨rank, hrank⟩ := h
  obtain ⟨y, hy, hmax⟩ := Finset.exists_max_image (Finset.univ.filter S) rank
    ⟨x, by simpa using hx⟩
  refine ⟨y, by simpa using hy, fun d hd hc => ?_⟩
  have hle := hmax d (by simpa using hd)
  have hlt := hrank d y hc
  omega

end References
