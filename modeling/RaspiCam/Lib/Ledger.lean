import Mathlib.Data.List.Basic

/-!
# Ledgers

A ledger counts, for everything ever created, how often it was destroyed: the
entry of a new object is zero, and destroying one adds one to its entry.
Nothing is ever removed, so a leak and a double destruction both stay visible.

An owner that has at most one object at a time keeps a ledger in which every
entry is one (`AllOnce`) while it has none, and in which only the last entry
is not (`OnlyLast`) while it has one. Creating an object leads from the first
kind to the second, and destroying it leads back.

## Main definitions

* `create`, `destroy`: What happens to a ledger.
* `AllOnce`: Everything was destroyed exactly once.
* `OnlyLast`: Everything but the last was, and the last was not.

## Theorems

* `onlyLast_create`, `allOnce_destroy`: From one kind to the other.
* `destroy_create`: Something that does not outlive its creation.
* `not_allOnce_create`: Something that is left behind.
-/

namespace Ledgers

/-- Something new. -/
def create (ds : List Nat) : List Nat := ds ++ [0]

/-- Number `h` is destroyed. -/
def destroy (ds : List Nat) (h : Nat) : List Nat := ds.modify h (· + 1)

/-- Everything was destroyed exactly once. -/
def AllOnce (ds : List Nat) : Prop := ∀ n ∈ ds, n = 1

/-- Everything was destroyed exactly once but number `h`, the last, which was
    not. -/
def OnlyLast (ds : List Nat) (h : Nat) : Prop :=
  ∃ front, ds = create front ∧ front.length = h ∧ AllOnce front

theorem length_create (ds : List Nat) : (create ds).length = ds.length + 1 := List.length_append

theorem length_destroy (ds : List Nat) (h : Nat) : (destroy ds h).length = ds.length :=
  List.length_modify _ _ _

theorem destroy_eq_nil {ds : List Nat} {h : Nat} : destroy ds h = [] ↔ ds = [] := by
  rw [← List.length_eq_zero_iff, length_destroy, List.length_eq_zero_iff]

theorem allOnce_nil : AllOnce [] := fun _ hn => absurd hn List.not_mem_nil

theorem allOnce_concat_iff {ds : List Nat} {n : Nat} :
    AllOnce (ds ++ [n]) ↔ AllOnce ds ∧ n = 1 := by
  constructor
  · intro h
    exact ⟨fun k hk => h k (List.mem_append_left _ hk),
      h n (List.mem_append_right _ List.mem_cons_self)⟩
  · rintro ⟨h, hn⟩ k hk
    rcases List.mem_append.mp hk with hk | hk
    · exact h k hk
    · rw [List.mem_singleton.mp hk, hn]

theorem onlyLast_create {ds : List Nat} (h : AllOnce ds) : OnlyLast (create ds) ds.length :=
  ⟨ds, rfl, rfl, h⟩

/-- Something that is destroyed right after its creation. -/
theorem destroy_create (ds : List Nat) : destroy (create ds) ds.length = ds ++ [1] := by
  unfold destroy create
  rw [List.modify_eq_take_cons_drop (by rw [List.length_append]; exact Nat.lt_succ_self _),
    List.take_left, List.getElem_concat_length rfl, List.drop_eq_nil_of_le]
  rw [List.length_append]
  exact Nat.le_refl _

theorem allOnce_destroy {ds : List Nat} {h : Nat} (hl : OnlyLast ds h) :
    AllOnce (destroy ds h) := by
  rcases hl with ⟨front, rfl, rfl, hfront⟩
  rw [destroy_create]
  exact allOnce_concat_iff.mpr ⟨hfront, rfl⟩

/-- Something that is left behind. -/
theorem not_allOnce_create (ds : List Nat) : ¬ AllOnce (create ds) :=
  fun h => absurd (allOnce_concat_iff.mp h).2 (by decide)

theorem onlyLast_getElem {ds : List Nat} {h : Nat} (hl : OnlyLast ds h) : ds[h]? = some 0 := by
  rcases hl with ⟨front, rfl, rfl, _⟩
  exact List.getElem?_concat_length

end Ledgers
