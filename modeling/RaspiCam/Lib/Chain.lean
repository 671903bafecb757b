import Mathlib.Data.List.Nodup
import Mathlib.Logic.Function.Basic

/-!
# Chains of Links

A singly linked list whose nodes carry their own links. What it reads and
writes are slots: the slot with the first link, and one slot in every node for
the link to the next node. The memory of the slots is one function, so several
lists can share it, and a list knows its last slot, where the next node is to
be linked.

`Chain` says what list of nodes the memory represents from a slot on. The
three operations on it are each a few writes to slots, and each comes with one
lemma: a node put at the end, a node put at the front, and the first node
taken. Everything else that happens to the memory leaves a chain alone as long
as it keeps off its slots, `Chain.frame`.

## Main definitions

* `Leads`: The links lead from one slot to another, through a list of nodes.
* `slots`: The slots of a list.
* `Chain`: The list that is represented from a slot on.

## Theorems

* `leads_update_end`: Writing to the last slot.
* `Chain.put`: A node at the end.
* `Chain.putBack`: A node at the front.
* `Chain.get`: The first node is taken.
* `Chain.agree`: Another memory with the same slots.
* `Chain.frame`: A write somewhere else.
* `Chain.unique`: The memory represents one list.
-/

namespace Chains

variable {σ α : Type*}

/-- The links lead from slot `s` to slot `e`, through the nodes of a list. -/
def Leads (next : α → σ) (mem : σ → Option α) : σ → List α → σ → Prop
  | s, [], e => s = e
  | s, x :: xs, e => mem s = some x ∧ Leads next mem (next x) xs e

/-- The slots of a list that starts in `s`. -/
def slots (next : α → σ) (s : σ) (xs : List α) : List σ := s :: xs.map next

/-- The memory represents a list from slot `s` on, and `e` is its last slot. -/
structure Chain (next : α → σ) (mem : σ → Option α) (s : σ) (xs : List α) (e : σ) : Prop where
  leads : Leads next mem s xs e
  ends : mem e = none
  apart : (slots next s xs).Nodup

variable {next : α → σ} {mem : σ → Option α} {s e : σ} {x : α} {xs : List α}

theorem slots_cons (next : α → σ) (s : σ) (x : α) (xs : List α) :
    slots next s (x :: xs) = s :: slots next (next x) xs := rfl

theorem slots_concat (next : α → σ) (s : σ) (xs : List α) (x : α) :
    slots next s (xs ++ [x]) = slots next s xs ++ [next x] := by
  simp only [slots, List.map_append, List.map_cons, List.map_nil, List.cons_append]

theorem leads_last (h : Leads next mem s xs e) : e ∈ slots next s xs := by
  induction xs generalizing s with
  | nil =>
      simp only [Leads] at h
      simp [slots, h]
  | cons y ys ih =>
      rw [slots_cons]
      exact List.mem_cons_of_mem s (ih h.2)

/-- One more node, linked in the last slot. -/
theorem leads_concat (h : Leads next mem s xs e) (hx : mem e = some x) :
    Leads next mem s (xs ++ [x]) (next x) := by
  induction xs generalizing s with
  | nil =>
      simp only [Leads] at h
      exact ⟨h ▸ hx, rfl⟩
  | cons y ys ih => exact ⟨h.1, ih h.2⟩

/-- The links of a list up to some node, and those after it. -/
theorem leads_split {ys : List α} (h : Leads next mem s (xs ++ x :: ys) e) :
    Leads next mem s (xs ++ [x]) (next x) ∧ Leads next mem (next x) ys e := by
  induction xs generalizing s with
  | nil => exact ⟨⟨h.1, rfl⟩, h.2⟩
  | cons y zs ih => exact ⟨⟨h.1, (ih h.2).1⟩, (ih h.2).2⟩

/-- The links of a list whose last slot is empty lead through one list only. -/
theorem leads_unique {ys : List α} {f : σ} (h : Leads next mem s xs e) (he : mem e = none)
    (k : Leads next mem s ys f) (hf : mem f = none) : xs = ys := by
  induction xs generalizing s ys with
  | nil =>
      cases ys with
      | nil => rfl
      | cons y ys =>
          simp only [Leads] at h
          rw [← h, k.1] at he
          simp at he
  | cons x xs ih =>
      cases ys with
      | nil =>
          simp only [Leads] at k
          rw [← k, h.1] at hf
          simp at hf
      | cons y ys =>
          have hxy : x = y := Option.some.inj (h.1.symm.trans k.1)
          subst hxy
          rw [ih h.2 k.2]

theorem Chain.unique {ys : List α} {f : σ} (h : Chain next mem s xs e)
    (k : Chain next mem s ys f) : xs = ys :=
  leads_unique h.leads h.ends k.leads k.ends

/-- Whether a list is empty can be seen in its first slot. -/
theorem Chain.head (h : Chain next mem s xs e) : mem s = xs.head? := by
  cases xs with
  | nil =>
      have hse : s = e := h.leads
      rw [hse]
      exact h.ends
  | cons x xs => exact h.leads.1

/-- Another memory with the same slots. -/
theorem leads_agree {mem' : σ → Option α} (h : Leads next mem s xs e)
    (hmem : ∀ t ∈ slots next s xs, mem' t = mem t) : Leads next mem' s xs e := by
  induction xs generalizing s with
  | nil => exact h
  | cons y ys ih =>
      rw [slots_cons] at hmem
      refine ⟨?_, ih h.2 fun t ht => hmem t (List.mem_cons_of_mem s ht)⟩
      rw [hmem s List.mem_cons_self]
      exact h.1

theorem Chain.agree {mem' : σ → Option α} (h : Chain next mem s xs e)
    (hmem : ∀ t ∈ slots next s xs, mem' t = mem t) : Chain next mem' s xs e where
  leads := leads_agree h.leads hmem
  ends := (hmem e (leads_last h.leads)).trans h.ends
  apart := h.apart

variable [DecidableEq σ]

/-- A write that keeps off the slots of a list. -/
theorem leads_frame {u : σ} (v : Option α) (h : Leads next mem s xs e)
    (hu : u ∉ slots next s xs) : Leads next (Function.update mem u v) s xs e := by
  induction xs generalizing s with
  | nil => exact h
  | cons y ys ih =>
      rw [slots_cons, List.mem_cons, not_or] at hu
      refine ⟨?_, ih h.2 hu.2⟩
      rw [Function.update_of_ne (Ne.symm hu.1)]
      exact h.1

/-- A write to the last slot. The slots before it are other slots, and only
    they are read. -/
theorem leads_update_end (v : Option α) (h : Leads next mem s xs e)
    (hd : (slots next s xs).Nodup) : Leads next (Function.update mem e v) s xs e := by
  induction xs generalizing s with
  | nil => exact h
  | cons y ys ih =>
      rw [slots_cons, List.nodup_cons] at hd
      refine ⟨?_, ih h.2 hd.2⟩
      have hse : s ≠ e := fun hc => hd.1 (hc ▸ leads_last h.2)
      rw [Function.update_of_ne hse]
      exact h.1

theorem Chain.frame {u : σ} (v : Option α) (h : Chain next mem s xs e)
    (hu : u ∉ slots next s xs) : Chain next (Function.update mem u v) s xs e where
  leads := leads_frame v h.leads hu
  ends := by
    have heu : e ≠ u := fun hc => hu (hc ▸ leads_last h.leads)
    rw [Function.update_of_ne heu]
    exact h.ends
  apart := h.apart

/-- A node put at the end: it is linked in the last slot, and its own slot,
    emptied, is the last one then. -/
theorem Chain.put (h : Chain next mem s xs e) (hx : next x ∉ slots next s xs) :
    Chain next (Function.update (Function.update mem e (some x)) (next x) none) s (xs ++ [x])
      (next x) where
  leads := by
    have hlinked := leads_update_end (some x) h.leads h.apart
    have hend : Function.update mem e (some x) e = some x := Function.update_self ..
    refine leads_update_end none (leads_concat hlinked hend) ?_
    rw [slots_concat]
    exact List.nodup_append.mpr ⟨h.apart, List.nodup_singleton _, fun t ht u hu =>
      fun hc => hx (List.mem_singleton.mp hu ▸ hc ▸ ht)⟩
  ends := Function.update_self ..
  apart := by
    rw [slots_concat]
    exact List.nodup_append.mpr ⟨h.apart, List.nodup_singleton _, fun t ht u hu =>
      fun hc => hx (List.mem_singleton.mp hu ▸ hc ▸ ht)⟩

/-- A node put at the front: it takes over the first link and is linked in the
    first slot. Its own slot is the last one if the list was empty. -/
theorem Chain.putBack (h : Chain next mem s xs e) (hx : next x ∉ slots next s xs) :
    Chain next (Function.update (Function.update mem (next x) (mem s)) s (some x)) s (x :: xs)
      (if e = s then next x else e) := by
  have hxs : next x ≠ s := fun hc => hx (hc ▸ List.mem_cons_self)
  have hapart : (slots next s (x :: xs)).Nodup := by
    have hs : s ∉ xs.map next := (List.nodup_cons.mp h.apart).1
    have hxm : next x ∉ xs.map next := fun hc => hx (List.mem_cons_of_mem s hc)
    rw [slots_cons, slots, List.nodup_cons, List.nodup_cons, List.mem_cons, not_or]
    exact ⟨⟨Ne.symm hxs, hs⟩, hxm, (List.nodup_cons.mp h.apart).2⟩
  cases xs with
  | nil =>
      have hse : s = e := h.leads
      subst hse
      rw [if_pos rfl]
      refine ⟨⟨Function.update_self .., rfl⟩, ?_, hapart⟩
      rw [Function.update_of_ne hxs, Function.update_self]
      exact h.ends
  | cons y ys =>
      rw [slots_cons, List.mem_cons, not_or] at hx
      have hs : s ∉ slots next (next y) ys := (List.nodup_cons.mp h.apart).1
      have hlast : e ∈ slots next (next y) ys := leads_last h.leads.2
      have hes : e ≠ s := fun hc => hs (hc ▸ hlast)
      have hex : e ≠ next x := fun hc => hx.2 (hc ▸ hlast)
      rw [if_neg hes]
      refine ⟨⟨Function.update_self .., ?_, ?_⟩, ?_, hapart⟩
      · rw [Function.update_of_ne hxs, Function.update_self]
        exact h.leads.1
      · exact leads_frame _ (leads_frame _ h.leads.2 hx.2) hs
      · rw [Function.update_of_ne hes, Function.update_of_ne hex]
        exact h.ends

/-- The first node is taken: its link goes to the first slot, which is the last
    one if that was the only node. -/
theorem Chain.get (h : Chain next mem s (x :: xs) e) :
    Chain next (Function.update mem s (mem (next x))) s xs
      (if mem (next x) = none then s else e) := by
  have hsx : s ∉ slots next (next x) xs := (List.nodup_cons.mp h.apart).1
  have hapart : (slots next s xs).Nodup := by
    have hrest := (List.nodup_cons.mp h.apart).2
    exact List.nodup_cons.mpr ⟨fun hc => hsx (List.mem_cons_of_mem _ hc),
      (List.nodup_cons.mp hrest).2⟩
  cases xs with
  | nil =>
      have hxe : next x = e := h.leads.2
      have hnone : mem (next x) = none := hxe ▸ h.ends
      rw [if_pos hnone, hnone]
      exact ⟨rfl, Function.update_self .., hapart⟩
  | cons y ys =>
      have hlink : mem (next x) = some y := h.leads.2.1
      have hs : s ∉ slots next (next y) ys := fun hc => hsx (List.mem_cons_of_mem _ hc)
      have hes : e ≠ s := fun hc => hs (hc ▸ leads_last h.leads.2.2)
      rw [if_neg (by simp [hlink]), hlink]
      refine ⟨⟨Function.update_self .., leads_frame _ h.leads.2.2 hs⟩, ?_, hapart⟩
      rw [Function.update_of_ne hes]
      exact h.ends

end Chains
