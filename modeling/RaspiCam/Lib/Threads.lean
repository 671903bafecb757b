import Mathlib.Data.List.Basic

/-!
# Threads on their Way

Any number of threads run through the same code. What matters of a thread is
how far it is, so the threads are a list of such places, and one of them moving
on replaces one element, or removes it when the thread is through.

Most invariants over such a list say that some counter agrees with the number
of threads in certain places. Such a number is a total of weights, one for each
place. A step changes it by the difference of two weights, `total_advance`, and
what is left of the proof is arithmetic.

## Main definitions

* `advance`: One of the threads moves on.
* `total`: What the threads weigh together.

## Theorems

* `total_advance`: The change of a total in a step.
* `le_total`: A total is at least the weight of one thread.
* `exists_of_total_pos`: A total that is not zero comes from some thread.
* `mem_advance`: Where the threads are after a step.
* `advance_map`: A step seen through a map.
-/

namespace Threads

variable {α : Type*}

/-- What the threads weigh together. -/
def total (w : α → Nat) : List α → Nat
  | [] => 0
  | t :: ts => w t + total w ts

@[simp]
theorem total_nil (w : α → Nat) : total w [] = 0 := rfl

@[simp]
theorem total_cons (w : α → Nat) (t : α) (ts : List α) :
    total w (t :: ts) = w t + total w ts := rfl

@[simp]
theorem total_append (w : α → Nat) (ts us : List α) :
    total w (ts ++ us) = total w ts + total w us := by
  induction ts with
  | nil => simp
  | cons t ts ih =>
      rw [List.cons_append, total_cons, total_cons, ih]
      omega

theorem le_total (w : α → Nat) {t : α} {ts : List α} (h : t ∈ ts) : w t ≤ total w ts := by
  induction ts with
  | nil => simp at h
  | cons u us ih =>
      rw [total_cons]
      rcases List.mem_cons.mp h with rfl | hu
      · omega
      · have hle := ih hu
        omega

theorem exists_of_total_pos {w : α → Nat} {ts : List α} (h : 0 < total w ts) :
    ∃ t ∈ ts, 0 < w t := by
  induction ts with
  | nil => simp at h
  | cons t ts ih =>
      rw [total_cons] at h
      by_cases ht : 0 < w t
      · exact ⟨t, List.mem_cons_self, ht⟩
      · obtain ⟨u, hu, hw⟩ := ih (by omega)
        exact ⟨u, List.mem_cons_of_mem t hu, hw⟩

theorem total_eq_zero_iff {w : α → Nat} {ts : List α} :
    total w ts = 0 ↔ ∀ t ∈ ts, w t = 0 := by
  constructor
  · intro h t ht
    have hle := le_total w ht
    omega
  · intro h
    by_contra hne
    obtain ⟨t, ht, hw⟩ := exists_of_total_pos (Nat.pos_of_ne_zero hne)
    have hzero := h t ht
    omega

/-- Two threads of a list that are in different places both count. -/
theorem add_le_total (w : α → Nat) {t u : α} {ts : List α} (ht : t ∈ ts) (hu : u ∈ ts)
    (hne : t ≠ u) : w t + w u ≤ total w ts := by
  induction ts with
  | nil => simp at ht
  | cons v vs ih =>
      rw [total_cons]
      rcases List.mem_cons.mp ht with rfl | ht'
      · rcases List.mem_cons.mp hu with rfl | hu'
        · exact absurd rfl hne
        · have hle := le_total w hu'
          omega
      · rcases List.mem_cons.mp hu with rfl | hu'
        · have hle := le_total w ht'
          omega
        · have hle := ih ht' hu'
          omega

theorem total_mono {v w : α → Nat} {ts : List α} (h : ∀ t ∈ ts, v t ≤ w t) :
    total v ts ≤ total w ts := by
  induction ts with
  | nil => simp
  | cons t ts ih =>
      have hhead := h t List.mem_cons_self
      have htail := ih fun u hu => h u (List.mem_cons_of_mem t hu)
      rw [total_cons, total_cons]
      omega

theorem total_le_mul {w : α → Nat} {k : Nat} {ts : List α} (h : ∀ t ∈ ts, w t ≤ k) :
    total w ts ≤ k * ts.length := by
  induction ts with
  | nil => simp
  | cons t ts ih =>
      have hhead := h t List.mem_cons_self
      have htail := ih fun u hu => h u (List.mem_cons_of_mem t hu)
      rw [total_cons, List.length_cons, Nat.mul_succ]
      omega

variable [DecidableEq α]

theorem total_erase (w : α → Nat) {t : α} {ts : List α} (h : t ∈ ts) :
    total w ts = w t + total w (ts.erase t) := by
  induction ts with
  | nil => simp at h
  | cons u us ih =>
      by_cases hu : u = t
      · rw [hu, List.erase_cons_head, total_cons]
      · have hrest := ih (List.mem_of_ne_of_mem (Ne.symm hu) h)
        rw [List.erase_cons_tail (by simpa using hu), total_cons, total_cons]
        omega

/-- A thread that is at `t` goes on to `next`, or is through. -/
def advance (ts : List α) (t : α) (next : Option α) : Option (List α) :=
  if t ∈ ts then some (next.toList ++ ts.erase t) else none

theorem mem_of_advance {ts us : List α} {t : α} {next : Option α}
    (h : advance ts t next = some us) : t ∈ ts := by
  by_contra hc
  simp [advance, hc] at h

theorem advance_eq {ts us : List α} {t : α} {next : Option α}
    (h : advance ts t next = some us) : us = next.toList ++ ts.erase t := by
  simpa [advance, mem_of_advance h, eq_comm] using h

theorem total_advance (w : α → Nat) {ts us : List α} {t : α} {next : Option α}
    (h : advance ts t next = some us) : total w us + w t = total w ts + total w next.toList := by
  have herase := total_erase w (mem_of_advance h)
  rw [advance_eq h, total_append]
  omega

theorem mem_advance {ts us : List α} {t u : α} {next : Option α}
    (h : advance ts t next = some us) (hu : u ∈ us) : next = some u ∨ u ∈ ts := by
  rw [advance_eq h, List.mem_append] at hu
  rcases hu with hnext | hold
  · exact Or.inl (by simpa [eq_comm] using hnext)
  · exact Or.inr (List.mem_of_mem_erase hold)

/-- The other threads stay where they are. -/
theorem mem_advance_of_ne {ts us : List α} {t u : α} {next : Option α}
    (h : advance ts t next = some us) (hu : u ∈ ts) (hne : u ≠ t) : u ∈ us := by
  rw [advance_eq h]
  exact List.mem_append_right _ ((List.mem_erase_of_ne hne).mpr hu)

/-- If the thread that goes on weighs as much as all of them, the others weigh
    nothing. -/
theorem advance_alone {w : α → Nat} {ts us : List α} {t u : α} {next : Option α}
    (h : advance ts t next = some us) (hw : total w ts ≤ w t) (hu : u ∈ us) :
    next = some u ∨ u ∈ ts ∧ w u = 0 := by
  have htotal := total_advance w h
  have heq := advance_eq h
  subst heq
  rcases List.mem_append.mp hu with hnext | hold
  · exact Or.inl (by simpa [eq_comm] using hnext)
  · have hle := le_total w hold
    rw [total_append] at htotal
    exact Or.inr ⟨List.mem_of_mem_erase hold, by omega⟩

/-- Seen through a map, a thread goes on as well, up to the order of the
    threads. -/
theorem advance_map {β : Type*} [DecidableEq β] {f : α → β} {ts us : List α} {ps : List β} {t : α}
    {next : Option α} (h : advance ts t next = some us) (hps : ps.Perm (ts.map f)) :
    ∃ qs, advance ps (f t) (next.map f) = some qs ∧ qs.Perm (us.map f) := by
  have hmem : f t ∈ ps := hps.mem_iff.mpr (List.mem_map_of_mem (mem_of_advance h))
  refine ⟨_, if_pos hmem, ?_⟩
  have hts : (ts.map f).Perm (f t :: (ts.erase t).map f) :=
    (List.perm_cons_erase (mem_of_advance h)).map f
  have herase : (ps.erase (f t)).Perm ((ts.erase t).map f) :=
    ((List.perm_cons_erase hmem).symm.trans (hps.trans hts)).cons_inv
  rw [advance_eq h, List.map_append]
  cases next with
  | none => exact herase
  | some u => exact herase.cons (f u)

/-- A step that the map does not show. -/
theorem map_advance_perm {β : Type*} {f : α → β} {ts us : List α} {t u : α}
    (h : advance ts t (some u) = some us) (hf : f u = f t) : (us.map f).Perm (ts.map f) := by
  rw [advance_eq h]
  simp only [Option.toList_some, List.cons_append, List.nil_append, List.map_cons, hf]
  exact ((List.perm_cons_erase (mem_of_advance h)).map f).symm

/-- A step is possible for every thread there is. -/
theorem advance_of_mem {ts : List α} {t : α} (next : Option α) (h : t ∈ ts) :
    ∃ us, advance ts t next = some us := ⟨_, if_pos h⟩

end Threads
