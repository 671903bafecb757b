import Mathlib.Data.List.Nodup
import Mathlib.Data.List.Range
import Mathlib.Data.Nat.Bitwise

/-!
# Blocks of Memory

An address is rounded up with a mask, and memory is cut into blocks of one size.
Rounding up never goes down, and never further than the mask, whatever the mask
is. It reaches a multiple only if it is a power of two.

## Main definitions

* `roundUp`: Rounding up with a mask.
* `blocks`: The addresses of the blocks.
* `upTo`: The addresses that a loop goes through.

## Theorems

* `le_roundUp`, `roundUp_le`: How far rounding up goes.
* `dvd_roundUp`: It reaches a multiple.
* `blocks_nodup`, `blocks_apart`: No two blocks overlap.
* `upTo_eq_blocks`: A loop goes through the blocks.
* `blocks_within`: The blocks fill what they are cut from.
-/

namespace Memory

/-- Rounding up to a multiple of `s`: `(x + (s - 1)) & ~(s - 1)`. Without `s`
    nothing is left by the mask. -/
def roundUp (x s : Nat) : Nat :=
  if s = 0 then 0 else (x + (s - 1)) - ((x + (s - 1)) &&& (s - 1))

theorem le_roundUp (x : Nat) {s : Nat} (hs : 0 < s) : x ≤ roundUp x s := by
  have hmask : (x + (s - 1)) &&& (s - 1) ≤ s - 1 := Nat.and_le_right
  rw [roundUp, if_neg (by omega)]
  omega

theorem roundUp_le (x s : Nat) : roundUp x s ≤ x + (s - 1) := by
  rw [roundUp]
  split
  · exact Nat.zero_le _
  · exact Nat.sub_le _ _

theorem dvd_roundUp (x k : Nat) : 2 ^ k ∣ roundUp x (2 ^ k) := by
  have hpos : 2 ^ k ≠ 0 := by simp
  rw [roundUp, if_neg hpos, Nat.and_two_pow_sub_one_eq_mod]
  exact Nat.dvd_sub_mod _

/-- The addresses of `n` blocks, one after the other. -/
def blocks (start size n : Nat) : List Nat := (List.range n).map fun k => start + size * k

variable {start size n b c : Nat}

@[simp] theorem length_blocks : (blocks start size n).length = n := by simp [blocks]

theorem mem_blocks : b ∈ blocks start size n ↔ ∃ k < n, start + size * k = b := by
  simp [blocks]

theorem blocks_cons : blocks start size (n + 1) = start :: blocks (start + size) size n := by
  simp [blocks, List.range_succ_eq_map, Function.comp_def, Nat.mul_succ, Nat.add_assoc,
    Nat.add_comm size]

/-- The addresses from one on, as long as they are below another, in at most so
    many steps. -/
def upTo (next : Nat → Nat) (stop : Nat) : Nat → Nat → List Nat
  | 0, _ => []
  | fuel + 1, b => if b < stop then b :: upTo next stop fuel (next b) else []

/-- Going up in steps of one size reaches the blocks below the end. -/
theorem upTo_eq_blocks {next : Nat → Nat} {stop fuel : Nat} (hsize : 0 < size)
    (hstop : start + size * n = stop) (hfuel : n < fuel)
    (hnext : ∀ b, b + size ≤ stop → next b = b + size) :
    upTo next stop fuel start = blocks start size n := by
  induction n generalizing start fuel with
  | zero =>
      obtain ⟨fuel, rfl⟩ := Nat.exists_eq_add_one_of_ne_zero (by omega : fuel ≠ 0)
      simp only [Nat.mul_zero, Nat.add_zero] at hstop
      rw [upTo, if_neg (by omega)]
      rfl
  | succ n ih =>
      obtain ⟨fuel, rfl⟩ := Nat.exists_eq_add_one_of_ne_zero (by omega : fuel ≠ 0)
      rw [Nat.mul_succ] at hstop
      rw [upTo, if_pos (by omega), hnext start (by omega), ih (by omega) (by omega),
        blocks_cons]

theorem blocks_nodup (hsize : 0 < size) : (blocks start size n).Nodup := by
  refine List.Nodup.map (fun j k h => ?_) List.nodup_range
  exact Nat.eq_of_mul_eq_mul_left hsize (Nat.add_left_cancel h)

theorem blocks_within (h : b ∈ blocks start size n) : start ≤ b ∧ b + size ≤ start + size * n := by
  obtain ⟨k, hk, rfl⟩ := mem_blocks.mp h
  have hnext : size * (k + 1) ≤ size * n := Nat.mul_le_mul_left size hk
  rw [Nat.mul_succ] at hnext
  omega

theorem blocks_apart (hb : b ∈ blocks start size n) (hc : c ∈ blocks start size n) (h : b < c) :
    b + size ≤ c := by
  obtain ⟨j, -, rfl⟩ := mem_blocks.mp hb
  obtain ⟨k, -, rfl⟩ := mem_blocks.mp hc
  have hjk : j < k := by
    by_contra hge
    have hmul : size * k ≤ size * j := Nat.mul_le_mul_left size (by omega)
    omega
  have hnext : size * (j + 1) ≤ size * k := Nat.mul_le_mul_left size hjk
  rw [Nat.mul_succ] at hnext
  omega

end Memory
