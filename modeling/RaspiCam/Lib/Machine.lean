import Mathlib.Data.Int.Basic

/-!
# 32-bit Machine Integers

Values of C's `int` and `unsigned int` as mathematical integers, with the
reductions that the conversions between them perform. Arithmetic on `int`
that overflows is undefined in C; the model lets it wrap around, as the
compilers of the platform do, so that an overflow shows up as a wrong value
rather than as nothing at all.

A value that fits is left alone by its reduction (`i32_of_range`,
`u32_of_range`), which is how bounds on the inputs remove the reductions from
a goal.

## Main definitions

* `i32`: The `int` that an integer reduces to.
* `u32`: The `unsigned int` that an integer reduces to.
* `alignUp`: The least multiple of `n` not below a number.

## Theorems

* `i32_of_range`: A value in the range of `int` is unchanged.
* `u32_of_range`: A value in the range of `unsigned int` is unchanged.
* `i32_u32`: Passing through the other type loses nothing.
* `u32_mul`: A product may be reduced before or after.
* `le_alignUp`: Aligning only raises.
* `alignUp_eq_self_iff`: Exactly the multiples are already aligned.
-/

namespace Machine

/-- The `int` an integer reduces to, in `[-2 ^ 31, 2 ^ 31)`: its low 32 bits,
    of which the highest counts negative. -/
def i32 (x : Int) : Int := x % 4294967296 - 4294967296 * (x / 2147483648 % 2)

/-- The `unsigned int` an integer reduces to. -/
def u32 (x : Int) : Nat := (x % 4294967296).toNat

theorem i32_of_range {x : Int} (hlo : -2147483648 ≤ x) (hhi : x < 2147483648) : i32 x = x := by
  unfold i32
  omega

theorem u32_of_range {x : Nat} (h : x < 4294967296) : u32 x = x := by
  unfold u32
  omega

theorem u32_le (x : Nat) : u32 x ≤ x := by
  unfold u32
  omega

/-- A nonnegative `int` read back as `unsigned int`. -/
theorem u32_toNat {x : Int} (h0 : 0 ≤ x) (h : x < 4294967296) : u32 x = x.toNat := by
  unfold u32
  omega

/-- Only a value in the range of `unsigned int` is unchanged. -/
theorem u32_eq_iff (x : Int) : (u32 x : Int) = x ↔ 0 ≤ x ∧ x < 4294967296 := by
  unfold u32
  omega

/-- Reducing the factors of a product loses nothing of the result. -/
theorem u32_mul (x y : Int) : u32 ((u32 x * u32 y : Nat) : Int) = u32 (x * y) := by
  have hx : (u32 x : Int) = x % 4294967296 := by unfold u32; omega
  have hy : (u32 y : Int) = y % 4294967296 := by unfold u32; omega
  have hcast : ((u32 x * u32 y : Nat) : Int) = x % 4294967296 * (y % 4294967296) := by
    rw [Int.natCast_mul, hx, hy]
  rw [hcast]
  unfold u32
  rw [← Int.mul_emod]

/-- The result of a product depends on a factor only up to reduction. -/
theorem u32_mul_congr (x : Int) {y y' : Int} (h : u32 y = u32 y') : u32 (x * y) = u32 (x * y') := by
  rw [← u32_mul, h, u32_mul]

/-- Passing through `unsigned int` and back loses nothing of an `int`. -/
theorem i32_u32 (x : Int) : i32 (u32 x : Int) = i32 x := by
  unfold u32 i32
  omega

theorem i32_i32 (x : Int) : i32 (i32 x) = i32 x := by
  unfold i32
  omega

/-- The least multiple of `n` not below `x`. -/
def alignUp (x n : Nat) : Nat := (x + n - 1) / n * n

theorem le_alignUp (x : Nat) {n : Nat} (hn : 0 < n) : x ≤ alignUp x n := by
  have h := Nat.lt_div_mul_add (a := x + n - 1) hn
  unfold alignUp
  omega

theorem alignUp_lt (x : Nat) {n : Nat} (hn : 0 < n) : alignUp x n < x + n := by
  have h := Nat.div_mul_le_self (x + n - 1) n
  unfold alignUp
  omega

theorem dvd_alignUp (x n : Nat) : n ∣ alignUp x n :=
  Nat.dvd_mul_left n ((x + n - 1) / n)

/-- Exactly the multiples of `n` are already aligned. -/
theorem alignUp_eq_self_iff (x : Nat) {n : Nat} (hn : 0 < n) : alignUp x n = x ↔ n ∣ x := by
  constructor
  · intro h
    rw [← h]
    exact dvd_alignUp x n
  · rintro ⟨q, rfl⟩
    have hlo := le_alignUp (n * q) hn
    have hhi := alignUp_lt (n * q) hn
    rcases dvd_alignUp (n * q) n with ⟨r, hr⟩
    rw [hr] at hlo hhi ⊢
    have h1 : q ≤ r := Nat.le_of_mul_le_mul_left hlo hn
    have h2 : r < q + 1 := by
      refine Nat.lt_of_mul_lt_mul_left (a := n) ?_
      rw [Nat.mul_add, Nat.mul_one]
      exact hhi
    rw [show r = q by omega]

end Machine
