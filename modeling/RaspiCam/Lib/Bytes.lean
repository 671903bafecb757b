import Mathlib.Data.Int.Basic
import Mathlib.Data.List.Basic
import Mathlib.Logic.Function.Basic

/-!
# Block Copies Between Byte Buffers

A buffer is a function from indices to bytes together with a size kept
elsewhere, and a loop of `memcpy` calls is the list of the ranges it copies.
Keeping the ranges as data is what lets one list answer every question about
the loop: which byte of the source ends up where (`applyAll`), whether every
access stays inside its buffer (`InBlock`), and which bytes of the
destination are written at all (`Written`).

Offsets and lengths are integers rather than naturals: they come out of
machine arithmetic, and a negative one is an access outside the buffer, not
zero.

`rows` is the loop that copies a picture row by row, with its own stride on
either side. When the destination rows are packed (its stride is the length
of a row), the rows tile one interval, `rows_written_iff`.

## Main definitions

* `Copy`: One block copy, by its offsets and its length.
* `InBlock`: A range lies inside a buffer.
* `Copy.Writes`: A copy writes a given destination byte.
* `applyAll`: Performing a list of copies.
* `Written`: Some copy of a list writes a given byte.
* `Apart`: No two copies of a list write the same byte.
* `Tiles`: Copies that fill a buffer and write no byte twice.
* `rows`: The copies of a picture, row by row.
* `overlay`: A list of bytes written from some offset on.

## Theorems

* `applyAll_unwritten`: Bytes no copy writes keep their value.
* `applyAll_value`: A byte whose writers agree gets the value they agree on.
* `applyAll_aligned`: Copies that keep every offset copy the source itself.
* `applyAll_apart`: Of copies that are apart each one brings its own bytes.
* `rows_written_iff`: Packed rows tile an interval.
* `rows_apart`: Rows that are no longer than the stride are apart.
* `rows_value`: Each row brings the row of the source.
* `rows_reads`: Every row lies inside the source.
* `rows_writes`: Every row lies inside the destination.
* `overlay_concat`: Writing one byte more.
-/

namespace Bytes

variable {β : Type*}

/-- One block copy: `len` bytes from offset `src` to offset `dst`. -/
structure Copy where
  dst : Int
  src : Int
  len : Int
deriving DecidableEq

/-- The `len` bytes from `lo` on lie inside a buffer of `size` bytes. An empty
    range touches nothing, so it lies anywhere. -/
def InBlock (lo len : Int) (size : Nat) : Prop :=
  len ≠ 0 → 0 ≤ lo ∧ 0 < len ∧ lo + len ≤ size

instance (lo len : Int) (size : Nat) : Decidable (InBlock lo len size) :=
  inferInstanceAs (Decidable (_ → _))

namespace Copy

/-- The copy writes destination byte `k`. -/
def Writes (c : Copy) (k : Nat) : Prop := c.dst ≤ k ∧ (k : Int) < c.dst + c.len

instance (c : Copy) (k : Nat) : Decidable (c.Writes k) := inferInstanceAs (Decidable (_ ∧ _))

/-- The source index that destination byte `k` is copied from. -/
def origin (c : Copy) (k : Nat) : Nat := (k - c.dst + c.src).toNat

/-- Perform the copy. -/
def apply (c : Copy) (src mem : Nat → β) : Nat → β :=
  fun k => if c.Writes k then src (c.origin k) else mem k

theorem apply_writes {c : Copy} {k : Nat} (src mem : Nat → β) (h : c.Writes k) :
    c.apply src mem k = src (c.origin k) := by
  simp only [apply, if_pos h]

theorem apply_other {c : Copy} {k : Nat} (src mem : Nat → β) (h : ¬ c.Writes k) :
    c.apply src mem k = mem k := by
  simp only [apply, if_neg h]

end Copy

/-- Perform the copies in order. -/
def applyAll (cs : List Copy) (src mem : Nat → β) : Nat → β :=
  cs.foldl (fun m c => c.apply src m) mem

/-- Some copy of the list writes byte `k`. -/
def Written (cs : List Copy) (k : Nat) : Prop := ∃ c ∈ cs, c.Writes k

@[simp] theorem applyAll_nil (src mem : Nat → β) : applyAll [] src mem = mem := rfl

@[simp] theorem applyAll_cons (c : Copy) (cs : List Copy) (src mem : Nat → β) :
    applyAll (c :: cs) src mem = applyAll cs src (c.apply src mem) := rfl

@[simp] theorem not_written_nil (k : Nat) : ¬ Written [] k := by
  rintro ⟨c, hc, _⟩
  exact absurd hc List.not_mem_nil

theorem written_append (cs ds : List Copy) (k : Nat) :
    Written (cs ++ ds) k ↔ Written cs k ∨ Written ds k := by
  simp only [Written, List.mem_append, or_and_right, exists_or]

theorem applyAll_unwritten {cs : List Copy} {k : Nat} (src mem : Nat → β)
    (h : ¬ Written cs k) : applyAll cs src mem k = mem k := by
  induction cs generalizing mem with
  | nil => rfl
  | cons c cs ih =>
      have hc : ¬ c.Writes k := fun hw => h ⟨c, List.mem_cons_self, hw⟩
      have hcs : ¬ Written cs k := fun ⟨d, hd, hw⟩ => h ⟨d, List.mem_cons_of_mem c hd, hw⟩
      rw [applyAll_cons, ih _ hcs, Copy.apply_other src mem hc]

/-- A byte ends up with value `v` when every copy that writes it brings `v`,
    and either some copy writes it or it held `v` to begin with. -/
theorem applyAll_value {cs : List Copy} {k : Nat} {v : β} {src mem : Nat → β}
    (hv : ∀ c ∈ cs, c.Writes k → src (c.origin k) = v)
    (h : mem k = v ∨ Written cs k) : applyAll cs src mem k = v := by
  induction cs generalizing mem with
  | nil => exact h.resolve_right (not_written_nil k)
  | cons c cs ih =>
      rw [applyAll_cons]
      refine ih (fun d hd => hv d (List.mem_cons_of_mem c hd)) ?_
      by_cases hc : c.Writes k
      · exact Or.inl (by rw [Copy.apply_writes src mem hc, hv c List.mem_cons_self hc])
      · rw [Copy.apply_other src mem hc]
        rcases h with h | ⟨d, hd, hw⟩
        · exact Or.inl h
        · rcases List.mem_cons.mp hd with rfl | hd
          · exact absurd hw hc
          · exact Or.inr ⟨d, hd, hw⟩

/-- Copies that keep every offset bring each byte from its own index. -/
theorem applyAll_aligned {cs : List Copy} {k : Nat} {src mem : Nat → β}
    (hal : ∀ c ∈ cs, c.dst = c.src) (h : Written cs k) : applyAll cs src mem k = src k := by
  refine applyAll_value (fun c hc _ => ?_) (Or.inr h)
  have horigin : c.origin k = k := by
    simp only [Copy.origin, hal c hc]
    omega
  rw [horigin]

/-- No two of the copies write the same byte. -/
def Apart (cs : List Copy) : Prop := cs.Pairwise fun c d => ∀ k, ¬ (c.Writes k ∧ d.Writes k)

theorem apart_append {cs ds : List Copy} (hc : Apart cs) (hd : Apart ds)
    (h : ∀ k, ¬ (Written cs k ∧ Written ds k)) : Apart (cs ++ ds) := by
  refine List.pairwise_append.mpr ⟨hc, hd, fun c hcs d hds k hk => ?_⟩
  exact h k ⟨⟨c, hcs, hk.1⟩, ⟨d, hds, hk.2⟩⟩

/-- Of copies that are apart, each one brings its own bytes. -/
theorem applyAll_apart {cs : List Copy} (h : Apart cs) {c : Copy} (hc : c ∈ cs) {k : Nat}
    (hk : c.Writes k) (src mem : Nat → β) : applyAll cs src mem k = src (c.origin k) := by
  induction cs generalizing mem with
  | nil => exact absurd hc List.not_mem_nil
  | cons d cs ih =>
      rw [Apart, List.pairwise_cons] at h
      rw [applyAll_cons]
      rcases List.mem_cons.mp hc with rfl | hc
      · -- The copies after it leave its bytes alone.
        rw [applyAll_unwritten, Copy.apply_writes src mem hk]
        rintro ⟨e, he, hw⟩
        exact h.1 e he k ⟨hk, hw⟩
      · exact ih h.2 hc _

/-- The copies fill a buffer of `size` bytes, and write no byte twice. -/
structure Tiles (cs : List Copy) (size : Nat) : Prop where
  apart : Apart cs
  inside : ∀ c ∈ cs, InBlock c.dst c.len size
  fills : ∀ k < size, Written cs k

theorem Tiles.written_iff {cs : List Copy} {size : Nat} (h : Tiles cs size) (k : Nat) :
    Written cs k ↔ k < size := by
  refine ⟨fun ⟨c, hc, hlo, hhi⟩ => ?_, h.fills k⟩
  have hinside := h.inside c hc (by omega)
  omega

/-- The copies of a picture of `n` rows of `len` bytes each, from `src` on
    with one stride to `dst` on with another. -/
def rows (n dst src dstStride srcStride len : Nat) : List Copy :=
  (List.range n).map fun i =>
    { dst := (dst + i * dstStride : Nat), src := (src + i * srcStride : Nat), len := len }

/-- Packed rows tile the interval they occupy: every byte of it is written,
    and nothing outside it. -/
theorem rows_written_iff (n dst src srcStride len k : Nat) :
    Written (rows n dst src len srcStride len) k ↔ dst ≤ k ∧ k < dst + n * len := by
  constructor
  · rintro ⟨c, hc, hlo, hhi⟩
    rcases List.mem_map.mp hc with ⟨i, hi, rfl⟩
    have hin : i + 1 ≤ n := List.mem_range.mp hi
    have hmul := Nat.mul_le_mul_right len hin
    rw [Nat.succ_mul] at hmul
    simp only at hlo hhi
    omega
  · rintro ⟨hlo, hhi⟩
    have hlen : 0 < len := by
      rcases Nat.eq_zero_or_pos len with rfl | h
      · omega
      · exact h
    -- The row of `k` is the quotient of its distance from the first byte.
    have hrow : (k - dst) / len < n := (Nat.div_lt_iff_lt_mul hlen).mpr (by omega)
    have hle := Nat.div_mul_le_self (k - dst) len
    have hlt := Nat.lt_div_mul_add (a := k - dst) hlen
    refine ⟨_, List.mem_map.mpr ⟨(k - dst) / len, List.mem_range.mpr hrow, rfl⟩, ?_, ?_⟩
    · simp only
      omega
    · simp only
      omega

/-- Rows that are no longer than the stride of the destination are apart. -/
theorem rows_apart {n dst src dstStride srcStride len : Nat} (hlen : len ≤ dstStride) :
    Apart (rows n dst src dstStride srcStride len) := by
  refine List.pairwise_map.mpr (List.pairwise_lt_range.imp fun {i j} hij k hk => ?_)
  have hmul := Nat.mul_le_mul_right dstStride (show i + 1 ≤ j from hij)
  rw [Nat.succ_mul] at hmul
  simp only [Copy.Writes] at hk
  omega

/-- A row of copies that are apart is the row of the source. -/
theorem rows_value {cs : List Copy} (h : Apart cs) {n dst src dstStride srcStride len : Nat}
    (hrows : ∀ c ∈ rows n dst src dstStride srcStride len, c ∈ cs) {i j : Nat} (hi : i < n)
    (hj : j < len) (source mem : Nat → β) :
    applyAll cs source mem (dst + i * dstStride + j) = source (src + i * srcStride + j) := by
  have hc := hrows _ (List.mem_map.mpr ⟨i, List.mem_range.mpr hi, rfl⟩)
  rw [applyAll_apart h hc (k := dst + i * dstStride + j) ⟨by simp only; omega, by simp only; omega⟩]
  congr 1
  simp only [Copy.origin]
  omega

/-- Every row is read inside the source, the last one included. -/
theorem rows_reads {n dst src dstStride srcStride len size : Nat}
    (h : 0 < n → src + (n - 1) * srcStride + len ≤ size) :
    ∀ c ∈ rows n dst src dstStride srcStride len, InBlock c.src c.len size := by
  intro c hc hlen
  rcases List.mem_map.mp hc with ⟨i, hi, rfl⟩
  have hin : i < n := List.mem_range.mp hi
  have hmul := Nat.mul_le_mul_right srcStride (show i ≤ n - 1 by omega)
  have hlast := h (by omega)
  simp only at hlen ⊢
  omega

/-- Every row is written inside the destination, the last one included. -/
theorem rows_writes {n dst src dstStride srcStride len size : Nat}
    (h : 0 < n → dst + (n - 1) * dstStride + len ≤ size) :
    ∀ c ∈ rows n dst src dstStride srcStride len, InBlock c.dst c.len size := by
  intro c hc hlen
  rcases List.mem_map.mp hc with ⟨i, hi, rfl⟩
  have hin : i < n := List.mem_range.mp hi
  have hmul := Nat.mul_le_mul_right dstStride (show i ≤ n - 1 by omega)
  have hlast := h (by omega)
  simp only at hlen ⊢
  omega

/-- The bytes `bs` are written from offset `off` on. -/
def overlay (mem : Nat → β) (off : Nat) (bs : List β) : Nat → β :=
  fun i => if off ≤ i then (bs[i - off]?).getD (mem i) else mem i

theorem overlay_get (mem : Nat → β) (off : Nat) {bs : List β} {i : Nat} (h : i < bs.length) :
    overlay mem off bs (off + i) = bs[i] := by
  rw [overlay, if_pos (Nat.le_add_right off i), Nat.add_sub_cancel_left,
    List.getElem?_eq_getElem h, Option.getD_some]

theorem overlay_other (mem : Nat → β) {off : Nat} {bs : List β} {i : Nat}
    (h : i < off ∨ off + bs.length ≤ i) : overlay mem off bs i = mem i := by
  unfold overlay
  by_cases hi : off ≤ i
  · rw [if_pos hi, List.getElem?_eq_none (by omega), Option.getD_none]
  · rw [if_neg hi]

theorem overlay_nil (mem : Nat → β) (off : Nat) : overlay mem off [] = mem :=
  funext fun i => overlay_other mem (Nat.lt_or_ge i off)

/-- One byte more is written behind the others. -/
theorem overlay_concat (mem : Nat → β) (off : Nat) (bs : List β) (b : β) :
    overlay mem off (bs ++ [b]) = Function.update (overlay mem off bs) (off + bs.length) b := by
  funext i
  rcases Nat.lt_trichotomy i (off + bs.length) with hlt | rfl | hgt
  · rw [Function.update_of_ne (Nat.ne_of_lt hlt)]
    unfold overlay
    by_cases hi : off ≤ i
    · rw [if_pos hi, if_pos hi, List.getElem?_append_left (by omega)]
    · rw [if_neg hi, if_neg hi]
  · rw [Function.update_self,
      overlay_get mem off (by rw [List.length_append]; exact Nat.lt_succ_self _),
      List.getElem_concat_length rfl]
  · rw [Function.update_of_ne (Nat.ne_of_gt hgt), overlay_other mem (Or.inr (Nat.le_of_lt hgt)),
      overlay_other]
    rw [List.length_append]
    exact Or.inr hgt

end Bytes
