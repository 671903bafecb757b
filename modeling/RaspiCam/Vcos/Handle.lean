import RaspiCam.Vcos.Blockpool

/-!
# Handles of Blocks

A handle is a block as a number of 32 bits: the index of the block in its
subpool and the subpool, next to each other. The index is one more than it is,
so that no handle is zero.

## Main definitions

* `elemToHandle`, `elemFromHandle`: The two ways.

## Theorems

* `handle_iff`: Blocks in use and their handles are the same thing.
-/

namespace RaspiCam

namespace Vcos

open Machine Memory Transition

/-- `VCOS_BLOCKPOOL_HANDLE_CREATE`. -/
def handleCreate (index subpool : BitVec 32) : BitVec 32 := ((index + 1) <<< 3) ||| subpool

/-- `VCOS_BLOCKPOOL_HANDLE_GET_INDEX`. -/
def handleGetIndex (handle : BitVec 32) : BitVec 32 := (handle >>> 3) - 1

/-- `VCOS_BLOCKPOOL_HANDLE_GET_SUBPOOL`. -/
def handleGetSubpool (handle : BitVec 32) : BitVec 32 := handle &&& 7

/-- `vcos_generic_blockpool_elem_to_handle`. The assertions say that the block is
    in use. -/
def elemToHandle (p : Blockpool) (block : Nat) : Option (BitVec 32) :=
  let hdr := block - sizeofHeader
  match p.headers hdr with
  | .next _ => none
  | .subpool i =>
    match (p.subpools i).start with
    | none => none
    | some start =>
      let index := (hdr - start) / p.blockSize
      some (handleCreate (BitVec.ofNat 32 index) (BitVec.ofNat 32 i))

/-- `vcos_generic_blockpool_elem_from_handle`. -/
def elemFromHandle (p : Blockpool) (handle : BitVec 32) : Option Nat :=
  let subpoolId := (handleGetSubpool handle).toNat
  if subpoolId < p.numSubpools then
    let index := (handleGetIndex handle).toNat
    match (p.subpools subpoolId).mem, (p.subpools subpoolId).start with
    | some _, some start =>
      if index < (p.subpools subpoolId).numBlocks then
        let hdr := u32 (start + index * p.blockSize : Nat)
        -- Check block is allocated.
        if p.headers hdr = .subpool subpoolId then some (hdr + sizeofHeader) else none
      else none
    | _, _ => none
  else none

/-- As numbers, the index and the subpool are next to each other. -/
theorem handleCreate_toNat {i k : Nat} (hi : i + 1 < 2 ^ 29) (hk : k < 2 ^ 3) :
    (handleCreate (BitVec.ofNat 32 i) (BitVec.ofNat 32 k)).toNat = (i + 1) * 8 + k := by
  have hone : (1 : BitVec 32).toNat = 1 := rfl
  have hindex : (BitVec.ofNat 32 i + 1).toNat = i + 1 := by
    rw [BitVec.toNat_add, BitVec.toNat_ofNat, hone]
    omega
  have hshift : ((BitVec.ofNat 32 i + 1) <<< 3).toNat = (i + 1) <<< 3 := by
    rw [BitVec.toNat_shiftLeft, hindex, Nat.shiftLeft_eq]
    exact Nat.mod_eq_of_lt (by omega)
  have hsubpool : (BitVec.ofNat 32 k).toNat = k := by
    rw [BitVec.toNat_ofNat]
    exact Nat.mod_eq_of_lt (by omega)
  rw [handleCreate, BitVec.toNat_or, hshift, hsubpool, ← Nat.shiftLeft_add_eq_or_of_lt hk,
    Nat.shiftLeft_eq]

theorem handleGetSubpool_toNat (h : BitVec 32) : (handleGetSubpool h).toNat = h.toNat % 8 := by
  rw [handleGetSubpool, BitVec.toNat_and]
  exact Nat.and_two_pow_sub_one_eq_mod h.toNat 3

/-- The index of handle zero is the largest number. -/
theorem handleGetIndex_toNat (h : BitVec 32) :
    (handleGetIndex h).toNat = if h.toNat < 8 then 2 ^ 32 - 1 else h.toNat / 8 - 1 := by
  have hlt := h.isLt
  have hshift : (h >>> 3).toNat = h.toNat / 8 := by
    rw [BitVec.toNat_ushiftRight, Nat.shiftRight_eq_div_pow]
  have hone : (1 : BitVec 32).toNat = 1 := rfl
  rw [handleGetIndex, BitVec.toNat_sub, hshift, hone]
  split <;> omega

/-- `VCOS_BLOCKPOOL_HANDLE_CREATE` loses nothing. -/
theorem handle_parts {i k : Nat} (hi : i + 1 < 2 ^ 29) (hk : k < 2 ^ 3) :
    let h := handleCreate (BitVec.ofNat 32 i) (BitVec.ofNat 32 k)
    (handleGetSubpool h).toNat = k ∧ (handleGetIndex h).toNat = i := by
  simp only [handleGetSubpool_toNat, handleGetIndex_toNat, handleCreate_toNat hi hk]
  rw [if_neg (by omega)]
  omega

/-- It gets back what was taken apart. -/
theorem handle_whole {h : BitVec 32} {i k : Nat} (hi : (handleGetIndex h).toNat = i)
    (hk : (handleGetSubpool h).toNat = k) (hlt : i + 1 < 2 ^ 29) :
    handleCreate (BitVec.ofNat 32 i) (BitVec.ofNat 32 k) = h := by
  rw [handleGetIndex_toNat] at hi
  rw [handleGetSubpool_toNat] at hk
  refine BitVec.eq_of_toNat_eq ?_
  rw [handleCreate_toNat hlt (by omega)]
  split at hi <;> omega

variable {p : Blockpool} {used : List Nat} {i b n blockSize align mem : Nat} {s : PoolRun}

/-- The header of a block says that it is in use exactly if it is. -/
theorem header_iff (hs : Sound p used) {hdr : Nat} (hb : hdr ∈ p.blocksOf i) :
    p.headers hdr = .subpool i ↔ hdr + sizeofHeader ∈ used := by
  constructor
  · intro howner
    by_contra hunused
    obtain ⟨start, hstart⟩ := start_of_mem_blocksOf hb
    obtain ⟨xs, e, -, -, hlinked, hxs⟩ := hs.listed i (by simp [hstart])
    obtain ⟨next, hnext⟩ := hlinked hdr ((hxs hdr).mpr ⟨hb, hunused⟩)
    rw [howner] at hnext
    cases hnext
  · intro hused
    obtain ⟨j, hdr', hb', heq, howner⟩ := hs.owned _ hused
    rw [← Nat.add_right_cancel heq] at hb' howner
    rwa [hs.laid.unique hb hb']

/-- The handle of a block in use. -/
theorem elemToHandle_eq (hs : Sound p used) {start k : Nat}
    (hstart : (p.subpools i).start = some start)
    (howner : p.headers (start + p.blockSize * k) = .subpool i) :
    elemToHandle p (start + p.blockSize * k + sizeofHeader) =
      some (handleCreate (BitVec.ofNat 32 k) (BitVec.ofNat 32 i)) := by
  simp only [elemToHandle, Nat.add_sub_cancel, howner, hstart, Nat.add_sub_cancel_left,
    Nat.mul_div_cancel_left k hs.laid.size_pos]

/-- What a handle leads to: a block in use, in the subpool and at the index that
    it names. -/
theorem elemFromHandle_iff (hs : Sound p used) {h : BitVec 32} :
    elemFromHandle p h = some b ↔ ∃ start,
      (p.subpools (handleGetSubpool h).toNat).start = some start ∧
      (handleGetIndex h).toNat < (p.subpools (handleGetSubpool h).toNat).numBlocks ∧
      b = start + p.blockSize * (handleGetIndex h).toNat + sizeofHeader ∧ b ∈ used := by
  generalize hk : (handleGetSubpool h).toNat = k
  generalize hx : (handleGetIndex h).toNat = x
  simp only [elemFromHandle, hk, hx, Nat.mul_comm x]
  have hplace := hs.laid.place k
  cases hmem : (p.subpools k).mem with
  | none =>
      rw [hmem, Option.map_none] at hplace
      simp [hplace]
  | some m =>
      rw [hmem, Option.map_some] at hplace
      have haddress : ∀ y < (p.subpools k).numBlocks,
          u32 (startOf m p.align + p.blockSize * y : Nat) =
            startOf m p.align + p.blockSize * y := by
        intro y hy
        obtain ⟨hfits, hroom⟩ := hs.laid.fits k m hmem
        have hend := hfits.blocks_end hs.laid.align hroom
        have hmul := Nat.mul_le_mul_left p.blockSize hy.le
        rw [← hs.laid.size] at hend
        exact u32_of_range (by omega)
      have hknown := hs.laid.known k (by simp [hplace])
      simp only [hplace, if_pos hknown, Option.some.injEq, exists_eq_left']
      by_cases hlt : x < (p.subpools k).numBlocks
      · have hblock : startOf m p.align + p.blockSize * x ∈ p.blocksOf k :=
          (mem_blocksOf hplace).mpr (mem_blocks.mpr ⟨x, hlt, rfl⟩)
        rw [if_pos hlt, haddress x hlt]
        split
        · rename_i howner
          have hused := (header_iff hs hblock).mp howner
          constructor
          · intro heq
            cases heq
            exact ⟨hlt, rfl, hused⟩
          · rintro ⟨-, rfl, -⟩
            rfl
        · rename_i howner
          simp only [reduceCtorEq, false_iff]
          rintro ⟨-, rfl, hused⟩
          exact howner ((header_iff hs hblock).mpr hused)
      · simp [hlt]

/-- A handle leads to a block exactly if it is the handle of the block, and the
    block is in use. What is left of the 32 bits is enough for the index. -/
theorem handle_iff {ops : List PoolOp} (hp : Created n blockSize align mem p)
    (hfits : Along poolStep (fun s op => op.Fits s) (.init p) ops)
    (hrun : run poolStep (.init p) ops = some s)
    (hn : n < 2 ^ 29) (hext : s.pool.numExtensionBlocks < 2 ^ 29) (h : BitVec 32) (b : Nat) :
    elemFromHandle s.pool h = some b ↔ b ∈ s.used ∧ elemToHandle s.pool b = some h := by
  obtain ⟨hs, hbased, -, -, -⟩ := made_run hp hfits hrun
  have hmany : ∀ i, (s.pool.subpools i).start.isSome = true →
      (s.pool.subpools i).numBlocks < 2 ^ 29 := fun i hstart => by
    by_cases hi : i = 0
    · rwa [hi, hbased.blocks]
    · rwa [hs.laid.extended i hi hstart]
  rw [elemFromHandle_iff hs]
  constructor
  · rintro ⟨start, hstart, hlt, rfl, hused⟩
    have hblock : start + s.pool.blockSize * (handleGetIndex h).toNat ∈
        s.pool.blocksOf (handleGetSubpool h).toNat :=
      (mem_blocksOf hstart).mpr (mem_blocks.mpr ⟨_, hlt, rfl⟩)
    have hmax := hmany _ (by rw [hstart]; rfl)
    refine ⟨hused, ?_⟩
    rw [elemToHandle_eq hs hstart ((header_iff hs hblock).mpr hused)]
    exact congrArg some (handle_whole rfl rfl (by omega))
  · rintro ⟨hused, hhandle⟩
    obtain ⟨i, hdr, hblock, rfl, howner⟩ := hs.owned b hused
    obtain ⟨start, hstart⟩ := start_of_mem_blocksOf hblock
    obtain ⟨k, hk, rfl⟩ := mem_blocks.mp ((mem_blocksOf hstart).mp hblock)
    have hi := hs.laid.known i (by simp [hstart])
    have hmax := hmany i (by simp [hstart])
    have hfew := hs.laid.few
    simp only [maxSubpools] at hfew
    rw [elemToHandle_eq hs hstart howner, Option.some.injEq] at hhandle
    obtain ⟨hsubpool, hindex⟩ := handle_parts (i := k) (k := i) (by omega) (by omega)
    rw [← hhandle, hsubpool, hindex]
    exact ⟨start, hstart, hk, rfl, hused⟩

/-- The handle of the only block in use, and the block of that handle. -/
theorem handle_iff_one : ∃ p s, Created 2 10 4 1000 p ∧
    run poolStep (.init p) [.alloc fun _ => none] = some s ∧ s.used = [1020] ∧
    (elemFromHandle s.pool 16 = some 1020 ↔
      1020 ∈ s.used ∧ elemToHandle s.pool 1020 = some 16) := by
  refine ⟨_, _, ⟨by decide, by decide, rfl⟩, rfl, rfl, ?_⟩
  exact handle_iff (show Created 2 10 4 1000 _ from ⟨by decide, by decide, rfl⟩) (by decide)
    (show run poolStep _ [.alloc fun _ => none] = some _ from rfl) (by decide) (by decide) 16 1020

end Vcos

end RaspiCam
