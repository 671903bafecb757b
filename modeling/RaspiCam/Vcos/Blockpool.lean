import Mathlib.Algebra.BigOperators.Group.Finset.Basic
import Mathlib.Data.List.Perm.Basic
import RaspiCam.Lib.Blocks
import RaspiCam.Lib.Chain
import RaspiCam.Lib.Machine
import RaspiCam.Lib.Run

/-!
# The Pool of Blocks

`vcos_generic_blockpool.c` hands out blocks of one size. A pool has up to eight
subpools, each cut from one piece of memory. In front of every block is a header
of one word, and a union: the next block on the free list of the subpool, or,
for a block that is in use, the subpool. The first subpool is there from the
beginning, and the others are allocated when all are full.

Sizes, counts and addresses have 32 bits, and nothing checks that they do not
wrap around. A pool whose size wraps around has less memory than its blocks need,
and maybe no block on its free list, so the size has to fit, `Fits`.

`vcos_generic_blockpool_subpool_init` does not look at the flags it gets. A
subpool that was allocated later is not marked as such, so it is never given
back, neither with its last block nor with the pool, `extension_memory_lost`.

## Main definitions

* `Owner`, `Subpool`, `Blockpool`: What the memory holds.
* `blockpoolAlloc`, `blockpoolFree`: The operations on it.
* `PoolRun`, `poolStep`: A pool and the blocks that are in use.
* `Fits`: So many blocks take less than 32 bits can say.
* `Sound`: The invariant.

## Theorems

* `sound_step`: Every step keeps the invariant.
* `blocks_in_use`: Blocks in use are aligned and do not overlap.
* `counts_add_up`: What the counts say.
* `alloc_null_iff`: When there is no block.
* `extension_memory_lost`: What becomes of the memory.
* `createOnHeap_error_iff`: When a pool cannot be created.
-/

namespace RaspiCam

namespace Vcos

open Chains Machine Memory Transition

/-- `sizeof(VCOS_BLOCKPOOL_HEADER_T)`, a pointer. -/
def sizeofHeader : Nat := 4

/-- `VCOS_BLOCKPOOL_MAX_SUBPOOLS`. -/
def maxSubpools : Nat := 8

/-- The owner of a block, in its header. -/
inductive Owner
  | next (block : Option Nat)
  | subpool (i : Nat)
deriving DecidableEq

/-- A subpool. The end of its memory is only there for assertions. -/
structure Subpool where
  freeList : Option Nat
  mem : Option Nat
  start : Option Nat
  numBlocks : Nat
  availableBlocks : Nat
  ownsMem : Bool
  extension : Bool
deriving DecidableEq

/-- What `memset` leaves of a subpool. -/
def Subpool.zero : Subpool := ⟨none, none, none, 0, 0, false, false⟩

/-- A pool. A subpool is known by its index, and `headers` is the memory in front
    of the blocks. -/
structure Blockpool where
  align : Nat
  blockDataSize : Nat
  blockSize : Nat
  numSubpools : Nat
  numExtensionBlocks : Nat
  subpools : Nat → Subpool
  headers : Nat → Owner

inductive VcosStatus
  | success
  | einval
  | enomem
  | eaccess
deriving DecidableEq

/-- `VCOS_BLOCKPOOL_ROUND_UP`. -/
def blockpoolRoundUp (x s : Nat) : Nat :=
  if s = 0 then 0 else u32 (x + (s - 1) : Nat) - (u32 (x + (s - 1) : Nat) &&& (s - 1))

/-- A block with its header. -/
def paddedSize (blockSize align : Nat) : Nat :=
  blockpoolRoundUp (u32 (blockSize + (if 4096 ≤ align then 32 else 0) + sizeofHeader : Nat)) align

/-- `VCOS_BLOCKPOOL_SIZE`. -/
def blockpoolSize (numBlocks blockSize align : Nat) : Nat :=
  u32 (paddedSize blockSize align * numBlocks + align : Nat)

/-- A subpool with other contents. -/
def Blockpool.setSubpool (p : Blockpool) (i : Nat) (s : Subpool) : Blockpool :=
  { p with subpools := Function.update p.subpools i s }

/-- A block goes to the front of the free list. -/
def Blockpool.pushFree (i : Nat) (p : Blockpool) (block : Nat) : Blockpool :=
  { p.setSubpool i { p.subpools i with freeList := some block } with
    headers := Function.update p.headers block (.next (p.subpools i).freeList) }

/-- Where the first header is, so that the data behind it is aligned. -/
def startOf (mem align : Nat) : Nat :=
  u32 (blockpoolRoundUp (mem + sizeofHeader) align - sizeofHeader : Int)

/-- `vcos_generic_blockpool_subpool_init`. The flags that it gets are not used.
    The loop ends at the end of the last block. -/
def Blockpool.subpoolInit (p : Blockpool) (i mem numBlocks : Nat) : Blockpool :=
  let start := startOf mem p.align
  let s := { p.subpools i with
    mem := some mem
    start := some start
    numBlocks := numBlocks
    availableBlocks := numBlocks
    freeList := none }
  let stop := u32 (start + p.blockSize * numBlocks : Nat)
  (upTo (fun block => u32 (block + p.blockSize : Nat)) stop (stop + 1) start).foldl
    (Blockpool.pushFree i) (p.setSubpool i s)

/-- `VCOS_BLOCKPOOL_ALIGN_DEFAULT` is a word. -/
def alignOr (align : Nat) : Nat := if align = 0 then sizeofHeader else align

/-- `vcos_generic_blockpool_init`. The mutex is always created. -/
def blockpoolInit (numBlocks blockSize start poolSize align : Nat) : Except VcosStatus Blockpool :=
  let align := alignOr align
  if align % 4 ≠ 0 then .error .einval
  else if poolSize < blockpoolSize numBlocks blockSize align then .error .enomem
  else
    let p : Blockpool := {
      align := align
      blockDataSize := blockSize
      blockSize := paddedSize blockSize align
      numSubpools := 1
      numExtensionBlocks := 0
      subpools := fun _ => Subpool.zero
      headers := fun _ => .next none }
    .ok (p.subpoolInit 0 start numBlocks)

/-- `vcos_generic_blockpool_create_on_heap`, with what `vcos_malloc` returns. If
    it fails, it gives the memory to `free`, and not to `vcos_free`. -/
def createOnHeap (numBlocks blockSize align : Nat) (malloc : Option Nat) :
    Except (VcosStatus × Option Nat) Blockpool :=
  match malloc with
  | none => .error (.enomem, none)
  | some mem =>
    match blockpoolInit numBlocks blockSize mem (blockpoolSize numBlocks blockSize align) align with
    | .error status => .error (status, some mem)
    | .ok p => .ok (p.setSubpool 0 { p.subpools 0 with ownsMem := true })

/-- `vcos_generic_blockpool_extend`. -/
def blockpoolExtend (p : Blockpool) (numExtensions numBlocks : Nat) : VcosStatus × Blockpool :=
  if 1 < p.numSubpools then (.eaccess, p)
  else if numExtensions < 1 ∨ maxSubpools - 1 < numExtensions then (.einval, p)
  else if numBlocks < 1 then (.einval, p)
  else
    (.success, { p with
      numSubpools := p.numSubpools + numExtensions
      numExtensionBlocks := numBlocks
      subpools := fun i =>
        if 1 ≤ i ∧ i < p.numSubpools + numExtensions then
          { p.subpools i with start := none, mem := none }
        else p.subpools i })

/-- The first subpool with a free block. -/
def Blockpool.firstFree (p : Blockpool) : Option Nat :=
  (List.range p.numSubpools).find? fun i =>
    (p.subpools i).start.isSome && decide (0 < (p.subpools i).availableBlocks)

/-- The first subpool for which there is memory, and the memory. -/
def Blockpool.grow (p : Blockpool) (malloc : Nat → Option Nat) : Option (Nat × Nat) :=
  (List.range' 1 (p.numSubpools - 1)).findSome? fun i =>
    if (p.subpools i).start.isSome then none else (malloc i).map fun mem => (i, mem)

/-- The first block on the free list is taken. Without one a null pointer is
    dereferenced. -/
def Blockpool.takeFree (p : Blockpool) (i : Nat) : Option (Nat × Blockpool) :=
  match (p.subpools i).freeList with
  | none => none
  | some nb =>
    let next := match p.headers nb with
      | .next block => block
      | .subpool _ => none
    let s := { p.subpools i with
      freeList := next
      availableBlocks := (p.subpools i).availableBlocks - 1 }
    some (nb + sizeofHeader, { p.setSubpool i s with
      headers := Function.update p.headers nb (.subpool i) })

/-- `vcos_generic_blockpool_alloc`, with what `vcos_malloc` returns for every
    subpool. -/
def blockpoolAlloc (p : Blockpool) (malloc : Nat → Option Nat) :
    Option (Option Nat × Blockpool) :=
  match p.firstFree with
  | some i => (p.takeFree i).map fun (block, q) => (some block, q)
  | none =>
    match p.grow malloc with
    | some (i, mem) =>
      ((p.subpoolInit i mem p.numExtensionBlocks).takeFree i).map fun (block, q) => (some block, q)
    | none => some (none, p)

/-- `vcos_generic_blockpool_free`. The header says to which subpool a block
    belongs, or it is no block in use, which an assertion is about. The memory
    that is freed is returned, too. -/
def blockpoolFree (p : Blockpool) (block : Nat) : Option (Option Nat × Blockpool) :=
  let hdr := block - sizeofHeader
  match p.headers hdr with
  | .next _ => none
  | .subpool i =>
    let q := p.pushFree i hdr
    let s : Subpool := { q.subpools i with
      availableBlocks := u32 ((q.subpools i).availableBlocks + 1 : Nat) }
    if s.extension = true ∧ s.availableBlocks = s.numBlocks then
      some (s.mem, q.setSubpool i { s with mem := none, start := none })
    else some (none, q.setSubpool i s)

/-- `vcos_generic_blockpool_available_count`. -/
def availableCount (p : Blockpool) : Nat :=
  u32 ((List.range p.numSubpools).map fun i =>
    if (p.subpools i).start.isSome then (p.subpools i).availableBlocks
    else p.numExtensionBlocks).sum

/-- `vcos_generic_blockpool_used_count`. -/
def usedCount (p : Blockpool) : Nat :=
  u32 ((List.range p.numSubpools).map fun i =>
    if (p.subpools i).start.isSome then
      (p.subpools i).numBlocks - (p.subpools i).availableBlocks
    else 0).sum

/-- `vcos_generic_blockpool_delete`: the memory that it frees. -/
def blockpoolDelete (p : Blockpool) : List Nat :=
  (List.range p.numSubpools).filterMap fun i =>
    if (p.subpools i).ownsMem = true then (p.subpools i).mem else none

/-- A pool, the blocks that are in use, and the memory that was allocated for
    it and freed since it was created. -/
structure PoolRun where
  pool : Blockpool
  used : List Nat
  obtained : List Nat
  freed : List Nat

inductive PoolOp
  | extend (numExtensions numBlocks : Nat)
  | alloc (malloc : Nat → Option Nat)
  | free (block : Nat)

/-- Memory for one more subpool is new: it ends where the addresses do at the
    latest, and it does not overlap with the others. -/
def Blockpool.isNew (p : Blockpool) (mem : Nat) : Bool :=
  let size := blockpoolSize p.numExtensionBlocks p.blockDataSize p.align
  decide (mem + size ≤ 2 ^ 32) && (List.range p.numSubpools).all fun i =>
    match (p.subpools i).mem with
    | none => true
    | some m =>
      decide (mem + size ≤ m ∨
        m + blockpoolSize (p.subpools i).numBlocks p.blockDataSize p.align ≤ mem)

/-- A client only frees a block that it has, and `vcos_malloc` returns memory
    that is not in use. -/
def poolStep (s : PoolRun) : PoolOp → Option PoolRun
  | .extend numExtensions numBlocks =>
    some { s with pool := (blockpoolExtend s.pool numExtensions numBlocks).2 }
  | .alloc malloc =>
    if (List.range s.pool.numSubpools).all fun i => (malloc i).all s.pool.isNew then
      let obtained := match s.pool.firstFree with
        | some _ => []
        | none => ((s.pool.grow malloc).map Prod.snd).toList
      (blockpoolAlloc s.pool malloc).map fun (ret, pool) =>
        { s with pool := pool, used := ret.toList ++ s.used, obtained := obtained ++ s.obtained }
    else none
  | .free block =>
    if block ∈ s.used then
      (blockpoolFree s.pool block).map fun (mem, pool) =>
        { s with pool := pool, used := s.used.erase block, freed := mem.toList ++ s.freed }
    else none

/-- What a block with its header takes, without a reduction to 32 bits. -/
def bytesPerBlock (blockSize align : Nat) : Nat :=
  roundUp (blockSize + (if 4096 ≤ align then 32 else 0) + sizeofHeader) align

/-- What so many blocks take. -/
def bytesFor (numBlocks blockSize align : Nat) : Nat :=
  bytesPerBlock blockSize align * numBlocks + align

/-- There are blocks, and the size of their memory fits into 32 bits. -/
def Fits (numBlocks blockSize align : Nat) : Prop :=
  0 < numBlocks ∧ bytesFor numBlocks blockSize (alignOr align) < 2 ^ 32

instance (numBlocks blockSize align : Nat) : Decidable (Fits numBlocks blockSize align) :=
  inferInstanceAs (Decidable (_ ∧ _))

/-- A pool is only extended by subpools whose size fits. -/
def PoolOp.Fits (s : PoolRun) : PoolOp → Prop
  | .extend numExtensions numBlocks =>
    (blockpoolExtend s.pool numExtensions numBlocks).1 = .success →
      Vcos.Fits numBlocks s.pool.blockDataSize s.pool.align
  | _ => True

instance (s : PoolRun) : ∀ op : PoolOp, Decidable (op.Fits s)
  | .extend _ _ => inferInstanceAs (Decidable (_ → _))
  | .alloc _ | .free _ => inferInstanceAs (Decidable True)

/-- The word that a link is in: of a subpool, or in front of a block. -/
inductive Slot
  | head (i : Nat)
  | block (b : Nat)
deriving DecidableEq

/-- The links of the free lists. -/
def Blockpool.links (p : Blockpool) : Slot → Option Nat
  | .head i => (p.subpools i).freeList
  | .block b => match p.headers b with
    | .next block => block
    | .subpool _ => none

/-- The headers of a subpool. -/
def Blockpool.blocksOf (p : Blockpool) (i : Nat) : List Nat :=
  match (p.subpools i).start with
  | none => []
  | some start => blocks start p.blockSize (p.subpools i).numBlocks

/-- How the subpools are laid out. Each is cut from memory of its own. -/
structure Laid (p : Blockpool) : Prop where
  align : 0 < p.align
  size : p.blockSize = bytesPerBlock p.blockDataSize p.align
  few : p.numSubpools ≤ maxSubpools
  grows : 1 < p.numSubpools → Fits p.numExtensionBlocks p.blockDataSize p.align
  fits : ∀ i m, (p.subpools i).mem = some m →
    Fits (p.subpools i).numBlocks p.blockDataSize p.align ∧
      m + bytesFor (p.subpools i).numBlocks p.blockDataSize p.align ≤ 2 ^ 32
  first : (p.subpools 0).start.isSome = true
  known : ∀ i, (p.subpools i).start.isSome = true → i < p.numSubpools
  place : ∀ i, (p.subpools i).start = (p.subpools i).mem.map fun mem => startOf mem p.align
  extended : ∀ i, i ≠ 0 → (p.subpools i).start.isSome = true →
    (p.subpools i).numBlocks = p.numExtensionBlocks
  apart : ∀ i j m n, i ≠ j → (p.subpools i).mem = some m → (p.subpools j).mem = some n →
    m + bytesFor (p.subpools i).numBlocks p.blockDataSize p.align ≤ n ∨
      n + bytesFor (p.subpools j).numBlocks p.blockDataSize p.align ≤ m
  flags : ∀ i, (p.subpools i).extension = false ∧ ((p.subpools i).ownsMem = true → i = 0)

/-- The header of a block has a link, as on a free list. -/
def Linked (p : Blockpool) (b : Nat) : Prop := ∃ next, p.headers b = .next next

/-- The free list of a subpool has the blocks that are not in use. -/
def Listed (p : Blockpool) (used : List Nat) (i : Nat) : Prop :=
  ∃ xs e, Chain Slot.block p.links (.head i) xs e ∧
    xs.length = (p.subpools i).availableBlocks ∧ (∀ b ∈ xs, Linked p b) ∧
    ∀ b, b ∈ xs ↔ b ∈ p.blocksOf i ∧ b + sizeofHeader ∉ used

/-- A block in use belongs to a subpool. -/
def Owned (p : Blockpool) (b : Nat) : Prop :=
  ∃ i, ∃ hdr ∈ p.blocksOf i, b = hdr + sizeofHeader ∧ p.headers hdr = .subpool i

/-- Every block is on a free list, or in use. -/
structure Sound (p : Blockpool) (used : List Nat) : Prop where
  laid : Laid p
  listed : ∀ i, (p.subpools i).start.isSome = true → Listed p used i
  nodup : used.Nodup
  owned : ∀ b ∈ used, Owned p b

/-- A block has room for its data and the header in front of the next one. -/
theorem le_bytesPerBlock (blockSize : Nat) {align : Nat} (h : 0 < align) :
    blockSize + (if 4096 ≤ align then 32 else 0) + sizeofHeader ≤ bytesPerBlock blockSize align :=
  le_roundUp _ h

theorem alignOr_eq {align : Nat} (h : 0 < align) : alignOr align = align := by
  rw [alignOr, if_neg (by omega)]

/-- The reductions do nothing as long as there is no overflow. -/
theorem blockpoolRoundUp_eq {x s : Nat} (h : x + (s - 1) < 2 ^ 32) :
    blockpoolRoundUp x s = roundUp x s := by
  rw [blockpoolRoundUp, roundUp, u32_of_range h]

section Fits

variable {numBlocks blockSize align mem : Nat}

/-- A size that fits is larger than what is rounded up for it. -/
theorem Fits.padding (h : Fits numBlocks blockSize align) (halign : 0 < align) :
    blockSize + (if 4096 ≤ align then 32 else 0) + sizeofHeader + align < 2 ^ 32 := by
  obtain ⟨hpos, hfits⟩ := h
  have hle := le_bytesPerBlock blockSize halign
  have hmul := Nat.le_mul_of_pos_right (bytesPerBlock blockSize align) hpos
  rw [alignOr_eq halign, bytesFor] at hfits
  omega

theorem Fits.paddedSize_eq (h : Fits numBlocks blockSize align) (halign : 0 < align) :
    paddedSize blockSize align = bytesPerBlock blockSize align := by
  have hpadding := h.padding halign
  rw [paddedSize, u32_of_range (by omega), blockpoolRoundUp_eq (by omega), bytesPerBlock]

theorem Fits.blockpoolSize_eq (h : Fits numBlocks blockSize align) (halign : 0 < align) :
    blockpoolSize numBlocks blockSize align = bytesFor numBlocks blockSize align := by
  have hfits := h.2
  rw [alignOr_eq halign, bytesFor] at hfits
  rw [blockpoolSize, h.paddedSize_eq halign, u32_of_range hfits, bytesFor]

/-- Memory of that size has room for the header in front of the first block. -/
theorem Fits.room (h : Fits numBlocks blockSize align) (halign : 0 < align)
    (hmem : mem + bytesFor numBlocks blockSize align ≤ 2 ^ 32) :
    mem + sizeofHeader + align ≤ 2 ^ 32 := by
  have hle := le_bytesPerBlock blockSize halign
  have hmul := Nat.le_mul_of_pos_right (bytesPerBlock blockSize align) h.1
  rw [bytesFor] at hmem
  omega

theorem startOf_eq (halign : 0 < align) (hmem : mem + sizeofHeader + align ≤ 2 ^ 32) :
    startOf mem align + sizeofHeader = roundUp (mem + sizeofHeader) align := by
  have hlow := le_roundUp (mem + sizeofHeader) halign
  have hhigh := roundUp_le (mem + sizeofHeader) align
  rw [startOf, blockpoolRoundUp_eq (by omega)]
  simp only [sizeofHeader, u32] at hlow hhigh hmem ⊢
  omega

theorem startOf_bounds (halign : 0 < align) (hmem : mem + sizeofHeader + align ≤ 2 ^ 32) :
    mem ≤ startOf mem align ∧ startOf mem align ≤ mem + (align - 1) := by
  have hstart := startOf_eq halign hmem
  have hlow := le_roundUp (mem + sizeofHeader) halign
  have hhigh := roundUp_le (mem + sizeofHeader) align
  omega

/-- The blocks end with the memory or before. -/
theorem Fits.blocks_end (h : Fits numBlocks blockSize align) (halign : 0 < align)
    (hmem : mem + bytesFor numBlocks blockSize align ≤ 2 ^ 32) :
    startOf mem align + bytesPerBlock blockSize align * numBlocks <
      mem + bytesFor numBlocks blockSize align := by
  have hbounds := startOf_bounds halign (h.room halign hmem)
  rw [bytesFor]
  omega

end Fits

variable {p q : Blockpool} {i j b c : Nat}

theorem mem_blocksOf {start : Nat} (h : (p.subpools i).start = some start) :
    b ∈ p.blocksOf i ↔ b ∈ blocks start p.blockSize (p.subpools i).numBlocks := by
  rw [Blockpool.blocksOf, h]

theorem start_of_mem_blocksOf (h : b ∈ p.blocksOf i) :
    ∃ start, (p.subpools i).start = some start := by
  rw [Blockpool.blocksOf] at h
  split at h
  · simp at h
  · rename_i start hstart
    exact ⟨start, hstart⟩

/-- The blocks of a subpool are in its memory. -/
theorem Laid.within (h : Laid p) (hb : b ∈ p.blocksOf i) : ∃ mem, (p.subpools i).mem = some mem ∧
    mem ≤ b ∧ b + p.blockSize ≤
      mem + bytesFor (p.subpools i).numBlocks p.blockDataSize p.align := by
  obtain ⟨start, hstart⟩ := start_of_mem_blocksOf hb
  have hplace := h.place i
  rw [hstart] at hplace
  obtain ⟨mem, hmem, hm⟩ := Option.map_eq_some_iff.mp hplace.symm
  obtain ⟨hfits, hroom⟩ := h.fits i mem hmem
  have hin := blocks_within ((mem_blocksOf hstart).mp hb)
  have hbounds := startOf_bounds h.align (hfits.room h.align hroom)
  have hend := hfits.blocks_end h.align hroom
  rw [← h.size] at hend
  exact ⟨mem, hmem, by omega, by omega⟩

theorem Laid.room (h : Laid p) : p.blockDataSize + sizeofHeader ≤ p.blockSize := by
  have hle := le_bytesPerBlock p.blockDataSize h.align
  rw [← h.size] at hle
  omega

theorem mem_isSome (hp : Laid p) (i : Nat) :
    (p.subpools i).start.isSome = (p.subpools i).mem.isSome := by
  rw [hp.place i, Option.isSome_map]

/-- The blocks of a subpool can be counted in 32 bits. -/
theorem Laid.numBlocks_lt (h : Laid p) (hstart : (p.subpools i).start.isSome = true) :
    (p.subpools i).numBlocks < 2 ^ 32 := by
  rw [mem_isSome h i] at hstart
  obtain ⟨m, hm⟩ := Option.isSome_iff_exists.mp hstart
  obtain ⟨⟨hpos, hlt⟩, -⟩ := h.fits i m hm
  have hle := le_bytesPerBlock p.blockDataSize h.align
  have hmul := Nat.mul_le_mul_right (p.subpools i).numBlocks
    (show 1 ≤ bytesPerBlock p.blockDataSize p.align by simp only [sizeofHeader] at hle; omega)
  rw [alignOr_eq h.align, bytesFor] at hlt
  omega

theorem Laid.size_pos (h : Laid p) : 0 < p.blockSize := by
  have hroom := h.room
  simp only [sizeofHeader] at hroom
  omega

/-- Blocks do not overlap, be they of one subpool or of two. -/
theorem Laid.blocks_apart (h : Laid p) (hb : b ∈ p.blocksOf i) (hc : c ∈ p.blocksOf j)
    (hne : b ≠ c) : b + p.blockSize ≤ c ∨ c + p.blockSize ≤ b := by
  by_cases hij : i = j
  · subst hij
    obtain ⟨start, hstart⟩ := start_of_mem_blocksOf hb
    rw [mem_blocksOf hstart] at hb hc
    rcases Nat.lt_or_gt_of_ne hne with hlt | hgt
    · exact Or.inl (Memory.blocks_apart hb hc hlt)
    · exact Or.inr (Memory.blocks_apart hc hb hgt)
  · obtain ⟨m, hm, hlow, hhigh⟩ := h.within hb
    obtain ⟨n, hn, hlow', hhigh'⟩ := h.within hc
    rcases h.apart i j m n hij hm hn with hle | hle
    · left
      omega
    · right
      omega

theorem Laid.unique (h : Laid p) (hb : b ∈ p.blocksOf i) (hc : b ∈ p.blocksOf j) : i = j := by
  by_contra hij
  obtain ⟨m, hm, hlow, hhigh⟩ := h.within hb
  obtain ⟨n, hn, hlow', hhigh'⟩ := h.within hc
  have hpos := h.size_pos
  rcases h.apart i j m n hij hm hn with hle | hle <;> omega

/-- A pool that differs in the free list of one subpool, and the headers of some
    blocks. -/
structure Touches (i : Nat) (bs : List Nat) (p q : Blockpool) : Prop where
  align : q.align = p.align
  dataSize : q.blockDataSize = p.blockDataSize
  size : q.blockSize = p.blockSize
  num : q.numSubpools = p.numSubpools
  ext : q.numExtensionBlocks = p.numExtensionBlocks
  others : ∀ j, j ≠ i → q.subpools j = p.subpools j
  self : ∃ f n, q.subpools i = { p.subpools i with freeList := f, availableBlocks := n }
  headers : ∀ b, b ∉ bs → q.headers b = p.headers b

variable {bs cs : List Nat}

theorem Touches.fixed (h : Touches i bs p q) (j : Nat) :
    (q.subpools j).start = (p.subpools j).start ∧ (q.subpools j).mem = (p.subpools j).mem ∧
      (q.subpools j).numBlocks = (p.subpools j).numBlocks ∧
      (q.subpools j).ownsMem = (p.subpools j).ownsMem ∧
      (q.subpools j).extension = (p.subpools j).extension := by
  by_cases hj : j = i
  · subst hj
    obtain ⟨f, n, hself⟩ := h.self
    simp [hself]
  · simp [h.others j hj]

theorem Touches.laid (h : Touches i bs p q) (hp : Laid p) : Laid q where
  align := h.align ▸ hp.align
  size := by rw [h.size, h.dataSize, h.align, hp.size]
  few := h.num ▸ hp.few
  grows := by
    rw [h.num, h.ext, h.dataSize, h.align]
    exact hp.grows
  fits := fun j m hm => by
    rw [(h.fixed j).2.1] at hm
    rw [(h.fixed j).2.2.1, h.dataSize, h.align]
    exact hp.fits j m hm
  first := (h.fixed 0).1 ▸ hp.first
  known := fun j hj => h.num ▸ hp.known j ((h.fixed j).1 ▸ hj)
  place := fun j => by
    rw [(h.fixed j).1, (h.fixed j).2.1, h.align]
    exact hp.place j
  extended := fun j hj hstart => by
    rw [(h.fixed j).2.2.1, h.ext]
    exact hp.extended j hj ((h.fixed j).1 ▸ hstart)
  apart := fun j k m n hjk hm hn => by
    rw [(h.fixed j).2.1] at hm
    rw [(h.fixed k).2.1] at hn
    rw [(h.fixed j).2.2.1, (h.fixed k).2.2.1, h.dataSize, h.align]
    exact hp.apart j k m n hjk hm hn
  flags := fun j => by
    rw [(h.fixed j).2.2.2.1, (h.fixed j).2.2.2.2]
    exact hp.flags j

theorem Touches.blocksOf (h : Touches i bs p q) (j : Nat) : q.blocksOf j = p.blocksOf j := by
  rw [Blockpool.blocksOf, Blockpool.blocksOf, (h.fixed j).1, (h.fixed j).2.2.1, h.size]

theorem Touches.trans {r : Blockpool} (h : Touches i bs p q) (k : Touches i cs q r) :
    Touches i (bs ++ cs) p r where
  align := k.align.trans h.align
  dataSize := k.dataSize.trans h.dataSize
  size := k.size.trans h.size
  num := k.num.trans h.num
  ext := k.ext.trans h.ext
  others := fun j hj => (k.others j hj).trans (h.others j hj)
  self := by
    obtain ⟨f, n, hself⟩ := h.self
    obtain ⟨g, m, kself⟩ := k.self
    exact ⟨g, m, by rw [kself, hself]⟩
  headers := fun b hb => by
    rw [List.mem_append, not_or] at hb
    exact (k.headers b hb.2).trans (h.headers b hb.1)

theorem touches_pushFree (p : Blockpool) (i b : Nat) : Touches i [b] p (p.pushFree i b) where
  align := rfl
  dataSize := rfl
  size := rfl
  num := rfl
  ext := rfl
  others := fun j hj => Function.update_of_ne hj _ _
  self := ⟨some b, (p.subpools i).availableBlocks, Function.update_self ..⟩
  headers := fun c hc => Function.update_of_ne (by simpa using hc) _ _

theorem links_pushFree (p : Blockpool) (i b : Nat) : (p.pushFree i b).links =
    Function.update (Function.update p.links (.block b) (p.links (.head i))) (.head i)
      (some b) := by
  funext t
  cases t with
  | head j =>
      by_cases hj : j = i
      · subst hj
        simp [Blockpool.links, Blockpool.pushFree, Blockpool.setSubpool]
      · simp [Blockpool.links, Blockpool.pushFree, Blockpool.setSubpool, hj]
  | block c =>
      by_cases hc : c = b
      · subst hc
        simp [Blockpool.links, Blockpool.pushFree]
      · simp [Blockpool.links, Blockpool.pushFree, hc]

/-- What is said about a subpool outside of its free list does not matter to it. -/
theorem links_setSubpool {s : Subpool} (h : s.freeList = (p.subpools i).freeList) :
    (p.setSubpool i s).links = p.links := by
  funext t
  cases t with
  | head j =>
      by_cases hj : j = i
      · subst hj
        simp [Blockpool.links, Blockpool.setSubpool, h]
      · simp [Blockpool.links, Blockpool.setSubpool, hj]
  | block c => rfl

theorem takeFree_eq (h : (p.subpools i).freeList = some b) : ∃ q, p.takeFree i =
    some (b + sizeofHeader, q) ∧ Touches i [b] p q ∧ q.headers b = .subpool i ∧
    (q.subpools i).availableBlocks = (p.subpools i).availableBlocks - 1 ∧
    q.links = Function.update (Function.update p.links (.head i) (p.links (.block b))) (.block b)
      none := by
  refine ⟨_, by simp only [Blockpool.takeFree, h]; rfl, ?_⟩
  refine ⟨⟨rfl, rfl, rfl, rfl, rfl, fun j hj => Function.update_of_ne hj _ _,
    ⟨_, _, Function.update_self ..⟩, fun c hc => Function.update_of_ne (by simpa using hc) _ _⟩,
    Function.update_self .., by simp [Blockpool.setSubpool], ?_⟩
  funext t
  cases t with
  | head j =>
      by_cases hj : j = i
      · subst hj
        simp [Blockpool.links, Blockpool.setSubpool]
      · simp [Blockpool.links, Blockpool.setSubpool, hj]
  | block c =>
      by_cases hc : c = b
      · subst hc
        simp [Blockpool.links]
      · simp [Blockpool.links, hc]

theorem head_notMem_slots {xs : List Nat} (hb : b ∉ xs) :
    Slot.block b ∉ slots Slot.block (.head i) xs := by
  simp [slots, hb]

/-- Blocks that are put on a free list one after the other. -/
theorem fold_pushFree {xs : List Nat} {e : Slot} (hchain : Chain Slot.block p.links (.head i) xs e)
    (hnodup : bs.Nodup) (hnew : ∀ b ∈ bs, b ∉ xs) :
    Touches i bs p (bs.foldl (Blockpool.pushFree i) p) ∧
    ((bs.foldl (Blockpool.pushFree i) p).subpools i).availableBlocks =
      (p.subpools i).availableBlocks ∧
    (∀ b ∈ bs, Linked (bs.foldl (Blockpool.pushFree i) p) b) ∧
    ∃ e', Chain Slot.block (bs.foldl (Blockpool.pushFree i) p).links (.head i) (bs.reverse ++ xs)
      e' := by
  induction bs generalizing p xs e with
  | nil =>
      exact ⟨⟨rfl, rfl, rfl, rfl, rfl, fun _ _ => rfl, ⟨_, _, rfl⟩, fun _ _ => rfl⟩, rfl, by simp,
        e, hchain⟩
  | cons b bs ih =>
      obtain ⟨hb, hnodup⟩ := List.nodup_cons.mp hnodup
      have hput := hchain.putBack (head_notMem_slots (hnew b List.mem_cons_self))
      rw [← links_pushFree] at hput
      obtain ⟨htouches, havailable, hlinked, e', he'⟩ := ih hput hnodup fun c hc => by
        rw [List.mem_cons, not_or]
        exact ⟨fun hcb => hb (hcb ▸ hc), hnew c (List.mem_cons_of_mem b hc)⟩
      refine ⟨(touches_pushFree p i b).trans htouches, ?_, fun c hc => ?_, e', ?_⟩
      · rw [List.foldl_cons, havailable]
        simp [Blockpool.pushFree, Blockpool.setSubpool]
      · rcases List.mem_cons.mp hc with rfl | hc
        · exact ⟨_, (htouches.headers c hb).trans (Function.update_self ..)⟩
        · exact hlinked c hc
      · simpa using he'

/-- A pool in which a subpool has been cut from memory, before the blocks are
    put on its free list. -/
def Blockpool.withMemory (p : Blockpool) (i mem n : Nat) : Blockpool :=
  p.setSubpool i { p.subpools i with
    mem := some mem
    start := some (startOf mem p.align)
    numBlocks := n
    availableBlocks := n
    freeList := none }

/-- The loop goes through the blocks. -/
theorem subpoolInit_eq {mem n : Nat} (hsize : 0 < p.blockSize)
    (hend : startOf mem p.align + p.blockSize * n < 2 ^ 32) : p.subpoolInit i mem n =
      (blocks (startOf mem p.align) p.blockSize n).foldl (Blockpool.pushFree i)
        (p.withMemory i mem n) := by
  have hmul := Nat.le_mul_of_pos_left n hsize
  have hnext : ∀ b, b + p.blockSize ≤ startOf mem p.align + p.blockSize * n →
      u32 (b + p.blockSize : Nat) = b + p.blockSize := fun b hb => u32_of_range (by omega)
  rw [Blockpool.subpoolInit, u32_of_range hend]
  simp only
  rw [upTo_eq_blocks hsize rfl (by omega) hnext]
  rfl

/-- A new subpool has all its blocks on the free list. -/
theorem subpoolInit_listed {mem n : Nat} (hsize : 0 < p.blockSize)
    (hend : startOf mem p.align + p.blockSize * n < 2 ^ 32) :
    let bs := blocks (startOf mem p.align) p.blockSize n
    Touches i bs (p.withMemory i mem n) (p.subpoolInit i mem n) ∧
    ((p.subpoolInit i mem n).subpools i).availableBlocks = n ∧
    (∀ b ∈ bs, Linked (p.subpoolInit i mem n) b) ∧
    ∃ e, Chain Slot.block (p.subpoolInit i mem n).links (.head i) bs.reverse e := by
  have hempty : Chain Slot.block (p.withMemory i mem n).links (.head i) [] (.head i) := by
    refine ⟨rfl, ?_, List.nodup_singleton _⟩
    simp [Blockpool.links, Blockpool.withMemory, Blockpool.setSubpool]
  have hnodup : (blocks (startOf mem p.align) p.blockSize n).Nodup := blocks_nodup hsize
  obtain ⟨htouches, havailable, hlinked, e, he⟩ := fold_pushFree hempty hnodup (by simp)
  rw [List.append_nil] at he
  rw [subpoolInit_eq hsize hend]
  refine ⟨htouches, ?_, hlinked, e, he⟩
  refine havailable.trans ?_
  simp [Blockpool.withMemory, Blockpool.setSubpool]

variable {used used' : List Nat}

/-- The other subpools do not notice. -/
theorem listed_other (hp : Laid p) (h : Touches i bs p q) (hbs : ∀ b ∈ bs, b ∈ p.blocksOf i)
    (hji : j ≠ i) (hused : ∀ b, b ∉ bs → (b + sizeofHeader ∈ used' ↔ b + sizeofHeader ∈ used))
    (hl : Listed p used j) : Listed q used' j := by
  obtain ⟨xs, e, hchain, hlength, hlinked, hxs⟩ := hl
  have haway : ∀ b ∈ p.blocksOf j, b ∉ bs :=
    fun b hb hc => hji (hp.unique hb (hbs b hc))
  refine ⟨xs, e, hchain.agree ?_, ?_, fun b hb => ?_, fun b => ?_⟩
  · intro t ht
    simp only [slots, List.mem_cons, List.mem_map] at ht
    obtain rfl | ⟨b, hb, rfl⟩ := ht
    · simp [Blockpool.links, h.others j hji]
    · simp [Blockpool.links, h.headers b (haway b ((hxs b).mp hb).1)]
  · rw [hlength, h.others j hji]
  · rw [Linked, h.headers b (haway b ((hxs b).mp hb).1)]
    exact hlinked b hb
  · rw [hxs, h.blocksOf]
    refine and_congr_right fun hb => ?_
    rw [hused b (haway b hb)]

theorem owned_other (h : Touches i bs p q) (hb : ∀ c ∈ bs, b ≠ c + sizeofHeader)
    (ho : Owned p b) : Owned q b := by
  obtain ⟨j, hdr, hhdr, rfl, howner⟩ := ho
  refine ⟨j, hdr, by rwa [h.blocksOf], rfl, ?_⟩
  rw [h.headers hdr fun hc => hb hdr hc rfl, howner]

theorem sound_take (hs : Sound p used) (hstart : (p.subpools i).start.isSome = true)
    (hfree : 0 < (p.subpools i).availableBlocks) :
    ∃ b q, p.takeFree i = some (b + sizeofHeader, q) ∧ Touches i [b] p q ∧
      (q.subpools i).availableBlocks = (p.subpools i).availableBlocks - 1 ∧
      Sound q ((b + sizeofHeader) :: used) := by
  obtain ⟨xs, e, hchain, hlength, hlinked, hxs⟩ := hs.listed i hstart
  cases xs with
  | nil =>
      rw [List.length_nil] at hlength
      omega
  | cons b xs =>
      have hhead : (p.subpools i).freeList = some b := hchain.head
      obtain ⟨q, hq, htouches, howner, havailable, hlinks⟩ := takeFree_eq hhead
      obtain ⟨hblock, hunused⟩ := (hxs b).mp List.mem_cons_self
      have hget := hchain.get
      -- The block is not in the rest of the list.
      have hslots : Slot.block b ∉ slots Slot.block (.head i) xs := by
        have hapart := hchain.apart
        rw [slots_cons, List.nodup_cons] at hapart
        have hblocks := (List.nodup_cons.mp hapart.2).1
        simpa [slots] using hblocks
      have hbxs : b ∉ xs := fun hc => hslots (List.mem_cons_of_mem _ (List.mem_map_of_mem hc))
      refine ⟨b, q, hq, htouches, havailable, htouches.laid hs.laid, fun j hj => ?_,
        List.nodup_cons.mpr ⟨hunused, hs.nodup⟩, fun c hc => ?_⟩
      · by_cases hji : j = i
        · subst hji
          refine ⟨xs, _, hlinks ▸ hget.frame none hslots, ?_, fun c hc => ?_, fun c => ?_⟩
          · rw [havailable, ← hlength, List.length_cons, Nat.add_sub_cancel]
          · have hcb : c ∉ [b] := by
              rw [List.mem_singleton]
              rintro rfl
              exact hbxs hc
            rw [Linked, htouches.headers c hcb]
            exact hlinked c (List.mem_cons_of_mem b hc)
          · have hmem := hxs c
            rw [htouches.blocksOf]
            by_cases hcb : c = b
            · subst hcb
              simp [hbxs]
            · simpa [hcb] using hmem
        · refine listed_other hs.laid htouches (by simpa using hblock) hji (fun c hc => ?_)
            (hs.listed j ((htouches.fixed j).1 ▸ hj))
          simp at hc
          simp [hc]
      · rcases List.mem_cons.mp hc with rfl | hc
        · exact ⟨i, b, by rwa [htouches.blocksOf], rfl, howner⟩
        · refine owned_other htouches (fun d hd hcd => ?_) (hs.owned c hc)
          rw [List.mem_singleton.mp hd] at hcd
          exact hunused (hcd ▸ hc)

/-- A block that is freed goes back to its subpool, whatever subpool that is. -/
theorem sound_free (hs : Sound p used) (hb : b ∈ used) : ∃ i hdr q,
    blockpoolFree p b = some (none, q) ∧ (p.subpools i).start.isSome = true ∧
      Touches i [hdr] p q ∧
      (q.subpools i).availableBlocks = (p.subpools i).availableBlocks + 1 ∧
      Sound q (used.erase b) := by
  obtain ⟨i, hdr, hblock, rfl, howner⟩ := hs.owned b hb
  obtain ⟨start, hstart⟩ := start_of_mem_blocksOf hblock
  have hisSome : (p.subpools i).start.isSome = true := by simp [hstart]
  obtain ⟨xs, e, hchain, hlength, hlinked, hxs⟩ := hs.listed i hisSome
  have hnew : hdr ∉ xs := fun hc => ((hxs hdr).mp hc).2 hb
  obtain ⟨e', hput⟩ : ∃ e', Chain Slot.block (p.pushFree i hdr).links (.head i) (hdr :: xs) e' := by
    rw [links_pushFree]
    exact ⟨_, hchain.putBack (head_notMem_slots hnew)⟩
  have hkept : ((p.pushFree i hdr).subpools i).extension = false := by
    rw [((touches_pushFree p i hdr).fixed i).2.2.2.2]
    exact (hs.laid.flags i).1
  have havailable : ((p.pushFree i hdr).subpools i).availableBlocks =
      (p.subpools i).availableBlocks := by
    simp [Blockpool.pushFree, Blockpool.setSubpool]
  -- The count stays below the number of blocks.
  have hcount : u32 ((p.subpools i).availableBlocks + 1 : Nat) =
      (p.subpools i).availableBlocks + 1 := by
    have hsub : (hdr :: xs) ⊆ blocks start p.blockSize (p.subpools i).numBlocks := by
      intro b hb
      rw [← mem_blocksOf hstart]
      rcases List.mem_cons.mp hb with rfl | hb
      · exact hblock
      · exact ((hxs b).mp hb).1
    have hnodup : (hdr :: xs).Nodup :=
      List.nodup_cons.mpr ⟨hnew, (List.nodup_cons.mp hchain.apart).2.of_map _⟩
    have hle := (List.subperm_of_subset hnodup hsub).length_le
    rw [length_blocks, List.length_cons, hlength] at hle
    exact u32_of_range (by have hlt := hs.laid.numBlocks_lt hisSome; omega)
  refine ⟨i, hdr, (p.pushFree i hdr).setSubpool i { (p.pushFree i hdr).subpools i with
    availableBlocks := ((p.pushFree i hdr).subpools i).availableBlocks + 1 }, ?_, hisSome, ?_⟩
  · simp only [blockpoolFree, Nat.add_sub_cancel, howner, hkept, Bool.false_eq_true, false_and,
      if_false, havailable, hcount]
  have hmore : Touches i [] (p.pushFree i hdr) ((p.pushFree i hdr).setSubpool i
      { (p.pushFree i hdr).subpools i with
        availableBlocks := ((p.pushFree i hdr).subpools i).availableBlocks + 1 }) :=
    ⟨rfl, rfl, rfl, rfl, rfl, fun j hj => Function.update_of_ne hj _ _,
      ⟨_, _, Function.update_self ..⟩, fun _ _ => rfl⟩
  have htouches : Touches i [hdr] p _ := (touches_pushFree p i hdr).trans hmore
  refine ⟨htouches, by simp [Blockpool.setSubpool, havailable], htouches.laid hs.laid,
    fun j hj => ?_, hs.nodup.erase _, fun c hc => ?_⟩
  · by_cases hji : j = i
    · subst hji
      refine ⟨hdr :: xs, e', ?_, ?_, fun c hc => ?_, fun c => ?_⟩
      · rw [links_setSubpool (by rfl)]
        exact hput
      · simp [Blockpool.setSubpool, havailable, hlength]
      · rcases List.mem_cons.mp hc with rfl | hrest
        · exact ⟨_, Function.update_self ..⟩
        · have hch : c ∉ [hdr] := by
            rw [List.mem_singleton]
            rintro rfl
            exact hnew hrest
          rw [Linked, htouches.headers c hch]
          exact hlinked c hrest
      · rw [htouches.blocksOf, List.mem_cons, hxs, hs.nodup.mem_erase_iff]
        by_cases hch : c = hdr
        · subst hch
          simp [hblock]
        · simp [hch]
    · refine listed_other hs.laid htouches (by simpa using hblock) hji (fun c hc => ?_)
        (hs.listed j ((htouches.fixed j).1 ▸ hj))
      rw [hs.nodup.mem_erase_iff]
      simp at hc
      simp [hc]
  · rw [hs.nodup.mem_erase_iff] at hc
    refine owned_other htouches (fun d hd hcd => ?_) (hs.owned c hc.2)
    rw [List.mem_singleton.mp hd] at hcd
    exact hc.1 hcd

theorem isNew_iff {mem : Nat} : p.isNew mem = true ↔
    mem + blockpoolSize p.numExtensionBlocks p.blockDataSize p.align ≤ 2 ^ 32 ∧
      ∀ j < p.numSubpools, ∀ m, (p.subpools j).mem = some m →
        mem + blockpoolSize p.numExtensionBlocks p.blockDataSize p.align ≤ m ∨
          m + blockpoolSize (p.subpools j).numBlocks p.blockDataSize p.align ≤ mem := by
  simp only [Blockpool.isNew, Bool.and_eq_true, decide_eq_true_eq, List.all_eq_true, List.mem_range]
  refine and_congr_right fun _ => forall₂_congr fun j _ => ?_
  cases hm : (p.subpools j).mem <;> simp

/-- The sizes that were asked for are those that the blocks need. -/
theorem new_memory {mem : Nat} (hp : Laid p) (hmore : 1 < p.numSubpools)
    (hnew : p.isNew mem = true) :
    mem + bytesFor p.numExtensionBlocks p.blockDataSize p.align ≤ 2 ^ 32 ∧
      ∀ j m, (p.subpools j).mem = some m →
        mem + bytesFor p.numExtensionBlocks p.blockDataSize p.align ≤ m ∨
          m + bytesFor (p.subpools j).numBlocks p.blockDataSize p.align ≤ mem := by
  rw [isNew_iff, (hp.grows hmore).blockpoolSize_eq hp.align] at hnew
  refine ⟨hnew.1, fun j m hm => ?_⟩
  have hj : j < p.numSubpools := hp.known j (by rw [mem_isSome hp, hm]; rfl)
  have happart := hnew.2 j hj m hm
  rwa [(hp.fits j m hm).1.blockpoolSize_eq hp.align] at happart

@[simp] theorem withMemory_self (p : Blockpool) (i mem n : Nat) :
    (p.withMemory i mem n).subpools i = { p.subpools i with
      mem := some mem
      start := some (startOf mem p.align)
      numBlocks := n
      availableBlocks := n
      freeList := none } := Function.update_self ..

theorem withMemory_other (mem n : Nat) (h : j ≠ i) :
    (p.withMemory i mem n).subpools j = p.subpools j := Function.update_of_ne h _ _

/-- A subpool with new memory overlaps with no other. -/
theorem laid_withMemory {mem : Nat} (hp : Laid p) (hi : i < p.numSubpools) (hi0 : i ≠ 0)
    (hnew : p.isNew mem = true) : Laid (p.withMemory i mem p.numExtensionBlocks) where
  align := hp.align
  size := hp.size
  few := hp.few
  grows := hp.grows
  fits := fun j m hm => by
    by_cases hji : j = i
    · subst hji
      rw [withMemory_self] at hm ⊢
      cases hm
      exact ⟨hp.grows (by omega), (new_memory hp (by omega) hnew).1⟩
    · rw [withMemory_other _ _ hji] at hm ⊢
      exact hp.fits j m hm
  first := by
    rw [withMemory_other _ _ (Ne.symm hi0)]
    exact hp.first
  known := fun j hj => by
    by_cases hji : j = i
    · subst hji
      exact hi
    · rw [withMemory_other _ _ hji] at hj
      exact hp.known j hj
  place := fun j => by
    by_cases hji : j = i
    · subst hji
      simp [Blockpool.withMemory, Blockpool.setSubpool]
    · rw [withMemory_other _ _ hji]
      exact hp.place j
  extended := fun j hj hstart => by
    by_cases hji : j = i
    · subst hji
      simp [Blockpool.withMemory, Blockpool.setSubpool]
    · rw [withMemory_other _ _ hji] at hstart ⊢
      exact hp.extended j hj hstart
  apart := fun j k m n hjk hm hn => by
    have haway := (new_memory hp (by omega) hnew).2
    by_cases hji : j = i
    · subst hji
      rw [withMemory_self] at hm ⊢
      rw [withMemory_other _ _ (Ne.symm hjk)] at hn ⊢
      cases hm
      exact haway k n hn
    · rw [withMemory_other _ _ hji] at hm ⊢
      by_cases hki : k = i
      · subst hki
        rw [withMemory_self] at hn ⊢
        cases hn
        exact (haway j m hm).symm
      · rw [withMemory_other _ _ hki] at hn ⊢
        exact hp.apart j k m n hjk hm hn
  flags := fun j => by
    by_cases hji : j = i
    · subst hji
      rw [withMemory_self]
      exact hp.flags j
    · rw [withMemory_other _ _ hji]
      exact hp.flags j

theorem blocksOf_withMemory_other (mem n : Nat) (h : j ≠ i) :
    (p.withMemory i mem n).blocksOf j = p.blocksOf j := by
  rw [Blockpool.blocksOf, Blockpool.blocksOf, withMemory_other _ _ h]
  rfl

theorem blocksOf_withMemory_self (p : Blockpool) (i mem n : Nat) :
    (p.withMemory i mem n).blocksOf i = blocks (startOf mem p.align) p.blockSize n := by
  rw [Blockpool.blocksOf, withMemory_self]
  rfl

/-- A new subpool, none of whose blocks is in use. -/
theorem sound_grow {mem : Nat} (hs : Sound p used) (hi : i < p.numSubpools) (hi0 : i ≠ 0)
    (hnone : (p.subpools i).start = none) (hnew : p.isNew mem = true) :
    let q := p.subpoolInit i mem p.numExtensionBlocks
    Sound q used ∧ (q.subpools i).start.isSome = true ∧
      (q.subpools i).availableBlocks = p.numExtensionBlocks ∧
      Touches i (blocks (startOf mem p.align) p.blockSize p.numExtensionBlocks)
        (p.withMemory i mem p.numExtensionBlocks) q := by
  have hlaid := laid_withMemory hs.laid hi hi0 hnew
  have hfits := hs.laid.grows (by omega)
  have hend : startOf mem p.align + p.blockSize * p.numExtensionBlocks < 2 ^ 32 := by
    have hroom := (new_memory hs.laid (by omega) hnew).1
    rw [hs.laid.size]
    exact (hfits.blocks_end hs.laid.align hroom).trans_le hroom
  obtain ⟨htouches, havailable, hlinked, e, hchain⟩ :=
    subpoolInit_listed (i := i) hs.laid.size_pos hend
  rw [← blocksOf_withMemory_self p i mem] at htouches hchain hlinked ⊢
  have hold : ∀ b ∈ used, ∃ j, j ≠ i ∧ ∃ hdr ∈ p.blocksOf j, b = hdr + sizeofHeader ∧
      p.headers hdr = .subpool j := fun b hb => by
    obtain ⟨j, hdr, hhdr, hrest⟩ := hs.owned b hb
    refine ⟨j, fun hji => ?_, hdr, hhdr, hrest⟩
    obtain ⟨start, hstart⟩ := start_of_mem_blocksOf hhdr
    simp [← hji, hstart] at hnone
  have hunused : ∀ b ∈ (p.withMemory i mem p.numExtensionBlocks).blocksOf i,
      b + sizeofHeader ∉ used := fun b hb hc => by
    obtain ⟨j, hji, hdr, hhdr, heq, -⟩ := hold _ hc
    rw [← Nat.add_right_cancel heq, ← blocksOf_withMemory_other mem p.numExtensionBlocks hji]
      at hhdr
    exact hji (hlaid.unique hhdr hb)
  refine ⟨⟨htouches.laid hlaid, fun j hj => ?_, hs.nodup, fun b hb => ?_⟩, ?_, havailable,
    htouches⟩
  · by_cases hji : j = i
    · subst hji
      refine ⟨_, e, hchain, ?_, fun b hb => hlinked b (List.mem_reverse.mp hb), fun b => ?_⟩
      · rw [List.length_reverse, blocksOf_withMemory_self, length_blocks, havailable]
      · rw [List.mem_reverse, htouches.blocksOf]
        exact ⟨fun h => ⟨h, hunused b h⟩, And.left⟩
    · refine listed_other hlaid htouches (fun b hb => hb) hji (fun b _ => Iff.rfl) ?_
      rw [(htouches.fixed j).1, withMemory_other _ _ hji] at hj
      obtain ⟨xs, f, hold, hlength, hlinks, hxs⟩ := hs.listed j hj
      refine ⟨xs, f, hold.agree fun t ht => ?_, ?_, hlinks, fun b => ?_⟩
      · simp only [slots, List.mem_cons, List.mem_map] at ht
        obtain rfl | ⟨b, -, rfl⟩ := ht
        · simp [Blockpool.links, withMemory_other _ _ hji]
        · rfl
      · rw [hlength, withMemory_other _ _ hji]
      · rw [hxs, blocksOf_withMemory_other _ _ hji]
  · obtain ⟨j, hji, hdr, hhdr, rfl, howner⟩ := hold b hb
    refine owned_other htouches (fun c hc heq => ?_) ⟨j, hdr, ?_, rfl, howner⟩
    · rw [Nat.add_right_cancel heq] at hb
      exact hunused c hc hb
    · rwa [blocksOf_withMemory_other _ _ hji]
  · rw [(htouches.fixed i).1, withMemory_self]
    rfl

theorem firstFree_some (h : p.firstFree = some i) : i < p.numSubpools ∧
    (p.subpools i).start.isSome = true ∧ 0 < (p.subpools i).availableBlocks := by
  have hmem := List.mem_of_find?_eq_some h
  have hfound := List.find?_some h
  simp only [Bool.and_eq_true, decide_eq_true_eq] at hfound
  exact ⟨List.mem_range.mp hmem, hfound⟩

theorem firstFree_none : p.firstFree = none ↔ ∀ i < p.numSubpools,
    (p.subpools i).start.isSome = true → (p.subpools i).availableBlocks = 0 := by
  simp [Blockpool.firstFree]

theorem grow_some {malloc : Nat → Option Nat} {mem : Nat} (h : p.grow malloc = some (i, mem)) :
    i < p.numSubpools ∧ i ≠ 0 ∧ (p.subpools i).start = none ∧ malloc i = some mem := by
  obtain ⟨j, hj, hfound⟩ := List.exists_of_findSome?_eq_some h
  rw [List.mem_range'_1] at hj
  split at hfound
  · simp at hfound
  · rename_i hstart
    obtain ⟨m, hm, heq⟩ := Option.map_eq_some_iff.mp hfound
    cases heq
    exact ⟨by omega, by omega, by simpa using hstart, hm⟩

theorem grow_none (hp : Laid p) {malloc : Nat → Option Nat} : p.grow malloc = none ↔
    ∀ i < p.numSubpools, (p.subpools i).start = none → malloc i = none := by
  simp only [Blockpool.grow, List.findSome?_eq_none_iff, List.mem_range'_1]
  constructor
  · intro h i hi hstart
    have hi0 : i ≠ 0 := by
      rintro rfl
      have hfirst := hp.first
      simp [hstart] at hfirst
    have hfound := h i ⟨by omega, by omega⟩
    simpa [hstart] using hfound
  · intro h i hi
    cases hstart : (p.subpools i).start with
    | none => simp [h i (by omega) hstart]
    | some start => simp

/-- The three ways in which `vcos_generic_blockpool_alloc` returns. -/
theorem alloc_cases (hs : Sound p used) {malloc : Nat → Option Nat}
    (hnew : ∀ i < p.numSubpools, ∀ mem, malloc i = some mem → p.isNew mem = true) :
    (∃ i b q, p.firstFree = some i ∧ blockpoolAlloc p malloc = some (some (b + sizeofHeader), q) ∧
      Touches i [b] p q ∧ 0 < (p.subpools i).availableBlocks ∧
      (q.subpools i).availableBlocks = (p.subpools i).availableBlocks - 1 ∧
      Sound q ((b + sizeofHeader) :: used)) ∨
    (∃ i mem b bs q, p.firstFree = none ∧ p.grow malloc = some (i, mem) ∧
      blockpoolAlloc p malloc = some (some (b + sizeofHeader), q) ∧
      Touches i bs (p.withMemory i mem p.numExtensionBlocks) q ∧
      (q.subpools i).availableBlocks = p.numExtensionBlocks - 1 ∧ 0 < p.numExtensionBlocks ∧
      Sound q ((b + sizeofHeader) :: used)) ∨
    (p.firstFree = none ∧ p.grow malloc = none ∧ blockpoolAlloc p malloc = some (none, p)) := by
  cases hfirst : p.firstFree with
  | some i =>
      obtain ⟨-, hstart, hfree⟩ := firstFree_some hfirst
      obtain ⟨b, q, hq, htouches, havailable, hsound⟩ := sound_take hs hstart hfree
      left
      refine ⟨i, b, q, rfl, ?_, htouches, hfree, havailable, hsound⟩
      simp only [blockpoolAlloc, hfirst, hq, Option.map_some]
  | none =>
      right
      cases hgrow : p.grow malloc with
      | none =>
          right
          refine ⟨rfl, rfl, ?_⟩
          simp only [blockpoolAlloc, hfirst, hgrow]
      | some pair =>
          left
          obtain ⟨i, mem⟩ := pair
          obtain ⟨hi, hi0, hnone, hmem⟩ := grow_some hgrow
          have hext := (hs.laid.grows (by omega)).1
          obtain ⟨hsound, hstart, havailable, htouches⟩ :=
            sound_grow hs hi hi0 hnone (hnew i hi mem hmem)
          obtain ⟨b, q, hq, htouches', havailable', hsound'⟩ :=
            sound_take hsound hstart (by rwa [havailable])
          refine ⟨i, mem, b, _, q, rfl, rfl, ?_, htouches.trans htouches', ?_, hext, hsound'⟩
          · simp only [blockpoolAlloc, hfirst, hgrow, hq, Option.map_some]
          · rw [havailable', havailable]

theorem poolStep_extend {s s' : PoolRun} {k n : Nat} (h : poolStep s (.extend k n) = some s') :
    s' = { s with pool := (blockpoolExtend s.pool k n).2 } := by
  cases h
  rfl

theorem poolStep_alloc {s s' : PoolRun} {malloc : Nat → Option Nat}
    (h : poolStep s (.alloc malloc) = some s') :
    (∀ i < s.pool.numSubpools, ∀ mem, malloc i = some mem → s.pool.isNew mem = true) ∧
    ∃ ret, blockpoolAlloc s.pool malloc = some (ret, s'.pool) ∧
    s'.used = ret.toList ++ s.used ∧ s'.freed = s.freed ∧
    s'.obtained = (match s.pool.firstFree with
      | some _ => []
      | none => ((s.pool.grow malloc).map Prod.snd).toList) ++ s.obtained := by
  simp only [poolStep] at h
  split at h
  · rename_i hnew
    obtain ⟨⟨ret, q⟩, hq, heq⟩ := Option.map_eq_some_iff.mp h
    cases heq
    refine ⟨fun i hi mem hmem => ?_, ret, hq, rfl, rfl, rfl⟩
    have hall := List.all_eq_true.mp hnew i (List.mem_range.mpr hi)
    simpa [hmem] using hall
  · cases h

theorem poolStep_free {s s' : PoolRun} {b : Nat} (h : poolStep s (.free b) = some s') :
    b ∈ s.used ∧ ∃ mem, blockpoolFree s.pool b = some (mem, s'.pool) ∧
      s'.used = s.used.erase b ∧ s'.freed = mem.toList ++ s.freed ∧
      s'.obtained = s.obtained := by
  simp only [poolStep] at h
  split at h
  · rename_i hb
    obtain ⟨⟨mem, q⟩, hq, heq⟩ := Option.map_eq_some_iff.mp h
    cases heq
    exact ⟨hb, mem, hq, rfl, rfl, rfl⟩
  · cases h

theorem subpool_none {s : Subpool} (hstart : s.start = none) (hmem : s.mem = none) :
    { s with start := none, mem := none } = s := by
  cases s
  simp only at hstart hmem
  rw [hstart, hmem]

/-- A pool can be extended while it has one subpool. The other subpools are not
    there before, either. -/
theorem extend_cases (hp : Laid p) (k n : Nat) : (blockpoolExtend p k n).2 = p ∨
    (p.numSubpools = 1 ∧ 1 + k ≤ maxSubpools ∧ (blockpoolExtend p k n).1 = .success ∧
      (blockpoolExtend p k n).2 = { p with numSubpools := 1 + k, numExtensionBlocks := n }) := by
  simp only [blockpoolExtend]
  split
  · exact Or.inl rfl
  · rename_i hone
    split
    · exact Or.inl rfl
    · rename_i hk
      split
      · exact Or.inl rfl
      · right
        have hfirst := hp.known 0 hp.first
        have hnum : p.numSubpools = 1 := by omega
        refine ⟨hnum, ?_, rfl, ?_⟩
        · simp only [maxSubpools] at hk ⊢
          omega
        · have hsub : ∀ i, (if 1 ≤ i ∧ i < 1 + k then
              { p.subpools i with start := none, mem := none } else p.subpools i) =
          p.subpools i := by
            intro i
            split
            · rename_i hi
              have hnone : (p.subpools i).start = none := by
                rw [← Option.not_isSome_iff_eq_none]
                intro hc
                have hlt := hp.known i hc
                omega
              have hmem : (p.subpools i).mem = none := by
                rw [← Option.not_isSome_iff_eq_none, ← mem_isSome hp, hnone]
                simp
              exact subpool_none hnone hmem
            · rfl
          simp only [hnum, hsub]

theorem sound_extend (hs : Sound p used) {k n : Nat}
    (hfits : (blockpoolExtend p k n).1 = .success → Fits n p.blockDataSize p.align) :
    Sound (blockpoolExtend p k n).2 used := by
  rcases extend_cases hs.laid k n with heq | ⟨hnum, hfew, hok, heq⟩
  · rwa [heq]
  · rw [heq]
    obtain ⟨⟨halign, hsize, -, -, hroom, hfirst, hknown, hplace, hextended, hapart, hflags⟩,
      hlisted, hnodup, howned⟩ := hs
    refine ⟨⟨halign, hsize, hfew, fun _ => hfits hok, hroom, hfirst, fun i hi => ?_, hplace,
      fun i hi hstart => ?_, hapart, hflags⟩, hlisted, hnodup, howned⟩
    · have hlt := hknown i hi
      simp only
      omega
    · have hlt := hknown i hstart
      omega

theorem sound_step (s : PoolRun) (op : PoolOp) (s' : PoolRun) (hs : Sound s.pool s.used)
    (hfits : op.Fits s) (h : poolStep s op = some s') : Sound s'.pool s'.used := by
  cases op with
  | extend k n =>
      rw [poolStep_extend h]
      exact sound_extend hs hfits
  | alloc malloc =>
      obtain ⟨hnew, ret, hret, hused, -, -⟩ := poolStep_alloc h
      rw [hused]
      rcases alloc_cases hs hnew with ⟨i, b, q, -, heq, -, -, -, hsound⟩ |
        ⟨i, mem, b, bs, q, -, -, heq, -, -, -, hsound⟩ | ⟨-, -, heq⟩
      · rw [heq] at hret
        cases hret
        exact hsound
      · rw [heq] at hret
        cases hret
        exact hsound
      · rw [heq, Option.some.injEq, Prod.mk.injEq] at hret
        rw [← hret.1, ← hret.2]
        exact hs
  | free b =>
      obtain ⟨hb, mem, hq, hused, -⟩ := poolStep_free h
      obtain ⟨i, hdr, q, hq', -, -, -, hsound⟩ := sound_free hs hb
      rw [hq'] at hq
      cases hq
      rw [hused]
      exact hsound

/-- A subpool never has more free blocks than blocks. -/
theorem available_le (hs : Sound p used) (hstart : (p.subpools i).start.isSome = true) :
    (p.subpools i).availableBlocks ≤ (p.subpools i).numBlocks := by
  obtain ⟨xs, e, hchain, hlength, -, hxs⟩ := hs.listed i hstart
  obtain ⟨start, hs'⟩ := Option.isSome_iff_exists.mp hstart
  have hnodup : xs.Nodup := (List.nodup_cons.mp hchain.apart).2.of_map _
  have hsub : xs ⊆ blocks start p.blockSize (p.subpools i).numBlocks := fun b hb =>
    (mem_blocksOf hs').mp ((hxs b).mp hb).1
  have hle := (List.subperm_of_subset hnodup hsub).length_le
  rwa [hlength, length_blocks] at hle

/-- The blocks of a subpool that are in use, by its counts. -/
def Blockpool.usedIn (p : Blockpool) (i : Nat) : Nat :=
  if (p.subpools i).start.isSome then (p.subpools i).numBlocks - (p.subpools i).availableBlocks
  else 0

theorem usedIn_eq (h : (p.subpools i).start.isSome = true) :
    p.usedIn i = (p.subpools i).numBlocks - (p.subpools i).availableBlocks := by
  rw [Blockpool.usedIn, if_pos h]

/-- The sum that `vcos_generic_blockpool_used_count` reduces to 32 bits. -/
def Blockpool.usedSum (p : Blockpool) : Nat := ((List.range p.numSubpools).map p.usedIn).sum

/-- A sum in which one summand is another. -/
theorem sum_change {f g : Nat → Nat} {n : Nat} (hi : i < n) (h : ∀ j, j ≠ i → f j = g j) :
    ((List.range n).map f).sum + g i = ((List.range n).map g).sum + f i := by
  induction n with
  | zero => omega
  | succ n ih =>
      simp only [List.range_succ, List.map_append, List.sum_append, List.map_cons, List.map_nil,
        List.sum_singleton]
      by_cases hin : i = n
      · have hbefore : (List.range n).map f = (List.range n).map g :=
          List.map_congr_left fun j hj => h j (by rw [List.mem_range] at hj; omega)
        rw [hbefore, hin]
        omega
      · have hlast := h n (Ne.symm hin)
        have hrest := ih (by omega)
        omega

theorem Touches.usedIn_other (h : Touches i bs p q) (hji : j ≠ i) : q.usedIn j = p.usedIn j := by
  rw [Blockpool.usedIn, Blockpool.usedIn, h.others j hji]

theorem Touches.usedIn_self (h : Touches i bs p q) (hstart : (p.subpools i).start.isSome = true) :
    q.usedIn i = (p.subpools i).numBlocks - (q.subpools i).availableBlocks := by
  rw [Blockpool.usedIn, (h.fixed i).1, if_pos hstart, (h.fixed i).2.2.1]

theorem usedSum_extend (hp : Laid p) (k n : Nat) :
    (blockpoolExtend p k n).2.usedSum = p.usedSum := by
  rcases extend_cases hp k n with heq | ⟨hnum, -, -, heq⟩
  · rw [heq]
  · have hzero : ∀ j, 1 ≤ j → p.usedIn j = 0 := fun j hj => by
      rw [Blockpool.usedIn, if_neg]
      intro hc
      have hlt := hp.known j hc
      omega
    have hsum : ((List.range k).map fun j => p.usedIn (1 + j)).sum = 0 := by
      refine List.sum_eq_zero fun x hx => ?_
      obtain ⟨j, -, rfl⟩ := List.mem_map.mp hx
      exact hzero (1 + j) (by omega)
    rw [heq, Blockpool.usedSum, Blockpool.usedSum, hnum]
    change ((List.range (1 + k)).map p.usedIn).sum = _
    rw [List.range_add, List.map_append, List.sum_append, List.map_map]
    exact Nat.add_eq_left.mpr hsum

/-- What a pool was created with. -/
structure Based (n blockSize align mem : Nat) (p : Blockpool) : Prop where
  dataSize : p.blockDataSize = blockSize
  aligned : p.align = align
  blocks : (p.subpools 0).numBlocks = n
  memory : (p.subpools 0).mem = some mem
  owns : (p.subpools 0).ownsMem = true

/-- A pool whose counts are right, and which has freed nothing and holds all the
    memory that it has obtained. -/
structure Made (n blockSize align mem : Nat) (s : PoolRun) : Prop where
  sound : Sound s.pool s.used
  based : Based n blockSize align mem s.pool
  count : s.pool.usedSum = s.used.length
  freed : s.freed = []
  holds : ∀ m ∈ s.obtained, ∃ i, i ≠ 0 ∧ (s.pool.subpools i).mem = some m

variable {n blockSize align mem : Nat} {s s' : PoolRun}

theorem Touches.based (h : Touches i bs p q) (hp : Based n blockSize align mem p) :
    Based n blockSize align mem q where
  dataSize := h.dataSize.trans hp.dataSize
  aligned := h.align.trans hp.aligned
  blocks := (h.fixed 0).2.2.1.trans hp.blocks
  memory := (h.fixed 0).2.1.trans hp.memory
  owns := (h.fixed 0).2.2.2.1.trans hp.owns

theorem based_withMemory {m : Nat} (hi0 : i ≠ 0) (hp : Based n blockSize align mem p) (k : Nat) :
    Based n blockSize align mem (p.withMemory i m k) := by
  have hfirst := withMemory_other (p := p) m k (Ne.symm hi0)
  obtain ⟨hdataSize, haligned, hblocks, hmemory, howns⟩ := hp
  refine ⟨hdataSize, haligned, ?_, ?_, ?_⟩ <;> rwa [hfirst]

theorem Touches.holds (h : Touches i bs p q) {obtained : List Nat}
    (hp : ∀ m ∈ obtained, ∃ i, i ≠ 0 ∧ (p.subpools i).mem = some m) :
    ∀ m ∈ obtained, ∃ i, i ≠ 0 ∧ (q.subpools i).mem = some m := fun m hm => by
  obtain ⟨j, hj, hmem⟩ := hp m hm
  exact ⟨j, hj, (h.fixed j).2.1.trans hmem⟩

theorem made_alloc {malloc : Nat → Option Nat} (hs : Made n blockSize align mem s)
    (h : poolStep s (.alloc malloc) = some s') : Made n blockSize align mem s' := by
  have hsound' := sound_step s _ s' hs.sound (by trivial) h
  have hcount := hs.count
  rw [Blockpool.usedSum] at hcount
  obtain ⟨hnew, ret, hret, hused, hfreed, hobtained⟩ := poolStep_alloc h
  obtain ⟨pool, used, obtained, freed⟩ := s'
  simp only at hret hused hfreed hsound' hobtained
  subst hused hfreed
  rcases alloc_cases hs.sound hnew with ⟨i, b, q, hfirst, heq, htouches, hfree, havailable, -⟩ |
    ⟨i, m, b, bs, q, hfirst, hgrow, heq, htouches, havailable, hext, -⟩ | ⟨hfirst, hgrow, heq⟩
  · rw [heq] at hret
    cases hret
    simp only [hfirst, List.nil_append] at hobtained
    subst hobtained
    refine ⟨hsound', htouches.based hs.based, ?_, hs.freed, htouches.holds hs.holds⟩
    obtain ⟨hi, hstart, -⟩ := firstFree_some hfirst
    have hle := available_le hs.sound hstart
    have hsum := sum_change (f := pool.usedIn) (g := s.pool.usedIn) hi
      fun j hj => htouches.usedIn_other hj
    rw [htouches.usedIn_self hstart, usedIn_eq hstart, havailable] at hsum
    rw [Blockpool.usedSum, htouches.num]
    simp only [Option.toList_some, List.singleton_append, List.length_cons]
    omega
  · rw [heq] at hret
    cases hret
    simp only [hfirst, hgrow, Option.map_some, Option.toList_some, List.singleton_append]
      at hobtained
    subst hobtained
    obtain ⟨hi, hi0, hnone, -⟩ := grow_some hgrow
    refine ⟨hsound', htouches.based (based_withMemory hi0 hs.based _), ?_, hs.freed,
      htouches.holds fun m' hm' => ?_⟩
    · -- The subpool counts from now on, with one block in use.
      have hbefore : s.pool.usedIn i = 0 := by
        rw [Blockpool.usedIn, hnone]
        rfl
      have hafter :
          pool.usedIn i = s.pool.numExtensionBlocks - (s.pool.numExtensionBlocks - 1) := by
        rw [htouches.usedIn_self (by simp), withMemory_self, havailable]
      have hsum := sum_change (f := pool.usedIn) (g := s.pool.usedIn) hi fun j hj => by
        rw [htouches.usedIn_other hj, Blockpool.usedIn, Blockpool.usedIn, withMemory_other _ _ hj]
      rw [Blockpool.usedSum, htouches.num]
      simp only [Option.toList_some, List.singleton_append, List.length_cons]
      change ((List.range s.pool.numSubpools).map pool.usedIn).sum = _
      omega
    · rcases List.mem_cons.mp hm' with rfl | hm'
      · exact ⟨i, hi0, by rw [withMemory_self]⟩
      · obtain ⟨j, hj, hmem⟩ := hs.holds m' hm'
        refine ⟨j, hj, ?_⟩
        rw [withMemory_other, hmem]
        -- That subpool has memory, so it is not the new one.
        rintro rfl
        have hsome := mem_isSome hs.sound.laid j
        simp [hnone, hmem] at hsome
  · rw [heq] at hret
    cases hret
    simp only [hfirst, hgrow, Option.map_none, Option.toList_none, List.nil_append] at hobtained
    subst hobtained
    exact ⟨hsound', hs.based, hs.count, hs.freed, hs.holds⟩

theorem made_free {b : Nat} (hs : Made n blockSize align mem s)
    (h : poolStep s (.free b) = some s') : Made n blockSize align mem s' := by
  have hsound' := sound_step s _ s' hs.sound (by trivial) h
  have hcount := hs.count
  rw [Blockpool.usedSum] at hcount
  obtain ⟨hb, mem', hq, hused, hfreed, hobtained⟩ := poolStep_free h
  obtain ⟨i, hdr, q, hq', hstart, htouches, havailable, -⟩ := sound_free hs.sound hb
  rw [hq'] at hq
  obtain ⟨pool, used, obtained, freed⟩ := s'
  simp only at hq hused hfreed hsound' hobtained
  cases hq
  subst hused hfreed hobtained
  refine ⟨hsound', htouches.based hs.based, ?_, hs.freed, htouches.holds hs.holds⟩
  have hi := hs.sound.laid.known i hstart
  have hle := available_le hsound' ((htouches.fixed i).1 ▸ hstart)
  rw [(htouches.fixed i).2.2.1] at hle
  have hsum := sum_change (f := q.usedIn) (g := s.pool.usedIn) hi
    fun j hj => htouches.usedIn_other hj
  rw [htouches.usedIn_self hstart, usedIn_eq hstart, havailable] at hsum
  have hpos := List.length_pos_of_mem hb
  rw [Blockpool.usedSum, htouches.num, List.length_erase_of_mem hb]
  change ((List.range s.pool.numSubpools).map q.usedIn).sum = _
  omega

theorem made_step (s : PoolRun) (op : PoolOp) (s' : PoolRun) (hs : Made n blockSize align mem s)
    (hfits : op.Fits s) (h : poolStep s op = some s') : Made n blockSize align mem s' := by
  cases op with
  | extend k m =>
      have hsound' := sound_step s _ s' hs.sound hfits h
      have hused := (usedSum_extend hs.sound.laid k m).trans hs.count
      rw [poolStep_extend h] at hsound' ⊢
      rcases extend_cases hs.sound.laid k m with heq | ⟨-, -, -, heq⟩
      · rwa [heq]
      · rw [heq] at hsound' hused ⊢
        obtain ⟨hdataSize, haligned, hblocks, hmemory, howns⟩ := hs.based
        exact ⟨hsound', ⟨hdataSize, haligned, hblocks, hmemory, howns⟩, hused, hs.freed, hs.holds⟩
  | alloc malloc => exact made_alloc hs h
  | free b => exact made_free hs h

/-- A pool right after it was created. -/
def PoolRun.init (p : Blockpool) : PoolRun := ⟨p, [], [], []⟩

/-- The pool before the blocks of its first subpool are put on the free list. -/
def emptyPool (blockSize align : Nat) : Blockpool where
  align := align
  blockDataSize := blockSize
  blockSize := paddedSize blockSize align
  numSubpools := 1
  numExtensionBlocks := 0
  subpools := fun _ => Subpool.zero
  headers := fun _ => .next none

/-- A pool that was created, in memory that ends where the addresses do at the
    latest. -/
structure Created (n blockSize align mem : Nat) (p : Blockpool) : Prop where
  fits : Fits n blockSize align
  room : mem + blockpoolSize n blockSize align ≤ 2 ^ 32
  pool : createOnHeap n blockSize align (some mem) = .ok p

/-- Without an alignment there is not enough memory. -/
theorem blockpoolSize_zero (hfits : Fits n blockSize 0) :
    blockpoolSize n blockSize 0 < blockpoolSize n blockSize sizeofHeader := by
  have hword : 0 < sizeofHeader := by decide
  have hzero : blockpoolSize n blockSize 0 = 0 := by
    simp [blockpoolSize, paddedSize, blockpoolRoundUp, u32]
  have hfull : Fits n blockSize sizeofHeader := hfits
  rw [hzero, hfull.blockpoolSize_eq hword, bytesFor]
  omega

/-- A pool is not created exactly if the alignment is no multiple of a word, or
    zero, which ought to be the default. -/
theorem createOnHeap_error_iff (hfits : Fits n blockSize align) :
    (∃ status, createOnHeap n blockSize align (some mem) = .error (status, some mem)) ↔
      align = 0 ∨ align % 4 ≠ 0 := by
  by_cases halign : align = 0
  · subst halign
    have hsize := blockpoolSize_zero hfits
    have hword : alignOr 0 = sizeofHeader := rfl
    simp [createOnHeap, blockpoolInit, hword, hsize, show sizeofHeader % 4 = 0 from rfl]
  · by_cases hmod : align % 4 = 0
    · simp [createOnHeap, blockpoolInit, alignOr, halign, hmod]
    · simp [createOnHeap, blockpoolInit, alignOr, halign, hmod]

theorem Created.pool_eq (h : Created n blockSize align mem p) : 0 < align ∧
    p = ((emptyPool blockSize align).subpoolInit 0 mem n).setSubpool 0
      { ((emptyPool blockSize align).subpoolInit 0 mem n).subpools 0 with ownsMem := true } := by
  obtain ⟨hfits, -, hpool⟩ := h
  have hword : ¬ (align = 0 ∨ align % 4 ≠ 0) := fun hc => by
    obtain ⟨status, herror⟩ := (createOnHeap_error_iff hfits).mpr hc
    rw [hpool] at herror
    cases herror
  rw [not_or, not_not] at hword
  simp only [createOnHeap, blockpoolInit, alignOr, hword.1, if_false, hword.2, ne_eq,
    not_true_eq_false, lt_irrefl, Except.ok.injEq] at hpool
  exact ⟨by omega, hpool.symm⟩

/-- The first subpool of a new pool, and that there is no other. -/
theorem Created.subpools (h : Created n blockSize align mem p) :
    0 < align ∧ p.align = align ∧ p.blockDataSize = blockSize ∧
      p.blockSize = bytesPerBlock blockSize align ∧ p.numSubpools = 1 ∧
      mem + bytesFor n blockSize align ≤ 2 ^ 32 ∧
      (∃ f, p.subpools 0 = ⟨f, some mem, some (startOf mem align), n, n, true, false⟩) ∧
      (∀ j, j ≠ 0 → p.subpools j = Subpool.zero) ∧
      (∀ b ∈ blocks (startOf mem align) (bytesPerBlock blockSize align) n, Linked p b) ∧
      ∃ e, Chain Slot.block p.links (.head 0)
        (blocks (startOf mem align) (bytesPerBlock blockSize align) n).reverse e := by
  obtain ⟨halign, hp⟩ := h.pool_eq
  have hroom := h.room
  rw [h.fits.blockpoolSize_eq halign] at hroom
  have hblock : (emptyPool blockSize align).blockSize = bytesPerBlock blockSize align :=
    h.fits.paddedSize_eq halign
  have hsize : 0 < (emptyPool blockSize align).blockSize := by
    have hle := le_bytesPerBlock blockSize halign
    simp only [sizeofHeader] at hle
    omega
  have hend : startOf mem (emptyPool blockSize align).align +
      (emptyPool blockSize align).blockSize * n < 2 ^ 32 := by
    rw [hblock]
    exact (h.fits.blocks_end halign hroom).trans_le hroom
  obtain ⟨htouches, havailable, hlinked, e, hchain⟩ := subpoolInit_listed (i := 0) hsize hend
  obtain ⟨hstart, hmem, hnum, howns, hext⟩ := htouches.fixed 0
  rw [withMemory_self] at hstart hmem hnum howns hext
  rw [hblock] at hlinked hchain
  refine ⟨halign, ?_, ?_, ?_, ?_, hroom,
    ⟨(((emptyPool blockSize align).subpoolInit 0 mem n).subpools 0).freeList, ?_⟩,
    fun j hj => ?_, fun b hb => ?_, e, ?_⟩
  · rw [hp]
    exact htouches.align
  · rw [hp]
    exact htouches.dataSize
  · rw [hp]
    exact htouches.size.trans hblock
  · rw [hp]
    exact htouches.num
  · rw [hp]
    simp only [Blockpool.setSubpool, Function.update_self, hstart, hmem, hnum, hext, havailable]
    rfl
  · rw [hp]
    simp only [Blockpool.setSubpool, Function.update_of_ne hj, htouches.others j hj,
      withMemory_other mem n hj]
    rfl
  · rw [hp]
    exact hlinked b hb
  · rw [hp, links_setSubpool (by rfl)]
    exact hchain

theorem made_init (h : Created n blockSize align mem p) : Made n blockSize align mem (.init p) := by
  obtain ⟨halign, hpalign, hdataSize, hsize, hnum, hroom, ⟨f, hfirst⟩, hothers, hlinked, e,
    hchain⟩ := h.subpools
  have honly : ∀ j, (p.subpools j).start.isSome = true → j = 0 := fun j hj => by
    by_contra hj0
    simp [hothers j hj0, Subpool.zero] at hj
  have hlaid : Laid p := {
    align := hpalign ▸ halign
    size := by rw [hsize, hdataSize, hpalign]
    few := by simp [hnum, maxSubpools]
    grows := by simp [hnum]
    fits := fun j m hm => by
      by_cases hj : j = 0
      · simp only [hj, hfirst, Option.some.injEq] at hm ⊢
        rw [hdataSize, hpalign, ← hm]
        exact ⟨h.fits, hroom⟩
      · simp [hothers j hj, Subpool.zero] at hm
    first := by simp [hfirst]
    known := fun j hj => by simp [honly j hj, hnum]
    place := fun j => by
      by_cases hj : j = 0
      · simp [hj, hfirst, hpalign]
      · simp [hothers j hj, Subpool.zero]
    extended := fun j hj hstart => absurd (honly j hstart) hj
    apart := fun j k m m' hjk hm hm' => by
      -- Only one of two subpools can be the first one.
      rcases eq_or_ne j 0 with rfl | hj
      · simp [hothers k (Ne.symm hjk), Subpool.zero] at hm'
      · simp [hothers j hj, Subpool.zero] at hm
    flags := fun j => by
      by_cases hj : j = 0
      · simp [hj, hfirst]
      · simp [hothers j hj, Subpool.zero] }
  have hblocks : p.blocksOf 0 = blocks (startOf mem align) (bytesPerBlock blockSize align) n := by
    simp [Blockpool.blocksOf, hfirst, hsize]
  refine ⟨⟨hlaid, fun j hj => ?_, List.nodup_nil, by simp [PoolRun.init]⟩,
    ⟨hdataSize, hpalign, by simp [PoolRun.init, hfirst], by simp [PoolRun.init, hfirst],
      by simp [PoolRun.init, hfirst]⟩, ?_, rfl, by simp [PoolRun.init]⟩
  · obtain rfl := honly j hj
    refine ⟨_, e, hchain, by simp [PoolRun.init, hfirst],
      fun b hb => hlinked b (List.mem_reverse.mp hb), fun b => ?_⟩
    simp [PoolRun.init, hblocks]
  · simp [PoolRun.init, Blockpool.usedSum, Blockpool.usedIn, hnum, hfirst]

theorem made_run {ops : List PoolOp} (h : Created n blockSize align mem p)
    (hext : Along poolStep (fun s op => op.Fits s) (.init p) ops)
    (hrun : run poolStep (.init p) ops = some s) : Made n blockSize align mem s :=
  run_invariant_along made_step (made_init h) hext hrun

/-- However blocks are allocated and freed, those in use are in the memory of the
    pool, do not overlap, and are aligned. Alignment takes a power of two, which
    `vcos_generic_blockpool_init` does not check. -/
theorem blocks_in_use {ops : List PoolOp} (h : Created n blockSize align mem p)
    (hext : Along poolStep (fun s op => op.Fits s) (.init p) ops)
    (hrun : run poolStep (.init p) ops = some s) :
    (∀ b ∈ s.used, ∃ i m, (s.pool.subpools i).mem = some m ∧ m ≤ b ∧
      b + blockSize ≤ m + blockpoolSize (s.pool.subpools i).numBlocks blockSize align) ∧
    s.used.Pairwise (fun b c => b + blockSize ≤ c ∨ c + blockSize ≤ b) ∧
    ∀ k, align = 2 ^ k → ∀ b ∈ s.used, 2 ^ k ∣ b := by
  obtain ⟨hsound, hbased, -, -, -⟩ := made_run h hext hrun
  have hroom := hsound.laid.room
  rw [hbased.dataSize] at hroom
  refine ⟨fun b hb => ?_, hsound.nodup.imp_of_mem fun hb hc hne => ?_, fun k hk b hb => ?_⟩
  · obtain ⟨i, hdr, hhdr, rfl, -⟩ := hsound.owned b hb
    obtain ⟨m, hm, hlow, hhigh⟩ := hsound.laid.within hhdr
    rw [← (hsound.laid.fits i m hm).1.blockpoolSize_eq hsound.laid.align, hbased.dataSize,
      hbased.aligned] at hhigh
    exact ⟨i, m, hm, by omega, by omega⟩
  · obtain ⟨i, hdr, hhdr, rfl, -⟩ := hsound.owned _ hb
    obtain ⟨j, hdr', hhdr', rfl, -⟩ := hsound.owned _ hc
    have hapart := hsound.laid.blocks_apart hhdr hhdr' (by rintro rfl; exact hne rfl)
    omega
  · obtain ⟨i, hdr, hhdr, rfl, -⟩ := hsound.owned b hb
    obtain ⟨start, hstart⟩ := start_of_mem_blocksOf hhdr
    rw [mem_blocksOf hstart] at hhdr
    obtain ⟨j, -, rfl⟩ := mem_blocks.mp hhdr
    have hplace := hsound.laid.place i
    rw [hstart, hbased.aligned] at hplace
    obtain ⟨m, hm, rfl⟩ := Option.map_eq_some_iff.mp hplace.symm
    -- The data of the first block, and as many blocks.
    have hfirst : startOf m align + sizeofHeader = roundUp (m + sizeofHeader) align := by
      obtain ⟨hfits, hroom⟩ := hsound.laid.fits i m hm
      rw [← hbased.aligned]
      exact startOf_eq hsound.laid.align (hfits.room hsound.laid.align hroom)
    have hstride : 2 ^ k ∣ s.pool.blockSize := by
      rw [hsound.laid.size, hbased.aligned, hk]
      exact dvd_roundUp _ k
    rw [Nat.add_right_comm, hfirst, hk]
    exact Nat.dvd_add (dvd_roundUp _ k) (Nat.dvd_mul_right_of_dvd hstride j)

/-- Two blocks of ten bytes, the second of which is freed after another subpool
    was allocated. -/
theorem blocks_in_use_two : ∃ p s, Created 2 10 4 1000 p ∧
    run poolStep (.init p) [.extend 1 3, .alloc fun _ => none, .alloc fun _ => none,
      .alloc fun _ => some 5000, .free 1004] = some s ∧ s.used = [5036, 1020] ∧
    (∀ b ∈ s.used, ∃ i m, (s.pool.subpools i).mem = some m ∧ m ≤ b ∧
      b + 10 ≤ m + blockpoolSize (s.pool.subpools i).numBlocks 10 4) ∧
    s.used.Pairwise (fun b c => b + 10 ≤ c ∨ c + 10 ≤ b) ∧
    ∀ k, 4 = 2 ^ k → ∀ b ∈ s.used, 2 ^ k ∣ b := by
  refine ⟨_, _, ⟨by decide, by decide, rfl⟩, rfl, rfl, ?_⟩
  exact blocks_in_use (show Created 2 10 4 1000 _ from ⟨by decide, by decide, rfl⟩) (by decide)
    (show run poolStep _ [.extend 1 3, .alloc fun _ => none, .alloc fun _ => none,
      .alloc fun _ => some 5000, .free 1004] = some _ from rfl)

/-- A sum in which the first summand is another. -/
theorem sum_first (k a b : Nat) :
    ((List.range (k + 1)).map fun i => if i = 0 then a else b).sum = a + k * b := by
  induction k with
  | zero => simp
  | succ k ih =>
      rw [List.range_succ, List.map_append, List.sum_append, ih]
      simp [Nat.succ_mul, Nat.add_assoc]

/-- The number of blocks that a pool has memory for. -/
def totalBlocks (p : Blockpool) : Nat :=
  ((List.range p.numSubpools).map fun i =>
    if (p.subpools i).start.isSome then (p.subpools i).numBlocks else 0).sum

/-- Blocks in use can be counted in 32 bits, since they have addresses of 32
    bits. -/
theorem used_length_lt (hs : Sound p used) : used.length < 2 ^ 32 := by
  have hsub : used ⊆ List.range' 4 (2 ^ 32 - 3) := fun b hb => by
    obtain ⟨i, hdr, hhdr, rfl, -⟩ := hs.owned b hb
    obtain ⟨m, hm, -, hhigh⟩ := hs.laid.within hhdr
    have hroom := hs.laid.room
    have hmem := (hs.laid.fits i m hm).2
    simp only [List.mem_range'_1, sizeofHeader] at hroom ⊢
    omega
  have hle := (List.subperm_of_subset hs.nodup hsub).length_le
  rw [List.length_range'] at hle
  omega

/-- The blocks of a pool that began with so many, when there is memory for all
    its subpools. -/
def blocksInAll (n : Nat) (p : Blockpool) : Nat :=
  n + (p.numSubpools - 1) * p.numExtensionBlocks

/-- The counts are right at all times: `vcos_generic_blockpool_used_count` is the
    number of blocks in use, and `vcos_generic_blockpool_available_count` what 32
    bits can say of that of the others, with those of the subpools for which
    there is no memory yet. -/
theorem counts_add_up {ops : List PoolOp} (h : Created n blockSize align mem p)
    (hext : Along poolStep (fun s op => op.Fits s) (.init p) ops)
    (hrun : run poolStep (.init p) ops = some s) :
    usedCount s.pool = s.used.length ∧ s.used.length ≤ blocksInAll n s.pool ∧
      availableCount s.pool = (blocksInAll n s.pool - s.used.length) % 2 ^ 32 := by
  obtain ⟨hsound, hbased, hcount, -, -⟩ := made_run h hext hrun
  have hpos := hsound.laid.known 0 hsound.laid.first
  have hsum : ((List.range s.pool.numSubpools).map fun i =>
      if (s.pool.subpools i).start.isSome then (s.pool.subpools i).availableBlocks
      else s.pool.numExtensionBlocks).sum + s.used.length = blocksInAll n s.pool := by
    have hfirst := sum_first (s.pool.numSubpools - 1) n s.pool.numExtensionBlocks
    rw [Nat.sub_add_cancel hpos] at hfirst
    rw [← hcount, Blockpool.usedSum, ← List.sum_map_add, blocksInAll, ← hfirst]
    refine congrArg List.sum (List.map_congr_left fun i _ => ?_)
    cases hstart : (s.pool.subpools i).start.isSome with
    | true =>
        have hle := available_le hsound hstart
        rw [usedIn_eq hstart, if_pos rfl, Nat.add_sub_cancel' hle]
        split
        · rename_i hi
          rw [hi, hbased.blocks]
        · rename_i hi
          exact hsound.laid.extended i hi hstart
    | false =>
        have hi : i ≠ 0 := by
          rintro rfl
          simp [hsound.laid.first] at hstart
        simp [Blockpool.usedIn, hstart, hi]
  refine ⟨?_, by omega, ?_⟩
  · have hused : usedCount s.pool = u32 (s.pool.usedSum : Int) := rfl
    rw [hused, hcount]
    exact u32_of_range (used_length_lt hsound)
  · rw [availableCount, u32]
    omega

/-- One of two blocks is in use, and three more are possible. -/
theorem counts_add_up_one : ∃ p s, Created 2 10 4 1000 p ∧
    run poolStep (.init p) [.extend 1 3, .alloc fun _ => none] = some s ∧
    availableCount s.pool = 4 ∧
    usedCount s.pool = s.used.length ∧ s.used.length ≤ blocksInAll 2 s.pool ∧
      availableCount s.pool = (blocksInAll 2 s.pool - s.used.length) % 2 ^ 32 := by
  refine ⟨_, _, ⟨by decide, by decide, rfl⟩, rfl, rfl, ?_⟩
  exact counts_add_up (show Created 2 10 4 1000 _ from ⟨by decide, by decide, rfl⟩) (by decide)
    (show run poolStep _ [.extend 1 3, .alloc fun _ => none] = some _ from rfl)

/-- No null pointer is dereferenced, and there is no block exactly if all blocks
    are in use, and there is no memory for another subpool. -/
theorem alloc_null_iff {ops : List PoolOp} (h : Created n blockSize align mem p)
    (hext : Along poolStep (fun s op => op.Fits s) (.init p) ops)
    (hrun : run poolStep (.init p) ops = some s) {malloc : Nat → Option Nat}
    (hnew : ∀ i < s.pool.numSubpools, ∀ m, malloc i = some m → s.pool.isNew m = true) :
    ∃ ret q, blockpoolAlloc s.pool malloc = some (ret, q) ∧
      (ret = none ↔ s.used.length = totalBlocks s.pool ∧
        ∀ i < s.pool.numSubpools, (s.pool.subpools i).start = none → malloc i = none) := by
  obtain ⟨hsound, -, hcount, -, -⟩ := made_run h hext hrun
  have hfull : s.pool.firstFree = none ↔ s.used.length = totalBlocks s.pool := by
    have hsum : totalBlocks s.pool = ((List.range s.pool.numSubpools).map fun i =>
        if (s.pool.subpools i).start.isSome then (s.pool.subpools i).availableBlocks else 0).sum +
          s.used.length := by
      rw [← hcount, Blockpool.usedSum, totalBlocks, ← List.sum_map_add]
      refine congrArg List.sum (List.map_congr_left fun i _ => ?_)
      cases hstart : (s.pool.subpools i).start.isSome with
      | true =>
          rw [usedIn_eq hstart, if_pos rfl, if_pos rfl,
            Nat.add_sub_cancel' (available_le hsound hstart)]
      | false => simp [Blockpool.usedIn, hstart]
    rw [hsum, firstFree_none, Nat.right_eq_add, List.sum_eq_zero_iff_forall_eq_nat]
    simp
  rw [← hfull, ← grow_none hsound.laid]
  rcases alloc_cases hsound hnew with ⟨i, b, q, hfirst, heq, -⟩ |
    ⟨i, m, b, bs, q, hfirst, hgrow, heq, -⟩ | ⟨hfirst, hgrow, heq⟩
  · exact ⟨_, q, heq, by simp [hfirst]⟩
  · exact ⟨_, q, heq, by simp [hgrow]⟩
  · exact ⟨_, _, heq, by simp [hfirst, hgrow]⟩

/-- The only block is in use. -/
theorem alloc_null_iff_one : ∃ p s, Created 1 10 4 1000 p ∧
    run poolStep (.init p) [.alloc fun _ => none] = some s ∧
    ∃ ret q, blockpoolAlloc s.pool (fun _ => none) = some (ret, q) ∧
      (ret = none ↔ s.used.length = totalBlocks s.pool ∧
        ∀ i < s.pool.numSubpools, (s.pool.subpools i).start = none →
          (fun _ => none : Nat → Option Nat) i = none) := by
  refine ⟨_, _, ⟨by decide, by decide, rfl⟩, rfl, ?_⟩
  exact alloc_null_iff (show Created 1 10 4 1000 _ from ⟨by decide, by decide, rfl⟩) (by decide)
    (show run poolStep _ [.alloc fun _ => none] = some _ from rfl) (fun _ _ _ h => by cases h)

def PoolOp.isExtend : PoolOp → Bool
  | .extend _ _ => true
  | _ => false

theorem PoolOp.fits_of_not_extend {op : PoolOp} (hop : op.isExtend = false) : op.Fits s := by
  cases op with
  | extend k m => cases hop
  | alloc malloc | free b => trivial

theorem single_step (s : PoolRun) (op : PoolOp) (s' : PoolRun)
    (hs : Sound s.pool s.used ∧ s.pool.numSubpools = 1) (hop : op.isExtend = false)
    (h : poolStep s op = some s') : Sound s'.pool s'.used ∧ s'.pool.numSubpools = 1 := by
  refine ⟨sound_step s op s' hs.1 (PoolOp.fits_of_not_extend hop) h, ?_⟩
  cases op with
  | extend k m => cases hop
  | alloc malloc =>
      obtain ⟨hnew, ret, hret, -⟩ := poolStep_alloc h
      rcases alloc_cases hs.1 hnew with ⟨i, b, q, -, heq, htouches, -⟩ |
        ⟨i, m, b, bs, q, -, hgrow, -⟩ | ⟨-, -, heq⟩
      · rw [heq] at hret
        cases hret
        exact htouches.num.trans hs.2
      · obtain ⟨hi, hi0, -⟩ := grow_some hgrow
        omega
      · rw [heq, Option.some.injEq, Prod.mk.injEq] at hret
        rw [← hret.2]
        exact hs.2
  | free b =>
      obtain ⟨hb, m, hq, -⟩ := poolStep_free h
      obtain ⟨i, hdr, q, hq', -, htouches, -⟩ := sound_free hs.1 hb
      rw [hq'] at hq
      cases hq
      exact htouches.num.trans hs.2

/-- A pool that is not extended has the blocks that it was created with. -/
theorem single_alloc_iff {ops : List PoolOp} (h : Created n blockSize align mem p)
    (hops : ∀ op ∈ ops, op.isExtend = false) (hrun : run poolStep (.init p) ops = some s) :
    s.used.length ≤ n ∧
      ((∃ b q, blockpoolAlloc s.pool (fun _ => none) = some (some b, q)) ↔ s.used.length < n) := by
  have hmade := made_init h
  have hext : Along poolStep (fun s op => op.Fits s) (.init p) ops :=
    along_of_forall fun op hop _ => PoolOp.fits_of_not_extend (hops op hop)
  obtain ⟨-, hsingle⟩ := run_invariant_along (P := fun _ op => op.isExtend = false) single_step
    ⟨hmade.sound, h.subpools.2.2.2.2.1⟩ (along_of_forall fun op hop _ => hops op hop) hrun
  have hbased := (made_run h hext hrun).based
  have hlaid := (made_run h hext hrun).sound.laid
  have htotal : totalBlocks s.pool = n := by
    simp [totalBlocks, hsingle, hlaid.first, hbased.blocks]
  obtain ⟨-, hle, -⟩ := counts_add_up h hext hrun
  rw [blocksInAll, hsingle, Nat.sub_self, Nat.zero_mul, Nat.add_zero] at hle
  refine ⟨hle, ?_⟩
  have hnew : ∀ i < s.pool.numSubpools, ∀ m, (fun _ => none : Nat → Option Nat) i = some m →
      s.pool.isNew m = true := fun _ _ _ hm => by cases hm
  obtain ⟨ret, q, hret, hnone⟩ := alloc_null_iff h hext hrun hnew
  have hempty : ret = none ↔ s.used.length = n := by
    rw [hnone, htotal]
    simp
  rw [hret]
  cases ret with
  | none =>
      have heq := hempty.mp rfl
      simp [heq]
  | some b =>
      have hne : s.used.length ≠ n := fun heq => by simpa using hempty.mpr heq
      simp
      omega

/-- The memory of a pool is freed with the pool, but not what it has obtained
    since. That is never freed. -/
theorem extension_memory_lost {ops : List PoolOp} (h : Created n blockSize align mem p)
    (hext : Along poolStep (fun s op => op.Fits s) (.init p) ops)
    (hrun : run poolStep (.init p) ops = some s) :
    s.freed = [] ∧ blockpoolDelete s.pool = [mem] ∧ mem ∉ s.obtained := by
  obtain ⟨hsound, hbased, -, hfreed, hholds⟩ := made_run h hext hrun
  refine ⟨hfreed, ?_, fun hmem => ?_⟩
  · have hpos := hsound.laid.known 0 hsound.laid.first
    obtain ⟨k, hk⟩ : ∃ k, s.pool.numSubpools = 1 + k := ⟨s.pool.numSubpools - 1, by omega⟩
    rw [blockpoolDelete, hk, List.range_add, List.filterMap_append]
    have hrest : ((List.range k).map (1 + ·)).filterMap (fun i =>
        if (s.pool.subpools i).ownsMem = true then (s.pool.subpools i).mem else none) = [] := by
      rw [List.filterMap_eq_nil_iff]
      intro i hi
      obtain ⟨j, -, rfl⟩ := List.mem_map.mp hi
      rw [if_neg]
      intro hc
      have hzero := (hsound.laid.flags (1 + j)).2 hc
      omega
    rw [hrest]
    simp [hbased.owns, hbased.memory]
  · obtain ⟨i, hi, hm⟩ := hholds mem hmem
    have halign := hsound.laid.align
    rcases hsound.laid.apart i 0 mem mem hi hm hbased.memory with hle | hle <;>
      simp only [bytesFor] at hle <;> omega

/-- The block of another subpool is freed, and then the pool is deleted. -/
theorem extension_memory_lost_one : ∃ p s, Created 1 10 4 1000 p ∧
    run poolStep (.init p) [.extend 1 1, .alloc fun _ => none, .alloc fun _ => some 5000,
      .free 5004] = some s ∧ s.obtained = [5000] ∧
    s.freed = [] ∧ blockpoolDelete s.pool = [1000] ∧ 1000 ∉ s.obtained := by
  refine ⟨_, _, ⟨by decide, by decide, rfl⟩, rfl, rfl, ?_⟩
  exact extension_memory_lost (show Created 1 10 4 1000 _ from ⟨by decide, by decide, rfl⟩)
    (by decide) (show run poolStep _ [.extend 1 1, .alloc fun _ => none,
      .alloc fun _ => some 5000, .free 5004] = some _ from rfl)

end Vcos

end RaspiCam
