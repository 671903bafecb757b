import RaspiCam.Lib.Machine
import RaspiCam.Lib.References
import RaspiCam.Lib.Run

/-!
# The References to Buffer Headers

`mmal_buffer.c`, and the part of `mmal_pool.c` where a header comes back. A
header is handed around by reference counting. It is taken out of the queue of
its pool with one reference, more can be acquired, and the release of the last
one puts it back. `mmal_buffer_header_replicate` makes one header stand for the
contents of another one, of another pool for instance, and holds a reference
to it, so a release can set off another release, and so on down a chain.

Two callbacks can interfere. The pre-release callback may delay the release of
a header, until somebody calls `mmal_buffer_header_release_continue`, and the
callback of the pool may keep the header, which is then its own.

The references that the clients hold are not written down anywhere in the code.
They are here, so that they can be compared with the counts, `Books`: what a
count says is right for every header in every run, so a header is in the queue
of its pool exactly if nobody holds it, nothing refers to it, and it is not
delayed, `in_queue_iff`. The counts are of 32 bits, so this is about headers that
never have 2^31 - 1 references.

Since nothing keeps a header from being replicated into itself, headers can be
lost in a cycle. If a header is only made a replica of another one, and while a
client has its only reference, all of them come back, `all_return`.

## Main definitions

* `Headers`: The headers, and where they are.
* `mmalBufferHeaderRelease`: The release, with all that it sets off.
* `BufferOp`, `bufferStep`: The calls.
* `Books`: The counts are right.

## Theorems

* `release_books`: A release comes to an end, and the counts are right.
* `books_run`: So they are in every run.
* `in_queue_iff`: The headers that are in a queue.
* `release_returns`: Who holds a header can release it.
* `all_return`: Nothing is lost.
-/

namespace RaspiCam

namespace Framework

open Machine References Transition

variable {κ η τ : Type*}

/-- What a header says about its data. `data` is an address, and `type` what
    depends on the kind of data. -/
structure Fields (τ : Type*) where
  cmd : UInt32
  data : Nat
  allocSize : UInt32
  length : UInt32
  offset : UInt32
  flags : UInt32
  pts : Int
  dts : Int
  type : τ
deriving DecidableEq

/-- `MMAL_TIME_UNKNOWN`. -/
def mmalTimeUnknown : Int := -9223372036854775808

/-- The headers: what they contain, what their private part counts and refers
    to, and the queues of the pools. A count is an `int32_t`. `held` is what the
    clients hold, and `parked` are the headers whose release is delayed. -/
structure Headers (κ η τ : Type*) where
  fields : η → Fields τ
  refcount : η → Int
  reference : η → Option η
  queue : κ → List η
  held : η → Nat
  parked : List η

/-- What the callbacks answer in a call: whether the release of a header is
    delayed, and whether the pool is to queue it. -/
structure Callbacks (η : Type*) where
  delays : η → Bool
  queues : η → Bool

/-- There is no data, and nothing is said about it. -/
def Fields.Clean (f : Fields τ) : Prop := f.length = 0 ∧ f.offset = 0 ∧ f.flags = 0

/-- What `mmal_buffer_header_initialise` leaves in a header, whose memory it sets
    to zero. -/
def Fields.zero (type : τ) : Fields τ := ⟨0, 0, 0, 0, 0, 0, 0, 0, type⟩

/-- New pools: every header is in the queue of its pool, in some order, and
    without data. -/
structure NewPools (owner : η → κ) (τ : Type*) where
  fields : η → Fields τ
  queue : κ → List η
  home : ∀ q x, x ∈ queue q ↔ owner x = q
  once : ∀ q, (queue q).Nodup
  clean : ∀ x, (fields x).Clean

/-- The headers of new pools. -/
def NewPools.headers {owner : η → κ} (p : NewPools owner τ) : Headers κ η τ where
  fields := p.fields
  refcount := fun _ => 1
  reference := fun _ => none
  queue := p.queue
  held := fun _ => 0
  parked := []

variable [DecidableEq κ] [DecidableEq η]

/-- `mmal_buffer_header_acquire`. -/
def mmalBufferHeaderAcquire (s : Headers κ η τ) (h : η) : Headers κ η τ :=
  { s with refcount := Function.update s.refcount h (i32 (s.refcount h + 1)) }

/-- `mmal_buffer_header_reset`. -/
def mmalBufferHeaderReset (s : Headers κ η τ) (h : η) : Headers κ η τ :=
  { s with
    fields := Function.update s.fields h
      { s.fields h with
        length := 0, offset := 0, flags := 0, pts := mmalTimeUnknown, dts := mmalTimeUnknown } }

/-- `mmal_pool_buffer_header_release`. If its callback does not want the header
    to be queued, it keeps it. -/
def mmalPoolBufferHeaderRelease (owner : η → κ) (cb : Callbacks η) (s : Headers κ η τ) (h : η) :
    Headers κ η τ :=
  let s := { s with refcount := Function.update s.refcount h 1 }
  if cb.queues h then
    { s with queue := Function.update s.queue (owner h) (s.queue (owner h) ++ [h]) }
  else { s with held := Function.update s.held h 1 }

/-- `mmal_buffer_header_release_continue`, given what releases the header that
    is referred to. -/
def mmalBufferHeaderReleaseContinue (owner : η → κ) (cb : Callbacks η)
    (release : Headers κ η τ → η → Option (Headers κ η τ)) (s : Headers κ η τ) (h : η) :
    Option (Headers κ η τ) :=
  let s := mmalBufferHeaderReset s h
  let released := match s.reference h with
    | some src => release s src
    | none => some s
  released.map fun s =>
    mmalPoolBufferHeaderRelease owner cb
      { s with reference := Function.update s.reference h none } h

/-- `mmal_buffer_header_release`. It calls itself for the header that is
    referred to, at most as often as it is told here. A header whose count is
    not positive is nobody's to release, so it is a fault to come to one. -/
def mmalBufferHeaderRelease (owner : η → κ) (cb : Callbacks η) :
    Nat → Headers κ η τ → η → Option (Headers κ η τ)
  | 0, _, _ => none
  | n + 1, s, h =>
    if s.refcount h ≤ 0 then none
    else
      let s := { s with refcount := Function.update s.refcount h (s.refcount h - 1) }
      if s.refcount h ≠ 0 then some s
      else if cb.delays h then some { s with parked := h :: s.parked }
      else mmalBufferHeaderReleaseContinue owner cb (mmalBufferHeaderRelease owner cb n) s h

/-- `mmal_buffer_header_replicate`, and whether it succeeds. -/
def mmalBufferHeaderReplicate (s : Headers κ η τ) (dest src : Option η) : Headers κ η τ × Bool :=
  match dest, src with
  | some dest, some src =>
    if s.reference dest = none then
      let s := mmalBufferHeaderAcquire s src
      ({ s with
         reference := Function.update s.reference dest (some src)
         fields := Function.update s.fields dest (s.fields src) }, true)
    else (s, false)
  | _, _ => (s, false)

variable [Fintype η]

/-- The calls of the clients. A header they hold is also theirs to write to. -/
inductive BufferOp (κ η τ : Type*)
  | get (q : κ)
  | write (h : η) (f : Fields τ)
  | acquire (h : η)
  | release (h : η) (cb : Callbacks η)
  | releaseContinue (h : η) (cb : Callbacks η)
  | replicate (dest src : Option η)

/-- A client only passes a header that it holds, and a delayed release is only
    continued once. -/
def bufferStep (owner : η → κ) (s : Headers κ η τ) : BufferOp κ η τ → Option (Headers κ η τ)
  | .get q =>
    match s.queue q with
    | [] => some s
    | h :: rest =>
      some { s with
             queue := Function.update s.queue q rest
             held := Function.update s.held h (s.held h + 1) }
  | .write h f =>
    if s.held h = 0 then none else some { s with fields := Function.update s.fields h f }
  | .acquire h =>
    if s.held h = 0 then none
    else some { mmalBufferHeaderAcquire s h with held := Function.update s.held h (s.held h + 1) }
  | .release h cb =>
    if s.held h = 0 then none
    else
      mmalBufferHeaderRelease owner cb (Fintype.card η)
        { s with held := Function.update s.held h (s.held h - 1) } h
  | .releaseContinue h cb =>
    if h ∈ s.parked then
      mmalBufferHeaderReleaseContinue owner cb
        (mmalBufferHeaderRelease owner cb (Fintype.card η)) { s with parked := s.parked.erase h } h
    else none
  | .replicate dest src =>
    if (∀ d, dest = some d → s.held d ≠ 0) ∧ ∀ h, src = some h → s.held h ≠ 0 then
      some (mmalBufferHeaderReplicate s dest src).1
    else none

/-- A header that is about to have one more reference has fewer than fit into
    its count. -/
def BufferOp.Fits (s : Headers κ η τ) : BufferOp κ η τ → Prop
  | .acquire h => s.refcount h < 2147483647
  | .replicate (some dest) (some src) => s.reference dest = none → s.refcount src < 2147483647
  | _ => True

instance BufferOp.decidableFits (s : Headers κ η τ) : ∀ op : BufferOp κ η τ, Decidable (op.Fits s)
  | .acquire _ => inferInstanceAs (Decidable (_ < _))
  | .replicate (some _) (some _) => inferInstanceAs (Decidable (_ → _))
  | .replicate none _ | .replicate (some _) none | .get _ | .write _ _ | .release _ _
  | .releaseContinue _ _ => inferInstanceAs (Decidable True)

/-- The counts are right, but for the headers whose release is under way, and
    for one reference that is about to be released. -/
structure Books (owner : η → κ) (s : Headers κ η τ) (busy : List η) (due : Option η) : Prop where
  counted : ∀ x, s.refcount x = s.held x + (if x ∈ s.queue (owner x) then 1 else 0) +
    count (mask s.reference busy) x + if due = some x then 1 else 0
  placed : ∀ q, ∀ x ∈ s.queue q, owner x = q
  once : ∀ q, (s.queue q).Nodup
  idle : ∀ x ∈ s.queue (owner x), s.refcount x = 1 ∧ s.reference x = none
  clean : ∀ x ∈ s.queue (owner x), (s.fields x).Clean
  parked : ∀ x ∈ s.parked, s.refcount x = 0
  parkedOnce : s.parked.Nodup
  zero : ∀ x ∈ busy, s.refcount x = 0 ∧ x ∉ s.parked ∧ (s.fields x).Clean
  out : ∀ x, s.refcount x = 0 → x ∈ s.parked ∨ x ∈ busy

variable {owner : η → κ} {s s' : Headers κ η τ} {busy : List η} {due : Option η}

/-! ## A release -/

omit [DecidableEq κ] in
/-- The reference that is about to be released counts. -/
theorem Books.due_pos {h : η} (hs : Books owner s busy (some h)) : 0 < s.refcount h := by
  rw [hs.counted h, if_pos rfl]
  split <;> omega

omit [DecidableEq κ] in
theorem not_mem_of_pos {h : η} (hs : Books owner s busy due) (hpos : 0 < s.refcount h) :
    h ∉ busy ∧ h ∉ s.parked :=
  ⟨fun hc => by have := (hs.zero h hc).1; omega, fun hc => by have := hs.parked h hc; omega⟩

omit [DecidableEq κ] in
/-- The reference is given up, and it was not the last one. -/
theorem books_not_last {h : η} (hs : Books owner s busy (some h)) (hmore : s.refcount h - 1 ≠ 0) :
    Books owner { s with refcount := Function.update s.refcount h (s.refcount h - 1) } busy
      none := by
  have hpos := hs.due_pos
  have hne : ∀ x, s.refcount x = 0 → x ≠ h := fun x hx hc => by subst hc; omega
  refine ⟨fun x => ?_, hs.placed, hs.once, fun x hx => ?_, hs.clean, fun x hx => ?_, hs.parkedOnce,
    fun x hx => ?_, fun x hx => ?_⟩
  · have hx := hs.counted x
    by_cases hxh : x = h
    · subst hxh
      simp only [Function.update_self, if_pos] at hx ⊢
      simp
      omega
    · simp only [Function.update_of_ne hxh]
      simpa [Ne.symm hxh] using hx
  · -- A header in the queue has no reference that could be given up.
    have hxh : x ≠ h := by
      rintro rfl
      have hcount := hs.counted x
      have hone := (hs.idle x hx).1
      rw [if_pos hx, if_pos rfl] at hcount
      omega
    simpa [Function.update_of_ne hxh] using hs.idle x hx
  · have hzero := hs.parked x hx
    simpa [Function.update_of_ne (hne x hzero)] using hzero
  · obtain ⟨hzero, hout⟩ := hs.zero x hx
    exact ⟨by simpa [Function.update_of_ne (hne x hzero)] using hzero, hout⟩
  · by_cases hxh : x = h
    · subst hxh
      simp at hx
      omega
    · have hzero : s.refcount x = 0 := by simpa [Function.update_of_ne hxh] using hx
      exact hs.out x hzero

omit [DecidableEq κ] in
/-- The last reference is given up. What the header refers to is due next,
    if its own reference is left out of account. -/
theorem books_last {h : η} (hs : Books owner s busy (some h)) (hlast : s.refcount h - 1 = 0)
    {f : η → Fields τ} (hf : ∀ x, x ≠ h → f x = s.fields x) (hclean : (f h).Clean) :
    Books owner { s with refcount := Function.update s.refcount h (s.refcount h - 1), fields := f }
      (h :: busy) (s.reference h) := by
  have hpos := hs.due_pos
  obtain ⟨hbusy, hparked⟩ := not_mem_of_pos hs hpos
  have hcount := hs.counted h
  rw [if_pos rfl] at hcount
  have hqueue : h ∉ s.queue (owner h) := by
    intro hc
    rw [if_pos hc] at hcount
    omega
  rw [if_neg hqueue] at hcount
  have hmask : ∀ x, count (mask s.reference busy) x =
      count (mask s.reference (h :: busy)) x + if s.reference h = some x then 1 else 0 := by
    intro x
    rw [mask_cons, count_clear _ h x]
    simp [mask, hbusy]
  have hne : ∀ x, s.refcount x = 0 → x ≠ h := fun x hx hc => by subst hc; omega
  refine ⟨fun x => ?_, hs.placed, hs.once, fun x hx => ?_, fun x hx => ?_, fun x hx => ?_,
    hs.parkedOnce, fun x hx => ?_, fun x hx => ?_⟩
  · have hx := hs.counted x
    have hcleared := hmask x
    by_cases hxh : x = h
    · subst hxh
      simp only [Function.update_self, if_neg hqueue]
      by_cases href : s.reference x = some x
      · rw [if_pos href] at hcleared ⊢
        omega
      · rw [if_neg href] at hcleared ⊢
        omega
    · simp only [Function.update_of_ne hxh]
      rw [if_neg (by simpa using Ne.symm hxh : ¬ some h = some x)] at hx
      by_cases href : s.reference h = some x
      · rw [if_pos href] at hcleared ⊢
        omega
      · rw [if_neg href] at hcleared ⊢
        omega
  · have hxh : x ≠ h := fun hc => hqueue (hc ▸ hx)
    simpa [Function.update_of_ne hxh] using hs.idle x hx
  · have hxh : x ≠ h := fun hc => hqueue (hc ▸ hx)
    simpa [hf x hxh] using hs.clean x hx
  · have hzero := hs.parked x hx
    simpa [Function.update_of_ne (hne x hzero)] using hzero
  · rcases List.mem_cons.mp hx with rfl | hx
    · exact ⟨by simpa using hlast, hparked, hclean⟩
    · obtain ⟨hzero, hout, hx⟩ := hs.zero x hx
      have hxh := hne x hzero
      exact ⟨by simpa [Function.update_of_ne hxh] using hzero, hout, by simpa [hf x hxh] using hx⟩
  · by_cases hxh : x = h
    · exact Or.inr (hxh ▸ List.mem_cons_self)
    · have hzero : s.refcount x = 0 := by simpa [Function.update_of_ne hxh] using hx
      exact (hs.out x hzero).imp_right (List.mem_cons_of_mem h)

omit [DecidableEq κ] in
/-- The last reference is given up, and the release is delayed. The header keeps
    its reference. -/
theorem books_delayed {h : η} (hs : Books owner s busy (some h)) (hlast : s.refcount h - 1 = 0) :
    Books owner { s with refcount := Function.update s.refcount h (s.refcount h - 1),
                         parked := h :: s.parked } busy none := by
  have hpos := hs.due_pos
  obtain ⟨hbusy, hparked⟩ := not_mem_of_pos hs hpos
  have hqueue : h ∉ s.queue (owner h) := by
    intro hc
    have hcount := hs.counted h
    have hone := (hs.idle h hc).1
    rw [if_pos hc, if_pos rfl] at hcount
    omega
  have hne : ∀ x, s.refcount x = 0 → x ≠ h := fun x hx hc => by subst hc; omega
  refine ⟨fun x => ?_, hs.placed, hs.once, fun x hx => ?_, hs.clean, fun x hx => ?_,
    List.nodup_cons.mpr ⟨hparked, hs.parkedOnce⟩, fun x hx => ?_, fun x hx => ?_⟩
  · have hx := hs.counted x
    by_cases hxh : x = h
    · subst hxh
      simp only [Function.update_self, if_pos] at hx ⊢
      simp
      omega
    · simp only [Function.update_of_ne hxh]
      simpa [Ne.symm hxh] using hx
  · have hxh : x ≠ h := fun hc => hqueue (hc ▸ hx)
    simpa [Function.update_of_ne hxh] using hs.idle x hx
  · rcases List.mem_cons.mp hx with rfl | hx
    · simpa using hlast
    · have hzero := hs.parked x hx
      simpa [Function.update_of_ne (hne x hzero)] using hzero
  · obtain ⟨hzero, hout, hclean⟩ := hs.zero x hx
    have hxh := hne x hzero
    exact ⟨by simpa [Function.update_of_ne hxh] using hzero, by simp [hxh, hout], hclean⟩
  · by_cases hxh : x = h
    · exact Or.inl (hxh ▸ List.mem_cons_self)
    · have hzero : s.refcount x = 0 := by simpa [Function.update_of_ne hxh] using hx
      exact (hs.out x hzero).imp_left (List.mem_cons_of_mem h)

omit [DecidableEq κ] in
/-- A release that was delayed is continued. -/
theorem books_unpark {h : η} (hs : Books owner s [] none) (hh : h ∈ s.parked) :
    Books owner (mmalBufferHeaderReset { s with parked := s.parked.erase h } h) [h]
      (s.reference h) := by
  have hzero := hs.parked h hh
  have hout : ∀ x, x ∈ s.parked.erase h ↔ x ≠ h ∧ x ∈ s.parked := fun x =>
    hs.parkedOnce.mem_erase_iff
  refine ⟨fun x => ?_, hs.placed, hs.once, hs.idle, fun x hx => ?_, fun x hx => ?_,
    hs.parkedOnce.erase h, fun x hx => ?_, fun x hx => ?_⟩
  · have hx := hs.counted x
    rw [if_neg (by simp : ¬ none = some x), mask_nil, count_clear _ h x] at hx
    have hmask : mask s.reference [h] = Function.update s.reference h none := by
      rw [mask_cons, mask_nil]
    simp only [mmalBufferHeaderReset, hmask]
    by_cases hq : x ∈ s.queue (owner x) <;> by_cases href : s.reference h = some x <;>
      simp only [hq, href, if_true, if_false] at hx ⊢ <;> omega
  · have hxh : x ≠ h := by
      rintro rfl
      have hone := (hs.idle x hx).1
      omega
    simpa [mmalBufferHeaderReset, hxh] using hs.clean x hx
  · exact hs.parked x ((hout x).mp hx).2
  · rw [List.mem_singleton] at hx
    subst hx
    exact ⟨hzero, fun hc => ((hout x).mp hc).1 rfl, by simp [mmalBufferHeaderReset, Fields.Clean]⟩
  · by_cases hxh : x = h
    · exact Or.inr (by simp [hxh])
    · rcases hs.out x hx with hp | hb
      · exact Or.inl ((hout x).mpr ⟨hxh, hp⟩)
      · cases hb

omit [DecidableEq κ] [Fintype η] in
theorem reset_clean (s : Headers κ η τ) (h : η) : ((mmalBufferHeaderReset s h).fields h).Clean := by
  simp [mmalBufferHeaderReset, Fields.Clean]

omit [DecidableEq κ] [Fintype η] in
theorem reset_fields (s : Headers κ η τ) {h x : η} (hx : x ≠ h) :
    (mmalBufferHeaderReset s h).fields x = s.fields x := by
  simp [mmalBufferHeaderReset, hx]

/-- The header goes back to its pool, after what it referred to. -/
theorem books_pool {h : η} (hs : Books owner s (h :: busy) none) (hbusy : h ∉ busy)
    (cb : Callbacks η) :
    Books owner (mmalPoolBufferHeaderRelease owner cb
      { s with reference := Function.update s.reference h none } h) busy none := by
  obtain ⟨hzero, hparked, hclean⟩ := hs.zero h List.mem_cons_self
  have hqueue : h ∉ s.queue (owner h) := by
    intro hc
    have hone := (hs.idle h hc).1
    omega
  have hcount := hs.counted h
  rw [hzero, if_neg hqueue, if_neg (by simp : ¬ none = some h)] at hcount
  have hmask : mask (Function.update s.reference h none) busy = mask s.reference (h :: busy) :=
    mask_update s.reference h busy hbusy
  have hout : ∀ x, x ≠ h → s.refcount x = 0 → x ∈ s.parked ∨ x ∈ busy := by
    intro x hx hx0
    rcases hs.out x hx0 with hp | hb
    · exact Or.inl hp
    · exact Or.inr ((List.mem_cons.mp hb).resolve_left hx)
  have hne : ∀ x, x ∈ s.parked → x ≠ h := fun x hx hc => hparked (hc ▸ hx)
  have hneb : ∀ x, x ∈ busy → x ≠ h := fun x hx hc => hbusy (hc ▸ hx)
  by_cases hq : cb.queues h = true
  · simp only [mmalPoolBufferHeaderRelease, hq, if_true]
    have hmem : ∀ x, x ∈ Function.update s.queue (owner h) (s.queue (owner h) ++ [h]) (owner x) ↔
        x ∈ s.queue (owner x) ∨ x = h := by
      intro x
      by_cases ho : owner x = owner h
      · rw [ho, Function.update_self, List.mem_append, List.mem_singleton]
      · rw [Function.update_of_ne ho]
        exact ⟨Or.inl, fun hx => hx.resolve_right fun hc => ho (hc ▸ rfl)⟩
    refine ⟨fun x => ?_, fun q x hx => ?_, fun q => ?_, fun x hx => ?_, fun x hx => ?_,
      fun x hx => ?_, hs.parkedOnce, fun x hx => ?_, fun x hx => ?_⟩
    · have hx := hs.counted x
      simp only [hmask, if_congr (hmem x) rfl rfl]
      by_cases hxh : x = h
      · subst hxh
        simp only [Function.update_self, or_true, if_true]
        simp
        omega
      · simpa [hxh] using hx
    · by_cases ho : q = owner h
      · subst ho
        simp only [Function.update_self, List.mem_append, List.mem_singleton] at hx
        rcases hx with hx | rfl
        · exact hs.placed _ x hx
        · rfl
      · simp only [Function.update_of_ne ho] at hx
        exact hs.placed q x hx
    · by_cases ho : q = owner h
      · subst ho
        simp only [Function.update_self, List.nodup_append]
        refine ⟨hs.once _, by simp, ?_⟩
        intro x hx y hy hxy
        rw [hxy, List.mem_singleton.mp hy] at hx
        exact hqueue hx
      · simp only [Function.update_of_ne ho]
        exact hs.once q
    · rcases (hmem x).mp hx with hx | rfl
      · have hxh : x ≠ h := fun hc => hqueue (hc ▸ hx)
        simpa [hxh] using hs.idle x hx
      · simp
    · rcases (hmem x).mp hx with hx | rfl
      · exact hs.clean x hx
      · exact hclean
    · simpa [hne x hx] using hs.parked x hx
    · obtain ⟨hx0, hxp, hxc⟩ := hs.zero x (List.mem_cons_of_mem h hx)
      exact ⟨by simpa [hneb x hx] using hx0, hxp, hxc⟩
    · by_cases hxh : x = h
      · simp [hxh] at hx
      · exact hout x hxh (by simpa [hxh] using hx)
  · simp only [mmalPoolBufferHeaderRelease, if_neg hq]
    refine ⟨fun x => ?_, hs.placed, hs.once, fun x hx => ?_, hs.clean, fun x hx => ?_,
      hs.parkedOnce, fun x hx => ?_, fun x hx => ?_⟩
    · have hx := hs.counted x
      simp only [hmask]
      by_cases hxh : x = h
      · subst hxh
        simp only [Function.update_self, if_neg hqueue]
        simp
        omega
      · simpa [hxh] using hx
    · have hxh : x ≠ h := fun hc => hqueue (hc ▸ hx)
      simpa [hxh] using hs.idle x hx
    · simpa [hne x hx] using hs.parked x hx
    · obtain ⟨hx0, hxp, hxc⟩ := hs.zero x (List.mem_cons_of_mem h hx)
      exact ⟨by simpa [hneb x hx] using hx0, hxp, hxc⟩
    · by_cases hxh : x = h
      · simp [hxh] at hx
      · exact hout x hxh (by simpa [hxh] using hx)

/-- The header and what it refers to are released, and the count of neither is
    left behind. -/
theorem books_continue {h : η} (cb : Callbacks η)
    {release : Headers κ η τ → η → Option (Headers κ η τ)}
    (hs : Books owner (mmalBufferHeaderReset s h) (h :: busy) (s.reference h)) (hbusy : h ∉ busy)
    (hrelease : ∀ src, s.reference h = some src →
      Books owner (mmalBufferHeaderReset s h) (h :: busy) (some src) →
      ∃ s', release (mmalBufferHeaderReset s h) src = some s' ∧ Books owner s' (h :: busy) none) :
    ∃ s', mmalBufferHeaderReleaseContinue owner cb release s h = some s' ∧
      Books owner s' busy none := by
  have href : (mmalBufferHeaderReset s h).reference h = s.reference h := rfl
  cases hsrc : s.reference h with
  | none =>
      rw [hsrc] at hs
      exact ⟨_, by simp only [mmalBufferHeaderReleaseContinue, href, hsrc, Option.map_some],
        books_pool hs hbusy cb⟩
  | some src =>
      rw [hsrc] at hs
      obtain ⟨s', hrec, hs'⟩ := hrelease src hsrc hs
      exact ⟨_, by simp only [mmalBufferHeaderReleaseContinue, href, hsrc, hrec, Option.map_some],
        books_pool hs' hbusy cb⟩

/-- How many headers have a count. -/
def Headers.live (s : Headers κ η τ) : Nat := (Finset.univ.filter fun x => 0 < s.refcount x).card

omit [DecidableEq κ] in
theorem live_lt {h : η} (hpos : 0 < s.refcount h) {s' : Headers κ η τ}
    (hs' : s'.refcount = Function.update s.refcount h 0) : s'.live < s.live := by
  refine Finset.card_lt_card ⟨fun x hx => ?_, fun hsub => ?_⟩
  · simp only [Finset.mem_filter_univ, hs'] at hx ⊢
    by_cases hxh : x = h
    · exact hxh ▸ hpos
    · rwa [Function.update_of_ne hxh] at hx
  · have hmem := hsub (by simpa using hpos : h ∈ _)
    simp [hs'] at hmem

/-- A release comes to an end, as the count of one more header is zero for
    every further one it sets off, and it leaves the counts right. -/
theorem release_books (cb : Callbacks η) {n : Nat} {h : η} (hs : Books owner s busy (some h))
    (hn : s.live ≤ n) :
    ∃ s', mmalBufferHeaderRelease owner cb n s h = some s' ∧ Books owner s' busy none := by
  induction n generalizing s busy h with
  | zero =>
      have hpos := hs.due_pos
      have hmem : 0 < s.live := Finset.card_pos.mpr ⟨h, by simpa using hpos⟩
      omega
  | succ n ih =>
      have hpos := hs.due_pos
      obtain ⟨hbusy, _⟩ := not_mem_of_pos hs hpos
      by_cases hlast : s.refcount h - 1 = 0
      · by_cases hdelay : cb.delays h = true
        · simp only [mmalBufferHeaderRelease, Function.update_self]
          rw [if_neg (Int.not_le.mpr hpos), if_neg (by simpa using hlast), if_pos hdelay]
          exact ⟨_, rfl, books_delayed hs hlast⟩
        · simp only [mmalBufferHeaderRelease, Function.update_self]
          rw [if_neg (Int.not_le.mpr hpos), if_neg (by simpa using hlast), if_neg hdelay]
          refine books_continue cb ?_ hbusy ?_
          · exact books_last hs hlast (fun x hx => reset_fields s hx) (reset_clean s h)
          · intro src _ hsrc
            refine ih hsrc ?_
            have hlt :
                ({ s with refcount := Function.update s.refcount h (s.refcount h - 1) } :
                  Headers κ η τ).live < s.live := live_lt hpos (by rw [hlast])
            have hsame : (mmalBufferHeaderReset { s with
              refcount := Function.update s.refcount h (s.refcount h - 1) } h).live =
              { s with refcount := Function.update s.refcount h (s.refcount h - 1) }.live := rfl
            omega
      · simp only [mmalBufferHeaderRelease, Function.update_self]
        rw [if_neg (Int.not_le.mpr hpos), if_pos hlast]
        exact ⟨_, rfl, books_not_last hs hlast⟩

/-! ## Runs -/

omit [DecidableEq κ] in
theorem books_init (p : NewPools owner τ) : Books owner p.headers [] none where
  counted x := by
    have hnone : count (fun _ : η => none) x = 0 := by simp [count_eq_zero_iff]
    simp [NewPools.headers, p.home, hnone]
  placed q x hx := (p.home q x).mp hx
  once := p.once
  idle _ _ := ⟨rfl, rfl⟩
  clean x _ := p.clean x
  parked := by simp [NewPools.headers]
  parkedOnce := List.nodup_nil
  zero := by simp
  out := by simp [NewPools.headers]

omit [DecidableEq κ] in
/-- A header that somebody holds is not in a queue. -/
theorem not_queued_of_held {h : η} (hs : Books owner s [] none) (hh : s.held h ≠ 0) :
    h ∉ s.queue (owner h) := by
  intro hc
  have hcount := hs.counted h
  have hone := (hs.idle h hc).1
  rw [if_pos hc, if_neg (by simp)] at hcount
  omega

omit [DecidableEq κ] in
theorem pos_of_held {h : η} (hs : Books owner s busy due) (hh : s.held h ≠ 0) :
    0 < s.refcount h := by
  rw [hs.counted h]
  split <;> split <;> omega

omit [DecidableEq κ] in
/-- Somebody gives a header back: the reference is due. -/
theorem books_due {h : η} (hs : Books owner s [] none) (hh : s.held h ≠ 0) :
    Books owner { s with held := Function.update s.held h (s.held h - 1) } [] (some h) := by
  refine ⟨fun x => ?_, hs.placed, hs.once, hs.idle, hs.clean, hs.parked, hs.parkedOnce, hs.zero,
    hs.out⟩
  have hx := hs.counted x
  rw [if_neg (by simp : ¬ none = some x)] at hx
  by_cases hxh : x = h
  · subst hxh
    simp only [Function.update_self, if_true]
    omega
  · simp only [Function.update_of_ne hxh]
    rw [if_neg (by simpa using Ne.symm hxh : ¬ some h = some x)]
    exact hx

/-- A header is taken out of a queue. -/
theorem books_get {q : κ} {h : η} {rest : List η} (hs : Books owner s [] none)
    (hq : s.queue q = h :: rest) :
    Books owner { s with queue := Function.update s.queue q rest,
                         held := Function.update s.held h (s.held h + 1) } [] none := by
  obtain rfl : owner h = q := hs.placed q h (by simp [hq])
  have hnodup := hs.once (owner h)
  rw [hq, List.nodup_cons] at hnodup
  have hsub : ∀ p x, x ∈ Function.update s.queue (owner h) rest p → x ∈ s.queue p := by
    intro p x hx
    by_cases hp : p = owner h
    · subst hp
      rw [Function.update_self] at hx
      rw [hq]
      exact List.mem_cons_of_mem h hx
    · rwa [Function.update_of_ne hp] at hx
  refine ⟨fun x => ?_, fun p x hx => hs.placed p x (hsub p x hx), fun p => ?_,
    fun x hx => hs.idle x (hsub _ x hx), fun x hx => hs.clean x (hsub _ x hx), hs.parked,
    hs.parkedOnce, hs.zero, hs.out⟩
  · have hx := hs.counted x
    by_cases hxh : x = h
    · subst hxh
      simp only [Function.update_self, if_neg hnodup.1, hq, List.mem_cons_self, if_true] at hx ⊢
      omega
    · have hmem : x ∈ Function.update s.queue (owner h) rest (owner x) ↔ x ∈ s.queue (owner x) := by
        refine ⟨hsub _ x, fun hc => ?_⟩
        by_cases hp : owner x = owner h
        · rw [hp, hq, List.mem_cons] at hc
          rw [hp, Function.update_self]
          exact hc.resolve_left hxh
        · rwa [Function.update_of_ne hp]
      simp only [Function.update_of_ne hxh, if_congr hmem rfl rfl]
      exact hx
  · by_cases hp : p = owner h
    · subst hp
      simpa using hnodup.2
    · simpa [hp] using hs.once p

omit [DecidableEq κ] in
/-- One more reference is acquired, by a holder or by another header. -/
theorem books_acquire {h : η} (hs : Books owner s [] none) (hh : s.held h ≠ 0)
    {held : η → Nat} {ref : η → Option η} {f : η → Fields τ}
    (hmore : ∀ x, held x + count ref x =
      s.held x + count s.reference x + if x = h then 1 else 0)
    (hkept : ∀ x, s.held x = 0 → ref x = s.reference x ∧ f x = s.fields x) :
    Books owner { s with fields := f, reference := ref, held := held,
                         refcount := Function.update s.refcount h (s.refcount h + 1) } [] none := by
  have hpos := pos_of_held hs hh
  have hqueue := not_queued_of_held hs hh
  have hidle : ∀ x, x ∈ s.queue (owner x) → s.held x = 0 := fun x hx => by
    by_contra hc
    exact not_queued_of_held hs hc hx
  have hne : ∀ x, s.refcount x = 0 → x ≠ h := fun x hx hc => by subst hc; omega
  refine ⟨fun x => ?_, hs.placed, hs.once, fun x hx => ?_, fun x hx => ?_, fun x hx => ?_,
    hs.parkedOnce, by simp, fun x hx => ?_⟩
  · have hx := hs.counted x
    have hm := hmore x
    rw [mask_nil] at hx ⊢
    by_cases hxh : x = h
    · subst hxh
      simp only [Function.update_self, if_neg hqueue, if_true] at hx hm ⊢
      simp only [reduceCtorEq, if_false] at hx ⊢
      omega
    · simp only [Function.update_of_ne hxh, hxh, reduceCtorEq, if_false] at hx hm ⊢
      omega
  · have hxh : x ≠ h := fun hc => hqueue (hc ▸ hx)
    simpa [hxh, (hkept x (hidle x hx)).1] using hs.idle x hx
  · simpa [(hkept x (hidle x hx)).2] using hs.clean x hx
  · have hzero := hs.parked x hx
    simpa [hne x hzero] using hzero
  · by_cases hxh : x = h
    · subst hxh
      simp at hx
      omega
    · exact hs.out x (by simpa [hxh] using hx)

omit [DecidableEq κ] [DecidableEq η] in
/-- No more headers have a count than there are. -/
theorem live_le (s : Headers κ η τ) : s.live ≤ Fintype.card η := Finset.card_le_univ _

theorem release_step {h : η} (hs : Books owner s [] none) (hh : s.held h ≠ 0) (cb : Callbacks η) :
    ∃ s', bufferStep owner s (.release h cb) = some s' ∧ Books owner s' [] none := by
  simp only [bufferStep, if_neg hh]
  exact release_books cb (books_due hs hh) (live_le _)

theorem releaseContinue_step {h : η} (hs : Books owner s [] none) (hh : h ∈ s.parked)
    (cb : Callbacks η) :
    ∃ s', bufferStep owner s (.releaseContinue h cb) = some s' ∧ Books owner s' [] none := by
  simp only [bufferStep, if_pos hh]
  exact books_continue cb (books_unpark hs hh) (by simp) fun src _ hsrc =>
    release_books cb hsrc (live_le _)

omit [DecidableEq κ] in
/-- There is room for one more reference to a header that somebody holds. -/
theorem acquire_eq {h : η} (hs : Books owner s [] none) (hh : s.held h ≠ 0)
    (hfits : s.refcount h < 2147483647) : mmalBufferHeaderAcquire s h =
      { s with refcount := Function.update s.refcount h (s.refcount h + 1) } := by
  have hpos := pos_of_held hs hh
  rw [mmalBufferHeaderAcquire, i32_of_range (by omega) (by omega)]

/-- Every call leaves the counts right. -/
theorem books_step (s : Headers κ η τ) (op : BufferOp κ η τ) (s' : Headers κ η τ)
    (hs : Books owner s [] none) (hfits : op.Fits s) (hstep : bufferStep owner s op = some s') :
    Books owner s' [] none := by
  cases op with
  | get q =>
      simp only [bufferStep] at hstep
      cases hq : s.queue q with
      | nil =>
          rw [hq] at hstep
          cases hstep
          exact hs
      | cons h rest =>
          rw [hq] at hstep
          cases hstep
          exact books_get hs hq
  | write h f =>
      simp only [bufferStep] at hstep
      split at hstep
      · cases hstep
      · rename_i hh
        cases hstep
        have hqueue := not_queued_of_held hs hh
        refine ⟨hs.counted, hs.placed, hs.once, hs.idle, fun x hx => ?_, hs.parked, hs.parkedOnce,
          by simp, hs.out⟩
        have hxh : x ≠ h := fun hc => hqueue (hc ▸ hx)
        simpa [hxh] using hs.clean x hx
  | acquire h =>
      simp only [bufferStep] at hstep
      split at hstep
      · cases hstep
      · rename_i hh
        rw [acquire_eq hs hh hfits] at hstep
        cases hstep
        refine books_acquire hs hh (fun x => ?_) (fun x _ => ⟨rfl, rfl⟩)
        by_cases hxh : x = h
        · subst hxh
          simp only [Function.update_self, if_true]
          omega
        · simp [hxh]
  | release h cb =>
      simp only [bufferStep] at hstep
      split at hstep
      · cases hstep
      · rename_i hh
        obtain ⟨t, ht, hbooks⟩ := release_books cb (books_due hs hh) (live_le _)
        obtain rfl : t = s' := Option.some.inj (ht.symm.trans hstep)
        exact hbooks
  | releaseContinue h cb =>
      by_cases hh : h ∈ s.parked
      · obtain ⟨t, ht, hbooks⟩ := releaseContinue_step hs hh cb
        obtain rfl : t = s' := Option.some.inj (ht.symm.trans hstep)
        exact hbooks
      · simp [bufferStep, hh] at hstep
  | replicate dest src =>
      simp only [bufferStep] at hstep
      split at hstep
      · rename_i hheld
        cases hstep
        rcases dest with _ | dest
        · exact hs
        rcases src with _ | src
        · exact hs
        by_cases hnone : s.reference dest = none
        · simp only [mmalBufferHeaderReplicate, if_pos hnone,
            acquire_eq hs (hheld.2 src rfl) (hfits hnone)]
          refine books_acquire hs (hheld.2 src rfl) (fun x => ?_) (fun x hx => ?_)
          · simp only [count_set hnone src x]
            by_cases hxs : src = x
            · simp only [hxs, if_true]
              omega
            · simp only [hxs, Ne.symm hxs, if_false]
              omega
          · have hxd : x ≠ dest := fun hc => hheld.1 dest rfl (hc ▸ hx)
            simp [hxd]
        · simpa only [mmalBufferHeaderReplicate, if_neg hnone] using hs
      · cases hstep

theorem books_run (p : NewPools owner τ) {ops : List (BufferOp κ η τ)}
    (hfits : Along (bufferStep owner) (fun s op => op.Fits s) p.headers ops)
    (h : run (bufferStep owner) p.headers ops = some s) : Books owner s [] none :=
  run_invariant_along books_step (books_init p) hfits h

/-- In every run in which the counts do not overflow, the count of a header is
    what the clients hold of it and what other headers refer to it, and one for
    the queue. It is in the queue of its pool, once and in no other queue,
    exactly if there is no such reference and its release is not delayed, and
    then there is no data in it. -/
theorem in_queue_iff (p : NewPools owner τ) {ops : List (BufferOp κ η τ)}
    (hfits : Along (bufferStep owner) (fun s op => op.Fits s) p.headers ops)
    (h : run (bufferStep owner) p.headers ops = some s) (x : η) :
    (s.refcount x = s.held x + count s.reference x + (s.queue (owner x)).count x) ∧
      (x ∈ s.queue (owner x) ↔
        s.held x = 0 ∧ (∀ d, s.reference d ≠ some x) ∧ x ∉ s.parked) ∧
      (x ∈ s.queue (owner x) → (s.fields x).Clean) ∧
      ∀ q, (s.queue q).count x ≤ if q = owner x then 1 else 0 := by
  have hs := books_run p hfits h
  have hcount := hs.counted x
  rw [mask_nil, if_neg (by simp : ¬ none = some x)] at hcount
  refine ⟨?_, ?_, hs.clean x, fun q => ?_⟩
  · by_cases hx : x ∈ s.queue (owner x)
    · rw [if_pos hx] at hcount
      rw [List.count_eq_one_of_mem (hs.once _) hx]
      omega
    · rw [if_neg hx] at hcount
      rw [List.count_eq_zero_of_not_mem hx]
      omega
  · rw [← count_eq_zero_iff]
    constructor
    · intro hx
      have hone := (hs.idle x hx).1
      rw [if_pos hx] at hcount
      refine ⟨by omega, by omega, fun hp => ?_⟩
      have hzero := hs.parked x hp
      omega
    · rintro ⟨hheld, href, hparked⟩
      by_contra hx
      rw [if_neg hx] at hcount
      -- A header nobody counts has to be somewhere.
      rcases hs.out x (by omega) with hp | hb
      · exact hparked hp
      · cases hb
  · by_cases hq : q = owner x
    · rw [if_pos hq]
      exact List.nodup_iff_count_le_one.mp (hs.once q) x
    · rw [if_neg hq, List.count_eq_zero_of_not_mem fun hx => hq (hs.placed q x hx).symm]

/-- Two pools of one header each. -/
def NewPools.two : NewPools (id : Bool → Bool) Unit where
  fields _ := .zero ()
  queue q := [q]
  home := by simp [eq_comm]
  once := by simp
  clean _ := ⟨rfl, rfl, rfl⟩

/-- A header that nobody holds any more stays out of its queue while another one
    stands for it. -/
theorem in_queue_iff_replica :
    ∃ s, run (bufferStep id) NewPools.two.headers
        [.get false, .get true, .replicate (some true) (some false),
          .release false ⟨fun _ => false, fun _ => true⟩] = some s ∧
      s.held false = 0 ∧ false ∉ s.queue false := by
  refine ⟨_, rfl, by decide, ?_⟩
  intro hc
  have hnot := ((in_queue_iff NewPools.two (by decide)
    (show run (bufferStep id) NewPools.two.headers
      [.get false, .get true, .replicate (some true) (some false),
        .release false ⟨fun _ => false, fun _ => true⟩] = some _ from rfl) false).2.1.mp hc).2.1
    true
  exact hnot rfl

/-- Who holds a header can release it, whatever the callbacks do, and a delayed
    release can be continued: no chain of replicas is without an end, or comes
    to a header that nobody has a reference to. -/
theorem release_returns (p : NewPools owner τ) {ops : List (BufferOp κ η τ)}
    (hfits : Along (bufferStep owner) (fun s op => op.Fits s) p.headers ops)
    (h : run (bufferStep owner) p.headers ops = some s) (x : η) (cb : Callbacks η) :
    (s.held x ≠ 0 → ∃ s', bufferStep owner s (.release x cb) = some s') ∧
      (x ∈ s.parked → ∃ s', bufferStep owner s (.releaseContinue x cb) = some s') := by
  have hs := books_run p hfits h
  constructor
  · intro hx
    obtain ⟨s', hstep, _⟩ := release_step hs hx cb
    exact ⟨s', hstep⟩
  · intro hx
    obtain ⟨s', hstep, _⟩ := releaseContinue_step hs hx cb
    exact ⟨s', hstep⟩

/-- The second release sets off a third. -/
theorem release_returns_replica :
    ∃ s, run (bufferStep id) NewPools.two.headers
        [.get false, .get true, .replicate (some true) (some false)] = some s ∧
      ∃ s', bufferStep id s (.release true ⟨fun _ => false, fun _ => true⟩) = some s' := by
  refine ⟨_, rfl, ?_⟩
  exact (release_returns NewPools.two (by decide) (show run (bufferStep id) NewPools.two.headers
    [.get false, .get true, .replicate (some true) (some false)] = some _ from rfl) true _).1
    (by decide)

/-! ## Nothing is lost -/

/-- Replicas are made of another header, in a header that the client has for
    itself. -/
def BufferOp.Careful (s : Headers κ η τ) : BufferOp κ η τ → Prop
  | .replicate (some dest) (some src) => s.refcount dest = 1 ∧ dest ≠ src
  | _ => True

instance BufferOp.decidableCareful (s : Headers κ η τ) :
    ∀ op : BufferOp κ η τ, Decidable (op.Careful s)
  | .replicate (some _) (some _) => inferInstanceAs (Decidable (_ ∧ _))
  | .replicate none _ | .replicate (some _) none | .get _ | .write _ _ | .acquire _ | .release _ _
  | .releaseContinue _ _ => inferInstanceAs (Decidable True)

omit [Fintype η] in
theorem pool_reference (cb : Callbacks η) (s : Headers κ η τ) (h : η) :
    (mmalPoolBufferHeaderRelease owner cb s h).reference = s.reference := by
  unfold mmalPoolBufferHeaderRelease
  split <;> rfl

omit [Fintype η] in
/-- A release only clears references, if those it sets off do. -/
theorem continue_reference {cb : Callbacks η}
    {release : Headers κ η τ → η → Option (Headers κ η τ)} {h : η}
    (hrelease : ∀ s src s', release s src = some s' →
      ∀ d x, s'.reference d = some x → s.reference d = some x)
    (hs : mmalBufferHeaderReleaseContinue owner cb release s h = some s') (d x : η)
    (hd : s'.reference d = some x) : s.reference d = some x := by
  simp only [mmalBufferHeaderReleaseContinue, Option.map_eq_some_iff] at hs
  obtain ⟨t, ht, rfl⟩ := hs
  rw [pool_reference] at hd
  have hdh : d ≠ h := fun hc => by simp [hc] at hd
  have htd : t.reference d = some x := by simpa [hdh] using hd
  have href : (mmalBufferHeaderReset s h).reference = s.reference := rfl
  cases hsrc : s.reference h with
  | none =>
      rw [href, hsrc] at ht
      cases ht
      exact htd
  | some src =>
      rw [href, hsrc] at ht
      exact hrelease _ src t ht d x htd

omit [Fintype η] in
theorem release_reference {cb : Callbacks η} {n : Nat} {h : η}
    (hs : mmalBufferHeaderRelease owner cb n s h = some s') (d x : η)
    (hd : s'.reference d = some x) : s.reference d = some x := by
  induction n generalizing s s' h d x with
  | zero => cases hs
  | succ n ih =>
      simp only [mmalBufferHeaderRelease] at hs
      split at hs
      · cases hs
      · split at hs
        · cases hs
          exact hd
        · split at hs
          · cases hs
            exact hd
          · exact continue_reference (fun t src t' ht e y he => ih ht e y he) hs d x hd

theorem acyclic_step (s : Headers κ η τ) (op : BufferOp κ η τ) (s' : Headers κ η τ)
    (hs : Books owner s [] none ∧ Acyclic s.reference) (hop : op.Fits s ∧ op.Careful s)
    (hstep : bufferStep owner s op = some s') : Books owner s' [] none ∧ Acyclic s'.reference := by
  obtain ⟨hbooks, hacyclic⟩ := hs
  obtain ⟨hfits, hcareful⟩ := hop
  refine ⟨books_step s op s' hbooks hfits hstep, ?_⟩
  cases op with
  | get q =>
      simp only [bufferStep] at hstep
      split at hstep <;> cases hstep <;> exact hacyclic
  | write h f =>
      simp only [bufferStep] at hstep
      split at hstep <;> cases hstep
      exact hacyclic
  | acquire h =>
      simp only [bufferStep] at hstep
      split at hstep <;> cases hstep
      exact hacyclic
  | release h cb =>
      simp only [bufferStep] at hstep
      split at hstep
      · cases hstep
      · refine acyclic_mono hacyclic fun d x hd => ?_
        exact release_reference hstep d x hd
  | releaseContinue h cb =>
      simp only [bufferStep] at hstep
      split at hstep
      · refine acyclic_mono hacyclic fun d x hd => ?_
        exact continue_reference (fun t src t' ht e y he => release_reference ht e y he) hstep d x
          hd
      · cases hstep
  | replicate dest src =>
      simp only [bufferStep] at hstep
      split at hstep
      · rename_i hheld
        cases hstep
        rcases dest with _ | dest
        · exact hacyclic
        rcases src with _ | src
        · exact hacyclic
        by_cases hnone : s.reference dest = none
        · simp only [mmalBufferHeaderReplicate, if_pos hnone]
          obtain ⟨hone, hne⟩ := hcareful
          -- The one reference is the client's own, so no header refers to it.
          have hcount := hbooks.counted dest
          have hmine := hheld.1 dest rfl
          rw [mask_nil, if_neg (not_queued_of_held hbooks hmine),
            if_neg (by simp : ¬ none = some dest)] at hcount
          exact acyclic_set hacyclic hne (count_eq_zero_iff.mp (by omega))
        · simpa only [mmalBufferHeaderReplicate, if_neg hnone] using hacyclic
      · cases hstep

/-- As long as replicas are made with care, no header is lost: when the clients
    have released all they held, and no release is delayed, every header is
    back in the queue of its pool. -/
theorem all_return (p : NewPools owner τ) {ops : List (BufferOp κ η τ)}
    (hfits : Along (bufferStep owner) (fun s op => op.Fits s) p.headers ops)
    (hops : Along (bufferStep owner) (fun s op => op.Careful s) p.headers ops)
    (h : run (bufferStep owner) p.headers ops = some s) (hheld : ∀ x, s.held x = 0)
    (hparked : s.parked = []) (x : η) : x ∈ s.queue (owner x) := by
  have hinit : Acyclic (p.headers : Headers κ η τ).reference :=
    ⟨fun _ => 0, by simp [NewPools.headers]⟩
  obtain ⟨hs, hacyclic⟩ :=
    run_invariant_along acyclic_step ⟨books_init p, hinit⟩ (along_and.mpr ⟨hfits, hops⟩) h
  by_contra hx
  obtain ⟨y, hy, htop⟩ := exists_top (S := fun y => y ∉ s.queue (owner y)) hacyclic hx
  refine hy (((in_queue_iff p hfits h y).2.1).mpr ⟨hheld y, fun d hd => ?_, by simp [hparked]⟩)
  -- A header that refers to another one is in no queue either.
  by_cases hdq : d ∈ s.queue (owner d)
  · have hnone := (hs.idle d hdq).2
    rw [hnone] at hd
    cases hd
  · exact htop d hdq hd

/-- One header is replicated into the other, given back while the replica still
    stands for it, and comes back with the replica. -/
theorem all_return_replica :
    ∃ s, run (bufferStep id) NewPools.two.headers
        [.get false, .get true, .replicate (some true) (some false),
          .release false ⟨fun _ => false, fun _ => true⟩,
          .release true ⟨fun _ => false, fun _ => true⟩] = some s ∧
      false ∈ s.queue false := by
  refine ⟨_, rfl, ?_⟩
  exact all_return NewPools.two (by decide) (by decide)
    (show run (bufferStep id) NewPools.two.headers
      [.get false, .get true, .replicate (some true) (some false),
        .release false ⟨fun _ => false, fun _ => true⟩,
        .release true ⟨fun _ => false, fun _ => true⟩] = some _ from rfl) (by decide) rfl false

end Framework

end RaspiCam
