import RaspiCam.Still.Collect

/-!
# Complete Pictures

`takePicture` returns true whenever its semaphore was posted, and the callback
posts it for a buffer that ends the image whatever became of the image: when
the buffer carries the flag of a failed transmission, and when its bytes did
not fit. It returns false only when the capture could not be started.

The image is what the buffers up to the first one that ends the frame carry,
and the picture is what of it belongs in the destination: everything, or for
the encoding RGB everything after the header of a bitmap. `honest_iff` says
for which buffers and destinations the result of `takePicture` tells whether
the picture is complete: no buffer carries the flag of a failed transmission,
and there is room for the picture.

## Main definitions

* `EncoderBuffer.frameEnd`, `EncoderBuffer.failed`: The two flags apart.
* `frame`, `picture`: The buffers of an image, and what belongs in the
  destination.
* `pictureResult`: What `takePicture` returns.
* `Stored`: The picture is in the destination, and stays there.
* `Complete`, `Honest`: What the result should say.

## Theorems

* `Copied.store`: What storing a byte does to the destination.
* `collect_below`: No later buffer overwrites what was stored.
* `stored_of_room`, `not_stored_of_wrap`: When the picture is stored.
* `honest_iff`: When the result tells whether the picture is complete.
* `failed_transmission_reported`: A failed transmission that is reported as a
  picture.
-/

namespace RaspiCam

open Machine

namespace Still

/-- The buffer ends the frame. -/
def EncoderBuffer.frameEnd (b : EncoderBuffer) : Bool := flagFrameEnd &&& b.flags != 0

/-- The transmission failed. -/
def EncoderBuffer.failed (b : EncoderBuffer) : Bool := flagTransmissionFailed &&& b.flags != 0

theorem EncoderBuffer.ends_eq (b : EncoderBuffer) : b.ends = (b.frameEnd || b.failed) := by
  have hsplit : (flagFrameEnd ||| flagTransmissionFailed) &&& b.flags
      = (flagFrameEnd &&& b.flags) ||| (flagTransmissionFailed &&& b.flags) := by
    rw [← UInt32.toBitVec_inj]
    ext i
    simp only [UInt32.toBitVec_or, UInt32.toBitVec_and, BitVec.getElem_or, BitVec.getElem_and,
      Bool.and_or_distrib_right]
  unfold EncoderBuffer.ends EncoderBuffer.frameEnd EncoderBuffer.failed
  rw [hsplit, Bool.eq_iff_iff, Bool.or_eq_true, bne_iff_ne, bne_iff_ne, bne_iff_ne, Ne,
    UInt32.or_eq_zero_iff, Decidable.not_and_iff_not_or_not]

/-- The buffers up to the first one that ends the frame. -/
def frame : List EncoderBuffer → List EncoderBuffer
  | [] => []
  | b :: bs => if b.frameEnd then [b] else b :: frame bs

/-- The bytes of some buffers. -/
def bytes (bs : List EncoderBuffer) : List UInt8 := bs.flatMap fun b => b.data

/-- What of the image belongs in the destination. -/
def picture (enc : RaspicamEncoding) (bs : List EncoderBuffer) : List UInt8 :=
  if enc = .rgb then (bytes (frame bs)).drop 54 else bytes (frame bs)

/-- What `takePicture` returns after the buffers `bs` came, or `none` when it
    is still waiting: a capture that could not be started is over at once, and
    the others when the semaphore was posted. -/
def pictureResult (started : Bool) (enc : RaspicamEncoding) (bs : List EncoderBuffer)
    (u : RaspicamUserdata) : Option Bool :=
  if started = false then some false
  else if (collect enc bs u).1 = [] then none
  else some true

/-- The picture was stored in the destination when the frame ended, and is
    there after all buffers came. -/
def Stored (enc : RaspicamEncoding) (length : Nat) (bs : List EncoderBuffer)
    (u : RaspicamUserdata) : Prop :=
  ∀ i (h : i < (picture enc bs).length), i < length ∧
    (collect enc (frame bs) u).2.data i = (picture enc bs)[i] ∧
    (collect enc bs u).2.data i = (picture enc bs)[i]

/-- A whole image came, no transmission failed, and the picture was stored. -/
structure Complete (enc : RaspicamEncoding) (length : Nat) (bs : List EncoderBuffer)
    (u : RaspicamUserdata) : Prop where
  frameEnd : ∃ b ∈ bs, b.frameEnd = true
  intact : ∀ b ∈ bs, b.failed = false
  stored : Stored enc length bs u

/-- The result of `takePicture` tells whether the picture is complete, whatever
    the destination held before. -/
def Honest (started : Bool) (enc : RaspicamEncoding) (length : UInt32)
    (bs : List EncoderBuffer) : Prop :=
  ∀ data, let u := RaspicamUserdata.forPicture data length
    (pictureResult started enc bs u = some true → Complete enc length.toNat bs u) ∧
      ((∃ b ∈ bs, b.failed = true) ∨ ¬ Stored enc length.toNat bs u →
        pictureResult started enc bs u = some false)

theorem frame_prefix (bs : List EncoderBuffer) : ∃ rest, bs = frame bs ++ rest := by
  induction bs with
  | nil => exact ⟨[], rfl⟩
  | cons b bs ih =>
      rw [frame]
      by_cases hb : b.frameEnd = true
      · rw [if_pos hb]
        exact ⟨bs, rfl⟩
      · rw [if_neg hb]
        rcases ih with ⟨rest, hrest⟩
        exact ⟨rest, congrArg (b :: ·) hrest⟩

theorem collect_append (enc : RaspicamEncoding) (bs cs : List EncoderBuffer)
    (u : RaspicamUserdata) : (collect enc (bs ++ cs) u).2
      = (collect enc cs (collect enc bs u).2).2 := by
  induction bs generalizing u with
  | nil => rfl
  | cons b bs ih => exact ih _

/-- What the destination holds after the bytes `img`, which fit. -/
structure Copied (enc : RaspicamEncoding) (d : Nat → UInt8) (img : List UInt8)
    (u : RaspicamUserdata) : Prop where
  copied : ∀ k (h : k < img.length), ¬ (enc = .rgb ∧ k % 4294967296 < 54) →
    u.data (payload enc k) = img[k]
  beyond : ∀ i, payload enc img.length ≤ i → u.data i = d i

/-- A byte that is stored goes behind those before it. -/
theorem payload_lt {enc : RaspicamEncoding} {k n : Nat} (hkn : k < n)
    (hk : ¬ (enc = .rgb ∧ k % 4294967296 < 54)) : payload enc k < payload enc n := by
  have hsucc : payload enc (k + 1) = payload enc k + 1 := by rw [payload, if_neg hk]
  have hmono := payload_mono enc (show k + 1 ≤ n by omega)
  omega

/-- One byte stored where there is room. -/
theorem Copied.store {enc : RaspicamEncoding} {d : Nat → UInt8} {img : List UInt8} {length : Nat}
    {u : RaspicamUserdata} (h : Copied enc d img u) (ht : Tracks enc length img.length u)
    (b : UInt8) (p : Nat) : Copied enc d (img ++ [b])
      { storeByte enc u b with bufferPosition := p } := by
  have hpos := ht.bufferPosition
  have hoff := ht.offset
  by_cases hhead : enc = .rgb ∧ img.length % 4294967296 < 54
  · -- A byte of the header is not stored.
    have hsame : (storeByte enc u b).data = u.data := by
      rw [storeByte, if_pos hhead.1, if_neg (by omega)]
    have hpay : payload enc (img ++ [b]).length = payload enc img.length := by
      rw [List.length_append, List.length_singleton, payload, if_pos hhead, Nat.add_zero]
    refine ⟨fun k hk hkeep => ?_, fun i hi => ?_⟩
    · rw [List.length_append, List.length_singleton] at hk
      have hlt : k < img.length := by
        rcases Nat.lt_succ_iff_lt_or_eq.mp hk with hlt | rfl
        · exact hlt
        · exact absurd hhead hkeep
      rw [List.getElem_append_left hlt]
      exact (congrFun hsame _).trans (h.copied k hlt hkeep)
    · rw [hpay] at hi
      exact (congrFun hsame _).trans (h.beyond i hi)
  · have hsame : (storeByte enc u b).data = Function.update u.data (payload enc img.length) b := by
      rw [storeByte, ← hoff]
      by_cases henc : enc = .rgb
      · rw [if_pos henc, if_pos (by
          rcases Nat.lt_or_ge (img.length % 4294967296) 54 with hlt | hge
          · exact absurd ⟨henc, hlt⟩ hhead
          · omega)]
      · rw [if_neg henc]
    have hpay : payload enc (img ++ [b]).length = payload enc img.length + 1 := by
      rw [List.length_append, List.length_singleton, payload, if_neg hhead]
    refine ⟨fun k hk hkeep => ?_, fun i hi => ?_⟩
    · rw [List.length_append, List.length_singleton] at hk
      refine (congrFun hsame _).trans ?_
      rcases Nat.lt_succ_iff_lt_or_eq.mp hk with hlt | rfl
      · rw [List.getElem_append_left hlt,
          Function.update_of_ne (Nat.ne_of_lt (payload_lt hlt hkeep))]
        exact h.copied k hlt hkeep
      · rw [Function.update_self, List.getElem_concat_length rfl]
    · rw [hpay] at hi
      refine (congrFun hsame _).trans ?_
      rw [Function.update_of_ne (by omega)]
      exact h.beyond i (by omega)

/-- A whole buffer stored where there is room. -/
theorem Copied.storeBytes {enc : RaspicamEncoding} {d : Nat → UInt8} {length : Nat}
    (hlen : length < 4294967296) {bs img : List UInt8} {u : RaspicamUserdata}
    (h : Copied enc d img u) (ht : Tracks enc length img.length u)
    (hfits : Fits enc length (img.length + bs.length)) :
    Copied enc d (img ++ bs) (storeBytes enc bs u) := by
  induction bs generalizing img u with
  | nil =>
      rw [List.append_nil]
      exact h
  | cons b bs ih =>
      have hroom : payload enc img.length < length :=
        (fits_iff enc length _).mp hfits _ (by rw [List.length_cons]; omega)
      have hsum : img.length + (b :: bs).length = (img ++ [b]).length + bs.length := by
        rw [List.length_cons, List.length_append, List.length_singleton]
        omega
      rw [Still.storeBytes, if_neg (by have := ht.offset; have := ht.length; omega),
        List.append_cons]
      rw [hsum] at hfits
      refine ih (h.store ht b _) ?_ hfits
      rw [List.length_append, List.length_singleton]
      exact tracks_step ht hlen hroom b

/-- A buffer for a capture that has not let go. -/
theorem bufferCallback_state {enc : RaspicamEncoding} {b : EncoderBuffer} {u : RaspicamUserdata}
    (h : u.cameraBoard = true) : (bufferCallback enc b u).2 = storeBytes enc b.data u := by
  rw [bufferCallback, if_neg (by rw [h]; decide)]
  by_cases hb : b.ends = true
  · rw [if_pos hb]
  · rw [if_neg hb]

/-- Some buffers stored where there is room. -/
theorem Copied.collect {enc : RaspicamEncoding} {d : Nat → UInt8} {length : Nat}
    (hlen : length < 4294967296) (bs : List EncoderBuffer) {img : List UInt8} {u : RaspicamUserdata}
    (h : Copied enc d img u) (ht : Tracks enc length img.length u)
    (hfits : Fits enc length (img ++ bytes bs).length) :
    Copied enc d (img ++ bytes bs) (collect enc bs u).2 ∧
      Tracks enc length (img ++ bytes bs).length (collect enc bs u).2 := by
  induction bs generalizing img u with
  | nil =>
      rw [bytes, List.flatMap_nil, List.append_nil]
      exact ⟨h, ht⟩
  | cons b bs ih =>
      have happ : img ++ bytes (b :: bs) = (img ++ b.data) ++ bytes bs := by
        rw [bytes, List.flatMap_cons, bytes, List.append_assoc]
      rw [happ] at hfits ⊢
      have hbuffer : Fits enc length (img.length + b.data.length) := by
        refine hfits.mono ?_
        rw [List.length_append, List.length_append]
        omega
      have hstate : (Still.collect enc (b :: bs) u).2
          = (Still.collect enc bs (bufferCallback enc b u).2).2 := rfl
      rw [hstate, bufferCallback_state ht.cameraBoard]
      refine ih (h.storeBytes hlen ht hbuffer) ?_ hfits
      rw [List.length_append]
      exact storeBytes_fits hlen ht hbuffer

/-- What was stored before is not touched, and there is never more than the
    destination has room for. -/
structure Keeps (u u' : RaspicamUserdata) : Prop where
  length : u'.length = u.length
  grows : u.offset ≤ u'.offset
  room : u'.offset ≤ u'.length
  below : ∀ i < u.offset, u'.data i = u.data i

theorem Keeps.trans {u v w : RaspicamUserdata} (h : Keeps u v) (h' : Keeps v w) : Keeps u w :=
  ⟨h'.length.trans h.length, Nat.le_trans h.grows h'.grows, h'.room,
    fun i hi => (h'.below i (Nat.lt_of_lt_of_le hi h.grows)).trans (h.below i hi)⟩

theorem storeByte_keeps (enc : RaspicamEncoding) (b : UInt8) (p : Nat) {u : RaspicamUserdata}
    (hlen : u.length < 4294967296) (hroom : u.offset < u.length) :
    Keeps u { storeByte enc u b with bufferPosition := p } := by
  have hoff : u32 (u.offset + 1 : Nat) = u.offset + 1 := u32_of_range (by omega)
  have hwrite : Keeps u { u with
      data := Function.update u.data u.offset b
      offset := u32 (u.offset + 1 : Nat)
      bufferPosition := p } :=
    ⟨rfl, by simp only [hoff]; omega, by simp only [hoff]; omega,
      fun i hi => Function.update_of_ne (Nat.ne_of_lt hi) _ _⟩
  unfold storeByte
  by_cases henc : enc = .rgb
  · rw [if_pos henc]
    by_cases hpos : u.bufferPosition ≥ 54
    · rw [if_pos hpos]
      exact hwrite
    · rw [if_neg hpos]
      exact ⟨rfl, Nat.le_refl _, Nat.le_of_lt hroom, fun _ _ => rfl⟩
  · rw [if_neg henc]
    exact hwrite

theorem storeBytes_keeps (enc : RaspicamEncoding) (bs : List UInt8) {u : RaspicamUserdata}
    (hlen : u.length < 4294967296) (hroom : u.offset ≤ u.length) :
    Keeps u (storeBytes enc bs u) := by
  induction bs generalizing u with
  | nil => exact ⟨rfl, Nat.le_refl _, hroom, fun _ _ => rfl⟩
  | cons b bs ih =>
      rw [storeBytes]
      by_cases hfull : u.offset ≥ u.length
      · rw [if_pos hfull]
        exact ⟨rfl, Nat.le_refl _, hroom, fun _ _ => rfl⟩
      · rw [if_neg hfull]
        have hstep := storeByte_keeps enc b
          (u32 ((storeByte enc u b).bufferPosition + 1 : Nat)) hlen (by omega)
        exact hstep.trans (ih (by rw [hstep.length]; exact hlen) hstep.room)

/-- No later buffer overwrites what was stored. -/
theorem collect_keeps (enc : RaspicamEncoding) (bs : List EncoderBuffer) {u : RaspicamUserdata}
    (hlen : u.length < 4294967296) (hroom : u.offset ≤ u.length) :
    Keeps u (collect enc bs u).2 := by
  induction bs generalizing u with
  | nil => exact ⟨rfl, Nat.le_refl _, hroom, fun _ _ => rfl⟩
  | cons b bs ih =>
      have hstep : Keeps u (bufferCallback enc b u).2 := by
        by_cases hc : u.cameraBoard = true
        · rw [bufferCallback_state hc]
          exact storeBytes_keeps enc b.data hlen hroom
        · rw [bufferCallback, if_pos (Bool.eq_false_iff.mpr hc)]
          exact ⟨rfl, Nat.le_refl _, hroom, fun _ _ => rfl⟩
      exact hstep.trans (ih (by rw [hstep.length]; exact hlen) hstep.room)

theorem copied_nil (enc : RaspicamEncoding) (d : Nat → UInt8) (length : UInt32) :
    Copied enc d [] (RaspicamUserdata.forPicture d length) :=
  ⟨fun _ hk => absurd hk (Nat.not_lt_zero _), fun _ _ => rfl⟩

/-- A frame that fits, when it has ended and after all buffers came. -/
theorem copied_frame {enc : RaspicamEncoding} {length : UInt32} {bs : List EncoderBuffer}
    (d : Nat → UInt8) (hfits : Fits enc length.toNat (bytes (frame bs)).length) :
    Copied enc d (bytes (frame bs))
        (collect enc (frame bs) (RaspicamUserdata.forPicture d length)).2 ∧
      ∀ i < payload enc (bytes (frame bs)).length,
        (collect enc bs (RaspicamUserdata.forPicture d length)).2.data i
          = (collect enc (frame bs) (RaspicamUserdata.forPicture d length)).2.data i := by
  have hstart := tracks_forPicture enc d length
  rcases (copied_nil enc d length).collect length.toNat_lt (frame bs) hstart hfits with
    ⟨hcopied, htracks⟩
  refine ⟨hcopied, fun i hi => ?_⟩
  rcases frame_prefix bs with ⟨rest, hrest⟩
  have hkeeps := collect_keeps enc (frame bs) (u := RaspicamUserdata.forPicture d length)
    length.toNat_lt (Nat.zero_le _)
  -- The buffers after the frame find an offset behind all of it.
  have hlater := collect_keeps enc rest (u := (collect enc (frame bs) (.forPicture d length)).2)
    (by rw [hkeeps.length]; exact length.toNat_lt) hkeeps.room
  conv_lhs => rw [hrest, collect_append]
  refine hlater.below i ?_
  rw [htracks.offset]
  exact hi

/-- A picture that there is room for is stored. -/
theorem stored_of_room {enc : RaspicamEncoding} {length : UInt32} {bs : List EncoderBuffer}
    (hroom : (picture enc bs).length ≤ length.toNat)
    (hwrap : enc = .rgb → (bytes (frame bs)).length ≤ 4294967296) (d : Nat → UInt8) :
    Stored enc length.toNat bs (.forPicture d length) := by
  intro i hi
  -- Byte `i` of the picture is byte `k` of the image.
  obtain ⟨k, hk, hkeep, hpay, hbyte, hfits⟩ : ∃ k, ∃ (hk : k < (bytes (frame bs)).length),
      ¬ (enc = .rgb ∧ k % 4294967296 < 54) ∧ payload enc k = i ∧
      (picture enc bs)[i] = (bytes (frame bs))[k] ∧
      Fits enc length.toNat (bytes (frame bs)).length := by
    by_cases henc : enc = .rgb
    · subst henc
      have hpic : picture .rgb bs = (bytes (frame bs)).drop 54 := if_pos rfl
      have hle := hwrap rfl
      simp only [hpic, List.length_drop] at hi hroom
      refine ⟨54 + i, by omega, fun hc => by have := hc.2; omega, ?_, ?_, ?_⟩
      · rw [payload_rgb (by omega)]
        omega
      · simp only [hpic, List.getElem_drop]
      · refine Or.inr ?_
        rw [payload_rgb (by omega)]
        omega
    · have hpic : picture enc bs = bytes (frame bs) := if_neg henc
      simp only [hpic] at hi hroom
      refine ⟨i, hi, fun hc => henc hc.1, payload_eq henc i, by simp only [hpic], Or.inr ?_⟩
      rw [payload_eq henc]
      omega
  rcases copied_frame d hfits with ⟨hcopied, hlater⟩
  have hdata := hcopied.copied k hk hkeep
  have hbelow := hlater (payload enc k) (payload_lt hk hkeep)
  rw [hpay] at hdata hbelow
  exact ⟨Nat.lt_of_lt_of_le hi hroom, hdata.trans hbyte.symm, (hbelow.trans hdata).trans hbyte.symm⟩

/-- After as many bytes as an `unsigned int` counts, another header is
    skipped. -/
theorem payload_wrap {j : Nat} (hj : j ≤ 54) : payload .rgb (4294967296 + j) = 4294967242 := by
  induction j with
  | zero => exact payload_rgb (Nat.le_refl _)
  | succ j ih => rw [← Nat.add_assoc, payload, ih (by omega), if_pos ⟨rfl, by omega⟩]

/-- An RGB image of more bytes is not stored, unless the destination happens
    to hold the bytes already. -/
theorem not_stored_of_wrap {length : UInt32} {bs : List EncoderBuffer}
    (hroom : (picture .rgb bs).length ≤ length.toNat)
    (hwrap : 4294967296 < (bytes (frame bs)).length) :
    ∃ d, ¬ Stored .rgb length.toNat bs (.forPicture d length) := by
  have hpic : picture .rgb bs = (bytes (frame bs)).drop 54 := if_pos rfl
  have hlen := length.toNat_lt
  rw [hpic, List.length_drop] at hroom
  have hi : 4294967242 < (picture .rgb bs).length := by
    rw [hpic, List.length_drop]
    omega
  have hpay : payload .rgb (bytes (frame bs)).length = 4294967242 := by
    rw [show (bytes (frame bs)).length = 4294967296 + ((bytes (frame bs)).length - 4294967296) by
      omega]
    exact payload_wrap (by omega)
  have hfits : Fits .rgb length.toNat (bytes (frame bs)).length := by
    refine Or.inr ?_
    have hmono := payload_mono .rgb
      (show (bytes (frame bs)).length - 1 ≤ (bytes (frame bs)).length by omega)
    omega
  -- A destination that differs from the byte that is missing shows that it is missing.
  have hother : ∀ x : UInt8, ∃ y, y ≠ x := fun x => by
    by_cases hx : x = 0
    · exact ⟨1, fun h => absurd (h.trans hx) (by decide)⟩
    · exact ⟨0, fun h => hx h.symm⟩
  rcases hother (picture .rgb bs)[4294967242] with ⟨y, hy⟩
  refine ⟨fun _ => y, fun hstored => hy ?_⟩
  have hbeyond := (copied_frame (fun _ => y) hfits).1.beyond 4294967242 (Nat.le_of_eq hpay)
  exact hbeyond.symm.trans (hstored _ hi).2.1

/-- When the semaphore was posted, a buffer ended the image. -/
theorem ends_of_completion {enc : RaspicamEncoding} {length : UInt32} {bs : List EncoderBuffer}
    {d : Nat → UInt8} (h : (collect enc bs (.forPicture d length)).1 ≠ []) :
    ∃ b ∈ bs, b.ends = true := by
  rw [collect_completions length.toNat_lt _ (tracks_forPicture enc d length) (Or.inl rfl)] at h
  have hne : (reached enc length.toNat 0 bs).filter EncoderBuffer.ends ≠ [] :=
    fun hnil => h (by rw [hnil, List.map_nil])
  rcases List.exists_mem_of_ne_nil _ hne with ⟨b, hb⟩
  rcases List.mem_filter.mp hb with ⟨hreached, hends⟩
  exact ⟨b, reached_subset hreached, hends⟩

/-- A capture that was started is never reported as failed. -/
theorem pictureResult_started {enc : RaspicamEncoding} {bs : List EncoderBuffer}
    {u : RaspicamUserdata} : pictureResult true enc bs u ≠ some false := by
  unfold pictureResult
  rw [if_neg (by decide)]
  by_cases h : (collect enc bs u).1 = []
  · rw [if_pos h]
    exact nofun
  · rw [if_neg h]
    exact nofun

/-- The result of `takePicture` tells whether the picture is complete exactly
    when the capture could not be started, or no transmission failed and there
    is room for the picture, which for RGB must not come from an image of more
    bytes than an `unsigned int` counts. -/
theorem honest_iff {started : Bool} {enc : RaspicamEncoding} {length : UInt32}
    {bs : List EncoderBuffer} : Honest started enc length bs ↔
      (started = true → (∀ b ∈ bs, b.failed = false) ∧
        (picture enc bs).length ≤ length.toNat ∧
        (enc = .rgb → (bytes (frame bs)).length ≤ 4294967296)) := by
  cases started with
  | false => exact ⟨fun _ => nofun, fun _ _ => ⟨nofun, fun _ => rfl⟩⟩
  | true =>
      constructor
      · intro h _
        -- A capture that was started never gives false, so it has to be complete.
        have hstored : ∀ d, Stored enc length.toNat bs (.forPicture d length) := by
          intro d
          by_contra hn
          exact pictureResult_started ((h d).2 (Or.inr hn))
        have hroom : (picture enc bs).length ≤ length.toNat := by
          by_contra hn
          exact absurd (hstored (fun _ => 0) length.toNat (by omega)).1 (Nat.lt_irrefl _)
        refine ⟨fun b hb => ?_, hroom, fun henc => ?_⟩
        · refine Bool.eq_false_iff.mpr fun hf => ?_
          exact pictureResult_started ((h (fun _ => 0)).2 (Or.inl ⟨b, hb, hf⟩))
        · by_contra hn
          subst henc
          rcases not_stored_of_wrap hroom (by omega) with ⟨d, hd⟩
          exact hd (hstored d)
      · intro h d
        rcases h rfl with ⟨hintact, hroom, hwrap⟩
        have hstored := stored_of_room hroom hwrap d
        refine ⟨fun htrue => ⟨?_, hintact, hstored⟩, ?_⟩
        -- Without a post there is no result at all.
        · have hpost : (collect enc bs (.forPicture d length)).1 ≠ [] := by
            intro hnil
            unfold pictureResult at htrue
            rw [if_neg (by decide), if_pos hnil] at htrue
            exact nomatch htrue
          rcases ends_of_completion hpost with ⟨b, hb, hends⟩
          rw [b.ends_eq, hintact b hb, Bool.or_false] at hends
          exact ⟨b, hb, hends⟩
        · rintro (⟨b, hb, hf⟩ | hn)
          · exact absurd ((hintact b hb).symm.trans hf) Bool.false_ne_true
          · exact absurd hstored hn

/-- A failed transmission, and a picture of three bytes for a destination of
    two. Both are reported as pictures. -/
theorem failed_transmission_reported :
    ¬ Honest true .jpeg 16 [⟨flagTransmissionFailed, [255, 216], by decide⟩] ∧
      ¬ Honest true .jpeg 2 [⟨flagFrameEnd, [255, 216, 217], by decide⟩] := by
  refine ⟨fun h => ?_, fun h => ?_⟩
  · have hcomplete := (h fun _ => 0).1 rfl
    exact absurd (hcomplete.intact _ List.mem_cons_self) (by decide)
  · have hcomplete := (h fun _ => 0).1 rfl
    exact absurd (hcomplete.stored 2 (by decide)).1 (by decide)

end Still

end RaspiCam
