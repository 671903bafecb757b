import RaspiCam.Core.Types
import RaspiCam.Lib.Machine
import Mathlib.Algebra.GroupWithZero.Nat
import Mathlib.Data.List.Basic
import Mathlib.Logic.Function.Basic

/-!
# Collecting a Still Image

The encoder delivers an image in buffers of its own choosing, and
`buffer_callback` appends them byte by byte to the destination of the capture.
For the encoding RGB the first 54 bytes, the header of a bitmap, are counted
but not stored. When a byte arrives and the destination is full, the callback
lets go of `cameraBoard` and gives up on the rest of the buffer; from then on
it ignores every buffer.

A buffer that ends the image posts the semaphore `takePicture` waits on. That
happens after its bytes were stored, and also when they did not fit, but not
when an earlier buffer did not fit. `completes_once_iff` counts the posts of
any sequence of buffers.

## Main definitions

* `EncoderBuffer`: What MMAL delivers.
* `RaspicamUserdata`: The state of a capture.
* `storeBytes`, `bufferCallback`: The callback.
* `collect`: The callback on a sequence of buffers.
* `payload`: How many of the first bytes are stored.
* `Fits`: No byte arrives when the destination is full.
* `reached`: The buffers that are not ignored.

## Theorems

* `storeBytes_fits`, `storeBytes_full`: What storing a buffer does.
* `collect_completions`: Which buffers complete the capture.
* `completes_once_iff`: When the capture completes exactly once.
* `completes_once_of_last`: The same for an image that one buffer ends.
-/

namespace RaspiCam

open Machine

namespace Still

/-- `MMAL_BUFFER_HEADER_T`, as far as the callback reads it. -/
structure EncoderBuffer where
  flags : UInt32
  data : List UInt8
  length_lt : data.length < 4294967296

/-- `MMAL_BUFFER_HEADER_FLAG_FRAME_END`. -/
def flagFrameEnd : UInt32 := 4

/-- `MMAL_BUFFER_HEADER_FLAG_TRANSMISSION_FAILED`. -/
def flagTransmissionFailed : UInt32 := 1024

/-- The buffer carries one of the two flags that end an image. -/
def EncoderBuffer.ends (b : EncoderBuffer) : Bool :=
  (flagFrameEnd ||| flagTransmissionFailed) &&& b.flags != 0

/-- `RASPICAM_USERDATA`. Of the pointers `cameraBoard` and `mutex` only
    whether they are null is kept. -/
structure RaspicamUserdata where
  cameraBoard : Bool
  mutex : Bool
  data : Nat → UInt8
  bufferPosition : Nat
  startingOffset : Nat
  offset : Nat
  length : Nat

/-- How a capture is reported complete. -/
inductive Completion
  | semPost
  | imageCallback (startingOffset length : Nat)
deriving DecidableEq

/-- Store one byte of the image. -/
def storeByte (enc : RaspicamEncoding) (u : RaspicamUserdata) (b : UInt8) : RaspicamUserdata :=
  if enc = .rgb then
    if u.bufferPosition ≥ 54 then
      { u with data := Function.update u.data u.offset b, offset := u32 (u.offset + 1 : Nat) }
    else u
  else { u with data := Function.update u.data u.offset b, offset := u32 (u.offset + 1 : Nat) }

/-- The loop over the bytes of a buffer. -/
def storeBytes (enc : RaspicamEncoding) : List UInt8 → RaspicamUserdata → RaspicamUserdata
  | [], u => u
  | b :: bs, u =>
    if u.offset ≥ u.length then { u with cameraBoard := false }
    else
      let u := storeByte enc u b
      storeBytes enc bs { u with bufferPosition := u32 (u.bufferPosition + 1 : Nat) }

/-- `buffer_callback`, up to the return of the header. -/
def bufferCallback (enc : RaspicamEncoding) (b : EncoderBuffer) (u : RaspicamUserdata) :
    Option Completion × RaspicamUserdata :=
  if u.cameraBoard = false then (none, u) else
  let u := storeBytes enc b.data u
  if b.ends = true then
    (some (if u.mutex = false then
        .imageCallback u.startingOffset (u32 ((u.length : Int) - u.startingOffset))
      else .semPost), u)
  else (none, u)

/-- The callback on a sequence of buffers, with all completions in order. -/
def collect (enc : RaspicamEncoding) : List EncoderBuffer → RaspicamUserdata →
    List Completion × RaspicamUserdata
  | [], u => ([], u)
  | b :: bs, u =>
    let (c, u) := bufferCallback enc b u
    let (cs, u) := collect enc bs u
    (c.toList ++ cs, u)

/-- The user data of `takePicture`. -/
def RaspicamUserdata.forPicture (data : Nat → UInt8) (length : UInt32) : RaspicamUserdata where
  cameraBoard := true
  mutex := true
  data := data
  bufferPosition := 0
  startingOffset := 0
  offset := 0
  length := length.toNat

/-- How many of the first `n` bytes are stored. The position wraps around, and
    a header is skipped again after it does. -/
def payload (enc : RaspicamEncoding) : Nat → Nat
  | 0 => 0
  | n + 1 => payload enc n + if enc = .rgb ∧ n % 4294967296 < 54 then 0 else 1

/-- None of the first `n` bytes arrives when the destination is full. -/
def Fits (enc : RaspicamEncoding) (length n : Nat) : Prop :=
  n = 0 ∨ payload enc (n - 1) < length

instance (enc : RaspicamEncoding) (length n : Nat) : Decidable (Fits enc length n) :=
  inferInstanceAs (Decidable (_ ∨ _))

/-- The buffers that are not ignored, of a sequence that follows `n` bytes:
    those that start while everything before them fit. -/
def reached (enc : RaspicamEncoding) (length : Nat) : Nat → List EncoderBuffer → List EncoderBuffer
  | _, [] => []
  | n, b :: bs =>
    if Fits enc length n then b :: reached enc length (n + b.data.length) bs else []

theorem payload_mono (enc : RaspicamEncoding) {m n : Nat} (h : m ≤ n) :
    payload enc m ≤ payload enc n := by
  induction h with
  | refl => exact Nat.le_refl _
  | step h ih => exact Nat.le_trans ih (Nat.le_add_right _ _)

/-- Unless the encoding is RGB, every byte is stored. -/
theorem payload_eq {enc : RaspicamEncoding} (henc : enc ≠ .rgb) (n : Nat) : payload enc n = n := by
  induction n with
  | zero => rfl
  | succ n ih => rw [payload, ih, if_neg (fun h => henc h.1)]

/-- An RGB image is stored without its first 54 bytes. -/
theorem payload_rgb {n : Nat} (hn : n ≤ 4294967296) : payload .rgb n = n - 54 := by
  induction n with
  | zero => rfl
  | succ n ih =>
      rw [payload, ih (by omega)]
      by_cases h : n < 54
      · rw [if_pos ⟨rfl, by omega⟩]
        omega
      · rw [if_neg (fun hc => h (by have := hc.2; omega))]
        omega

theorem fits_iff (enc : RaspicamEncoding) (length n : Nat) :
    Fits enc length n ↔ ∀ i < n, payload enc i < length := by
  constructor
  · rintro (rfl | h) i hi
    · exact absurd hi (Nat.not_lt_zero i)
    · exact Nat.lt_of_le_of_lt (payload_mono enc (by omega)) h
  · intro h
    rcases Nat.eq_zero_or_pos n with h0 | hpos
    · exact Or.inl h0
    · exact Or.inr (h (n - 1) (by omega))

theorem Fits.mono {enc : RaspicamEncoding} {length m n : Nat} (h : Fits enc length n)
    (hmn : m ≤ n) : Fits enc length m := by
  rw [fits_iff] at h ⊢
  exact fun i hi => h i (by omega)

/-- The state of a capture after `n` bytes that fit. -/
structure Tracks (enc : RaspicamEncoding) (length n : Nat) (u : RaspicamUserdata) : Prop where
  cameraBoard : u.cameraBoard = true
  mutex : u.mutex = true
  length : u.length = length
  bufferPosition : u.bufferPosition = n % 4294967296
  offset : u.offset = payload enc n

/-- One byte stored where there is room. -/
theorem tracks_step {enc : RaspicamEncoding} {length n : Nat} {u : RaspicamUserdata}
    (h : Tracks enc length n u) (hlen : length < 4294967296) (hroom : payload enc n < length)
    (b : UInt8) : Tracks enc length (n + 1) { storeByte enc u b with
      bufferPosition := u32 ((storeByte enc u b).bufferPosition + 1 : Nat) } := by
  have hpos : u32 (u.bufferPosition + 1 : Nat) = (n + 1) % 4294967296 := by
    rw [h.bufferPosition]
    unfold u32
    omega
  have hoff : u32 (u.offset + 1 : Nat) = payload enc n + 1 := by
    rw [h.offset]
    exact u32_of_range (by omega)
  unfold storeByte
  by_cases henc : enc = .rgb
  · rw [if_pos henc]
    -- The bytes of the header move the position but not the offset.
    by_cases hhead : u.bufferPosition ≥ 54
    · rw [if_pos hhead]
      refine ⟨h.cameraBoard, h.mutex, h.length, hpos, ?_⟩
      rw [payload, if_neg (fun hc => by have := hc.2; have := h.bufferPosition; omega)]
      exact hoff
    · rw [if_neg hhead]
      refine ⟨h.cameraBoard, h.mutex, h.length, hpos, ?_⟩
      rw [payload, if_pos ⟨henc, by have := h.bufferPosition; omega⟩]
      exact h.offset
  · rw [if_neg henc]
    refine ⟨h.cameraBoard, h.mutex, h.length, hpos, ?_⟩
    rw [payload, if_neg (fun hc => henc hc.1)]
    exact hoff

/-- Storing a buffer that fits. -/
theorem storeBytes_fits {enc : RaspicamEncoding} {length : Nat} (hlen : length < 4294967296)
    {bs : List UInt8} {n : Nat} {u : RaspicamUserdata} (h : Tracks enc length n u)
    (hfits : Fits enc length (n + bs.length)) :
    Tracks enc length (n + bs.length) (storeBytes enc bs u) := by
  induction bs generalizing n u with
  | nil => exact h
  | cons b bs ih =>
      have hroom : payload enc n < length :=
        (fits_iff enc length _).mp hfits n (by rw [List.length_cons]; omega)
      have hstep := tracks_step h hlen hroom b
      have hsum : n + (b :: bs).length = n + 1 + bs.length := by
        rw [List.length_cons]
        omega
      rw [storeBytes, if_neg (by have := h.offset; have := h.length; omega)]
      rw [hsum] at hfits ⊢
      exact ih hstep hfits

/-- Storing a buffer that does not fit: the capture lets go. -/
theorem storeBytes_full {enc : RaspicamEncoding} {length : Nat} (hlen : length < 4294967296)
    {bs : List UInt8} {n : Nat} {u : RaspicamUserdata} (h : Tracks enc length n u)
    (hfits : Fits enc length n) (hfull : ¬ Fits enc length (n + bs.length)) :
    (storeBytes enc bs u).cameraBoard = false ∧ (storeBytes enc bs u).mutex = true := by
  induction bs generalizing n u with
  | nil => exact absurd hfits hfull
  | cons b bs ih =>
      have hsum : n + (b :: bs).length = n + 1 + bs.length := by
        rw [List.length_cons]
        omega
      rw [storeBytes]
      by_cases hroom : u.offset ≥ u.length
      · rw [if_pos hroom]
        exact ⟨rfl, h.mutex⟩
      · have hroom' : payload enc n < length := by
          have := h.offset
          have := h.length
          omega
        rw [if_neg hroom]
        rw [hsum] at hfull
        exact ih (tracks_step h hlen hroom' b) (Or.inr hroom') hfull

/-- A capture that let go ignores every buffer. -/
theorem collect_ignored (enc : RaspicamEncoding) (bs : List EncoderBuffer) {u : RaspicamUserdata}
    (h : u.cameraBoard = false) : (collect enc bs u).1 = [] := by
  induction bs with
  | nil => rfl
  | cons b bs ih =>
      have hcb : bufferCallback enc b u = (none, u) := by rw [bufferCallback, if_pos h]
      simp only [collect, hcb, Option.toList_none, List.nil_append, ih]

/-- The capture is completed once by every buffer that ends the image and is
    not ignored. -/
theorem collect_completions {enc : RaspicamEncoding} {length : Nat} (hlen : length < 4294967296)
    (bs : List EncoderBuffer) {n : Nat} {u : RaspicamUserdata} (h : Tracks enc length n u)
    (hfits : Fits enc length n) : (collect enc bs u).1
      = ((reached enc length n bs).filter EncoderBuffer.ends).map fun _ => .semPost := by
  induction bs generalizing n u with
  | nil => rfl
  | cons b bs ih =>
      rw [reached, if_pos hfits]
      have hmutex : (storeBytes enc b.data u).mutex = true := by
        by_cases hnext : Fits enc length (n + b.data.length)
        · exact (storeBytes_fits hlen h hnext).mutex
        · exact (storeBytes_full hlen h hfits hnext).2
      have hcb : bufferCallback enc b u
          = (if b.ends = true then some .semPost else none, storeBytes enc b.data u) := by
        rw [bufferCallback, if_neg (by rw [h.cameraBoard]; decide)]
        simp only [hmutex, Bool.true_eq_false, if_false]
        by_cases he : b.ends = true
        · rw [if_pos he, if_pos he]
        · rw [if_neg he, if_neg he]
      -- After a buffer that does not fit, the capture has let go and ignores the rest.
      have hrest : (collect enc bs (storeBytes enc b.data u)).1
          = ((reached enc length (n + b.data.length) bs).filter EncoderBuffer.ends).map
            fun _ => .semPost := by
        by_cases hnext : Fits enc length (n + b.data.length)
        · exact ih (storeBytes_fits hlen h hnext) hnext
        · rw [collect_ignored enc bs (storeBytes_full hlen h hfits hnext).1]
          cases bs with
          | nil => rfl
          | cons c cs => rw [reached, if_neg hnext]; rfl
      simp only [collect, hcb, hrest]
      by_cases he : b.ends = true
      · rw [if_pos he, List.filter_cons_of_pos he]
        rfl
      · rw [if_neg he, List.filter_cons_of_neg he]
        rfl

theorem reached_subset {enc : RaspicamEncoding} {length n : Nat} {bs : List EncoderBuffer}
    {b : EncoderBuffer} (h : b ∈ reached enc length n bs) : b ∈ bs := by
  induction bs generalizing n with
  | nil => exact h
  | cons c cs ih =>
      rw [reached] at h
      by_cases hfits : Fits enc length n
      · rw [if_pos hfits] at h
        rcases List.mem_cons.mp h with rfl | h
        · exact List.mem_cons_self
        · exact List.mem_cons_of_mem c (ih h)
      · rw [if_neg hfits] at h
        exact absurd h List.not_mem_nil

theorem tracks_forPicture (enc : RaspicamEncoding) (data : Nat → UInt8) (length : UInt32) :
    Tracks enc length.toNat 0 (RaspicamUserdata.forPicture data length) :=
  ⟨rfl, rfl, rfl, rfl, rfl⟩

/-- The capture completes exactly once when exactly one of the buffers that
    end the image is not ignored, whatever the sequence of buffers. -/
theorem completes_once_iff (enc : RaspicamEncoding) (data : Nat → UInt8) (length : UInt32)
    (bs : List EncoderBuffer) :
    (collect enc bs (RaspicamUserdata.forPicture data length)).1 = [.semPost] ↔
      (reached enc length.toNat 0 bs).countP EncoderBuffer.ends = 1 := by
  have hcompletions := collect_completions length.toNat_lt bs
    (tracks_forPicture enc data length) (Or.inl rfl)
  rw [hcompletions, List.countP_eq_length_filter]
  constructor
  · intro h
    simpa only [List.length_map, List.length_singleton] using congrArg List.length h
  · intro h
    rcases List.length_eq_one_iff.mp h with ⟨b, hb⟩
    rw [hb, List.map_singleton]

/-- All buffers of a sequence are reached when its bytes up to the last buffer
    fit, and the last one is not reached otherwise. -/
theorem reached_concat {enc : RaspicamEncoding} {length n : Nat} {bs : List EncoderBuffer}
    {last : EncoderBuffer} : reached enc length n (bs ++ [last])
      = reached enc length n bs ++
        if Fits enc length (n + (bs.map fun b => b.data.length).sum) then [last] else [] := by
  induction bs generalizing n with
  | nil => simp only [List.nil_append, reached, List.map_nil, List.sum_nil, Nat.add_zero]
  | cons b bs ih =>
      have hsum : n + ((b :: bs).map fun b => b.data.length).sum
          = n + b.data.length + (bs.map fun b => b.data.length).sum := by
        rw [List.map_cons, List.sum_cons, Nat.add_assoc]
      rw [List.cons_append, reached, reached, hsum]
      by_cases hfits : Fits enc length n
      · rw [if_pos hfits, if_pos hfits, ih, List.cons_append]
      · have hnext : ¬ Fits enc length
            (n + b.data.length + (bs.map fun b => b.data.length).sum) :=
          fun h => hfits (h.mono (by omega))
        rw [if_neg hfits, if_neg hfits, if_neg hnext, List.append_nil]

/-- An image that only its last buffer ends completes exactly once when the
    buffers before the last one fit. -/
theorem completes_once_of_last (enc : RaspicamEncoding) (data : Nat → UInt8) (length : UInt32)
    (bs : List EncoderBuffer) {last : EncoderBuffer} (hlast : last.ends = true)
    (hbs : ∀ b ∈ bs, b.ends = false) :
    (collect enc (bs ++ [last]) (RaspicamUserdata.forPicture data length)).1 = [.semPost] ↔
      Fits enc length.toNat (bs.map fun b => b.data.length).sum := by
  -- The buffers before the last one end nothing, reached or not.
  have hearlier : (reached enc length.toNat 0 bs).countP EncoderBuffer.ends = 0 := by
    refine List.countP_eq_zero.mpr (fun b hb => ?_)
    rw [hbs b (reached_subset hb)]
    exact Bool.false_ne_true
  rw [completes_once_iff, reached_concat, List.countP_append, hearlier, Nat.zero_add,
    Nat.zero_add]
  by_cases hfits : Fits enc length.toNat (bs.map fun b => b.data.length).sum
  · simp only [List.countP_singleton, hlast, if_true, hfits]
  · rw [if_neg hfits]
    exact ⟨fun h => absurd h (by decide), fun h => absurd h hfits⟩

/-- A JPEG of three bytes for a destination of one, cut after the second byte:
    the buffer that ends it is ignored. -/
theorem overflow_loses_completion :
    let last : EncoderBuffer := ⟨flagFrameEnd, [217], by decide⟩
    last.ends = true ∧
      (collect .jpeg [⟨0, [255, 216], by decide⟩, last]
        (RaspicamUserdata.forPicture (fun _ => 0) 1)).1 = [] := by decide

end Still

end RaspiCam
