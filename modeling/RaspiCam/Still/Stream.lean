import RaspiCam.Lib.Bytes
import RaspiCam.Still.Picture

/-!
# A Stream in Pieces

The encoder cuts an image wherever it likes. `buffer_callback` keeps two
counters from one buffer to the next, the position in the stream and the
offset in the destination, which go apart while the header of a bitmap is
skipped, and it stops in the middle of a buffer when the destination is full.

`collect_stream` says that none of this depends on the cuts: the destination
holds the longest prefix of the payload that fits below its end, from the
starting offset on, and is otherwise what it was. The payload is the stream,
or for the encoding RGB the stream without its first 54 bytes.

## Main definitions

* `RaspicamUserdata.starting`: A capture that starts at some offset.
* `streamPayload`: What of a stream is to be stored.
* `kept`: What of it is stored.
* `LongestFitting`: The longest prefix that fits.
* `Streamed`: The state of a capture after some part of the stream.

## Theorems

* `Streamed.store`: One byte more.
* `Streamed.collect`: Any number of buffers more.
* `collect_stream`: What any capture leaves in the destination.
-/

namespace RaspiCam

open Machine Bytes

namespace Still

/-- The user data of `takePicture`, which has a semaphore, and of the
    `startCapture` with a callback, which has none. -/
def RaspicamUserdata.starting (mutex : Bool) (data : Nat → UInt8) (offset length : UInt32) :
    RaspicamUserdata where
  cameraBoard := true
  mutex := mutex
  data := data
  bufferPosition := 0
  startingOffset := offset.toNat
  offset := offset.toNat
  length := length.toNat

theorem RaspicamUserdata.forPicture_eq (data : Nat → UInt8) (length : UInt32) :
    forPicture data length = starting true data 0 length := rfl

/-- What of a stream is to be stored. -/
def streamPayload (enc : RaspicamEncoding) (s : List UInt8) : List UInt8 :=
  if enc = .rgb then s.drop 54 else s

/-- What of a stream is stored from offset `off` on, below index `length`. -/
def kept (enc : RaspicamEncoding) (off length : Nat) (s : List UInt8) : List UInt8 :=
  (streamPayload enc s).take (length - off)

/-- `p` is the longest prefix of `s` that fits from offset `off` on below index
    `length`. The empty one always does. -/
structure LongestFitting (off length : Nat) (s p : List UInt8) : Prop where
  isPrefix : p <+: s
  fits : p = [] ∨ off + p.length ≤ length
  longest : ∀ q, q <+: s → off + q.length ≤ length → q <+: p

theorem kept_longestFitting (enc : RaspicamEncoding) (off length : Nat) (s : List UInt8) :
    LongestFitting off length (streamPayload enc s) (kept enc off length s) := by
  refine ⟨List.take_prefix _ _, ?_, fun q hq hfits => ?_⟩
  · have hlen := List.length_take_le (length - off) (streamPayload enc s)
    rcases Nat.lt_or_ge off length with hlt | hge
    · exact Or.inr (by rw [kept]; omega)
    · exact Or.inl (by rw [kept, Nat.sub_eq_zero_of_le hge, List.take_zero])
  · exact List.prefix_take_iff.mpr ⟨hq, by omega⟩

/-- The header of a bitmap is not stored. -/
theorem kept_header {s : List UInt8} (off length : Nat) (hs : s.length < 54) (b : UInt8) :
    kept .rgb off length (s ++ [b]) = kept .rgb off length s := by
  have hdrop : ∀ t : List UInt8, t.length ≤ 54 → streamPayload .rgb t = [] :=
    fun t ht => (if_pos rfl).trans (List.drop_eq_nil_of_le ht)
  rw [kept, kept, hdrop s (by omega), hdrop (s ++ [b])]
  rw [List.length_append]
  exact hs

/-- A byte of the payload is stored behind the others while there is room. -/
theorem kept_concat {enc : RaspicamEncoding} {off length : Nat} {s : List UInt8}
    (hstore : enc = .rgb → 54 ≤ s.length) (hroom : off + (kept enc off length s).length < length)
    (b : UInt8) : kept enc off length (s ++ [b]) = kept enc off length s ++ [b] := by
  have happ : streamPayload enc (s ++ [b]) = streamPayload enc s ++ [b] := by
    unfold streamPayload
    by_cases henc : enc = .rgb
    · rw [if_pos henc, if_pos henc, List.drop_append_of_le_length (hstore henc)]
    · rw [if_neg henc, if_neg henc]
  rw [kept, List.length_take] at hroom
  rw [kept, kept, happ, List.take_of_length_le (l := streamPayload enc s) (by omega),
    List.take_of_length_le]
  rw [List.length_append, List.length_singleton]
  omega

/-- When the destination is full nothing more is stored. -/
theorem kept_full {enc : RaspicamEncoding} {off length : Nat} {s : List UInt8}
    (hfull : length - off ≤ (streamPayload enc s).length) (t : List UInt8) :
    kept enc off length (s ++ t) = kept enc off length s ∧
      length - off ≤ (streamPayload enc (s ++ t)).length := by
  unfold kept
  unfold streamPayload at hfull ⊢
  by_cases henc : enc = .rgb
  · simp only [if_pos henc] at hfull ⊢
    rw [List.drop_append, List.take_append_of_le_length hfull, List.length_append]
    exact ⟨rfl, by omega⟩
  · simp only [if_neg henc] at hfull ⊢
    rw [List.take_append_of_le_length hfull, List.length_append]
    exact ⟨rfl, by omega⟩

/-- The state of a capture after the part `s` of the stream: as long as it goes
    on, the counters tell how much came and how much was stored. -/
structure Streamed (enc : RaspicamEncoding) (d : Nat → UInt8) (off length : Nat) (s : List UInt8)
    (u : RaspicamUserdata) : Prop where
  data : u.data = overlay d off (kept enc off length s)
  going : u.cameraBoard = true →
    u.bufferPosition = s.length ∧ u.offset = off + (kept enc off length s).length
  full : u.cameraBoard = false → length - off ≤ (streamPayload enc s).length
  length : u.length = length

section

variable {enc : RaspicamEncoding} {d : Nat → UInt8} {off length : Nat} {s : List UInt8}
  {u : RaspicamUserdata}

theorem streamed_starting (mutex : Bool) (off length : UInt32) :
    Streamed enc d off.toNat length.toNat [] (.starting mutex d off length) := by
  have hnil : kept enc off.toNat length.toNat [] = [] := by
    unfold kept streamPayload
    rw [List.drop_nil, ite_self, List.take_nil]
  refine ⟨?_, fun _ => ⟨rfl, ?_⟩, fun h => absurd h.symm Bool.false_ne_true, rfl⟩
  · rw [hnil, overlay_nil]
    rfl
  · rw [hnil]
    rfl

/-- One byte more, where there is room. -/
theorem Streamed.store (h : Streamed enc d off length s u) (hlen : length < 4294967296)
    (hgoing : u.cameraBoard = true) (hroom : u.offset < u.length) (b : UInt8)
    (hs : s.length + 1 < 4294967296) : Streamed enc d off length (s ++ [b])
      { storeByte enc u b with
        bufferPosition := u32 ((storeByte enc u b).bufferPosition + 1 : Nat) } := by
  rcases h.going hgoing with ⟨hpos, hoff⟩
  rw [h.length, hoff] at hroom
  have hpos' : u32 (u.bufferPosition + 1 : Nat) = (s ++ [b]).length := by
    rw [hpos, List.length_append, List.length_singleton]
    exact u32_of_range (by omega)
  have hoff' : u32 (u.offset + 1 : Nat) = u.offset + 1 := u32_of_range (by omega)
  by_cases hhead : enc = .rgb ∧ s.length < 54
  · -- A byte of the header moves the position only.
    rcases hhead with ⟨rfl, hhead⟩
    have hkept := kept_header off length hhead b
    have hbyte : storeByte .rgb u b = u := by
      rw [storeByte, if_pos rfl, if_neg (by omega)]
    rw [hbyte]
    exact ⟨by rw [hkept]; exact h.data, fun _ => ⟨hpos', by rw [hkept]; exact hoff⟩,
      fun hf => absurd (hf.symm.trans hgoing) Bool.false_ne_true, h.length⟩
  · have hkept := kept_concat (fun henc => Nat.le_of_not_lt fun hlt => hhead ⟨henc, hlt⟩) hroom b
    have hbyte : storeByte enc u b
        = { u with
            data := Function.update u.data u.offset b, offset := u32 (u.offset + 1 : Nat) } := by
      rw [storeByte]
      by_cases henc : enc = .rgb
      · have hpast := Nat.le_of_not_lt fun hlt => hhead ⟨henc, hlt⟩
        rw [if_pos henc, if_pos (by omega)]
      · rw [if_neg henc]
    rw [hbyte]
    refine ⟨?_, fun _ => ⟨hpos', ?_⟩,
      fun hf => absurd (hf.symm.trans hgoing) Bool.false_ne_true, h.length⟩
    · simp only [hkept, overlay_concat, h.data, hoff]
    · rw [hkept, List.length_append, List.length_singleton, ← Nat.add_assoc, ← hoff]
      exact hoff'

/-- When the destination is full it stays as it is. -/
theorem Streamed.stopped (h : Streamed enc d off length s u)
    (hfull : length - off ≤ (streamPayload enc s).length) (t : List UInt8) :
    Streamed enc d off length (s ++ t) { u with cameraBoard := false } := by
  rcases kept_full hfull t with ⟨hkept, hfull'⟩
  exact ⟨by rw [hkept]; exact h.data,
    fun hc => absurd hc Bool.false_ne_true, fun _ => hfull', h.length⟩

/-- A piece of the stream more. -/
theorem Streamed.storeBytes (h : Streamed enc d off length s u) (hlen : length < 4294967296)
    (hgoing : u.cameraBoard = true) (bs : List UInt8) (hs : (s ++ bs).length < 4294967296) :
    Streamed enc d off length (s ++ bs) (storeBytes enc bs u) := by
  induction bs generalizing s u with
  | nil =>
      rw [List.append_nil]
      exact h
  | cons b bs ih =>
      rw [Still.storeBytes]
      by_cases hroom : u.offset ≥ u.length
      · rw [if_pos hroom]
        refine h.stopped ?_ _
        have hoff := (h.going hgoing).2
        rw [kept, List.length_take] at hoff
        have := h.length
        omega
      · rw [if_neg hroom, List.append_cons]
        rw [List.append_cons] at hs
        have hone : s.length + 1 < 4294967296 := by
          rw [List.length_append, List.length_append, List.length_singleton] at hs
          omega
        have hstep := h.store hlen hgoing (by omega) b hone
        refine ih hstep ?_ hs
        -- Storing a byte does not let go of the capture.
        unfold storeByte
        split
        · split
          · exact hgoing
          · exact hgoing
        · exact hgoing

/-- Any number of buffers more. -/
theorem Streamed.collect (h : Streamed enc d off length s u) (hlen : length < 4294967296)
    (bs : List EncoderBuffer) (hs : (s ++ bytes bs).length < 4294967296) :
    Streamed enc d off length (s ++ bytes bs) (collect enc bs u).2 := by
  induction bs generalizing s u with
  | nil =>
      rw [bytes, List.flatMap_nil, List.append_nil]
      exact h
  | cons b bs ih =>
      have happ : s ++ bytes (b :: bs) = (s ++ b.data) ++ bytes bs := by
        rw [bytes, List.flatMap_cons, bytes, List.append_assoc]
      rw [happ] at hs ⊢
      have hstep : Streamed enc d off length (s ++ b.data) (bufferCallback enc b u).2 := by
        by_cases hgoing : u.cameraBoard = true
        · rw [bufferCallback_state hgoing]
          refine h.storeBytes hlen hgoing b.data ?_
          rw [List.length_append] at hs
          omega
        · -- A capture that let go ignores the buffer.
          have hgone := Bool.eq_false_iff.mpr hgoing
          have hstopped := h.stopped (h.full hgone) b.data
          rw [bufferCallback, if_pos hgone]
          rwa [show { u with cameraBoard := false } = u by rw [← hgone]] at hstopped
      exact ih hstep hs

end

/-- What any capture leaves in the destination, for a stream of fewer bytes
    than an `unsigned int` counts: the longest prefix of the payload that fits,
    however the stream was cut. -/
theorem collect_stream (enc : RaspicamEncoding) (mutex : Bool) (d : Nat → UInt8)
    (off length : UInt32) (bs : List EncoderBuffer) (hs : (bytes bs).length < 4294967296) :
    ∃ p, LongestFitting off.toNat length.toNat (streamPayload enc (bytes bs)) p ∧
      (∀ i (h : i < p.length),
        (collect enc bs (.starting mutex d off length)).2.data (off.toNat + i) = p[i]) ∧
      (∀ i, i < off.toNat ∨ off.toNat + p.length ≤ i →
        (collect enc bs (.starting mutex d off length)).2.data i = d i) ∧
      ∀ bs', bytes bs' = bytes bs →
        (collect enc bs' (.starting mutex d off length)).2.data
          = (collect enc bs (.starting mutex d off length)).2.data := by
  have hdata : ∀ cs, bytes cs = bytes bs → (collect enc cs (.starting mutex d off length)).2.data
      = overlay d off.toNat (kept enc off.toNat length.toNat (bytes bs)) := by
    intro cs hcs
    have hstart : Streamed enc d off.toNat length.toNat [] (.starting mutex d off length) :=
      streamed_starting mutex off length
    have hstream := hstart.collect length.toNat_lt cs
      (by rw [List.nil_append, hcs]; exact hs)
    rw [hstream.data, List.nil_append, hcs]
  refine ⟨kept enc off.toNat length.toNat (bytes bs), kept_longestFitting _ _ _ _, ?_, ?_, ?_⟩
  · intro i hi
    rw [hdata bs rfl, overlay_get d off.toNat hi]
  · intro i hi
    rw [hdata bs rfl, overlay_other d hi]
  · intro bs' hsame
    rw [hdata bs' hsame, hdata bs rfl]

/-- A JPEG of three bytes for the places 1 and 2. -/
theorem collect_stream_jpeg :
    ∃ p, LongestFitting 1 3 [255, 216, 217] p ∧
      (∀ i (h : i < p.length), (collect .jpeg [⟨0, [255], by decide⟩, ⟨flagFrameEnd, [216, 217],
        by decide⟩] (.starting false (fun _ => 0) 1 3)).2.data (1 + i) = p[i]) := by
  rcases collect_stream .jpeg false (fun _ => 0) 1 3
    [⟨0, [255], by decide⟩, ⟨flagFrameEnd, [216, 217], by decide⟩] (by decide) with ⟨p, hp, hat, _⟩
  exact ⟨p, hp, hat⟩

end Still

end RaspiCam
