import RaspiCam.Video.Device

/-!
# Memory Bounds of the Stored Frame

The size of the stored frame is fixed when the frame arrives. What a client
reads of it later, and where the callback reads and writes the next one, is
computed from the width, the height and the format as they are by then, and
the size setters change these at any time. `accesses_in_range` is about the
runs in which they do so with care: no setter makes the advertised size exceed
the frame already stored, and while the camera is open none makes the padded
frame exceed what the device was configured to deliver.

The invariant `Bounded` relates the three sizes: the advertised size is at
most the stored one, and the padded frame is at most the delivered one.

## Main definitions

* `Op.InRange`: The accesses of an operation are in range.
* `Camera.Readable`: What a client may read is stored.
* `Storable`: A frame that can be taken apart without overflow.
* `Op.Guarded`: The condition on one operation.
* `Camera.Bounded`: The invariant.

## Theorems

* `frameCopies_inRange`: The callback's copies are in range.
* `bounded_step`: A guarded operation keeps the invariant.
* `accesses_in_range`: Every access of a guarded run is in range.
* `resize_while_open_overruns`: A run that is not guarded.
-/

namespace RaspiCam

open Mmal Machine Bytes Transition

namespace Video

/-- Every access to image memory that the operation makes is in range. -/
def Op.InRange (c : Camera) : Op → Prop
  | .frame b _ _ => c.impl.callbackData.wantsFrame b = true →
      ∀ k ∈ frameCopies c.impl.state.width c.impl.state.height c.impl.state.captureFtm b,
        InBlock k.src k.len b.length ∧ InBlock k.dst k.len
          (frameSize c.impl.state.width c.impl.state.height c.impl.state.captureFtm b)
  | .retrieve => ∀ k ∈ c.impl.retrieveCopies,
      InBlock k.src k.len c.impl.callbackData.buffData.size
  | _ => True

/-- When a frame is stored, as much of it is stored as is advertised. -/
def Camera.Readable (c : Camera) : Prop :=
  c.impl.callbackData.buffData.size ≠ 0 →
    c.impl.getImageBufferSize ≤ c.impl.callbackData.buffData.size

/-- A frame that can be taken apart row by row: it has no negative side, no
    offset in it overflows, and its rows are kept if they have to be cut. -/
def Storable (w h : Int) (fmt : RaspicamFormat) : Prop :=
  0 ≤ w ∧ 0 ≤ h ∧ paddedLength w.toNat h.toNat fmt < 2147483648 ∧
    (fmt = .ignore → 32 ∣ w.toNat)

instance (w h : Int) (fmt : RaspicamFormat) : Decidable (Storable w h fmt) :=
  inferInstanceAs (Decidable (_ ∧ _ ∧ _ ∧ (_ → _)))

/-- Frames of this size and format are delivered whole by the open camera. -/
def Camera.Covers (c : Camera) (w h : Int) (fmt : RaspicamFormat) : Prop :=
  Storable w h fmt ∧ ∀ f ∈ c.committedFormat, paddedLength w.toNat h.toNat fmt ≤ frameLength f

instance (c : Camera) (w h : Int) (fmt : RaspicamFormat) : Decidable (c.Covers w h fmt) :=
  inferInstanceAs (Decidable (_ ∧ _))

/-- The recorded size may become `w` by `h`, and the format `fmt`: no frame is
    stored or the stored frame is at least as large, and an open camera
    delivers such frames whole. -/
def Camera.Admits (c : Camera) (w h : Int) (fmt : RaspicamFormat) : Prop :=
  (c.impl.callbackData.buffData.size = 0 ∨
    typeSize (u32 w) (u32 h) fmt ≤ c.impl.callbackData.buffData.size) ∧
  (c.impl.isOpened = true → c.Covers w h fmt)

instance (c : Camera) (w h : Int) (fmt : RaspicamFormat) : Decidable (c.Admits w h fmt) :=
  inferInstanceAs (Decidable (_ ∧ (_ → _)))

/-- The condition on one operation. -/
def Op.Guarded (c : Camera) : Op → Prop
  | .setWidth width => c.Admits (i32 width.toNat) c.impl.state.height c.impl.state.captureFtm
  | .setHeight height => c.Admits c.impl.state.width (i32 height.toNat) c.impl.state.captureFtm
  | .setCaptureSize width height =>
      c.Admits (i32 width.toNat) (i32 height.toNat) c.impl.state.captureFtm
  | .setFormat fmt => c.impl.isOpened = false →
      c.Admits c.impl.state.width c.impl.state.height fmt
  | .openCamera _ _ => c.impl.isOpened = false →
      Storable c.impl.state.width c.impl.state.height c.impl.state.captureFtm
  | _ => True

instance (c : Camera) (o : Op) : Decidable (o.Guarded c) :=
  match o with
  | .setWidth _ | .setHeight _ | .setCaptureSize _ _ => inferInstanceAs (Decidable (c.Admits _ _ _))
  | .setFormat _ => inferInstanceAs (Decidable (_ → c.Admits _ _ _))
  | .openCamera _ _ => inferInstanceAs (Decidable (_ → Storable _ _ _))
  | .setSensorMode _ | .setFrameRate _ | .set _ _ | .setUserCallback _ | .startCapture _
  | .grab | .release | .retrieve | .frame _ _ _ | .control _ => isTrue trivial

instance (c : Camera) (o : Op) : Decidable (o.InRange c) :=
  match o with
  | .frame b _ _ => inferInstanceAs (Decidable (c.impl.callbackData.wantsFrame b = true →
      ∀ k ∈ frameCopies c.impl.state.width c.impl.state.height c.impl.state.captureFtm b,
        InBlock k.src k.len b.length ∧ InBlock k.dst k.len
          (frameSize c.impl.state.width c.impl.state.height c.impl.state.captureFtm b)))
  | .retrieve => inferInstanceAs (Decidable (∀ k ∈ c.impl.retrieveCopies,
      InBlock k.src k.len c.impl.callbackData.buffData.size))
  | .setWidth _ | .setHeight _ | .setCaptureSize _ _ | .setFormat _ | .openCamera _ _
  | .setSensorMode _ | .setFrameRate _ | .set _ _ | .setUserCallback _ | .startCapture _
  | .grab | .release | .control _ => isTrue trivial

instance (c : Camera) : Decidable c.Readable := inferInstanceAs (Decidable (_ → _))

/-- The advertised size is at most the stored one, and the padded frame at
    most the delivered one. -/
structure Camera.Bounded (c : Camera) : Prop where
  detached : c.Detached
  stored : c.impl.callbackData.buffData.size = 0 ∨
    c.impl.getImageBufferSize ≤ c.impl.callbackData.buffData.size
  opened : c.impl.isOpened = true →
    c.Covers c.impl.state.width c.impl.state.height c.impl.state.captureFtm

theorem getImageTypeSize_le (w h : Nat) (fmt : RaspicamFormat) :
    getImageTypeSize w h fmt ≤ typeSize w h fmt := by
  have hhalf := Nat.div_le_div_right (c := 2) (u32_le (w / 2 * h))
  cases fmt with
  | yuv420 =>
      refine Nat.le_trans (u32_le _) ?_
      simp only [typeSize]
      omega
  | gray => exact u32_le _
  | bgr =>
      refine Nat.le_trans (u32_le _) ?_
      rw [typeSize, Nat.mul_assoc]
  | rgb =>
      refine Nat.le_trans (u32_le _) ?_
      rw [typeSize, Nat.mul_assoc]
  | ignore => exact Nat.le_refl 0

theorem typeSize_mono {w w' h h' : Nat} (hw : w ≤ w') (hh : h ≤ h') (fmt : RaspicamFormat) :
    typeSize w h fmt ≤ typeSize w' h' fmt := by
  have hpix := Nat.mul_le_mul hw hh
  have hhalf : w / 2 * h / 2 ≤ w' / 2 * h' / 2 :=
    Nat.div_le_div_right (Nat.mul_le_mul (Nat.div_le_div_right hw) hh)
  cases fmt <;> simp only [typeSize] <;> omega

/-- The advertised size of a padded frame fits in it. -/
theorem advertised_le_paddedLength (w h : Nat) (fmt : RaspicamFormat) :
    getImageTypeSize (u32 w) (u32 h) fmt ≤ paddedLength w h fmt := by
  calc getImageTypeSize (u32 w) (u32 h) fmt ≤ typeSize (u32 w) (u32 h) fmt :=
        getImageTypeSize_le _ _ _
    _ ≤ typeSize w h fmt := typeSize_mono (u32_le w) (u32_le h) fmt
    _ ≤ paddedLength w h fmt := typeSize_le_paddedLength w h fmt

theorem padded_pixels_le (w h : Nat) (fmt : RaspicamFormat) :
    bufferWidth w * bufferHeight h ≤ paddedLength w h fmt := by
  cases fmt <;> simp only [paddedLength] <;> omega

theorem pixels_le_padded (w h : Nat) (fmt : RaspicamFormat) : w * h ≤ paddedLength w h fmt :=
  Nat.le_trans (pixels_le_plane w h) (padded_pixels_le w h fmt)

/-- A frame without rows is not copied anywhere. -/
theorem planeCopies_zero (w : Nat) (fmt : RaspicamFormat) : planeCopies w (0 : Nat) fmt = [] := by
  have huv : uvCopies w (0 : Nat) = [] := by
    simp only [uvCopies, tdiv_two, Int.toNat_natCast, Nat.zero_div, List.range_zero, List.map_nil]
    rfl
  unfold planeCopies rowCopies
  rw [huv, Int.toNat_natCast, List.range_zero, List.map_nil, List.nil_append, ite_self]

/-- A frame with rows is as wide as it is long. -/
theorem bufferWidth_lt {w h : Nat} {fmt : RaspicamFormat} (hh : 1 ≤ h)
    (hfit : paddedLength w h fmt < 2147483648) : bufferWidth w < 2147483648 := by
  have hwidth := bufferWidth_le_plane (w := w) hh fmt
  have hplane := plane_le_paddedLength w h fmt
  omega

/-- The advertised size of a frame that fits in an `int`. -/
theorem advertised_eq_typeSize {w h : Nat} {fmt : RaspicamFormat} (hw : 1 ≤ w) (hh : 1 ≤ h)
    (hfit : paddedLength w h fmt < 2147483648) :
    getImageTypeSize (u32 w) (u32 h) fmt = typeSize w h fmt := by
  have hpixels := pixels_le_padded w h fmt
  have hwle : w ≤ w * h := Nat.le_mul_of_pos_right w hh
  have hhle : h ≤ w * h := Nat.le_mul_of_pos_left h hw
  have hsize := typeSize_le_paddedLength w h fmt
  rw [u32_of_range (x := w) (by omega), u32_of_range (x := h) (by omega)]
  exact getImageTypeSize_eq (by omega)

/-- When a frame that can be taken apart is delivered whole, every access of
    the callback is in range. -/
theorem frameCopies_inRange {w h : Int} {fmt : RaspicamFormat} {b : Buffer}
    (hst : Storable w h fmt) (hlen : paddedLength w.toNat h.toNat fmt ≤ b.length) :
    ∀ k ∈ frameCopies w h fmt b,
      InBlock k.src k.len b.length ∧ InBlock k.dst k.len (frameSize w h fmt b) := by
  rcases hst with ⟨hw, hh, hfit, hignore⟩
  rcases Int.eq_ofNat_of_zero_le hw with ⟨w, rfl⟩
  rcases Int.eq_ofNat_of_zero_le hh with ⟨h, rfl⟩
  simp only [Int.toNat_natCast] at hfit hignore hlen
  unfold frameCopies frameSize
  -- A frame whose width needs no padding is copied in one piece.
  by_cases hraw : isRaw (w : Int) = true
  · simp only [if_pos hraw]
    intro k hk
    rw [List.mem_singleton.mp hk]
    exact ⟨fun hne => by simp only at hne ⊢; omega, fun hne => by simp only at hne ⊢; omega⟩
  simp only [if_neg hraw]
  -- Without rows nothing is copied. With rows the lines are inside the image.
  rcases Nat.eq_zero_or_pos h with rfl | hpos
  · rw [planeCopies_zero]
    exact fun k hk => absurd hk List.not_mem_nil
  have hw1 : 1 ≤ w := by
    rcases Nat.eq_zero_or_pos w with rfl | hw1
    · exact absurd rfl hraw
    · exact hw1
  have hwidth := bufferWidth_lt hpos hfit
  have hfmt : fmt ≠ .ignore := fun hy => hraw ((isRaw_iff hwidth).mpr (hignore hy))
  have hplane := plane_le_paddedLength w h fmt
  rw [advertised_eq_typeSize hw1 hpos hfit]
  exact fun k hk => ⟨planeCopies_reads hw1 hpos (by omega) hlen k hk,
    planeCopies_writes hw1 hpos hfmt (by omega) k hk⟩

/-- What is stored of a frame that is delivered whole covers what is
    advertised. -/
theorem advertised_le_frameSize {w h : Int} {fmt : RaspicamFormat} {b : Buffer}
    (hst : Storable w h fmt) (hlen : paddedLength w.toNat h.toNat fmt ≤ b.length) :
    getImageTypeSize (u32 w) (u32 h) fmt ≤ frameSize w h fmt b := by
  unfold frameSize
  by_cases hraw : isRaw w = true
  · rw [if_pos hraw]
    have hadvertised := advertised_le_paddedLength w.toNat h.toNat fmt
    rw [Int.toNat_of_nonneg hst.1, Int.toNat_of_nonneg hst.2.1] at hadvertised
    omega
  · rw [if_neg hraw]

/-- A camera opened for a frame that can be taken apart delivers it whole. -/
theorem paddedLength_le_frameLength {s : RaspividState} {fixed : Bool} {f : EsFormat}
    (hst : Storable s.width s.height s.captureFtm) :
    paddedLength s.width.toNat s.height.toNat s.captureFtm
      ≤ frameLength (videoFormat s fixed f) := by
  rcases hst with ⟨hw, hh, hfit, _⟩
  rcases Int.eq_ofNat_of_zero_le hw with ⟨w, hws⟩
  rcases Int.eq_ofNat_of_zero_le hh with ⟨h, hhs⟩
  have hlength : frameLength (videoFormat s fixed f)
      = if s.captureFtm = .rgb ∨ s.captureFtm = .bgr then
          3 * (u32 (vcosAlignUp w 32) * u32 (vcosAlignUp h 16))
        else u32 (vcosAlignUp w 32) * u32 (vcosAlignUp h 16)
          + 2 * (u32 (vcosAlignUp w 32) / 2 * (u32 (vcosAlignUp h 16) / 2)) := by
    unfold frameLength videoFormat
    rw [hws, hhs]
    cases s.captureFtm <;> cases fixed <;> rfl
  rw [hws, hhs, Int.toNat_natCast, Int.toNat_natCast] at hfit ⊢
  have hpixels := pixels_le_padded w h s.captureFtm
  rcases Nat.eq_zero_or_pos (bufferWidth w * bufferHeight h) with hzero | hpos
  · -- Without pixels nothing has to be delivered.
    have hempty : paddedLength w h s.captureFtm = 0 := by
      have hhalf : bufferWidth w / 2 * (bufferHeight h / 2) ≤ bufferWidth w * bufferHeight h :=
        Nat.mul_le_mul (by omega) (by omega)
      unfold paddedLength
      cases s.captureFtm <;> simp only <;> omega
    omega
  · have hW : bufferWidth w ≤ bufferWidth w * bufferHeight h :=
      Nat.le_mul_of_pos_right _ (Nat.pos_of_mul_pos_left hpos)
    have hH : bufferHeight h ≤ bufferWidth w * bufferHeight h :=
      Nat.le_mul_of_pos_left _ (Nat.pos_of_mul_pos_right hpos)
    have hplane := padded_pixels_le w h s.captureFtm
    rw [hlength, vcosAlignUp_width (by omega), vcosAlignUp_height (by omega),
      u32_of_range (x := bufferWidth w) (by omega), u32_of_range (x := bufferHeight h) (by omega)]
    unfold paddedLength
    cases s.captureFtm <;> exact Nat.le_refl _

theorem Camera.Bounded.follows {c c' : Camera} (h : c.Bounded) (hf : c.Follows c') :
    c'.Bounded := by
  refine ⟨hf.detached h.detached, ?_, fun ho => ?_⟩
  · simp only [PrivateImpl.getImageBufferSize, PrivateImpl.imageTypeSize, PrivateImpl.getWidth,
      PrivateImpl.getHeight, PrivateImpl.getFormat, hf.store.width, hf.store.height,
      hf.store.captureFtm, hf.store.buffData]
    exact h.stored
  · rcases hf.opened ho with ⟨ho', hfmt⟩
    rw [hf.store.width, hf.store.height, hf.store.captureFtm]
    rcases h.opened ho' with ⟨hst, hcov⟩
    exact ⟨hst, fun f hfm => hcov f (hfmt ▸ hfm)⟩

/-- Recording a new size or format that the camera admits. -/
theorem Camera.Bounded.admits {c : Camera} {s : RaspividState} (h : c.Bounded)
    (hs : s.cameraComponent = c.impl.state.cameraComponent)
    (ha : c.Admits s.width s.height s.captureFtm) : (c.record s).Bounded := by
  refine ⟨fun hc => hs.trans (h.detached hc), ?_, fun ho => ?_⟩
  · rcases ha.1 with hzero | hle
    · exact Or.inl hzero
    · exact Or.inr (Nat.le_trans (getImageTypeSize_le _ _ _) hle)
  · rcases ha.2 ho with ⟨hst, hcov⟩
    refine ⟨hst, fun f hfm => hcov f ?_⟩
    rw [Camera.committedFormat, ← hs]
    exact hfm

/-- Opening the camera for a frame that can be taken apart. -/
theorem Camera.Bounded.opens {c c' : Camera} {fixed : Bool} {f : EsFormat} (hb : c.Bounded)
    (hg : c.impl.isOpened = false →
      Storable c.impl.state.width c.impl.state.height c.impl.state.captureFtm)
    (hstore : c.impl.SameStore c'.impl) (hdetached : c'.Detached)
    (hopen : c'.impl.isOpened = true →
      c.impl.isOpened = true ∧ c'.committedFormat = c.committedFormat ∨
      c'.committedFormat = some (videoFormat c.impl.state fixed f)) : c'.Bounded := by
  -- An open camera stays as it is, and a closed one is only opened for such a frame.
  have hst : Storable c.impl.state.width c.impl.state.height c.impl.state.captureFtm := by
    cases ho : c.impl.isOpened with
    | false => exact hg ho
    | true => exact (hb.opened ho).1
  -- What was stored before stays, and so does the size it was stored for.
  refine ⟨hdetached, ?_, fun ho => ?_⟩
  · simp only [PrivateImpl.getImageBufferSize, PrivateImpl.imageTypeSize, PrivateImpl.getWidth,
      PrivateImpl.getHeight, PrivateImpl.getFormat, hstore.width, hstore.height,
      hstore.captureFtm, hstore.buffData]
    exact hb.stored
  · rw [hstore.width, hstore.height, hstore.captureFtm]
    refine ⟨hst, fun g hg => ?_⟩
    rcases hopen ho with ⟨ho', hfmt⟩ | hfmt
    · exact (hb.opened ho').2 g (hfmt ▸ hg)
    · rw [hfmt, Option.mem_some_iff] at hg
      exact hg ▸ paddedLength_le_frameLength hst

/-- A frame that is kept is delivered whole. -/
theorem Camera.Bounded.delivered {c : Camera} {b : Buffer} (hb : c.Bounded)
    (hd : c.delivers b = true) (hk : c.impl.callbackData.wantsFrame b = true) :
    c.Covers c.impl.state.width c.impl.state.height c.impl.state.captureFtm ∧
      paddedLength c.impl.state.width.toNat c.impl.state.height.toNat c.impl.state.captureFtm
        ≤ b.length := by
  rcases delivers_iff.mp hd with ⟨h, f, hcam, _, hf, hlen⟩
  -- Only an attached component delivers frames, and a closed camera has none.
  have hopen : c.impl.isOpened = true := by
    cases ho : c.impl.isOpened with
    | true => rfl
    | false => exact absurd (hcam.symm.trans (hb.detached ho)) (Option.some_ne_none h)
  have hne : b.length ≠ 0 := by
    simp only [PortUserdata.wantsFrame, Bool.and_eq_true, decide_eq_true_eq] at hk
    exact hk.1
  have hcovers := hb.opened hopen
  refine ⟨hcovers, ?_⟩
  rw [hlen.resolve_left hne]
  refine hcovers.2 f ?_
  rw [Camera.committedFormat, hcam]
  exact hf

/-- Keeping a frame. -/
theorem Camera.Bounded.framed {c c' : Camera} {b : Buffer} {fresh : Nat → UInt8} (hb : c.Bounded)
    (hd : c.delivers b = true)
    (himpl : c'.impl = if c.impl.callbackData.wantsFrame b then c.impl.keepFrame b fresh
      else c.impl)
    (hworld : c'.world.forgetParams = c.world.forgetParams) : c'.Bounded := by
  have hcam : c'.impl.state.cameraComponent = c.impl.state.cameraComponent := by
    rw [himpl]
    split <;> rfl
  have hfmt := committedFormat_congr hcam hworld
  -- The callback's size replaces the old one, and it covers what is advertised.
  by_cases hk : c.impl.callbackData.wantsFrame b = true
  · rw [if_pos hk] at himpl
    rcases hb.delivered hd hk with ⟨hcovers, hlen⟩
    refine ⟨?_, ?_, ?_⟩
    · intro hc
      rw [himpl] at hc
      exact hcam.trans (hb.detached hc)
    · refine Or.inr ?_
      rw [himpl]
      simp only [PrivateImpl.keepFrame, storeFrame_size]
      exact advertised_le_frameSize hcovers.1 hlen
    · intro _
      rw [himpl]
      exact ⟨hcovers.1, fun g hg => hcovers.2 g (hfmt ▸ hg)⟩
  · rw [if_neg hk] at himpl
    refine ⟨fun hc => hcam.trans (hb.detached (himpl ▸ hc)), himpl ▸ hb.stored, fun ho => ?_⟩
    rw [himpl] at ho ⊢
    exact ⟨(hb.opened ho).1, fun g hg => (hb.opened ho).2 g (hfmt ▸ hg)⟩

/-- A guarded operation keeps the invariant. -/
theorem bounded_step (c : Camera) (o : Op) (c' : Camera) (hb : c.Bounded) (hg : o.Guarded c)
    (hstep : step c o = some c') : c'.Bounded := by
  rcases step_ok hstep with ⟨hen, hx⟩
  cases o with
  | setWidth width =>
      rw [← Except.ok.inj hx]
      exact hb.admits rfl hg
  | setHeight height =>
      rw [← Except.ok.inj hx]
      exact hb.admits rfl hg
  | setCaptureSize width height =>
      rw [← Except.ok.inj hx, setCaptureSize_eq]
      exact hb.admits rfl hg
  | setFormat fmt =>
      rw [← Except.ok.inj hx]
      unfold setFormat
      by_cases ho : c.impl.isOpened = true
      · rw [if_pos ho]
        exact hb
      · rw [if_neg ho]
        exact hb.admits rfl (hg (Bool.eq_false_iff.mpr ho))
  | setSensorMode mode =>
      rw [← Except.ok.inj hx]
      unfold setSensorMode
      by_cases ho : c.impl.isOpened = true
      · rw [if_pos ho]
        exact hb
      · rw [if_neg ho]
        refine ⟨hb.detached, hb.stored, hb.opened⟩
  | setFrameRate framesPerSecond =>
      rw [← Except.ok.inj hx]
      exact ⟨hb.detached, hb.stored, hb.opened⟩
  | set x r => exact hb.follows (Setting.apply_keeps hx).follows
  | setUserCallback userCallback =>
      rw [← Except.ok.inj hx]
      exact ⟨hb.detached, hb.stored, hb.opened⟩
  | openCamera startCapturing out =>
      rcases bind_ok hx with ⟨⟨b, d⟩, hd, hx⟩
      rw [← Except.ok.inj hx]
      rcases openCamera_ok hd with ⟨hstore, hdetached, hopen⟩
      exact hb.opens hg hstore (hdetached hb.detached) hopen
  | startCapture r =>
      rcases bind_ok hx with ⟨⟨b, d⟩, hd, hx⟩
      rw [← Except.ok.inj hx]
      exact hb.follows (startCapture_follows hd)
  | grab =>
      rw [← Except.ok.inj hx]
      exact hb.follows (grab_follows c)
  | release => exact hb.follows (release_follows hx)
  | retrieve =>
      rw [← Except.ok.inj hx]
      exact hb
  | frame b fresh r =>
      rcases bind_ok hx with ⟨camera, _, hx⟩
      rcases bind_ok hx with ⟨⟨grabbed, d⟩, hd, hx⟩
      rw [← Except.ok.inj hx]
      rcases videoBufferCallback_ok hd with ⟨rfl, himpl, hworld⟩
      exact hb.framed hen himpl hworld
  | control e =>
      rw [← Except.ok.inj hx]
      cases e <;> exact ⟨hb.detached, hb.stored, hb.opened⟩

/-- In a bounded state every operation keeps to the memory it may access. -/
theorem Camera.Bounded.inRange {c : Camera} {o : Op} (hb : c.Bounded)
    (hen : o.enabled c = true) : o.InRange c := by
  cases o with
  | frame b fresh r =>
      intro hk
      rcases hb.delivered hen hk with ⟨hcovers, hlen⟩
      exact frameCopies_inRange hcovers.1 hlen
  | retrieve =>
      intro k hk
      unfold PrivateImpl.retrieveCopies at hk
      by_cases hzero : c.impl.callbackData.buffData.size = 0
      · rw [if_pos hzero] at hk
        exact absurd hk List.not_mem_nil
      · rw [if_neg hzero] at hk
        rw [List.mem_singleton.mp hk]
        -- `retrieve` copies as much as is advertised at that moment.
        have hle := hb.stored.resolve_left hzero
        unfold PrivateImpl.getImageBufferSize PrivateImpl.getFormat at hle
        intro hne
        simp only at hne ⊢
        omega
  | _ => trivial

theorem bounded_init : Camera.init.Bounded :=
  ⟨fun _ => rfl, Or.inl rfl, fun ho => absurd ho Bool.false_ne_true⟩

/-- Every access to image memory is in range, in every run whose operations
    are all guarded, also in an operation that faults after it. -/
theorem accesses_in_range {os : List Op} (hg : Along step (fun c o => o.Guarded c) Camera.init os) :
    Throughout step (fun c o => o.enabled c = true → o.InRange c) Camera.init os ∧
      Always step Camera.Readable Camera.init os := by
  have hb := always_of_along bounded_step bounded_init hg
  refine ⟨throughout_of_always (fun c o hc => hc.inRange (o := o)) hb,
    always_mono (fun c hc hne => hc.stored.resolve_left hne) hb⟩

/-- A size that needs padding, set before the camera is opened. -/
theorem accesses_in_range_padded :
    let os : List Op := [.setCaptureSize 100 50, .setFormat .yuv420, .openCamera true .allOk,
      .grab, .frame ⟨fun _ => 7, 12288⟩ (fun _ => 0) .allOk, .retrieve, .release]
    Throughout step (fun c o => o.enabled c = true → o.InRange c) Camera.init os ∧
      Always step Camera.Readable Camera.init os :=
  accesses_in_range (by decide)

/-- A width doubled after a frame was grabbed: the client reads past its
    end. -/
theorem resize_while_open_overruns :
    let os : List Op := [.openCamera true .allOk, .grab,
      .frame ⟨fun _ => 7, 3686400⟩ (fun _ => 0) .allOk, .setWidth 2560, .retrieve]
    ¬ (Throughout step (fun c o => o.enabled c = true → o.InRange c) Camera.init os ∧
      Always step Camera.Readable Camera.init os) := by
  rintro os ⟨hrange, _⟩
  exact absurd hrange (by decide)

end Video

end RaspiCam
