import RaspiCam.Still.Cv
import RaspiCam.Still.Pointers

/-!
# The Rows of a Bitmap

`RaspiCam_Still_Cv` has the encoder make a bitmap, skips the header and takes
the rest for the pixels: `retrieve` copies them into an image whose rows are
packed, unless it was passed a view with gaps between its rows. The rows of a
bitmap are not packed, they are padded to a multiple of four bytes.

So a camera that is opened with a given size, and whose calls all succeed,
shows the rows of whatever bitmap the encoder delivers exactly when no padding
comes between them, `bitmap_iff`: when the width is a multiple of four, or
there is one row only.

## Main definitions

* `rowStride`: The length of a padded row.
* `Bitmap`, `Bitmap.pixel`: A bitmap of a given size.
* `Bitmap.Delivered`: How the encoder may deliver it.
* `Shows`: An image with the rows of a bitmap.
* `EndToEnd`: What opening, grabbing and retrieving should come to.

## Theorems

* `unused_run`: What setting properties leaves alone.
* `takePicture_started`: When a picture is taken.
* `grab_opened`: What grabbing leaves in the buffer.
* `retrieve_byte`: What an image holds.
* `rows_fit_iff`: When the rows fit into the buffer.
* `bitmap_iff`: When the image has the rows of the bitmap.
* `padding_shown`: An image that has not.
-/

namespace RaspiCam

open Mmal Machine Bytes Transition

namespace Still

open Video (CapProp Mat OpenCv cv8uc3 plain_documented)

/-- The length of a row of `w` pixels in a bitmap, which is padded to a
    multiple of four bytes. -/
def rowStride (w : Nat) : Nat := (3 * w + 3) / 4 * 4

/-- A bitmap of 24 bits a pixel, of width `n.1` and height `n.2`: the header,
    and the padded rows one after another. -/
structure Bitmap (n : Nat × Nat) where
  header : List UInt8
  rows : List UInt8
  header_length : header.length = 54
  rows_length : rows.length = n.2 * rowStride n.1

/-- Byte `k` of row `r`. The pixels are the first `3 * n.1` bytes of a row. -/
def Bitmap.pixel {n : Nat × Nat} (b : Bitmap n) (r k : Nat) : UInt8 :=
  b.rows.getD (r * rowStride n.1 + k) 0

/-- The encoder delivers the bitmap, cut in any way, and the last buffer is the
    one that ends the frame. -/
structure Bitmap.Delivered {n : Nat × Nat} (b : Bitmap n) (bs : List EncoderBuffer) : Prop where
  bytes : bytes bs = b.header ++ b.rows
  ends : ∃ init last, bs = init ++ [last] ∧ last.frameEnd = true ∧ ∀ x ∈ init, x.ends = false

/-- The image has the rows of the bitmap. -/
structure Shows {n : Nat × Nat} (b : Bitmap n) (image : Mat) : Prop where
  rows : image.rows = n.2
  cols : image.cols = n.1
  type : image.type = cv8uc3
  pixels : ∀ r < n.2, ∀ k < 3 * n.1, image.data (r * image.step + k) = b.pixel r k

/-- Opening, grabbing and retrieving: the rows fit into a buffer of the size
    that is asked for, the picture is taken, and any image has the rows that is
    no view with gaps. -/
def EndToEnd (lib : OpenCv) (pf : Platform) (s : CvSession) (o : InitOutcome) (r : SetResults)
    (g : GrabOutcome) (b : Bitmap s.cv.camera.impl.size) : Prop :=
  b.rows.length ≤ s.cv.camera.impl.getImageBufferSize ∧
  ∃ s₁ s₂ t, cvStep pf s (.openCamera o r) = some s₁ ∧ cvStep pf s₁ (.grab g) = some s₂ ∧
    s₂.taken = some t ∧ t.result = true ∧
    ∀ image fresh, ¬ s₂.cv.Gapped lib image →
      ∃ shown, s₂.cv.retrieve lib image fresh = some shown ∧ Shows b shown

/-- The operation sets a property. -/
def CvOp.Sets : CvOp → Prop
  | .set _ _ => True
  | _ => False

/-- The wrapper before it was opened or used: only settings differ from a fresh
    one. -/
structure Unused (s : CvSession) : Prop where
  anew : s.cv.camera = ⟨s.cv.camera.impl.anew, World.empty⟩
  encoding : s.cv.camera.impl.encoding = .rgb
  imageBuffer : s.cv.imageBuffer = none

/-- A setter of a fresh object leaves it fresh, and the encoding alone. -/
def SetsOnly (f : PrivateImplStill → PrivateImplStill) : Prop :=
  ∀ p, (f p.anew).anew = f p.anew ∧ (f p).encoding = p.encoding

/-- What setting a property does: nothing, or it calls a setter. -/
theorem set_camera (pf : Platform) (propId : CapProp) (value : Double) (v : RaspiCamStillCv) :
    (v.set pf propId value).2.camera = v.camera ∨
      ∃ f, SetsOnly f ∧ (v.set pf propId value).2.camera = v.camera.onImpl f := by
  unfold RaspiCamStillCv.set
  cases propId with
  | frameWidth =>
      by_cases h : value ≠ .finite v.camera.impl.width
      · rw [if_pos h]
        exact Or.inr ⟨fun p => setWidth p (toUnsigned pf value), fun p => ⟨rfl, rfl⟩, rfl⟩
      · rw [if_neg h]
        exact Or.inl rfl
  | frameHeight =>
      by_cases h : value ≠ .finite v.camera.impl.height
      · rw [if_pos h]
        exact Or.inr ⟨fun p => setHeight p (toUnsigned pf value), fun p => ⟨rfl, rfl⟩, rfl⟩
      · rw [if_neg h]
        exact Or.inl rfl
  | brightness =>
      exact Or.inr ⟨fun p => setBrightness p (toUnsigned pf value), fun p => ⟨rfl, rfl⟩, rfl⟩
  | contrast => exact Or.inr ⟨fun p => setContrast p _, fun p => ⟨rfl, rfl⟩, rfl⟩
  | saturation => exact Or.inr ⟨fun p => setSaturation p _, fun p => ⟨rfl, rfl⟩, rfl⟩
  | gain => exact Or.inr ⟨fun p => setIso p _, fun p => ⟨rfl, rfl⟩, rfl⟩
  | _ => exact Or.inl rfl

theorem unused_step (pf : Platform) (s : CvSession) (l : CvOp) (s' : CvSession) (hs : Unused s)
    (hl : l.Sets) (hstep : cvStep pf s l = some s') : Unused s' := by
  cases l with
  | openCamera o r => exact absurd hl id
  | grab g => exact absurd hl id
  | retrieve image fresh => exact absurd hl id
  | set propId value =>
      rw [← Option.some.inj hstep]
      have hbuffer : (s.cv.set pf propId value).2.imageBuffer = none := by
        rcases (set_keeps pf propId value s.cv).2 with hnone | ⟨hsame, _⟩
        · exact hnone
        · exact hsame.trans hs.imageBuffer
      rcases set_camera pf propId value s.cv with hsame | ⟨f, hf, hset⟩
      · exact ⟨by rw [hsame]; exact hs.anew, by rw [hsame]; exact hs.encoding, hbuffer⟩
      · refine ⟨?_, by rw [hset]; exact (hf _).2.trans hs.encoding, hbuffer⟩
        rw [hset, hs.anew]
        simp only [StillCamera.onImpl, (hf s.cv.camera.impl).1]

theorem unused_run {pf : Platform} {ls : List CvOp} {s : CvSession} (hls : ∀ l ∈ ls, l.Sets)
    (hrun : run (cvStep pf) .init ls = some s) : Unused s :=
  run_invariant_along (unused_step pf) ⟨rfl, rfl, rfl⟩ (along_of_forall fun l hl _ => hls l hl) hrun

/-- A capture is started when the port is not enabled yet and the calls
    succeed. -/
theorem startCapture_started {c c' : StillCamera} {h e : Handle} {r : SetResults} {b : Bool}
    (ha : Attached c h e) (hflag : c.impl.changedSettings = false)
    (hport : c.world.portEnabled e (.output 0) = false) (hr : r.AllOk)
    (hstart : startCapture true r c = .ok (b, c')) : b = true := by
  rcases bind_ok hstart with ⟨d, hd, hstart⟩
  rw [commitParameters_unchanged hflag, Except.ok.injEq] at hd
  subst hd
  rcases bind_ok hstart with ⟨port, hp, hstart⟩
  rcases usePort_ok hp with ⟨hp, _⟩
  rw [ha.encoderOutputPort, Option.some.injEq] at hp
  subst hp
  rw [if_neg (by rw [hport]; decide), if_neg (by decide)] at hstart
  rcases bind_ok hstart with ⟨_, _, hstart⟩
  rcases bind_ok hstart with ⟨⟨captured, w⟩, hw, hstart⟩
  rw [← (Prod.mk.inj (Except.ok.inj hstart)).1]
  simp only [setOn, StillCamera.onWorld, ha.cameraStillPort] at hw
  rcases bind_ok hw with ⟨_, _, hw⟩
  rw [← (Prod.mk.inj (Except.ok.inj hw)).1]
  exact hr.1 _ _

/-- An object that is attached, has nothing to commit and whose port is not
    enabled takes a picture when the calls succeed. -/
theorem takePicture_started {c : StillCamera} {h e : Handle} {r : SetResults}
    {q : PictureOutcome} (o : InitOutcome) (hinit : c.impl.isInitialized = true)
    (ha : Attached c h e) (hflag : c.impl.changedSettings = false)
    (hport : c.world.portEnabled e (.output 0) = false) (hr : r.AllOk)
    (hq : q.portEnable = true) : ∃ d, takePicture o q r c = .ok (true, d) := by
  rcases takePicture_total (initializeCamera_initialized (o := o) (r := r) hinit) ha q with
    ⟨⟨b, d⟩, hd⟩
  refine ⟨d, ?_⟩
  have htaken := hd
  rcases bind_ok hd with ⟨⟨_, c₁⟩, h1, hd⟩
  rw [initializeCamera_initialized hinit, Except.ok.injEq, Prod.mk.injEq] at h1
  rcases h1 with ⟨rfl, rfl⟩
  rcases bind_ok hd with ⟨port, hp, hd⟩
  rcases usePort_ok hp with ⟨hp, _⟩
  rw [ha.encoderOutputPort, Option.some.injEq] at hp
  subst hp
  rcases bind_ok hd with ⟨⟨started, f⟩, hf, hd⟩
  rw [hq] at hf
  -- Setting the user data does not enable the port.
  have hstarted := startCapture_started
    (ha.sameDevice (sameDevice_setUserdata c e (.output 0) (some q.userdata))) hflag
    ((World.portEnabled_setUserdata _ _ _ _ _ _).trans hport) hr hf
  subst hstarted
  simp only [Bool.true_eq_false, if_false] at hd
  rcases bind_ok hd with ⟨_, _, hd⟩
  rw [htaken, ← (Prod.mk.inj (Except.ok.inj hd)).1]

/-- Opening an unused wrapper when every call succeeds: it is ready to take
    pictures. -/
structure Opened (s s₁ : CvSession) : Prop where
  anew : s₁.cv.camera.impl.anew = s.cv.camera.impl.anew
  imageBuffer : s₁.cv.imageBuffer = none
  starts : ∀ o q r, q.portEnable = true → SetResults.AllOk r →
    ∃ d, takePicture o q r s₁.cv.camera = .ok (true, d)

theorem Unused.openCamera {s : CvSession} (hs : Unused s) (pf : Platform) {o : InitOutcome}
    {r : SetResults} (ho : o.AllOk) (hr : r.AllOk) :
    ∃ s₁, cvStep pf s (.openCamera o r) = some s₁ ∧ Opened s s₁ := by
  rcases first_allOk s.cv.camera.impl ho hr with ⟨d, hd, hanew, hconfig⟩
  rw [← hs.anew] at hd
  refine ⟨{ s with cv := { s.cv with camera := d, isOpened := true } }, ?_, hanew, hs.imageBuffer,
    fun o' q r' hq hr' => ?_⟩
  · simp only [cvStep, RaspiCamStillCv.openCamera, hd, ok_bind]
    rfl
  · have hinit : s.cv.camera.impl.isInitialized = false := by rw [hs.anew]; rfl
    have hres := initializeCamera_ok hinit hd
    rcases hres.setUp with ⟨hfalse, _⟩ | ⟨h, e, ha, hflag, _⟩
    · exact absurd hfalse.symm Bool.false_ne_true
    -- The encoder was just created, so its port is not enabled.
    have hencoder : d.world.components[e]? = some (configuredEncoder o s.cv.camera.impl.anew) := by
      have hconfig := congrArg Configuration.encoder hconfig
      simp only [configuration, ha.encoder, Option.bind_some] at hconfig
      exact hconfig
    have hport : d.world.portEnabled e (.output 0) = false := by
      simp only [World.portEnabled, hencoder]
      rfl
    exact takePicture_started o' hres.isInitialized ha hflag hport hr' hq

/-- A new buffer for an image of size `n`, and the capture into it. -/
def captureInto (n : Nat × Nat) (g : GrabOutcome) : List Completion × RaspicamUserdata :=
  collect .rgb g.buffers (.forPicture g.fresh (UInt32.ofNat (imageBufferSize n)))

/-- The call of `takePicture` that made this capture. -/
def takenInto (n : Nat × Nat) (g : GrabOutcome) (number : Nat) : Taken where
  result := true
  size := n
  buffer := ⟨number, imageBufferSize n, (captureInto n g).2.data⟩
  length := UInt32.ofNat (imageBufferSize n)

/-- What grabbing leaves: nothing as long as no buffer ended the image, and
    else what the callback stored. -/
theorem grab_opened {s s₁ : CvSession} (h : Opened s s₁) (henc : s.cv.camera.impl.encoding = .rgb)
    {g : GrabOutcome} (hg : g.AllOk) (number : Nat) : ∃ c,
    c.impl.anew = s.cv.camera.impl.anew ∧
    s₁.cv.grab g number =
      if (captureInto s.cv.camera.impl.size g).1 = [] then none
      else some (takenInto s.cv.camera.impl.size g number,
        { s₁.cv with
          camera := c
          imageBuffer := some (takenInto s.cv.camera.impl.size g number).buffer
          isGrabbed := true }) := by
  rcases h.starts g.init g.picture g.settings hg.portEnable hg.settings with ⟨c, hc⟩
  have hsize := size_anew h.anew
  have henc' : s₁.cv.camera.impl.encoding = .rgb :=
    (congrArg PrivateImplStill.encoding h.anew :).trans henc
  refine ⟨c, (takePicture_anew hc).trans h.anew, ?_⟩
  simp only [RaspiCamStillCv.grab, RaspiCamStillCv.arguments, h.imageBuffer, takePictureInto, hc,
    PrivateImplStill.getImageBufferSize, hsize, henc', Except.toOption, Option.bind_eq_bind,
    Option.bind_some, pictureResult, Bool.true_eq_false, if_false]
  by_cases hpost : (captureInto s.cv.camera.impl.size g).1 = []
  · rw [if_pos hpost]
    unfold captureInto at hpost
    rw [if_pos hpost]
    rfl
  · rw [if_neg hpost]
    unfold captureInto at hpost
    rw [if_neg hpost]
    rfl

section

variable {n : Nat × Nat} {b : Bitmap n} {g : GrabOutcome}

/-- The size of a row with its padding. -/
theorem rowStride_bounds (w : Nat) :
    3 * w ≤ rowStride w ∧ rowStride w ≤ 3 * w + 3 ∧ (rowStride w = 3 * w ↔ w % 4 = 0) := by
  unfold rowStride
  omega

/-- With its padding, a bitmap is at most twice as long as without. -/
theorem rows_length_le (hw : 1 ≤ n.1) (b : Bitmap n) : b.rows.length ≤ 2 * (n.1 * n.2 * 3) := by
  rw [b.rows_length]
  calc n.2 * rowStride n.1 ≤ n.2 * (6 * n.1) :=
        Nat.mul_le_mul_left _ (by have := (rowStride_bounds n.1).2.1; omega)
    _ = 6 * (n.1 * n.2) := by rw [Nat.mul_left_comm, Nat.mul_comm n.2]
    _ = 2 * (n.1 * n.2 * 3) := by omega

theorem delivered_payload (hb : b.Delivered g.buffers) :
    streamPayload .rgb (bytes g.buffers) = b.rows := by
  rw [hb.bytes, streamPayload, if_pos rfl, ← b.header_length, List.drop_left]

theorem delivered_length (hw : 1 ≤ n.1) (hsize : 3 * n.1 * n.2 + 54 < 2147483648)
    (hb : b.Delivered g.buffers) : (bytes g.buffers).length < 4294967296 := by
  have hrows := rows_length_le hw b
  rw [Nat.mul_assoc] at hsize
  rw [hb.bytes, List.length_append, b.header_length]
  omega

/-- The buffer holds as much of the rows as fits. -/
theorem capture_data (hw : 1 ≤ n.1) (hsize : 3 * n.1 * n.2 + 54 < 2147483648)
    (hb : b.Delivered g.buffers) {i : Nat} (hi : i < b.rows.length)
    (hroom : i < imageBufferSize n) : (captureInto n g).2.data i = b.rows.getD i 0 := by
  have hstart : Streamed .rgb g.fresh 0 (UInt32.ofNat (imageBufferSize n)).toNat []
      (.starting true g.fresh 0 (UInt32.ofNat (imageBufferSize n))) := streamed_starting true 0 _
  rw [toNat_imageBufferSize] at hstart
  have hstream := hstart.collect (Nat.mod_lt _ (by decide)) g.buffers
    (delivered_length hw hsize hb)
  rw [List.nil_append] at hstream
  have hkept : kept .rgb 0 (imageBufferSize n) (bytes g.buffers)
      = b.rows.take (imageBufferSize n) := by
    rw [kept, delivered_payload hb, Nat.sub_zero]
  have hget : i < (b.rows.take (imageBufferSize n)).length := by
    rw [List.length_take]
    omega
  rw [captureInto, RaspicamUserdata.forPicture_eq, hstream.data, hkept]
  have hat := overlay_get g.fresh 0 hget
  rw [Nat.zero_add] at hat
  rw [hat, List.getElem_take, List.getD_eq_getElem?_getD, List.getElem?_eq_getElem hi,
    Option.getD_some]

/-- When the rows fit, the image ends once. -/
theorem capture_completes (hb : b.Delivered g.buffers) (hfits : b.rows.length ≤ imageBufferSize n)
    (hw : 1 ≤ n.1) (hsize : 3 * n.1 * n.2 + 54 < 2147483648) :
    (captureInto n g).1 = [.semPost] := by
  rcases hb.ends with ⟨init, last, hbs, hlast, hinit⟩
  have hends : last.ends = true := by rw [last.ends_eq, hlast, Bool.true_or]
  have htotal : (bytes g.buffers).length = 54 + b.rows.length := by
    rw [hb.bytes, List.length_append, b.header_length]
  have hsum : (init.map fun b => b.data.length).sum ≤ 54 + b.rows.length := by
    rw [← htotal, hbs, bytes, List.flatMap_append, List.length_append, List.length_flatMap]
    exact Nat.le_add_right _ _
  have hpositive : 0 < imageBufferSize n := by
    rw [imageBufferSize_eq hsize]
    exact Nat.succ_pos _
  rw [captureInto, hbs]
  refine (completes_once_of_last .rgb g.fresh _ init hends hinit).mpr ?_
  -- Only what comes behind the header takes room.
  rw [toNat_imageBufferSize, fits_iff]
  intro i hi
  rw [payload_rgb (by have := rows_length_le hw b; rw [Nat.mul_assoc] at hsize; omega)]
  omega

end

/-- What an image holds after `retrieve`: every byte of the image comes from the
    same place of the buffer, and there are no gaps. -/
structure Whole (v : RaspiCamStillCv) (data : Nat → UInt8) (image : Mat) : Prop where
  rows : image.rows = v.camera.impl.height
  cols : image.cols = v.camera.impl.width
  type : image.type = cv8uc3
  step : image.rows = 1 ∨ image.step = 3 * v.camera.impl.width
  bytes : ∀ i < v.camera.impl.width * v.camera.impl.height * 3, image.data i = data i

theorem retrieve_byte {lib : OpenCv} (hlib : lib.Documented) {v : RaspiCamStillCv}
    {b : ImageBuffer} (hb : v.imageBuffer = some b) (hg : v.isGrabbed = true)
    (hsize : v.SizeFits) (hw : 1 ≤ v.camera.impl.width) (hh : 1 ≤ v.camera.impl.height)
    {image : Mat} (hgap : ¬ v.Gapped lib image) (fresh : Nat → UInt8) :
    ∃ shown, v.retrieve lib image fresh = some shown ∧ Whole v b.data shown := by
  have hsource : v.source = some b := by
    simp only [RaspiCamStillCv.source, hb, hg, if_true]
  have hsides := hsize.sides
  unfold RaspiCamStillCv.SizeFits at hsize
  rw [Nat.mul_assoc] at hsize
  have hwh : v.camera.impl.width ≤ v.camera.impl.width * v.camera.impl.height :=
    Nat.le_mul_of_pos_right _ hh
  have hhw : v.camera.impl.height ≤ v.camera.impl.width * v.camera.impl.height :=
    Nat.le_mul_of_pos_left _ hw
  have hwidth : i32 v.camera.impl.width = v.camera.impl.width :=
    i32_of_range (by omega) (by omega)
  have hheight : i32 v.camera.impl.height = v.camera.impl.height :=
    i32_of_range (by omega) (by omega)
  obtain ⟨m, hm⟩ : ∃ m, v.allocate lib image fresh = some m :=
    hlib.creates _ _ _ _ _ (by omega) (by omega)
  obtain ⟨hrows, hcols, htype⟩ := allocate_shape hlib hm
  have hretrieve : v.retrieve lib image fresh =
      some { m with data := (wholeImage m).apply b.data m.data } := by
    simp only [RaspiCamStillCv.retrieve, hsource, hm, Option.map_some]
  refine ⟨_, hretrieve, hrows.trans hheight, hcols.trans hwidth, htype, ?_, fun i hi => ?_⟩
  · refine (allocate_continuous hlib hgap hm).imp id fun hstep => ?_
    rw [hcols, htype, hlib.threeChannels, hwidth] at hstep
    simp only
    omega
  · have hwrites : (wholeImage m).Writes i := by
      simp only [wholeImage, Copy.Writes, hrows, hcols, hsides]
      omega
    have horigin : (wholeImage m).origin i = i := by
      simp only [wholeImage, Copy.origin]
      omega
    exact (Copy.apply_writes _ _ hwrites).trans (congrArg b.data horigin)

/-- A picture of the capture was taken, and any image has its bytes. -/
structure Showing (lib : OpenCv) (s : CvSession) (g : GrabOutcome) (s₂ : CvSession) : Prop where
  taken : ∃ t, s₂.taken = some t ∧ t.result = true
  whole : ∀ image fresh, ¬ s₂.cv.Gapped lib image →
    ∃ shown, s₂.cv.retrieve lib image fresh = some shown ∧
      Whole s.cv (captureInto s.cv.camera.impl.size g).2.data shown

/-- Opening and grabbing when every call succeeds. -/
theorem open_grab {lib : OpenCv} (hlib : lib.Documented) (pf : Platform) {s : CvSession}
    (hs : Unused s) (hsize : s.cv.SizeFits)
    (hw : 1 ≤ s.cv.camera.impl.width) (hh : 1 ≤ s.cv.camera.impl.height) {o : InitOutcome}
    {r : SetResults} {g : GrabOutcome} (ho : o.AllOk) (hr : r.AllOk) (hg : g.AllOk) :
    ∃ s₁, cvStep pf s (.openCamera o r) = some s₁ ∧
      (∀ s₂, cvStep pf s₁ (.grab g) = some s₂ → Showing lib s g s₂) ∧
      ((captureInto s.cv.camera.impl.size g).1 ≠ [] → ∃ s₂, cvStep pf s₁ (.grab g) = some s₂) := by
  rcases hs.openCamera pf ho hr with ⟨s₁, hs₁, hopened⟩
  rcases grab_opened hopened hs.encoding hg s₁.allocations with ⟨c, hc, hgrab⟩
  refine ⟨s₁, hs₁, fun s₂ hs₂ => ?_, fun hpost => ?_⟩
  · rcases Option.map_eq_some_iff.mp hs₂ with ⟨x, hx, rfl⟩
    rw [hgrab] at hx
    by_cases hpost : (captureInto s.cv.camera.impl.size g).1 = []
    · rw [if_pos hpost] at hx
      exact absurd hx.symm (Option.some_ne_none _)
    rw [if_neg hpost, Option.some.injEq] at hx
    rw [← hx]
    refine ⟨⟨_, rfl, rfl⟩, fun image fresh hgap => ?_⟩
    -- The sides are still those the wrapper was opened with.
    have hwidth : c.impl.width = s.cv.camera.impl.width := (congrArg PrivateImplStill.width hc :)
    have hheight : c.impl.height = s.cv.camera.impl.height :=
      (congrArg PrivateImplStill.height hc :)
    obtain ⟨shown, hshown, hwhole⟩ := retrieve_byte hlib (v := { s₁.cv with
        camera := c
        imageBuffer := some (takenInto s.cv.camera.impl.size g s₁.allocations).buffer
        isGrabbed := true }) rfl rfl
      (by unfold RaspiCamStillCv.SizeFits at hsize ⊢; rw [hwidth, hheight]; exact hsize)
      (by rw [hwidth]; exact hw) (by rw [hheight]; exact hh) hgap fresh
    exact ⟨shown, hshown, hwhole.rows.trans (congrArg Int.ofNat hheight),
      hwhole.cols.trans (congrArg Int.ofNat hwidth), hwhole.type,
      hwhole.step.imp_right fun hstep => hstep.trans (congrArg (3 * ·) hwidth),
      fun i hi => hwhole.bytes i (by rw [hwidth, hheight]; exact hi)⟩
  · have hgrab := hgrab.trans (if_neg hpost)
    exact ⟨_, congrArg (Option.map _) hgrab⟩

/-- An empty image. -/
theorem not_gapped_empty (lib : OpenCv) (v : RaspiCamStillCv) (data : Nat → UInt8) :
    ¬ v.Gapped lib ⟨0, 0, cv8uc3, 0, data⟩ :=
  fun h => h.2 (Or.inr (Int.zero_mul _).symm)

/-- The first row of a bitmap, and the byte behind it where the second row
    should start. -/
theorem EndToEnd.second_row {lib : OpenCv} (hlib : lib.Documented) {pf : Platform}
    {s : CvSession} (hs : Unused s)
    (hsize : s.cv.SizeFits) (hw : 1 ≤ s.cv.camera.impl.width)
    (hh : 2 ≤ s.cv.camera.impl.height) {o : InitOutcome} {r : SetResults} {g : GrabOutcome}
    (ho : o.AllOk) (hr : r.AllOk) (hg : g.AllOk) {b : Bitmap s.cv.camera.impl.size}
    (hb : b.Delivered g.buffers) (h : EndToEnd lib pf s o r g b) :
    b.rows.getD (3 * s.cv.camera.impl.width) 0 = b.pixel 1 0 := by
  rcases h with ⟨_, s₁, s₂, t, hs₁, hs₂, _, _, hshows⟩
  rcases open_grab hlib pf hs hsize hw (by omega) ho hr hg with ⟨s₁', hs₁', hshowing, _⟩
  rw [hs₁, Option.some.injEq] at hs₁'
  subst hs₁'
  have hgap := not_gapped_empty lib s₂.cv fun _ => 0
  obtain ⟨shown, hshown, hwhole⟩ := (hshowing s₂ hs₂).whole _ (fun _ => 0) hgap
  obtain ⟨shown', hshown', hshows'⟩ := hshows _ (fun _ => 0) hgap
  rw [hshown, Option.some.injEq] at hshown'
  subst hshown'
  have hpixel := hshows'.pixels 1 hh 0 (show 0 < 3 * s.cv.camera.impl.width by omega)
  have hstep : shown.step = 3 * s.cv.camera.impl.width :=
    hwhole.step.resolve_left (by rw [hwhole.rows]; omega)
  -- There is room for the first two rows, in the image as well as in the bitmap.
  have hroom : s.cv.camera.impl.width * 2 ≤ s.cv.camera.impl.width * s.cv.camera.impl.height :=
    Nat.mul_le_mul_left _ hh
  have hrows : 2 * rowStride s.cv.camera.impl.width ≤ b.rows.length := by
    rw [b.rows_length]
    exact Nat.mul_le_mul_right _ hh
  have hstride := (rowStride_bounds s.cv.camera.impl.width).1
  have hlength : imageBufferSize s.cv.camera.impl.size
      = s.cv.camera.impl.width * s.cv.camera.impl.height * 3 + 54 := imageBufferSize_eq hsize
  have hdata := capture_data (n := s.cv.camera.impl.size) (i := 3 * s.cv.camera.impl.width)
    hw hsize hb (by omega) (by omega)
  rw [← hpixel, Nat.add_zero, Nat.one_mul, hstep, ← hdata]
  exact (hwhole.bytes _ (by omega)).symm

/-- No padding comes between the rows. -/
theorem even_rows {n : Nat × Nat} (b : Bitmap n) (hcond : n.1 % 4 = 0 ∨ n.2 = 1) {r k : Nat}
    (hr : r < n.2) (hk : k < 3 * n.1) : b.pixel r k = b.rows.getD (r * (3 * n.1) + k) 0 ∧
      r * (3 * n.1) + k < b.rows.length ∧ r * (3 * n.1) + k < n.1 * n.2 * 3 := by
  have hindex : r * (3 * n.1) + k < n.2 * (3 * n.1) := by
    calc r * (3 * n.1) + k < r * (3 * n.1) + 3 * n.1 := Nat.add_lt_add_left hk _
      _ = (r + 1) * (3 * n.1) := (Nat.succ_mul r _).symm
      _ ≤ n.2 * (3 * n.1) := Nat.mul_le_mul_right _ hr
  have hsame : r * rowStride n.1 = r * (3 * n.1) := by
    rcases hcond with hmod | hone
    · rw [(rowStride_bounds n.1).2.2.mpr hmod]
    · have hr0 : r = 0 := by omega
      rw [hr0, Nat.zero_mul, Nat.zero_mul]
  refine ⟨?_, ?_, ?_⟩
  · rw [Bitmap.pixel, hsame]
  · rw [b.rows_length]
    exact Nat.lt_of_lt_of_le hindex (Nat.mul_le_mul_left _ (rowStride_bounds n.1).1)
  · rw [Nat.mul_comm n.1, Nat.mul_assoc, Nat.mul_comm n.1]
    exact hindex

/-- The rows fit as long as their padding is no longer than the header. -/
theorem rows_fit_iff {n : Nat × Nat} (b : Bitmap n) (hsize : 3 * n.1 * n.2 + 54 < 2147483648) :
    b.rows.length ≤ imageBufferSize n ↔ n.2 * (n.1 % 4) ≤ 54 := by
  have hstride : rowStride n.1 = 3 * n.1 + n.1 % 4 := by
    unfold rowStride
    omega
  have hrows : b.rows.length = n.1 * n.2 * 3 + n.2 * (n.1 % 4) := by
    rw [b.rows_length, hstride, Nat.mul_add, Nat.mul_left_comm, Nat.mul_comm n.2, Nat.mul_comm 3]
  rw [hrows, imageBufferSize_eq hsize]
  omega

/-- A bitmap whose second row does not start with what is behind its first
    row. -/
def markedBitmap (n : Nat × Nat) : Bitmap n where
  header := List.replicate 54 0
  rows := (List.range (n.2 * rowStride n.1)).map fun i => if i = 3 * n.1 then 0 else 1
  header_length := List.length_replicate
  rows_length := by rw [List.length_map, List.length_range]

theorem markedBitmap_ne {n : Nat × Nat} (hmod : n.1 % 4 ≠ 0) (hh : 2 ≤ n.2) :
    (markedBitmap n).rows.getD (3 * n.1) 0 ≠ (markedBitmap n).pixel 1 0 := by
  have hget : ∀ i < n.2 * rowStride n.1,
      (markedBitmap n).rows.getD i 0 = if i = 3 * n.1 then 0 else 1 := by
    intro i hi
    rw [markedBitmap, List.getD_eq_getElem?_getD, List.getElem?_map, List.getElem?_range hi]
    rfl
  rcases rowStride_bounds n.1 with ⟨hle, _, heq⟩
  have hne : rowStride n.1 ≠ 3 * n.1 := fun h => hmod (heq.mp h)
  have hroom : 2 * rowStride n.1 ≤ n.2 * rowStride n.1 := Nat.mul_le_mul_right _ hh
  rw [Bitmap.pixel, hget _ (by omega), hget _ (by omega), if_pos rfl, if_neg (by omega)]
  decide

/-- A bitmap in one piece. -/
def Bitmap.whole {n : Nat × Nat} (b : Bitmap n) (h : (b.header ++ b.rows).length < 4294967296) :
    List EncoderBuffer := [⟨flagFrameEnd, b.header ++ b.rows, h⟩]

theorem delivered_whole {n : Nat × Nat} (b : Bitmap n)
    (h : (b.header ++ b.rows).length < 4294967296) : b.Delivered (b.whole h) where
  bytes := List.flatMap_singleton _ _
  ends := ⟨[], _, rfl, by simp only [EncoderBuffer.frameEnd, flagFrameEnd]; decide,
    fun x hx => absurd hx List.not_mem_nil⟩

/-- A wrapper that is opened with some size, and whose calls succeed, shows the
    rows of every bitmap exactly when no padding comes between them. -/
theorem bitmap_iff (lib : OpenCv) (hlib : lib.Documented) (pf : Platform) {ls : List CvOp}
    {s : CvSession} (hls : ∀ l ∈ ls, l.Sets) (hrun : run (cvStep pf) .init ls = some s)
    (hw : 1 ≤ s.cv.camera.impl.width) (hh : 1 ≤ s.cv.camera.impl.height)
    (hsize : s.cv.SizeFits) :
    (∀ o r g (b : Bitmap s.cv.camera.impl.size), InitOutcome.AllOk o → SetResults.AllOk r →
      GrabOutcome.AllOk g → b.Delivered g.buffers → EndToEnd lib pf s o r g b) ↔
    s.cv.camera.impl.width % 4 = 0 ∨ s.cv.camera.impl.height = 1 := by
  have hs := unused_run hls hrun
  constructor
  · intro hall
    by_contra hcond
    rw [not_or] at hcond
    have hlt : ((markedBitmap s.cv.camera.impl.size).header
        ++ (markedBitmap s.cv.camera.impl.size).rows).length < 4294967296 := by
      have hrows := rows_length_le hw (markedBitmap s.cv.camera.impl.size)
      have hsize' : 3 * (s.cv.camera.impl.size.1 * s.cv.camera.impl.size.2) + 54 < 2147483648 := by
        rw [← Nat.mul_assoc]
        exact hsize
      rw [List.length_append, Bitmap.header_length]
      omega
    have hb := delivered_whole (markedBitmap s.cv.camera.impl.size) hlt
    have hok : (GrabOutcome.allOk ((markedBitmap s.cv.camera.impl.size).whole hlt)).AllOk :=
      ⟨InitOutcome.allOk_allOk, rfl, rfl, SetResults.allOk_allOk⟩
    have hend := hall .allOk .allOk (.allOk _) _ InitOutcome.allOk_allOk SetResults.allOk_allOk
      hok hb
    have htwo : 2 ≤ s.cv.camera.impl.height := by omega
    exact markedBitmap_ne (n := s.cv.camera.impl.size) hcond.1 htwo
      (hend.second_row hlib hs hsize hw htwo InitOutcome.allOk_allOk SetResults.allOk_allOk hok hb)
  · intro hcond o r g b ho hr hg hb
    have hpadding : s.cv.camera.impl.height * (s.cv.camera.impl.width % 4) ≤ 54 := by
      rcases hcond with hmod | hone
      · rw [hmod, Nat.mul_zero]
        exact Nat.zero_le _
      · rw [hone, Nat.one_mul]
        omega
    have hfits := (rows_fit_iff b hsize).mpr hpadding
    refine ⟨hfits, ?_⟩
    rcases open_grab hlib pf hs hsize hw hh ho hr hg with ⟨s₁, hs₁, hshowing, hgoes⟩
    have hpost := capture_completes hb hfits hw hsize
    rcases hgoes (by rw [hpost]; exact List.cons_ne_nil _ _) with ⟨s₂, hs₂⟩
    have hshow := hshowing s₂ hs₂
    rcases hshow.taken with ⟨t, ht, hresult⟩
    refine ⟨s₁, s₂, t, hs₁, hs₂, ht, hresult, fun image fresh hgap => ?_⟩
    obtain ⟨shown, hshown, hwhole⟩ := hshow.whole image fresh hgap
    refine ⟨shown, hshown, hwhole.rows, hwhole.cols, hwhole.type, fun i hi k hk => ?_⟩
    have hplace : i * shown.step = i * (3 * s.cv.camera.impl.width) := by
      rcases hwhole.step with hone | hstep
      · have hheight : (s.cv.camera.impl.height : Int) = 1 := hwhole.rows.symm.trans hone
        have hfirst : i = 0 := by
          change i < s.cv.camera.impl.height at hi
          omega
        rw [hfirst, Nat.zero_mul, Nat.zero_mul]
      · rw [hstep]
    rcases even_rows b hcond hi hk with ⟨hpixel, hlt, hin⟩
    rw [hpixel, hplace]
    refine (hwhole.bytes _ hin).trans ?_
    have hlength : imageBufferSize s.cv.camera.impl.size
        = s.cv.camera.impl.width * s.cv.camera.impl.height * 3 + 54 := imageBufferSize_eq hsize
    exact capture_data (n := s.cv.camera.impl.size) hw hsize hb hlt
      (by rw [hlength]; exact Nat.lt_of_lt_of_le hin (Nat.le_add_right _ _))

theorem sets_sides (w h : Double) :
    ∀ l ∈ [CvOp.set .frameWidth w, CvOp.set .frameHeight h], l.Sets := by
  intro l hl
  simp only [List.mem_cons, List.not_mem_nil, or_false] at hl
  rcases hl with rfl | rfl
  · trivial
  · trivial

/-- Images of four by two pixels. -/
theorem bitmap_iff_four : ∃ s, run (cvStep ⟨fun _ => 0, fun _ => 0⟩) .init
      [.set .frameWidth (.finite 4), .set .frameHeight (.finite 2)] = some s ∧
    ∀ o r g (b : Bitmap s.cv.camera.impl.size), InitOutcome.AllOk o → SetResults.AllOk r →
      GrabOutcome.AllOk g → b.Delivered g.buffers →
        EndToEnd .plain ⟨fun _ => 0, fun _ => 0⟩ s o r g b := by
  have hrun : run (cvStep ⟨fun _ => 0, fun _ => 0⟩) .init
    [.set .frameWidth (.finite 4), .set .frameHeight (.finite 2)] = some _ := rfl
  exact ⟨_, hrun, (bitmap_iff .plain plain_documented _ (sets_sides _ _) hrun (by decide)
    (by decide) (by decide)).mpr (Or.inl (by decide))⟩

/-- A bitmap of two by two pixels, whose rows have two bytes of padding. -/
def smallBitmap : Bitmap (2, 2) where
  header := List.replicate 54 0
  rows := [1, 2, 3, 4, 5, 6, 0, 0, 7, 8, 9, 10, 11, 12, 0, 0]
  header_length := rfl
  rows_length := rfl

/-- The second row of the image starts with the padding of the first one. -/
theorem padding_shown : ∃ s s₁ s₂ : CvSession, run (cvStep ⟨fun _ => 0, fun _ => 0⟩) .init
      [.set .frameWidth (.finite 2), .set .frameHeight (.finite 2)] = some s ∧
    ∃ (b : Bitmap s.cv.camera.impl.size) (h : (b.header ++ b.rows).length < 4294967296),
    b.rows = [1, 2, 3, 4, 5, 6, 0, 0, 7, 8, 9, 10, 11, 12, 0, 0] ∧ b.Delivered (b.whole h) ∧
    cvStep ⟨fun _ => 0, fun _ => 0⟩ s (.openCamera .allOk .allOk) = some s₁ ∧
    cvStep ⟨fun _ => 0, fun _ => 0⟩ s₁ (.grab (.allOk (b.whole h))) = some s₂ ∧
    (∀ fresh, ∃ shown, s₂.cv.retrieve .plain ⟨0, 0, cv8uc3, 0, fun _ => 0⟩ fresh = some shown ∧
      shown.step = 6 ∧ shown.data 6 = 0 ∧ b.pixel 1 0 = 7) ∧
    ¬ EndToEnd .plain ⟨fun _ => 0, fun _ => 0⟩ s .allOk .allOk (.allOk (b.whole h)) b := by
  have hrun : run (cvStep ⟨fun _ => 0, fun _ => 0⟩) .init
    [.set .frameWidth (.finite 2), .set .frameHeight (.finite 2)] = some _ := rfl
  have hs := unused_run (sets_sides _ _) hrun
  have hlt : (smallBitmap.header ++ smallBitmap.rows).length < 4294967296 := by decide
  have hb : smallBitmap.Delivered (GrabOutcome.allOk (smallBitmap.whole hlt)).buffers :=
    delivered_whole smallBitmap hlt
  have hg : (GrabOutcome.allOk (smallBitmap.whole hlt)).AllOk :=
    ⟨InitOutcome.allOk_allOk, rfl, rfl, SetResults.allOk_allOk⟩
  rcases open_grab plain_documented ⟨fun _ => 0, fun _ => 0⟩ hs (by decide) (by decide) (by decide)
    InitOutcome.allOk_allOk SetResults.allOk_allOk hg with ⟨s₁, hs₁, hshowing, hgoes⟩
  have hpost := capture_completes (n := (2, 2)) hb (by decide) (by decide) (by decide)
  rcases hgoes (fun hnil => absurd (hpost.symm.trans hnil) (List.cons_ne_nil _ _)) with ⟨s₂, hs₂⟩
  refine ⟨_, s₁, s₂, hrun, smallBitmap, hlt, rfl, hb, hs₁, hs₂, fun fresh => ?_,
    fun hend => ?_⟩
  · have hdata := capture_data (n := (2, 2)) (i := 6) (by decide) (by decide) hb (by decide)
      (by decide)
    obtain ⟨shown, hshown, hwhole⟩ :=
      (hshowing s₂ hs₂).whole _ fresh (not_gapped_empty .plain s₂.cv fun _ => 0)
    have hstep : shown.step = 6 := hwhole.step.resolve_left (by rw [hwhole.rows]; decide)
    exact ⟨shown, hshown, hstep, (hwhole.bytes 6 (by decide)).trans hdata, rfl⟩
  · have hrow := hend.second_row plain_documented hs (by decide) (by decide) (by decide)
      InitOutcome.allOk_allOk SetResults.allOk_allOk hg hb
    exact absurd hrow (by decide)

end Still

end RaspiCam
