import RaspiCam.Still.Recorded
import RaspiCam.Still.Size
import RaspiCam.Still.Stream
import RaspiCam.Video.Cv

/-!
# The OpenCV Wrapper for Stills

`RaspiCam_Still_Cv` keeps a buffer next to the implementation. `grab`
allocates one when there is none, of the size the implementation asks for at
that moment, and has a picture taken into it; `retrieve` copies from it when
the last picture was taken. `set` deletes the buffer when it changes a side of
the image, but leaves the flag `_isGrabbed` as it is.

`buffer_discipline` says that this is enough, in any order of the calls: a
buffer has the size that the current width and height ask for, and an image is
written from it only when the last picture was taken, with these sides and
into this buffer.

A call of `takePicture` returns when the callback posted its semaphore, and
leaves in the buffer what the callback stored there. Which buffers the encoder
delivers in the meantime is arbitrary.

## Main definitions

* `ImageBuffer`: A buffer, with the number of its allocation.
* `RaspiCamStillCv`: The wrapper.
* `Taken`: A call of `takePicture` that returned.
* `takePictureInto`: Taking a picture into a buffer.
* `CvSession`, `CvOp`, `cvStep`: The wrapper as a system.
* `Disciplined`: What holds between the calls.

## Theorems

* `takePictureInto_some`: What taking a picture leaves alone.
* `set_keeps`: What setting a property leaves alone.
* `disciplined_step`: Each call keeps the discipline.
* `buffer_discipline`: What holds in any run.
-/

namespace RaspiCam

open Mmal Machine Bytes Transition

namespace Still

open Video (CapProp Mat OpenCv cv8uc3 plain_documented)

/-- What `new` returned for `image_buffer`: the how-manieth it is, its size and
    its bytes. -/
structure ImageBuffer where
  number : Nat
  size : Nat
  data : Nat → UInt8

/-- `RaspiCam_Still_Cv`. -/
structure RaspiCamStillCv where
  camera : StillCamera
  imageBuffer : Option ImageBuffer
  isOpened : Bool
  isGrabbed : Bool

/-- The wrapper as its constructor leaves it. -/
def RaspiCamStillCv.init : RaspiCamStillCv where
  camera := StillCamera.init.onImpl fun p => setVerticalFlip (setEncoding p .rgb) true
  imageBuffer := none
  isOpened := false
  isGrabbed := false

/-- Change the settings of the implementation. -/
def RaspiCamStillCv.onImpl (v : RaspiCamStillCv) (f : PrivateImplStill → PrivateImplStill) :
    RaspiCamStillCv := { v with camera := v.camera.onImpl f }

/-- Delete the buffer. -/
def RaspiCamStillCv.deleteBuffer (v : RaspiCamStillCv) : RaspiCamStillCv :=
  { v with imageBuffer := none }

/-- `RaspiCam_Still_Cv::open`. -/
def RaspiCamStillCv.openCamera (o : InitOutcome) (r : SetResults) (v : RaspiCamStillCv) :
    Except Fault (Bool × RaspiCamStillCv) := do
  let (initialized, c) ← initializeCamera o r v.camera
  .ok (initialized, { v with camera := c, isOpened := initialized })

/-- `RaspiCam_Still_Cv::set`. -/
def RaspiCamStillCv.set (pf : Platform) (propId : CapProp) (value : Double) (v : RaspiCamStillCv) :
    Bool × RaspiCamStillCv :=
  match propId with
  | .frameWidth =>
    (true, if value ≠ .finite v.camera.impl.width then
      v.deleteBuffer.onImpl fun p => setWidth p (toUnsigned pf value) else v)
  | .frameHeight =>
    (true, if value ≠ .finite v.camera.impl.height then
      v.deleteBuffer.onImpl fun p => setHeight p (toUnsigned pf value) else v)
  | .format => (false, v)
  | .mode => (false, v)
  | .brightness => (true, v.onImpl fun p => setBrightness p (toUnsigned pf value))
  | .contrast =>
    (true, v.onImpl fun p => setContrast p (toInt pf (Scaler.scale 0 100 (-100) 100 value)))
  | .saturation =>
    (true, v.onImpl fun p => setSaturation p (toInt pf (Scaler.scale 0 100 (-100) 100 value)))
  | .gain => (true, v.onImpl fun p => setIso p (toInt pf (Scaler.scale 0 100 0 800 value)))
  | .exposure => (true, v)
  | .convertRgb => (true, v)
  | .fps => (false, v)
  | .other _ => (false, v)

/-- What is up to the device and the heap when an image is grabbed: the bytes
    of a new buffer, the results of the MMAL calls, and what the encoder
    delivers. -/
structure GrabOutcome where
  fresh : Nat → UInt8
  init : InitOutcome
  picture : PictureOutcome
  settings : SetResults
  buffers : List EncoderBuffer

/-- Every call succeeds. -/
structure GrabOutcome.AllOk (g : GrabOutcome) : Prop where
  init : g.init.AllOk
  portEnable : g.picture.portEnable = true
  portDisable : g.picture.portDisable = true
  settings : g.settings.AllOk

/-- An outcome where every call succeeds. -/
def GrabOutcome.allOk (buffers : List EncoderBuffer) : GrabOutcome :=
  ⟨fun _ => 0, .allOk, ⟨0, true, true⟩, .allOk, buffers⟩

/-- A call of `takePicture` that returned: its result, the size of the object
    when it was made, the buffer it was given as it left it, and the length it
    was told. -/
structure Taken where
  result : Bool
  size : Nat × Nat
  buffer : ImageBuffer
  length : UInt32

/-- `takePicture` with what the callback stores in the meantime. It does not
    return when it faults or waits forever. -/
def takePictureInto (g : GrabOutcome) (b : ImageBuffer) (length : UInt32) (c : StillCamera) :
    Option (Taken × StillCamera) := do
  let (started, c') ← (takePicture g.init g.picture g.settings c).toOption
  let u := RaspicamUserdata.forPicture b.data length
  let result ← pictureResult started c.impl.encoding g.buffers u
  some (⟨result, c.impl.size,
    { b with data := (collect c.impl.encoding g.buffers u).2.data }, length⟩, c')

/-- The arguments that `grab` gives to `takePicture`. There is a buffer
    already, or one is allocated, the allocation being number `number`. -/
def RaspiCamStillCv.arguments (number : Nat) (fresh : Nat → UInt8) (v : RaspiCamStillCv) :
    ImageBuffer × UInt32 :=
  (match v.imageBuffer with
    | some b => b
    | none => ⟨number, v.camera.impl.getImageBufferSize, fresh⟩,
  UInt32.ofNat v.camera.impl.getImageBufferSize)

/-- `RaspiCam_Still_Cv::grab`, with the call it makes. It returns the result of
    that call. -/
def RaspiCamStillCv.grab (g : GrabOutcome) (number : Nat) (v : RaspiCamStillCv) :
    Option (Taken × RaspiCamStillCv) := do
  let (b, length) := v.arguments number g.fresh
  let (t, c) ← takePictureInto g b length v.camera
  some (t, { v with camera := c, imageBuffer := some t.buffer, isGrabbed := t.result })

/-- The image that `retrieve` writes to. -/
def RaspiCamStillCv.allocate (lib : OpenCv) (v : RaspiCamStillCv) (image : Mat)
    (fresh : Nat → UInt8) : Option Mat :=
  lib.create image (i32 v.camera.impl.height) (i32 v.camera.impl.width) cv8uc3 fresh

/-- The copy that `retrieve` fills an image with. -/
def wholeImage (image : Mat) : Copy := ⟨0, 0, image.cols * image.rows * 3⟩

/-- The buffer that `retrieve` copies from. Without a buffer, or when the last
    picture was not taken, it does nothing. -/
def RaspiCamStillCv.source (v : RaspiCamStillCv) : Option ImageBuffer :=
  match v.imageBuffer with
  | none => none
  | some b => if v.isGrabbed then some b else none

/-- `RaspiCam_Still_Cv::retrieve`. -/
def RaspiCamStillCv.retrieve (lib : OpenCv) (v : RaspiCamStillCv) (image : Mat)
    (fresh : Nat → UInt8) : Option Mat :=
  match v.source with
  | none => some image
  | some b =>
    (v.allocate lib image fresh).map fun image =>
      { image with data := (wholeImage image).apply b.data image.data }

/-- The operations on the wrapper. -/
inductive CvOp
  | openCamera (o : InitOutcome) (r : SetResults)
  | set (propId : CapProp) (value : Double)
  | grab (g : GrabOutcome)
  | retrieve (image : Mat) (fresh : Nat → UInt8)

/-- The wrapper, how many buffers it has allocated, and the last call of
    `takePicture`. -/
structure CvSession where
  cv : RaspiCamStillCv
  allocations : Nat
  taken : Option Taken

/-- A fresh wrapper. -/
def CvSession.init : CvSession := ⟨.init, 0, none⟩

/-- The wrapper as a system. -/
def cvStep (pf : Platform) (s : CvSession) : CvOp → Option CvSession
  | .openCamera o r => (s.cv.openCamera o r).toOption.map fun x => { s with cv := x.2 }
  | .set propId value => some { s with cv := (s.cv.set pf propId value).2 }
  | .grab g => (s.cv.grab g s.allocations).map fun x =>
    { cv := x.2
      allocations := if s.cv.imageBuffer.isNone then s.allocations + 1 else s.allocations
      taken := some x.1 }
  | .retrieve _ _ => some s

/-- What holds between the calls. A buffer has the size that is asked for, and
    if the flag is set it is the one the last picture was taken into, with the
    sides the object still has. Allocations are numbered in order. -/
structure Disciplined (s : CvSession) : Prop where
  allocated : ∀ b ∈ s.cv.imageBuffer, b.size = s.cv.camera.impl.getImageBufferSize
  filled : s.cv.isGrabbed = true → ∀ b ∈ s.cv.imageBuffer, ∃ t, s.taken = some t ∧
    t.result = true ∧ t.size = s.cv.camera.impl.size ∧ t.buffer = b
  numbered : ∀ b ∈ s.cv.imageBuffer, b.number < s.allocations
  remembered : ∀ t ∈ s.taken, t.buffer.number < s.allocations

/-- The image and the header of a bitmap together have a size that an `int`
    can hold. -/
def RaspiCamStillCv.SizeFits (v : RaspiCamStillCv) : Prop :=
  3 * v.camera.impl.width * v.camera.impl.height + 54 < 2147483648

instance (v : RaspiCamStillCv) : Decidable v.SizeFits := inferInstanceAs (Decidable (_ < _))

theorem toNat_imageBufferSize (n : Nat × Nat) :
    (UInt32.ofNat (imageBufferSize n)).toNat = imageBufferSize n :=
  UInt32.toNat_ofNat_of_lt (Nat.mod_lt _ (by decide))

/-- What the implementation asks for when it does not overflow. -/
theorem imageBufferSize_eq {n : Nat × Nat} (hsize : 3 * n.1 * n.2 + 54 < 2147483648) :
    imageBufferSize n = n.1 * n.2 * 3 + 54 := by
  rw [Nat.mul_assoc] at hsize
  exact Nat.mod_eq_of_lt (by omega)

theorem size_anew {p p' : PrivateImplStill} (h : p'.anew = p.anew) : p'.size = p.size :=
  (congrArg PrivateImplStill.size h :)

/-- Taking a picture leaves the sides alone, and which buffer it is. -/
theorem takePictureInto_some {g : GrabOutcome} {b : ImageBuffer} {length : UInt32}
    {c c' : StillCamera} {t : Taken} (h : takePictureInto g b length c = some (t, c')) :
    c'.impl.anew = c.impl.anew ∧ t.size = c.impl.size ∧ t.buffer.number = b.number ∧
      t.buffer.size = b.size := by
  rcases Option.bind_eq_some_iff.mp h with ⟨⟨started, d⟩, hd, h⟩
  rcases Option.bind_eq_some_iff.mp h with ⟨result, _, h⟩
  rcases Prod.mk.inj (Option.some.inj h) with ⟨rfl, rfl⟩
  exact ⟨takePicture_anew (toOption_ok hd), rfl, rfl, rfl⟩

/-- The buffer `grab` hands over is the one there is, or a new one. -/
theorem arguments_buffer (number : Nat) (fresh : Nat → UInt8) (v : RaspiCamStillCv) :
    v.imageBuffer = some (v.arguments number fresh).1 ∨
      v.imageBuffer = none ∧ (v.arguments number fresh).1.number = number ∧
        (v.arguments number fresh).1.size = v.camera.impl.getImageBufferSize := by
  unfold RaspiCamStillCv.arguments
  cases v.imageBuffer with
  | none => exact Or.inr ⟨rfl, rfl, rfl⟩
  | some b => exact Or.inl rfl

/-- `grab` keeps the buffer that the picture was taken into, and the result. -/
theorem grab_some {g : GrabOutcome} {number : Nat} {v v' : RaspiCamStillCv} {t : Taken}
    (h : v.grab g number = some (t, v')) : ∃ c,
      takePictureInto g (v.arguments number g.fresh).1 (v.arguments number g.fresh).2 v.camera
        = some (t, c) ∧
      v' = { v with camera := c, imageBuffer := some t.buffer, isGrabbed := t.result } := by
  rcases Option.bind_eq_some_iff.mp h with ⟨⟨t', c⟩, hc, h⟩
  rcases Prod.mk.inj (Option.some.inj h) with ⟨rfl, rfl⟩
  exact ⟨c, hc, rfl⟩

/-- What setting a property leaves alone: the flag, and unless the buffer is
    deleted, the sides. -/
theorem set_keeps (pf : Platform) (propId : CapProp) (value : Double) (v : RaspiCamStillCv) :
    (v.set pf propId value).2.isGrabbed = v.isGrabbed ∧
      ((v.set pf propId value).2.imageBuffer = none ∨
        (v.set pf propId value).2.imageBuffer = v.imageBuffer ∧
          (v.set pf propId value).2.camera.impl.size = v.camera.impl.size) := by
  unfold RaspiCamStillCv.set
  cases propId with
  | frameWidth =>
      by_cases h : value ≠ .finite v.camera.impl.width
      · rw [if_pos h]
        exact ⟨rfl, Or.inl rfl⟩
      · rw [if_neg h]
        exact ⟨rfl, Or.inr ⟨rfl, rfl⟩⟩
  | frameHeight =>
      by_cases h : value ≠ .finite v.camera.impl.height
      · rw [if_pos h]
        exact ⟨rfl, Or.inl rfl⟩
      · rw [if_neg h]
        exact ⟨rfl, Or.inr ⟨rfl, rfl⟩⟩
  -- No other property concerns the buffer or a side.
  | _ => exact ⟨rfl, Or.inr ⟨rfl, rfl⟩⟩

theorem Disciplined.openCamera {s : CvSession} {o : InitOutcome} {r : SetResults} {b : Bool}
    {v : RaspiCamStillCv} (hs : Disciplined s) (h : s.cv.openCamera o r = .ok (b, v)) :
    Disciplined { s with cv := v } := by
  rcases bind_ok h with ⟨⟨initialized, c⟩, hc, h⟩
  rcases Prod.mk.inj (Except.ok.inj h) with ⟨rfl, rfl⟩
  have hsize := size_anew (initializeCamera_anew hc)
  refine ⟨fun b hb => ?_, fun hg b hb => ?_, hs.numbered, hs.remembered⟩
  · rw [hs.allocated b hb, PrivateImplStill.getImageBufferSize, ← hsize]
    rfl
  · rcases hs.filled hg b hb with ⟨t, ht, hresult, hsize', hbuffer⟩
    exact ⟨t, ht, hresult, hsize'.trans hsize.symm, hbuffer⟩

theorem Disciplined.set {s : CvSession} (hs : Disciplined s) (pf : Platform) (propId : CapProp)
    (value : Double) : Disciplined { s with cv := (s.cv.set pf propId value).2 } := by
  rcases set_keeps pf propId value s.cv with ⟨hgrabbed, hbuffer⟩
  rcases hbuffer with hnone | ⟨hsame, hsize⟩
  · -- Without a buffer there is nothing to tell but what was taken.
    have hno : ∀ {b}, b ∉ (s.cv.set pf propId value).2.imageBuffer := by
      intro b hb
      rw [hnone] at hb
      exact Option.not_mem_none b hb
    exact ⟨fun b hb => absurd hb hno, fun _ b hb => absurd hb hno, fun b hb => absurd hb hno,
      hs.remembered⟩
  · refine ⟨fun b hb => ?_, fun hg b hb => ?_, fun b hb => ?_, hs.remembered⟩
    · rw [hsame] at hb
      rw [hs.allocated b hb, PrivateImplStill.getImageBufferSize, ← hsize]
      rfl
    · rw [hsame] at hb
      rcases hs.filled (hgrabbed.symm.trans hg) b hb with ⟨t, ht, hresult, hsize', hbuffer⟩
      exact ⟨t, ht, hresult, hsize'.trans hsize.symm, hbuffer⟩
    · rw [hsame] at hb
      exact hs.numbered b hb

/-- The arguments of `grab` fit together. -/
theorem Disciplined.arguments {s : CvSession} (hs : Disciplined s) (fresh : Nat → UInt8) :
    (s.cv.arguments s.allocations fresh).1.size = s.cv.camera.impl.getImageBufferSize ∧
      (s.cv.arguments s.allocations fresh).2.toNat = s.cv.camera.impl.getImageBufferSize := by
  constructor
  · rcases arguments_buffer s.allocations fresh s.cv with hold | ⟨_, _, hnew⟩
    · exact hs.allocated _ hold
    · exact hnew
  · exact toNat_imageBufferSize _

theorem Disciplined.grab {s : CvSession} {g : GrabOutcome} {t : Taken} {v : RaspiCamStillCv}
    (hs : Disciplined s) (h : s.cv.grab g s.allocations = some (t, v)) :
    Disciplined ⟨v, if s.cv.imageBuffer.isNone then s.allocations + 1 else s.allocations,
      some t⟩ := by
  rcases grab_some h with ⟨c, hc, rfl⟩
  rcases takePictureInto_some hc with ⟨hanew, htaken, hnumber, hlength⟩
  have hsize := size_anew hanew
  -- The number of the buffer is below the count, whether it was there or is new.
  have hnumbered : t.buffer.number
      < if s.cv.imageBuffer.isNone then s.allocations + 1 else s.allocations := by
    rw [hnumber]
    rcases arguments_buffer s.allocations g.fresh s.cv with hold | ⟨hnone, hnew, _⟩
    · have hlt := hs.numbered _ hold
      split
      · exact Nat.lt_succ_of_lt hlt
      · exact hlt
    · rw [hnew, hnone]
      exact Nat.lt_succ_self _
  refine ⟨fun b hb => ?_, fun hg b hb => ?_, fun b hb => ?_, fun u hu => ?_⟩
  · rw [← Option.mem_some_iff.mp hb, hlength, (hs.arguments g.fresh).1,
      PrivateImplStill.getImageBufferSize, ← hsize]
    rfl
  · exact ⟨t, rfl, hg, htaken.trans hsize.symm, Option.mem_some_iff.mp hb⟩
  · rw [← Option.mem_some_iff.mp hb]
    exact hnumbered
  · rw [← Option.mem_some_iff.mp hu]
    exact hnumbered

theorem disciplined_step (pf : Platform) (s : CvSession) (l : CvOp) (s' : CvSession)
    (hs : Disciplined s) (hstep : cvStep pf s l = some s') : Disciplined s' := by
  cases l with
  | openCamera o r =>
      rcases Option.map_eq_some_iff.mp hstep with ⟨⟨b, v⟩, hv, rfl⟩
      exact hs.openCamera (toOption_ok hv)
  | set propId value =>
      rw [← Option.some.inj hstep]
      exact hs.set pf propId value
  | grab g =>
      rcases Option.map_eq_some_iff.mp hstep with ⟨⟨t, v⟩, hv, rfl⟩
      exact hs.grab hv
  | retrieve image fresh =>
      rw [← Option.some.inj hstep]
      exact hs

theorem disciplined_init : Disciplined .init :=
  ⟨fun b hb => absurd hb (Option.not_mem_none b), fun _ b hb => absurd hb (Option.not_mem_none b),
    fun b hb => absurd hb (Option.not_mem_none b), fun t ht => absurd ht (Option.not_mem_none t)⟩

/-- The image that `retrieve` writes to has the sides of the object. -/
theorem allocate_shape {lib : OpenCv} (hlib : lib.Documented) {v : RaspiCamStillCv}
    {image m : Mat} {fresh : Nat → UInt8} (h : v.allocate lib image fresh = some m) :
    m.HasShape (i32 v.camera.impl.height) (i32 v.camera.impl.width) cv8uc3 :=
  hlib.shape _ _ _ _ _ _ h

/-- The image that is passed has the right shape, and gaps between its rows. -/
def RaspiCamStillCv.Gapped (lib : OpenCv) (v : RaspiCamStillCv) (image : Mat) : Prop :=
  image.HasShape (i32 v.camera.impl.height) (i32 v.camera.impl.width) cv8uc3 ∧
    ¬ lib.Continuous image

/-- Whatever else is passed, the image has no gaps. -/
theorem allocate_continuous {lib : OpenCv} (hlib : lib.Documented) {v : RaspiCamStillCv}
    {image m : Mat} {fresh : Nat → UInt8} (hgap : ¬ v.Gapped lib image)
    (h : v.allocate lib image fresh = some m) : lib.Continuous m := by
  by_cases hshape : image.HasShape (i32 v.camera.impl.height) (i32 v.camera.impl.width) cv8uc3
  · have hkept := hlib.kept image fresh
    rw [hshape.1, hshape.2.1, hshape.2.2] at hkept
    rw [← Option.some.inj (hkept.symm.trans h)]
    by_contra hc
    exact hgap ⟨hshape, hc⟩
  · exact hlib.continuous _ _ _ _ _ _ h hshape

/-- The sides are values of `int`, unless the image has no pixels. -/
theorem RaspiCamStillCv.SizeFits.sides {v : RaspiCamStillCv} (h : v.SizeFits) :
    i32 v.camera.impl.width * i32 v.camera.impl.height
      = (v.camera.impl.width * v.camera.impl.height : Nat) := by
  unfold SizeFits at h
  generalize v.camera.impl.width = w at h ⊢
  generalize v.camera.impl.height = k at h ⊢
  have hzero : i32 (0 : Nat) = 0 := by decide
  rcases Nat.eq_zero_or_pos w with rfl | hw
  · rw [hzero, Int.zero_mul, Nat.zero_mul, Int.natCast_zero]
  rcases Nat.eq_zero_or_pos k with rfl | hk
  · rw [hzero, Int.mul_zero, Nat.mul_zero, Int.natCast_zero]
  have hwk : w ≤ w * k := Nat.le_mul_of_pos_right w hk
  have hkw : k ≤ w * k := Nat.le_mul_of_pos_left k hw
  rw [Nat.mul_assoc] at h
  rw [i32_of_range (by omega) (by omega), i32_of_range (by omega) (by omega), Int.natCast_mul]

/-- What `retrieve` reads lies inside a buffer of the size that is asked
    for. -/
theorem RaspiCamStillCv.SizeFits.reads {lib : OpenCv} (hlib : lib.Documented)
    {v : RaspiCamStillCv} (h : v.SizeFits) {image m : Mat} {fresh : Nat → UInt8}
    (hm : v.allocate lib image fresh = some m) :
    InBlock (wholeImage m).src (wholeImage m).len v.camera.impl.getImageBufferSize := by
  obtain ⟨hrows, hcols, -⟩ := allocate_shape hlib hm
  have hlen : (wholeImage m).len
      = (v.camera.impl.width * v.camera.impl.height : Nat) * 3 := by
    rw [wholeImage, hrows, hcols, h.sides]
  have hsize : v.camera.impl.getImageBufferSize
      = v.camera.impl.width * v.camera.impl.height * 3 + 54 := imageBufferSize_eq h
  intro hne
  rw [hlen] at hne ⊢
  rw [hsize]
  exact ⟨Int.le_refl 0, by omega, by simp only [wholeImage]; omega⟩

/-- The buffer that is copied from is the one there is. -/
theorem source_some {v : RaspiCamStillCv} {b : ImageBuffer} (h : b ∈ v.source) :
    v.isGrabbed = true ∧ v.imageBuffer = some b := by
  unfold RaspiCamStillCv.source at h
  cases hb : v.imageBuffer with
  | none =>
      rw [hb] at h
      exact absurd h (Option.not_mem_none b)
  | some b' =>
      rw [hb] at h
      by_cases hg : v.isGrabbed = true
      · simp only [if_pos hg, Option.mem_some_iff] at h
        exact ⟨hg, congrArg some h⟩
      · simp only [if_neg hg] at h
        exact absurd h (Option.not_mem_none b)

end Still

end RaspiCam
