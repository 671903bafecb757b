import RaspiCam.Core.Scaler
import RaspiCam.Video.Device

/-!
# The OpenCV Wrapper

`RaspiCam_Cv` keeps the pixel type it gives to images, `imgFormat`, next to
the capture format kept by the implementation. `set` changes the two in
different branches: `CAP_PROP_FORMAT` asks the implementation, which refuses
while the camera is open, and changes `imgFormat` regardless;
`CAP_PROP_CONVERT_RGB` only changes `imgFormat`. `retrieve` allocates by the
one and copies by the other.

OpenCV itself is not part of this repository. What its documentation says about
`cv::Mat` is assumed, `OpenCv.Documented`.

`retrieve_agrees_iff` says exactly which runs keep the two in step: those
without a change of pixel type while the camera is open and without a
conversion to RGB of gray frames, whose images stay below `2 ^ 32` bytes and
are retrieved once a frame is there.

## Main definitions

* `CapProp`: The property identifiers.
* `RaspiCamCv`, `RaspiCamCv.set`, `RaspiCamCv.retrieve`: The wrapper.
* `Mat`: The image of the caller.
* `OpenCv`, `OpenCv.Documented`: What is called of OpenCV, and its documentation.
* `CvOp`, `cvStep`: The wrapper as a system.
* `RaspiCamCv.Agrees`: The pixel type is that of the capture format, and the
  sizes are equal.
* `CvOp.RetrievesWhole`: The image is written as a whole.
* `CvOp.InStep`: The condition on one operation.

## Theorems

* `agrees_step_iff`: What it takes for one operation to keep them in step.
* `retrieve_agrees_iff`: What it takes for a run.
* `set_format_while_open`: A run that overflows the image.
-/

namespace RaspiCam

open Mmal Machine Bytes Transition

namespace Video

/-- `cv::VideoCaptureProperties`, as far as the wrapper tells them apart. -/
inductive CapProp
  | mode
  | frameWidth
  | frameHeight
  | fps
  | format
  | brightness
  | contrast
  | saturation
  | gain
  | exposure
  | convertRgb
  | other (propId : Int)
deriving DecidableEq

/-- `CV_8UC1`. -/
def cv8uc1 : Int := 0

/-- `CV_8UC3`. -/
def cv8uc3 : Int := 16

/-- `cv::Mat`, with what is in memory from its first pixel on. A row starts
    `step` bytes behind the one before. -/
structure Mat where
  rows : Int
  cols : Int
  type : Int
  step : Nat
  data : Nat → UInt8

/-- The image has this shape. -/
def Mat.HasShape (m : Mat) (rows cols type : Int) : Prop :=
  m.rows = rows ∧ m.cols = cols ∧ m.type = type

/-- What the wrappers call of OpenCV: the number of channels of a pixel type,
    which is their number of bytes for bytes, and `cv::Mat::create`, if it raises
    no exception. -/
structure OpenCv where
  channels : Int → Int
  create : Mat → Int → Int → Int → (Nat → UInt8) → Option Mat

/-- `cv::Mat::isContinuous`: the rows follow one another without a gap. -/
def OpenCv.Continuous (lib : OpenCv) (m : Mat) : Prop :=
  m.rows = 1 ∨ (m.step : Int) = m.cols * lib.channels m.type

/-- What the documentation of OpenCV says. An image of the right shape is kept,
    be it a view of another one with gaps between its rows. Otherwise there is a
    new image, which is continuous, and has whatever is in its memory. -/
structure OpenCv.Documented (lib : OpenCv) : Prop where
  oneChannel : lib.channels cv8uc1 = 1
  threeChannels : lib.channels cv8uc3 = 3
  kept : ∀ m fresh, lib.create m m.rows m.cols m.type fresh = some m
  creates : ∀ m rows cols type fresh, 0 ≤ rows → 0 ≤ cols →
    ∃ m', lib.create m rows cols type fresh = some m'
  shape : ∀ m rows cols type fresh m', lib.create m rows cols type fresh = some m' →
    m'.HasShape rows cols type
  continuous : ∀ m rows cols type fresh m', lib.create m rows cols type fresh = some m' →
    ¬ m.HasShape rows cols type → lib.Continuous m'

/-- A library that does what is documented. -/
def OpenCv.plain : OpenCv where
  channels type := type / 8 % 512 + 1
  create m rows cols type fresh :=
    if m.rows = rows ∧ m.cols = cols ∧ m.type = type then some m
    else if 0 ≤ rows ∧ 0 ≤ cols then
      some ⟨rows, cols, type, (cols * (type / 8 % 512 + 1)).toNat, fresh⟩
    else none

theorem plain_documented : OpenCv.plain.Documented where
  oneChannel := rfl
  threeChannels := rfl
  kept m fresh := if_pos ⟨rfl, rfl, rfl⟩
  creates m rows cols type fresh hrows hcols := by
    simp only [OpenCv.plain]
    split
    · exact ⟨m, rfl⟩
    · exact ⟨_, if_pos ⟨hrows, hcols⟩⟩
  shape m rows cols type fresh m' h := by
    simp only [OpenCv.plain] at h
    split at h
    · rename_i hshape
      rw [← Option.some.inj h]
      exact hshape
    · split at h
      · rw [← Option.some.inj h]
        exact ⟨rfl, rfl, rfl⟩
      · exact absurd h.symm (Option.some_ne_none m')
  continuous m rows cols type fresh m' h hne := by
    simp only [OpenCv.plain] at h
    split at h
    · rename_i hshape
      exact absurd hshape hne
    · split at h
      · rename_i hsides
        rw [← Option.some.inj h]
        have hbytes : 0 ≤ cols * (type / 8 % 512 + 1) := Int.mul_nonneg hsides.2 (by omega)
        exact Or.inr (Int.toNat_of_nonneg hbytes)
      · exact absurd h.symm (Option.some_ne_none m')

/-- `RaspiCam_Cv`. -/
structure RaspiCamCv where
  camera : Camera
  imgFormat : Int

/-- The wrapper after an operation of the implementation. -/
def RaspiCamCv.with (v : RaspiCamCv) (c : Camera) : RaspiCamCv := { v with camera := c }

/-- `CAP_PROP_FORMAT` of `RaspiCam_Cv::set`. -/
def RaspiCamCv.setFormat (value : Double) (v : RaspiCamCv) : Bool × RaspiCamCv :=
  if value = .finite cv8uc1 then
    (true, { camera := Video.setFormat .gray v.camera, imgFormat := cv8uc1 })
  else if value = .finite cv8uc3 then
    (true, { camera := Video.setFormat .rgb v.camera, imgFormat := cv8uc3 })
  else (false, v)

/-- `CAP_PROP_EXPOSURE` of `RaspiCam_Cv::set`. -/
def RaspiCamCv.setExposure (pf : Platform) (r : SetResults) (value : Double) (c : Camera) :
    Except Fault Camera :=
  match value with
  | .finite q =>
    if 0 < q ∧ q ≤ 100 then setShutterSpeed r c (toUnsigned pf (Scaler.scale 0 100 0 330000 value))
    else do setShutterSpeed r (← Video.setExposure r c .auto) 0
  | _ => do setShutterSpeed r (← Video.setExposure r c .auto) 0

/-- `RaspiCam_Cv::set`. The frame rate is set, but falls through to the
    answer for unknown properties. -/
def RaspiCamCv.set (pf : Platform) (r : SetResults) (propId : CapProp) (value : Double)
    (v : RaspiCamCv) : Except Fault (Bool × RaspiCamCv) :=
  let c := v.camera
  match propId with
  | .mode => .ok (true, v.with (setSensorMode (toInt pf value) c))
  | .frameWidth => .ok (true, v.with (setWidth (toUnsigned pf value) c))
  | .frameHeight => .ok (true, v.with (setHeight (toUnsigned pf value) c))
  | .format => .ok (v.setFormat value)
  | .brightness => do .ok (true, v.with (← setBrightness r c (toUnsigned pf value)))
  | .contrast => do
    .ok (true, v.with (← setContrast r c (toInt pf (Scaler.scale 0 100 (-100) 100 value))))
  | .saturation => do
    .ok (true, v.with (← setSaturation r c (toInt pf (Scaler.scale 0 100 (-100) 100 value))))
  | .gain => do .ok (true, v.with (← setIso r c (toInt pf (Scaler.scale 0 100 0 800 value))))
  | .exposure => do .ok (true, v.with (← RaspiCamCv.setExposure pf r value c))
  | .convertRgb => .ok (true, { v with imgFormat := cv8uc3 })
  | .fps => .ok (false, v.with (setFrameRate (toInt pf value) c))
  | .other _ => .ok (false, v)

/-- The wrapper as its constructor leaves it: around a fresh implementation,
    with the format set to `CV_8UC3`. -/
def RaspiCamCv.init : RaspiCamCv :=
  (RaspiCamCv.setFormat (.finite cv8uc3) { camera := Camera.init, imgFormat := 0 }).2

/-- `RaspiCam_Cv::retrieve`. -/
def RaspiCamCv.retrieve (lib : OpenCv) (v : RaspiCamCv) (image : Mat) (fresh : Nat → UInt8) :
    Option Mat := do
  let image ← lib.create image (i32 v.camera.impl.getHeight) (i32 v.camera.impl.getWidth)
    v.imgFormat fresh
  some { image with data := v.camera.impl.retrieve image.data }

/-- The operations on the wrapper, and the device behind it. -/
inductive CvOp
  | set (r : SetResults) (propId : CapProp) (value : Double)
  | setUserCallback (userCallback : Bool)
  | openCamera (o : OpenOutcome)
  | release
  | grab
  | retrieve
  | frame (b : Buffer) (fresh : Nat → UInt8) (r : SetResults)
  | control (e : ControlEvent)

/-- The operation of the implementation that an operation on the wrapper
    amounts to. -/
def CvOp.toOp : CvOp → Option Op
  | .set _ _ _ => none
  | .setUserCallback userCallback => some (.setUserCallback userCallback)
  | .openCamera o => some (.openCamera true o)
  | .release => some .release
  | .grab => some .grab
  | .retrieve => some .retrieve
  | .frame b fresh r => some (.frame b fresh r)
  | .control e => some (.control e)

/-- The wrapper as a system. -/
def cvStep (pf : Platform) (v : RaspiCamCv) (o : CvOp) : Option RaspiCamCv :=
  match o with
  | .set r propId value => ((v.set pf r propId value).toOption).map (·.2)
  | o => (o.toOp.bind (step v.camera)).map v.with

/-- The number of bytes `retrieve` allocates. -/
def RaspiCamCv.allocated (lib : OpenCv) (v : RaspiCamCv) : Int :=
  i32 v.camera.impl.getHeight * i32 v.camera.impl.getWidth * lib.channels v.imgFormat

/-- The pixel type given to images is that of the capture format, and so is
    the number of bytes. -/
structure RaspiCamCv.Agrees (lib : OpenCv) (v : RaspiCamCv) : Prop where
  color : v.imgFormat = cv8uc3 ↔
    v.camera.impl.state.captureFtm = .rgb ∨ v.camera.impl.state.captureFtm = .bgr
  gray : v.imgFormat = cv8uc1 ↔ v.camera.impl.state.captureFtm = .gray
  size : (v.camera.impl.imageTypeSize v.camera.impl.state.captureFtm : Int) = v.allocated lib

/-- Every byte of the image is written, and none past its end. -/
def CvOp.RetrievesWhole (lib : OpenCv) (v : RaspiCamCv) : CvOp → Prop
  | .retrieve => ∀ k : Nat, Written v.camera.impl.retrieveCopies k ↔ (k : Int) < v.allocated lib
  | _ => True

/-- An image of this size and format has between none and `2 ^ 32` bytes. -/
def Fits (fmt : RaspicamFormat) (w h : Int) : Prop :=
  0 ≤ bpp fmt * (w * h) ∧ bpp fmt * (w * h) < 4294967296

/-- The capture format that a value of `CAP_PROP_FORMAT` asks for. -/
def requested (value : Double) : Option RaspicamFormat :=
  if value = .finite cv8uc1 then some .gray
  else if value = .finite cv8uc3 then some .rgb
  else none

/-- The pixel type of a capture format the wrapper uses. -/
def pixelType : RaspicamFormat → Int
  | .gray => cv8uc1
  | _ => cv8uc3

/-- The condition on one operation: while the camera is open no other pixel
    type is asked for, gray frames are not declared RGB, and images stay below
    `2 ^ 32` bytes. -/
def CvOp.InStep (pf : Platform) (v : RaspiCamCv) : CvOp → Prop
  | .set _ .frameWidth value => Fits v.camera.impl.state.captureFtm
      (i32 (toUnsigned pf value).toNat) v.camera.impl.state.height
  | .set _ .frameHeight value => Fits v.camera.impl.state.captureFtm
      v.camera.impl.state.width (i32 (toUnsigned pf value).toNat)
  | .set _ .format value => ∀ fmt ∈ requested value,
      (v.camera.impl.isOpened = true → v.imgFormat = pixelType fmt) ∧
      (v.camera.impl.isOpened = false →
        Fits fmt v.camera.impl.state.width v.camera.impl.state.height)
  | .set _ .convertRgb _ => v.imgFormat = cv8uc3
  | _ => True

/-- The condition on retrieving an image: a frame is stored, unless the image
    has no pixels. -/
def CvOp.Ready (v : RaspiCamCv) : CvOp → Prop
  | .retrieve => v.camera.impl.callbackData.buffData.size ≠ 0 ∨
      v.camera.impl.state.width * v.camera.impl.state.height = 0
  | _ => True

instance CvOp.decidableReady (v : RaspiCamCv) : ∀ o : CvOp, Decidable (o.Ready v)
  | .retrieve => inferInstanceAs (Decidable (_ ∨ _))
  | .set _ _ _ | .setUserCallback _ | .openCamera _ | .release | .grab | .frame _ _ _
  | .control _ => inferInstanceAs (Decidable True)

/-- What holds of the wrapper whatever is done with it: it captures in one of
    two formats, and the recorded sides are values of `int`. -/
structure RaspiCamCv.Sound (v : RaspiCamCv) : Prop where
  format : v.camera.impl.state.captureFtm = .gray ∨ v.camera.impl.state.captureFtm = .rgb
  width : i32 v.camera.impl.state.width = v.camera.impl.state.width
  height : i32 v.camera.impl.state.height = v.camera.impl.state.height

/-- The advertised size in one of these formats. -/
theorem imageTypeSize_eq {p : PrivateImpl} {fmt : RaspicamFormat}
    (hfmt : fmt = .gray ∨ fmt = .rgb) :
    p.imageTypeSize fmt = u32 (bpp fmt * (p.state.width * p.state.height)) := by
  have hmul := u32_mul p.state.width p.state.height
  rcases hfmt with rfl | rfl
  · simp only [PrivateImpl.imageTypeSize, getImageTypeSize, PrivateImpl.getWidth,
      PrivateImpl.getHeight, hmul, bpp, Int.natCast_one, Int.one_mul]
  · simp only [PrivateImpl.imageTypeSize, getImageTypeSize, PrivateImpl.getWidth,
      PrivateImpl.getHeight, bpp, Nat.mul_assoc]
    rw [Int.natCast_mul]
    exact u32_mul_congr _ hmul

variable {lib : OpenCv}

theorem channels_pixelType (hlib : lib.Documented) {fmt : RaspicamFormat}
    (hfmt : fmt = .gray ∨ fmt = .rgb) : lib.channels (pixelType fmt) = bpp fmt := by
  rcases hfmt with rfl | rfl
  · exact hlib.oneChannel
  · exact hlib.threeChannels

theorem pixelType_agrees {fmt : RaspicamFormat} (hfmt : fmt = .gray ∨ fmt = .rgb) (type : Int) :
    ((type = cv8uc3 ↔ fmt = .rgb ∨ fmt = .bgr) ∧ (type = cv8uc1 ↔ fmt = .gray))
      ↔ type = pixelType fmt := by
  rcases hfmt with rfl | rfl <;> simp [pixelType, cv8uc1, cv8uc3] <;> omega

theorem allocated_eq (hlib : lib.Documented) {v : RaspiCamCv} (hs : v.Sound)
    (hp : v.imgFormat = pixelType v.camera.impl.state.captureFtm) : v.allocated lib
      = bpp v.camera.impl.state.captureFtm
        * (v.camera.impl.state.width * v.camera.impl.state.height) := by
  rw [RaspiCamCv.allocated, PrivateImpl.getHeight, PrivateImpl.getWidth, i32_u32, i32_u32,
    hs.width, hs.height, hp, channels_pixelType hlib hs.format,
    Int.mul_comm v.camera.impl.state.height, Int.mul_comm]

/-- What it takes for the pixel type and the sizes to agree. -/
theorem agrees_iff (hlib : lib.Documented) {v : RaspiCamCv} (hs : v.Sound) : v.Agrees lib ↔
    v.imgFormat = pixelType v.camera.impl.state.captureFtm ∧
      Fits v.camera.impl.state.captureFtm v.camera.impl.state.width
        v.camera.impl.state.height := by
  constructor
  · rintro ⟨hcolor, hgray, hsize⟩
    have hp := (pixelType_agrees hs.format v.imgFormat).mp ⟨hcolor, hgray⟩
    rw [allocated_eq hlib hs hp, imageTypeSize_eq hs.format, u32_eq_iff] at hsize
    exact ⟨hp, hsize⟩
  · rintro ⟨hp, hfits⟩
    rcases (pixelType_agrees hs.format v.imgFormat).mpr hp with ⟨hcolor, hgray⟩
    refine ⟨hcolor, hgray, ?_⟩
    rw [allocated_eq hlib hs hp, imageTypeSize_eq hs.format, u32_eq_iff]
    exact hfits

/-- The capture format, the recorded size and the pixel type are the same. -/
structure RaspiCamCv.SameShape (v v' : RaspiCamCv) : Prop where
  captureFtm : v'.camera.impl.state.captureFtm = v.camera.impl.state.captureFtm
  width : v'.camera.impl.state.width = v.camera.impl.state.width
  height : v'.camera.impl.state.height = v.camera.impl.state.height
  imgFormat : v'.imgFormat = v.imgFormat

theorem RaspiCamCv.SameShape.sound {v v' : RaspiCamCv} (h : v.SameShape v') (hs : v.Sound) :
    v'.Sound :=
  ⟨h.captureFtm ▸ hs.format, h.width ▸ hs.width, h.height ▸ hs.height⟩

/-- Wrappers of one shape agree or disagree together. -/
theorem RaspiCamCv.SameShape.agrees_iff (hlib : lib.Documented) {v v' : RaspiCamCv}
    (h : v.SameShape v') (hs : v.Sound) : v'.Agrees lib ↔ v.Agrees lib := by
  rw [Video.agrees_iff hlib hs, Video.agrees_iff hlib (h.sound hs), h.captureFtm, h.width,
    h.height, h.imgFormat]

theorem sameShape_of_store {v : RaspiCamCv} {c : Camera}
    (h : v.camera.impl.SameStore c.impl) : v.SameShape (v.with c) :=
  ⟨h.captureFtm, h.width, h.height, rfl⟩

theorem sameShape_of_setting {v : RaspiCamCv} {x : Setting} {r : SetResults} {c : Camera}
    (h : x.apply r v.camera = .ok c) : v.SameShape (v.with c) :=
  sameShape_of_store (Setting.apply_keeps h).follows.store

/-- Changing the exposure changes no shape. -/
theorem setExposure_store {pf : Platform} {r : SetResults} {value : Double} {c c' : Camera}
    (h : RaspiCamCv.setExposure pf r value c = .ok c') : c.impl.SameStore c'.impl := by
  have hauto : (do setShutterSpeed r (← Video.setExposure r c .auto) 0) = Except.ok c' →
      c.impl.SameStore c'.impl := by
    intro h
    rcases bind_ok h with ⟨d, hd, h⟩
    exact (Setting.apply_keeps (x := .exposure .auto) hd).follows.store.trans
      (Setting.apply_keeps (x := .shutterSpeed 0) h).follows.store
  unfold RaspiCamCv.setExposure at h
  cases value with
  | finite q =>
      -- Only these values are a shutter speed, and all others put the exposure back to auto.
      by_cases hq : 0 < q ∧ q ≤ 100
      · simp only [if_pos hq] at h
        exact (Setting.apply_keeps (x := .shutterSpeed _) h).follows.store
      · simp only [if_neg hq] at h
        exact hauto h
  | posInf => exact hauto h
  | negInf => exact hauto h
  | nan => exact hauto h

/-- A property that is neither a side nor a pixel type changes no shape. -/
theorem set_sameShape {pf : Platform} {r : SetResults} {propId : CapProp} {value : Double}
    {v v' : RaspiCamCv} {b : Bool} (h : v.set pf r propId value = .ok (b, v'))
    (hw : propId ≠ .frameWidth) (hh : propId ≠ .frameHeight) (hf : propId ≠ .format)
    (hc : propId ≠ .convertRgb) : v.SameShape v' := by
  cases propId with
  | frameWidth => exact absurd rfl hw
  | frameHeight => exact absurd rfl hh
  | format => exact absurd rfl hf
  | convertRgb => exact absurd rfl hc
  | mode =>
      rw [← (Prod.mk.inj (Except.ok.inj h)).2]
      unfold Video.setSensorMode
      by_cases ho : v.camera.impl.isOpened = true
      · rw [if_pos ho]
        exact ⟨rfl, rfl, rfl, rfl⟩
      · rw [if_neg ho]
        exact ⟨rfl, rfl, rfl, rfl⟩
  | fps =>
      rw [← (Prod.mk.inj (Except.ok.inj h)).2]
      exact ⟨rfl, rfl, rfl, rfl⟩
  | other propId =>
      rw [← (Prod.mk.inj (Except.ok.inj h)).2]
      exact ⟨rfl, rfl, rfl, rfl⟩
  | brightness =>
      rcases bind_ok h with ⟨c, hc, h⟩
      rw [← (Prod.mk.inj (Except.ok.inj h)).2]
      exact sameShape_of_setting (x := .brightness _) hc
  | contrast =>
      rcases bind_ok h with ⟨c, hc, h⟩
      rw [← (Prod.mk.inj (Except.ok.inj h)).2]
      exact sameShape_of_setting (x := .contrast _) hc
  | saturation =>
      rcases bind_ok h with ⟨c, hc, h⟩
      rw [← (Prod.mk.inj (Except.ok.inj h)).2]
      exact sameShape_of_setting (x := .saturation _) hc
  | gain =>
      rcases bind_ok h with ⟨c, hc, h⟩
      rw [← (Prod.mk.inj (Except.ok.inj h)).2]
      exact sameShape_of_setting (x := .iso _) hc
  | exposure =>
      rcases bind_ok h with ⟨c, hc, h⟩
      rw [← (Prod.mk.inj (Except.ok.inj h)).2]
      exact sameShape_of_store (setExposure_store hc)

/-- An operation that sets no property changes no shape. -/
theorem step_sameShape {pf : Platform} {o : CvOp} {v v' : RaspiCamCv}
    (h : cvStep pf v o = some v') (hset : ∀ r propId value, o ≠ .set r propId value) :
    v.SameShape v' := by
  have hcall : ∀ op : Op, (step v.camera op).map v.with = some v' →
      ∃ c, v' = v.with c ∧ exec v.camera op = .ok c := by
    intro op hm
    rcases Option.map_eq_some_iff.mp hm with ⟨c, hc, hv⟩
    exact ⟨c, hv.symm, (step_ok hc).2⟩
  cases o with
  | set r propId value => exact absurd rfl (hset r propId value)
  | setUserCallback userCallback =>
      rcases hcall (.setUserCallback userCallback) h with ⟨c, rfl, hx⟩
      rw [← Except.ok.inj hx]
      exact ⟨rfl, rfl, rfl, rfl⟩
  | openCamera o =>
      rcases hcall _ h with ⟨c, rfl, hx⟩
      rcases bind_ok hx with ⟨⟨b, d⟩, hd, hx⟩
      rw [← Except.ok.inj hx]
      exact sameShape_of_store (openCamera_ok hd).1
  | release =>
      rcases hcall _ h with ⟨c, rfl, hx⟩
      exact sameShape_of_store (release_ok hx).1
  | grab =>
      rcases hcall .grab h with ⟨c, rfl, hx⟩
      rw [← Except.ok.inj hx]
      exact sameShape_of_store (grab_follows v.camera).store
  | retrieve =>
      rcases hcall .retrieve h with ⟨c, rfl, hx⟩
      rw [← Except.ok.inj hx]
      exact ⟨rfl, rfl, rfl, rfl⟩
  | frame b fresh r =>
      rcases hcall _ h with ⟨c, rfl, hx⟩
      rcases bind_ok hx with ⟨camera, _, hx⟩
      rcases bind_ok hx with ⟨⟨grabbed, d⟩, hd, hx⟩
      rw [← Except.ok.inj hx]
      rcases videoBufferCallback_ok hd with ⟨_, himpl, _⟩
      unfold RaspiCamCv.with
      cases grabbed <;> exact ⟨by rw [himpl]; rfl, by rw [himpl]; rfl, by rw [himpl]; rfl, rfl⟩
  | control e =>
      rcases hcall _ h with ⟨c, rfl, hx⟩
      rw [← Except.ok.inj hx]
      exact sameShape_of_store (cameraControlCallback_store e v.camera.impl)

theorem sound_init : RaspiCamCv.init.Sound := ⟨Or.inr rfl, rfl, rfl⟩

theorem agrees_init (hlib : lib.Documented) : RaspiCamCv.init.Agrees lib :=
  (agrees_iff hlib sound_init).mpr ⟨rfl, by decide, by decide⟩

/-- What a requested capture format makes of the wrapper. -/
theorem setFormat_requested {value : Double} {fmt : RaspicamFormat} (v : RaspiCamCv)
    (h : requested value = some fmt) : v.setFormat value
      = (true, { camera := Video.setFormat fmt v.camera, imgFormat := pixelType fmt }) ∧
        (fmt = .gray ∨ fmt = .rgb) := by
  unfold requested at h
  unfold RaspiCamCv.setFormat
  by_cases hg : value = .finite cv8uc1
  · rw [if_pos hg, Option.some.injEq] at h
    rw [if_pos hg, ← h]
    exact ⟨rfl, Or.inl rfl⟩
  · rw [if_neg hg] at h ⊢
    by_cases hc : value = .finite cv8uc3
    · rw [if_pos hc, Option.some.injEq] at h
      rw [if_pos hc, ← h]
      exact ⟨rfl, Or.inr rfl⟩
    · rw [if_neg hc] at h
      exact absurd h.symm (Option.some_ne_none fmt)

theorem setFormat_other {value : Double} (v : RaspiCamCv) (h : requested value = none) :
    v.setFormat value = (false, v) := by
  unfold requested at h
  unfold RaspiCamCv.setFormat
  by_cases hg : value = .finite cv8uc1
  · rw [if_pos hg] at h
    exact absurd h (Option.some_ne_none _)
  · rw [if_neg hg] at h ⊢
    by_cases hc : value = .finite cv8uc3
    · rw [if_pos hc] at h
      exact absurd h (Option.some_ne_none _)
    · rw [if_neg hc]

/-- Asking for a capture format: it takes effect while the camera is closed,
    and while it is open only the pixel type changes. -/
theorem setFormat_step (hlib : lib.Documented) {v : RaspiCamCv} {value : Double} (hs : v.Sound)
    (ha : v.Agrees lib) :
    (v.setFormat value).2.Sound ∧ ((v.setFormat value).2.Agrees lib ↔
      ∀ fmt ∈ requested value,
        (v.camera.impl.isOpened = true → v.imgFormat = pixelType fmt) ∧
        (v.camera.impl.isOpened = false →
          Fits fmt v.camera.impl.state.width v.camera.impl.state.height)) := by
  cases hreq : requested value with
  | none =>
      rw [setFormat_other v hreq]
      exact ⟨hs, fun _ fmt hf => absurd hf.symm (by simp), fun _ => ha⟩
  | some fmt =>
      rcases setFormat_requested v hreq with ⟨heq, hfmt⟩
      rw [heq]
      simp only [Option.mem_some_iff, forall_eq']
      unfold Video.setFormat
      -- An open camera ignores the format, but the wrapper changes its pixel type all the same.
      by_cases ho : v.camera.impl.isOpened = true
      · rw [if_pos ho]
        have hs' : RaspiCamCv.Sound { camera := v.camera, imgFormat := pixelType fmt } :=
          ⟨hs.format, hs.width, hs.height⟩
        rcases (agrees_iff hlib hs).mp ha with ⟨hp, hfits⟩
        refine ⟨hs', ?_⟩
        rw [agrees_iff hlib hs']
        simp only [ho, Bool.true_eq_false, false_implies, and_true, true_implies, hp]
        exact ⟨fun h => h.1.symm, fun h => ⟨h.symm, hfits⟩⟩
      · rw [if_neg ho]
        have hs' : RaspiCamCv.Sound
            ⟨v.camera.record { v.camera.impl.state with captureFtm := fmt }, pixelType fmt⟩ :=
          ⟨hfmt, hs.width, hs.height⟩
        refine ⟨hs', ?_⟩
        rw [agrees_iff hlib hs']
        simp only [Bool.eq_false_iff.mpr ho, Bool.false_eq_true, false_implies, true_and,
          true_implies]
        exact ⟨fun h => h.2, fun h => ⟨rfl, h⟩⟩

/-- What it takes for one operation to keep pixel type and capture format in
    step. -/
theorem agrees_step_iff (hlib : lib.Documented) {pf : Platform} {o : CvOp} {v v' : RaspiCamCv}
    (hs : v.Sound) (ha : v.Agrees lib) (h : cvStep pf v o = some v') :
    v'.Sound ∧ (v'.Agrees lib ↔ o.InStep pf v) := by
  have hother : v.SameShape v' → o.InStep pf v → v'.Sound ∧ (v'.Agrees lib ↔ o.InStep pf v) :=
    fun hshape hin => ⟨hshape.sound hs, fun _ => hin, fun _ => (hshape.agrees_iff hlib hs).mpr ha⟩
  rcases (agrees_iff hlib hs).mp ha with ⟨hp, hfits⟩
  cases o with
  | set r propId value =>
      rcases Option.map_eq_some_iff.mp h with ⟨⟨b, u⟩, hu, rfl⟩
      have hx : v.set pf r propId value = .ok (b, u) := toOption_ok hu
      -- Four properties reach the pixel type or the shape of the frames.
      cases propId with
      | frameWidth =>
          rw [← (Prod.mk.inj (Except.ok.inj hx)).2]
          have hs' : (v.with (setWidth (toUnsigned pf value) v.camera)).Sound :=
            ⟨hs.format, i32_i32 _, hs.height⟩
          refine ⟨hs', ?_⟩
          rw [agrees_iff hlib hs']
          exact ⟨fun h => h.2, fun h => ⟨hp, h⟩⟩
      | frameHeight =>
          rw [← (Prod.mk.inj (Except.ok.inj hx)).2]
          have hs' : (v.with (setHeight (toUnsigned pf value) v.camera)).Sound :=
            ⟨hs.format, hs.width, i32_i32 _⟩
          refine ⟨hs', ?_⟩
          rw [agrees_iff hlib hs']
          exact ⟨fun h => h.2, fun h => ⟨hp, h⟩⟩
      | format =>
          rw [show u = (v.setFormat value).2 from
            (congrArg Prod.snd (Except.ok.inj hx)).symm]
          exact setFormat_step hlib hs ha
      | convertRgb =>
          rw [← (Prod.mk.inj (Except.ok.inj hx)).2]
          have hs' : RaspiCamCv.Sound { v with imgFormat := cv8uc3 } :=
            ⟨hs.format, hs.width, hs.height⟩
          refine ⟨hs', ?_⟩
          rw [agrees_iff hlib hs']
          exact ⟨fun h => hp.trans h.1.symm, fun h => ⟨h.symm.trans hp, hfits⟩⟩
      | mode => exact hother (set_sameShape hx nofun nofun nofun nofun) trivial
      | fps => exact hother (set_sameShape hx nofun nofun nofun nofun) trivial
      | other propId => exact hother (set_sameShape hx nofun nofun nofun nofun) trivial
      | brightness => exact hother (set_sameShape hx nofun nofun nofun nofun) trivial
      | contrast => exact hother (set_sameShape hx nofun nofun nofun nofun) trivial
      | saturation => exact hother (set_sameShape hx nofun nofun nofun nofun) trivial
      | gain => exact hother (set_sameShape hx nofun nofun nofun nofun) trivial
      | exposure => exact hother (set_sameShape hx nofun nofun nofun nofun) trivial
  | _ => exact hother (step_sameShape h nofun) trivial

/-- Retrieving writes the whole image exactly when a frame is there or the
    image has no pixels. -/
theorem retrievesWhole_iff (hlib : lib.Documented) {o : CvOp} {v : RaspiCamCv} (hs : v.Sound)
    (ha : v.Agrees lib) : o.RetrievesWhole lib v ↔ o.Ready v := by
  cases o with
  | retrieve =>
      have hallocated : v.allocated lib = bpp v.camera.impl.state.captureFtm
          * (v.camera.impl.state.width * v.camera.impl.state.height) :=
        allocated_eq hlib hs ((agrees_iff hlib hs).mp ha).1
      have hbpp : 1 ≤ bpp v.camera.impl.state.captureFtm := by
        rcases hs.format with hf | hf <;> rw [hf] <;> decide
      have hfits := ((agrees_iff hlib hs).mp ha).2.1
      simp only [CvOp.RetrievesWhole, CvOp.Ready, PrivateImpl.retrieveCopies]
      -- Before the first frame nothing is copied, which is enough for an image without pixels only.
      by_cases hzero : v.camera.impl.callbackData.buffData.size = 0
      · simp only [hzero, if_true, not_written_nil, false_iff, ne_eq, not_true_eq_false, false_or]
        rw [← hallocated] at hfits
        constructor
        · intro h
          have h0 := h 0
          have hprod : bpp v.camera.impl.state.captureFtm
              * (v.camera.impl.state.width * v.camera.impl.state.height) = 0 := by omega
          rcases Int.mul_eq_zero.mp hprod with hb | hz
          · omega
          · exact hz
        · intro hz k
          rw [hallocated, hz, Int.mul_zero]
          omega
      · simp only [ne_eq, hzero, not_false_eq_true, true_or, iff_true]
        intro k
        rw [← ha.size]
        constructor
        · rintro ⟨c, hc, hlo, hhi⟩
          rw [List.mem_singleton.mp hc] at hhi
          simp only at hhi
          omega
        · intro hk
          exact ⟨_, List.mem_cons_self, by simp only; omega, by simp only; omega⟩
  | _ => exact Iff.rfl

/-- The pixel type given to images is that of the captured frames in every
    state of a run, and every image is retrieved as a whole, exactly when
    every operation of the run meets its condition. -/
theorem retrieve_agrees_iff (lib : OpenCv) (hlib : lib.Documented) (pf : Platform)
    (os : List CvOp) : Always (cvStep pf) (fun v => v.Agrees lib) RaspiCamCv.init os ∧
        Along (cvStep pf) (fun v o => o.RetrievesWhole lib v) RaspiCamCv.init os ↔
      Along (cvStep pf) (fun v o => o.InStep pf v ∧ o.Ready v) RaspiCamCv.init os := by
  -- `Sound` holds along every run, so it can be carried beside `Agrees`.
  have hsound : Always (cvStep pf) (fun v => v.Agrees lib) RaspiCamCv.init os ↔
      Always (cvStep pf) (fun v => v.Sound ∧ v.Agrees lib) RaspiCamCv.init os :=
    always_strengthen (fun v o v' hs ha h _ => (agrees_step_iff hlib hs ha h).1) sound_init
  have hagree : Always (cvStep pf) (fun v => v.Sound ∧ v.Agrees lib) RaspiCamCv.init os ↔
      Along (cvStep pf) (fun v o => o.InStep pf v) RaspiCamCv.init os := by
    refine always_iff_along (fun v o v' hv h => ?_) ⟨sound_init, agrees_init hlib⟩
    rcases agrees_step_iff hlib hv.1 hv.2 h with ⟨hs', hiff⟩
    exact ⟨fun h' => hiff.mp h'.2, fun h' => ⟨hs', hiff.mpr h'⟩⟩
  have hwhole : Always (cvStep pf) (fun v => v.Sound ∧ v.Agrees lib) RaspiCamCv.init os →
      (Along (cvStep pf) (fun v o => o.RetrievesWhole lib v) RaspiCamCv.init os ↔
        Along (cvStep pf) (fun v o => o.Ready v) RaspiCamCv.init os) :=
    along_congr fun v o hv => retrievesWhole_iff hlib hv.1 hv.2
  rw [along_and, hsound]
  constructor
  · rintro ⟨ha, hw⟩
    exact ⟨hagree.mp ha, (hwhole ha).mp hw⟩
  · rintro ⟨hi, hr⟩
    exact ⟨hagree.mpr hi, (hwhole (hagree.mpr hi)).mpr hr⟩

/-- A frame is grabbed and retrieved. -/
def grabbed : List CvOp :=
  [.openCamera .allOk, .grab, .frame ⟨fun _ => 7, 3686400⟩ (fun _ => 0) .allOk, .retrieve]

theorem retrieve_agrees_iff_grabbed :
    Always (cvStep ⟨fun _ => 0, fun _ => 0⟩) (fun v => v.Agrees .plain) RaspiCamCv.init grabbed ∧
      Along (cvStep ⟨fun _ => 0, fun _ => 0⟩) (fun v o => o.RetrievesWhole .plain v)
        RaspiCamCv.init grabbed := by
  refine (retrieve_agrees_iff .plain plain_documented _ _).mpr (along_and.mpr ⟨?_, by decide⟩)
  refine along_of_forall fun o ho v => ?_
  simp only [grabbed, List.mem_cons, List.not_mem_nil, or_false] at ho
  rcases ho with rfl | rfl | rfl | rfl <;> trivial

/-- The pixel type changed to gray scale while the camera is open: the image
    is allocated with a third of the bytes that are copied into it. -/
theorem set_format_while_open :
    let pf : Platform := ⟨fun _ => 0, fun _ => 0⟩
    let os : List CvOp := [.openCamera .allOk, .grab,
      .frame ⟨fun _ => 7, 3686400⟩ (fun _ => 0) .allOk,
      .set .allOk .format (.finite 0), .retrieve]
    ¬ (Always (cvStep pf) (fun v => v.Agrees .plain) RaspiCamCv.init os ∧
      Along (cvStep pf) (fun v o => o.RetrievesWhole .plain v) RaspiCamCv.init os) := by
  rintro pf os ⟨ha, _⟩
  have hrun : (run (cvStep pf) RaspiCamCv.init os).map
      (fun v => (v.imgFormat, v.camera.impl.state.captureFtm)) = some (cv8uc1, .rgb) := by decide
  rcases Option.map_eq_some_iff.mp hrun with ⟨v, hv, hshape⟩
  rcases Prod.mk.inj hshape with ⟨htype, hfmt⟩
  have hgray := (always_last ha hv).gray.mp htype
  exact absurd (hgray.symm.trans hfmt) (by decide)

end Video

end RaspiCam
