import RaspiCam.Core.Types
import RaspiCam.Lib.Bytes
import RaspiCam.Lib.Machine

/-!
# Storing a Frame

The part of `video_buffer_callback` that copies a frame out of the buffer
MMAL delivers. For unencoded formats that buffer is padded: rows up to a
multiple of 32 pixels, the number of rows up to a multiple of 16. When the
width needs no padding the callback takes the whole buffer over with one
`memcpy` (`storeRaw`); otherwise it copies row by row, and for YUV420 plane
by plane (`storeRows`).

The loops are the lists of the ranges they copy, with the offsets computed in
`int` as the source computes them. `rowCopies_eq` and `uvCopies_eq` say that
for a frame whose planes stay below `2 ^ 31` bytes nothing overflows, and the
loops are then the row copies of `Lib.Bytes`.

The size formula rounds differently from the plane arithmetic: it halves the
product of half the width with the height, where the planes halve each side.
`planes_le_imageTypeSize` is the inequality between the two, and
`imageTypeSize_le_paddedLength` bounds both by the padded frame.

## Main definitions

* `Membuf`: The growing buffer a frame is kept in.
* `Buffer`: What MMAL delivers.
* `getImageTypeSize`: The advertised size of an image.
* `storeRaw`, `storeRows`: The two branches.
* `storeFrame`: The branch taken.
* `frameCopies`, `frameSize`: The copies performed and the buffer they fill.
* `paddedLength`: The length of a padded frame.
* `planesSize`: The size of the planes that the loops write.

## Theorems

* `isRaw_iff`: The width decides the branch.
* `rowCopies_eq`, `uvCopies_eq`: The loops without overflow.
* `storeFrame_data`, `storeFrame_size`: What a stored frame consists of.
* `planes_le_imageTypeSize`: The planes fit in the advertised size.
* `imageTypeSize_le_paddedLength`: The advertised size fits in the frame.
* `planeCopies_written_iff`: The bytes that the loops write.
* `planesSize_eq_iff`: When their number is the advertised one.
-/

namespace RaspiCam

open Bytes Machine

namespace Video

/-- `membuf<unsigned char>`. -/
structure Membuf where
  data : Nat → UInt8
  size : Nat

/-- `membuf::membuf`. -/
def Membuf.empty : Membuf := ⟨fun _ => 0, 0⟩

/-- `membuf::resize`. A new allocation has whatever contents it has, `fresh`. -/
def Membuf.resize (m : Membuf) (s : Nat) (fresh : Nat → UInt8) : Membuf :=
  if s ≠ m.size then ⟨fresh, s⟩ else m

@[simp] theorem Membuf.resize_size (m : Membuf) (s : Nat) (fresh : Nat → UInt8) :
    (m.resize s fresh).size = s := by
  unfold Membuf.resize
  by_cases h : s ≠ m.size
  · rw [if_pos h]
  · rw [if_neg h]
    exact (not_not.mp h).symm

/-- `MMAL_BUFFER_HEADER_T`, as far as the callback reads it. -/
structure Buffer where
  data : Nat → UInt8
  length : Nat

/-- `Private_Impl::getImageTypeSize`, for given values of `getWidth()` and
    `getHeight()`. The arithmetic is that of `unsigned int`. -/
def getImageTypeSize (width height : Nat) : RaspicamFormat → Nat
  | .yuv420 => u32 (width * height + 2 * (u32 (width / 2 * height : Nat) / 2) : Nat)
  | .gray => u32 (width * height : Nat)
  | .bgr => u32 (3 * width * height : Nat)
  | .rgb => u32 (3 * width * height : Nat)
  | .ignore => 0

/-- `VCOS_ALIGN_UP`, assigned to an `int`. -/
def vcosAlignUp (p n : Int) : Int := i32 ((p + n - 1) / n * n)

/-- Bytes per pixel of the first plane. -/
def bpp : RaspicamFormat → Nat
  | .bgr => 3
  | .rgb => 3
  | _ => 1

/-- The single copy of the fast path. -/
def rawCopies (b : Buffer) : List Copy := [{ dst := 0, src := 0, len := b.length }]

/-- The row loop: `height` rows of `width * bpp` bytes. -/
def rowCopies (width height : Int) (fmt : RaspicamFormat) : List Copy :=
  (List.range height.toNat).map fun (i : Nat) =>
    { dst := i32 (i32 (i * width) * bpp fmt)
      src := i32 (i32 (i * vcosAlignUp width 32) * bpp fmt)
      len := i32 (width * bpp fmt) }

/-- The plane loop of YUV420. The strides are halved in place before it, and
    both pointers advance by a whole plane after each one. -/
def uvCopies (width height : Int) : List Copy :=
  let outUV := i32 (width * height)
  let bufferUV := i32 (vcosAlignUp height 16 * vcosAlignUp width 32)
  let w := width.tdiv 2
  let h := height.tdiv 2
  let bw := (vcosAlignUp width 32).tdiv 2
  let bh := (vcosAlignUp height 16).tdiv 2
  (List.range 2).flatMap fun (plane : Nat) => (List.range h.toNat).map fun (i : Nat) =>
    { dst := outUV + plane * i32 (w * h) + i32 (i * w)
      src := bufferUV + plane * i32 (bw * bh) + i32 (i * bw)
      len := w }

/-- All copies of the slow path. -/
def planeCopies (width height : Int) (fmt : RaspicamFormat) : List Copy :=
  rowCopies width height fmt ++ (if fmt = .yuv420 then uvCopies width height else [])

/-- The fast path: the whole buffer, padding included. -/
def storeRaw (b : Buffer) (m : Membuf) (fresh : Nat → UInt8) : Membuf :=
  let m := m.resize b.length fresh
  { m with data := applyAll (rawCopies b) b.data m.data }

/-- The slow path: the padding is dropped on the way. -/
def storeRows (width height : Int) (fmt : RaspicamFormat) (b : Buffer) (m : Membuf)
    (fresh : Nat → UInt8) : Membuf :=
  let m := m.resize (getImageTypeSize (u32 width) (u32 height) fmt) fresh
  { m with data := applyAll (planeCopies width height fmt) b.data m.data }

/-- The frame is taken over whole. The source also does so for an encoded
    frame, but sets that flag to false just before. -/
def isRaw (width : Int) : Bool := vcosAlignUp width 32 == width

/-- The storing part of `video_buffer_callback`. -/
def storeFrame (width height : Int) (fmt : RaspicamFormat) (b : Buffer) (m : Membuf)
    (fresh : Nat → UInt8) : Membuf :=
  if isRaw width then storeRaw b m fresh else storeRows width height fmt b m fresh

/-- The copies `storeFrame` performs. -/
def frameCopies (width height : Int) (fmt : RaspicamFormat) (b : Buffer) : List Copy :=
  if isRaw width then rawCopies b else planeCopies width height fmt

/-- The size of the buffer `storeFrame` fills. -/
def frameSize (width height : Int) (fmt : RaspicamFormat) (b : Buffer) : Nat :=
  if isRaw width then b.length else getImageTypeSize (u32 width) (u32 height) fmt

theorem storeFrame_size (width height : Int) (fmt : RaspicamFormat) (b : Buffer) (m : Membuf)
    (fresh : Nat → UInt8) :
    (storeFrame width height fmt b m fresh).size = frameSize width height fmt b := by
  unfold storeFrame frameSize
  by_cases h : isRaw width = true
  · simp only [if_pos h, storeRaw, Membuf.resize_size]
  · simp only [if_neg h, storeRows, Membuf.resize_size]

theorem storeFrame_data (width height : Int) (fmt : RaspicamFormat) (b : Buffer) (m : Membuf)
    (fresh : Nat → UInt8) :
    (storeFrame width height fmt b m fresh).data
      = applyAll (frameCopies width height fmt b) b.data
        (m.resize (frameSize width height fmt b) fresh).data := by
  unfold storeFrame frameCopies frameSize
  by_cases h : isRaw width = true
  · simp only [if_pos h, storeRaw]
  · simp only [if_neg h, storeRows]

/-- The width of a padded row, in pixels. -/
def bufferWidth (w : Nat) : Nat := alignUp w 32

/-- The number of rows of a padded plane. -/
def bufferHeight (h : Nat) : Nat := alignUp h 16

/-- The length of a padded frame: one plane of three bytes a pixel for RGB and
    BGR, the three planes of I420 otherwise. -/
def paddedLength (w h : Nat) (fmt : RaspicamFormat) : Nat :=
  match fmt with
  | .rgb => 3 * (bufferWidth w * bufferHeight h)
  | .bgr => 3 * (bufferWidth w * bufferHeight h)
  | _ => bufferWidth w * bufferHeight h + 2 * (bufferWidth w / 2 * (bufferHeight h / 2))

theorem le_bufferWidth (w : Nat) : w ≤ bufferWidth w := le_alignUp w (by omega)

theorem le_bufferHeight (h : Nat) : h ≤ bufferHeight h := le_alignUp h (by omega)

/-- The first plane alone is part of the frame. -/
theorem plane_le_paddedLength (w h : Nat) (fmt : RaspicamFormat) :
    bufferWidth w * bufferHeight h * bpp fmt ≤ paddedLength w h fmt := by
  cases fmt <;> simp only [bpp, paddedLength] <;> omega

theorem pixels_le_plane (w h : Nat) : w * h ≤ bufferWidth w * bufferHeight h :=
  Nat.mul_le_mul (le_bufferWidth w) (le_bufferHeight h)

/-- Aligning does not overflow when the aligned value fits in `int`. -/
theorem vcosAlignUp_eq {x n : Nat} (hn : 0 < n) (h : alignUp x n < 2147483648) :
    vcosAlignUp x n = (alignUp x n : Nat) := by
  have hdiv : ((x : Int) + n - 1) / n * n = (alignUp x n : Nat) := by
    unfold alignUp
    rw [show ((x : Int) + n - 1) = ((x + n - 1 : Nat) : Int) by omega]
    push_cast
    rfl
  unfold vcosAlignUp
  rw [hdiv]
  exact i32_of_range (by omega) (by omega)

theorem vcosAlignUp_width {w : Nat} (h : bufferWidth w < 2147483648) :
    vcosAlignUp w 32 = (bufferWidth w : Nat) := vcosAlignUp_eq (n := 32) (by omega) h

theorem vcosAlignUp_height {h : Nat} (hfit : bufferHeight h < 2147483648) :
    vcosAlignUp h 16 = (bufferHeight h : Nat) := vcosAlignUp_eq (n := 16) (by omega) hfit

/-- The fast path is taken exactly for the widths that need no padding. -/
theorem isRaw_iff {w : Nat} (hw : bufferWidth w < 2147483648) :
    isRaw (w : Int) = true ↔ 32 ∣ w := by
  rw [isRaw, vcosAlignUp_width hw, beq_iff_eq, Int.natCast_inj]
  exact alignUp_eq_self_iff w (by omega)

/-- A natural number below `2 ^ 31` is an `int`. -/
theorem i32_natCast {x : Nat} (h : x < 2147483648) : i32 (x : Int) = x :=
  i32_of_range (by omega) (by omega)

/-- A plane of at least one row bounds its width. -/
theorem bufferWidth_le_plane {w h : Nat} (hh : 1 ≤ h) (fmt : RaspicamFormat) :
    bufferWidth w ≤ bufferWidth w * bufferHeight h * bpp fmt := by
  have hH : 1 ≤ bufferHeight h := Nat.le_trans hh (le_bufferHeight h)
  have hB : 1 ≤ bpp fmt := by cases fmt <;> simp only [bpp] <;> omega
  calc bufferWidth w = bufferWidth w * 1 * 1 := by omega
    _ ≤ bufferWidth w * bufferHeight h * bpp fmt :=
      Nat.mul_le_mul (Nat.mul_le_mul_left _ hH) hB

/-- Without overflow the row loop is the row copies of a packed picture. -/
theorem rowCopies_eq {w h : Nat} {fmt : RaspicamFormat} (hh : 1 ≤ h)
    (hfit : bufferWidth w * bufferHeight h * bpp fmt < 2147483648) :
    rowCopies w h fmt
      = rows h 0 0 (w * bpp fmt) (bufferWidth w * bpp fmt) (w * bpp fmt) := by
  have hW := le_bufferWidth w
  have hBW := bufferWidth_le_plane (w := w) hh fmt
  have hB : 1 ≤ bpp fmt := by cases fmt <;> simp only [bpp] <;> omega
  have hH : 1 ≤ bufferHeight h := Nat.le_trans hh (le_bufferHeight h)
  unfold rowCopies rows
  rw [Int.toNat_natCast, vcosAlignUp_width (Nat.lt_of_le_of_lt hBW hfit)]
  -- One row of the loop is one row of the picture.
  refine List.map_congr_left (fun i hi => ?_)
  have hih : i ≤ bufferHeight h :=
    Nat.le_trans (Nat.le_of_lt (List.mem_range.mp hi)) (le_bufferHeight h)
  -- Every offset is below the end of the padded plane.
  have hrow : i * bufferWidth w ≤ bufferWidth w * bufferHeight h := by
    rw [Nat.mul_comm]
    exact Nat.mul_le_mul_left _ hih
  have hsrc := Nat.mul_le_mul_right (bpp fmt) hrow
  have hdst := Nat.mul_le_mul_right (bpp fmt) (Nat.mul_le_mul_left i hW)
  have hplane : bufferWidth w * bufferHeight h ≤ bufferWidth w * bufferHeight h * bpp fmt :=
    Nat.le_mul_of_pos_right _ hB
  have hlow : i * w ≤ i * bufferWidth w := Nat.mul_le_mul_left i hW
  have hlen := Nat.mul_le_mul_right (bpp fmt) hW
  have hstride : bufferWidth w * bpp fmt ≤ bufferWidth w * bufferHeight h * bpp fmt :=
    Nat.mul_le_mul_right _ (Nat.le_mul_of_pos_right _ hH)
  simp only [← Int.natCast_mul]
  rw [i32_natCast (by omega), i32_natCast (by omega), i32_natCast (by omega)]
  simp only [← Int.natCast_mul]
  rw [i32_natCast (by omega), i32_natCast (by omega)]
  simp only [Nat.zero_add, Nat.mul_assoc]

theorem tdiv_two (x : Nat) : (x : Int).tdiv 2 = ((x / 2 : Nat) : Int) := by
  rw [Int.tdiv_eq_ediv_of_nonneg (by omega)]
  omega

/-- Half a row, taken at most half the number of rows times, stays inside the
    plane. -/
theorem half_plane_le {i w h : Nat} (hi : i ≤ h / 2) : i * (w / 2) ≤ w * h := by
  calc i * (w / 2) ≤ h * w := Nat.mul_le_mul (by omega) (by omega)
    _ = w * h := Nat.mul_comm h w

/-- Without overflow the plane loop is the row copies of the two chroma
    planes, one after the other on both sides. -/
theorem uvCopies_eq {w h : Nat} (hw : 1 ≤ w) (hh : 1 ≤ h)
    (hfit : bufferWidth w * bufferHeight h < 2147483648) :
    uvCopies w h
      = rows (h / 2) (w * h) (bufferHeight h * bufferWidth w) (w / 2) (bufferWidth w / 2) (w / 2)
        ++ rows (h / 2) (w * h + w / 2 * (h / 2))
          (bufferHeight h * bufferWidth w + bufferWidth w / 2 * (bufferHeight h / 2))
          (w / 2) (bufferWidth w / 2) (w / 2) := by
  have hW := le_bufferWidth w
  have hH := le_bufferHeight h
  have hpix := pixels_le_plane w h
  have hBW : bufferWidth w ≤ bufferWidth w * bufferHeight h :=
    Nat.le_mul_of_pos_right _ (by omega)
  have hBH : bufferHeight h ≤ bufferWidth w * bufferHeight h :=
    Nat.le_mul_of_pos_left _ (by omega)
  have hcomm : bufferHeight h * bufferWidth w = bufferWidth w * bufferHeight h := Nat.mul_comm _ _
  have hsmall : w / 2 * (h / 2) ≤ w * h := Nat.mul_le_mul (by omega) (by omega)
  have hlarge : bufferWidth w / 2 * (bufferHeight h / 2) ≤ bufferWidth w * bufferHeight h :=
    Nat.mul_le_mul (by omega) (by omega)
  -- One plane: the offsets inside it stay below its end.
  have hplane : ∀ d s : Nat, ((List.range (h / 2)).map fun (i : Nat) =>
      ({ dst := (d : Int) + i32 (i * (w / 2) : Nat)
         src := (s : Int) + i32 (i * (bufferWidth w / 2) : Nat)
         len := ((w / 2 : Nat) : Int) } : Copy))
      = rows (h / 2) d s (w / 2) (bufferWidth w / 2) (w / 2) := by
    intro d s
    unfold rows
    refine List.map_congr_left (fun i hi => ?_)
    have hih : i ≤ h / 2 := Nat.le_of_lt (List.mem_range.mp hi)
    have h1 := half_plane_le (w := w) hih
    have h2 := half_plane_le (w := bufferWidth w) (show i ≤ bufferHeight h / 2 by omega)
    rw [i32_natCast (by omega), i32_natCast (by omega)]
    push_cast
    rfl
  unfold uvCopies
  simp only [vcosAlignUp_width (Nat.lt_of_le_of_lt hBW hfit),
    vcosAlignUp_height (Nat.lt_of_le_of_lt hBH hfit), tdiv_two, Int.toNat_natCast,
    ← Int.natCast_mul]
  rw [i32_natCast (by omega), i32_natCast (by omega), i32_natCast (by omega),
    i32_natCast (by omega)]
  simp only [List.range_succ, List.range_zero, List.nil_append, List.flatMap_append,
    List.flatMap_cons, List.flatMap_nil, List.append_nil]
  rw [← hplane, ← hplane]
  simp only [Int.natCast_add, Int.natCast_zero, Int.natCast_one, Int.zero_mul, Int.one_mul,
    Int.add_zero]

theorem two_dvd_bufferHeight (h : Nat) : 2 ∣ bufferHeight h :=
  Nat.dvd_trans (by decide) (dvd_alignUp h 16)

/-- The planes fit in the advertised size, which halves only once per
    product. -/
theorem planes_le_imageTypeSize (w h : Nat) :
    w * h + 2 * (w / 2 * (h / 2)) ≤ w * h + 2 * (w / 2 * h / 2) := by
  have hle : w / 2 * (h / 2) ≤ w / 2 * h / 2 := by
    rw [Nat.le_div_iff_mul_le (by omega), Nat.mul_assoc]
    exact Nat.mul_le_mul_left _ (by omega)
  omega

/-- The chroma part of the advertised size fits in the padded chroma planes. -/
theorem chroma_le_padded (w h : Nat) :
    w / 2 * h / 2 ≤ bufferWidth w / 2 * (bufferHeight h / 2) := by
  have hle : w / 2 * h ≤ bufferWidth w / 2 * bufferHeight h :=
    Nat.mul_le_mul (Nat.div_le_div_right (le_bufferWidth w)) (le_bufferHeight h)
  calc w / 2 * h / 2 ≤ bufferWidth w / 2 * bufferHeight h / 2 := Nat.div_le_div_right hle
    _ = bufferWidth w / 2 * (bufferHeight h / 2) :=
      Nat.mul_div_assoc _ (two_dvd_bufferHeight h)

/-- The advertised size fits in the padded frame, whatever wraps around. -/
theorem imageTypeSize_le_paddedLength (w h : Nat) (fmt : RaspicamFormat) :
    getImageTypeSize w h fmt ≤ paddedLength w h fmt := by
  have hpix := pixels_le_plane w h
  have hchroma := chroma_le_padded w h
  have hhalf := Nat.div_le_div_right (c := 2) (u32_le (w / 2 * h))
  cases fmt with
  | yuv420 =>
      refine Nat.le_trans (u32_le _) ?_
      simp only [paddedLength]
      omega
  | gray =>
      refine Nat.le_trans (u32_le _) ?_
      simp only [paddedLength]
      omega
  | bgr =>
      refine Nat.le_trans (u32_le _) ?_
      simp only [paddedLength, Nat.mul_assoc]
      omega
  | rgb =>
      refine Nat.le_trans (u32_le _) ?_
      simp only [paddedLength, Nat.mul_assoc]
      omega
  | ignore => exact Nat.zero_le _

/-- The advertised size when nothing wraps around. -/
def typeSize (w h : Nat) : RaspicamFormat → Nat
  | .yuv420 => w * h + 2 * (w / 2 * h / 2)
  | .gray => w * h
  | .bgr => 3 * (w * h)
  | .rgb => 3 * (w * h)
  | .ignore => 0

theorem typeSize_le_paddedLength (w h : Nat) (fmt : RaspicamFormat) :
    typeSize w h fmt ≤ paddedLength w h fmt := by
  have hpix := pixels_le_plane w h
  have hchroma := chroma_le_padded w h
  cases fmt <;> simp only [typeSize, paddedLength] <;> omega

/-- Below `2 ^ 32` the advertised size is the size. -/
theorem getImageTypeSize_eq {w h : Nat} {fmt : RaspicamFormat}
    (hfit : typeSize w h fmt < 4294967296) : getImageTypeSize w h fmt = typeSize w h fmt := by
  cases fmt with
  | yuv420 =>
      have hle : w / 2 * h ≤ w * h := Nat.mul_le_mul_right h (by omega)
      simp only [typeSize] at hfit
      simp only [getImageTypeSize, typeSize]
      rw [u32_of_range (x := w / 2 * h) (by omega)]
      exact u32_of_range hfit
  | gray => exact u32_of_range hfit
  | bgr =>
      simp only [getImageTypeSize, Nat.mul_assoc]
      exact u32_of_range hfit
  | rgb =>
      simp only [getImageTypeSize, Nat.mul_assoc]
      exact u32_of_range hfit
  | ignore => rfl

/-- The end of the last of `n` rows, when at most `N` rows of a full stride
    follow one another. -/
theorem last_row_le {n N len stride : Nat} (hn : 0 < n) (hN : n ≤ N) (hlen : len ≤ stride) :
    (n - 1) * stride + len ≤ N * stride := by
  have hmul := Nat.mul_le_mul_right stride hN
  rw [show n = n - 1 + 1 by omega, Nat.succ_mul] at hmul
  omega

/-- Every read of the slow path is inside a buffer that holds a whole padded
    frame. -/
theorem planeCopies_reads {w h size : Nat} {fmt : RaspicamFormat} (hw : 1 ≤ w) (hh : 1 ≤ h)
    (hfit : bufferWidth w * bufferHeight h * bpp fmt < 2147483648)
    (hlen : paddedLength w h fmt ≤ size) :
    ∀ c ∈ planeCopies w h fmt, InBlock c.src c.len size := by
  have hplane := plane_le_paddedLength w h fmt
  have hH := le_bufferHeight h
  have hcomm : bufferHeight h * bufferWidth w = bufferWidth w * bufferHeight h := Nat.mul_comm _ _
  intro c hc
  rw [planeCopies, List.mem_append] at hc
  rcases hc with hc | hc
  · rw [rowCopies_eq hh hfit] at hc
    refine rows_reads (fun hn => ?_) c hc
    have hrow := last_row_le hn hH (Nat.mul_le_mul_right (bpp fmt) (le_bufferWidth w))
    have hall : bufferHeight h * (bufferWidth w * bpp fmt)
        = bufferWidth w * bufferHeight h * bpp fmt := by rw [← Nat.mul_assoc, hcomm]
    omega
  · by_cases hy : fmt = .yuv420
    · subst hy
      rw [if_pos rfl, uvCopies_eq hw hh (by simpa only [bpp, Nat.mul_one] using hfit),
        List.mem_append] at hc
      have hhalf : w / 2 ≤ bufferWidth w / 2 := Nat.div_le_div_right (le_bufferWidth w)
      have hrows : h / 2 ≤ bufferHeight h / 2 := Nat.div_le_div_right hH
      have hhcomm := Nat.mul_comm (bufferHeight h / 2) (bufferWidth w / 2)
      simp only [paddedLength] at hlen
      rcases hc with hc | hc
      · refine rows_reads (fun hn => ?_) c hc
        have hrow := last_row_le hn hrows hhalf
        omega
      · refine rows_reads (fun hn => ?_) c hc
        have hrow := last_row_le hn hrows hhalf
        omega
    · rw [if_neg hy] at hc
      exact absurd hc List.not_mem_nil

/-- Every write of the slow path is inside a buffer of the advertised size. -/
theorem planeCopies_writes {w h : Nat} {fmt : RaspicamFormat} (hw : 1 ≤ w) (hh : 1 ≤ h)
    (hfmt : fmt ≠ .ignore)
    (hfit : bufferWidth w * bufferHeight h * bpp fmt < 2147483648) :
    ∀ c ∈ planeCopies w h fmt, InBlock c.dst c.len (typeSize w h fmt) := by
  have hbytes : h * (w * bpp fmt) ≤ typeSize w h fmt := by
    have hcomm := Nat.mul_comm h w
    rw [← Nat.mul_assoc, hcomm]
    cases fmt <;> simp only [bpp, typeSize] at hfmt ⊢ <;> first | omega | contradiction
  intro c hc
  rw [planeCopies, List.mem_append] at hc
  rcases hc with hc | hc
  · rw [rowCopies_eq hh hfit] at hc
    refine rows_writes (fun hn => ?_) c hc
    have hrow := last_row_le hn (Nat.le_refl h) (Nat.le_refl (w * bpp fmt))
    omega
  · by_cases hy : fmt = .yuv420
    · subst hy
      rw [if_pos rfl, uvCopies_eq hw hh (by simpa only [bpp, Nat.mul_one] using hfit),
        List.mem_append] at hc
      have hplanes := planes_le_imageTypeSize w h
      have hhcomm := Nat.mul_comm (h / 2) (w / 2)
      simp only [typeSize]
      rcases hc with hc | hc
      · refine rows_writes (fun hn => ?_) c hc
        have hrow := last_row_le hn (Nat.le_refl (h / 2)) (Nat.le_refl (w / 2))
        omega
      · refine rows_writes (fun hn => ?_) c hc
        have hrow := last_row_le hn (Nat.le_refl (h / 2)) (Nat.le_refl (w / 2))
        omega
    · rw [if_neg hy] at hc
      exact absurd hc List.not_mem_nil

/-- The size of the planes without padding. -/
def planesSize (w h : Nat) (fmt : RaspicamFormat) : Nat :=
  w * h * bpp fmt + if fmt = .yuv420 then 2 * (w / 2 * (h / 2)) else 0

/-- The loops write the planes from end to end and nothing else. -/
theorem planeCopies_written_iff {w h : Nat} {fmt : RaspicamFormat} (hw : 1 ≤ w) (hh : 1 ≤ h)
    (hfit : bufferWidth w * bufferHeight h * bpp fmt < 2147483648) (k : Nat) :
    Written (planeCopies w h fmt) k ↔ k < planesSize w h fmt := by
  have hrows : h * (w * bpp fmt) = w * h * bpp fmt := by rw [← Nat.mul_assoc, Nat.mul_comm h w]
  rw [planeCopies, written_append, rowCopies_eq hh hfit, rows_written_iff, planesSize, hrows]
  by_cases hy : fmt = .yuv420
  · subst hy
    have hcomm := Nat.mul_comm (w / 2) (h / 2)
    rw [if_pos rfl, if_pos rfl, uvCopies_eq hw hh (by simpa only [bpp, Nat.mul_one] using hfit),
      written_append, rows_written_iff, rows_written_iff]
    simp only [bpp, Nat.mul_one]
    omega
  · rw [if_neg hy, if_neg hy]
    simp only [not_written_nil, or_false]
    omega

/-- The planes are as large as the advertised image unless it has chroma
    planes, an odd number of rows and more than one chroma sample in a row. -/
theorem planesSize_eq_iff {w h : Nat} {fmt : RaspicamFormat} (hfmt : fmt ≠ .ignore) :
    planesSize w h fmt = typeSize w h fmt ↔ (fmt = .yuv420 → 2 ∣ h ∨ w < 4) := by
  by_cases hy : fmt = .yuv420
  · subst hy
    simp only [planesSize, typeSize, bpp, Nat.mul_one, if_true, true_implies]
    -- With an odd number of rows the product halves to a row and a half more.
    obtain ⟨q, rfl | rfl⟩ : ∃ q, h = 2 * q ∨ h = 2 * q + 1 := ⟨h / 2, by omega⟩
    · have hhalf : w / 2 * (2 * q) / 2 = w / 2 * (2 * q / 2) :=
        Nat.mul_div_assoc _ (Nat.dvd_mul_right 2 q)
      rw [hhalf]
      exact iff_of_true rfl (Or.inl (Nat.dvd_mul_right 2 q))
    · have hhalf : w / 2 * (2 * q + 1) / 2 = w / 2 * q + w / 2 / 2 := by
        rw [show w / 2 * (2 * q + 1) = 2 * (w / 2 * q) + w / 2 by
          rw [Nat.mul_add, Nat.mul_one, Nat.mul_left_comm]]
        omega
      rw [hhalf, show (2 * q + 1) / 2 = q by omega]
      omega
  · refine iff_of_true ?_ fun h => absurd h hy
    rw [planesSize, if_neg hy, Nat.add_zero]
    cases fmt <;> simp only [bpp, typeSize, Nat.mul_one] at hfmt hy ⊢ <;>
      first | contradiction | omega

end Video

end RaspiCam
