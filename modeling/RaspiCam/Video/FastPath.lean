import RaspiCam.Video.Frame

/-!
# The Two Branches Compared

`video_buffer_callback` skips the row loop when the width needs no padding.
The frame is then kept with the padding rows at its end, and a client that
reads the first `getImageTypeSize` bytes of it is supposed to see what the row
loop would have stored.

For a format of one plane the padding rows come last and are never read. For
YUV420 the chroma planes follow the padded luma plane, so they sit where the
row loop would put them only when the height is padded by nothing either.
`fastPath_agrees_iff` is the exact condition.

## Main definitions

* `FastPathAgrees`: Both branches store the same advertised bytes.

## Theorems

* `storeRaw_data`: What the fast path stores.
* `storeRows_aligned`: What the row loop stores when nothing is padded away.
* `fastPath_agrees_iff`: The two branches agree.
-/

namespace RaspiCam

open Bytes Machine

namespace Video

/-- Whatever whole padded frame arrives, and whatever was kept before, both
    branches store the same advertised bytes. -/
def FastPathAgrees (w h : Nat) (fmt : RaspicamFormat) : Prop :=
  ∀ (b : Buffer) (m : Membuf) (fresh fresh' : Nat → UInt8), paddedLength w h fmt ≤ b.length →
    ∀ k < getImageTypeSize w h fmt,
      (storeRaw b m fresh).data k = (storeRows w h fmt b m fresh').data k

/-- The fast path keeps every byte where it was. -/
theorem storeRaw_data (b : Buffer) (m : Membuf) (fresh : Nat → UInt8) {k : Nat}
    (hk : k < b.length) : (storeRaw b m fresh).data k = b.data k := by
  refine applyAll_aligned (fun c hc => ?_) ⟨_, List.mem_cons_self, ?_⟩
  · rw [List.mem_singleton.mp hc]
  · simp only [Copy.Writes]
    omega

/-- When nothing is padded the advertised size is the padded length. -/
theorem typeSize_of_aligned {w h : Nat} {fmt : RaspicamFormat} (hw : 32 ∣ w)
    (hh : fmt = .yuv420 → 16 ∣ h) (hfit : paddedLength w h fmt < 2147483648) :
    getImageTypeSize w h fmt = typeSize w h fmt ∧ bufferWidth w = w ∧
      (fmt = .yuv420 → bufferHeight h = h) := by
  have hsize := typeSize_le_paddedLength w h fmt
  exact ⟨getImageTypeSize_eq (by omega), (alignUp_eq_self_iff w (by omega)).mpr hw,
    fun hy => (alignUp_eq_self_iff h (by omega)).mpr (hh hy)⟩

/-- Every copy of the row loop keeps its offset when the width is not padded,
    and neither is the height of a planar frame. -/
theorem planeCopies_aligned {w h : Nat} {fmt : RaspicamFormat} (hw1 : 1 ≤ w) (hh1 : 1 ≤ h)
    (hfit : bufferWidth w * bufferHeight h * bpp fmt < 2147483648) (hW : bufferWidth w = w)
    (hH : fmt = .yuv420 → bufferHeight h = h) : ∀ c ∈ planeCopies w h fmt, c.dst = c.src := by
  intro c hc
  rw [planeCopies, List.mem_append, rowCopies_eq hh1 hfit, hW] at hc
  rcases hc with hc | hc
  · rcases List.mem_map.mp hc with ⟨i, _, rfl⟩
    rfl
  · by_cases hy : fmt = .yuv420
    · have hcomm := Nat.mul_comm w h
      rw [if_pos hy, uvCopies_eq hw1 hh1 (by simpa only [hy, bpp, Nat.mul_one] using hfit), hW,
        hH hy, hcomm, List.mem_append] at hc
      rcases hc with hc | hc <;> rcases List.mem_map.mp hc with ⟨i, _, rfl⟩ <;> rfl
    · rw [if_neg hy] at hc
      exact absurd hc List.not_mem_nil

/-- The row loop writes every advertised byte when the height of a planar
    frame is even. -/
theorem planeCopies_written {w h k : Nat} {fmt : RaspicamFormat} (hw1 : 1 ≤ w) (hh1 : 1 ≤ h)
    (hfmt : fmt ≠ .ignore) (hfit : bufferWidth w * bufferHeight h * bpp fmt < 2147483648)
    (heven : fmt = .yuv420 → 2 ∣ h) (hk : k < typeSize w h fmt) :
    Written (planeCopies w h fmt) k := by
  rw [planeCopies_written_iff hw1 hh1 hfit,
    (planesSize_eq_iff hfmt).mpr fun hy => Or.inl (heven hy)]
  exact hk

/-- When nothing is padded away the row loop, too, keeps every byte where it
    was. -/
theorem storeRows_aligned {w h k : Nat} {fmt : RaspicamFormat} (hw1 : 1 ≤ w) (hh1 : 1 ≤ h)
    (hw : 32 ∣ w) (hh : fmt = .yuv420 → 16 ∣ h) (hfit : paddedLength w h fmt < 2147483648)
    (b : Buffer) (m : Membuf) (fresh : Nat → UInt8) (hk : k < getImageTypeSize w h fmt) :
    (storeRows w h fmt b m fresh).data k = b.data k := by
  have hplane := plane_le_paddedLength w h fmt
  rcases typeSize_of_aligned hw hh hfit with ⟨hsize, hW, hH⟩
  rw [hsize] at hk
  have hfmt : fmt ≠ .ignore := by
    rintro rfl
    exact absurd hk (Nat.not_lt_zero k)
  exact applyAll_aligned (planeCopies_aligned hw1 hh1 (by omega) hW hH)
    (planeCopies_written hw1 hh1 hfmt (by omega) (fun hy => Nat.dvd_trans (by decide) (hh hy)) hk)

/-- In a planar frame whose height is padded, the row loop never takes the
    first chroma byte from where the first chroma byte of a packed frame is. -/
theorem storeRows_chroma {w h : Nat} (hw1 : 1 ≤ w) (hh1 : 1 ≤ h) (hh : ¬ 16 ∣ h)
    (hfit : paddedLength w h .yuv420 < 2147483648) (b : Buffer)
    (hb : ∀ k, k ≠ w * h → b.data k = 0) :
    (storeRows w h .yuv420 b Membuf.empty (fun _ => 0)).data (w * h) = 0 := by
  have hplane := plane_le_paddedLength w h .yuv420
  simp only [bpp, Nat.mul_one] at hplane
  have hH : h < bufferHeight h :=
    Nat.lt_of_le_of_ne (le_bufferHeight h)
      (fun heq => hh ((alignUp_eq_self_iff h (by omega)).mp heq.symm))
  have hlt : w * h < bufferHeight h * bufferWidth w := by
    calc w * h < w * bufferHeight h := Nat.mul_lt_mul_of_pos_left hH hw1
      _ ≤ bufferWidth w * bufferHeight h := Nat.mul_le_mul_right _ (le_bufferWidth w)
      _ = bufferHeight h * bufferWidth w := Nat.mul_comm _ _
  have hmem : ((Membuf.empty).resize (getImageTypeSize (u32 w) (u32 h) .yuv420)
      (fun _ => 0)).data (w * h) = 0 := by
    unfold Membuf.resize
    by_cases hs : getImageTypeSize (u32 w) (u32 h) .yuv420 ≠ Membuf.empty.size
    · rw [if_pos hs]
    · rw [if_neg hs]
      rfl
  refine applyAll_value (fun c hc hwr => ?_) (Or.inl hmem)
  refine hb _ (fun horigin => ?_)
  rw [planeCopies, List.mem_append, if_pos rfl,
    rowCopies_eq hh1 (by simpa only [bpp, Nat.mul_one] using Nat.lt_of_le_of_lt hplane hfit)] at hc
  rcases hc with hc | hc
  · -- The luma rows end before the first chroma byte.
    have hwritten := (rows_written_iff h 0 0 (bufferWidth w * bpp .yuv420) (w * bpp .yuv420)
      (w * h)).mp ⟨c, hc, hwr⟩
    have hcomm := Nat.mul_comm w h
    simp only [bpp, Nat.mul_one] at hwritten
    omega
  · -- The chroma rows are read from behind the padding.
    rw [uvCopies_eq hw1 hh1 (Nat.lt_of_le_of_lt hplane hfit), List.mem_append] at hc
    rcases hc with hc | hc <;> rcases List.mem_map.mp hc with ⟨i, _, rfl⟩ <;>
      simp only [Copy.origin, Copy.Writes] at horigin hwr <;> omega

/-- The two branches agree on everything a client can retrieve exactly when
    the frame is not planar or its height is not padded. -/
theorem fastPath_agrees_iff {w h : Nat} {fmt : RaspicamFormat} (hw1 : 1 ≤ w) (hh1 : 1 ≤ h)
    (hw : 32 ∣ w) (hfit : paddedLength w h fmt < 2147483648) :
    FastPathAgrees w h fmt ↔ (fmt = .yuv420 → 16 ∣ h) := by
  constructor
  · rintro hagree rfl
    by_contra hh
    have hsize := typeSize_le_paddedLength w h .yuv420
    have hk : w * h < getImageTypeSize w h .yuv420 := by
      rw [getImageTypeSize_eq (by omega)]
      have hw2 : 2 ≤ w / 2 := by
        have := Nat.le_of_dvd hw1 hw
        omega
      have hhalf : 1 ≤ w / 2 * h / 2 := by
        have := Nat.mul_le_mul hw2 hh1
        omega
      simp only [typeSize]
      omega
    -- A frame that is black but for one byte, read from two places.
    let b : Buffer := ⟨fun k => if k = w * h then 1 else 0, paddedLength w h .yuv420⟩
    have hraw := storeRaw_data b Membuf.empty (fun _ => 0)
      (k := w * h) (Nat.lt_of_lt_of_le hk (imageTypeSize_le_paddedLength w h .yuv420))
    have hrows := storeRows_chroma hw1 hh1 hh hfit b (fun k hne => if_neg hne)
    have heq := hagree b Membuf.empty (fun _ => 0) (fun _ => 0) (Nat.le_refl _) (w * h) hk
    rw [hraw, hrows] at heq
    exact absurd heq (by simp only [b, if_true]; decide)
  · intro hh b m fresh fresh' hlen k hk
    rw [storeRaw_data b m fresh (by
      have := imageTypeSize_le_paddedLength w h fmt
      omega)]
    exact (storeRows_aligned hw1 hh1 hw hh hfit b m fresh' hk).symm

/-- A frame of 32 by 480 pixels in YUV420 is stored the same way by both
    branches. -/
theorem fastPath_agrees_480 : FastPathAgrees 32 480 .yuv420 :=
  (fastPath_agrees_iff (by decide) (by decide) (by decide) (by decide)).mpr (fun _ => by decide)

/-- A frame of 32 by 2 pixels in YUV420: the fast path leaves the padding rows
    where the row loop puts the chroma planes. -/
theorem fastPath_disagrees_at_2 :
    paddedLength 32 2 .yuv420 = 768 ∧ 32 ∣ 32 ∧
      (storeRaw ⟨fun k => if k = 64 then 1 else 0, 768⟩ Membuf.empty (fun _ => 0)).data 64
        ≠ (storeRows 32 2 .yuv420 ⟨fun k => if k = 64 then 1 else 0, 768⟩ Membuf.empty
          (fun _ => 0)).data 64 ∧
      64 < getImageTypeSize 32 2 .yuv420 ∧ ¬ FastPathAgrees 32 2 .yuv420 := by
  refine ⟨by decide, by decide, by decide, by decide, fun hagree => ?_⟩
  have heq := hagree ⟨fun k => if k = 64 then 1 else 0, 768⟩ Membuf.empty (fun _ => 0)
    (fun _ => 0) (by decide) 64 (by decide)
  exact absurd heq (by decide)

end Video

end RaspiCam
