import RaspiCam.Video.Bounds

/-!
# What the Row Loop Makes of a Frame

The row loop and the plane loop cut the padding off a frame. They take every
row of every plane from where it is in the padded frame and put the rows next
to one another: no two copies write the same byte, and all of them stay inside
the two buffers (`kept_frame_crop`).

Whether they fill the buffer is another matter. `getImageTypeSize` halves the
product of half the width with the height, and the loop halves the height
before it multiplies, so for YUV420 and an odd height the advertised size is
larger than the planes, by half the width rounded down to an even number.
`copies_cover_iff` says when the two agree.

## Theorems

* `planeCopies_apart`: No byte is written twice.
* `kept_frame_crop`: A frame that was kept is a crop of the one delivered.
* `copies_cover_iff`: When every advertised byte is written.
* `chroma_left_over`: A frame where some are not.
-/

namespace RaspiCam

open Mmal Bytes Machine

namespace Video

/-- No byte is written twice. -/
theorem planeCopies_apart {w h : Nat} {fmt : RaspicamFormat} (hw : 1 ≤ w) (hh : 1 ≤ h)
    (hfit : bufferWidth w * bufferHeight h * bpp fmt < 2147483648) :
    Apart (planeCopies w h fmt) := by
  rw [planeCopies, rowCopies_eq hh hfit]
  refine apart_append (rows_apart (Nat.le_refl _)) ?_ ?_
  · by_cases hy : fmt = .yuv420
    · subst hy
      rw [if_pos rfl, uvCopies_eq hw hh (by simpa only [bpp, Nat.mul_one] using hfit)]
      refine apart_append (rows_apart (Nat.le_refl _)) (rows_apart (Nat.le_refl _)) fun k hk => ?_
      -- The second plane begins where the first one ends.
      rw [rows_written_iff, rows_written_iff] at hk
      have hcomm := Nat.mul_comm (w / 2) (h / 2)
      omega
    · rw [if_neg hy]
      exact List.Pairwise.nil
  · intro k hk
    by_cases hy : fmt = .yuv420
    · subst hy
      rw [if_pos rfl, uvCopies_eq hw hh (by simpa only [bpp, Nat.mul_one] using hfit),
        written_append, rows_written_iff, rows_written_iff, rows_written_iff] at hk
      have hcomm := Nat.mul_comm w h
      simp only [bpp, Nat.mul_one] at hk
      omega
    · rw [if_neg hy] at hk
      exact not_written_nil k hk.2

/-- A row of the first plane, as the loops leave it. -/
theorem planeCopies_row {w h i j : Nat} {fmt : RaspicamFormat} (hw : 1 ≤ w) (hh : 1 ≤ h)
    (hfit : bufferWidth w * bufferHeight h * bpp fmt < 2147483648) (hi : i < h)
    (hj : j < w * bpp fmt) (src mem : Nat → UInt8) :
    applyAll (planeCopies w h fmt) src mem (i * (w * bpp fmt) + j)
      = src (i * (bufferWidth w * bpp fmt) + j) := by
  have hrows : ∀ c ∈ rows h 0 0 (w * bpp fmt) (bufferWidth w * bpp fmt) (w * bpp fmt),
      c ∈ planeCopies w h fmt := by
    intro c hc
    rw [planeCopies, rowCopies_eq hh hfit]
    exact List.mem_append_left _ hc
  have hvalue := rows_value (planeCopies_apart hw hh hfit) hrows hi hj src mem
  rwa [Nat.zero_add, Nat.zero_add] at hvalue

/-- A row of a chroma plane, as the loops leave it. -/
theorem planeCopies_chroma {w h p i j : Nat} (hw : 1 ≤ w) (hh : 1 ≤ h)
    (hfit : bufferWidth w * bufferHeight h < 2147483648) (hp : p < 2) (hi : i < h / 2)
    (hj : j < w / 2) (src mem : Nat → UInt8) :
    applyAll (planeCopies w h .yuv420) src mem (w * h + p * (w / 2 * (h / 2)) + i * (w / 2) + j)
      = src (bufferWidth w * bufferHeight h
        + p * (bufferWidth w / 2 * (bufferHeight h / 2)) + i * (bufferWidth w / 2) + j) := by
  have hfit' : bufferWidth w * bufferHeight h * bpp .yuv420 < 2147483648 := by
    simpa only [bpp, Nat.mul_one] using hfit
  have hrows : ∀ c ∈ rows (h / 2) (w * h + p * (w / 2 * (h / 2)))
      (bufferWidth w * bufferHeight h + p * (bufferWidth w / 2 * (bufferHeight h / 2)))
      (w / 2) (bufferWidth w / 2) (w / 2), c ∈ planeCopies w h .yuv420 := by
    intro c hc
    rw [planeCopies, if_pos rfl, uvCopies_eq hw hh hfit, Nat.mul_comm (bufferHeight h)]
    refine List.mem_append_right _ (List.mem_append.mpr ?_)
    rcases show p = 0 ∨ p = 1 by omega with rfl | rfl
    · rw [Nat.zero_mul, Nat.add_zero, Nat.zero_mul, Nat.add_zero] at hc
      exact Or.inl hc
    · rw [Nat.one_mul, Nat.one_mul] at hc
      exact Or.inr hc
  exact rows_value (planeCopies_apart hw hh hfit') hrows hi hj src mem

/-- After the callback kept a frame of a width that needs padding, every row of
    every plane is the row of the padded frame, no two copies wrote the same
    byte, and all of them stayed inside both buffers. -/
theorem kept_frame_crop {camera : Handle} {b : Buffer} {fresh : Nat → UInt8} {r : SetResults}
    {c c' : Camera} {w h : Nat} {fmt : RaspicamFormat}
    (hkept : videoBufferCallback camera b fresh r c = .ok (true, c'))
    (hwidth : c.impl.state.width = w) (hheight : c.impl.state.height = h)
    (hformat : c.impl.state.captureFtm = fmt) (hw : 1 ≤ w) (hpad : ¬ 32 ∣ w) (hh : 1 ≤ h)
    (hfmt : fmt ≠ .ignore) (hfit : paddedLength w h fmt < 2147483648)
    (hwhole : paddedLength w h fmt ≤ b.length) :
    (∀ i < h, ∀ j < w * bpp fmt, c'.impl.callbackData.buffData.data (i * (w * bpp fmt) + j)
      = b.data (i * (bufferWidth w * bpp fmt) + j)) ∧
    (fmt = .yuv420 → ∀ p < 2, ∀ i < h / 2, ∀ j < w / 2,
      c'.impl.callbackData.buffData.data (w * h + p * (w / 2 * (h / 2)) + i * (w / 2) + j)
        = b.data (bufferWidth w * bufferHeight h
          + p * (bufferWidth w / 2 * (bufferHeight h / 2)) + i * (bufferWidth w / 2) + j)) ∧
    Apart (frameCopies w h fmt b) ∧
    ∀ k ∈ frameCopies w h fmt b,
      InBlock k.src k.len b.length ∧ InBlock k.dst k.len c'.impl.callbackData.buffData.size := by
  have hplane := plane_le_paddedLength w h fmt
  have hwide := bufferWidth_le_plane (w := w) hh fmt
  have hraw : ¬ isRaw (w : Int) = true := fun hraw => hpad ((isRaw_iff (by omega)).mp hraw)
  have hbuff : c'.impl.callbackData.buffData
      = storeFrame w h fmt b c.impl.callbackData.buffData fresh := by
    rw [(videoBufferCallback_ok hkept).2.1, if_pos rfl, PrivateImpl.keepFrame, hwidth, hheight,
      hformat]
  have hdata : c'.impl.callbackData.buffData.data = applyAll (planeCopies w h fmt) b.data
      (c.impl.callbackData.buffData.resize (frameSize w h fmt b) fresh).data := by
    rw [hbuff, storeFrame_data, frameCopies, if_neg hraw]
  have hsize : c'.impl.callbackData.buffData.size = typeSize w h fmt := by
    rw [hbuff, storeFrame_size, frameSize, if_neg hraw, advertised_eq_typeSize hw hh hfit]
  rw [hdata, hsize, frameCopies, if_neg hraw]
  refine ⟨fun i hi j hj => planeCopies_row hw hh (by omega) hi hj _ _, ?_,
    planeCopies_apart hw hh (by omega), fun k hk => ⟨planeCopies_reads hw hh (by omega) hwhole k hk,
      planeCopies_writes hw hh hfmt (by omega) k hk⟩⟩
  rintro rfl p hp i hi j hj
  exact planeCopies_chroma hw hh (by simp only [bpp] at hplane; omega) hp hi hj _ _

/-- The object after a frame of 100 by 50 pixels was wanted. -/
private def awaitingFrame : PrivateImpl :=
  let p := PrivateImpl.init
  { p with
    state := { p.state with width := 100, height := 50, captureFtm := .yuv420 }
    callbackData := { p.callbackData with wantToGrab := true } }

/-- A frame of 100 by 50 pixels in YUV420. -/
theorem kept_frame_crop_yuv420 : ∃ c', videoBufferCallback 0 ⟨fun k => UInt8.ofNat k, 12288⟩
      (fun _ => 0) .allOk ⟨awaitingFrame, World.empty⟩ = .ok (true, c') ∧
    c'.impl.callbackData.buffData.data (5000 + 1 * (50 * 25) + 24 * 50 + 49)
      = UInt8.ofNat (128 * 64 + 1 * (64 * 32) + 24 * 64 + 49) := by
  have hkept : videoBufferCallback 0 ⟨fun k => UInt8.ofNat k, 12288⟩ (fun _ => 0) .allOk
    ⟨awaitingFrame, World.empty⟩ = .ok (true, _) := rfl
  refine ⟨_, hkept, ?_⟩
  exact (kept_frame_crop (w := 100) (h := 50) hkept rfl rfl
    (show awaitingFrame.state.captureFtm = .yuv420 from rfl) (by decide) (by decide) (by decide)
    (by decide) (by decide) (by decide)).2.1 rfl 1 (by decide) 24 (by decide) 49 (by decide)

/-- The copies of a frame that needs padding fill the advertised image exactly
    when its planes have that size. -/
theorem copies_cover_iff {w h : Nat} {fmt : RaspicamFormat} (b : Buffer) (hw : 1 ≤ w)
    (hpad : ¬ 32 ∣ w) (hh : 1 ≤ h) (hfmt : fmt ≠ .ignore)
    (hfit : paddedLength w h fmt < 2147483648) :
    Tiles (frameCopies w h fmt b) (getImageTypeSize (u32 w) (u32 h) fmt) ↔
      (fmt = .yuv420 → 2 ∣ h ∨ w < 4) := by
  have hplane := plane_le_paddedLength w h fmt
  have hwide := bufferWidth_le_plane (w := w) hh fmt
  have hraw : ¬ isRaw (w : Int) = true := fun hraw => hpad ((isRaw_iff (by omega)).mp hraw)
  rw [← planesSize_eq_iff hfmt, advertised_eq_typeSize hw hh hfit, frameCopies, if_neg hraw]
  constructor
  · intro htiles
    -- Otherwise the first byte behind the smaller of the two sizes is written
    -- and not advertised, or the other way round.
    have hsame : ∀ k, k < planesSize w h fmt ↔ k < typeSize w h fmt := fun k => by
      rw [← planeCopies_written_iff hw hh (by omega), htiles.written_iff]
    refine Nat.le_antisymm (Nat.le_of_not_lt fun hlt => ?_) (Nat.le_of_not_lt fun hlt => ?_)
    · exact absurd ((hsame _).mp hlt) (Nat.lt_irrefl _)
    · exact absurd ((hsame _).mpr hlt) (Nat.lt_irrefl _)
  · intro heq
    refine ⟨planeCopies_apart hw hh (by omega), planeCopies_writes hw hh hfmt (by omega), ?_⟩
    intro k hk
    rw [planeCopies_written_iff hw hh (by omega), heq]
    exact hk

/-- A frame of 100 by 50 pixels in YUV420 fills its buffer. -/
theorem copies_cover_100_50 : Tiles (frameCopies (100 : Nat) (50 : Nat) .yuv420 ⟨fun _ => 0, 12288⟩)
    (getImageTypeSize (u32 (100 : Nat)) (u32 (50 : Nat)) .yuv420) :=
  (copies_cover_iff _ (by decide) (by decide) (by decide) (by decide) (by decide)).mpr
    fun _ => Or.inl (by decide)

/-- A frame of 4 by 1 pixels in YUV420: its planes have 4 bytes, and 6 are
    advertised, so the last two are what they were. -/
theorem chroma_left_over : paddedLength 4 1 .yuv420 = 768 ∧
    ¬ Tiles (frameCopies (4 : Nat) (1 : Nat) .yuv420 ⟨fun _ => 1, 768⟩)
        (getImageTypeSize (u32 (4 : Nat)) (u32 (1 : Nat)) .yuv420) ∧
      (storeFrame (4 : Nat) (1 : Nat) .yuv420 ⟨fun _ => 1, 768⟩ ⟨fun _ => 7, 6⟩
        (fun _ => 0)).data 5 = 7 := by
  refine ⟨by decide, fun htiles => ?_, by decide⟩
  have hwritten := (htiles.written_iff 5).mpr (by decide)
  rw [frameCopies, if_neg (by decide),
    planeCopies_written_iff (by decide) (by decide) (by decide)] at hwritten
  exact absurd hwritten (by decide)

end Video

end RaspiCam
