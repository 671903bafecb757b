import RaspiCam.Still.Impl
import RaspiCam.Video.Feedback

/-!
# The Same Request to Either Class

`Private_Impl` and `Private_Impl_Still` each have setters for the brightness,
the sharpness, the contrast, the saturation and the rotation, which bring
their argument into the range of the setting. The setters are written out
twice. Four pairs agree: three of them clamp, and an angle is reduced by whole
turns. The fifth does not: a brightness over 100 becomes 100 in one class, and
the remainder modulo 100 in the other. `alike_iff` says for which arguments a
request is normalised alike, and normalised at all.

## Main definitions

* `SharedSetting`: The settings in question.
* `SharedSetting.arg`: The number that an argument of 32 bits stands for.
* `SharedSetting.VideoStores`, `SharedSetting.StillStores`: What a setter makes
  of an argument.
* `SharedSetting.Normal`: What it should make of it.
* `SharedSetting.Alike`: Both classes do.

## Theorems

* `videoStores_iff`, `stillStores_iff`: What the setters do.
* `normal_videoValue`: Those of one class do what they should.
* `alike_iff`: When both do.
* `bright_requests_differ`: A request that is normalised in two ways.
-/

namespace RaspiCam

open Mmal

/-- The settings that both classes bring into a range. -/
inductive SharedSetting
  | brightness
  | sharpness
  | contrast
  | saturation
  | rotation
deriving DecidableEq

namespace SharedSetting

/-- The number that an argument of 32 bits stands for: `setBrightness` takes an
    `unsigned int`, the others an `int`. -/
def arg (v : UInt32) : SharedSetting → Int
  | .brightness => v.toNat
  | _ => v.toInt32.toInt

/-- The setter of `Private_Impl`, called with an argument. -/
def video (v : UInt32) : SharedSetting → Video.Setting
  | .brightness => .brightness v
  | .sharpness => .sharpness v.toInt32
  | .contrast => .contrast v.toInt32
  | .saturation => .saturation v.toInt32
  | .rotation => .rotation v.toInt32

/-- The setter of `Private_Impl_Still`, called with an argument. -/
def still (v : UInt32) : SharedSetting → Still.Setting
  | .brightness => .brightness v
  | .sharpness => .sharpness v.toInt32
  | .contrast => .contrast v.toInt32
  | .saturation => .saturation v.toInt32
  | .rotation => .rotation v.toInt32

/-- The field of `RASPIVID_STATE`. -/
def videoField (s : Video.RaspividState) : SharedSetting → Int
  | .brightness => s.brightness
  | .sharpness => s.sharpness
  | .contrast => s.contrast
  | .saturation => s.saturation
  | .rotation => s.rotation

/-- The field of `Private_Impl_Still`. -/
def stillField (p : Still.PrivateImplStill) : SharedSetting → Int
  | .brightness => p.brightness
  | .sharpness => p.sharpness
  | .contrast => p.contrast
  | .saturation => p.saturation
  | .rotation => p.rotation

/-- Whatever the state of the camera, the setter of `Private_Impl` stores `x`
    for the argument `v`. -/
def VideoStores (k : SharedSetting) (v : UInt32) (x : Int) : Prop :=
  ∀ r c c', (k.video v).apply r c = .ok c' → k.videoField c'.impl.state = x

/-- So does the setter of `Private_Impl_Still`. -/
def StillStores (k : SharedSetting) (v : UInt32) (x : Int) : Prop :=
  ∀ p, k.stillField ((k.still v).apply p) = x

/-- `x` is what a request for `a` should be normalised to: the nearest value in
    the range, or the angle without its whole turns. -/
def Normal (a x : Int) : SharedSetting → Prop
  | .brightness => Nearest 0 100 a x
  | .rotation => (0 ≤ x ∧ x < 360) ∧ 360 ∣ a - x
  | _ => Nearest (-100) 100 a x

/-- Both classes store the same value for a request, and it is the one it
    should be. Unless it is about an angle, no smaller request is stored as a
    larger value, and a request for the stored value is stored as it is. -/
def Alike (k : SharedSetting) (v : UInt32) : Prop :=
  ∃ x, k.VideoStores v x ∧ k.StillStores v x ∧ k.Normal (k.arg v) x ∧
    (k ≠ .rotation →
      (∀ u y, k.arg u ≤ k.arg v → k.VideoStores u y ∨ k.StillStores u y → y ≤ x) ∧
      ∀ u, k.arg u = x → k.VideoStores u x ∧ k.StillStores u x)

/-- What the setters of `Private_Impl` make of a number. -/
def videoValue (a : Int) : SharedSetting → Int
  | .brightness => if a > 100 then 100 else a
  | .rotation => a % 360
  | _ => clamp (-100) 100 a

/-- What the setters of `Private_Impl_Still` make of a number. -/
def stillValue (a : Int) : SharedSetting → Int
  | .brightness => if a > 100 then a % 100 else a
  | .rotation => a % 360
  | _ => clamp (-100) 100 a

theorem arg_brightness (v : UInt32) : arg v .brightness = (v.toNat : Int) := rfl

theorem recorded_videoField (k : SharedSetting) (v : UInt32) (s : Video.RaspividState) :
    k.videoField ((k.video v).recorded s) = k.videoValue (k.arg v) := by
  cases k with
  | brightness =>
      simp only [video, videoField, Video.Setting.recorded, videoValue]
      rw [arg_brightness]
      split <;> split <;> omega
  | rotation => exact turned_eq _
  | _ => rfl

/-- A setter stores one value only: a closed camera accepts everything. -/
theorem videoStores_iff (k : SharedSetting) (v : UInt32) (x : Int) :
    k.VideoStores v x ↔ x = k.videoValue (k.arg v) := by
  constructor
  · intro h
    have hclosed : (k.video v).apply .allOk .init = .ok (Video.Camera.init.record
        ((k.video v).recorded Video.Camera.init.impl.state)) := by
      rw [Video.Setting.apply_params]
      exact if_neg Bool.false_ne_true
    rw [← h _ _ _ hclosed]
    exact k.recorded_videoField v _
  · rintro rfl r c c' h
    rw [Video.Setting.apply_params] at h
    rw [(Video.put_ok h (k.video v).commit_quiet).1]
    exact k.recorded_videoField v _

theorem stillStores_iff (k : SharedSetting) (v : UInt32) (x : Int) :
    k.StillStores v x ↔ x = k.stillValue (k.arg v) := by
  have hstored : ∀ p, k.stillField ((k.still v).apply p) = k.stillValue (k.arg v) := by
    intro p
    cases k with
    | brightness =>
        simp only [still, stillField, Still.Setting.apply, Still.setBrightness, stillValue]
        rw [arg_brightness]
        split <;> split <;> omega
    | rotation =>
        simp only [still, stillField, Still.Setting.apply, Still.setRotation, stillValue, arg,
          turned_eq]
        have hmod := v.toInt32.toInt.emod_nonneg (b := 360) (by decide)
        have hlt := v.toInt32.toInt.emod_lt_of_pos (b := 360) (by decide)
        rw [Machine.u32_toNat hmod (by omega), Int.toNat_of_nonneg hmod]
    | _ => rfl
  exact ⟨fun h => (h .init).symm.trans (hstored .init), fun h p => (hstored p).trans h.symm⟩

/-- The setters of `Private_Impl` do what they should. -/
theorem normal_videoValue (k : SharedSetting) (v : UInt32) :
    k.Normal (k.arg v) (k.videoValue (k.arg v)) := by
  cases k with
  | brightness =>
      have hclamp : videoValue (v.toNat : Int) .brightness = clamp 0 100 v.toNat := by
        simp only [videoValue, clamp]
        split <;> split <;> omega
      exact hclamp ▸ nearest_clamp (by decide) _
  | rotation =>
      simp only [Normal, videoValue, arg]
      omega
  | _ => exact nearest_clamp (by decide) _

/-- The setters of `Private_Impl_Still` do the same, but for a brightness over
    100. -/
theorem stillValue_eq {k : SharedSetting} {v : UInt32} (h : k = .brightness → v.toNat ≤ 100) :
    k.stillValue (k.arg v) = k.videoValue (k.arg v) := by
  cases k with
  | brightness =>
      have hle := h rfl
      simp only [stillValue, videoValue]
      rw [arg_brightness, if_neg (by omega), if_neg (by omega)]
  | _ => rfl

/-- A value that is to be stored unless it is an angle is the nearest in some
    range. -/
theorem normal_nearest {k : SharedSetting} (hk : k ≠ .rotation) :
    ∃ lo hi, ∀ a x, k.Normal a x ↔ Nearest lo hi a x := by
  cases k with
  | rotation => exact absurd rfl hk
  | brightness => exact ⟨0, 100, fun _ _ => Iff.rfl⟩
  | _ => exact ⟨-100, 100, fun _ _ => Iff.rfl⟩

/-- Both classes normalise a request alike, and as they should, exactly when it
    is not for a brightness over 100. -/
theorem alike_iff (k : SharedSetting) (v : UInt32) :
    k.Alike v ↔ (k = .brightness → v.toNat ≤ 100) := by
  constructor
  · rintro ⟨x, hvideo, hstill, _⟩ rfl
    rw [videoStores_iff] at hvideo
    rw [stillStores_iff, hvideo] at hstill
    refine Nat.le_of_not_lt fun hgt => ?_
    -- The remainder modulo 100 is never 100.
    simp only [videoValue, stillValue] at hstill
    rw [arg_brightness, if_pos (by omega), if_pos (by omega)] at hstill
    omega
  · intro hk
    refine ⟨k.videoValue (k.arg v), (k.videoStores_iff v _).mpr rfl,
      (k.stillStores_iff v _).mpr (stillValue_eq hk).symm, k.normal_videoValue v, fun hrot => ?_⟩
    rcases normal_nearest hrot with ⟨lo, hi, hnearest⟩
    have hval : ∀ u, Nearest lo hi (k.arg u) (k.videoValue (k.arg u)) :=
      fun u => (hnearest _ _).mp (k.normal_videoValue u)
    have hstillVal : ∀ u, k.arg u ≤ k.arg v ∨ k.arg u = k.videoValue (k.arg v) →
        k.stillValue (k.arg u) = k.videoValue (k.arg u) := by
      rintro u hu
      refine stillValue_eq fun hb => ?_
      subst hb
      have hle := hk rfl
      simp only [videoValue] at hu
      rw [arg_brightness, arg_brightness] at hu
      split at hu <;> omega
    constructor
    · intro u y hu hy
      have hyval : y = k.videoValue (k.arg u) := by
        rcases hy with hy | hy
        · exact (k.videoStores_iff u y).mp hy
        · exact ((k.stillStores_iff u y).mp hy).trans (hstillVal u (Or.inl hu))
      rw [hyval]
      exact (hval u).mono (hval v) hu
    · intro u hu
      have hself : k.videoValue (k.arg u) = k.videoValue (k.arg v) := by
        refine (hval u).unique ?_
        rw [hu]
        exact nearest_self (hval v).1.1 (hval v).1.2
      exact ⟨(k.videoStores_iff u _).mpr hself.symm,
        (k.stillStores_iff u _).mpr (hself.symm.trans (hstillVal u (Or.inr hu)).symm)⟩

/-- A brightness of 150 is 100 for a video and 50 for a still picture. -/
theorem bright_requests_differ : SharedSetting.brightness.VideoStores 150 100 ∧
    SharedSetting.brightness.StillStores 150 50 ∧ ¬ SharedSetting.brightness.Alike 150 := by
  refine ⟨(videoStores_iff _ _ _).mpr (by decide), (stillStores_iff _ _ _).mpr (by decide), ?_⟩
  rintro ⟨x, hvideo, hstill, _⟩
  rw [videoStores_iff] at hvideo
  rw [stillStores_iff, hvideo] at hstill
  exact absurd hstill (by decide)

end SharedSetting

end RaspiCam
