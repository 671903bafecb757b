import RaspiCam.Lib.While
import RaspiCam.Still.Impl
import RaspiCam.Video.Ledger

/-!
# The Rotation

`setRotation` of either class takes any `int`. It adds whole turns in a loop
until the angle is not negative, takes the remainder, and stores it, in an
`int` in one class and in an `unsigned int` in the other. `commitRotation`
sends the whole quarter turns in it.

For very negative angles the loop makes millions of rounds. `turnLoop_ends`
runs it with additions that are undefined on overflow: every round stays in the
range of `int`, and the loop ends in the angle that `addTurns` gives. With
this, `rotation_settled` says for every angle what is stored and what is sent.

## Main definitions

* `addInt`: A sum that has to be an `int`.
* `turnLoop`: The loop.
* `Turned`: An angle without its whole turns.
* `Quarter`: The quarter turns in an angle.
* `Video.RotationSettled`, `Still.RotationSettled`: What an angle should come
  to.

## Theorems

* `turnLoop_ends`: The loop ends, and without overflow.
* `turned_iff`, `quarter_tdiv`: What is stored and what is sent.
* `rotation_settled`: What an angle comes to.
-/

namespace RaspiCam

open Mmal Machine Transition While

/-- The sum of two values of `int`. It is undefined when it overflows. -/
def addInt (x y : Int) : Option Int :=
  if -2147483648 ≤ x + y ∧ x + y < 2147483648 then some (x + y) else none

/-- The loop of `setRotation`. -/
def turnLoop : Loop Int where
  test rotation := decide (rotation < 0)
  body rotation := addInt rotation 360

/-- `x` is the one angle from 0 to 359 that differs from `a` by whole turns. -/
def Turned (a x : Int) : Prop := ∀ y, (0 ≤ y ∧ y ≤ 359 ∧ y % 360 = a % 360) ↔ y = x

/-- `q` is the largest multiple of 90 not above `x`, and an angle the device
    knows. -/
structure Quarter (x q : Int) : Prop where
  device : q ∈ [0, 90, 180, 270]
  below : q ≤ x
  largest : ∀ m, 90 ∣ m → m ≤ x → m ≤ q

/-- The call sends the angle to the three outputs of the camera. -/
def SendsRotation (camera : Option Handle) (q : Int)
    (commit : SetResults → World → Except Fault World) : Prop :=
  ∀ r w, commit r w = sendAll camera r
    [(.output 0, .rotation q), (.output 1, .rotation q), (.output 2, .rotation q)] w

/-- The angle goes through, is stored without its whole turns, and committed by
    its quarter turns. Every angle that differs from it by whole turns comes to
    the same. -/
def Video.RotationSettled (rotation : Int32) (c : Video.Camera) : Prop :=
  ∀ r, ∃ c', Video.setRotation r c rotation = .ok c' ∧
    Turned rotation.toInt c'.impl.state.rotation ∧
    (∃ q, Quarter c'.impl.state.rotation q ∧
      SendsRotation c'.impl.state.cameraComponent q (Video.commitRotation c'.impl.state)) ∧
    ∀ other : Int32, 360 ∣ other.toInt - rotation.toInt → Video.setRotation r c other = .ok c'

/-- So it is in the still class. -/
def Still.RotationSettled (rotation : Int32) (p : Still.PrivateImplStill) : Prop :=
  Turned rotation.toInt (Still.setRotation p rotation).rotation ∧
  (∃ q, Quarter (Still.setRotation p rotation).rotation q ∧
    SendsRotation p.camera q (Still.commitRotation (Still.setRotation p rotation))) ∧
  ∀ other : Int32, 360 ∣ other.toInt - rotation.toInt →
    Still.setRotation p other = Still.setRotation p rotation

/-- The loop ends in the angle with enough whole turns added, and no sum
    overflows. -/
theorem turnLoop_ends {a : Int} (hlo : -2147483648 ≤ a) (hhi : a < 2147483648) :
    turnLoop.Ends a (addTurns a) := by
  have hround : ∀ x : Int, ((-2147483648 ≤ x ∧ x < 2147483648) ∧ addTurns x = addTurns a) →
      turnLoop.test x = true → ∃ m, turnLoop.body x = some m ∧
        ((-2147483648 ≤ m ∧ m < 2147483648) ∧ addTurns m = addTurns a) ∧
        (-m).toNat < (-x).toNat := by
    rintro x ⟨⟨hx, _⟩, hsame⟩ htest
    have hneg : x < 0 := of_decide_eq_true htest
    refine ⟨x + 360, if_pos ⟨by omega, by omega⟩, ⟨⟨by omega, by omega⟩, ?_⟩, by omega⟩
    rw [← hsame, addTurns.eq_1 x, if_pos hneg]
  rcases ends_of_variant (fun x : Int => (-x).toNat) hround ⟨⟨hlo, hhi⟩, rfl⟩
    with ⟨t, ht, ⟨_, hsame⟩, htest⟩
  have hpos : ¬ t < 0 := of_decide_eq_false htest
  rw [← hsame, addTurns_nonneg (by omega)]
  exact ht

theorem turned_iff (a x : Int) : Turned a x ↔ x = a % 360 := by
  constructor
  · intro h
    exact ((h (a % 360)).mp ⟨by omega, by omega, by omega⟩).symm
  · rintro rfl y
    constructor
    · rintro ⟨hlo, hhi, hmod⟩
      omega
    · rintro rfl
      exact ⟨by omega, by omega, by omega⟩

/-- Dividing by 90 leaves the quarter turns. -/
theorem quarter_tdiv {x : Int} (hlo : 0 ≤ x) (hhi : x ≤ 359) : Quarter x (x.tdiv 90 * 90) := by
  rw [Int.tdiv_eq_ediv_of_nonneg hlo]
  refine ⟨?_, by omega, ?_⟩
  · simp only [List.mem_cons, List.not_mem_nil, or_false]
    omega
  · rintro m ⟨k, rfl⟩ hle
    omega

/-- Angles that differ by whole turns have the same remainder. -/
theorem emod_of_dvd_sub {a b : Int} (h : 360 ∣ b - a) : b % 360 = a % 360 :=
  (Int.emod_eq_emod_iff_emod_sub_eq_zero).mpr (Int.emod_eq_zero_of_dvd h)

namespace Video

/-- What `setRotation` does with an angle. -/
theorem setRotation_eq (r : SetResults) (c : Camera) (rotation : Int32) :
    setRotation r c rotation
      = c.put { c.impl.state with rotation := rotation.toInt % 360 } commitRotation r := by
  unfold setRotation
  simp only [turned_eq]

theorem rotationSettled_of_attached (rotation : Int32) {c : Camera} (hc : c.Attached) :
    RotationSettled rotation c := by
  intro r
  rcases Setting.apply_total (.rotation rotation) r hc with ⟨c', hc'⟩
  have hset : setRotation r c rotation = .ok c' := hc'
  have heq := setRotation_eq r c rotation
  have hstate : c'.impl.state.rotation = rotation.toInt % 360 := by
    rw [(put_ok (heq.symm.trans hset) commitRotation_quiet).1]
  refine ⟨c', hset, (turned_iff _ _).mpr hstate,
    ⟨_, quarter_tdiv (by omega) (by omega), fun _ _ => rfl⟩, fun other h => ?_⟩
  rw [setRotation_eq, emod_of_dvd_sub h, ← heq, hset]

end Video

namespace Still

/-- What `setRotation` does with an angle. -/
theorem setRotation_eq (p : PrivateImplStill) (rotation : Int32) :
    setRotation p rotation
      = { p with rotation := (rotation.toInt % 360).toNat, changedSettings := true } := by
  unfold setRotation
  simp only [turned_eq]
  rw [u32_toNat (by omega) (by omega)]

theorem rotationSettled (rotation : Int32) (p : PrivateImplStill) :
    RotationSettled rotation p := by
  have hstored : ((setRotation p rotation).rotation : Int) = rotation.toInt % 360 := by
    rw [setRotation_eq]
    simp only
    omega
  refine ⟨(turned_iff _ _).mpr hstored,
    ⟨_, quarter_tdiv (by omega) (by omega), fun _ _ => rfl⟩, fun other h => ?_⟩
  rw [setRotation_eq, setRotation_eq, emod_of_dvd_sub h]

end Still

/-- For every angle the loop ends without overflow, and in either class, in
    every state it can be in, what is stored is the angle without its whole
    turns and what is committed its quarter turns. -/
theorem rotation_settled (rotation : Int32) (os : List Video.Op) :
    turnLoop.Ends rotation.toInt (addTurns rotation.toInt) ∧
      Always Video.step (Video.RotationSettled rotation) .init os ∧
      ∀ p, Still.RotationSettled rotation p := by
  refine ⟨turnLoop_ends rotation.le_toInt rotation.toInt_lt, ?_, Still.rotationSettled rotation⟩
  refine always_mono (fun c hc => Video.rotationSettled_of_attached rotation hc) ?_
  exact always_of_step Video.attached_step Video.ledger_init.attached os

end RaspiCam
