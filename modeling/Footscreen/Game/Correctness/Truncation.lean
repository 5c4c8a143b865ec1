import Footscreen.Game.RealArith

/-!
# `Game.Correctness.Truncation` — collisions on whole pixels

Collisions are decided between positions that are cut to whole coordinates. Each coordinate of a
difference is off by less than one (`abs_truncated_sub_lt`), so the distance is off by less than the
square root of two (`abs_distance_sub_lt`), whatever the places and the threshold (`collision_error`).
-/

namespace Footscreen

open FloatArith

/-- Cutting a coordinate that is not negative takes off less than one. -/
theorem trunc_nonneg {x : ℝ} (hx : 0 ≤ x) : (trunc x : ℝ) ≤ x ∧ x < trunc x + 1 := by
  have hfloor : trunc x = ⌊x⌋ := if_pos hx
  rw [hfloor]
  exact ⟨Int.floor_le x, Int.lt_floor_add_one x⟩

/-- The two errors of a difference go against each other. -/
theorem abs_truncated_sub_lt {x y : ℝ} (hx : 0 ≤ x) (hy : 0 ≤ y) :
    |(x - y) - ((trunc x - trunc y : Int) : ℝ)| < 1 := by
  obtain ⟨hx₁, hx₂⟩ := trunc_nonneg hx
  obtain ⟨hy₁, hy₂⟩ := trunc_nonneg hy
  rw [Int.cast_sub, abs_lt]
  constructor
  · linarith
  · linarith

namespace Vec2

/-- The norm is that of the complex numbers. -/
theorem norm_complex (v : Vec2 ℝ) : v.norm = ‖(⟨v.x, v.y⟩ : ℂ)‖ := by
  rw [Complex.norm_eq_sqrt_sq_add_sq, sq, sq]
  rfl

theorem abs_sub_norm_le (v w : Vec2 ℝ) : |v.norm - w.norm| ≤ (v.sub w).norm := by
  have hsub : (⟨(v.sub w).x, (v.sub w).y⟩ : ℂ) = ⟨v.x, v.y⟩ - ⟨w.x, w.y⟩ := rfl
  rw [norm_complex, norm_complex, norm_complex, hsub]
  exact abs_norm_sub_norm_le _ _

theorem norm_lt_sqrt_two {v : Vec2 ℝ} (hx : |v.x| < 1) (hy : |v.y| < 1) : v.norm < Real.sqrt 2 := by
  have hx' : v.x * v.x < 1 := by
    rw [← abs_mul_abs_self]
    nlinarith [abs_nonneg v.x]
  have hy' : v.y * v.y < 1 := by
    rw [← abs_mul_abs_self]
    nlinarith [abs_nonneg v.y]
  rw [norm_real]
  apply Real.sqrt_lt_sqrt (add_nonneg (mul_self_nonneg _) (mul_self_nonneg _))
  linarith

end Vec2

/-- A place with coordinates that are not negative. -/
def OnFloor (p : Vec2 ℝ) : Prop := 0 ≤ p.x ∧ 0 ≤ p.y

/-- The place, cut to whole coordinates. -/
noncomputable def cut (p : Vec2 ℝ) : Point := ⟨trunc p.x, trunc p.y⟩

/-- **The error** of a distance on whole coordinates. -/
theorem abs_distance_sub_lt {p q : Vec2 ℝ} (hp : OnFloor p) (hq : OnFloor q) :
    |(p.sub q).norm - ((cut p).sub (cut q)).norm| < Real.sqrt 2 := by
  rw [Point.norm_toVec]
  refine lt_of_le_of_lt (Vec2.abs_sub_norm_le _ _) (Vec2.norm_lt_sqrt_two ?_ ?_)
  · exact abs_truncated_sub_lt hp.1 hq.1
  · exact abs_truncated_sub_lt hp.2 hq.2

/-- A test of the distance on whole coordinates, as a test of the distance. -/
theorem distance_of_test {p q : Vec2 ℝ} (hp : OnFloor p) (hq : OnFloor q) (threshold : ℝ) :
    (((cut p).sub (cut q)).norm < threshold → (p.sub q).norm < threshold + Real.sqrt 2) ∧
      (¬ ((cut p).sub (cut q)).norm < threshold → threshold - Real.sqrt 2 < (p.sub q).norm) := by
  obtain ⟨hlow, hhigh⟩ := abs_lt.mp (abs_distance_sub_lt hp hq)
  constructor
  · intro h
    linarith
  · intro h
    linarith [not_lt.mp h]

namespace GameUnit

/-- Where the unit is. -/
def place (u : GameUnit ℝ) : Vec2 ℝ := ⟨u.x, u.y⟩

end GameUnit

/-- Where the obstacle is. -/
def GameObstacle.place (o : GameObstacle ℝ) : Vec2 ℝ := ⟨o.gameObstacleData.x, o.gameObstacleData.y⟩

namespace GameUnit

/-- **Collisions** of units of opposite kind, and of units with obstacles, are those of the real distance
    up to the square root of two. -/
theorem collision_error (u : GameUnit ℝ) (hu : OnFloor u.place) :
    (∀ v : GameUnit ℝ, OnFloor v.place → u.isHunting ≠ v.isHunting →
      (u.collidesWith v = true →
        (u.place.sub v.place).norm < ofInt 2 * unitRadius + Real.sqrt 2) ∧
      (u.collidesWith v = false →
        ofInt 2 * unitRadius - Real.sqrt 2 < (u.place.sub v.place).norm)) ∧
      ∀ o : GameObstacle ℝ, OnFloor o.place →
        (u.collidesWithObstacle o = true →
          (u.place.sub o.place).norm < unitRadius + o.radius + Real.sqrt 2) ∧
        (u.collidesWithObstacle o = false →
          unitRadius + o.radius - Real.sqrt 2 < (u.place.sub o.place).norm) := by
  constructor
  · intro v hv hkinds
    obtain ⟨hnear, hfar⟩ := distance_of_test hu hv (ofInt 2 * unitRadius)
    have htest : u.collidesWith v =
        decide (((cut u.place).sub (cut v.place)).norm < (ofInt 2 * unitRadius : ℝ)) := by
      unfold collidesWith
      cases hhunting : u.isHunting with
      | true =>
          cases hother : v.isHunting with
          | true => exact absurd (hhunting.trans hother.symm) hkinds
          | false => rfl
      | false =>
          cases hother : v.isHunting with
          | true => rfl
          | false => exact absurd (hhunting.trans hother.symm) hkinds
    rw [htest, decide_eq_true_iff, decide_eq_false_iff_not]
    exact ⟨hnear, hfar⟩
  · intro o ho
    obtain ⟨hnear, hfar⟩ := distance_of_test hu ho (unitRadius + o.radius)
    have htest : u.collidesWithObstacle o =
        decide (((cut u.place).sub (cut o.place)).norm < unitRadius + o.radius) := rfl
    rw [htest, decide_eq_true_iff, decide_eq_false_iff_not]
    exact ⟨hnear, hfar⟩

/-! ## A unit, a hunter and an obstacle at one pixel -/

noncomputable def fleeing : GameUnit ℝ where
  address      := 1
  messageID    := messageIDFirst
  gameUnitData := ⟨ofInt 10, ofInt 10, 1, idFirstClient, false, true, false⟩
  velocity     := .zero
  acceleration := .zero
  isHunting    := false

noncomputable def hunting : GameUnit ℝ :=
  { fleeing with
    address      := 2
    gameUnitData := ⟨ofInt 21 / ofInt 2, ofInt 10, 1, idFirstClient + 1, false, true, false⟩
    isHunting    := true }

noncomputable def stone : GameObstacle ℝ :=
  ⟨3, messageIDFirst + 1, ⟨ofInt 10, ofInt 21 / ofInt 2, ofInt 50⟩⟩

theorem trunc_ten_and_half : trunc (ofInt 21 / ofInt 2 : ℝ) = trunc (ofInt 10 : ℝ) := by
  have hhalf : (ofInt 21 / ofInt 2 : ℝ) = 21 / 2 := by
    rw [ofInt_real, ofInt_real]
    norm_num
  have hfloor : trunc (21 / 2 : ℝ) = ⌊(21 / 2 : ℝ)⌋ := if_pos (by norm_num)
  rw [hhalf, hfloor, trunc_ofInt, Int.floor_eq_iff]
  norm_num

theorem norm_sub_self (p : Point) : ((p.sub p).norm : ℝ) = 0 := by
  rw [Point.norm_toVec, Point.norm_sub_eq_zero.mpr rfl]

theorem fleeing_collides :
    fleeing.collidesWith hunting = true ∧ fleeing.collidesWithObstacle stone = true := by
  have hunter : hunting.position = fleeing.position :=
    congrArg₂ Point.mk trunc_ten_and_half rfl
  have hstone : stone.position = fleeing.position :=
    congrArg₂ Point.mk rfl trunc_ten_and_half
  constructor
  · apply decide_eq_true
    rw [hunter, norm_sub_self, unitRadius_real, ofInt_real]
    norm_num
  · apply decide_eq_true
    rw [hstone, norm_sub_self, unitRadius_real]
    show (0 : ℝ) < 8 + ((50 : Int) : ℝ)
    norm_num

theorem collision_error_fleeing :
    (fleeing.place.sub hunting.place).norm < ofInt 2 * unitRadius + Real.sqrt 2 ∧
      (fleeing.place.sub stone.place).norm < unitRadius + stone.radius + Real.sqrt 2 := by
  have hten : (0 : ℝ) ≤ ofInt 10 := by
    rw [ofInt_real]
    norm_num
  have hhalf : (0 : ℝ) ≤ ofInt 21 / ofInt 2 := by
    rw [ofInt_real, ofInt_real]
    norm_num
  have herror := collision_error fleeing ⟨hten, hten⟩
  exact ⟨(herror.1 hunting ⟨hhalf, hten⟩ Bool.false_ne_true).1 fleeing_collides.1,
    (herror.2 stone ⟨hten, hhalf⟩).1 fleeing_collides.2⟩

end GameUnit

end Footscreen
