import Mathlib.Analysis.SpecialFunctions.Trigonometric.Basic
import Footscreen.Game.Game

/-!
# `Game.RealArith` — the simulation in exact real arithmetic

The real numbers as the arithmetic of the simulation; `trunc` cuts toward zero. Division by zero is the
one operation that the code and this arithmetic do not share. A unit's velocity is divided by only when
it is beyond the limit, so it remains the axis of `reflectOn`: it is zero when the unit and the obstacle
have the same truncated position, and the theorems about runs leave these runs out.
-/

namespace Footscreen

open FloatArith

noncomputable instance : FloatArith ℝ where
  ofInt x := (x : ℝ)
  sqrt    := Real.sqrt
  fabs x  := |x|
  cos     := Real.cos
  sin     := Real.sin
  trunc x := if 0 ≤ x then ⌊x⌋ else ⌈x⌉
  decLT   := inferInstance
  decLE   := inferInstance

theorem ofInt_real (n : Int) : (ofInt n : ℝ) = n := rfl

@[simp] theorem ofInt_zero : (ofInt 0 : ℝ) = 0 := Int.cast_zero

@[simp] theorem ofInt_one : (ofInt 1 : ℝ) = 1 := Int.cast_one

@[simp] theorem unitRadius_real : (GameUnit.unitRadius : ℝ) = 8 := by
  show ((8 : Int) : ℝ) = 8
  norm_num

@[simp] theorem maximalVelocity_real : (GameUnit.maximalVelocity : ℝ) = 110 := by
  show ((110 : Int) : ℝ) = 110
  norm_num

/-- A whole number is its own truncation. -/
theorem trunc_ofInt (n : Int) : trunc (ofInt n : ℝ) = n := by
  show (if 0 ≤ (n : ℝ) then ⌊(n : ℝ)⌋ else ⌈(n : ℝ)⌉) = n
  split
  · exact Int.floor_intCast n
  · exact Int.ceil_intCast n

/-! ## Vectors -/

namespace Vec2

theorem add_real (v w : Vec2 ℝ) : v.add w = ⟨v.x + w.x, v.y + w.y⟩ := rfl
theorem sub_real (v w : Vec2 ℝ) : v.sub w = ⟨v.x - w.x, v.y - w.y⟩ := rfl
theorem scale_real (v : Vec2 ℝ) (a : ℝ) : v.scale a = ⟨v.x * a, v.y * a⟩ := rfl
theorem norm_real (v : Vec2 ℝ) : v.norm = Real.sqrt (v.x * v.x + v.y * v.y) := rfl

theorem norm_nonneg (v : Vec2 ℝ) : 0 ≤ v.norm := Real.sqrt_nonneg _

theorem zero_real : (zero : Vec2 ℝ) = ⟨0, 0⟩ := by
  unfold zero
  simp

theorem norm_zero : (zero : Vec2 ℝ).norm = 0 := by
  rw [zero_real, norm_real]
  simp

theorem norm_eq_zero_iff {v : Vec2 ℝ} : v.norm = 0 ↔ v = .zero := by
  rw [norm_real, Real.sqrt_eq_zero (add_nonneg (mul_self_nonneg _) (mul_self_nonneg _)),
    mul_self_add_mul_self_eq_zero, zero_real, mk.injEq]

/-- The square of the norm. -/
theorem norm_mul_self (v : Vec2 ℝ) : v.norm * v.norm = v.x * v.x + v.y * v.y :=
  Real.mul_self_sqrt (add_nonneg (mul_self_nonneg _) (mul_self_nonneg _))

theorem dot_real (v w : Vec2 ℝ) : v.dot w = v.x * w.x + v.y * w.y := rfl

theorem dot_comm (v w : Vec2 ℝ) : v.dot w = w.dot v := by
  rw [dot_real, dot_real, mul_comm v.x, mul_comm v.y]

theorem dot_self (v : Vec2 ℝ) : v.dot v = v.norm * v.norm := v.norm_mul_self.symm

theorem add_dot (u v w : Vec2 ℝ) : (u.add v).dot w = u.dot w + v.dot w := by
  rw [add_real, dot_real, dot_real, dot_real]
  ring

theorem scale_dot (v w : Vec2 ℝ) (a : ℝ) : (v.scale a).dot w = a * v.dot w := by
  rw [scale_real, dot_real, dot_real]
  ring

/-- The norm is a function of the squares. -/
theorem norm_eq_of_squares {v w : Vec2 ℝ} (h : v.x * v.x + v.y * v.y = w.x * w.x + w.y * w.y) :
    v.norm = w.norm := by
  rw [norm_real, norm_real, h]

/-- A vector that is smaller in both coordinates is shorter. -/
theorem norm_le_of_abs {v w : Vec2 ℝ} (hx : |v.x| ≤ |w.x|) (hy : |v.y| ≤ |w.y|) : v.norm ≤ w.norm := by
  rw [norm_real, norm_real]
  refine Real.sqrt_le_sqrt (add_le_add ?_ ?_)
  · exact abs_le_iff_mul_self_le.mp hx
  · exact abs_le_iff_mul_self_le.mp hy

/-- A vector is at least as long as each of its coordinates. -/
theorem abs_x_le_norm (v : Vec2 ℝ) : |v.x| ≤ v.norm := by
  rw [norm_real]
  apply Real.abs_le_sqrt
  rw [sq]
  exact le_add_of_nonneg_right (mul_self_nonneg _)

theorem abs_y_le_norm (v : Vec2 ℝ) : |v.y| ≤ v.norm := by
  rw [norm_real]
  apply Real.abs_le_sqrt
  rw [sq]
  exact le_add_of_nonneg_left (mul_self_nonneg _)

theorem norm_scale (v : Vec2 ℝ) {a : ℝ} (ha : 0 ≤ a) : (v.scale a).norm = v.norm * a := by
  rw [scale_real, norm_real, norm_real]
  have hsquare : v.x * a * (v.x * a) + v.y * a * (v.y * a) = (v.x * v.x + v.y * v.y) * (a * a) := by
    ring
  rw [hsquare, Real.sqrt_mul (add_nonneg (mul_self_nonneg _) (mul_self_nonneg _)),
    Real.sqrt_mul_self ha]

end Vec2

namespace Point

theorem norm_toVec (p : Point) : (p.norm : ℝ) = (p.toVec : Vec2 ℝ).norm := by
  show Real.sqrt (((p.x * p.x + p.y * p.y : Int) : ℝ)) = Real.sqrt _
  congr 1
  show ((p.x * p.x + p.y * p.y : Int) : ℝ) = (p.x : ℝ) * (p.x : ℝ) + (p.y : ℝ) * (p.y : ℝ)
  push_cast
  ring

/-- The distance of two points is zero if and only if they are equal. -/
theorem norm_sub_eq_zero {p q : Point} : ((p.sub q).toVec : Vec2 ℝ).norm = 0 ↔ p = q := by
  have hnorm : ((p.sub q).toVec : Vec2 ℝ).norm =
      Real.sqrt (((p.x - q.x : Int) : ℝ) * ((p.x - q.x : Int) : ℝ) +
        ((p.y - q.y : Int) : ℝ) * ((p.y - q.y : Int) : ℝ)) := rfl
  rw [hnorm, Real.sqrt_eq_zero (add_nonneg (mul_self_nonneg _) (mul_self_nonneg _)),
    mul_self_add_mul_self_eq_zero, Int.cast_eq_zero, Int.cast_eq_zero]
  constructor
  · rintro ⟨hx, hy⟩
    obtain ⟨px, py⟩ := p
    obtain ⟨qx, qy⟩ := q
    rw [Point.mk.injEq]
    exact ⟨sub_eq_zero.mp hx, sub_eq_zero.mp hy⟩
  · rintro rfl
    exact ⟨Int.sub_self _, Int.sub_self _⟩

end Point

end Footscreen
