import Footscreen.Game.Correctness.Motion

/-!
# `Game.Correctness.Separation` — a unit against an obstacle

`separateFrom` computes the overlap with the wrong sign: `distance - (s_radius + radius)` is positive when
the two are apart, so the early return is taken exactly when they overlap. The reflection before it turns
the velocity, which is what keeps a unit out in play.
-/

namespace Footscreen

open FloatArith

namespace GameUnit

/-- The distance of a unit to an obstacle's position. -/
noncomputable def distanceTo (u : GameUnit ℝ) (o : GameObstacle ℝ) : ℝ :=
  ((⟨u.x, u.y⟩ : Vec2 ℝ).sub o.position.toVec).norm

/-- The unit `u` was moved to `v`, outward from the obstacle, and overlaps it no longer. -/
structure Resolved (u v : GameUnit ℝ) (o : GameObstacle ℝ) : Prop where
  outward : ∃ a : ℝ, 0 ≤ a ∧ (⟨v.x, v.y⟩ : Vec2 ℝ) =
    (⟨u.x, u.y⟩ : Vec2 ℝ).add (((u.position.sub o.position).toVec : Vec2 ℝ).scale a)
  apart   : unitRadius + o.radius ≤ v.distanceTo o

/-- The unit has non-negative whole coordinates. -/
def Whole (u : GameUnit ℝ) : Prop := ∃ m n : Nat, u.x = ofInt m ∧ u.y = ofInt n

/-- For whole coordinates the distance is the one that the code computes. -/
theorem Whole.distanceTo_eq {u : GameUnit ℝ} (hu : u.Whole) (o : GameObstacle ℝ) :
    u.distanceTo o = (u.position.sub o.position).norm := by
  obtain ⟨m, n, hx, hy⟩ := hu
  have hposition : u.position = ⟨m, n⟩ := by
    unfold position
    rw [hx, hy, trunc_ofInt, trunc_ofInt]
  have hvec : (⟨u.x, u.y⟩ : Vec2 ℝ).sub o.position.toVec = (u.position.sub o.position).toVec := by
    rw [hposition, hx, hy]
    simp [Vec2.sub, Point.toVec, Point.sub, ofInt_real]
  unfold distanceTo
  rw [hvec, Point.norm_toVec]

/-- The overlap remains. -/
theorem distanceTo_separateFrom_lt {u : GameUnit ℝ} {o : GameObstacle ℝ} (hu : u.Whole)
    (hcollides : u.collidesWithObstacle o = true) :
    (u.separateFrom o).distanceTo o < unitRadius + o.radius := by
  -- the unit is where it was
  have hsame : (u.separateFrom o).distanceTo o = u.distanceTo o := by
    rw [separateFrom_of_collides hcollides]
    rfl
  rw [hsame, hu.distanceTo_eq]
  exact of_decide_eq_true hcollides

/-- **No overlap is resolved.** Where the caller finds a collision, `separateFrom` returns early. -/
theorem separateFrom_never_resolves (u : GameUnit ℝ) (o : GameObstacle ℝ) (hu : u.Whole)
    (hcollides : u.collidesWithObstacle o = true) : ¬ Resolved u (u.separateFrom o) o := by
  intro hresolved
  exact absurd (distanceTo_separateFrom_lt hu hcollides) (not_lt.mpr hresolved.apart)

/-! ## A unit beside an obstacle's centre -/

/-- A unit in the middle of the floor, at rest. -/
noncomputable def overlapping : GameUnit ℝ where
  address      := 1
  messageID    := messageIDFirst
  gameUnitData := ⟨ofInt 240, ofInt 240, 1, idFirstClient, false, true, false⟩
  velocity     := .zero
  acceleration := .zero
  isHunting    := false

/-- An obstacle of radius 50, ten to the right. -/
noncomputable def overlapped : GameObstacle ℝ :=
  ⟨2, messageIDFirst + 1, ⟨ofInt 250, ofInt 240, ofInt 50⟩⟩

theorem overlapping_whole : overlapping.Whole := ⟨240, 240, rfl, rfl⟩

theorem overlapping_position : overlapping.position = ⟨240, 240⟩ :=
  congrArg₂ Point.mk (trunc_ofInt 240) (trunc_ofInt 240)

theorem overlapped_position : overlapped.position = ⟨250, 240⟩ :=
  congrArg₂ Point.mk (trunc_ofInt 250) (trunc_ofInt 240)

theorem overlapping_position_ne : overlapping.position ≠ overlapped.position := by
  rw [overlapping_position, overlapped_position]
  decide

theorem overlapping_collides : overlapping.collidesWithObstacle overlapped = true := by
  apply decide_eq_true
  have hradius : (unitRadius : ℝ) + overlapped.radius = 58 := by
    show (unitRadius : ℝ) + ((50 : Int) : ℝ) = 58
    rw [unitRadius_real]
    norm_num
  rw [overlapping_position, overlapped_position, hradius]
  show Real.sqrt (((240 - 250) * (240 - 250) + (240 - 240) * (240 - 240) : Int) : ℝ) < 58
  rw [Real.sqrt_lt' (by norm_num)]
  norm_num

theorem separateFrom_never_resolves_overlapping :
    ¬ Resolved overlapping (overlapping.separateFrom overlapped) overlapped :=
  separateFrom_never_resolves overlapping overlapped overlapping_whole overlapping_collides

/-- They overlap, and `separateFrom` leaves them so. -/
theorem overlap_not_resolved :
    ∃ (u : GameUnit ℝ) (o : GameObstacle ℝ), u.Whole ∧ u.position ≠ o.position ∧
      u.collidesWithObstacle o = true ∧
      (u.separateFrom o).distanceTo o < unitRadius + o.radius ∧
      ¬ Resolved u (u.separateFrom o) o := by
  have hlt := distanceTo_separateFrom_lt overlapping_whole overlapping_collides
  exact ⟨overlapping, overlapped, overlapping_whole, overlapping_position_ne, overlapping_collides,
    hlt, fun hresolved => absurd hlt (not_lt.mpr hresolved.apart)⟩

end GameUnit

end Footscreen
