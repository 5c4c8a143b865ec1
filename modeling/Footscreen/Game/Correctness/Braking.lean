import Footscreen.Game.Correctness.Motion
import Footscreen.Lib.Precedence

/-!
# `Game.Correctness.Braking` — a unit that is only braked

`move` takes the brake's share of a whole frame at once: after a frame of duration `dt` a velocity `v` is
`v * (1 - 10 * dt)`, limited. A frame of a tenth of a second stops the unit, and a longer one throws it
back. `brakes_iff` says so of one call, and `braking_iff` of all calls: no frame may be too long before
the unit has stopped, and once it has, its velocity stays zero.
-/

namespace Footscreen

open FloatArith Lib

namespace GameUnit

variable {u : GameUnit ℝ} {dt : ℝ} {dts : List ℝ}

/-- A unit that moves, and that nothing accelerates. -/
structure Coasting (u : GameUnit ℝ) : Prop where
  active : u.active = true
  free   : u.acceleration = .zero

/-- The call does not make the unit faster, and does not turn it back. -/
structure Brakes (u v : GameUnit ℝ) : Prop where
  slower  : v.velocity.norm ≤ u.velocity.norm
  forward : 0 ≤ u.velocity.dot v.velocity

/-- What is left of the velocity after a frame, before the limit. -/
noncomputable def remains (dt : ℝ) : ℝ := 1 - 10 * dt

theorem Coasting.velocity (h : u.Coasting) (dt : ℝ) :
    (u.move dt).velocity = limited (u.velocity.scale (remains dt)) := by
  have hbrake : (brakeFactor : ℝ) = 10 := by
    show ((10 : Int) : ℝ) = 10
    norm_num
  have hnext : u.velocity.add ((u.acceleration.sub (u.velocity.scale brakeFactor)).scale dt) =
      u.velocity.scale (remains dt) := by
    rw [h.free, hbrake, Vec2.zero_real]
    unfold remains
    simp only [Vec2.add_real, Vec2.sub_real, Vec2.scale_real, Vec2.mk.injEq]
    constructor
    · ring
    · ring
  rw [move_of_active h.active]
  show limited _ = _
  rw [hnext]

theorem Coasting.move (h : u.Coasting) (dt : ℝ) : (u.move dt).Coasting := by
  rw [move_of_active h.active]
  exact ⟨h.active, h.free⟩

/-- The limit shortens a velocity and keeps its direction. -/
theorem limited_eq (v : Vec2 ℝ) : ∃ k, 0 < k ∧ k ≤ 1 ∧ limited v = v.scale k := by
  unfold limited
  split
  · next h =>
      have hmax : (0 : ℝ) < maximalVelocity := by
        rw [maximalVelocity_real]
        norm_num
      have hpos : 0 < v.norm := lt_trans hmax h
      exact ⟨maximalVelocity / v.norm, div_pos hmax hpos, (div_le_one hpos).mpr h.le, rfl⟩
  · refine ⟨1, one_pos, le_refl 1, ?_⟩
    rw [Vec2.scale_real, mul_one, mul_one]

/-- A coasting unit's velocity is scaled. -/
theorem Coasting.exists_scale (h : u.Coasting) (dt : ℝ) :
    ∃ k, 0 < k ∧ k ≤ 1 ∧ (u.move dt).velocity = u.velocity.scale (remains dt * k) := by
  obtain ⟨k, hpos, hle, hk⟩ := limited_eq (u.velocity.scale (remains dt))
  refine ⟨k, hpos, hle, ?_⟩
  rw [h.velocity, hk, Vec2.scale_real, Vec2.scale_real, Vec2.scale_real, mul_assoc, mul_assoc]

theorem dot_scale (v : Vec2 ℝ) (a : ℝ) : v.dot (v.scale a) = a * (v.norm * v.norm) := by
  rw [Vec2.dot_comm, Vec2.scale_dot, Vec2.dot_self]

/-- **One call** brakes if and only if the unit stands or the frame is at most a tenth of a second. -/
theorem brakes_iff (h : u.Coasting) (hdt : 0 ≤ dt) :
    Brakes u (u.move dt) ↔ u.velocity = .zero ∨ dt ≤ 1 / 10 := by
  obtain ⟨k, hpos, hle, hk⟩ := h.exists_scale dt
  constructor
  · intro hbrakes
    by_contra hnot
    obtain ⟨hmoving, hlong⟩ := not_or.mp hnot
    -- the velocity is turned back
    have hnorm : 0 < u.velocity.norm := by
      apply lt_of_le_of_ne u.velocity.norm_nonneg
      exact fun hzero => hmoving (Vec2.norm_eq_zero_iff.mp hzero.symm)
    have hremains : remains dt < 0 := by
      unfold remains
      linarith [not_le.mp hlong]
    have hforward := hbrakes.forward
    rw [hk, dot_scale] at hforward
    have hback : remains dt * k * (u.velocity.norm * u.velocity.norm) < 0 :=
      mul_neg_of_neg_of_pos (mul_neg_of_neg_of_pos hremains hpos) (mul_pos hnorm hnorm)
    exact absurd hforward (not_le.mpr hback)
  · rintro (hstands | hshort)
    · have hmoved : (u.move dt).velocity = .zero := by
        rw [hk, hstands, Vec2.zero_real, Vec2.scale_real, zero_mul]
      refine ⟨?_, ?_⟩
      · rw [hmoved, hstands]
      · rw [hmoved, hstands, Vec2.zero_real]
        show (0 : ℝ) ≤ 0 * 0 + 0 * 0
        norm_num
    · have hremains : 0 ≤ remains dt ∧ remains dt ≤ 1 := by
        unfold remains
        constructor
        · linarith
        · linarith
      have hscale : 0 ≤ remains dt * k := mul_nonneg hremains.1 hpos.le
      refine ⟨?_, ?_⟩
      · rw [hk, Vec2.norm_scale _ hscale]
        exact mul_le_of_le_one_right u.velocity.norm_nonneg (mul_le_one₀ hremains.2 hpos.le hle)
      · rw [hk, dot_scale]
        exact mul_nonneg hscale (mul_self_nonneg _)

/-- A call stops a unit if it takes a tenth of a second. -/
theorem stands_move_iff (h : u.Coasting) (dt : ℝ) :
    (u.move dt).velocity = .zero ↔ u.velocity = .zero ∨ dt = 1 / 10 := by
  obtain ⟨k, hpos, -, hk⟩ := h.exists_scale dt
  have hremains : remains dt = 0 ↔ dt = 1 / 10 := by
    unfold remains
    constructor
    · intro hzero
      linarith
    · rintro rfl
      norm_num
  rw [hk, Vec2.scale_real, Vec2.zero_real, ← hremains]
  obtain ⟨vx, vy⟩ := u.velocity
  simp only [Vec2.mk.injEq, mul_eq_zero, hpos.ne', or_false]
  tauto

/-! ## All calls -/

/-- One call. -/
noncomputable def moveStep (u : GameUnit ℝ) (dt : ℝ) : Option (GameUnit ℝ) := some (u.move dt)

theorem exists_exec_moveStep (dts : List ℝ) : ∀ u, ∃ v, exec moveStep u dts = some v := by
  induction dts with
  | nil => exact fun u => ⟨u, rfl⟩
  | cons dt dts ih => exact fun u => ih (u.move dt)

open Classical in
/-- No duration is longer than a tenth of a second before the first that is exactly as long. -/
def StopsInTime (dts : List ℝ) : Prop :=
  OnlyAfter (fun dt : ℝ => decide (dt = 1 / 10)) (fun dt => decide (1 / 10 < dt)) dts

theorem coasting_step {v : GameUnit ℝ} (h : u.Coasting) (hstep : moveStep u dt = some v) : v.Coasting := by
  cases hstep
  exact h.move dt

open Classical in
/-- To brake in every call is to stand whenever a duration is too long. -/
theorem braking_iff_checked (h : u.Coasting) (hdts : ∀ dt ∈ dts, 0 ≤ dt) :
    Guarded moveStep (fun u dt => Brakes u (u.move dt)) u dts ↔
      Guarded moveStep (fun u dt => decide (1 / 10 < dt) = true → u.velocity = .zero) u dts := by
  have hnonneg : Guarded moveStep (fun _ dt => 0 ≤ dt) u dts := guarded_of_mem fun dt hdt _ => hdts dt hdt
  constructor
  · intro hbrakes
    refine (hbrakes.and hnonneg).of_invariant (I := Coasting) ?_ (fun _ hu => coasting_step hu) h
    rintro v dt hv ⟨hbrake, hdt⟩ hlong
    exact ((brakes_iff hv hdt).mp hbrake).resolve_right (not_le.mpr (of_decide_eq_true hlong))
  · intro hstands
    refine (hstands.and hnonneg).of_invariant (I := Coasting) ?_ (fun _ hu => coasting_step hu) h
    rintro v dt hv ⟨hstand, hdt⟩
    apply (brakes_iff hv hdt).mpr
    by_cases hlong : 1 / 10 < dt
    · exact Or.inl (hstand (decide_eq_true hlong))
    · exact Or.inr (not_lt.mp hlong)

/-- A unit that stands goes on standing. -/
theorem guarded_of_stands (h : u.Coasting) (hstands : u.velocity = .zero) (long : ℝ → Bool) :
    Guarded moveStep (fun u dt => long dt = true → u.velocity = .zero) u dts := by
  have hany : Guarded moveStep (fun _ _ => True) u dts := guarded_of_forall fun _ _ => trivial
  refine hany.of_invariant (I := fun u => u.Coasting ∧ u.velocity = .zero) ?_ ?_ ⟨h, hstands⟩
  · exact fun hu _ _ => hu.2
  · rintro v dt w _ ⟨hv, hzero⟩ hstep
    refine ⟨coasting_step hv hstep, ?_⟩
    cases hstep
    exact (stands_move_iff hv dt).mpr (Or.inl hzero)

/-- **Braking** never speeds a unit up or turns it back, over all calls of any durations, if and only if
    it stands, or no duration is too long before one stops it. -/
theorem braking_iff (h : u.Coasting) (hdts : ∀ dt ∈ dts, 0 ≤ dt) :
    Guarded moveStep (fun u dt => Brakes u (u.move dt)) u dts ↔
      u.velocity = .zero ∨ StopsInTime dts := by
  classical
  rw [braking_iff_checked h hdts]
  by_cases hstands : u.velocity = .zero
  · exact iff_of_true (guarded_of_stands h hstands _) (Or.inl hstands)
  · obtain ⟨v, hrun⟩ := exists_exec_moveStep dts u
    rw [or_iff_right hstands]
    unfold StopsInTime
    refine guarded_iff_onlyAfter (J := Coasting) (fun u => u.velocity = .zero) ?_ h hstands
      (fun hu => coasting_step hu) ?_ hrun
    · intro dt hdt
      rw [of_decide_eq_true hdt]
      exact decide_eq_false (lt_irrefl _)
    · intro v dt w hv hstep
      cases hstep
      rw [stands_move_iff hv dt, decide_eq_true_iff]

/-! ## A long frame -/

/-- A unit that goes to the right. -/
noncomputable def rolling : GameUnit ℝ where
  address      := 1
  messageID    := messageIDFirst
  gameUnitData := ⟨240, 240, 1, idFirstClient, false, true, false⟩
  velocity     := ⟨10, 0⟩
  acceleration := .zero
  isHunting    := false

theorem rolling_coasting : rolling.Coasting := ⟨rfl, rfl⟩

/-- Two frames of 20 ms. -/
theorem braking_iff_rolling :
    Guarded moveStep (fun u dt => Brakes u (u.move dt)) rolling [1 / 50, 1 / 50] ↔
      rolling.velocity = .zero ∨ StopsInTime [1 / 50, 1 / 50] :=
  braking_iff rolling_coasting (by norm_num)

/-- After 300 ms the unit goes to the left, at twice the speed. -/
theorem rolling_thrown_back :
    (rolling.move (3 / 10)).velocity = ⟨-20, 0⟩ ∧
      rolling.velocity.norm < (rolling.move (3 / 10)).velocity.norm ∧
      ¬ Brakes rolling (rolling.move (3 / 10)) := by
  have hbraked : rolling.velocity.scale (remains (3 / 10)) = ⟨-20, 0⟩ := by
    show (⟨10 * (1 - 10 * (3 / 10)), 0 * (1 - 10 * (3 / 10))⟩ : Vec2 ℝ) = _
    norm_num
  have hfast : (⟨-20, 0⟩ : Vec2 ℝ).norm = 20 := by
    have hsquare : (-20 : ℝ) * -20 + 0 * 0 = 20 * 20 := by norm_num
    rw [Vec2.norm_real, hsquare, Real.sqrt_mul_self (by norm_num)]
  have hslow : rolling.velocity.norm = 10 := by
    have hsquare : (10 : ℝ) * 10 + 0 * 0 = 10 * 10 := by norm_num
    show Real.sqrt (10 * 10 + 0 * 0) = 10
    rw [hsquare, Real.sqrt_mul_self (by norm_num)]
  have hvelocity : (rolling.move (3 / 10)).velocity = ⟨-20, 0⟩ := by
    rw [rolling_coasting.velocity, hbraked]
    apply if_neg
    rw [hfast, maximalVelocity_real]
    norm_num
  have hfaster : rolling.velocity.norm < (rolling.move (3 / 10)).velocity.norm := by
    rw [hvelocity, hfast, hslow]
    norm_num
  exact ⟨hvelocity, hfaster, fun hbrakes => absurd hbrakes.slower (not_le.mpr hfaster)⟩

end GameUnit

end Footscreen
