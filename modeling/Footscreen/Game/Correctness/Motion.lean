import Footscreen.Game.RealArith
import Footscreen.Game.Correctness.Frames

/-!
# `Game.Correctness.Motion` — how a unit moves, in real numbers

`landing` is where a unit comes to in a frame, from its state before: a dead or arrived unit stays, any
other goes on at its limited velocity and stops at the walls. Reflections change the direction of the
velocity only (`reflectOn_norm`), and a unit that is separated from an obstacle is not moved
(`separateFrom_of_collides`). `frame_spec` puts together what a frame does to a unit inside the arena.
-/

namespace Footscreen

open FloatArith Lib

namespace GameUnit

/-! ## The arena -/

/-- The least and the greatest coordinate inside the walls. -/
noncomputable def low : ℝ := unitRadius / ofInt 2
noncomputable def high : ℝ := ofInt 480 - unitRadius / ofInt 2

theorem low_eq : low = 4 := by
  show (unitRadius : ℝ) / ((2 : Int) : ℝ) = 4
  rw [unitRadius_real]
  norm_num

theorem high_eq : high = 476 := by
  show ((480 : Int) : ℝ) - (unitRadius : ℝ) / ((2 : Int) : ℝ) = 476
  rw [unitRadius_real]
  norm_num

/-- From here on a unit has arrived. -/
noncomputable def goal : ℝ := ofInt 480 - unitRadius

theorem goal_eq : goal = 472 := by
  show ((480 : Int) : ℝ) - (unitRadius : ℝ) = 472
  rw [unitRadius_real]
  norm_num

/-- The unit is inside the walls. -/
structure Inside (u : GameUnit ℝ) : Prop where
  left   : low ≤ u.x
  right  : u.x ≤ high
  top    : low ≤ u.y
  bottom : u.y ≤ high

theorem Inside.of_eq {u v : GameUnit ℝ} (h : u.Inside) (hx : v.x = u.x) (hy : v.y = u.y) : v.Inside := by
  constructor
  · rw [hx]
    exact h.left
  · rw [hx]
    exact h.right
  · rw [hy]
    exact h.top
  · rw [hy]
    exact h.bottom

/-- A coordinate, set back to a wall if it is beyond it. -/
noncomputable def clamp (a : ℝ) : ℝ := if a < low then low else if high < a then high else a

/-- A velocity's component, turned at a wall. -/
noncomputable def bounce (a v : ℝ) : ℝ := if a < low ∨ high < a then -v else v

theorem clamp_mem (a : ℝ) : low ≤ clamp a ∧ clamp a ≤ high := by
  unfold clamp
  rw [low_eq, high_eq]
  split
  · norm_num
  · split
    · norm_num
    · next h h' => exact ⟨not_lt.mp h, not_lt.mp h'⟩

theorem clamp_of_mem {a : ℝ} (hlow : low ≤ a) (hhigh : a ≤ high) : clamp a = a := by
  unfold clamp
  rw [if_neg (not_lt.mpr hlow), if_neg (not_lt.mpr hhigh)]

/-- The walls shorten a move that starts between them. -/
theorem abs_clamp_sub_le {a b : ℝ} (hlow : low ≤ a) (hhigh : a ≤ high) :
    |clamp (a + b) - a| ≤ |b| := by
  unfold clamp
  split
  · next h =>
      have hb : b ≤ 0 := by linarith
      rw [abs_of_nonpos (by linarith : low - a ≤ 0), abs_of_nonpos hb]
      linarith
  · split
    · next h =>
        have hb : 0 ≤ b := by linarith
        rw [abs_of_nonneg (by linarith : 0 ≤ high - a), abs_of_nonneg hb]
        linarith
    · rw [add_sub_cancel_left]

theorem bounce_mul_self (a v : ℝ) : bounce a v * bounce a v = v * v := by
  unfold bounce
  split
  · exact neg_mul_neg v v
  · rfl

/-- A coordinate that a move takes beyond a wall leaves the velocity pointing inward. -/
theorem bounce_inward {a v dt : ℝ} (hlow : low ≤ a) (hhigh : a ≤ high) (hdt : 0 ≤ dt) :
    (a + v * dt < low → 0 < bounce (a + v * dt) v) ∧
      (high < a + v * dt → bounce (a + v * dt) v < 0) := by
  constructor
  · intro h
    have hvdt : v * dt < 0 := by linarith
    have hv : v < 0 := by
      by_contra hv
      exact absurd (mul_nonneg (not_lt.mp hv) hdt) (not_le.mpr hvdt)
    unfold bounce
    rw [if_pos (Or.inl h)]
    linarith
  · intro h
    have hvdt : 0 < v * dt := by linarith
    have hv : 0 < v := by
      by_contra hv
      exact absurd (mul_nonpos_of_nonpos_of_nonneg (not_lt.mp hv) hdt) (not_le.mpr hvdt)
    unfold bounce
    rw [if_pos (Or.inr h)]
    linarith

/-- The walls to the left and to the right. -/
noncomputable def reflectOnSides (u : GameUnit ℝ) : GameUnit ℝ :=
  let u := if u.x < low then
    { u.setPosition low u.y with velocity := ⟨-u.velocity.x, u.velocity.y⟩ } else u
  if high < u.x then
    { u.setPosition high u.y with velocity := ⟨-u.velocity.x, u.velocity.y⟩ } else u

/-- The walls at the top and at the bottom. -/
noncomputable def reflectOnEnds (u : GameUnit ℝ) : GameUnit ℝ :=
  let u := if u.y < low then
    { u.setPosition u.x low with velocity := ⟨u.velocity.x, -u.velocity.y⟩ } else u
  if high < u.y then
    { u.setPosition u.x high with velocity := ⟨u.velocity.x, -u.velocity.y⟩ } else u

theorem not_high_lt_low : ¬ high < low := by
  rw [low_eq, high_eq]
  norm_num

theorem reflectOnSides_eq (u : GameUnit ℝ) :
    u.reflectOnSides =
      { u.setPosition (clamp u.x) u.y with velocity := ⟨bounce u.x u.velocity.x, u.velocity.y⟩ } := by
  unfold reflectOnSides
  dsimp only
  by_cases hlow : u.x < low
  · have hclamp : clamp u.x = low := if_pos hlow
    have hbounce : bounce u.x u.velocity.x = -u.velocity.x := if_pos (Or.inl hlow)
    rw [hclamp, hbounce, if_pos hlow]
    exact if_neg not_high_lt_low
  · rw [if_neg hlow]
    by_cases hhigh : high < u.x
    · have hclamp : clamp u.x = high := (if_neg hlow).trans (if_pos hhigh)
      have hbounce : bounce u.x u.velocity.x = -u.velocity.x := if_pos (Or.inr hhigh)
      rw [hclamp, hbounce, if_pos hhigh]
    · have hclamp : clamp u.x = u.x := clamp_of_mem (not_lt.mp hlow) (not_lt.mp hhigh)
      have hbounce : bounce u.x u.velocity.x = u.velocity.x := if_neg (not_or_intro hlow hhigh)
      rw [hclamp, hbounce, if_neg hhigh]
      rfl

theorem reflectOnEnds_eq (u : GameUnit ℝ) :
    u.reflectOnEnds =
      { u.setPosition u.x (clamp u.y) with velocity := ⟨u.velocity.x, bounce u.y u.velocity.y⟩ } := by
  unfold reflectOnEnds
  dsimp only
  by_cases hlow : u.y < low
  · have hclamp : clamp u.y = low := if_pos hlow
    have hbounce : bounce u.y u.velocity.y = -u.velocity.y := if_pos (Or.inl hlow)
    rw [hclamp, hbounce, if_pos hlow]
    exact if_neg not_high_lt_low
  · rw [if_neg hlow]
    by_cases hhigh : high < u.y
    · have hclamp : clamp u.y = high := (if_neg hlow).trans (if_pos hhigh)
      have hbounce : bounce u.y u.velocity.y = -u.velocity.y := if_pos (Or.inr hhigh)
      rw [hclamp, hbounce, if_pos hhigh]
    · have hclamp : clamp u.y = u.y := clamp_of_mem (not_lt.mp hlow) (not_lt.mp hhigh)
      have hbounce : bounce u.y u.velocity.y = u.velocity.y := if_neg (not_or_intro hlow hhigh)
      rw [hclamp, hbounce, if_neg hhigh]
      rfl

/-- **The walls**: each coordinate is set back for itself, and its velocity turned. -/
theorem reflectOnWalls_eq (u : GameUnit ℝ) :
    u.reflectOnWalls =
      { u.setPosition (clamp u.x) (clamp u.y) with
        velocity := ⟨bounce u.x u.velocity.x, bounce u.y u.velocity.y⟩ } := by
  have hhalves : u.reflectOnWalls = u.reflectOnSides.reflectOnEnds := rfl
  rw [hhalves, reflectOnSides_eq, reflectOnEnds_eq]
  rfl

/-! ## Movement -/

/-- A velocity, cut to the maximal one. -/
noncomputable def limited (v : Vec2 ℝ) : Vec2 ℝ :=
  if maximalVelocity < v.norm then v.scale (maximalVelocity / v.norm) else v

theorem limited_norm_le (v : Vec2 ℝ) : (limited v).norm ≤ maximalVelocity := by
  unfold limited
  split
  · next h =>
      have hmax : (maximalVelocity : ℝ) = 110 := maximalVelocity_real
      rw [hmax] at h ⊢
      have hpos : 0 < v.norm := lt_trans (by norm_num) h
      rw [Vec2.norm_scale v (div_nonneg (by norm_num) hpos.le), mul_div_cancel₀ _ hpos.ne']
  · next h => exact not_lt.mp h

/-- The velocity that a unit moves with in a frame: its own, braked and accelerated, and then limited. -/
noncomputable def nextVelocity (u : GameUnit ℝ) (dt : ℝ) : Vec2 ℝ :=
  limited (u.velocity.add ((u.acceleration.sub (u.velocity.scale brakeFactor)).scale dt))

/-- The unit moves in frames. -/
def active (u : GameUnit ℝ) : Bool := u.isLiving && !u.hasArrived

/-- Where a unit comes to in a frame. -/
noncomputable def landing (u : GameUnit ℝ) (dt : ℝ) : Vec2 ℝ :=
  if u.active then
    ⟨clamp (u.x + (u.nextVelocity dt).x * dt), clamp (u.y + (u.nextVelocity dt).y * dt)⟩
  else ⟨u.x, u.y⟩

theorem landing_of_active {u : GameUnit ℝ} (h : u.active = true) (dt : ℝ) : u.landing dt =
    ⟨clamp (u.x + (u.nextVelocity dt).x * dt), clamp (u.y + (u.nextVelocity dt).y * dt)⟩ :=
  if_pos h

theorem landing_of_not_active {u : GameUnit ℝ} (h : u.active = false) (dt : ℝ) :
    u.landing dt = ⟨u.x, u.y⟩ :=
  if_neg (by simp [h])

theorem move_of_active {u : GameUnit ℝ} (h : u.active = true) (dt : ℝ) :
    u.move dt = { u with velocity := u.nextVelocity dt }.setPosition
      (u.x + (u.nextVelocity dt).x * dt) (u.y + (u.nextVelocity dt).y * dt) := by
  obtain ⟨hliving, harrived⟩ := Bool.and_eq_true_iff.mp h
  unfold move
  rw [Bool.not_eq_true'] at harrived
  rw [if_neg (by simp [hliving, harrived])]
  rfl

theorem move_of_not_active {u : GameUnit ℝ} (h : u.active = false) (dt : ℝ) :
    u.move dt = { u with velocity := .zero, acceleration := .zero } := by
  have hstopped : (!u.isLiving || u.hasArrived) = true := by
    unfold active at h
    cases hliving : u.isLiving <;> simp_all
  unfold move
  rw [if_pos hstopped]

/-- What no movement changes. -/
structure SameUnit (u v : GameUnit ℝ) : Prop where
  messageID  : v.messageID = u.messageID
  owner      : v.owner = u.owner
  number     : v.gameUnitData.number = u.gameUnitData.number
  isHunting  : v.isHunting = u.isHunting
  isLiving   : v.isLiving = u.isLiving
  hasArrived : v.hasArrived = u.hasArrived

/-- A unit inside the arena, moved and set back to the walls. -/
structure Walled (dt : ℝ) (u v : GameUnit ℝ) : Prop where
  same    : SameUnit u v
  landing : (⟨v.x, v.y⟩ : Vec2 ℝ) = u.landing dt
  speed   : v.velocity.norm ≤ maximalVelocity

theorem maximalVelocity_nonneg : (0 : ℝ) ≤ maximalVelocity := by
  rw [maximalVelocity_real]
  norm_num

theorem reflectOnWalls_norm (u : GameUnit ℝ) : u.reflectOnWalls.velocity.norm = u.velocity.norm := by
  rw [reflectOnWalls_eq]
  apply Vec2.norm_eq_of_squares
  exact congrArg₂ (· + ·) (bounce_mul_self _ _) (bounce_mul_self _ _)

theorem move_norm_le (u : GameUnit ℝ) (dt : ℝ) : (u.move dt).velocity.norm ≤ maximalVelocity := by
  cases hactive : u.active with
  | true =>
      rw [move_of_active hactive]
      exact limited_norm_le _
  | false =>
      rw [move_of_not_active hactive]
      exact le_trans (le_of_eq Vec2.norm_zero) maximalVelocity_nonneg

theorem walled_move {u : GameUnit ℝ} (hu : u.Inside) (dt : ℝ) :
    Walled dt u (u.move dt).reflectOnWalls := by
  have hspeed : (u.move dt).reflectOnWalls.velocity.norm ≤ maximalVelocity := by
    rw [reflectOnWalls_norm]
    exact move_norm_le u dt
  rw [reflectOnWalls_eq] at hspeed ⊢
  cases hactive : u.active with
  | true =>
      rw [move_of_active hactive] at hspeed ⊢
      exact ⟨⟨rfl, rfl, rfl, rfl, rfl, rfl⟩, (landing_of_active hactive dt).symm, hspeed⟩
  | false =>
      -- a unit that does not move is inside already
      rw [move_of_not_active hactive] at hspeed ⊢
      refine ⟨⟨rfl, rfl, rfl, rfl, rfl, rfl⟩, ?_, hspeed⟩
      rw [landing_of_not_active hactive]
      exact congrArg₂ Vec2.mk (clamp_of_mem hu.left hu.right) (clamp_of_mem hu.top hu.bottom)

/-! ## Obstacles -/

/-- The outward axis: from the obstacle to the unit. -/
noncomputable def axis (u : GameUnit ℝ) (o : GameObstacle ℝ) : Vec2 ℝ := (u.position.sub o.position).toVec

/-- The velocity along the outward axis, in units of its length. It is negative for a unit that heads into
    the obstacle. -/
noncomputable def heading (u : GameUnit ℝ) (o : GameObstacle ℝ) : ℝ := u.velocity.dot (u.axis o)

theorem axis_norm_ne_zero {u : GameUnit ℝ} {o : GameObstacle ℝ} (h : u.position ≠ o.position) :
    (u.axis o).norm ≠ 0 :=
  mt Point.norm_sub_eq_zero.mp h

/-- **A reflection** adds to the velocity along the outward axis. -/
theorem reflectOn_velocity {u : GameUnit ℝ} {o : GameObstacle ℝ} (h : u.position ≠ o.position) :
    (u.reflectOn o).velocity = u.velocity.add ((u.axis o).scale
      ((|u.heading o| - u.heading o) / (u.axis o).dot (u.axis o))) := by
  obtain ⟨n, hn⟩ : ∃ n, n = u.axis o := ⟨_, rfl⟩
  have hnorm : n.norm ≠ 0 := hn ▸ axis_norm_ne_zero h
  have hreflect : (u.reflectOn o).velocity =
      (u.velocity.sub
        ((n.scale (ofInt 1 / n.norm)).scale (u.velocity.dot (n.scale (ofInt 1 / n.norm))))).add
          ((n.scale (ofInt 1 / n.norm)).scale |-(u.velocity.dot (n.scale (ofInt 1 / n.norm)))|) := by
    rw [hn]
    rfl
  have hspeed : u.velocity.dot (n.scale (ofInt 1 / n.norm)) = u.heading o / n.norm := by
    rw [Vec2.dot_comm, Vec2.scale_dot, Vec2.dot_comm, ofInt_one, one_div_mul_eq_div, hn]
    rfl
  rw [hreflect, hspeed, ofInt_one, abs_neg, abs_div, abs_of_nonneg n.norm_nonneg, ← hn, Vec2.dot_self]
  simp only [Vec2.add_real, Vec2.sub_real, Vec2.scale_real, Vec2.mk.injEq]
  constructor
  · field_simp
    ring
  · field_simp
    ring

/-- **A reflection** turns the velocity, and keeps its amount. -/
theorem reflectOn_norm {u : GameUnit ℝ} {o : GameObstacle ℝ} (h : u.position ≠ o.position) :
    (u.reflectOn o).velocity.norm = u.velocity.norm := by
  obtain ⟨n, hn⟩ : ∃ n, n = u.axis o := ⟨_, rfl⟩
  obtain ⟨s, hs⟩ : ∃ s, s = u.heading o := ⟨_, rfl⟩
  have hsquare : n.dot n ≠ 0 := by
    rw [Vec2.dot_self, hn]
    exact mul_self_ne_zero.mpr (axis_norm_ne_zero h)
  obtain ⟨a, ha⟩ : ∃ a, a = (|s| - s) / n.dot n := ⟨_, rfl⟩
  have hadded : a * n.dot n = |s| - s := by rw [ha, div_mul_cancel₀ _ hsquare]
  have hdot : u.velocity.dot n = s := by
    rw [hs, hn]
    rfl
  rw [reflectOn_velocity h, ← hn, ← hs, ← ha]
  apply Vec2.norm_eq_of_squares
  show (u.velocity.add (n.scale a)).dot (u.velocity.add (n.scale a)) = u.velocity.dot u.velocity
  calc (u.velocity.add (n.scale a)).dot (u.velocity.add (n.scale a))
      = u.velocity.dot u.velocity + a * (2 * u.velocity.dot n + a * n.dot n) := by
        rw [Vec2.add_dot, Vec2.dot_comm u.velocity, Vec2.add_dot, Vec2.scale_dot, Vec2.scale_dot,
          Vec2.dot_comm n (Vec2.add _ _), Vec2.add_dot, Vec2.scale_dot, Vec2.dot_comm n u.velocity]
        ring
    _ = u.velocity.dot u.velocity + a * (|s| + s) := by
        rw [hdot, hadded]
        ring
    _ = u.velocity.dot u.velocity + (|s| * |s| - s * s) / n.dot n := by
        rw [ha]
        ring
    _ = u.velocity.dot u.velocity := by
        rw [abs_mul_abs_self, sub_self, zero_div, add_zero]

/-- A unit that collides with an obstacle overlaps it, so it is reflected and not moved. -/
theorem separateFrom_of_collides {u : GameUnit ℝ} {o : GameObstacle ℝ}
    (h : u.collidesWithObstacle o = true) : u.separateFrom o = u.reflectOn o := by
  have hdistance : ((u.position.sub o.position).norm : ℝ) < unitRadius + o.radius :=
    of_decide_eq_true h
  rw [Point.norm_toVec] at hdistance
  unfold separateFrom
  apply if_pos
  show ((u.position.sub o.position).toVec : Vec2 ℝ).norm - (unitRadius + o.radius) ≤ ofInt 0
  rw [ofInt_zero]
  linarith

/-- **The obstacle loop** changes the velocity only. -/
theorem separateUnit_eq_of_velocity (os : List (GameObstacle ℝ)) (u : GameUnit ℝ) :
    ∃ v, Game.separateUnit os u = { u with velocity := v } ∧
      ((∀ p ∈ u.separationsFrom os, p.1.position ≠ p.2.position) → v.norm = u.velocity.norm) ∧
      ∀ p ∈ u.separationsFrom os, p.1.position = u.position := by
  unfold Game.separateUnit
  induction os generalizing u with
  | nil => exact ⟨u.velocity, rfl, fun _ => rfl, fun p hp => by cases hp⟩
  | cons o os ih =>
      rw [List.foldl_cons]
      unfold separationsFrom
      cases hcollides : u.collidesWithObstacle o with
      | false => exact ih u
      | true =>
          simp only [if_true]
          rw [separateFrom_of_collides hcollides]
          obtain ⟨v, hv, hnorm, hposition⟩ := ih (u.reflectOn o)
          refine ⟨v, hv, ?_, ?_⟩
          · intro hhits
            rw [hnorm fun p hp => hhits p (List.mem_cons_of_mem _ hp)]
            exact reflectOn_norm (hhits (u, o) List.mem_cons_self)
          · intro p hp
            rcases List.mem_cons.mp hp with rfl | hp
            · rfl
            · exact hposition p hp

/-! ## A frame -/

/-- What a frame does to a unit inside the arena. -/
structure Framed (dt : ℝ) (u v : GameUnit ℝ) : Prop where
  messageID  : v.messageID = u.messageID
  owner      : v.owner = u.owner
  number     : v.gameUnitData.number = u.gameUnitData.number
  isHunting  : v.isHunting = u.isHunting
  landing    : (⟨v.x, v.y⟩ : Vec2 ℝ) = u.landing dt
  hasArrived : v.hasArrived = true ↔
    u.hasArrived = true ∨ (u.isHunting = false ∧ goal ≤ (u.landing dt).y)
  isLiving   : v.isLiving = true → u.isLiving = true
  hunting    : u.isHunting = true → v.isLiving = u.isLiving

theorem advance_eq (u : GameUnit ℝ) (dt : ℝ) :
    u.advance dt = (u.move dt).reflectOnWalls.setArrived (u.advance dt).hasArrived := by
  unfold advance
  dsimp only
  split <;> rfl

theorem advance_hasArrived {u : GameUnit ℝ} {dt : ℝ} (h : Walled dt u (u.move dt).reflectOnWalls) :
    (u.advance dt).hasArrived = true ↔
      u.hasArrived = true ∨ (u.isHunting = false ∧ goal ≤ (u.landing dt).y) := by
  have hy : (u.move dt).reflectOnWalls.y = (u.landing dt).y := congrArg Vec2.y h.landing
  rw [← h.same.hasArrived, ← h.same.isHunting, ← hy]
  unfold advance
  dsimp only
  split
  · next harrives =>
      simp only [Bool.and_eq_true, Bool.not_eq_true', decide_eq_true_eq] at harrives
      obtain ⟨⟨-, hhunting⟩, hgoal⟩ := harrives
      exact ⟨fun _ => Or.inr ⟨hhunting, hgoal⟩, fun _ => rfl⟩
  · next harrives =>
      simp only [Bool.and_eq_true, Bool.not_eq_true', decide_eq_true_eq] at harrives
      refine ⟨Or.inl, ?_⟩
      rintro (h | ⟨hhunting, hgoal⟩)
      · exact h
      · by_contra hno
        rw [Bool.not_eq_true] at hno
        exact harrives ⟨⟨hno, hhunting⟩, hgoal⟩

/-- **One frame** of one unit. -/
theorem frame_spec {u v : GameUnit ℝ} {dt : ℝ} {os : List (GameObstacle ℝ)} (hu : u.Inside)
    (h : Game.Frame dt os u v) : Framed dt u v := by
  have hw := walled_move hu dt
  have harrived := advance_hasArrived hw
  obtain ⟨w, hseparate, -, -⟩ := separateUnit_eq_of_velocity os (u.advance dt)
  unfold Game.Frame at h
  rw [hseparate] at h
  rw [advance_eq] at h
  rcases h with rfl | ⟨hhunting, rfl⟩
  · exact ⟨hw.same.messageID, hw.same.owner, hw.same.number, hw.same.isHunting, hw.landing, harrived,
      fun h => hw.same.isLiving ▸ h, fun _ => hw.same.isLiving⟩
  · refine ⟨hw.same.messageID, hw.same.owner, hw.same.number, hw.same.isHunting, hw.landing, harrived,
      fun h => (Bool.false_ne_true h).elim, ?_⟩
    intro h
    have hno : u.isHunting = false := hw.same.isHunting.symm.trans hhunting
    rw [hno] at h
    cases h

/-- A frame without hits leaves the velocity the amount that the movement has given it. -/
theorem frame_velocity {u v : GameUnit ℝ} {dt : ℝ} {os : List (GameObstacle ℝ)}
    (h : Game.Frame dt os u v)
    (hhits : ∀ p ∈ (u.advance dt).separationsFrom os, p.1.position ≠ p.2.position) :
    v.velocity.norm = (u.move dt).velocity.norm ∧ v.acceleration = (u.move dt).acceleration := by
  obtain ⟨w, hseparate, hnorm, -⟩ := separateUnit_eq_of_velocity os (u.advance dt)
  have hvelocity : (u.advance dt).velocity = (u.move dt).reflectOnWalls.velocity := by
    rw [advance_eq]
    rfl
  have hacceleration : (u.advance dt).acceleration = (u.move dt).acceleration := by
    rw [advance_eq, reflectOnWalls_eq]
    rfl
  have hw : w.norm = (u.move dt).velocity.norm := by
    rw [hnorm hhits, hvelocity, reflectOnWalls_norm]
  unfold Game.Frame at h
  rw [hseparate] at h
  rcases h with rfl | ⟨-, rfl⟩
  · exact ⟨hw, hacceleration⟩
  · exact ⟨hw, hacceleration⟩

/-- A frame without hits keeps the speed limit. -/
theorem frame_speed {u v : GameUnit ℝ} {dt : ℝ} {os : List (GameObstacle ℝ)}
    (h : Game.Frame dt os u v)
    (hhits : ∀ p ∈ (u.advance dt).separationsFrom os, p.1.position ≠ p.2.position) :
    v.velocity.norm ≤ maximalVelocity := by
  rw [(frame_velocity h hhits).1]
  exact move_norm_le u dt

end GameUnit

end Footscreen
