import Footscreen.Game.Correctness.Play

/-!
# `Game.Correctness.Landing` — when a unit hits an obstacle's centre

The obstacle loop does not move a unit, so each of its calls meets the unit where the movement has left
it: whether a frame hits a centre is known from the landing points alone. `Parted` is what the levels
provide for and play keeps, and among parted units and obstacles `NoHit` is the same as `Clear`, a
condition on the state before the frame (`Parted.noHit_iff`).

`descent` is a level that the results about play are applied to: its one unit that moves reaches the goal and
the lower wall (`Descending.proceed`).
-/

namespace Footscreen

open FloatArith Lib

/-! ## Landing points -/

namespace GameUnit

variable {u v : GameUnit ℝ} {dt : ℝ} {os : List (GameObstacle ℝ)} {o : GameObstacle ℝ}

/-- The landing point, cut to integers. -/
noncomputable def landingPosition (u : GameUnit ℝ) (dt : ℝ) : Point :=
  ⟨trunc (u.landing dt).x, trunc (u.landing dt).y⟩

theorem position_of_landing (h : (⟨v.x, v.y⟩ : Vec2 ℝ) = u.landing dt) :
    v.position = u.landingPosition dt := by
  have hx : v.x = (u.landing dt).x := congrArg Vec2.x h
  have hy : v.y = (u.landing dt).y := congrArg Vec2.y h
  unfold position landingPosition
  rw [hx, hy]

/-- A landing point is inside the walls. -/
theorem Inside.landing (hu : u.Inside) (h : (⟨v.x, v.y⟩ : Vec2 ℝ) = u.landing dt) : v.Inside := by
  have hx : v.x = (u.landing dt).x := congrArg Vec2.x h
  have hy : v.y = (u.landing dt).y := congrArg Vec2.y h
  cases hactive : u.active with
  | true =>
      rw [landing_of_active hactive] at hx hy
      dsimp only at hx hy
      obtain ⟨hleft, hright⟩ := clamp_mem (u.x + (u.nextVelocity dt).x * dt)
      obtain ⟨htop, hbottom⟩ := clamp_mem (u.y + (u.nextVelocity dt).y * dt)
      rw [← hx] at hleft hright
      rw [← hy] at htop hbottom
      exact ⟨hleft, hright, htop, hbottom⟩
  | false =>
      rw [landing_of_not_active hactive] at hx hy
      exact hu.of_eq hx hy

theorem advance_position (hu : u.Inside) (dt : ℝ) :
    (u.advance dt).position = u.landingPosition dt := by
  rw [advance_eq]
  exact position_of_landing (walled_move hu dt).landing

/-- From rest, a unit gets the velocity that its acceleration gives it. -/
theorem nextVelocity_of_rest (hvelocity : u.velocity = .zero) :
    u.nextVelocity dt = limited (u.acceleration.scale dt) := by
  unfold nextVelocity
  rw [hvelocity, Vec2.zero_real, Vec2.scale_real, Vec2.sub_real, Vec2.scale_real, Vec2.add_real]
  simp only [zero_mul, sub_zero, zero_add]
  rfl

/-- A push that is strong enough gives the maximal velocity in its direction. -/
theorem nextVelocity_of_push {a : ℝ} {e : Vec2 ℝ} (he : e.norm = 1) (hvelocity : u.velocity = .zero)
    (hacceleration : u.acceleration = e.scale a) (ha : 110 < a * dt) :
    u.nextVelocity dt = e.scale 110 := by
  have hpos : 0 < a * dt := lt_trans (by norm_num) ha
  have hscale : (e.scale a).scale dt = e.scale (a * dt) := by
    simp only [Vec2.scale_real, mul_assoc]
  have hnorm : (e.scale (a * dt)).norm = a * dt := by
    rw [Vec2.norm_scale e hpos.le, he, one_mul]
  rw [nextVelocity_of_rest hvelocity, hacceleration, hscale]
  unfold limited
  rw [hnorm, maximalVelocity_real, if_pos ha]
  simp only [Vec2.scale_real, mul_assoc, mul_div_cancel₀ _ hpos.ne']

/-- A push along the x-axis. -/
theorem landing_of_push {a : ℝ} (hactive : u.active = true) (hvelocity : u.velocity = .zero)
    (hacceleration : u.acceleration = ⟨a, 0⟩) (ha : 110 < a * dt) :
    u.landing dt = ⟨clamp (u.x + 110 * dt), clamp u.y⟩ := by
  have haxis : (⟨a, 0⟩ : Vec2 ℝ) = (⟨1, 0⟩ : Vec2 ℝ).scale a := by simp [Vec2.scale_real]
  rw [landing_of_active hactive,
    nextVelocity_of_push (by simp [Vec2.norm_real]) hvelocity (hacceleration.trans haxis) ha]
  simp [Vec2.scale_real]

/-- A push along the y-axis. -/
theorem nextVelocity_of_push_down {a : ℝ} (hvelocity : u.velocity = .zero)
    (hacceleration : u.acceleration = ⟨0, a⟩) (ha : 110 < a * dt) : u.nextVelocity dt = ⟨0, 110⟩ := by
  have haxis : (⟨0, a⟩ : Vec2 ℝ) = (⟨0, 1⟩ : Vec2 ℝ).scale a := by simp [Vec2.scale_real]
  rw [nextVelocity_of_push (by simp [Vec2.norm_real]) hvelocity (hacceleration.trans haxis) ha]
  simp [Vec2.scale_real]

theorem landing_of_push_down {a : ℝ} (hactive : u.active = true) (hvelocity : u.velocity = .zero)
    (hacceleration : u.acceleration = ⟨0, a⟩) (ha : 110 < a * dt) :
    u.landing dt = ⟨clamp u.x, clamp (u.y + 110 * dt)⟩ := by
  rw [landing_of_active hactive, nextVelocity_of_push_down hvelocity hacceleration ha, zero_mul, add_zero]

/-- A unit at rest stays at rest. -/
theorem nextVelocity_of_still (hvelocity : u.velocity = .zero) (hacceleration : u.acceleration = .zero)
    (dt : ℝ) : u.nextVelocity dt = .zero := by
  rw [nextVelocity_of_rest hvelocity, hacceleration, Vec2.zero_real, Vec2.scale_real]
  simp only [zero_mul]
  unfold limited
  rw [← Vec2.zero_real, Vec2.norm_zero]
  exact if_neg (not_lt.mpr maximalVelocity_nonneg)

/-- A unit at rest lands where it is. -/
theorem landing_of_rest (hu : u.Inside) (hvelocity : u.velocity = .zero)
    (hacceleration : u.acceleration = .zero) (dt : ℝ) : u.landing dt = ⟨u.x, u.y⟩ := by
  unfold landing
  rw [nextVelocity_of_still hvelocity hacceleration, Vec2.zero_real]
  simp only [zero_mul, add_zero]
  rw [clamp_of_mem hu.left hu.right, clamp_of_mem hu.top hu.bottom]
  exact ite_self _

theorem rest_of_frame (hvelocity : u.velocity = .zero) (hacceleration : u.acceleration = .zero)
    (h : Game.Frame dt os u v)
    (hhits : ∀ p ∈ (u.advance dt).separationsFrom os, p.1.position ≠ p.2.position) :
    v.velocity = .zero ∧ v.acceleration = .zero := by
  obtain ⟨hnorm, hsame⟩ := frame_velocity h hhits
  have hmove : (u.move dt).velocity = .zero ∧ (u.move dt).acceleration = .zero := by
    cases hactive : u.active with
    | true =>
        rw [move_of_active hactive]
        exact ⟨nextVelocity_of_still hvelocity hacceleration dt, hacceleration⟩
    | false =>
        rw [move_of_not_active hactive]
        exact ⟨rfl, rfl⟩
  rw [hmove.1, Vec2.norm_zero] at hnorm
  exact ⟨Vec2.norm_eq_zero_iff.mp hnorm, hsame.trans hmove.2⟩

/-! ## The calls for one unit -/

theorem mem_of_separationsFrom {p : GameUnit ℝ × GameObstacle ℝ} (h : p ∈ u.separationsFrom os) :
    p.2 ∈ os := by
  induction os generalizing u with
  | nil => cases h
  | cons o os ih =>
      unfold separationsFrom at h
      split at h
      · rcases List.mem_cons.mp h with rfl | h
        · exact List.mem_cons_self
        · exact List.mem_cons_of_mem _ (ih h)
      · exact List.mem_cons_of_mem _ (ih h)

/-- An obstacle in the same place is collided with. -/
theorem collides_of_position (h : u.position = o.position) (hradius : 0 < o.radius) :
    u.collidesWithObstacle o = true := by
  apply decide_eq_true
  rw [Point.norm_toVec, Point.norm_sub_eq_zero.mpr h, unitRadius_real]
  linarith

/-- A unit that is where an obstacle of the loop is calls `separateFrom` with it. -/
theorem exists_separation (ho : o ∈ os) (h : u.position = o.position) (hradius : 0 < o.radius) :
    ∃ p ∈ u.separationsFrom os, p.1.position = p.2.position := by
  induction os generalizing u with
  | nil => cases ho
  | cons o' os ih =>
      unfold separationsFrom
      rcases List.mem_cons.mp ho with rfl | ho
      · rw [if_pos (collides_of_position h hradius)]
        exact ⟨(u, o), List.mem_cons_self, h⟩
      · split
        · next hcollides =>
            -- the obstacles before it have not moved the unit
            have hposition : (u.separateFrom o').position = o.position := by
              rw [separateFrom_of_collides hcollides]
              exact h
            obtain ⟨p, hp, heq⟩ := ih ho hposition
            exact ⟨p, List.mem_cons_of_mem _ hp, heq⟩
        · exact ih ho h

/-- **The calls for one unit** meet no centre if and only if the unit does not land on one. -/
theorem separations_iff (hu : u.Inside) (hradius : ∀ o ∈ os, 0 < o.radius) :
    (∀ p ∈ (u.advance dt).separationsFrom os, p.1.position ≠ p.2.position) ↔
      ∀ o ∈ os, u.landingPosition dt ≠ o.position := by
  rw [← advance_position hu dt]
  constructor
  · intro h o ho heq
    obtain ⟨p, hp, hposition⟩ := exists_separation ho heq (hradius o ho)
    exact h p hp hposition
  · intro h p hp heq
    obtain ⟨_, _, _, hsame⟩ := separateUnit_eq_of_velocity os (u.advance dt)
    rw [hsame p hp] at heq
    exact h p.2 (mem_of_separationsFrom hp) heq

end GameUnit

/-! ## The arena -/

namespace Game

variable {g g' : Game ℝ} {clock : Nat → ℝ} {l : Level}

/-- No unit that moves in the frame lands on an obstacle's centre. -/
def Clear (g : Game ℝ) (clock : Nat → ℝ) : Prop :=
  g.moves clock = true → ∀ u ∈ g.gameUnits, u.active = true →
    ∀ o ∈ g.gameObstacles, u.landingPosition (g.timeDifference clock) ≠ o.position

/-- The units are inside the walls, and none is on the centre of an obstacle. -/
structure Parted (g : Game ℝ) : Prop where
  inside : ∀ u ∈ g.gameUnits, u.Inside
  apart  : ∀ u ∈ g.gameUnits, ∀ o ∈ g.gameObstacles, u.position ≠ o.position
  radius : ∀ o ∈ g.gameObstacles, 0 < o.radius

/-- **A frame's hits**, from the state before it. -/
theorem Parted.noHit_iff (h : g.Parted) (clock : Nat → ℝ) : g.NoHit clock ↔ g.Clear clock := by
  constructor
  · intro hhits hmoves u hu _
    exact (GameUnit.separations_iff (h.inside u hu) h.radius).mp (hhits.of_unit hmoves hu)
  · intro hclear p hp
    unfold separations at hp
    split at hp
    · next hmoves =>
        obtain ⟨u, hu, hp⟩ := List.mem_flatMap.mp hp
        refine (GameUnit.separations_iff (h.inside u hu) h.radius).mpr ?_ p hp
        intro o ho
        cases hactive : u.active with
        | true => exact hclear hmoves u hu hactive o ho
        | false =>
            -- a unit that does not move is where it was
            have hposition : u.position = u.landingPosition (g.timeDifference clock) :=
              GameUnit.position_of_landing (GameUnit.landing_of_not_active hactive _).symm
            rw [← hposition]
            exact h.apart u hu o ho
    · cases hp

/-- A step of play keeps units and obstacles parted. -/
theorem Parted.progress (h : g.Parted) (hstep : Progress g g') : g'.Parted := by
  have hunits : ∀ v ∈ g'.gameUnits, v.Inside ∧ ∀ o ∈ g.gameObstacles, v.position ≠ o.position := by
    refine forall_mem_of (P := fun u => u ∈ g.gameUnits) hstep.units (fun u hu => hu) ?_
    intro u v hu huv
    have hinside := h.inside u hu
    cases huv with
    | steered a b =>
        exact ⟨hinside.of_eq rfl rfl, h.apart u hu⟩
    | frame dt _ hframe hhits =>
        have hspec := GameUnit.frame_spec hinside hframe
        refine ⟨hinside.landing hspec.landing, ?_⟩
        intro o ho
        rw [GameUnit.position_of_landing hspec.landing]
        exact (GameUnit.separations_iff hinside h.radius).mp hhits o ho
  rw [← hstep.obstacles] at hunits
  refine ⟨fun v hv => (hunits v hv).1, fun v hv => (hunits v hv).2, ?_⟩
  rw [hstep.obstacles]
  exact h.radius

theorem Reaches.parted (hreach : Reaches g g') (h : g.Parted) : g'.Parted := by
  induction hreach with
  | refl => exact h
  | tail _ hstep ih => exact ih.progress hstep

/-! ## The levels -/

/-- Every level places its units between the walls, short of the goal, and off the obstacles. -/
theorem level_units (levelNumber : Int) :
    ∀ p ∈ (level levelNumber).unitPositionsPlayer1 ++ (level levelNumber).unitPositionsPlayer2,
      (4 ≤ p.x ∧ p.x ≤ 476 ∧ 4 ≤ p.y ∧ p.y < 472) ∧
        p ∉ (level levelNumber).obstaclePositions := by
  unfold level
  split
  · decide
  · split
    · decide
    · split <;> decide

theorem level_radii (levelNumber : Int) : ∀ r ∈ (level levelNumber).obstacleRadii, 0 < r := by
  unfold level
  split
  · decide
  · split
    · decide
    · split <;> decide

/-- A stationed unit is at one of the level's points. -/
theorem Stationed.exists_point {u : GameUnit ℝ} (h : Stationed l u) :
    ∃ p ∈ l.unitPositionsPlayer1 ++ l.unitPositionsPlayer2, u.x = p.x ∧ u.y = p.y := by
  obtain ⟨p, hp, hx, hy⟩ := h.position
  refine ⟨p, List.mem_append.mpr ?_, hx, hy⟩
  split at hp
  · exact Or.inr hp
  · exact Or.inl hp

theorem Stationed.inside {levelNumber : Int} {u : GameUnit ℝ} (h : Stationed (level levelNumber) u) :
    u.Inside := by
  obtain ⟨p, hp, hx, hy⟩ := h.exists_point
  obtain ⟨⟨hleft, hright, htop, hbottom⟩, -⟩ := level_units levelNumber p hp
  constructor
  · rw [GameUnit.low_eq, hx]
    exact_mod_cast hleft
  · rw [GameUnit.high_eq, hx]
    exact_mod_cast hright
  · rw [GameUnit.low_eq, hy]
    exact_mod_cast htop
  · have hy' : p.y ≤ 476 := by omega
    rw [GameUnit.high_eq, hy]
    exact_mod_cast hy'

/-- A fixed obstacle is at one of the level's points. -/
theorem Fixed.exists_point {o : GameObstacle ℝ} (h : Fixed l o) :
    ∃ q ∈ l.obstaclePositions, o.position = q := by
  obtain ⟨⟨q, r⟩, hq, hdata⟩ := h
  refine ⟨q, (List.of_mem_zip hq).1, ?_⟩
  unfold GameObstacle.position
  rw [hdata]
  exact congrArg₂ Point.mk (trunc_ofInt q.x) (trunc_ofInt q.y)

/-- **A loaded level** is parted. -/
theorem parted_of_stationed {levelNumber : Int}
    (hunits : ∀ u ∈ g.gameUnits, Stationed (level levelNumber) u)
    (hobstacles : ∀ o ∈ g.gameObstacles, Fixed (level levelNumber) o) : g.Parted := by
  refine ⟨fun u hu => (hunits u hu).inside, ?_, ?_⟩
  · intro u hu o ho heq
    obtain ⟨p, hp, hx, hy⟩ := (hunits u hu).exists_point
    obtain ⟨q, hq, hoq⟩ := (hobstacles o ho).exists_point
    have hup : u.position = p := by
      unfold GameUnit.position
      rw [hx, hy]
      exact congrArg₂ Point.mk (trunc_ofInt p.x) (trunc_ofInt p.y)
    rw [hup, hoq] at heq
    subst heq
    exact (level_units levelNumber p hp).2 hq
  · intro o ho
    obtain ⟨⟨q, r⟩, hq, hdata⟩ := hobstacles o ho
    have hr : 0 < r := level_radii levelNumber r (List.of_mem_zip hq).2
    unfold GameObstacle.radius
    rw [hdata]
    exact Int.cast_pos.mpr hr

/-- A unit at rest lands on no obstacle. -/
theorem Parted.landing_of_rest {u : GameUnit ℝ} (h : g.Parted) (hu : u ∈ g.gameUnits)
    (hvelocity : u.velocity = .zero) (hacceleration : u.acceleration = .zero) {o : GameObstacle ℝ}
    (ho : o ∈ g.gameObstacles) (dt : ℝ) : u.landingPosition dt ≠ o.position := by
  have hlanding := GameUnit.landing_of_rest (h.inside u hu) hvelocity hacceleration dt
  rw [← GameUnit.position_of_landing hlanding.symm]
  exact h.apart u hu o ho

end Game

/-! ## The server -/

namespace GameServer

variable {s s' : GameServer ℝ} {events : List (Event ℝ)} {e : Event ℝ} {g : Game ℝ} {u : GameUnit ℝ}

/-- The server plays a game with units and obstacles parted. -/
structure Parted (s : GameServer ℝ) : Prop where
  ready : s.Ready
  game  : ∃ g, s.game = some g ∧ g.Parted

theorem parted_step (h : s.Parted) (hplay : Play s e) (hstep : s.step e = some s') : s'.Parted := by
  obtain ⟨g, hg, hparted⟩ := h.game
  obtain ⟨g', hg', hprogress⟩ := h.ready.play hplay hstep hg
  exact ⟨ready_step h.ready hstep, g', hg', hparted.progress hprogress⟩

theorem parted_run (h : s.Parted) (hplay : Guarded step Play s events)
    (hrun : exec step s events = some s') : s'.Parted :=
  exec_guarded (I := Parted) (fun hok hu hstep => parted_step hu hok hstep) h hplay hrun

/-- A load parts units and obstacles. -/
theorem Ready.parted (h : s.Ready) (levelNumber : Int) (clock : Nat → ℝ) :
    (s.loadGame levelNumber clock).Parted := by
  obtain ⟨g, hg, hunits, hobstacles⟩ := loadGame_stationed s levelNumber clock
  have hready : (s.loadGame levelNumber clock).Ready :=
    ready_step h (e := .loadGame levelNumber clock) rfl
  exact ⟨hready, g, hg, Game.parted_of_stationed hunits hobstacles⟩

/-! ## A descent -/

/-- Memory that is zero, in real numbers. -/
noncomputable def zeroedReal : Nat → Unset ℝ := fun _ =>
  { gameUnitData := ⟨0, 0, 0, 0, false, false, false⟩, isHunting := false,
    gameObstacleData := ⟨0, 0, 0⟩ }

theorem zeroedReal_run : exec step (run zeroedReal) [] = some (run zeroedReal) := rfl

/-- What a move request with the greatest strength asks for. -/
theorem requested_eq (angle : ℝ) : Vec2.scale (⟨cos angle, -sin angle⟩ : Vec2 ℝ)
    ((if (if ofInt 0 < (1 : ℝ) then (1 : ℝ) else ofInt 0) < ofInt 1 then
      (if ofInt 0 < (1 : ℝ) then (1 : ℝ) else ofInt 0) else ofInt 1) * GameUnit.maximalAcceleration) =
    ⟨Real.cos angle * 1000, -Real.sin angle * 1000⟩ := by
  have hmax : (GameUnit.maximalAcceleration : ℝ) = 1000 := by
    show ((1000 : Int) : ℝ) = 1000
    norm_num
  rw [hmax, Vec2.scale_real]
  simp only [ofInt_zero, ofInt_one, zero_lt_one, if_true, lt_irrefl, if_false, one_mul]
  rfl

theorem requested_down : Vec2.scale (⟨cos (-(Real.pi / 2)), -sin (-(Real.pi / 2))⟩ : Vec2 ℝ)
    ((if (if ofInt 0 < (1 : ℝ) then (1 : ℝ) else ofInt 0) < ofInt 1 then
      (if ofInt 0 < (1 : ℝ) then (1 : ℝ) else ofInt 0) else ofInt 1) * GameUnit.maximalAcceleration) =
    ⟨0, 1000⟩ := by
  rw [requested_eq, Real.cos_neg, Real.cos_pi_div_two, Real.sin_neg, Real.sin_pi_div_two]
  simp

/-- A move request with the greatest strength, down the screen. -/
noncomputable def downRequest : GameMessage ℝ :=
  ⟨messageIDEvent, .moveRequest ⟨0, -(Real.pi / 2), 1⟩, none⟩

/-- In level 1, the first player sends the first unit down the left side. -/
noncomputable def descent : List (Event ℝ) :=
  [.handleSessionAccepted 7, .startGame fun _ => 0, .handleMessageReceived 7 downRequest]

theorem descent_play : Guarded step Play ((run zeroedReal).loadGame 1 fun _ => 0) descent :=
  guarded_cons_of trivial rfl (guarded_cons_of trivial rfl (guarded_cons_of (Or.inl rfl) rfl trivial))

/-- A unit at the left side that is pushed down, in a round that has just started. -/
structure Pushed (g : Game ℝ) (u : GameUnit ℝ) : Prop where
  mem          : u ∈ g.gameUnits
  active       : u.active = true
  velocity     : u.velocity = .zero
  acceleration : u.acceleration = ⟨0, 1000⟩
  x            : u.x = ofInt 20
  y            : 96 ≤ u.y ∧ u.y ≤ 360

theorem Pushed.x_eq {g : Game ℝ} {u : GameUnit ℝ} (h : Pushed g u) : u.x = 20 := by
  rw [h.x, ofInt_real]
  norm_num

theorem Pushed.inside {g : Game ℝ} {u : GameUnit ℝ} (h : Pushed g u) : u.Inside := by
  have hx := h.x_eq
  obtain ⟨hlow, hhigh⟩ := h.y
  constructor
  · rw [GameUnit.low_eq, hx]
    norm_num
  · rw [GameUnit.high_eq, hx]
    norm_num
  · rw [GameUnit.low_eq]
    linarith
  · rw [GameUnit.high_eq]
    linarith

theorem Pushed.acceleration_ne_zero {g : Game ℝ} {u : GameUnit ℝ} (h : Pushed g u) :
    u.acceleration ≠ .zero := by
  rw [h.acceleration, Vec2.zero_real]
  simp

/-- After four seconds it is at the lower wall, in the left corner. -/
theorem Pushed.landing {g : Game ℝ} {u : GameUnit ℝ} (h : Pushed g u) : u.landing 4 = ⟨20, 476⟩ := by
  have hpush : 110 < (1000 : ℝ) * 4 := by norm_num
  have hx : GameUnit.clamp u.x = 20 :=
    (GameUnit.clamp_of_mem h.inside.left h.inside.right).trans h.x_eq
  have hy : GameUnit.clamp (u.y + 110 * 4) = 476 := by
    have hfar := h.y.1
    unfold GameUnit.clamp
    rw [GameUnit.low_eq, GameUnit.high_eq, if_neg (by linarith), if_pos (by linarith)]
  rw [GameUnit.landing_of_push_down h.active h.velocity h.acceleration hpush, hx, hy]

/-- A round that has just started, with no obstacle at the left side. All units are at rest, and those that are
    pushed are at the left side and pushed down. -/
structure Descending (g : Game ℝ) : Prop where
  parted        : g.Parted
  ownPlayerID   : g.ownPlayerID = idNone
  hasStarted    : g.hasStarted = true
  hasFinished   : g.hasFinished = false
  durationTimer : g.durationTimer = 0
  timer         : g.timer = 0
  aside         : ∀ o ∈ g.gameObstacles, o.position.x ≠ 20
  velocity      : ∀ u ∈ g.gameUnits, u.velocity = .zero
  units         : ∀ u ∈ g.gameUnits, u.acceleration = .zero ∨ Pushed g u ∧ u.isHunting = false
  height        : ∀ u ∈ g.gameUnits, u.y = ofInt 96 ∨ u.y = ofInt 360

set_option maxRecDepth 4000 in
theorem descent_state : ∃ t g u, exec step ((run zeroedReal).loadGame 1 fun _ => 0) descent = some t ∧
    t.game = some g ∧ g.ownPlayerID = idNone ∧
    (g.hasStarted = true ∧ g.hasFinished = false ∧ g.durationTimer = 0 ∧ g.timer = 0) ∧
    (∀ u ∈ g.gameUnits, u.velocity = .zero) ∧
    (∀ u ∈ g.gameUnits, u.acceleration = .zero ∨ Pushed g u ∧ u.isHunting = false) ∧
    (∀ u ∈ g.gameUnits, u.y = ofInt 96 ∨ u.y = ofInt 360) ∧ Pushed g u ∧
    g.unitByIndex idFirstClient 0 = some u := by
  have hy : (96 : ℝ) ≤ ((96 : Int) : ℝ) ∧ ((96 : Int) : ℝ) ≤ 360 := by norm_num
  refine ⟨_, _, _, rfl, rfl, rfl, ⟨rfl, rfl, rfl, rfl⟩, ?_, ?_, ?_,
    ⟨List.mem_of_getElem? (i := 0) rfl, rfl, rfl, requested_down, rfl, hy⟩, rfl⟩
  · exact List.forall_iff_forall_mem.mp ⟨rfl, rfl, rfl, rfl, rfl, rfl, rfl, rfl, rfl, rfl⟩
  · exact List.forall_iff_forall_mem.mp
      ⟨Or.inr ⟨⟨List.mem_of_getElem? (i := 0) rfl, rfl, rfl, requested_down, rfl, hy⟩, rfl⟩,
        Or.inl rfl, Or.inl rfl, Or.inl rfl, Or.inl rfl, Or.inl rfl, Or.inl rfl, Or.inl rfl, Or.inl rfl,
        Or.inl rfl⟩
  · exact List.forall_iff_forall_mem.mp
      ⟨Or.inl rfl, Or.inl rfl, Or.inl rfl, Or.inl rfl, Or.inl rfl, Or.inr rfl, Or.inr rfl, Or.inr rfl,
        Or.inr rfl, Or.inr rfl⟩

theorem descending : ∃ t g u, exec step ((run zeroedReal).loadGame 1 fun _ => 0) descent = some t ∧
    t.game = some g ∧ Descending g ∧ Pushed g u ∧ g.unitByIndex idFirstClient 0 = some u := by
  obtain ⟨t, g, u, hrun, hg, hown, ⟨hstarted, hfinished, hduration, htimer⟩, hvelocity, hunits, hheight,
    hu⟩ := descent_state
  have hready : (run zeroedReal).Ready := Or.inl ⟨rfl, rfl⟩
  obtain ⟨g', hg', hparted⟩ := (parted_run (hready.parted 1 fun _ => 0) descent_play hrun).game
  obtain rfl := Option.some.inj (hg.symm.trans hg')
  refine ⟨t, g, u, hrun, hg, ⟨hparted, hown, hstarted, hfinished, hduration, htimer, ?_, hvelocity, hunits,
    hheight⟩, hu⟩
  have hloaded : ((run zeroedReal).loadGame 1 fun _ => 0).Ready :=
    ready_step hready (e := .loadGame 1 fun _ => 0) rfl
  obtain ⟨g₀, hg₀, -, hobstacles⟩ := loadGame_stationed (run zeroedReal) 1 fun _ => (0 : ℝ)
  obtain ⟨-, g', hg', hreach⟩ := hloaded.reaches hg₀ descent_play hrun
  obtain rfl := Option.some.inj (hg.symm.trans hg')
  have hplaces : ∀ q ∈ (Game.level 1).obstaclePositions, q.x ≠ 20 := by decide
  intro o ho
  rw [hreach.obstacles] at ho
  obtain ⟨q, hq, hposition⟩ := (hobstacles o ho).exists_point
  rw [hposition]
  exact hplaces q hq

/-- The walls set it back. -/
theorem Pushed.move_y (h : Pushed g u) : GameUnit.high < (u.move 4).y := by
  have hpush : 110 < (1000 : ℝ) * 4 := by norm_num
  have hy : (u.move 4).y = u.y + 110 * 4 := by
    rw [GameUnit.move_of_active h.active, GameUnit.nextVelocity_of_push_down h.velocity h.acceleration hpush]
    rfl
  rw [hy, GameUnit.high_eq]
  linarith [h.y.1]

theorem Pushed.landing_x (h : Pushed g u) (dt : ℝ) : (u.landing dt).x = 20 := by
  have hnext : (u.nextVelocity dt).x = 0 := by
    rw [GameUnit.nextVelocity_of_rest h.velocity, h.acceleration]
    unfold GameUnit.limited
    split <;> simp [Vec2.scale_real]
  rw [GameUnit.landing_of_active h.active]
  dsimp only
  rw [hnext, zero_mul, add_zero, GameUnit.clamp_of_mem h.inside.left h.inside.right, h.x_eq]

/-- Nothing is in the way, in a frame of any duration. -/
theorem Descending.noHit (h : Descending g) (clock : Nat → ℝ) : g.NoHit clock := by
  apply (h.parted.noHit_iff clock).mpr
  intro _ u hu _ o ho heq
  rcases h.units u hu with hrest | ⟨hpushed, -⟩
  · exact h.parted.landing_of_rest hu (h.velocity u hu) hrest ho _ heq
  · have htwenty : (20 : ℝ) = ofInt 20 := by
      rw [ofInt_real]
      norm_num
    apply h.aside o ho
    rw [← heq]
    unfold GameUnit.landingPosition
    rw [hpushed.landing_x, htwenty, trunc_ofInt]

theorem Descending.timeDifference (h : Descending g) (c : ℝ) : g.timeDifference (fun _ => c) = c := by
  unfold Game.timeDifference
  rw [h.timer, sub_zero]

theorem Descending.moves (h : Descending g) {c : ℝ} (hc : c ≤ 60) : g.moves (fun _ => c) = true := by
  unfold Game.moves
  rw [h.hasStarted, h.hasFinished, h.durationTimer, ofInt_real, sub_zero]
  simp only [Bool.true_and, Bool.false_or, Bool.not_eq_true', decide_eq_false_iff_not, not_lt]
  exact_mod_cast hc

theorem Descending.play (h : Descending g) (hg : s.game = some g) {c : ℝ} (hc : 0 ≤ c) :
    Play s (.proceed fun _ => c) := by
  intro g' hg'
  obtain rfl := Option.some.inj (hg.symm.trans hg')
  rw [h.timeDifference, ofInt_zero]
  exact ⟨hc, h.noHit _⟩

/-- A frame after the descent is play. -/
theorem descent_frame {c : ℝ} (hc : 0 ≤ c) : Guarded step Play ((run zeroedReal).loadGame 1 fun _ => 0)
    (descent ++ [.proceed fun _ => c]) := by
  obtain ⟨t, g, u, hrun, hg, hdescending, -⟩ := descending
  refine guarded_snoc.mpr ⟨descent_play, ?_⟩
  intro t' ht'
  obtain rfl := Option.some.inj (hrun.symm.trans ht')
  exact hdescending.play hg hc

/-- After four seconds those that were pushed are at the goal, in the left corner, and the others are where
    they were. -/
theorem Descending.frame (h : Descending g) {v : GameUnit ℝ} (hu : u ∈ g.gameUnits)
    (hframe : Game.Frame 4 g.gameObstacles u v) :
    u.acceleration = .zero ∧ v.velocity = .zero ∧ v.acceleration = .zero ∨
      Pushed g u ∧ v.hasArrived = true ∧ v.isHunting = false ∧ v.x = 20 ∧ v.y = 476 := by
  have hspec := GameUnit.frame_spec (h.parted.inside u hu) hframe
  have hmoves : g.moves (fun _ => 4) = true := h.moves (by norm_num)
  rcases h.units u hu with hrest | ⟨hpushed, hfleeing⟩
  · have hhits := (h.noHit fun _ => 4).of_unit hmoves hu
    rw [h.timeDifference] at hhits
    exact Or.inl ⟨hrest, GameUnit.rest_of_frame (h.velocity u hu) hrest hframe hhits⟩
  · have hlanding := hspec.landing.trans hpushed.landing
    refine Or.inr ⟨hpushed, hspec.hasArrived.mpr (Or.inr ⟨hfleeing, ?_⟩), hspec.isHunting.trans hfleeing,
      congrArg Vec2.x hlanding, congrArg Vec2.y hlanding⟩
    rw [hpushed.landing, GameUnit.goal_eq]
    norm_num

/-- The unit that is pushed arrives, and there is nothing in the way in the next frame either. -/
theorem Descending.proceed (h : Descending g) (hu : Pushed g u) :
    (∃ v ∈ (g.proceed fun _ => 4).1.gameUnits, v.hasArrived = true ∧ v.isHunting = false ∧
      v.x = 20 ∧ v.y = 476) ∧ ∀ clock, (g.proceed fun _ => 4).1.NoHit clock := by
  have hframes := Game.proceed_frame (h.moves (c := 4) (by norm_num))
  rw [h.timeDifference] at hframes
  constructor
  · obtain ⟨v, hv, hframe⟩ := exists_mem_of hframes hu.mem
    rcases h.frame hu.mem hframe with ⟨hrest, -⟩ | ⟨-, harrived⟩
    · exact absurd hrest hu.acceleration_ne_zero
    · exact ⟨v, hv, harrived⟩
  · intro clock
    have hdt : (ofInt 0 : ℝ) ≤ g.timeDifference fun _ => 4 := by
      rw [h.timeDifference, ofInt_zero]
      norm_num
    have hparted := h.parted.progress (Game.proceed_progress hdt (h.noHit _))
    apply (hparted.noHit_iff clock).mpr
    intro _ v hv hactive o ho
    -- a unit that still moves is at rest
    have hrest : ∀ v ∈ (g.proceed fun _ => 4).1.gameUnits, v.active = true →
        v.velocity = .zero ∧ v.acceleration = .zero := by
      refine forall_mem_of (P := fun u => u ∈ g.gameUnits) hframes (fun u hu => hu) ?_
      intro u v hu hframe hactive
      rcases h.frame hu hframe with ⟨-, hrest⟩ | ⟨-, harrived, -⟩
      · exact hrest
      · rw [GameUnit.active, harrived, Bool.not_true, Bool.and_false] at hactive
        cases hactive
    obtain ⟨hvelocity, hacceleration⟩ := hrest v hv hactive
    exact hparted.landing_of_rest hv hvelocity hacceleration ho _

end GameServer

end Footscreen
