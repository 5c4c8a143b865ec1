import Mathlib.Analysis.Complex.Norm
import Footscreen.Game.Correctness.Fate
import Footscreen.Game.Correctness.Speed
import Footscreen.Game.Correctness.Trajectory

/-!
# `Game.Correctness.Pace` — how fast, and how far

A unit that is asked for the strength `σ` at most, in frames of a tenth of a second at most, never goes
faster than `100 * σ`, where acceleration and brake are in balance: the limit in `move` is never applied
then. No unit gets further from its station than its frames allow, so that no level can be won sooner than
`arrival_takes` says. Both are invariants of one unit (`Paced`), carried through a level by the induction
`GameServer.Ready.drives_invariant`.
-/

namespace Footscreen

open FloatArith Lib

namespace Vec2

/-- The norm is that of a complex number. -/
theorem norm_eq_complex (v : Vec2 ℝ) : v.norm = ‖(⟨v.x, v.y⟩ : ℂ)‖ := by
  rw [Complex.norm_eq_sqrt_sq_add_sq, norm_real, sq, sq]

theorem add_norm_le (v w : Vec2 ℝ) : (v.add w).norm ≤ v.norm + w.norm := by
  rw [norm_eq_complex, norm_eq_complex, norm_eq_complex]
  exact norm_add_le (⟨v.x, v.y⟩ : ℂ) ⟨w.x, w.y⟩

end Vec2

/-! ## One unit -/

namespace Drive

/-- The drive asks for no more than this strength. -/
def Within (σ : ℝ) : Drive ℝ → Prop
  | .ask (.move r) => r.strength ≤ σ
  | _              => True

/-- The drive is no frame of more than a tenth of a second, in which the brake stops a unit. -/
def Short : Drive ℝ → Prop
  | .frame dt => GameUnit.brakeFactor * dt ≤ 1
  | _         => True

/-- The time that the drive takes. -/
def time : Drive ℝ → ℝ
  | .frame dt => dt
  | _         => 0

end Drive

namespace GameUnit

variable {u v : GameUnit ℝ} {dt σ V τ : ℝ} {os : List (GameObstacle ℝ)}

theorem brakeFactor_real : (brakeFactor : ℝ) = 10 := by
  show ((10 : Int) : ℝ) = 10
  norm_num

theorem short_iff : (Drive.frame dt).Short ↔ dt ≤ 1 / 10 := by
  show brakeFactor * dt ≤ 1 ↔ _
  rw [brakeFactor_real, le_div_iff₀ (by norm_num), mul_comm]

/-- The velocity that `move` limits. -/
noncomputable def braked (u : GameUnit ℝ) (dt : ℝ) : Vec2 ℝ :=
  u.velocity.add ((u.acceleration.sub (u.velocity.scale brakeFactor)).scale dt)

/-- **The balance** of acceleration and brake: in a short frame the velocity is a mean of the old one and
    the one that is kept up for ever. -/
theorem braked_norm_le (hdt : 0 ≤ dt) (hshort : dt ≤ 1 / 10) (hvelocity : u.velocity.norm ≤ 100 * σ)
    (hacceleration : u.acceleration.norm ≤ 1000 * σ) : (u.braked dt).norm ≤ 100 * σ := by
  have hremains : 0 ≤ 1 - 10 * dt := by linarith
  have hmean : u.braked dt = (u.velocity.scale (1 - 10 * dt)).add (u.acceleration.scale dt) := by
    unfold braked
    rw [brakeFactor_real]
    simp only [Vec2.add_real, Vec2.sub_real, Vec2.scale_real, Vec2.mk.injEq]
    constructor
    · ring
    · ring
  calc (u.braked dt).norm
      ≤ (u.velocity.scale (1 - 10 * dt)).norm + (u.acceleration.scale dt).norm := by
        rw [hmean]
        exact Vec2.add_norm_le _ _
    _ = u.velocity.norm * (1 - 10 * dt) + u.acceleration.norm * dt := by
        rw [Vec2.norm_scale _ hremains, Vec2.norm_scale _ hdt]
    _ ≤ 100 * σ * (1 - 10 * dt) + 1000 * σ * dt :=
        add_le_add (mul_le_mul_of_nonneg_right hvelocity hremains)
          (mul_le_mul_of_nonneg_right hacceleration hdt)
    _ = 100 * σ := by ring

/-- The limit is not applied below it. -/
theorem nextVelocity_eq_braked (h : (u.braked dt).norm ≤ maximalVelocity) :
    u.nextVelocity dt = u.braked dt :=
  if_neg (not_lt.mpr h)

/-- The unit is inside the walls, no faster than `V`, and no further from its station than this takes it in
    the time `τ`. -/
structure Paced (V τ : ℝ) (u v : GameUnit ℝ) : Prop where
  inside   : v.Inside
  speed    : v.velocity.norm ≤ V
  distance : Game.distance u v ≤ V * τ

theorem distance_triangle (u v w : GameUnit ℝ) :
    Game.distance u w ≤ Game.distance u v + Game.distance v w := by
  have hsum : (⟨w.x - u.x, w.y - u.y⟩ : Vec2 ℝ) =
      Vec2.add ⟨v.x - u.x, v.y - u.y⟩ ⟨w.x - v.x, w.y - v.y⟩ := by
    rw [Vec2.add_real, Vec2.mk.injEq]
    constructor
    · ring
    · ring
  unfold Game.distance
  rw [hsum]
  exact Vec2.add_norm_le _ _

/-- A frame takes a unit as far as the velocity that it moves with. -/
theorem distance_landing_le (hu : u.Inside) (hV : 0 ≤ V) (hdt : 0 ≤ dt)
    (hnext : (u.nextVelocity dt).norm ≤ V) (h : (⟨v.x, v.y⟩ : Vec2 ℝ) = u.landing dt) :
    Game.distance u v ≤ V * dt := by
  have hx : v.x = (u.landing dt).x := congrArg Vec2.x h
  have hy : v.y = (u.landing dt).y := congrArg Vec2.y h
  cases hactive : u.active with
  | true =>
      rw [landing_of_active hactive] at hx hy
      unfold Game.distance
      rw [hx, hy]
      calc (⟨clamp (u.x + (u.nextVelocity dt).x * dt) - u.x,
              clamp (u.y + (u.nextVelocity dt).y * dt) - u.y⟩ : Vec2 ℝ).norm
          ≤ ((u.nextVelocity dt).scale dt).norm :=
            Vec2.norm_le_of_abs (abs_clamp_sub_le hu.left hu.right) (abs_clamp_sub_le hu.top hu.bottom)
        _ = (u.nextVelocity dt).norm * dt := Vec2.norm_scale _ hdt
        _ ≤ V * dt := mul_le_mul_of_nonneg_right hnext hdt
  | false =>
      rw [landing_of_not_active hactive] at hx hy
      have hstays : Game.distance u v = Game.distance u u := by
        unfold Game.distance
        rw [hx, hy]
      rw [hstays, Game.distance_self]
      exact mul_nonneg hV hdt

/-- The velocity after a frame has the amount of the one that the unit moved with. -/
theorem drive_frame_norm_le (hV : 0 ≤ V) (hnext : (u.nextVelocity dt).norm ≤ V)
    (hhits : ∀ p ∈ (u.advance dt).separationsFrom os, p.1.position ≠ p.2.position) :
    (u.drive os (.frame dt)).velocity.norm ≤ V := by
  rw [(frame_velocity (Or.inl rfl : Game.Frame dt os u (u.drive os (.frame dt))) hhits).1]
  cases hactive : u.active with
  | true =>
      rw [move_of_active hactive]
      exact hnext
  | false =>
      rw [move_of_not_active hactive]
      exact le_trans (le_of_eq Vec2.norm_zero) hV

/-- **One frame.** -/
theorem Paced.frame (h : Paced V τ u v) (hV : 0 ≤ V) (hdt : 0 ≤ dt)
    (hnext : (v.nextVelocity dt).norm ≤ V)
    (hhits : ∀ p ∈ (v.advance dt).separationsFrom os, p.1.position ≠ p.2.position) :
    Paced V (τ + dt) u (v.drive os (.frame dt)) := by
  have hlanding := (frame_spec h.inside (Or.inl rfl : Game.Frame dt os v (v.drive os (.frame dt)))).landing
  refine ⟨h.inside.landing hlanding, drive_frame_norm_le hV hnext hhits, ?_⟩
  calc Game.distance u (v.drive os (.frame dt))
      ≤ Game.distance u v + Game.distance v (v.drive os (.frame dt)) := distance_triangle _ _ _
    _ ≤ V * τ + V * dt := add_le_add h.distance (distance_landing_le h.inside hV hdt hnext hlanding)
    _ = V * (τ + dt) := by ring

theorem paced_of_rest (hV : 0 ≤ V) (hinside : u.Inside) (hvelocity : u.velocity = .zero) :
    Paced V 0 u u := by
  refine ⟨hinside, ?_, ?_⟩
  · rw [hvelocity, Vec2.norm_zero]
    exact hV
  · rw [Game.distance_self, mul_zero]

/-- A frame keeps the acceleration, or takes it away. -/
theorem drive_frame_acceleration
    (hhits : ∀ p ∈ (u.advance dt).separationsFrom os, p.1.position ≠ p.2.position) :
    (u.drive os (.frame dt)).acceleration = u.acceleration ∨
      (u.drive os (.frame dt)).acceleration = .zero := by
  rw [(frame_velocity (Or.inl rfl : Game.Frame dt os u (u.drive os (.frame dt))) hhits).2]
  cases hactive : u.active with
  | true =>
      rw [move_of_active hactive]
      exact Or.inl rfl
  | false =>
      rw [move_of_not_active hactive]
      exact Or.inr rfl

/-- A request within a strength asks for no more than its acceleration. -/
theorem requestedAcceleration_within (hσ : 0 ≤ σ) {r : MoveRequest ℝ} (h : r.strength ≤ σ) :
    (requestedAcceleration r).norm ≤ 1000 * σ := by
  have hstrength : min (max r.strength 0) 1 ≤ σ := (min_le_left _ _).trans (max_le h hσ)
  have hnonneg : 0 ≤ min (max r.strength 0) 1 := le_min (le_max_right _ _) zero_le_one
  have hdirection : (⟨Real.cos r.angle, -Real.sin r.angle⟩ : Vec2 ℝ).norm = 1 := by
    rw [Vec2.norm_real, neg_mul_neg, ← sq, ← sq, Real.cos_sq_add_sin_sq, Real.sqrt_one]
  rw [requestedAcceleration_real, maximalAcceleration_real,
    Vec2.norm_scale _ (mul_nonneg hnonneg (by norm_num)), hdirection, one_mul, mul_comm]
  exact mul_le_mul_of_nonneg_left hstrength (by norm_num)

end GameUnit

/-! ## One unit in a level -/

namespace GameUnit

/-- The frame takes no negative time, and in it the unit hits no obstacle's centre. -/
def Unhit (os : List (GameObstacle ℝ)) (u : GameUnit ℝ) : Drive ℝ → Prop
  | .frame dt => 0 ≤ dt ∧ ∀ p ∈ (u.advance dt).separationsFrom os, p.1.position ≠ p.2.position
  | .ask _    => True

end GameUnit

/-- A call drives a unit once at most. -/
theorem Round.drives_cases {F : Type} [FloatArith F] (p : PlayerID) (i : UInt8) (r : Round F)
    (e : GameServer.Event F) : r.drives p i e = [] ∨ ∃ d, r.drives p i e = [d] := by
  cases e with
  | proceed clock =>
      unfold drives
      dsimp only
      split
      · exact Or.inr ⟨_, rfl⟩
      · exact Or.inl rfl
  | handleMessageReceived session m =>
      show m.request.elim [] _ = [] ∨ ∃ d, m.request.elim [] _ = [d]
      cases m.request with
      | none => exact Or.inl rfl
      | some request =>
          rw [Option.elim_some]
          split
          · exact Or.inr ⟨_, rfl⟩
          · exact Or.inl rfl
  | _ => exact Or.inl rfl

namespace GameServer

variable {s s' t : GameServer ℝ} {g g' : Game ℝ} {e : Event ℝ} {past events : List (Event ℝ)}
  {p : PlayerID} {i : UInt8}

theorem inLevel_of_play (h : Play s e) : e.InLevel := by
  cases e with
  | loadGame levelNumber clock => exact h.elim
  | handleMessageReceived session m =>
      show ¬ GameType m.contentType
      rcases h with h | h
      all_goals
        rw [h]
        unfold GameType
        decide
  | _ => trivial

/-- In play, a unit is driven without hits. -/
theorem unhit_of_play (h : Play s e) (hg : s.game = some g) {u : GameUnit ℝ} (hu : u ∈ g.gameUnits)
    {d : Drive ℝ} (hd : d ∈ (s.round g).drives p i e) : u.Unhit g.gameObstacles d := by
  cases d with
  | ask r => trivial
  | frame dt =>
      cases e with
      | proceed clock =>
          obtain ⟨hdt, hhits⟩ := h g hg
          have hmoves : (s.round g).drives p i (.proceed clock) =
              if g.moves clock then [.frame (g.timeDifference clock)] else [] := rfl
          rw [hmoves] at hd
          split at hd
          · next hmoves =>
              obtain rfl : dt = g.timeDifference clock := Drive.frame.inj (List.mem_singleton.mp hd)
              exact ⟨by simpa using hdt, hhits.of_unit hmoves hu⟩
          · cases hd
      | handleMessageReceived session m =>
          replace hd : Drive.frame dt ∈ m.request.elim [] _ := hd
          cases hr : m.request with
          | none =>
              rw [hr] at hd
              cases hd
          | some request =>
              rw [hr, Option.elim_some] at hd
              split at hd
              · cases List.mem_singleton.mp hd
              · cases hd
      | _ => cases hd

/-- **Induction over play**, for the unit at a player's index: from its station, through each drive, and
    through its death. -/
theorem Ready.drives_invariant {P : List (Drive ℝ) → GameUnit ℝ → GameUnit ℝ → Prop} {levelNumber : Int}
    {clock : Nat → ℝ} (h : s.Ready)
    (hrest : ∀ u, Game.Stationed (Game.level levelNumber) u → P [] u u)
    (hdrive : ∀ os ds u v d, P ds u v → v.Unhit os d → P (ds ++ [d]) u (v.drive os d))
    (hdeath : ∀ ds u v, P ds u v → P ds u (v.setLiving false))
    (hplay : Guarded step Play (s.loadGame levelNumber clock) events)
    (hevents : exec step (s.loadGame levelNumber clock) events = some t)
    (hg : (s.loadGame levelNumber clock).game = some g) (hg' : t.game = some g') {v : GameUnit ℝ}
    (hv : g'.unitByIndex p i = some v) :
    ∃ u, g.unitByIndex p i = some u ∧ Game.Stationed (Game.level levelNumber) u ∧
      v.isHunting = u.isHunting ∧
      P ((s.loadGame levelNumber clock).drivesSince g events p i) u v := by
  obtain ⟨g₀, hg₀, hown, hstationed, hstart⟩ := h.follows_load levelNumber clock
  obtain rfl : g = g₀ := Option.some.inj (hg.symm.trans hg₀)
  let follows := fun events t g' => (s.loadGame levelNumber clock).Follows g events t g' ∧
    ∀ u v, (g.unitsOf p)[i.toNat]? = some u → (g'.unitsOf p)[i.toNat]? = some v →
      P ((s.loadGame levelNumber clock).drivesSince g events p i) u v
  have hlast : ∃ g', follows events t g' := by
    refine exec_history (P := fun events t => ∃ g', follows events t g') ⟨g, hstart, ?_⟩ ?_ hplay hevents
    · intro u v hu hv
      obtain rfl : u = v := Option.some.inj (hu.symm.trans hv)
      obtain ⟨hmem, -⟩ := List.mem_filter.mp (List.mem_of_getElem? hu)
      exact hrest u (hstationed u hmem)
    · rintro events t e s' _ hok ⟨g', hfollows, hP⟩ hstep
      obtain ⟨g'', hpasses⟩ :=
        hfollows.ready.passes hfollows.game hfollows.ownPlayerID (inLevel_of_play hok) hstep
      refine ⟨g'', hfollows.passes hpasses (ready_step hfollows.ready hstep), ?_⟩
      intro u w hu hw
      obtain ⟨v, hv, hgoes⟩ := hpasses.units p i w hw
      have hPv := hP u v hu hv
      obtain ⟨hmem, -⟩ := List.mem_filter.mp (List.mem_of_getElem? hv)
      have hunhit := fun d hd => unhit_of_play (d := d) (p := p) (i := i) hok hfollows.game hmem hd
      rw [drivesSince_snoc hfollows.round]
      rcases hgoes with rfl | ⟨dt, hds, -, rfl⟩
      · rcases Round.drives_cases p i (t.round g') e with hnone | ⟨d, hds⟩
        · rw [hnone, List.append_nil]
          exact hPv
        · rw [hds] at hunhit ⊢
          exact hdrive _ _ _ _ d hPv (hunhit d List.mem_cons_self)
      · rw [hds] at hunhit ⊢
        exact hdeath _ _ _ (hdrive _ _ _ _ _ hPv (hunhit _ List.mem_cons_self))
  obtain ⟨g₁, hfollows, hP⟩ := hlast
  obtain rfl : g' = g₁ := Option.some.inj (hg'.symm.trans hfollows.game)
  rw [Game.unitByIndex_of_own (Or.inl hfollows.ownPlayerID)] at hv
  obtain ⟨u, hu, hdriven⟩ := hfollows.units p i v hv
  obtain ⟨hmem, -⟩ := List.mem_filter.mp (List.mem_of_getElem? hu)
  rw [Game.unitByIndex_of_own (Or.inl hown)]
  exact ⟨u, hu, hstationed u hmem, hdriven.isHunting, hP u v hu hv⟩

/-! ## The two bounds -/

/-- The time of the frames. -/
def frameTime (ds : List (Drive ℝ)) : ℝ := (ds.map Drive.time).sum

theorem frameTime_snoc (ds : List (Drive ℝ)) (d : Drive ℝ) :
    frameTime (ds ++ [d]) = frameTime ds + d.time := by
  unfold frameTime
  rw [List.map_append, List.sum_append, List.map_singleton, List.sum_singleton]

/-- A request leaves the pace as it is. -/
theorem paced_ask {V τ : ℝ} {u v : GameUnit ℝ} (h : GameUnit.Paced V τ u v) (r : Controls.Request ℝ) :
    GameUnit.Paced V τ u (r.change v) := by
  cases r <;> exact ⟨h.inside.of_eq rfl rfl, h.speed, h.distance⟩

/-- In any frames, no unit is faster than the limit. -/
theorem Ready.paced (h : s.Ready) {levelNumber : Int} {clock : Nat → ℝ}
    (hplay : Guarded step Play (s.loadGame levelNumber clock) events)
    (hevents : exec step (s.loadGame levelNumber clock) events = some t)
    (hg : (s.loadGame levelNumber clock).game = some g) (hg' : t.game = some g') {v : GameUnit ℝ}
    (hv : g'.unitByIndex p i = some v) :
    ∃ u, g.unitByIndex p i = some u ∧ Game.Stationed (Game.level levelNumber) u ∧
      v.isHunting = u.isHunting ∧
      GameUnit.Paced 110 (frameTime ((s.loadGame levelNumber clock).drivesSince g events p i)) u v := by
  have hlimit : (0 : ℝ) ≤ 110 := by norm_num
  refine h.drives_invariant (P := fun ds u v => GameUnit.Paced 110 (frameTime ds) u v)
    (fun u hu => ?_) ?_ (fun ds u v h => ⟨h.inside.of_eq rfl rfl, h.speed, h.distance⟩)
    hplay hevents hg hg' hv
  · exact GameUnit.paced_of_rest hlimit hu.inside hu.velocity
  · rintro os ds u v (r | dt) hpaced hunhit
    · rw [frameTime_snoc]
      show GameUnit.Paced 110 (frameTime ds + 0) u (r.change v)
      rw [add_zero]
      exact paced_ask hpaced r
    · rw [frameTime_snoc]
      refine hpaced.frame hlimit hunhit.1 ?_ hunhit.2
      rw [← maximalVelocity_real]
      exact GameUnit.limited_norm_le _

/-- In short frames, and asked for no more than a strength, a unit keeps to the pace of that strength. -/
theorem Ready.paced_within (h : s.Ready) {levelNumber : Int} {clock : Nat → ℝ} {σ : ℝ} (hσ : 0 ≤ σ)
    (hσ1 : σ ≤ 1) (hplay : Guarded step Play (s.loadGame levelNumber clock) events)
    (hevents : exec step (s.loadGame levelNumber clock) events = some t)
    (hg : (s.loadGame levelNumber clock).game = some g) (hg' : t.game = some g') {v : GameUnit ℝ}
    (hv : g'.unitByIndex p i = some v) :
    ∃ u, g.unitByIndex p i = some u ∧ Game.Stationed (Game.level levelNumber) u ∧
      v.isHunting = u.isHunting ∧
      ((∀ d ∈ (s.loadGame levelNumber clock).drivesSince g events p i, d.Within σ ∧ d.Short) →
        v.acceleration.norm ≤ 1000 * σ ∧
        GameUnit.Paced (100 * σ)
          (frameTime ((s.loadGame levelNumber clock).drivesSince g events p i)) u v) := by
  have hpace : 0 ≤ 100 * σ := by linarith
  refine h.drives_invariant (P := fun ds u v => (∀ d ∈ ds, d.Within σ ∧ d.Short) →
      v.acceleration.norm ≤ 1000 * σ ∧ GameUnit.Paced (100 * σ) (frameTime ds) u v)
    (fun u hu _ => ⟨?_, ?_⟩) ?_
    (fun ds u v h hds => ⟨(h hds).1, (h hds).2.inside.of_eq rfl rfl, (h hds).2.speed, (h hds).2.distance⟩)
    hplay hevents hg hg' hv
  · rw [hu.acceleration, Vec2.norm_zero]
    linarith
  · exact GameUnit.paced_of_rest hpace hu.inside hu.velocity
  · intro os ds u v d hpaced hunhit hds
    obtain ⟨hacceleration, hpaced⟩ := hpaced fun d hd => hds d (List.mem_append_left _ hd)
    obtain ⟨hwithin, hshort⟩ := hds d (List.mem_append_right _ List.mem_cons_self)
    rw [frameTime_snoc]
    cases d with
    | ask r =>
        rw [show (Drive.ask r).time = 0 from rfl, add_zero]
        refine ⟨?_, paced_ask hpaced r⟩
        cases r with
        | move r      => exact GameUnit.requestedAcceleration_within hσ hwithin
        | highlight r => exact hacceleration
    | frame dt =>
        constructor
        · rcases GameUnit.drive_frame_acceleration hunhit.2 with hsame | hnone
          · rw [hsame]
            exact hacceleration
          · rw [hnone, Vec2.norm_zero]
            linarith
        · have hbraked := GameUnit.braked_norm_le hunhit.1 (GameUnit.short_iff.mp hshort) hpaced.speed
            hacceleration
          show GameUnit.Paced (100 * σ) (frameTime ds + dt) u _
          refine hpaced.frame hpace hunhit.1 ?_ hunhit.2
          rw [GameUnit.nextVelocity_eq_braked]
          · exact hbraked
          · rw [maximalVelocity_real]
            linarith

/-- **The pace of a strength.** A unit that no request asked for more than the strength `σ`, and no frame
    moved for more than a tenth of a second, is no faster than `100 * σ`, and no further from its station
    than that takes it in the time of the frames; and in its next short frame the limit is not applied. -/
theorem pace (unset : Nat → Unset ℝ) (levelNumber : Int) (clock : Nat → ℝ) {σ : ℝ} (hσ : 0 ≤ σ)
    (hσ1 : σ ≤ 1) (hpast : exec step (run unset) past = some s)
    (hplay : Guarded step Play (s.loadGame levelNumber clock) events)
    (hevents : exec step (s.loadGame levelNumber clock) events = some t) :
    ∃ g g', (s.loadGame levelNumber clock).game = some g ∧ t.game = some g' ∧
      ∀ p i v, g'.unitByIndex p i = some v →
        (∀ d ∈ (s.loadGame levelNumber clock).drivesSince g events p i, d.Within σ ∧ d.Short) →
        v.velocity.norm ≤ 100 * σ ∧
          (∃ u, g.unitByIndex p i = some u ∧ Game.distance u v ≤
            100 * σ * frameTime ((s.loadGame levelNumber clock).drivesSince g events p i)) ∧
          ∀ dt, 0 ≤ dt → dt ≤ 1 / 10 → v.nextVelocity dt = v.braked dt := by
  have hready := ready_run unset hpast
  obtain ⟨g, hg, -⟩ := hready.follows_load levelNumber clock
  obtain ⟨-, g', hg', -⟩ := hready.sound hplay hevents
  refine ⟨g, g', hg, hg', ?_⟩
  intro p i v hv hds
  obtain ⟨u, hu, -, -, hpaced⟩ := hready.paced_within hσ hσ1 hplay hevents hg hg' hv
  obtain ⟨hacceleration, hpaced⟩ := hpaced hds
  refine ⟨hpaced.speed, ⟨u, hu, hpaced.distance⟩, ?_⟩
  intro dt hdt hshort
  have hbraked := GameUnit.braked_norm_le hdt hshort hpaced.speed hacceleration
  apply GameUnit.nextVelocity_eq_braked
  rw [maximalVelocity_real]
  linarith

/-- What drives the unit that is sent down in level 1. -/
theorem descent_drives {c : ℝ} (hc : c ≤ 60)
    (hg : ((run zeroedReal).loadGame 1 fun _ => 0).game = some g) :
    ((run zeroedReal).loadGame 1 fun _ => 0).drivesSince g (descent ++ [.proceed fun _ => c])
      idFirstClient 0 = [.ask (.move ⟨0, -(Real.pi / 2), 1⟩), .frame c] := by
  obtain ⟨t, g', u, hrun, hg', hdescending, -⟩ := descending
  have hready : (run zeroedReal).Ready := Or.inl ⟨rfl, rfl⟩
  have hlevel : ∀ e ∈ descent, e.InLevel :=
    List.forall_iff_forall_mem.mp ⟨trivial, trivial, inLevel_of_play (s := run zeroedReal) (Or.inl rfl)⟩
  obtain ⟨g₀, g₁, hg₀, -, -, hfollows⟩ := hready.follows 1 (fun _ => 0) hlevel hrun
  obtain rfl := Option.some.inj (hg.symm.trans hg₀)
  obtain rfl := Option.some.inj (hg'.symm.trans hfollows.game)
  have hframe : (t.round g').drives idFirstClient 0 (.proceed fun _ => c) =
      if g'.moves fun _ => c then [.frame (g'.timeDifference fun _ => c)] else [] := rfl
  rw [drivesSince_snoc hfollows.round, hframe, if_pos (hdescending.moves hc), hdescending.timeDifference]
  rfl

/-- The unit that is sent down, before a frame and after it. -/
theorem descent_unit {c : ℝ} (hc : c ≤ 60) : ∃ t g u g' v,
    exec step ((run zeroedReal).loadGame 1 fun _ => 0) descent = some t ∧ t.game = some g ∧
      Descending g ∧ Pushed g u ∧ (t.proceed fun _ => c).game = some g' ∧
      g'.unitByIndex idFirstClient 0 = some v ∧ Game.Frame c g.gameObstacles u v := by
  obtain ⟨t, g, u, hrun, hg, hdescending, hpushed, hu⟩ := descending
  have hown := hdescending.ownPlayerID
  have hown' : (g.proceed fun _ => c).1.ownPlayerID = idNone :=
    (Game.proceed_keeps (fun _ => c) g).2.2.2.trans hown
  have hframes := Game.proceed_frame (hdescending.moves hc)
  rw [hdescending.timeDifference] at hframes
  rw [Game.unitByIndex_of_own (Or.inl hown)] at hu
  obtain ⟨v, hv, hframe⟩ :=
    Game.unitsOf_relates (fun _ _ h => (GameUnit.Frame.sameControls h).owner) hframes hu
  refine ⟨t, g, u, _, v, hrun, hg, hdescending, hpushed, proceed_game hg _, ?_, hframe⟩
  rw [Game.unitByIndex_of_own (Or.inl hown')]
  exact hv

/-- The unit that is sent down, after a frame of a twentieth of a second. -/
theorem pace_descent :
    ∃ t g v, exec step ((run zeroedReal).loadGame 1 fun _ => 0)
        (descent ++ [.proceed fun _ => 1 / 20]) = some t ∧ t.game = some g ∧
      g.unitByIndex idFirstClient 0 = some v ∧ v.velocity.norm ≤ 100 := by
  obtain ⟨t, g, u, g', v, hrun, -, -, -, hg', hv, -⟩ := descent_unit (c := 1 / 20) (by norm_num)
  have hstep : exec step ((run zeroedReal).loadGame 1 fun _ => 0) (descent ++ [.proceed fun _ => 1 / 20]) =
      some (t.proceed fun _ => 1 / 20) := exec_snoc.mpr ⟨t, hrun, rfl⟩
  obtain ⟨g₀, g₁, hg₀, hg₁, hunits⟩ := pace zeroedReal 1 (fun _ => 0) zero_le_one (le_refl 1)
    zeroedReal_run (descent_frame (by norm_num)) hstep
  obtain rfl := Option.some.inj (hg'.symm.trans hg₁)
  have hdrives : ∀ d ∈ ((run zeroedReal).loadGame 1 fun _ => 0).drivesSince g₀
      (descent ++ [.proceed fun _ => 1 / 20]) idFirstClient 0, d.Within 1 ∧ d.Short := by
    rw [descent_drives (by norm_num) hg₀]
    exact List.forall_iff_forall_mem.mp ⟨⟨le_refl (1 : ℝ), trivial⟩,
      ⟨trivial, GameUnit.short_iff.mpr (by norm_num)⟩⟩
  have hspeed := (hunits idFirstClient 0 v hv hdrives).1
  rw [mul_one] at hspeed
  exact ⟨_, g', v, hstep, hg', hv, hspeed⟩

/-- No level places a fleeing unit further down. -/
theorem level_top (levelNumber : Int) :
    ∀ q ∈ (Game.level levelNumber).unitPositionsPlayer1, q.y ≤ 96 := by
  unfold Game.level
  split
  · decide
  · split
    · decide
    · split <;> decide

/-- A unit that has arrived has come this far. -/
theorem way_of_arrived {levelNumber : Int} {u v : GameUnit ℝ}
    (hu : Game.Stationed (Game.level levelNumber) u) (hfleeing : u.isHunting = false)
    (hv : GameUnit.goal ≤ v.y) : 376 ≤ Game.distance u v := by
  obtain ⟨q, hq, -, hy⟩ := hu.position
  rw [hfleeing] at hq
  have htop : u.y ≤ 96 := by
    rw [hy, ofInt_real]
    exact_mod_cast level_top levelNumber q hq
  rw [GameUnit.goal_eq] at hv
  calc (376 : ℝ) ≤ v.y - u.y := by linarith
    _ ≤ |v.y - u.y| := le_abs_self _
    _ ≤ Game.distance u v := Vec2.abs_y_le_norm ⟨v.x - u.x, v.y - u.y⟩

/-- **No level is won sooner**: when a unit has arrived, its frames have taken 376 / 110 seconds; and if they
    were short and it was asked for the strength `σ` at most, they have taken 376 / (100 * σ) seconds. -/
theorem arrival_takes (unset : Nat → Unset ℝ) (levelNumber : Int) (clock : Nat → ℝ)
    (hpast : exec step (run unset) past = some s)
    (hplay : Guarded step Play (s.loadGame levelNumber clock) events)
    (hevents : exec step (s.loadGame levelNumber clock) events = some t) :
    ∃ g g', (s.loadGame levelNumber clock).game = some g ∧ t.game = some g' ∧
      ∀ p i v, g'.unitByIndex p i = some v → v.hasArrived = true →
        376 ≤ 110 * frameTime ((s.loadGame levelNumber clock).drivesSince g events p i) ∧
        ∀ σ, 0 ≤ σ → σ ≤ 1 →
          (∀ d ∈ (s.loadGame levelNumber clock).drivesSince g events p i, d.Within σ ∧ d.Short) →
          376 ≤ 100 * σ * frameTime ((s.loadGame levelNumber clock).drivesSince g events p i) := by
  have hready := ready_run unset hpast
  obtain ⟨g, hg, -⟩ := hready.follows_load levelNumber clock
  obtain ⟨-, g', hg', hsound⟩ := hready.sound hplay hevents
  refine ⟨g, g', hg, hg', ?_⟩
  intro p i v hv harrived
  obtain ⟨hmem, -⟩ := Game.mem_of_unitByIndex hv
  obtain ⟨hfleeing, hgoal⟩ := (hsound v hmem).arrival.mp harrived
  constructor
  · obtain ⟨u, -, hstationed, hhunting, hpaced⟩ := hready.paced hplay hevents hg hg' hv
    exact (way_of_arrived hstationed (hhunting.symm.trans hfleeing) hgoal).trans hpaced.distance
  · intro σ hσ hσ1 hds
    obtain ⟨u, -, hstationed, hhunting, hpaced⟩ := hready.paced_within hσ hσ1 hplay hevents hg hg' hv
    exact (way_of_arrived hstationed (hhunting.symm.trans hfleeing) hgoal).trans (hpaced hds).2.distance

/-- The unit that is sent down has arrived after four seconds, and not sooner than it could. -/
theorem arrival_takes_descent :
    ∃ t g₀ g v, exec step ((run zeroedReal).loadGame 1 fun _ => 0)
        (descent ++ [.proceed fun _ => 4]) = some t ∧
      ((run zeroedReal).loadGame 1 fun _ => 0).game = some g₀ ∧ t.game = some g ∧
      g.unitByIndex idFirstClient 0 = some v ∧ v.hasArrived = true ∧
      frameTime (((run zeroedReal).loadGame 1 fun _ => 0).drivesSince g₀
        (descent ++ [.proceed fun _ => 4]) idFirstClient 0) = 4 ∧
      376 ≤ 110 * frameTime (((run zeroedReal).loadGame 1 fun _ => 0).drivesSince g₀
        (descent ++ [.proceed fun _ => 4]) idFirstClient 0) := by
  obtain ⟨t, g, u, g', v, hrun, hg, hdescending, hpushed, hg', hv, hframe⟩ :=
    descent_unit (c := 4) (by norm_num)
  have hstep : exec step ((run zeroedReal).loadGame 1 fun _ => 0) (descent ++ [.proceed fun _ => 4]) =
      some (t.proceed fun _ => 4) := exec_snoc.mpr ⟨t, hrun, rfl⟩
  obtain ⟨g₀, g₁, hg₀, hg₁, hunits⟩ := arrival_takes zeroedReal 1 (fun _ => 0) zeroedReal_run
    (descent_frame (by norm_num)) hstep
  obtain rfl := Option.some.inj (hg'.symm.trans hg₁)
  have harrived : v.hasArrived = true := by
    rcases hdescending.frame hpushed.mem hframe with ⟨hrest, -⟩ | ⟨-, harrived, -⟩
    · exact absurd hrest hpushed.acceleration_ne_zero
    · exact harrived
  refine ⟨_, g₀, g', v, hstep, hg₀, hg', hv, harrived, ?_, (hunits idFirstClient 0 v hv harrived).1⟩
  rw [descent_drives (by norm_num) hg₀]
  simp [frameTime, Drive.time]

end GameServer

end Footscreen
