import Footscreen.Game.Correctness.Landing

/-!
# `Game.Correctness.Speed` — the speed limit

The runs here are of a game of its own: any units at rest inside the walls, any obstacles, and any
accelerations between the frames. `move` limits the velocity, and neither the walls nor the obstacles
change its amount; the walls only shorten the way of a frame.
-/

namespace Footscreen

open FloatArith Lib

namespace Game

/-- What is done to a game between and in its frames. -/
inductive Action (F : Type) where
  | start (clock : Nat → F)
  | setAcceleration (i : Nat) (acceleration : Vec2 F)
  | proceed (clock : Nat → F)

section

variable {F : Type} [FloatArith F]

/-- One action. An acceleration is set through a pointer to the `i`-th unit. -/
def act (g : Game F) : Action F → Option (Game F)
  | .start clock => some (g.start clock)
  | .setAcceleration i acceleration =>
      some { g with gameUnits := g.gameUnits.modify i (·.setAcceleration acceleration) }
  | .proceed clock => some (g.proceed clock).1

/-- The frame's time is not negative, and it has no hit. -/
def Smooth (g : Game F) : Action F → Prop
  | .proceed clock => ofInt 0 ≤ g.timeDifference clock ∧ g.NoHit clock
  | _              => True

/-- **One action** is a step of play. -/
theorem act_progress {g g' : Game F} {a : Action F} (hok : Smooth g a) (h : g.act a = some g') :
    Progress g g' := by
  cases a with
  | start clock =>
      cases h
      exact ⟨List.forall₂_refl _, rfl⟩
  | setAcceleration i acceleration =>
      cases h
      refine ⟨forall₂_modify _ i ?_, rfl⟩
      intro u _
      exact .steered acceleration u.gameUnitData.isHighlighted
  | proceed clock =>
      cases h
      exact proceed_progress hok.1 hok.2

/-- **A run** of actions. -/
theorem act_reaches {g g' : Game F} {actions : List (Action F)} (hok : Guarded act Smooth g actions)
    (hrun : exec act g actions = some g') : Reaches g g' := by
  refine exec_guarded (I := Reaches g) ?_ Relation.ReflTransGen.refl hok hrun
  intro g₁ a g₂ ha hreach hstep
  exact hreach.tail (act_progress ha hstep)

end

/-- The distance between a unit's places. -/
noncomputable def distance (u v : GameUnit ℝ) : ℝ := (⟨v.x - u.x, v.y - u.y⟩ : Vec2 ℝ).norm

/-- The unit is inside the walls and keeps the limit. -/
structure Limited (u : GameUnit ℝ) : Prop where
  inside : u.Inside
  speed  : u.velocity.norm ≤ GameUnit.maximalVelocity

variable {g g' : Game ℝ} {u v : GameUnit ℝ} {dt : ℝ} {os : List (GameObstacle ℝ)}

theorem Limited.step (hu : Limited u) (h : UnitStep os u v) : Limited v := by
  cases h with
  | steered a b => exact ⟨hu.inside.of_eq rfl rfl, hu.speed⟩
  | frame dt _ hframe hhits =>
      exact ⟨hu.inside.landing (GameUnit.frame_spec hu.inside hframe).landing,
        GameUnit.frame_speed hframe hhits⟩

theorem limited_of_rest (hinside : u.Inside) (hvelocity : u.velocity = .zero) : Limited u := by
  refine ⟨hinside, ?_⟩
  rw [hvelocity, Vec2.norm_zero]
  exact GameUnit.maximalVelocity_nonneg

theorem distance_self (u : GameUnit ℝ) : distance u u = 0 := by
  unfold distance
  rw [sub_self, sub_self, ← Vec2.zero_real, Vec2.norm_zero]

/-- The way of a frame is no longer than its velocity allows. -/
theorem distance_le (hu : u.Inside) (hdt : 0 ≤ dt) (h : (⟨v.x, v.y⟩ : Vec2 ℝ) = u.landing dt) :
    distance u v ≤ GameUnit.maximalVelocity * dt := by
  have hx : v.x = (u.landing dt).x := congrArg Vec2.x h
  have hy : v.y = (u.landing dt).y := congrArg Vec2.y h
  unfold distance
  rw [hx, hy]
  cases hactive : u.active with
  | true =>
      rw [GameUnit.landing_of_active hactive]
      calc (⟨GameUnit.clamp (u.x + (u.nextVelocity dt).x * dt) - u.x,
              GameUnit.clamp (u.y + (u.nextVelocity dt).y * dt) - u.y⟩ : Vec2 ℝ).norm
          ≤ ((u.nextVelocity dt).scale dt).norm :=
            Vec2.norm_le_of_abs (GameUnit.abs_clamp_sub_le hu.left hu.right)
              (GameUnit.abs_clamp_sub_le hu.top hu.bottom)
        _ = (u.nextVelocity dt).norm * dt := Vec2.norm_scale _ hdt
        _ ≤ GameUnit.maximalVelocity * dt :=
            mul_le_mul_of_nonneg_right (GameUnit.limited_norm_le _) hdt
  | false =>
      rw [GameUnit.landing_of_not_active hactive]
      have hzero := distance_self u
      unfold distance at hzero
      rw [hzero]
      exact mul_nonneg GameUnit.maximalVelocity_nonneg hdt

/-- **One frame** of units that keep the limit. -/
theorem proceed_limited {clock : Nat → ℝ} (hunits : ∀ u ∈ g.gameUnits, Limited u)
    (hdt : 0 ≤ g.timeDifference clock) (hhits : g.NoHit clock) :
    (∀ v ∈ (g.proceed clock).1.gameUnits, v.velocity.norm ≤ GameUnit.maximalVelocity) ∧
      List.Forall₂ (fun u v => distance u v ≤ GameUnit.maximalVelocity * g.timeDifference clock)
        g.gameUnits (g.proceed clock).1.gameUnits := by
  cases hmoves : g.moves clock with
  | false =>
      rw [proceed_still hmoves]
      refine ⟨fun v hv => (hunits v hv).speed, List.forall₂_same.mpr ?_⟩
      intro u _
      rw [distance_self]
      exact mul_nonneg GameUnit.maximalVelocity_nonneg hdt
  | true =>
      have hzero : (ofInt 0 : ℝ) ≤ g.timeDifference clock := by simpa using hdt
      have hsteps := (proceed_progress hzero hhits).units
      refine ⟨forall_mem_of hsteps hunits fun u v hu huv => (hu.step huv).speed, ?_⟩
      apply forall₂_of (proceed_frame hmoves) hunits
      intro u v hu hframe
      exact distance_le hu.inside hdt (GameUnit.frame_spec hu.inside hframe).landing

/-- **The speed limit**: in every frame of a run from rest, no unit gets faster than the maximal velocity
    or moves farther than it allows. -/
theorem speed_limit {actions : List (Action ℝ)} {clock : Nat → ℝ}
    (hinside : ∀ u ∈ g.gameUnits, u.Inside) (hrest : ∀ u ∈ g.gameUnits, u.velocity = .zero)
    (hok : Guarded act Smooth g (actions ++ [.proceed clock]))
    (hrun : exec act g actions = some g') :
    (∀ v ∈ (g'.proceed clock).1.gameUnits, v.velocity.norm ≤ GameUnit.maximalVelocity) ∧
      List.Forall₂ (fun u v => distance u v ≤ GameUnit.maximalVelocity * g'.timeDifference clock)
        g'.gameUnits (g'.proceed clock).1.gameUnits := by
  obtain ⟨hactions, ⟨hdt, hhits⟩, -⟩ := guarded_append hok hrun
  have hlimited := (act_reaches hactions hrun).invariant (P := Limited) (fun u v hu huv => hu.step huv)
    fun u hu => limited_of_rest (hinside u hu) (hrest u hu)
  have hzero : 0 ≤ g'.timeDifference clock := by simpa using hdt
  exact proceed_limited hlimited hzero hhits

/-! ## A push against an obstacle -/

/-- A unit in a corner. -/
noncomputable def corner : GameUnit ℝ where
  address      := 1
  messageID    := messageIDFirst
  gameUnitData := ⟨ofInt 10, ofInt 10, 1, idFirstClient, false, true, false⟩
  velocity     := .zero
  acceleration := .zero
  isHunting    := false

/-- The unit, and an obstacle that is in its way. -/
noncomputable def resting : Game ℝ where
  address       := 0
  hasStarted    := false
  hasFinished   := false
  timer         := 0
  durationTimer := 0
  lastUnitTime  := -1
  gameUnits     := [corner]
  gameObstacles := [⟨2, messageIDFirst + 1, ⟨ofInt 120, ofInt 40, ofInt 50⟩⟩]
  ownPlayerID   := idNone

noncomputable def push : List (Action ℝ) := [.start fun _ => 0, .setAcceleration 0 ⟨1000, 0⟩]

noncomputable def pushed : Game ℝ :=
  { resting with hasStarted := true, gameUnits := [corner.setAcceleration ⟨1000, 0⟩] }

theorem corner_inside : corner.Inside := by
  have hten : (ofInt 10 : ℝ) = 10 := by norm_num [ofInt_real]
  have hbounds : GameUnit.low ≤ (ofInt 10 : ℝ) ∧ (ofInt 10 : ℝ) ≤ GameUnit.high := by
    rw [GameUnit.low_eq, GameUnit.high_eq, hten]
    norm_num
  exact ⟨hbounds.1, hbounds.2, hbounds.1, hbounds.2⟩

theorem pushed_parted : pushed.Parted := by
  refine ⟨?_, ?_, ?_⟩
  · intro u hu
    rw [List.mem_singleton.mp hu]
    exact corner_inside.of_eq rfl rfl
  · intro u hu o ho
    rw [List.mem_singleton.mp hu, List.mem_singleton.mp ho]
    intro heq
    have hx : trunc (ofInt 10 : ℝ) = trunc (ofInt 120 : ℝ) := congrArg Point.x heq
    rw [trunc_ofInt, trunc_ofInt] at hx
    exact absurd hx (by decide)
  · intro o ho
    rw [List.mem_singleton.mp ho]
    show (0 : ℝ) < ((50 : Int) : ℝ)
    norm_num

/-- It lands beside the obstacle's centre. -/
theorem pushed_noHit : pushed.NoHit fun _ => 1 := by
  apply (pushed_parted.noHit_iff _).mpr
  intro _ u hu _ o ho heq
  rw [List.mem_singleton.mp hu, List.mem_singleton.mp ho] at heq
  have hdt : pushed.timeDifference (fun _ => 1) = 1 := sub_zero 1
  have hlanding : (corner.setAcceleration ⟨1000, 0⟩).landing 1 =
      ⟨GameUnit.clamp (corner.x + 110 * 1), GameUnit.clamp corner.y⟩ :=
    GameUnit.landing_of_push rfl rfl rfl (by norm_num)
  have hbelow : ((corner.setAcceleration ⟨1000, 0⟩).landing 1).y = ofInt 10 := by
    rw [hlanding]
    exact GameUnit.clamp_of_mem corner_inside.top corner_inside.bottom
  rw [hdt] at heq
  have hy : trunc ((corner.setAcceleration ⟨1000, 0⟩).landing 1).y = trunc (ofInt 40 : ℝ) :=
    congrArg Point.y heq
  rw [hbelow, trunc_ofInt, trunc_ofInt] at hy
  exact absurd hy (by decide)

/-- The frame in which the unit meets the obstacle. -/
theorem speed_limit_pushed :
    (∀ v ∈ (pushed.proceed fun _ => 1).1.gameUnits, v.velocity.norm ≤ GameUnit.maximalVelocity) ∧
      List.Forall₂
        (fun u v => distance u v ≤ GameUnit.maximalVelocity * pushed.timeDifference fun _ => 1)
        pushed.gameUnits (pushed.proceed fun _ => 1).1.gameUnits := by
  have hdt : (ofInt 0 : ℝ) ≤ pushed.timeDifference fun _ => 1 := by
    show ofInt 0 ≤ (1 : ℝ) - 0
    simp
  have hrun : exec act resting push = some pushed := rfl
  refine speed_limit (g := resting) ?_ ?_ ?_ hrun
  · intro u hu
    rw [List.mem_singleton.mp hu]
    exact corner_inside
  · intro u hu
    rw [List.mem_singleton.mp hu]
    rfl
  · refine guarded_cons_of trivial rfl (guarded_cons_of trivial rfl ?_)
    exact guarded_cons_of ⟨hdt, pushed_noHit⟩ rfl trivial

end Game

end Footscreen
