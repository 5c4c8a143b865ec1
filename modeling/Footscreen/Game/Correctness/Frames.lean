import Footscreen.Game.Game
import Footscreen.Lib.Pointwise

/-!
# `Game.Correctness.Frames` — one frame, unit by unit

`proceed` treats each unit for itself until the units catch each other: `advance` is its movement, and
`separateUnit` the obstacle loop. `Frame` is all that a frame does to one unit; `proceed_frame` says so of
the whole list. The frame's calls are listed too: `walled` are the units that `reflectOnWalls` is called
on, and `separations` the calls of `separateFrom`.
-/

namespace Footscreen

open FloatArith Lib

variable {F : Type} [FloatArith F]

/-! ## Calls -/

/-- The movement loop's work on one unit. -/
def GameUnit.advance (timeDifference : F) (u : GameUnit F) : GameUnit F :=
  let u := (u.move timeDifference).reflectOnWalls
  if !u.hasArrived && !u.isHunting && decide (ofInt 480 - unitRadius ≤ u.y) then u.setArrived true
  else u

/-- The movement loop takes the unit as arriving. -/
def GameUnit.arrives (timeDifference : F) (u : GameUnit F) : Bool :=
  let u := (u.move timeDifference).reflectOnWalls
  !u.hasArrived && !u.isHunting && decide (ofInt 480 - unitRadius ≤ u.y)

/-- The calls of `separateFrom` in the obstacle loop for one unit. -/
def GameUnit.separationsFrom : List (GameObstacle F) → GameUnit F → List (GameUnit F × GameObstacle F)
  | [], _ => []
  | o :: os, u =>
      if u.collidesWithObstacle o then (u, o) :: separationsFrom os (u.separateFrom o)
      else separationsFrom os u

namespace Game

variable {g : Game F} {clock : Nat → F}

/-- The frame comes to its loops: the round has started, and is not over. -/
def moves (g : Game F) (clock : Nat → F) : Bool :=
  g.hasStarted && !(g.hasFinished || decide (ofInt 60 < clock 2 - g.durationTimer))

/-- The frame's time. -/
def timeDifference (g : Game F) (clock : Nat → F) : F := clock 0 - g.timer

/-- The units that `reflectOnWalls` is called on, as they are then. -/
def walled (g : Game F) (clock : Nat → F) : List (GameUnit F) :=
  if g.moves clock then g.gameUnits.map fun u => u.move (g.timeDifference clock) else []

/-- The calls of `separateFrom`, with unit and obstacle as they are then. -/
def separations (g : Game F) (clock : Nat → F) : List (GameUnit F × GameObstacle F) :=
  if g.moves clock then
    g.gameUnits.flatMap fun u =>
      (u.advance (g.timeDifference clock)).separationsFrom g.gameObstacles
  else []

/-- The unit after the movement loop and the obstacle loop. -/
def settled (g : Game F) (clock : Nat → F) (u : GameUnit F) : GameUnit F :=
  separateUnit g.gameObstacles (u.advance (g.timeDifference clock))

/-- No `reflectOn` meets a unit and an obstacle at the same truncated position. -/
def NoHit (g : Game F) (clock : Nat → F) : Prop :=
  ∀ p ∈ g.separations clock, p.1.position ≠ p.2.position

/-- The obstacle loop makes these calls of `separateFrom`, and does nothing else. -/
theorem separateUnit_eq (os : List (GameObstacle F)) (u : GameUnit F) :
    separateUnit os u = (u.separationsFrom os).foldl (fun _ p => p.1.separateFrom p.2) u := by
  unfold separateUnit
  induction os generalizing u with
  | nil => rfl
  | cons o os ih =>
      unfold GameUnit.separationsFrom
      rw [List.foldl_cons]
      split
      · rw [List.foldl_cons]
        exact ih _
      · exact ih u

/-! ## Catching -/

/-- The unit is left alone, or killed if it is not hunting. -/
def Caught (u v : GameUnit F) : Prop := v = u ∨ (u.isHunting = false ∧ v = u.setLiving false)

instance : Std.Refl (Caught (F := F)) := ⟨fun _ => Or.inl rfl⟩

omit [FloatArith F] in
theorem Caught.trans {u v w : GameUnit F} (h : Caught u v) (h' : Caught v w) : Caught u w := by
  rcases h with rfl | ⟨hu, rfl⟩
  · exact h'
  · rcases h' with rfl | ⟨_, rfl⟩
    · exact Or.inr ⟨hu, rfl⟩
    · exact Or.inr ⟨hu, rfl⟩

instance : IsTrans (GameUnit F) Caught := ⟨fun _ _ _ => Caught.trans⟩

theorem collideUnits_caught (us : List (GameUnit F)) (i j : Nat) :
    List.Forall₂ Caught us (collideUnits us i j) := by
  unfold collideUnits
  split
  · next u v hu hv =>
      split
      · exact List.forall₂_refl us
      · next hcollides =>
          have hij : i ≠ j := by
            rintro rfl
            simp at hcollides
          -- the first of the two may die, then the second
          have hi : List.Forall₂ Caught us
              (if (!u.isHunting) = true then us.modify i (·.setLiving false) else us) := by
            split
            · next hhunting =>
                apply forall₂_modify us i
                intro w hw
                obtain rfl : u = w := Option.some.inj (hu.symm.trans hw)
                exact Or.inr ⟨by simpa using hhunting, rfl⟩
            · exact List.forall₂_refl us
          dsimp only
          split
          · next hhunting =>
              refine forall₂_trans hi (forall₂_modify _ j ?_)
              intro w hw
              have hvw : us[j]? = some w := by
                split at hw
                · rwa [List.getElem?_modify_ne _ _ hij] at hw
                · exact hw
              obtain rfl : v = w := Option.some.inj (hv.symm.trans hvw)
              exact Or.inr ⟨by simpa using hhunting, rfl⟩
          · exact hi
  · exact List.forall₂_refl us

theorem catchUnits_caught (us : List (GameUnit F)) : List.Forall₂ Caught us (catchUnits us) := by
  unfold catchUnits
  refine forall₂_foldl _ ?_ _ us
  intro us' i
  exact forall₂_foldl _ (fun us'' j => collideUnits_caught us'' i j) _ us'

/-! ## A frame -/

/-- What a frame of this time does to one unit, among these obstacles. -/
def Frame (dt : F) (os : List (GameObstacle F)) (u v : GameUnit F) : Prop :=
  Caught (separateUnit os (u.advance dt)) v

theorem moveUnits_units (dt durationTimer : F) (i : Nat) (us : List (GameUnit F)) (last : F) :
    (moveUnits dt durationTimer clock i us last).1 = us.map (·.advance dt) := by
  induction us generalizing i last with
  | nil => rfl
  | cons u us ih =>
      unfold moveUnits GameUnit.advance
      dsimp only
      split
      · next harrives =>
          rw [List.map_cons, ih, if_pos harrives]
          rfl
      · next harrives =>
          rw [List.map_cons, ih, if_neg harrives]
          rfl

/-- The round is over after the test of its time, or it is not. -/
theorem finishes_eq (g : Game F) (clock : Nat → F) :
    (g.hasFinished || (decide (ofInt 60 < clock 2 - g.durationTimer) && !g.hasFinished)) =
      (g.hasFinished || decide (ofInt 60 < clock 2 - g.durationTimer)) := by
  cases g.hasFinished <;> simp

/-- **A frame that moves**: the loops settle each unit, and then the units catch each other. -/
theorem proceed_units (h : g.moves clock = true) :
    (g.proceed clock).1.gameUnits = catchUnits (g.gameUnits.map (g.settled clock)) := by
  obtain ⟨hstarted, hfinished⟩ := Bool.and_eq_true_iff.mp h
  have hunits : (g.proceed clock).1.gameUnits =
      catchUnits ((g.gameUnits.map (·.advance (g.timeDifference clock))).map
        (separateUnit g.gameObstacles)) := by
    unfold proceed
    dsimp only
    rw [hstarted, finishes_eq]
    simp only [Bool.not_true, Bool.false_eq_true, if_false]
    rw [if_neg (by simpa using hfinished), moveUnits_units]
    rfl
  rw [hunits, List.map_map]
  rfl

/-- Unit by unit. -/
theorem proceed_frame (h : g.moves clock = true) :
    List.Forall₂ (Frame (g.timeDifference clock) g.gameObstacles) g.gameUnits
      (g.proceed clock).1.gameUnits := by
  rw [proceed_units h]
  have hcaught := catchUnits_caught (g.gameUnits.map (g.settled clock))
  rw [List.forall₂_map_left_iff] at hcaught
  exact hcaught

/-- Any other frame leaves the units as they are. -/
theorem proceed_still (h : g.moves clock = false) : (g.proceed clock).1.gameUnits = g.gameUnits := by
  unfold proceed
  dsimp only
  rw [finishes_eq]
  unfold moves at h
  cases hstarted : g.hasStarted with
  | false => rfl
  | true =>
      rw [hstarted, Bool.true_and, Bool.not_eq_false'] at h
      simp only [Bool.not_true, Bool.false_eq_true, if_false]
      rw [if_pos h]

theorem proceed_obstacles : (g.proceed clock).1.gameObstacles = g.gameObstacles := by
  unfold proceed
  dsimp only
  split
  · rfl
  · split <;> rfl

theorem proceed_timer : (g.proceed clock).1.timer = clock 1 := by
  unfold proceed
  dsimp only
  split
  · rfl
  · split <;> rfl

/-- The calls for one of the units are among the frame's. -/
theorem NoHit.of_unit (h : g.NoHit clock) (hmoves : g.moves clock = true) {u : GameUnit F}
    (hu : u ∈ g.gameUnits) :
    ∀ p ∈ (u.advance (g.timeDifference clock)).separationsFrom g.gameObstacles,
      p.1.position ≠ p.2.position := by
  intro p hp
  apply h p
  unfold separations
  rw [if_pos hmoves]
  exact List.mem_flatMap.mpr ⟨u, hu, hp⟩

end Game

end Footscreen
