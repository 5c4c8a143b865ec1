import Footscreen.Lib.Sweep
import Footscreen.Game.Correctness.Frames

/-!
# `Game.Correctness.Catching` — who is caught in a frame

The collision loops are a sweep over the units: where two collide, the one that is not hunting dies.
`catchUnits_eq` gives the units after the loops, and `mem_proceed` those after a frame: each is as the
movement and the obstacles leave it, and dead if it is caught there.
-/

namespace Footscreen

open FloatArith Lib

variable {F : Type} [FloatArith F]

theorem Point.norm_sub_comm (p q : Point) : ((p.sub q).norm : F) = (q.sub p).norm := by
  unfold Point.norm Point.sub
  dsimp only
  rw [← Int.neg_sub q.x p.x, ← Int.neg_sub q.y p.y, Int.neg_mul_neg, Int.neg_mul_neg]

namespace GameUnit

variable {u v w : GameUnit F}

/-- The unit is not hunting, and collides with one of the units. -/
def caughtAmong (us : List (GameUnit F)) (u : GameUnit F) : Bool :=
  !u.isHunting && us.any fun v => u.collidesWith v || v.collidesWith u

/-- A hunting unit among the others is nearer than two radii. -/
def Reached (us : List (GameUnit F)) (u : GameUnit F) : Prop :=
  ∃ v ∈ us, v.isHunting = true ∧ ((u.position.sub v.position).norm : F) < ofInt 2 * unitRadius

instance (us : List (GameUnit F)) (u : GameUnit F) : Decidable (Reached us u) :=
  inferInstanceAs (Decidable (∃ v ∈ us, _))

/-- The unit is living, and it is hunting itself or not reached. -/
def Survives (us : List (GameUnit F)) (u : GameUnit F) : Prop :=
  u.isLiving = true ∧ (u.isHunting = true ∨ ¬ Reached us u)

instance (us : List (GameUnit F)) (u : GameUnit F) : Decidable (Survives us u) :=
  inferInstanceAs (Decidable (_ ∧ _))

/-- A fleeing unit is caught by the hunting ones that reach it, from whichever side the pair is seen. -/
theorem caughtAmong_iff {us : List (GameUnit F)} :
    u.caughtAmong us = true ↔ u.isHunting = false ∧ Reached us u := by
  unfold caughtAmong Reached
  rw [Bool.and_eq_true, Bool.not_eq_true', List.any_eq_true]
  apply and_congr_right
  intro hfleeing
  apply exists_congr
  intro v
  apply and_congr_right
  intro _
  unfold collidesWith
  rw [hfleeing, Point.norm_sub_comm v.position]
  cases v.isHunting <;> simp

/-! ## What movement keeps -/

/-- The same unit, wherever it is. -/
structure SameStatus (u v : GameUnit F) : Prop where
  isHunting  : v.isHunting = u.isHunting
  isLiving   : v.isLiving = u.isLiving
  hasArrived : v.hasArrived = u.hasArrived

omit [FloatArith F] in
theorem SameStatus.trans (h : SameStatus u v) (h' : SameStatus v w) : SameStatus u w :=
  ⟨h'.isHunting.trans h.isHunting, h'.isLiving.trans h.isLiving, h'.hasArrived.trans h.hasArrived⟩

theorem move_sameStatus (u : GameUnit F) (dt : F) : SameStatus u (u.move dt) := by
  unfold move
  split <;> exact ⟨rfl, rfl, rfl⟩

omit [FloatArith F] in
/-- A test that only moves the unit. -/
theorem SameStatus.ite (h : SameStatus u v) (c : Prop) [Decidable c] (x y : F) (velocity : Vec2 F) :
    SameStatus u (if c then { v.setPosition x y with velocity := velocity } else v) := by
  split
  · exact h.trans ⟨rfl, rfl, rfl⟩
  · exact h

theorem reflectOnWalls_sameStatus (u : GameUnit F) : SameStatus u u.reflectOnWalls := by
  unfold reflectOnWalls
  exact ((((⟨rfl, rfl, rfl⟩ : SameStatus u u).ite _ _ _ _).ite _ _ _ _).ite _ _ _ _).ite _ _ _ _

theorem separateFrom_sameStatus (u : GameUnit F) (o : GameObstacle F) :
    SameStatus u (u.separateFrom o) := by
  unfold separateFrom
  dsimp only
  split <;> exact ⟨rfl, rfl, rfl⟩

theorem separateUnit_sameStatus (os : List (GameObstacle F)) (u : GameUnit F) :
    SameStatus u (Game.separateUnit os u) := by
  unfold Game.separateUnit
  induction os generalizing u with
  | nil => exact ⟨rfl, rfl, rfl⟩
  | cons o os ih =>
      rw [List.foldl_cons]
      split
      · exact (separateFrom_sameStatus u o).trans (ih _)
      · exact ih u

theorem advance_hasArrived_eq (u : GameUnit F) (dt : F) :
    (u.advance dt).hasArrived = (u.hasArrived || u.arrives dt) := by
  have hmoved := (move_sameStatus u dt).trans (reflectOnWalls_sameStatus _)
  unfold advance arrives
  dsimp only
  split
  · next harrives =>
      rw [harrives, Bool.or_true]
      rfl
  · next harrives =>
      rw [eq_false_of_ne_true harrives, Bool.or_false]
      exact hmoved.hasArrived

theorem advance_kept (u : GameUnit F) (dt : F) :
    (u.advance dt).isHunting = u.isHunting ∧ (u.advance dt).isLiving = u.isLiving := by
  have hmoved := (move_sameStatus u dt).trans (reflectOnWalls_sameStatus _)
  unfold advance
  dsimp only
  split
  · exact ⟨hmoved.isHunting, hmoved.isLiving⟩
  · exact ⟨hmoved.isHunting, hmoved.isLiving⟩

/-- Only a fleeing unit arrives, and only once. -/
theorem of_arrives {dt : F} (h : u.arrives dt = true) : u.isHunting = false ∧ u.hasArrived = false := by
  have hmoved := (move_sameStatus u dt).trans (reflectOnWalls_sameStatus _)
  unfold arrives at h
  simp only [Bool.and_eq_true, Bool.not_eq_true'] at h
  exact ⟨hmoved.isHunting.symm.trans h.1.2, hmoved.hasArrived.symm.trans h.1.1⟩

theorem collidesWith_self (u : GameUnit F) : u.collidesWith u = false := by
  unfold collidesWith
  cases u.isHunting <;> rfl

end GameUnit

namespace Game

variable {g : Game F} {clock : Nat → F} {u v : GameUnit F}

/-! ## The collision loops -/

/-- The collision loops: a unit that is not hunting dies where it collides. -/
def catching : Sweep (GameUnit F) where
  meets              := GameUnit.collidesWith
  prone u            := !u.isHunting
  strike u           := u.setLiving false
  meets_self         := GameUnit.collidesWith_self
  meets_strike_left  _ _ := rfl
  meets_strike_right _ _ := rfl
  prone_strike       _ := rfl
  strike_strike      _ := rfl

theorem collideUnits_eq (us : List (GameUnit F)) (i j : Nat) :
    collideUnits us i j = catching.pair us i j := by
  unfold collideUnits Sweep.pair
  cases us[i]? with
  | none => rfl
  | some u => cases us[j]? <;> rfl

/-- **The collision loops** kill the units that are caught, and do nothing else. -/
theorem catchUnits_eq (us : List (GameUnit F)) :
    catchUnits us = us.map fun u => if u.caughtAmong us then u.setLiving false else u :=
  have hall : catchUnits us = catching.all us := by
    unfold catchUnits Sweep.all
    simp only [collideUnits_eq]
  hall.trans (catching.all_eq us)

/-- The units after the collision loops, as the loops find them. -/
theorem catchUnits_survivors (us : List (GameUnit F)) :
    catchUnits us = us.map fun u => u.setLiving (decide (u.Survives us)) := by
  rw [catchUnits_eq]
  apply List.map_congr_left
  intro u _
  by_cases hcaught : u.caughtAmong us = true
  · obtain ⟨hfleeing, hreached⟩ := GameUnit.caughtAmong_iff.mp hcaught
    have hdead : ¬ u.Survives us := by
      rintro ⟨-, hhunting | hunreached⟩
      · rw [hfleeing] at hhunting
        cases hhunting
      · exact hunreached hreached
    rw [if_pos hcaught, decide_eq_false hdead]
  · have hsame : decide (u.Survives us) = u.isLiving := by
      have hspared : u.isHunting = true ∨ ¬ u.Reached us := by
        by_contra hnot
        obtain ⟨hfleeing, hreached⟩ := not_or.mp hnot
        exact hcaught
          (GameUnit.caughtAmong_iff.mpr ⟨eq_false_of_ne_true hfleeing, not_not.mp hreached⟩)
      rw [Bool.eq_iff_iff, decide_eq_true_iff]
      exact and_iff_left hspared
    rw [if_neg hcaught, hsame]
    rfl

theorem survives_congr {us us' : List (GameUnit F)} (h : us'.Perm us) (u : GameUnit F) :
    u.Survives us' ↔ u.Survives us := by
  have hreached : u.Reached us' ↔ u.Reached us := by
    apply exists_congr
    intro v
    rw [h.mem_iff]
  unfold GameUnit.Survives
  rw [hreached]

/-- **The catch phase** kills exactly the fleeing units that a hunting one has reached, and changes nothing
    else, whatever the order of the units. -/
theorem catch_exact (us : List (GameUnit F)) :
    catchUnits us = us.map (fun u => u.setLiving (decide (u.Survives us))) ∧
      ∀ us', us'.Perm us → catchUnits us' = us'.map fun u => u.setLiving (decide (u.Survives us)) := by
  refine ⟨catchUnits_survivors us, ?_⟩
  intro us' hperm
  rw [catchUnits_survivors]
  apply List.map_congr_left
  intro u _
  rw [decide_eq_decide.mpr (survives_congr hperm u)]

/-- A fleeing and a hunting unit, ten pixels apart. -/
def fleeingUnit : GameUnit Int where
  address      := 1
  messageID    := messageIDFirst
  gameUnitData := ⟨40, 40, 1, idFirstClient, false, true, false⟩
  velocity     := .zero
  acceleration := .zero
  isHunting    := false

def huntingUnit : GameUnit Int where
  address      := 2
  messageID    := messageIDFirst + 1
  gameUnitData := ⟨50, 40, 1, idFirstClient + 1, false, true, false⟩
  velocity     := .zero
  acceleration := .zero
  isHunting    := true

theorem catch_exact_swapped :
    ¬ fleeingUnit.Survives [fleeingUnit, huntingUnit] ∧ huntingUnit.Survives [fleeingUnit, huntingUnit] ∧
      catchUnits [huntingUnit, fleeingUnit] =
        [huntingUnit, fleeingUnit].map (fun u =>
          u.setLiving (decide (u.Survives [fleeingUnit, huntingUnit]))) ∧
      (catchUnits [huntingUnit, fleeingUnit]).map (·.isLiving) = [true, false] := by
  have hcaught : ¬ fleeingUnit.Survives [fleeingUnit, huntingUnit] := by decide +kernel
  have hhunting : huntingUnit.Survives [fleeingUnit, huntingUnit] := by decide +kernel
  have hcatch := (catch_exact [fleeingUnit, huntingUnit]).2 _ (List.Perm.swap fleeingUnit huntingUnit [])
  refine ⟨hcaught, hhunting, hcatch, ?_⟩
  rw [hcatch]
  simp [hcaught, hhunting]

/-! ## A frame -/

/-- The unit is caught in the frame. -/
def caught (g : Game F) (clock : Nat → F) (u : GameUnit F) : Bool :=
  (g.settled clock u).caughtAmong (g.gameUnits.map (g.settled clock))

/-- What a frame that moves makes of a unit. -/
def outcome (g : Game F) (clock : Nat → F) (u : GameUnit F) : GameUnit F :=
  if g.caught clock u then (g.settled clock u).setLiving false else g.settled clock u

theorem proceed_outcome (h : g.moves clock = true) :
    (g.proceed clock).1.gameUnits = g.gameUnits.map (g.outcome clock) := by
  rw [proceed_units h, catchUnits_eq, List.map_map]
  rfl

theorem settled_isHunting : (g.settled clock u).isHunting = u.isHunting :=
  (GameUnit.separateUnit_sameStatus _ _).isHunting.trans (GameUnit.advance_kept u _).1

theorem outcome_isHunting : (g.outcome clock u).isHunting = u.isHunting := by
  unfold outcome
  split
  · exact settled_isHunting
  · exact settled_isHunting

theorem outcome_hasArrived :
    (g.outcome clock u).hasArrived = (u.hasArrived || u.arrives (g.timeDifference clock)) := by
  have hsettled : (g.settled clock u).hasArrived = (u.hasArrived || u.arrives (g.timeDifference clock)) :=
    (GameUnit.separateUnit_sameStatus _ _).hasArrived.trans (GameUnit.advance_hasArrived_eq u _)
  unfold outcome
  split
  · exact hsettled
  · exact hsettled

theorem outcome_isLiving : (g.outcome clock u).isLiving = (u.isLiving && !g.caught clock u) := by
  have hsettled : (g.settled clock u).isLiving = u.isLiving :=
    (GameUnit.separateUnit_sameStatus _ _).isLiving.trans (GameUnit.advance_kept u _).2
  unfold outcome
  cases g.caught clock u with
  | true => exact (Bool.and_false _).symm
  | false => exact hsettled.trans (Bool.and_true _).symm

/-- A fleeing unit is not caught exactly if it comes to collide with no other one. -/
theorem caught_eq_false (hfleeing : u.isHunting = false) :
    g.caught clock u = false ↔
      ∀ w ∈ g.gameUnits, (g.settled clock u).collidesWith (g.settled clock w) = false ∧
        (g.settled clock w).collidesWith (g.settled clock u) = false := by
  unfold caught GameUnit.caughtAmong
  rw [settled_isHunting, hfleeing]
  simp

end Game

end Footscreen
