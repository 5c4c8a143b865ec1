import Footscreen.Game.Correctness.Landing

/-!
# `Game.Correctness.Fate` — what becomes of a unit

`Sound` holds of each unit of a loaded level and is kept by every step of play, and each step leads to a
`Later` unit: arrival and death are final, and a unit that has arrived or died stays where it is. Whether
a unit has arrived can be read off its position.
-/

namespace Footscreen

open FloatArith Lib

namespace GameUnit

variable {u v w : GameUnit ℝ} {os : List (GameObstacle ℝ)}

/-- What holds of each unit in play. -/
structure Sound (u : GameUnit ℝ) : Prop where
  inside  : u.Inside
  hunting : u.isHunting = true → u.isLiving = true
  arrival : u.hasArrived = true ↔ u.isHunting = false ∧ goal ≤ u.y

/-- The same unit at a later time. -/
structure Later (u v : GameUnit ℝ) : Prop where
  messageID  : v.messageID = u.messageID
  owner      : v.owner = u.owner
  number     : v.gameUnitData.number = u.gameUnitData.number
  isHunting  : v.isHunting = u.isHunting
  hasArrived : u.hasArrived = true → v.hasArrived = true
  isLiving   : u.isLiving = false → v.isLiving = false
  position   : u.isLiving = false ∨ u.hasArrived = true → v.x = u.x ∧ v.y = u.y

instance : Std.Refl Later := ⟨fun _ => ⟨rfl, rfl, rfl, rfl, id, id, fun _ => ⟨rfl, rfl⟩⟩⟩

theorem Later.trans (h : Later u v) (h' : Later v w) : Later u w := by
  refine ⟨h'.messageID.trans h.messageID, h'.owner.trans h.owner, h'.number.trans h.number,
    h'.isHunting.trans h.isHunting, fun ha => h'.hasArrived (h.hasArrived ha),
    fun hl => h'.isLiving (h.isLiving hl), ?_⟩
  intro hsettled
  obtain ⟨hx, hy⟩ := h.position hsettled
  obtain ⟨hx', hy'⟩ := h'.position (hsettled.imp h.isLiving h.hasArrived)
  exact ⟨hx'.trans hx, hy'.trans hy⟩

instance : IsTrans (GameUnit ℝ) Later := ⟨fun _ _ _ => Later.trans⟩

theorem not_active_iff : u.active = false ↔ u.isLiving = false ∨ u.hasArrived = true := by
  unfold active
  rw [Bool.and_eq_false_iff, Bool.not_eq_false']

/-- A unit that has arrived or died stays where it is in a frame. -/
theorem Framed.position {dt : ℝ} (h : Framed dt u v)
    (hsettled : u.isLiving = false ∨ u.hasArrived = true) : v.x = u.x ∧ v.y = u.y := by
  have hlanding := h.landing.trans (landing_of_not_active (not_active_iff.mpr hsettled) dt)
  exact ⟨congrArg Vec2.x hlanding, congrArg Vec2.y hlanding⟩

theorem Sound.frame {dt : ℝ} (hu : Sound u) (h : Framed dt u v) : Sound v ∧ Later u v := by
  have hy : v.y = (u.landing dt).y := congrArg Vec2.y h.landing
  constructor
  · refine ⟨hu.inside.landing h.landing, ?_, ?_⟩
    · intro hhunting
      rw [h.isHunting] at hhunting
      exact (h.hunting hhunting).trans (hu.hunting hhunting)
    · rw [h.hasArrived, h.isHunting, ← hy]
      constructor
      · rintro (harrived | harrives)
        · -- it has arrived before, and has not moved since
          obtain ⟨_, hsame⟩ := h.position (Or.inr harrived)
          rw [hsame]
          exact hu.arrival.mp harrived
        · exact harrives
      · exact Or.inr
  · refine ⟨h.messageID, h.owner, h.number, h.isHunting, fun ha => h.hasArrived.mpr (Or.inl ha), ?_,
      h.position⟩
    intro hdead
    by_contra hliving
    rw [h.isLiving (Bool.eq_true_of_not_eq_false hliving)] at hdead
    cases hdead

/-- **One step** of play, for one unit. -/
theorem Sound.step (hu : Sound u) (h : Game.UnitStep os u v) : Sound v ∧ Later u v := by
  cases h with
  | steered a b =>
      have hsound : Sound ((u.setAcceleration a).setHighlighted b) :=
        ⟨hu.inside.of_eq rfl rfl, hu.hunting, hu.arrival⟩
      exact ⟨hsound, ⟨rfl, rfl, rfl, rfl, id, id, fun _ => ⟨rfl, rfl⟩⟩⟩
  | frame dt _ hframe _ => exact hu.frame (frame_spec hu.inside hframe)

/-- A stationed unit lives, and is short of the goal. -/
theorem sound_of_stationed {levelNumber : Int} (h : Game.Stationed (Game.level levelNumber) u) :
    Sound u := by
  refine ⟨h.inside, fun _ => h.isLiving, ?_⟩
  obtain ⟨p, hp, _, hy⟩ := h.exists_point
  obtain ⟨⟨_, _, _, hgoal⟩, -⟩ := Game.level_units levelNumber p hp
  have hlt : u.y < goal := by
    rw [goal_eq, hy]
    exact_mod_cast hgoal
  rw [h.hasArrived]
  constructor
  · intro harrived
    cases harrived
  · rintro ⟨-, harrived⟩
    exact absurd harrived (not_le.mpr hlt)

end GameUnit

namespace Game

variable {g : Game ℝ} {clock : Nat → ℝ}

/-- After the movement loop, a frame moves no unit. -/
theorem proceed_positions (h : g.moves clock = true) :
    List.Forall₂ (fun u v => v.x = (u.advance (g.timeDifference clock)).x ∧
      v.y = (u.advance (g.timeDifference clock)).y) g.gameUnits (g.proceed clock).1.gameUnits := by
  apply forall₂_of (P := fun _ => True) (proceed_frame h) (fun _ _ => trivial)
  intro u v _ hframe
  obtain ⟨w, hseparate, -, -⟩ :=
    GameUnit.separateUnit_eq_of_velocity g.gameObstacles (u.advance (g.timeDifference clock))
  unfold Frame at hframe
  rw [hseparate] at hframe
  rcases hframe with rfl | ⟨-, rfl⟩
  · exact ⟨rfl, rfl⟩
  · exact ⟨rfl, rfl⟩

/-- The walls send a unit back, that was between them before it moved. -/
theorem walled_inward (hunits : ∀ u ∈ g.gameUnits, u.Inside) (hdt : 0 ≤ g.timeDifference clock)
    {w : GameUnit ℝ} (hw : w ∈ g.walled clock) :
    ((w.x < GameUnit.low → 0 < w.reflectOnWalls.velocity.x) ∧
        (GameUnit.high < w.x → w.reflectOnWalls.velocity.x < 0)) ∧
      (w.y < GameUnit.low → 0 < w.reflectOnWalls.velocity.y) ∧
        (GameUnit.high < w.y → w.reflectOnWalls.velocity.y < 0) := by
  unfold walled at hw
  split at hw
  · obtain ⟨u, hu, rfl⟩ := List.mem_map.mp hw
    have hinside := hunits u hu
    rw [GameUnit.reflectOnWalls_eq]
    cases hactive : u.active with
    | true =>
        rw [GameUnit.move_of_active hactive]
        exact ⟨GameUnit.bounce_inward hinside.left hinside.right hdt,
          GameUnit.bounce_inward hinside.top hinside.bottom hdt⟩
    | false =>
        -- it does not move, and so is not beyond a wall
        rw [GameUnit.move_of_not_active hactive]
        exact ⟨⟨fun h => absurd hinside.left (not_le.mpr h), fun h => absurd hinside.right (not_le.mpr h)⟩,
          fun h => absurd hinside.top (not_le.mpr h), fun h => absurd hinside.bottom (not_le.mpr h)⟩
  · cases hw

end Game

namespace GameServer

variable {s t w : GameServer ℝ} {past events future : List (Event ℝ)}

/-- A level in play. -/
theorem Ready.sound (h : s.Ready) {levelNumber : Int} {clock : Nat → ℝ}
    (hplay : Guarded step Play (s.loadGame levelNumber clock) events)
    (hrun : exec step (s.loadGame levelNumber clock) events = some t) :
    t.Ready ∧ ∃ g, t.game = some g ∧ ∀ u ∈ g.gameUnits, u.Sound := by
  have hloaded : (s.loadGame levelNumber clock).Ready :=
    ready_step h (e := .loadGame levelNumber clock) rfl
  obtain ⟨g, hg, hunits, _⟩ := loadGame_stationed s levelNumber clock
  obtain ⟨hready, g', hg', hreach⟩ := hloaded.reaches hg hplay hrun
  refine ⟨hready, g', hg', hreach.invariant ?_ ?_⟩
  · intro u v hu huv
    exact (GameUnit.Sound.step hu huv).1
  · intro u hu
    exact GameUnit.sound_of_stationed (hunits u hu)

/-- The descent of level 1, until it is over, and a second longer. -/
theorem descent_frames : Guarded step Play ((run zeroedReal).loadGame 1 fun _ => 0)
    (descent ++ [.proceed fun _ => 4] ++ [.proceed fun _ => 5]) := by
  obtain ⟨t, g, u, hrun, hg, hdescending, hpushed, -⟩ := descending
  obtain ⟨-, hnext⟩ := hdescending.proceed hpushed
  refine guarded_snoc.mpr ⟨descent_frame (by norm_num), ?_⟩
  intro t' ht' g' hg'
  obtain ⟨t₁, ht₁, hstep⟩ := exec_snoc.mp ht'
  obtain rfl := Option.some.inj (hrun.symm.trans ht₁)
  obtain rfl := Option.some.inj hstep
  obtain rfl := Option.some.inj ((proceed_game hg _).symm.trans hg')
  refine ⟨?_, hnext _⟩
  unfold Game.timeDifference
  rw [Game.proceed_timer, ofInt_zero]
  norm_num

/-- The unit that is sent down has arrived after four seconds. -/
theorem descent_arrives : ∃ t g, exec step ((run zeroedReal).loadGame 1 fun _ => 0)
      (descent ++ [.proceed fun _ => 4]) = some t ∧ t.game = some g ∧
    ∃ u ∈ g.gameUnits, u.hasArrived = true ∧ u.isHunting = false ∧ u.x = 20 ∧ u.y = 476 := by
  obtain ⟨t, g, u, hrun, hg, hdescending, hpushed, -⟩ := descending
  exact ⟨t.proceed fun _ => 4, _, exec_snoc.mpr ⟨t, hrun, rfl⟩, proceed_game hg _,
    (hdescending.proceed hpushed).1⟩

/-- **A unit's fate is final**: between any two states of a run of play, and from the movement loop of a
    frame to its end. -/
theorem fate_final (unset : Nat → Unset ℝ) (levelNumber : Int) (clock : Nat → ℝ)
    (hpast : exec step (run unset) past = some s)
    (hplay : Guarded step Play (s.loadGame levelNumber clock) (events ++ future))
    (hevents : exec step (s.loadGame levelNumber clock) events = some t)
    (hfuture : exec step t future = some w) :
    ∃ g g', t.game = some g ∧ w.game = some g' ∧
      List.Forall₂ GameUnit.Later g.gameUnits g'.gameUnits ∧
      (∀ u ∈ g.gameUnits, u.isHunting = true → u.isLiving = true ∧ u.hasArrived = false) ∧
      ∀ clock', g.moves clock' = true →
        List.Forall₂ (fun u v => v.x = (u.advance (g.timeDifference clock')).x ∧
          v.y = (u.advance (g.timeDifference clock')).y) g.gameUnits (g.proceed clock').1.gameUnits := by
  obtain ⟨hpresent, hlater⟩ := guarded_append hplay hevents
  obtain ⟨hready, g, hg, hsound⟩ := (ready_run unset hpast).sound hpresent hevents
  obtain ⟨_, g', hg', hreach⟩ := hready.reaches hg hlater hfuture
  have hunits := hreach.units (fun u v hu huv => GameUnit.Sound.step hu huv) hsound
  refine ⟨g, g', hg, hg', hunits, ?_, fun clock' => Game.proceed_positions⟩
  intro u hu hhunting
  refine ⟨(hsound u hu).hunting hhunting, ?_⟩
  by_contra harrived
  have hno := ((hsound u hu).arrival.mp (Bool.eq_true_of_not_eq_false harrived)).1
  rw [hhunting] at hno
  cases hno

/-- The unit that has arrived stays where it is in another second. -/
theorem fate_final_descent :
    ∃ t w g g', exec step ((run zeroedReal).loadGame 1 fun _ => 0) (descent ++ [.proceed fun _ => 4]) =
        some t ∧ exec step t [.proceed fun _ => 5] = some w ∧ t.game = some g ∧ w.game = some g' ∧
      ∃ u ∈ g.gameUnits, ∃ v ∈ g'.gameUnits, (u.hasArrived = true ∧ u.x = 20 ∧ u.y = 476) ∧
        v.messageID = u.messageID ∧ v.hasArrived = true ∧ v.x = 20 ∧ v.y = 476 := by
  obtain ⟨t, g, hrun, hg, u, hu, harrived, -, hx, hy⟩ := descent_arrives
  obtain ⟨g₁, g', hg₁, hg', hunits, -⟩ := fate_final zeroedReal 1 (fun _ => 0) zeroedReal_run
    descent_frames hrun rfl
  obtain rfl := Option.some.inj (hg.symm.trans hg₁)
  obtain ⟨v, hv, hlater⟩ := exists_mem_of hunits hu
  obtain ⟨hx', hy'⟩ := hlater.position (Or.inr harrived)
  exact ⟨t, _, g, g', hrun, rfl, hg, hg', u, hu, v, hv, ⟨harrived, hx, hy⟩, hlater.messageID,
    hlater.hasArrived harrived, hx'.trans hx, hy'.trans hy⟩

/-- **Arrival is exact** in every state of play: a unit has arrived if and only if it is a fleeing one
    beyond the goal. -/
theorem arrival_exact (unset : Nat → Unset ℝ) (levelNumber : Int) (clock : Nat → ℝ)
    (hpast : exec step (run unset) past = some s)
    (hplay : Guarded step Play (s.loadGame levelNumber clock) events)
    (hevents : exec step (s.loadGame levelNumber clock) events = some t) :
    ∃ g, t.game = some g ∧ ∀ u ∈ g.gameUnits,
      (u.hasArrived = true ↔ u.isHunting = false ∧ ofInt 480 - GameUnit.unitRadius ≤ u.y) := by
  obtain ⟨_, g, hg, hsound⟩ := (ready_run unset hpast).sound hplay hevents
  exact ⟨g, hg, fun u hu => (hsound u hu).arrival⟩

/-- The unit that is at the lower wall has arrived. -/
theorem arrival_exact_descent :
    ∃ t g u, exec step ((run zeroedReal).loadGame 1 fun _ => 0) (descent ++ [.proceed fun _ => 4]) =
        some t ∧ t.game = some g ∧ u ∈ g.gameUnits ∧ u.y = 476 ∧ u.hasArrived = true := by
  obtain ⟨t, g, hrun, hg, u, hu, -, hfleeing, -, hy⟩ := descent_arrives
  have hframe := descent_frame (c := 4) (by norm_num)
  obtain ⟨g', hg', hexact⟩ := arrival_exact zeroedReal 1 (fun _ => 0) zeroedReal_run hframe hrun
  obtain rfl := Option.some.inj (hg.symm.trans hg')
  refine ⟨t, g, u, hrun, hg, hu, hy, (hexact u hu).mpr ⟨hfleeing, ?_⟩⟩
  have hgoal : (ofInt 480 - GameUnit.unitRadius : ℝ) = 472 := GameUnit.goal_eq
  rw [hgoal, hy]
  norm_num

/-- **Units stay in the arena**: in every frame of play, a coordinate that `reflectOnWalls` sets back gets
    a velocity that points inward, and after the frame every unit is inside. -/
theorem stays_inside (unset : Nat → Unset ℝ) (levelNumber : Int) (clock clock' : Nat → ℝ)
    (hpast : exec step (run unset) past = some s)
    (hplay : Guarded step Play (s.loadGame levelNumber clock) (events ++ [.proceed clock']))
    (hevents : exec step (s.loadGame levelNumber clock) events = some t) :
    ∃ g, t.game = some g ∧
      (∀ v ∈ g.walled clock',
        ((v.x < GameUnit.low → 0 < v.reflectOnWalls.velocity.x) ∧
            (GameUnit.high < v.x → v.reflectOnWalls.velocity.x < 0)) ∧
          (v.y < GameUnit.low → 0 < v.reflectOnWalls.velocity.y) ∧
            (GameUnit.high < v.y → v.reflectOnWalls.velocity.y < 0)) ∧
      ∀ u ∈ (g.proceed clock').1.gameUnits, u.Inside := by
  obtain ⟨hpresent, hframe, -⟩ := guarded_append hplay hevents
  obtain ⟨hready, g, hg, hsound⟩ := (ready_run unset hpast).sound hpresent hevents
  obtain ⟨hdt, hhits⟩ := hframe g hg
  have hzero : 0 ≤ g.timeDifference clock' := by simpa using hdt
  refine ⟨g, hg, fun v hv => Game.walled_inward (fun u hu => (hsound u hu).inside) hzero hv, ?_⟩
  have hunits := (Game.proceed_progress hdt hhits).units
  exact forall_mem_of hunits hsound fun u v hu huv => (GameUnit.Sound.step hu huv).1.inside

/-- The unit that is sent down runs into the lower wall. -/
theorem stays_inside_descent :
    ∃ t g, exec step ((run zeroedReal).loadGame 1 fun _ => 0) descent = some t ∧ t.game = some g ∧
      (∃ v ∈ g.walled fun _ => 4, GameUnit.high < v.y ∧ v.reflectOnWalls.velocity.y < 0) ∧
      ∀ u ∈ (g.proceed fun _ => 4).1.gameUnits, u.Inside := by
  obtain ⟨t, g, u, hrun, hg, hdescending, hpushed, -⟩ := descending
  have hframe := descent_frame (c := 4) (by norm_num)
  obtain ⟨g', hg', hwalls, hinside⟩ :=
    stays_inside zeroedReal 1 (fun _ => 0) (fun _ => 4) zeroedReal_run hframe hrun
  obtain rfl := Option.some.inj (hg.symm.trans hg')
  have hwalled : u.move 4 ∈ g.walled fun _ => 4 := by
    unfold Game.walled
    rw [if_pos (hdescending.moves (by norm_num)), hdescending.timeDifference]
    exact List.mem_map_of_mem hpushed.mem
  exact ⟨t, g, hrun, hg, ⟨_, hwalled, hpushed.move_y, (hwalls _ hwalled).2.2 hpushed.move_y⟩, hinside⟩

end GameServer

end Footscreen
