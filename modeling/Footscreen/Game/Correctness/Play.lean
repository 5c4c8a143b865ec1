import Footscreen.Game.Correctness.Motion
import Footscreen.Game.Correctness.ServerRuns

/-!
# `Game.Correctness.Play` — the server's runs of one level

`Play` are the steps that a level is played in: starting the round, frames of any duration in which no
unit hits an obstacle's centre, requests, broadcasts and accepted sessions. What such a step does to the
game is `Progress`: each unit is steered by a request, or goes through a frame. `Stationed` is what a load
places in the arena.
-/

namespace Footscreen

open FloatArith Lib

variable {F : Type} [FloatArith F]

/-! ## What a load places -/

namespace Game

/-- A unit as a load of the level leaves it. -/
structure Stationed (l : Level) (u : GameUnit F) : Prop where
  position     : ∃ p ∈ if u.isHunting then l.unitPositionsPlayer2 else l.unitPositionsPlayer1,
    u.x = ofInt p.x ∧ u.y = ofInt p.y
  isLiving     : u.isLiving = true
  hasArrived   : u.hasArrived = false
  velocity     : u.velocity = .zero
  acceleration : u.acceleration = .zero

/-- An obstacle as a load of the level leaves it. -/
def Fixed (l : Level) (o : GameObstacle F) : Prop :=
  ∃ p ∈ l.obstaclePositions.zip l.obstacleRadii,
    o.gameObstacleData = ⟨ofInt p.1.x, ofInt p.1.y, ofInt p.2⟩

theorem loadUnits_stationed {l : Level} (owner : PlayerID) (isHunting : Bool) (ps : List Point)
    (number : UInt8) (s : Game F × Context F)
    (hps : ∀ p ∈ ps, p ∈ if isHunting then l.unitPositionsPlayer2 else l.unitPositionsPlayer1)
    (hs : ∀ u ∈ s.1.gameUnits, Stationed l u) :
    ∀ u ∈ (loadUnits owner isHunting ps number s).1.gameUnits, Stationed l u := by
  induction ps generalizing number s with
  | nil => exact hs
  | cons p ps ih =>
      obtain ⟨g, c⟩ := s
      apply ih (number + 1) _ (fun q hq => hps q (List.mem_cons_of_mem _ hq))
      intro u hu
      rcases List.mem_append.mp hu with hu | hu
      · exact hs u hu
      · rw [List.mem_singleton.mp hu]
        exact ⟨⟨p, hps p List.mem_cons_self, rfl, rfl⟩, rfl, rfl, rfl, rfl⟩

theorem loadObstacles_fixed {l : Level} (ps : List (Point × Int)) (s : Game F × Context F)
    (hps : ∀ p ∈ ps, p ∈ l.obstaclePositions.zip l.obstacleRadii)
    (hs : ∀ o ∈ s.1.gameObstacles, Fixed l o) :
    ∀ o ∈ (loadObstacles ps s).1.gameObstacles, Fixed l o := by
  induction ps generalizing s with
  | nil => exact hs
  | cons p ps ih =>
      obtain ⟨g, c⟩ := s
      apply ih _ (fun q hq => hps q (List.mem_cons_of_mem _ hq))
      intro o ho
      rcases List.mem_append.mp ho with ho | ho
      · exact hs o ho
      · rw [List.mem_singleton.mp ho]
        exact ⟨p, hps p List.mem_cons_self, rfl⟩

/-- **A load** places the units and obstacles of its level, and nothing else. -/
theorem load_stationed (g : Game F) (c : Context F) (levelNumber : Int) (clock : Nat → F) :
    (∀ u ∈ (g.load c levelNumber clock).1.gameUnits, Stationed (level levelNumber) u) ∧
      ∀ o ∈ (g.load c levelNumber clock).1.gameObstacles, Fixed (level levelNumber) o := by
  let l := level levelNumber
  let s₁ := loadUnits idFirstClient false l.unitPositionsPlayer1 1 (g.reset c)
  let s₂ := loadUnits (idFirstClient + 1) true l.unitPositionsPlayer2 1 s₁
  have h₁ : ∀ u ∈ s₁.1.gameUnits, Stationed l u :=
    loadUnits_stationed _ _ _ _ _ (fun p hp => hp) fun u hu => by cases hu
  have h₂ : ∀ u ∈ s₂.1.gameUnits, Stationed l u :=
    loadUnits_stationed _ _ _ _ _ (fun p hp => hp) h₁
  have hnone : s₂.1.gameObstacles = [] := by
    have hobstacles₂ := (loadUnits_loaded [] (idFirstClient + 1) true l.unitPositionsPlayer2 1 s₁).2.2
    have hobstacles₁ :=
      (loadUnits_loaded [] idFirstClient false l.unitPositionsPlayer1 1 (g.reset c)).2.2
    exact hobstacles₂.trans hobstacles₁
  have hunits :=
    (loadObstacles_loaded [] (l.obstaclePositions.zip l.obstacleRadii) s₂).2.2
  constructor
  · intro u hu
    apply h₂ u
    rw [← hunits]
    exact hu
  · apply loadObstacles_fixed _ s₂ (fun p hp => hp)
    intro o ho
    rw [hnone] at ho
    cases ho

/-! ## Steps of play -/

/-- What a step does to one unit: a request gives it an acceleration or a highlight, or it goes through a
    frame in which it hits no obstacle's centre. -/
inductive UnitStep (os : List (GameObstacle F)) (u : GameUnit F) : GameUnit F → Prop where
  | steered (a : Vec2 F) (b : Bool) : UnitStep os u ((u.setAcceleration a).setHighlighted b)
  | frame {v : GameUnit F} (dt : F) (hdt : ofInt 0 ≤ dt) (hframe : Frame dt os u v)
      (hhits : ∀ p ∈ (u.advance dt).separationsFrom os, p.1.position ≠ p.2.position) : UnitStep os u v

/-- Nothing happens to the unit. -/
instance (os : List (GameObstacle F)) : Std.Refl (UnitStep os) :=
  ⟨fun u => .steered u.acceleration u.gameUnitData.isHighlighted⟩

/-- What a step does to the game. -/
structure Progress (g g' : Game F) : Prop where
  units     : List.Forall₂ (UnitStep g.gameObstacles) g.gameUnits g'.gameUnits
  obstacles : g'.gameObstacles = g.gameObstacles

theorem Progress.refl (g : Game F) : Progress g g :=
  ⟨List.forall₂_refl _, rfl⟩

theorem modifyUnit_progress (g : Game F) (address : Nat) {f : GameUnit F → GameUnit F}
    (hf : ∀ u, UnitStep g.gameObstacles u (f u)) : Progress g (g.modifyUnit address f) := by
  refine ⟨forall₂_map _ _ ?_, rfl⟩
  intro u _
  split
  · exact hf u
  · exact Std.Refl.refl u

/-- One step of play after the other. -/
abbrev Reaches (g g' : Game F) : Prop := Relation.ReflTransGen Progress g g'

theorem Reaches.obstacles {g g' : Game F} (h : Reaches g g') : g'.gameObstacles = g.gameObstacles := by
  induction h with
  | refl => rfl
  | tail _ hstep ih => exact hstep.obstacles.trans ih

/-- **Induction over play**, unit by unit. -/
theorem Reaches.invariant {P : GameUnit F → Prop} {g g' : Game F} (h : Reaches g g')
    (hstep : ∀ u v, P u → UnitStep g.gameObstacles u v → P v) (hP : ∀ u ∈ g.gameUnits, P u) :
    ∀ u ∈ g'.gameUnits, P u := by
  induction h with
  | refl => exact hP
  | tail hreach hprogress ih =>
      have hunits := hprogress.units
      rw [Reaches.obstacles hreach] at hunits
      exact forall_mem_of hunits ih hstep

/-- What every step does to a unit, in one direction, is done by the whole of them. -/
theorem Reaches.units {P : GameUnit F → Prop} {R : GameUnit F → GameUnit F → Prop} [Std.Refl R]
    [IsTrans (GameUnit F) R] {g g' : Game F} (h : Reaches g g')
    (hstep : ∀ u v, P u → UnitStep g.gameObstacles u v → P v ∧ R u v) (hP : ∀ u ∈ g.gameUnits, P u) :
    List.Forall₂ R g.gameUnits g'.gameUnits := by
  induction h with
  | refl => exact List.forall₂_refl _
  | tail hreach hprogress ih =>
      have hreached := Reaches.invariant hreach (fun u v hu huv => (hstep u v hu huv).1) hP
      have hunits := hprogress.units
      rw [Reaches.obstacles hreach] at hunits
      exact forall₂_trans ih (forall₂_of hunits hreached fun u v hu huv => (hstep u v hu huv).2)

/-- A frame of a duration that is not negative, without a hit. -/
theorem proceed_progress {g : Game F} {clock : Nat → F} (hdt : ofInt 0 ≤ g.timeDifference clock)
    (hhits : g.NoHit clock) : Progress g (g.proceed clock).1 := by
  refine ⟨?_, proceed_obstacles⟩
  cases hmoves : g.moves clock with
  | false =>
      rw [proceed_still hmoves]
      exact List.forall₂_refl _
  | true =>
      apply forall₂_of (P := fun u => u ∈ g.gameUnits) (proceed_frame hmoves) (fun u hu => hu)
      exact fun u v hu hframe => .frame _ hdt hframe (hhits.of_unit hmoves hu)

end Game

namespace GameServer

variable {s s' : GameServer F} {g : Game F} {e : Event F} {session : SessionID}

theorem proceed_game (hg : s.game = some g) (clock : Nat → F) :
    (s.proceed clock).game = some (g.proceed clock).1 := by
  unfold proceed
  rw [hg]
  rfl

/-- The steps that a level is played in. -/
def Play (s : GameServer F) : Event F → Prop
  | .loadGame ..               => False
  | .proceed clock             =>
      ∀ g, s.game = some g → ofInt 0 ≤ g.timeDifference clock ∧ g.NoHit clock
  | .handleMessageReceived _ m => IsRequest m
  | _                          => True

omit [FloatArith F] in
/-- A request steers one unit, or does nothing. -/
theorem RequestEffect.progress [FloatArith F] (h : s.RequestEffect session s')
    (hg : s.game = some g) : ∃ g', s'.game = some g' ∧ Game.Progress g g' := by
  cases h with
  | refused => exact ⟨g, hg, Game.Progress.refl g⟩
  | @accelerated p g' u a _ hg' _ _ =>
      obtain rfl : g = g' := Option.some.inj (hg.symm.trans hg')
      exact ⟨_, rfl, Game.modifyUnit_progress g _ fun v => .steered a v.gameUnitData.isHighlighted⟩
  | @highlighted p g' u b _ hg' _ _ =>
      obtain rfl : g = g' := Option.some.inj (hg.symm.trans hg')
      exact ⟨_, rfl, Game.modifyUnit_progress g _ fun v => .steered v.acceleration b⟩

/-- **One step** of play. -/
theorem Ready.play (h : s.Ready) (hok : Play s e) (hstep : s.step e = some s')
    (hg : s.game = some g) : ∃ g', s'.game = some g' ∧ Game.Progress g g' := by
  cases e with
  | loadGame levelNumber clock => exact hok.elim
  | startGame clock =>
      cases hstep
      refine ⟨g.start clock, ?_, ⟨List.forall₂_refl _, rfl⟩⟩
      show s.game.map _ = _
      rw [hg]
      rfl
  | proceed clock =>
      cases hstep
      obtain ⟨hdt, hhits⟩ := hok g hg
      refine ⟨(g.proceed clock).1, ?_, Game.proceed_progress hdt hhits⟩
      show s.game.map _ = _
      rw [hg]
      rfl
  | synchronize =>
      obtain ⟨_, _, rfl⟩ := synchronize_inv hstep
      exact ⟨g, hg, Game.Progress.refl g⟩
  | handleSessionAccepted session =>
      obtain ⟨_, _, _, rfl⟩ := handleSessionAccepted_inv hstep
      exact ⟨g, hg, Game.Progress.refl g⟩
  | handleMessageReceived session m =>
      have hsome : (if (s.playerProfileBySession session).isSome
        then s.handleMessageReceived session m else none) = some s' := hstep
      split at hsome
      · obtain ⟨t, ht, heffect⟩ := h.request_effect hok session
        rw [hsome] at ht
        cases ht
        exact heffect.progress hg
      · cases hsome

/-- **A run** of play. -/
theorem Ready.reaches {events : List (Event F)} (h : s.Ready) (hg : s.game = some g)
    (hplay : Guarded step Play s events) (hrun : exec step s events = some s') :
    s'.Ready ∧ ∃ g', s'.game = some g' ∧ Game.Reaches g g' := by
  refine exec_guarded (I := fun u => u.Ready ∧ ∃ g', u.game = some g' ∧ Game.Reaches g g') ?_
    ⟨h, g, hg, Relation.ReflTransGen.refl⟩ hplay hrun
  rintro u e t hok ⟨hready, g₁, hg₁, hreach⟩ hstep
  obtain ⟨g₂, hg₂, hprogress⟩ := hready.play hok hstep hg₁
  exact ⟨ready_step hready hstep, g₂, hg₂, hreach.tail hprogress⟩

/-- The game that is played after a load. -/
theorem loadGame_stationed (s : GameServer F) (levelNumber : Int) (clock : Nat → F) :
    ∃ g, (s.loadGame levelNumber clock).game = some g ∧
      (∀ u ∈ g.gameUnits, Game.Stationed (Game.level levelNumber) u) ∧
      ∀ o ∈ g.gameObstacles, Game.Fixed (Game.level levelNumber) o := by
  refine ⟨_, rfl, ?_⟩
  exact Game.load_stationed (Game.new s.context clock).1 _ levelNumber fun i => clock (i + 2)

end GameServer

end Footscreen
