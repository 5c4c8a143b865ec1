import Footscreen.Game.Correctness.Fate

/-!
# `Game.Correctness.Hits` — runs that divide by zero

`reflectOn` divides by the distance of the truncated positions, and nothing in a frame keeps it from
being zero: a unit that lands on an obstacle's centre collides with it like any other. Frames without a
hit are those in which no unit lands on a centre, along the whole of every run (`hitFree_iff_clear`).
-/

namespace Footscreen

open FloatArith Lib

namespace GameServer

variable {s s' : GameServer ℝ} {past events : List (Event ℝ)} {e : Event ℝ}

/-- The steps that a level is played in, with hits or without. -/
def Timed (s : GameServer ℝ) : Event ℝ → Prop
  | .loadGame ..               => False
  | .proceed clock             => ∀ g, s.game = some g → ofInt 0 ≤ g.timeDifference clock
  | .handleMessageReceived _ m => IsRequest m
  | _                          => True

/-- The frame calls `separateFrom` with different truncated positions only. -/
def HitFree (s : GameServer ℝ) : Event ℝ → Prop
  | .proceed clock => ∀ g, s.game = some g → g.NoHit clock
  | _              => True

/-- In the frame, no unit lands on an obstacle's centre. -/
def Clear (s : GameServer ℝ) : Event ℝ → Prop
  | .proceed clock => ∀ g, s.game = some g → g.Clear clock
  | _              => True

theorem play_of_timed (htimed : Timed s e) (hhits : HitFree s e) : Play s e := by
  cases e with
  | loadGame levelNumber clock => exact htimed
  | proceed clock => exact fun g hg => ⟨htimed g hg, hhits g hg⟩
  | handleMessageReceived session m => exact htimed
  | _ => trivial

theorem Parted.hitFree_iff (h : s.Parted) (e : Event ℝ) : HitFree s e ↔ Clear s e := by
  obtain ⟨g, hg, hparted⟩ := h.game
  cases e with
  | proceed clock =>
      have honly : ∀ {g'}, s.game = some g' → g = g' := fun hg' => Option.some.inj (hg.symm.trans hg')
      constructor
      · intro hhits g' hg'
        obtain rfl := honly hg'
        exact (hparted.noHit_iff clock).mp (hhits g hg)
      · intro hclear g' hg'
        obtain rfl := honly hg'
        exact (hparted.noHit_iff clock).mpr (hclear g hg)
  | _ => exact Iff.rfl

/-- **No division by zero**, in exactly the runs in which no unit that moves lands on an obstacle's
    centre. -/
theorem hitFree_iff_clear (unset : Nat → Unset ℝ) (levelNumber : Int) (clock : Nat → ℝ)
    (hpast : exec step (run unset) past = some s)
    (htimed : Guarded step Timed (s.loadGame levelNumber clock) events) :
    Guarded step HitFree (s.loadGame levelNumber clock) events ↔
      Guarded step Clear (s.loadGame levelNumber clock) events := by
  have hparted := (ready_run unset hpast).parted levelNumber clock
  constructor
  · intro hhits
    refine Guarded.of_invariant (I := Parted) ?_ ?_ hparted (htimed.and hhits)
    · exact fun hu hok => (hu.hitFree_iff _).mp hok.2
    · exact fun hok hu hstep => parted_step hu (play_of_timed hok.1 hok.2) hstep
  · intro hclear
    refine Guarded.of_invariant (I := Parted) ?_ ?_ hparted (htimed.and hclear)
    · exact fun hu hok => (hu.hitFree_iff _).mpr hok.2
    · exact fun hok hu hstep => parted_step hu (play_of_timed hok.1 ((hu.hitFree_iff _).mpr hok.2)) hstep

/-! ## A unit on a centre -/

/-- Level 3, and a player who pushes the second unit to the right. -/
noncomputable def thirdLevel : GameServer ℝ := (run zeroedReal).loadGame 3 fun _ => 0

noncomputable def toTheRight : List (Event ℝ) :=
  [.handleSessionAccepted 7, .startGame fun _ => 0,
   .handleMessageReceived 7 ⟨messageIDEvent, .moveRequest ⟨1, 0, 1⟩, none⟩]

/-- A round that has just started, with a unit at rest that is pushed toward an obstacle. -/
structure Aimed (g : Game ℝ) (u : GameUnit ℝ) (o : GameObstacle ℝ) : Prop where
  mem_units     : u ∈ g.gameUnits
  mem_obstacles : o ∈ g.gameObstacles
  hasStarted    : g.hasStarted = true
  hasFinished   : g.hasFinished = false
  durationTimer : g.durationTimer = 0
  timer         : g.timer = 0
  active        : u.active = true
  velocity      : u.velocity = .zero
  acceleration  : u.acceleration = ⟨1000, 0⟩
  x             : u.x = ofInt 60
  y             : u.y = ofInt 80
  position      : o.position = ⟨240, 80⟩

theorem aimed : ∃ t g u o, exec step thirdLevel toTheRight = some t ∧ t.game = some g ∧ Aimed g u o :=
  ⟨_, _, _, _, rfl, rfl, List.mem_of_getElem? (i := 1) rfl, List.mem_of_getElem? (i := 2) rfl,
    rfl, rfl, rfl, rfl, rfl, rfl, (requested_eq 0).trans (by simp), rfl, rfl,
    congrArg₂ Point.mk (trunc_ofInt 240) (trunc_ofInt 80)⟩

/-- After 1.64 seconds, the unit is on the obstacle's centre. -/
theorem Aimed.landing {g : Game ℝ} {u : GameUnit ℝ} {o : GameObstacle ℝ} (h : Aimed g u o) :
    u.landingPosition (41 / 25) = ⟨240, 80⟩ := by
  have hx : GameUnit.clamp (u.x + 110 * (41 / 25)) = 240 + 2 / 5 := by
    rw [h.x, ofInt_real]
    have hsum : ((60 : Int) : ℝ) + 110 * (41 / 25) = 240 + 2 / 5 := by norm_num
    rw [hsum]
    refine GameUnit.clamp_of_mem ?_ ?_
    · rw [GameUnit.low_eq]
      norm_num
    · rw [GameUnit.high_eq]
      norm_num
  have hy : GameUnit.clamp u.y = ofInt 80 := by
    rw [h.y]
    refine GameUnit.clamp_of_mem ?_ ?_
    · rw [GameUnit.low_eq, ofInt_real]
      norm_num
    · rw [GameUnit.high_eq, ofInt_real]
      norm_num
  have htrunc : trunc (240 + 2 / 5 : ℝ) = 240 := by
    show (if (0 : ℝ) ≤ 240 + 2 / 5 then ⌊(240 + 2 / 5 : ℝ)⌋ else ⌈(240 + 2 / 5 : ℝ)⌉) = 240
    rw [if_pos (by norm_num), Int.floor_eq_iff]
    norm_num
  have hpush : 110 < (1000 : ℝ) * (41 / 25) := by norm_num
  unfold GameUnit.landingPosition
  rw [GameUnit.landing_of_push h.active h.velocity h.acceleration hpush]
  dsimp only
  rw [hx, hy, htrunc, trunc_ofInt]

theorem Aimed.moves {g : Game ℝ} {u : GameUnit ℝ} {o : GameObstacle ℝ} (h : Aimed g u o) :
    g.moves (fun _ => 41 / 25) = true := by
  unfold Game.moves
  rw [h.hasStarted, h.hasFinished, h.durationTimer, ofInt_real]
  simp only [Bool.true_and, Bool.false_or, Bool.not_eq_true', decide_eq_false_iff_not]
  norm_num

theorem Aimed.timeDifference {g : Game ℝ} {u : GameUnit ℝ} {o : GameObstacle ℝ} (h : Aimed g u o) :
    g.timeDifference (fun _ => 41 / 25) = 41 / 25 := by
  unfold Game.timeDifference
  rw [h.timer, sub_zero]

/-- The push itself hits nothing. -/
theorem toTheRight_play : Guarded step Play thirdLevel toTheRight :=
  guarded_cons_of trivial rfl (guarded_cons_of trivial rfl (guarded_cons_of (Or.inl rfl) rfl trivial))

theorem toTheRight_timed :
    Guarded step Timed thirdLevel (toTheRight ++ [.proceed fun _ => 41 / 25]) := by
  obtain ⟨t, g, u, o, hrun, hg, haimed⟩ := aimed
  refine guarded_snoc.mpr ⟨?_, ?_⟩
  · exact guarded_cons_of trivial rfl (guarded_cons_of trivial rfl
      (guarded_cons_of (Or.inl rfl) rfl trivial))
  · intro t' ht' g' hg'
    rw [hrun] at ht'
    cases ht'
    rw [hg] at hg'
    cases hg'
    rw [haimed.timeDifference, ofInt_zero]
    norm_num

/-- The push on level 3, and a long frame. -/
theorem hitFree_iff_clear_push :
    Guarded step HitFree thirdLevel (toTheRight ++ [.proceed fun _ => 41 / 25]) ↔
      Guarded step Clear thirdLevel (toTheRight ++ [.proceed fun _ => 41 / 25]) :=
  hitFree_iff_clear zeroedReal 3 (fun _ => 0) zeroedReal_run toTheRight_timed

/-- **A hit**: in a run of level 3 `separateFrom` is called with a unit and an obstacle that have the same
    truncated position. -/
theorem hits_centre :
    Guarded step Timed thirdLevel (toTheRight ++ [.proceed fun _ => 41 / 25]) ∧
      (∃ t g, exec step thirdLevel toTheRight = some t ∧ t.game = some g ∧
        ∃ p ∈ g.separations fun _ => 41 / 25, p.1.position = p.2.position) ∧
      ¬ Guarded step HitFree thirdLevel (toTheRight ++ [.proceed fun _ => 41 / 25]) := by
  obtain ⟨t, g, u, o, hrun, hg, haimed⟩ := aimed
  have hloaded : thirdLevel.Parted := Ready.parted (s := run zeroedReal) (Or.inl ⟨rfl, rfl⟩) 3 fun _ => 0
  obtain ⟨g', hg', hparted⟩ := (parted_run hloaded toTheRight_play hrun).game
  obtain rfl : g = g' := Option.some.inj (hg.symm.trans hg')
  have hhit : ¬ g.NoHit fun _ => 41 / 25 := by
    intro hhits
    have hclear := (hparted.noHit_iff _).mp hhits haimed.moves u haimed.mem_units haimed.active o
      haimed.mem_obstacles
    rw [haimed.timeDifference, haimed.landing] at hclear
    exact hclear haimed.position.symm
  refine ⟨toTheRight_timed, ⟨t, g, hrun, hg, ?_⟩, ?_⟩
  · by_contra hnone
    exact hhit fun p hp heq => hnone ⟨p, hp, heq⟩
  · intro hfree
    exact hhit ((guarded_snoc.mp hfree).2 t hrun g hg)

end GameServer

end Footscreen
