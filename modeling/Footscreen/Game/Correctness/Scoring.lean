import Footscreen.Game.Correctness.Restart
import Footscreen.Game.Correctness.Trajectory

/-!
# `Game.Correctness.Scoring` — the result of a level

A frame that comes too late prints the result. `scored_once` says that this happens once in a level, however
often it is started, and that the result is final: computed again at any later time, it is the same. Every
fleeing unit is in it once, as arrived, as surviving or, left out, as dead (`counts_add`). A client's message
of the game itself would change the units behind the result, so there are none in such a level (`InLevel`).
-/

namespace Footscreen

open FloatArith Lib

variable {F : Type} [FloatArith F]

namespace Game

variable {g g' : Game F} {clock : Nat → F}

/-! ## Counting -/

def fleeingUnits (g : Game F) : Nat := g.gameUnits.countP fun u => !u.isHunting

def deadUnits (g : Game F) : Nat := g.gameUnits.countP fun u => !u.isHunting && !u.isLiving

omit [FloatArith F] in
/-- Each fleeing unit is counted once. -/
theorem counts_add (g : Game F) :
    g.result.arrivedUnits + g.result.survivingUnits + g.deadUnits = g.fleeingUnits := by
  unfold result deadUnits fleeingUnits
  dsimp only
  induction g.gameUnits with
  | nil => rfl
  | cons u us ih =>
      rw [List.countP_cons, List.countP_cons, List.countP_cons, List.countP_cons, ← ih]
      cases u.isHunting <;> cases u.isLiving <;> cases u.hasArrived <;>
        simp <;> omega

theorem loadUnits_fleeing (owner : PlayerID) (isHunting : Bool) (ps : List Point) (number : UInt8)
    (s : Game F × Context F) :
    (loadUnits owner isHunting ps number s).1.fleeingUnits =
      s.1.fleeingUnits + if isHunting then 0 else ps.length := by
  induction ps generalizing number s with
  | nil => cases isHunting <;> rfl
  | cons p ps ih =>
      obtain ⟨g, c⟩ := s
      unfold loadUnits
      dsimp only
      rw [ih]
      unfold fleeingUnits
      rw [List.countP_append, List.countP_singleton]
      show g.gameUnits.countP _ + (if (!isHunting) = true then 1 else 0) + _ = _
      cases isHunting
      · rw [List.length_cons]
        simp
        omega
      · simp

theorem level_fleeing (levelNumber : Int) : (level levelNumber).unitPositionsPlayer1.length = 5 := by
  unfold level
  split
  · rfl
  · split
    · rfl
    · split <;> rfl

/-- Every level has five fleeing units. -/
theorem load_fleeing (g : Game F) (c : Context F) (levelNumber : Int) (clock : Nat → F) :
    (g.load c levelNumber clock).1.fleeingUnits = 5 := by
  let l := level levelNumber
  let s₁ := loadUnits idFirstClient false l.unitPositionsPlayer1 1 (g.reset c)
  let s₂ := loadUnits (idFirstClient + 1) true l.unitPositionsPlayer2 1 s₁
  have hunits := (loadObstacles_loaded [] (l.obstaclePositions.zip l.obstacleRadii) s₂).2.2
  have hload : (g.load c levelNumber clock).1.fleeingUnits = s₂.1.fleeingUnits := by
    unfold fleeingUnits
    rw [← hunits]
    rfl
  rw [hload, loadUnits_fleeing, loadUnits_fleeing, level_fleeing]
  rfl

/-! ## What is printed -/

/-- What the result is computed from. -/
structure SameScore (g g' : Game F) : Prop where
  hasFinished  : g'.hasFinished = g.hasFinished
  lastUnitTime : g'.lastUnitTime = g.lastUnitTime
  units        : List.Forall₂ GameUnit.SameStatus g.gameUnits g'.gameUnits

omit [FloatArith F] in
theorem SameScore.result (h : SameScore g g') : g'.result = g.result := by
  unfold Game.result
  rw [h.lastUnitTime, countP_of h.units, countP_of h.units]
  · intro u v huv
    rw [huv.isHunting, huv.hasArrived, huv.isLiving]
  · intro u v huv
    rw [huv.isHunting, huv.hasArrived, huv.isLiving]

omit [FloatArith F] in
theorem SameScore.fleeingUnits (h : SameScore g g') : g'.fleeingUnits = g.fleeingUnits :=
  countP_of h.units fun u v huv => by rw [huv.isHunting]

theorem proceed_fleeing (g : Game F) (clock : Nat → F) :
    (g.proceed clock).1.fleeingUnits = g.fleeingUnits := by
  cases hmoves : g.moves clock with
  | true =>
      refine countP_of (proceed_frame hmoves) fun u v huv => ?_
      rcases huv with rfl | ⟨-, rfl⟩
      all_goals
        exact congrArg (!·) (GameUnit.drive_kept g.gameObstacles u (.frame _)).1
  | false =>
      unfold fleeingUnits
      rw [proceed_still hmoves]

/-- A frame prints the result if it is the first one that comes too late. -/
theorem proceed_printed (g : Game F) (clock : Nat → F) : (g.proceed clock).2 =
    if g.hasStarted && decide (ofInt 60 < clock 2 - g.durationTimer) && !g.hasFinished then
      some g.result else none := by
  unfold proceed
  dsimp only
  cases hstarted : g.hasStarted with
  | false => rfl
  | true =>
      simp only [Bool.not_true, Bool.false_eq_true, if_false, Bool.true_and]
      split <;> rfl

/-- A frame of a finished round changes nothing that counts. -/
theorem proceed_finished (h : (g.proceed clock).1.hasFinished = true) :
    (g.proceed clock).1.result = g.result := by
  have hstill : g.moves clock = false := by
    rw [proceed_hasFinished] at h
    unfold moves
    cases hstarted : g.hasStarted with
    | false => rfl
    | true =>
        rw [hstarted, Bool.true_and] at h
        rw [h]
        rfl
  have hlast : (g.proceed clock).1.lastUnitTime = g.lastUnitTime := by
    rw [proceed_lastUnitTime, arrivals, hstill]
    rfl
  unfold result
  rw [proceed_still hstill, hlast]

/-- What has been printed, once a level has come to this state. -/
def printed (g : Game F) : List (Result F) := if g.hasFinished then [g.result] else []

/-- **One frame** keeps the account. -/
theorem printed_proceed (g : Game F) (clock : Nat → F) :
    (g.proceed clock).1.printed = g.printed ++ (g.proceed clock).2.toList := by
  have hlater : (g.proceed clock).1.hasFinished = true → (g.proceed clock).1.printed = [g.result] := by
    intro hfinished
    rw [printed, if_pos hfinished, proceed_finished hfinished]
  rw [proceed_printed]
  cases hfinished : g.hasFinished with
  | true =>
      have hbefore : g.printed = [g.result] := if_pos hfinished
      rw [hlater (by rw [proceed_hasFinished, hfinished]; rfl), hbefore, Bool.not_true, Bool.and_false]
      rfl
  | false =>
      have hbefore : g.printed = [] := if_neg (ne_true_of_eq_false hfinished)
      rw [hbefore, Bool.not_false, Bool.and_true]
      cases hover : g.hasStarted && decide (ofInt 60 < clock 2 - g.durationTimer) with
      | true =>
          rw [hlater (by rw [proceed_hasFinished, hover, Bool.or_true])]
          rfl
      | false =>
          refine if_neg (ne_true_of_eq_false ?_)
          rw [proceed_hasFinished, hfinished, hover]
          rfl

end Game

/-! ## The server -/

namespace GameServer

variable {s s' t : GameServer F} {g g' : Game F} {e : Event F} {past events : List (Event F)}

/-- What a call prints. -/
def prints (s : GameServer F) : Event F → List (Game.Result F)
  | .proceed clock => (s.game.bind fun g => (g.proceed clock).2).toList
  | _              => []

/-- What a call makes of the game's account. -/
inductive Scores (s : GameServer F) (g : Game F) : Event F → Game F → Prop where
  | frame (clock : Nat → F) : Scores s g (.proceed clock) (g.proceed clock).1
  | kept {e : Event F} {g' : Game F} (hprints : s.prints e = []) (hsame : Game.SameScore g g') :
      Scores s g e g'

omit [FloatArith F] in
theorem modifyUnit_sameScore (g : Game F) (address : Nat) {f : GameUnit F → GameUnit F}
    (hf : ∀ u, GameUnit.SameStatus u (f u)) : Game.SameScore g (g.modifyUnit address f) := by
  refine ⟨rfl, rfl, forall₂_map _ _ ?_⟩
  intro u _
  split
  · exact hf u
  · exact ⟨rfl, rfl, rfl⟩

omit [FloatArith F] in
theorem sameScore_of_units (h : g'.gameUnits = g.gameUnits) (hfinished : g'.hasFinished = g.hasFinished)
    (hlast : g'.lastUnitTime = g.lastUnitTime) : Game.SameScore g g' := by
  refine ⟨hfinished, hlast, ?_⟩
  rw [h]
  exact List.forall₂_same.mpr fun _ _ => ⟨rfl, rfl, rfl⟩

/-- **One call** in a level. -/
theorem Ready.scores (h : s.Ready) (hg : s.game = some g) (hown : g.ownPlayerID = idNone)
    (he : e.InLevel) (hstep : s.step e = some s') (hg' : s'.game = some g') : Scores s g e g' := by
  cases e with
  | loadGame levelNumber clock => exact he.elim
  | startGame clock =>
      cases hstep
      obtain ⟨g₁, hg₁, rfl⟩ := Option.map_eq_some_iff.mp hg'
      obtain rfl : g = g₁ := Option.some.inj (hg.symm.trans hg₁)
      exact .kept rfl (sameScore_of_units rfl rfl rfl)
  | proceed clock =>
      cases hstep
      obtain ⟨g₁, hg₁, rfl⟩ := Option.map_eq_some_iff.mp hg'
      obtain rfl : g = g₁ := Option.some.inj (hg.symm.trans hg₁)
      exact .frame clock
  | synchronize =>
      obtain ⟨_, _, rfl⟩ := synchronize_inv hstep
      obtain rfl : g = g' := Option.some.inj (hg.symm.trans hg')
      exact .kept rfl (sameScore_of_units rfl rfl rfl)
  | handleSessionAccepted session =>
      obtain ⟨_, _, _, rfl⟩ := handleSessionAccepted_inv hstep
      obtain rfl : g = g' := Option.some.inj (hg.symm.trans hg')
      exact .kept rfl (sameScore_of_units rfl rfl rfl)
  | handleMessageReceived session m =>
      have hsome : (if (s.playerProfileBySession session).isSome
        then s.handleMessageReceived session m else none) = some s' := hstep
      split at hsome
      · next hp =>
          obtain ⟨p, hp⟩ := Option.isSome_iff_exists.mp hp
          refine .kept rfl ?_
          rcases h.receive_cases hg hown he hp hsome with ⟨-, closed, rfl⟩ | ⟨r, -, rfl⟩
          · obtain rfl : g = g' := Option.some.inj (hg.symm.trans hg')
            exact sameScore_of_units rfl rfl rfl
          · rcases changeUnit_cases s session r.unitIndex r.change with heq | ⟨_, g₁, u, _, hg₁, _, _, heq⟩
            · rw [heq] at hg'
              obtain rfl : g = g' := Option.some.inj (hg.symm.trans hg')
              exact sameScore_of_units rfl rfl rfl
            · obtain rfl : g = g₁ := Option.some.inj (hg.symm.trans hg₁)
              rw [heq] at hg'
              obtain rfl := Option.some.inj hg'
              exact modifyUnit_sameScore g _ fun u => by cases r <;> exact ⟨rfl, rfl, rfl⟩
      · cases hsome

/-- The account of a level, after calls of the server. -/
structure Accounted (s : GameServer F) (events : List (Event F)) (t : GameServer F) (g : Game F) :
    Prop where
  ready       : t.Ready
  game        : t.game = some g
  ownPlayerID : g.ownPlayerID = idNone
  printed     : labels step prints s events = g.printed
  fleeing     : g.fleeingUnits = 5

theorem Accounted.step (h : s.Accounted events t g) (hrun : exec step s events = some t)
    (he : e.InLevel) (hstep : t.step e = some s') : ∃ g', s.Accounted (events ++ [e]) s' g' := by
  obtain ⟨g', hpasses⟩ := h.ready.passes h.game h.ownPlayerID he hstep
  refine ⟨g', ready_step h.ready hstep, hpasses.game, hpasses.ownPlayerID, ?_, ?_⟩
  · rw [labels_snoc e hrun, h.printed]
    cases h.ready.scores h.game h.ownPlayerID he hstep hpasses.game with
    | frame clock =>
        rw [Game.printed_proceed, prints, h.game]
        rfl
    | kept hprints hsame =>
        rw [hprints, List.append_nil, Game.printed, Game.printed, hsame.hasFinished, hsame.result]
  · cases h.ready.scores h.game h.ownPlayerID he hstep hpasses.game with
    | frame clock     => exact (Game.proceed_fleeing g clock).trans h.fleeing
    | kept _ hsame => exact hsame.fleeingUnits.trans h.fleeing

/-- **A level is scored once, for good.** However often a level is started, as long as clients send no
    messages of the game itself, it prints nothing until its round is over, and one result from then on;
    that result is still right at the end, and counts each of the five fleeing units once. -/
theorem scored_once (unset : Nat → Unset F) (levelNumber : Int) (clock : Nat → F)
    (hpast : exec step (run unset) past = some s) (hlevel : ∀ e ∈ events, e.InLevel)
    (hevents : exec step (s.loadGame levelNumber clock) events = some t) :
    ∃ g, t.game = some g ∧
      labels step prints (s.loadGame levelNumber clock) events =
        (if g.hasFinished then [g.result] else []) ∧
      g.result.arrivedUnits + g.result.survivingUnits + g.deadUnits = 5 ∧ g.result.score ≤ 10 := by
  have hready := ready_run unset hpast
  obtain ⟨g₀, hg₀, hown, -, hstart⟩ := hready.follows_load levelNumber clock
  have hfleeing : g₀.fleeingUnits = 5 := by
    have hloaded : (s.loadGame levelNumber clock).game.map (·.fleeingUnits) = some 5 :=
      congrArg some (Game.load_fleeing (Game.new s.context clock).1 _ levelNumber fun i => clock (i + 2))
    rw [hg₀] at hloaded
    exact Option.some.inj hloaded
  have hunfinished : g₀.hasFinished = false := by
    have hloaded : (s.loadGame levelNumber clock).game.map (·.hasFinished) = some false :=
      congrArg some (Game.load_sameRound (Game.new s.context clock).1 _ levelNumber
        fun i => clock (i + 2)).hasFinished
    rw [hg₀] at hloaded
    exact Option.some.inj hloaded
  have hlast : ∃ g, (s.loadGame levelNumber clock).Accounted events t g := by
    refine exec_history (P := fun events t => ∃ g, (s.loadGame levelNumber clock).Accounted events t g)
      ⟨g₀, hstart.ready, hg₀, hown, ?_, hfleeing⟩ ?_ (guarded_of_mem fun e he _ => hlevel e he) hevents
    · exact (if_neg (ne_true_of_eq_false hunfinished)).symm
    · rintro events t e s' hrun he ⟨g, haccounted⟩ hstep
      exact haccounted.step hrun he hstep
  obtain ⟨g, haccounted⟩ := hlast
  have hcounts := (Game.counts_add g).trans haccounted.fleeing
  refine ⟨g, haccounted.game, haccounted.printed, hcounts, ?_⟩
  unfold Game.Result.score
  omega

/-- A round that nobody plays; it is started again after its end. -/
def idleRound : List (Event Int) :=
  [.startGame fun _ => 0, .proceed fun _ => 30, .proceed fun _ => 61, .proceed fun _ => 62,
   .startGame fun _ => 63, .proceed fun _ => 64]

theorem idleRound_inLevel : ∀ e ∈ idleRound, e.InLevel := by decide

theorem idleRound_isSome :
    (exec step ((run zeroed).loadGame 1 fun _ => 0) idleRound).isSome = true := by decide +kernel

/-- All five have survived, and it is said once. -/
theorem scored_once_idleRound :
    ∃ t g, exec step ((run zeroed).loadGame 1 fun _ => 0) idleRound = some t ∧ t.game = some g ∧
      labels step prints ((run zeroed).loadGame 1 fun _ => 0) idleRound = [g.result] ∧
      g.result.score = 5 := by
  obtain ⟨g, hg, hprinted, -⟩ := scored_once zeroed 1 (fun _ => 0) zeroed_run idleRound_inLevel
    (Option.some_get idleRound_isSome).symm
  have hend : (((exec step ((run zeroed).loadGame 1 fun _ => 0) idleRound).get
      idleRound_isSome).game.map fun g => (g.hasFinished, g.result.score)) = some (true, 5) := by
    decide +kernel
  rw [hg] at hend
  obtain ⟨hfinished, hscore⟩ := Prod.mk.inj (Option.some.inj hend)
  rw [if_pos hfinished] at hprinted
  exact ⟨_, g, (Option.some_get idleRound_isSome).symm, hg, hprinted, hscore⟩

end GameServer

end Footscreen
