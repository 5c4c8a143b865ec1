import Footscreen.Game.Correctness.Frames
import Footscreen.Game.Correctness.ServerRuns

/-!
# `Game.Correctness.Restart` — rounds of one game

`load`, `start`, `stop` and `proceed` each set some of the fields that say where a round stands, and none
of them sets all. `Diary` writes down beside a game what has happened to it: the last start, whether a
frame came too late, and the arrivals of this round and of the earlier ones. A round is over when its
units are destroyed, by `load` or by `stop`.

`Diary.Tells` is what the fields are in terms of it. `m_hasFinished` stays set once a frame has come too
late, and `m_lastUnitTime` goes over to the next round, so a game runs again only if neither happened:
`runs_iff` is the exact condition.
-/

namespace Footscreen

open FloatArith Lib

variable {F : Type} [FloatArith F]

/-! ## Arrivals -/

namespace Game

/-- The times at which units arrive in the movement loop, from the `i`-th unit on. -/
def arrivalsFrom (timeDifference durationTimer : F) (clock : Nat → F) : Nat → List (GameUnit F) → List F
  | _, [] => []
  | i, u :: us =>
      if u.arrives timeDifference then
        (clock (3 + i) - durationTimer) :: arrivalsFrom timeDifference durationTimer clock (i + 1) us
      else arrivalsFrom timeDifference durationTimer clock (i + 1) us

/-- The times at which units arrive in a frame, since the last start. -/
def arrivals (g : Game F) (clock : Nat → F) : List F :=
  if g.moves clock then arrivalsFrom (g.timeDifference clock) g.durationTimer clock 0 g.gameUnits else []

/-- The last of the times, or the old one if there is none. -/
theorem moveUnits_lastUnitTime (dt durationTimer : F) (clock : Nat → F) (i : Nat)
    (us : List (GameUnit F)) (last : F) :
    (moveUnits dt durationTimer clock i us last).2 =
      (arrivalsFrom dt durationTimer clock i us).getLast?.getD last := by
  induction us generalizing i last with
  | nil => rfl
  | cons u us ih =>
      unfold moveUnits arrivalsFrom GameUnit.arrives
      dsimp only
      split
      · rw [List.getLast?_cons]
        exact ih (i + 1) _
      · exact ih (i + 1) last

end Game

/-! ## Calls on one game -/

/-- A call on the game. Between the calls the server steers and highlights units. -/
inductive GameCall (F : Type) where
  | load (levelNumber : Int) (clock : Nat → F)
  | start (clock : Nat → F)
  | stop
  | proceed (clock : Nat → F)
  | steer (address : Nat) (acceleration : Vec2 F)
  | highlight (address : Nat) (isHighlighted : Bool)

/-- What has happened to a game. -/
structure Diary (F : Type) where
  /-- the clock at the last start, if there was no stop since -/
  started  : Option F
  /-- a frame came more than 60 seconds after the last start -/
  late     : Bool
  /-- the arrivals of this round -/
  arrivals : List F
  /-- the arrivals of the rounds before -/
  past     : List F

namespace Diary

/-- The round is over. -/
def turn (d : Diary F) : Diary F := { d with arrivals := [], past := d.past ++ d.arrivals }

/-- The entry for a call, on the game as it is before the call. -/
def enter (d : Diary F) (g : Game F) : GameCall F → Diary F
  | .load _ _      => d.turn
  | .start clock   => { d with started := some (clock 0) }
  | .stop          => { d.turn with started := none }
  | .proceed clock =>
      { d with late := d.late || d.started.any fun t => decide (ofInt 60 < clock 2 - t)
               arrivals := d.arrivals ++ g.arrivals clock }
  | .steer _ _ | .highlight _ _ => d

end Diary

namespace GameCall

/-- The call itself. -/
def apply (g : Game F) (c : Context F) : GameCall F → Game F × Context F
  | .load levelNumber clock          => g.load c levelNumber clock
  | .start clock                     => (g.start clock, c)
  | .stop                            => g.stop c
  | .proceed clock                   => ((g.proceed clock).1, c)
  | .steer address acceleration      => (g.modifyUnit address (·.setAcceleration acceleration), c)
  | .highlight address isHighlighted => (g.modifyUnit address (·.setHighlighted isHighlighted), c)

/-- A game with what it shares, and its diary. -/
structure State (F : Type) where
  game    : Game F
  context : Context F
  diary   : Diary F

/-- A new game. -/
def init (c : Context F) (clock : Nat → F) : State F :=
  { game := (Game.new c clock).1, context := (Game.new c clock).2, diary := ⟨none, false, [], []⟩ }

/-- A call is always possible. -/
def step (s : State F) (e : GameCall F) : Option (State F) :=
  some { game := (apply s.game s.context e).1
         context := (apply s.game s.context e).2
         diary := s.diary.enter s.game e }

end GameCall

/-! ## What the fields say -/

namespace Game

/-- The fields that say where a round stands are the same. -/
structure SameRound (g g' : Game F) : Prop where
  hasStarted    : g'.hasStarted = g.hasStarted
  hasFinished   : g'.hasFinished = g.hasFinished
  durationTimer : g'.durationTimer = g.durationTimer
  lastUnitTime  : g'.lastUnitTime = g.lastUnitTime

omit [FloatArith F] in
theorem SameRound.refl (g : Game F) : SameRound g g := ⟨rfl, rfl, rfl, rfl⟩

theorem loadUnits_sameRound {g : Game F} (owner : PlayerID) (isHunting : Bool) (ps : List Point)
    (number : UInt8) (s : Game F × Context F) (h : SameRound g s.1) :
    SameRound g (loadUnits owner isHunting ps number s).1 := by
  induction ps generalizing number s with
  | nil => exact h
  | cons p ps ih => exact ih (number + 1) _ ⟨h.hasStarted, h.hasFinished, h.durationTimer, h.lastUnitTime⟩

theorem loadObstacles_sameRound {g : Game F} (ps : List (Point × Int)) (s : Game F × Context F)
    (h : SameRound g s.1) : SameRound g (loadObstacles ps s).1 := by
  induction ps generalizing s with
  | nil => exact h
  | cons p ps ih => exact ih _ ⟨h.hasStarted, h.hasFinished, h.durationTimer, h.lastUnitTime⟩

/-- A load replaces the units, and leaves the round where it was. -/
theorem load_sameRound (g : Game F) (c : Context F) (levelNumber : Int) (clock : Nat → F) :
    SameRound g (g.load c levelNumber clock).1 := by
  have hunits := loadUnits_sameRound (g := g) (idFirstClient + 1) true
    (level levelNumber).unitPositionsPlayer2 1 _
    (loadUnits_sameRound idFirstClient false (level levelNumber).unitPositionsPlayer1 1 (g.reset c)
      ⟨rfl, rfl, rfl, rfl⟩)
  have h := loadObstacles_sameRound
    ((level levelNumber).obstaclePositions.zip (level levelNumber).obstacleRadii) _ hunits
  exact ⟨h.hasStarted, h.hasFinished, h.durationTimer, h.lastUnitTime⟩

variable {g : Game F} {clock : Nat → F}

theorem proceed_hasStarted : (g.proceed clock).1.hasStarted = g.hasStarted := by
  unfold proceed
  dsimp only
  split
  · rfl
  · split <;> rfl

theorem proceed_durationTimer : (g.proceed clock).1.durationTimer = g.durationTimer := by
  unfold proceed
  dsimp only
  split
  · rfl
  · split <;> rfl

/-- A frame of a round that has started, and is too late, finishes it. -/
theorem proceed_hasFinished :
    (g.proceed clock).1.hasFinished =
      (g.hasFinished || (g.hasStarted && decide (ofInt 60 < clock 2 - g.durationTimer))) := by
  unfold proceed
  dsimp only
  rw [finishes_eq]
  cases hstarted : g.hasStarted with
  | false => simp
  | true =>
      simp only [Bool.not_true, Bool.false_eq_true, if_false, Bool.true_and]
      split <;> rfl

/-- The last arrival of the frame, or the old time. -/
theorem proceed_lastUnitTime :
    (g.proceed clock).1.lastUnitTime = (g.arrivals clock).getLast?.getD g.lastUnitTime := by
  unfold proceed arrivals moves
  dsimp only
  rw [finishes_eq]
  cases hstarted : g.hasStarted with
  | false => rfl
  | true =>
      simp only [Bool.not_true, Bool.false_eq_true, if_false, Bool.true_and]
      cases g.hasFinished || decide (ofInt 60 < clock 2 - g.durationTimer) with
      | true => rfl
      | false => exact moveUnits_lastUnitTime _ _ _ _ _ _

end Game

namespace Diary

/-- The time that the last arrival leaves behind; -1 if no unit has ever arrived. -/
def lastTime (d : Diary F) : F := (d.past ++ d.arrivals).getLast?.getD (-ofInt 1)

/-- What the fields of the game are, after all that has happened. -/
structure Tells (d : Diary F) (g : Game F) : Prop where
  hasStarted    : g.hasStarted = d.started.isSome
  hasFinished   : g.hasFinished = d.late
  durationTimer : ∀ t, d.started = some t → g.durationTimer = t
  lastUnitTime  : g.lastUnitTime = d.lastTime

variable {d : Diary F} {g g' : Game F} {clock : Nat → F}

omit [FloatArith F] in
theorem getLast?_append_getD (xs ys : List F) (x : F) :
    (xs ++ ys).getLast?.getD x = ys.getLast?.getD (xs.getLast?.getD x) := by
  rw [List.getLast?_append]
  cases ys.getLast? <;> rfl

/-- A round that is over leaves its last arrival to the next one. -/
theorem turn_lastTime : d.turn.lastTime = d.lastTime := by
  unfold lastTime turn
  rw [List.append_nil]

theorem Tells.same (h : d.Tells g) (hsame : Game.SameRound g g') : d.Tells g' where
  hasStarted := hsame.hasStarted.trans h.hasStarted
  hasFinished := hsame.hasFinished.trans h.hasFinished
  durationTimer t ht := hsame.durationTimer.trans (h.durationTimer t ht)
  lastUnitTime := hsame.lastUnitTime.trans h.lastUnitTime

/-- A frame comes too late exactly when the diary says so. -/
theorem Tells.late_eq (h : d.Tells g) :
    (g.hasStarted && decide (ofInt 60 < clock 2 - g.durationTimer)) =
      d.started.any fun t => decide (ofInt 60 < clock 2 - t) := by
  rw [h.hasStarted]
  cases hstarted : d.started with
  | none => rfl
  | some t =>
      rw [h.durationTimer t hstarted]
      rfl

/-- **A call** is entered as it happens. -/
theorem Tells.apply (h : d.Tells g) (c : Context F) (e : GameCall F) :
    (d.enter g e).Tells (e.apply g c).1 := by
  cases e with
  | load levelNumber clock =>
      have hsame := h.same (Game.load_sameRound g c levelNumber clock)
      exact ⟨hsame.hasStarted, hsame.hasFinished, hsame.durationTimer,
        hsame.lastUnitTime.trans turn_lastTime.symm⟩
  | start clock =>
      refine ⟨rfl, h.hasFinished, ?_, h.lastUnitTime⟩
      intro t ht
      exact Option.some.inj ht
  | stop =>
      refine ⟨rfl, h.hasFinished, ?_, h.lastUnitTime.trans turn_lastTime.symm⟩
      intro t ht
      cases ht
  | proceed clock =>
      refine ⟨Game.proceed_hasStarted.trans h.hasStarted, ?_, ?_, ?_⟩
      · show (g.proceed clock).1.hasFinished = _
        rw [Game.proceed_hasFinished, h.late_eq, h.hasFinished]
        rfl
      · intro t ht
        exact Game.proceed_durationTimer.trans (h.durationTimer t ht)
      · show (g.proceed clock).1.lastUnitTime = _
        rw [Game.proceed_lastUnitTime, h.lastUnitTime]
        unfold lastTime enter
        rw [← List.append_assoc, getLast?_append_getD (d.past ++ d.arrivals)]
  | steer address acceleration => exact h.same ⟨rfl, rfl, rfl, rfl⟩
  | highlight address isHighlighted => exact h.same ⟨rfl, rfl, rfl, rfl⟩

end Diary

/-- **Runs.** -/
theorem GameCall.run_tells {c : Context F} {clock : Nat → F} {es : List (GameCall F)}
    {s : GameCall.State F}
    (h : exec GameCall.step (GameCall.init c clock) es = some s) : s.diary.Tells s.game := by
  refine exec_invariant (I := fun s => s.diary.Tells s.game) ?_ ?_ h
  · intro s e s' hs hstep
    cases hstep
    exact hs.apply s.context e
  · refine ⟨rfl, rfl, ?_, rfl⟩
    intro t ht
    cases ht

/-! ## Rounds that run -/

namespace GameCall.State

/-- The frame runs the round: it comes to its loops, and the time it leaves is -1 or that of an arrival of
    this round. -/
def Runs (s : GameCall.State F) (clock : Nat → F) : Prop :=
  s.game.moves clock = true ∧
    ((s.game.proceed clock).1.hasStarted = true ∧ (s.game.proceed clock).1.hasFinished = false) ∧
    ((s.game.proceed clock).1.lastUnitTime = -ofInt 1 ∨
      (s.game.proceed clock).1.lastUnitTime ∈ (s.diary.enter s.game (.proceed clock)).arrivals)

instance [DecidableEq F] (s : GameCall.State F) (clock : Nat → F) : Decidable (s.Runs clock) :=
  inferInstanceAs (Decidable (_ ∧ _))

end GameCall.State

/-- The time in the diary is -1 or of this round unless the last arrival belongs to an earlier one. -/
theorem Diary.lastTime_iff {d : Diary F} :
    (d.lastTime = -ofInt 1 ∨ d.lastTime ∈ d.arrivals) ↔
      (∀ x ∈ d.past.getLast?, x = -ofInt 1) ∨ d.arrivals ≠ [] := by
  unfold Diary.lastTime
  rw [getLast?_append_getD]
  cases hlast : d.arrivals.getLast? with
  | none =>
      obtain harrivals : d.arrivals = [] := List.getLast?_eq_none_iff.mp hlast
      rw [harrivals]
      cases d.past.getLast? <;> simp
  | some x =>
      have hmem : x ∈ d.arrivals := List.mem_of_getLast? hlast
      exact ⟨fun _ => Or.inr (List.ne_nil_of_mem hmem), fun _ => Or.inr hmem⟩

theorem Game.arrivalsFrom_eq_nil {dt durationTimer : F} {clock : Nat → F} {i : Nat}
    {us : List (GameUnit F)} :
    Game.arrivalsFrom dt durationTimer clock i us = [] ↔ ∀ u ∈ us, u.arrives dt = false := by
  induction us generalizing i with
  | nil => simp [Game.arrivalsFrom]
  | cons u us ih =>
      unfold Game.arrivalsFrom
      rw [List.forall_mem_cons, ← ih (i := i + 1)]
      cases u.arrives dt <;> simp

/-- **A started game runs exactly** when no frame has come too late since it was created, and the time of
    the last arrival does not come from an earlier round. -/
theorem GameCall.runs_iff {c : Context F} {clock₀ : Nat → F} {es : List (GameCall F)}
    {s : GameCall.State F} (h : exec GameCall.step (GameCall.init c clock₀) es = some s) {t : F}
    (hstarted : s.diary.started = some t)
    {clock : Nat → F} (htime : ¬ ofInt 60 < clock 2 - t) :
    s.Runs clock ↔
      s.diary.late = false ∧
        ((∀ x ∈ s.diary.past.getLast?, x = -ofInt 1) ∨ s.diary.arrivals ≠ [] ∨
          ∃ u ∈ s.game.gameUnits, u.arrives (s.game.timeDifference clock) = true) := by
  have htells := GameCall.run_tells h
  have hnext := htells.apply s.context (.proceed clock)
  have hmoves : s.game.moves clock = !s.diary.late := by
    unfold Game.moves
    rw [htells.hasStarted, htells.hasFinished, htells.durationTimer t hstarted, hstarted,
      decide_eq_false htime]
    simp
  have hstill : (s.diary.enter s.game (.proceed clock)).late = s.diary.late := by
    show (s.diary.late || _) = _
    rw [hstarted]
    simp [htime]
  have hlast : (s.game.proceed clock).1.lastUnitTime =
      (s.diary.enter s.game (.proceed clock)).lastTime := hnext.lastUnitTime
  have htime_iff : ∀ hlate : s.diary.late = false,
      ((s.game.proceed clock).1.lastUnitTime = -ofInt 1 ∨
        (s.game.proceed clock).1.lastUnitTime ∈ (s.diary.enter s.game (.proceed clock)).arrivals) ↔
      ((∀ x ∈ s.diary.past.getLast?, x = -ofInt 1) ∨ s.diary.arrivals ≠ [] ∨
        ∃ u ∈ s.game.gameUnits, u.arrives (s.game.timeDifference clock) = true) := by
    intro hlate
    rw [hlast, Diary.lastTime_iff]
    apply or_congr Iff.rfl
    show s.diary.arrivals ++ s.game.arrivals clock ≠ [] ↔ _
    unfold Game.arrivals
    rw [hmoves, hlate, Bool.not_false, if_pos rfl, Ne, List.append_eq_nil_iff,
      Game.arrivalsFrom_eq_nil, Classical.not_and_iff_not_or_not]
    simp
  constructor
  · rintro ⟨hruns, _, hround⟩
    have hlate : s.diary.late = false := by rwa [hmoves, Bool.not_eq_true'] at hruns
    exact ⟨hlate, (htime_iff hlate).mp hround⟩
  · rintro ⟨hlate, hround⟩
    refine ⟨?_, ⟨?_, hnext.hasFinished.trans (hstill.trans hlate)⟩, (htime_iff hlate).mpr hround⟩
    · rw [hmoves, hlate]
      rfl
    · refine hnext.hasStarted.trans ?_
      show s.diary.started.isSome = true
      rw [hstarted]
      rfl

/-- A level is loaded and started, and a unit arrives. -/
def arrivedCalls : List (GameCall Int) :=
  [.load 1 fun _ => 0, .start fun _ => 0, .steer 1 ⟨0, 1⟩, .proceed fun _ => 20]

/-- A game of a new server, after these calls. -/
def afterCalls (es : List (GameCall Int)) : Option (GameCall.State Int) :=
  exec GameCall.step (GameCall.init (GameServer.run GameServer.zeroed).context fun _ => 0) es

theorem GameCall.runs_arrivedCalls :
    ∃ s, afterCalls arrivedCalls = some s ∧ s.diary.arrivals = [20] ∧ s.Runs fun _ => 21 := by
  have hrun : exec GameCall.step (GameCall.init (GameServer.run GameServer.zeroed).context fun _ => 0)
      arrivedCalls = some ((afterCalls arrivedCalls).get rfl) := rfl
  refine ⟨_, hrun, by decide +kernel, ?_⟩
  refine (GameCall.runs_iff hrun (t := 0) (by decide +kernel) (by decide)).mpr ⟨by decide +kernel, ?_⟩
  exact Or.inr (Or.inl (by decide +kernel))

/-- **A round that does not run.** The first round was over when its last frame came; the game is loaded
    and started again, and stands still. -/
theorem GameCall.restarted_still :
    ∃ s ∈ afterCalls [.load 1 fun _ => 0, .start fun _ => 0, .proceed fun _ => 61,
        .load 1 fun _ => 62, .start fun _ => 62],
      s.diary.started = some 62 ∧ ¬ ofInt 60 < (63 : Int) - 62 ∧ s.game.moves (fun _ => 63) = false ∧
        ¬ s.Runs fun _ => 63 := by
  decide +kernel

/-- The next round runs, and leaves the time of the first one's arrival. -/
example :
    ∃ s ∈ afterCalls (arrivedCalls ++ [.load 1 fun _ => 30, .start fun _ => 30]),
      s.game.moves (fun _ => 31) = true ∧ (s.game.proceed fun _ => 31).1.lastUnitTime = 20 := by
  decide +kernel

end Footscreen
