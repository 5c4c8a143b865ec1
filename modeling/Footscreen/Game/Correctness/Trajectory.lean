import Footscreen.Game.Correctness.Catching
import Footscreen.Game.Correctness.Obedience

/-!
# `Game.Correctness.Trajectory` — each unit goes its own way

A frame goes over all units, and yet units do not push, slow or turn each other: the one thing that happens
between two of them is that the fleeing one dies. `drive` is a unit by itself among the obstacles, driven by
requests and frames. What drives it follows from the calls alone, through the times of the round and the
players (`Round`). `Ready.passes` is what one call does, `unit_trajectory` follows a unit through a level,
and `motion_isolated` compares two levels that differ in what other players ask for.
-/

namespace Footscreen

open FloatArith Lib

variable {F : Type} [FloatArith F]

/-! ## One unit -/

/-- What drives a unit: a request for it, or a frame of some duration. -/
inductive Drive (F : Type) where
  | ask (r : Controls.Request F)
  | frame (timeDifference : F)

namespace GameUnit

variable {os : List (GameObstacle F)} {u v w : GameUnit F} {ds : List (Drive F)}

/-- A unit by itself, among obstacles. -/
def drive (os : List (GameObstacle F)) (u : GameUnit F) : Drive F → GameUnit F
  | .ask r    => r.change u
  | .frame dt => Game.separateUnit os (u.advance dt)

theorem drive_kept (os : List (GameObstacle F)) (u : GameUnit F) (d : Drive F) :
    (u.drive os d).isHunting = u.isHunting ∧ (u.drive os d).isLiving = u.isLiving := by
  cases d with
  | ask r => cases r <;> exact ⟨rfl, rfl⟩
  | frame dt =>
      obtain ⟨hhunting, hliving⟩ := advance_kept u dt
      have hsame := separateUnit_sameStatus os (u.advance dt)
      exact ⟨hsame.isHunting.trans hhunting, hsame.isLiving.trans hliving⟩

theorem foldl_drive_kept (os : List (GameObstacle F)) (ds : List (Drive F)) (u : GameUnit F) :
    (ds.foldl (drive os) u).isHunting = u.isHunting ∧ (ds.foldl (drive os) u).isLiving = u.isLiving := by
  induction ds generalizing u with
  | nil => exact ⟨rfl, rfl⟩
  | cons d ds ih =>
      obtain ⟨hhunting, hliving⟩ := ih (u.drive os d)
      obtain ⟨hhunting', hliving'⟩ := drive_kept os u d
      exact ⟨hhunting.trans hhunting', hliving.trans hliving'⟩

omit [FloatArith F] in
theorem setLiving_of_dead (h : u.isLiving = false) : u.setLiving false = u := by
  rw [← h]
  exact setLiving_self u

/-- What a call makes of a unit that it drives like this: the unit goes on, or dies in the frame if it is a
    fleeing one. -/
def Goes (os : List (GameObstacle F)) (ds : List (Drive F)) (u v : GameUnit F) : Prop :=
  v = ds.foldl (drive os) u ∨
    ∃ dt, ds = [.frame dt] ∧ u.isHunting = false ∧ v = (u.drive os (.frame dt)).setLiving false

/-- What many calls make of a unit: it has gone on all the way, or it is a fleeing one that died in one of
    the frames, and it has gone on as a dead one from there. -/
inductive Driven (os : List (GameObstacle F)) (ds : List (Drive F)) (u v : GameUnit F) : Prop where
  | living (hliving : v.isLiving = true) (heq : v = ds.foldl (drive os) u)
  | killed (hfleeing : u.isHunting = false) (hliving : v.isLiving = false) (ds₁ ds₂ : List (Drive F))
      (dt : F) (hds : ds = ds₁ ++ .frame dt :: ds₂)
      (heq : v = ds₂.foldl (drive os) (((ds₁.foldl (drive os) u).drive os (.frame dt)).setLiving false))

theorem Driven.isHunting (h : Driven os ds u v) : v.isHunting = u.isHunting := by
  cases h with
  | living _ heq =>
      rw [heq]
      exact (foldl_drive_kept os ds u).1
  | killed _ _ ds₁ ds₂ dt _ heq =>
      rw [heq]
      refine (foldl_drive_kept os ds₂ _).1.trans ?_
      exact (drive_kept os _ (.frame dt)).1.trans (foldl_drive_kept os ds₁ u).1

/-- One more call. -/
theorem Driven.goes {es : List (Drive F)} (h : Driven os ds u v) (hgoes : Goes os es v w) :
    Driven os (ds ++ es) u w := by
  have hhunting := h.isHunting
  cases h with
  | living hliving heq =>
      rcases hgoes with rfl | ⟨dt, rfl, hfleeing, rfl⟩
      · refine .living ((foldl_drive_kept os es v).2.trans hliving) ?_
        rw [List.foldl_append, ← heq]
      · refine .killed (hhunting.symm.trans hfleeing) rfl ds [] dt rfl ?_
        rw [← heq]
        rfl
  | killed hfleeing hliving ds₁ ds₂ dt hds heq =>
      -- who is dead cannot die again
      have hon : w = es.foldl (drive os) v := by
        rcases hgoes with h | ⟨dt', rfl, -, rfl⟩
        · exact h
        · exact setLiving_of_dead ((drive_kept os v (.frame dt')).2.trans hliving)
      refine .killed hfleeing ?_ ds₁ (ds₂ ++ es) dt ?_ ?_
      · rw [hon]
        exact (foldl_drive_kept os es v).2.trans hliving
      · rw [hds, List.append_assoc, List.cons_append]
      · rw [hon, heq, List.foldl_append]

/-- Two units that started as one and went the same way are one, unless one of them has died. -/
theorem Driven.unique (h : Driven os ds u v) (h' : Driven os ds u w)
    (hliving : u.isHunting = true ∨ v.isLiving = true ∧ w.isLiving = true) : v = w := by
  have hway : ∀ {x}, Driven os ds u x → u.isHunting = true ∨ x.isLiving = true →
      x = ds.foldl (drive os) u := by
    intro x hx hlives
    cases hx with
    | living _ heq => exact heq
    | killed hfleeing hdead _ _ _ _ _ =>
        rcases hlives with hlives | hlives
        · cases hlives.symm.trans hfleeing
        · cases hlives.symm.trans hdead
  exact (hway h (hliving.imp_right And.left)).trans (hway h' (hliving.imp_right And.right)).symm

end GameUnit

/-! ## The times of a round, and its players -/

/-- The part of the server's state that says what drives a unit. -/
structure Round (F : Type) where
  players       : SessionID → Option PlayerID
  nextPlayerID  : PlayerID
  hasStarted    : Bool
  hasFinished   : Bool
  timer         : F
  durationTimer : F

namespace Round

variable {r r' : Round F} {e : GameServer.Event F} {es : List (GameServer.Event F)} {p : PlayerID}

/-- The round's time is up. -/
def isOver (r : Round F) (clock : Nat → F) : Bool := decide (ofInt 60 < clock 2 - r.durationTimer)

def step (r : Round F) : GameServer.Event F → Option (Round F)
  | .loadGame _ clock => some { r with
      hasStarted := false, hasFinished := false, timer := clock 2, durationTimer := clock 1 }
  | .startGame clock => some { r with hasStarted := true, durationTimer := clock 0 }
  | .proceed clock => some { r with
      timer := clock 1, hasFinished := r.hasFinished || (r.hasStarted && r.isOver clock) }
  | .handleSessionAccepted session => some { r with
      players := fun t => if t = session then r.players t <|> some r.nextPlayerID else r.players t
      nextPlayerID := r.nextPlayerID + 1 }
  | _ => some r

/-- What a call drives a player's unit with. -/
def drives (p : PlayerID) (i : UInt8) (r : Round F) : GameServer.Event F → List (Drive F)
  | .proceed clock =>
      if r.hasStarted && !(r.hasFinished || r.isOver clock) then [.frame (clock 0 - r.timer)] else []
  | .handleMessageReceived session m =>
      m.request.elim [] fun request =>
        if r.players session = some p ∧ request.unitIndex = i then [.ask request] else []
  | _ => []

theorem drives_request {session : SessionID} {m : GameMessage F} {request : Controls.Request F}
    (hr : m.request = some request) (hp : r.players session = some p) (q : PlayerID) (i : UInt8) :
    r.drives q i (.handleMessageReceived session m) =
      if p = q ∧ request.unitIndex = i then [.ask request] else [] := by
  show m.request.elim [] _ = _
  rw [hr]
  simp only [Option.elim_some, hp, Option.some.injEq]

/-- A session keeps its player. -/
theorem players_step {session : SessionID} (hp : r.players session = some p) (h : r.step e = some r') :
    r'.players session = some p := by
  unfold step at h
  split at h
  all_goals
    obtain rfl := Option.some.inj h
    try exact hp
  dsimp only
  rw [hp]
  split <;> rfl

theorem players_run {session : SessionID} (hp : r.players session = some p)
    (h : exec step r es = some r') : r'.players session = some p :=
  exec_invariant (I := fun r => r.players session = some p) (fun hp hstep => players_step hp hstep) hp h

end Round

/-- The call is no message, or one of these sessions. -/
def GameServer.Event.concerns (S : SessionID → Bool) : GameServer.Event F → Bool
  | .handleMessageReceived session _ => S session
  | _                                => true

namespace Round

variable {S : SessionID → Bool} {r r' : Round F} {e : GameServer.Event F}
  {es : List (GameServer.Event F)} {p : PlayerID}

/-- A message of another session changes nothing in the round. -/
theorem step_unconcerned (h : e.concerns S = false) :
    r.step e = some r ∧ ∃ session m, e = .handleMessageReceived session m ∧ S session = false := by
  cases e with
  | handleMessageReceived session m => exact ⟨rfl, session, m, rfl, h⟩
  | _                               => cases h

/-- The round is the same without them. -/
theorem exec_concerns (h : exec step r es = some r') :
    exec step r (es.filter (·.concerns S)) = some r' := by
  induction es generalizing r with
  | nil => exact h
  | cons e es ih =>
      obtain ⟨r₁, hstep, hrun⟩ := Option.bind_eq_some_iff.mp h
      cases hconcerns : e.concerns S with
      | true =>
          rw [List.filter_cons, if_pos hconcerns, exec_cons, hstep]
          exact ih hrun
      | false =>
          obtain ⟨hstep', -⟩ := step_unconcerned (r := r) hconcerns
          obtain rfl := Option.some.inj (hstep'.symm.trans hstep)
          rw [List.filter_cons, if_neg (ne_true_of_eq_false hconcerns)]
          exact ih hrun

/-- What drives a player's units depends on the messages of the player's own sessions only. -/
theorem labels_concerns (i : UInt8) (h : exec step r es = some r')
    (hS : ∀ session, r'.players session = some p → S session = true) :
    labels step (drives p i) r (es.filter (·.concerns S)) = labels step (drives p i) r es := by
  induction es generalizing r with
  | nil => rfl
  | cons e es ih =>
      obtain ⟨r₁, hstep, hrun⟩ := Option.bind_eq_some_iff.mp h
      have hrest := ih hrun
      cases hconcerns : e.concerns S with
      | true =>
          rw [List.filter_cons, if_pos hconcerns, labels, labels, hstep]
          exact congrArg (drives p i r e ++ ·) hrest
      | false =>
          obtain ⟨hstep', session, m, rfl, hother⟩ := step_unconcerned (r := r) hconcerns
          obtain rfl := Option.some.inj (hstep'.symm.trans hstep)
          -- the session is another player's to the end
          have hno : drives p i r (.handleMessageReceived session m) = [] := by
            show m.request.elim [] _ = []
            cases m.request with
            | none => rfl
            | some request =>
                refine if_neg fun hthis => ?_
                rw [hS session (players_run hthis.1 hrun)] at hother
                cases hother
          rw [List.filter_cons, if_neg (ne_true_of_eq_false hconcerns), labels, hstep', hno]
          exact hrest

end Round

/-! ## The server -/

namespace GameServer

variable {s s' t t' : GameServer F} {g g' : Game F} {e : Event F} {past events events' : List (Event F)}
  {session : SessionID} {m : GameMessage F}

/-- The call is part of a level: no load, and no message of the game itself. -/
def Event.InLevel : Event F → Prop
  | .loadGame ..               => False
  | .handleMessageReceived _ m => ¬ GameType m.contentType
  | _                          => True

instance (e : Event F) : Decidable e.InLevel :=
  match e with
  | .loadGame _ _ => inferInstanceAs (Decidable False)
  | .handleMessageReceived _ m =>
      inferInstanceAs (Decidable (¬ (m.contentType = _ ∨ m.contentType = _ ∨ m.contentType = _)))
  | .startGame _ | .proceed _ | .synchronize | .handleSessionAccepted _ => inferInstanceAs (Decidable True)

/-- The round that the server plays its game in. -/
def round (s : GameServer F) (g : Game F) : Round F where
  players session := (s.playerProfileBySession session).map (·.playerID)
  nextPlayerID    := s.nextPlayerID
  hasStarted      := g.hasStarted
  hasFinished     := g.hasFinished
  timer           := g.timer
  durationTimer   := g.durationTimer

/-- What drives the unit at a player's index through calls of the server. -/
def drivesSince (s : GameServer F) (g : Game F) (events : List (Event F)) (p : PlayerID) (i : UInt8) :
    List (Drive F) :=
  labels Round.step (Round.drives p i) (s.round g) events

theorem drivesSince_snoc (h : exec Round.step (s.round g) events = some (t.round g')) (e : Event F)
    (p : PlayerID) (i : UInt8) : s.drivesSince g (events ++ [e]) p i =
      s.drivesSince g events p i ++ (t.round g').drives p i e :=
  labels_snoc e h

/-- What a call makes of the game. -/
structure Passes (s : GameServer F) (g : Game F) (e : Event F) (s' : GameServer F) (g' : Game F) : Prop where
  game        : s'.game = some g'
  ownPlayerID : g'.ownPlayerID = idNone
  obstacles   : g'.gameObstacles = g.gameObstacles
  round       : (s.round g).step e = some (s'.round g')
  units       : ∀ p (i : UInt8) v, (g'.unitsOf p)[i.toNat]? = some v →
    ∃ u, (g.unitsOf p)[i.toNat]? = some u ∧
      GameUnit.Goes g.gameObstacles ((s.round g).drives p i e) u v

/-- A call that leaves the game alone. -/
theorem passes_of_game (hg : s'.game = some g) (hown : g.ownPlayerID = idNone)
    (hround : (s.round g).step e = some (s'.round g)) (hdrives : ∀ p i, (s.round g).drives p i e = []) :
    s.Passes g e s' g := by
  refine ⟨hg, hown, rfl, hround, ?_⟩
  intro p i v hv
  rw [hdrives p i]
  exact ⟨v, hv, Or.inl rfl⟩

theorem proceed_round (s : GameServer F) (g : Game F) (clock : Nat → F) :
    (s.round g).step (.proceed clock) = some ((s.proceed clock).round (g.proceed clock).1) := by
  unfold Round.step round Round.isOver Game.proceed
  dsimp only
  rw [Game.finishes_eq]
  cases hstarted : g.hasStarted with
  | false =>
      rw [Bool.false_and, Bool.or_false]
      rfl
  | true =>
      rw [Bool.true_and]
      simp only [Bool.not_true, Bool.false_eq_true, if_false]
      split <;> simp_all [GameServer.proceed, playerProfileBySession]

/-- A frame drives every unit by its time, if it moves. -/
theorem proceed_passes (hg : s.game = some g) (hown : g.ownPlayerID = idNone) (clock : Nat → F) :
    s.Passes g (.proceed clock) (s.proceed clock) (g.proceed clock).1 := by
  refine ⟨?_, (Game.proceed_keeps clock g).2.2.2.trans hown, Game.proceed_obstacles,
    proceed_round s g clock, ?_⟩
  · show s.game.map _ = _
    rw [hg]
    rfl
  intro p i v hv
  have hmoves : (s.round g).drives p i (.proceed clock) =
      if g.moves clock then [.frame (g.timeDifference clock)] else [] := rfl
  rw [hmoves]
  split
  · next hmoves =>
      obtain ⟨u, hu, hframe⟩ := Game.unitsOf_related (fun _ _ h => (GameUnit.Frame.sameControls h).owner)
        (Game.proceed_frame hmoves) hv
      refine ⟨u, hu, ?_⟩
      rcases hframe with rfl | ⟨hfleeing, rfl⟩
      · exact Or.inl rfl
      · exact Or.inr ⟨_, rfl, (GameUnit.drive_kept _ u (.frame _)).1.symm.trans hfleeing, rfl⟩
  · next hmoves =>
      have hunits := Game.proceed_still (eq_false_of_ne_true hmoves)
      refine ⟨v, ?_, Or.inl rfl⟩
      unfold Game.unitsOf at hv ⊢
      rw [hunits] at hv
      exact hv

omit [FloatArith F] in
theorem changeUnit_round {index : UInt8} {f : GameUnit F → GameUnit F} (hg : s.game = some g)
    (h : s.changeUnit session index f = { s with game := some g' }) :
    g'.gameObstacles = g.gameObstacles ∧ (s.changeUnit session index f).round g' = s.round g := by
  rcases changeUnit_cases s session index f with heq | ⟨_, g₁, _, _, hg₁, _, _, heq⟩
  · have hgame := congrArg GameServer.game (heq.symm.trans h)
    obtain rfl : g = g' := Option.some.inj (hg.symm.trans hgame)
    rw [heq]
    exact ⟨rfl, rfl⟩
  · obtain rfl : g = g₁ := Option.some.inj (hg.symm.trans hg₁)
    have hgame := congrArg GameServer.game (heq.symm.trans h)
    obtain rfl := Option.some.inj hgame
    rw [heq]
    exact ⟨rfl, rfl⟩

/-- A message that is none of the game's own is ignored, or its request changes one unit. -/
theorem Ready.receive_cases (h : s.Ready) (hg : s.game = some g) (hown : g.ownPlayerID = idNone)
    (ht : ¬ GameType m.contentType) {p : PlayerProfile} (hp : s.playerProfileBySession session = some p)
    (hstep : s.handleMessageReceived session m = some s') :
    (m.request = none ∧ ∃ closed, s' = { s with closed := closed }) ∨
      ∃ r, m.request = some r ∧ s' = s.changeUnit session r.unitIndex r.change := by
  cases hr : m.request with
  | none =>
      obtain ⟨closed, heq⟩ := h.receive_ignored session ht (requestsOf_no_request hr)
      exact Or.inl ⟨rfl, closed, Option.some.inj (hstep.symm.trans heq)⟩
  | some r =>
      obtain ⟨hm, hid, hchange⟩ := changeOf_request hr
      obtain ⟨hnone, -⟩ | ⟨g₁, dead, es, hserving⟩ := h
      · cases hnone.symm.trans hg
      obtain rfl : g = g₁ := Option.some.inj (hg.symm.trans hserving.game)
      rw [Attending.receive ⟨hserving, hown, hp⟩ hm hid, hchange] at hstep
      exact Or.inr ⟨r, rfl, (Option.some.inj hstep).symm⟩

/-- A message drives the unit that its request is for. -/
theorem Ready.receive_passes (h : s.Ready) (hg : s.game = some g) (hown : g.ownPlayerID = idNone)
    (ht : ¬ GameType m.contentType) {p : PlayerProfile} (hp : s.playerProfileBySession session = some p)
    (hstep : s.handleMessageReceived session m = some s') :
    ∃ g', s.Passes g (.handleMessageReceived session m) s' g' := by
  rcases h.receive_cases hg hown ht hp hstep with ⟨hr, closed, rfl⟩ | ⟨r, hr, rfl⟩
  · refine ⟨g, passes_of_game hg hown rfl fun p i => ?_⟩
    show m.request.elim [] _ = []
    rw [hr]
    rfl
  · obtain ⟨g', heq, hown', hunits⟩ :=
      h.changeUnit_unitsOf r.unitIndex hg hown hp (change_identity r)
    obtain ⟨hobstacles, hround⟩ := changeUnit_round hg heq
    refine ⟨g', congrArg GameServer.game heq, hown', hobstacles, congrArg some hround.symm, ?_⟩
    intro q i v hv
    have hplayer : (s.round g).players session = some p.playerID := congrArg (Option.map _) hp
    rw [Round.drives_request hr hplayer]
    rw [hunits q] at hv
    split
    · next hthis =>
        obtain ⟨rfl, rfl⟩ := hthis
        rw [if_pos rfl, List.getElem?_modify_eq] at hv
        obtain ⟨u, hu, rfl⟩ := Option.map_eq_some_iff.mp hv
        exact ⟨u, hu, Or.inl rfl⟩
    · next hother =>
        refine ⟨v, ?_, Or.inl rfl⟩
        split at hv
        · next hq =>
            have hi : r.unitIndex.toNat ≠ i.toNat := fun hi =>
              hother ⟨hq.symm, UInt8.toNat_inj.mp hi⟩
            rw [List.getElem?_modify_ne _ _ hi] at hv
            rw [hq]
            exact hv
        · exact hv

/-- **One call** in a level. -/
theorem Ready.passes (h : s.Ready) (hg : s.game = some g) (hown : g.ownPlayerID = idNone)
    (he : e.InLevel) (hstep : s.step e = some s') : ∃ g', s.Passes g e s' g' := by
  cases e with
  | loadGame levelNumber clock => exact he.elim
  | startGame clock =>
      cases hstep
      refine ⟨g.start clock, ?_, hown, rfl, rfl, fun p i v hv => ⟨v, hv, Or.inl rfl⟩⟩
      show s.game.map _ = _
      rw [hg]
      rfl
  | proceed clock =>
      cases hstep
      exact ⟨_, proceed_passes hg hown clock⟩
  | synchronize =>
      obtain ⟨_, _, rfl⟩ := synchronize_inv hstep
      exact ⟨g, passes_of_game hg hown rfl fun _ _ => rfl⟩
  | handleSessionAccepted session =>
      obtain ⟨g₁, q, hg₁, rfl⟩ := handleSessionAccepted_inv hstep
      refine ⟨g, passes_of_game hg hown ?_ fun _ _ => rfl⟩
      unfold Round.step round
      dsimp only
      congr 2
      funext t
      have hprofile := playerProfileBySession_addProfile s session t
      show _ = ((s.addProfile session).playerProfileBySession t).map _
      rw [hprofile]
      split
      · cases s.playerProfileBySession t <;> rfl
      · rfl
  | handleMessageReceived session m =>
      have hsome : (if (s.playerProfileBySession session).isSome
        then s.handleMessageReceived session m else none) = some s' := hstep
      split at hsome
      · next hp =>
          obtain ⟨p, hp⟩ := Option.isSome_iff_exists.mp hp
          exact h.receive_passes hg hown he hp hsome
      · cases hsome

/-! ## A level -/

/-- What many calls make of the game. -/
structure Follows (s : GameServer F) (g : Game F) (events : List (Event F)) (t : GameServer F)
    (g' : Game F) : Prop where
  ready       : t.Ready
  game        : t.game = some g'
  ownPlayerID : g'.ownPlayerID = idNone
  obstacles   : g'.gameObstacles = g.gameObstacles
  round       : exec Round.step (s.round g) events = some (t.round g')
  units       : ∀ p (i : UInt8) v, (g'.unitsOf p)[i.toNat]? = some v →
    ∃ u, (g.unitsOf p)[i.toNat]? = some u ∧
      GameUnit.Driven g.gameObstacles (s.drivesSince g events p i) u v

theorem Follows.passes (h : s.Follows g events t g') {g'' : Game F} (hpasses : t.Passes g' e s' g'')
    (hready : s'.Ready) : s.Follows g (events ++ [e]) s' g'' := by
  refine ⟨hready, hpasses.game, hpasses.ownPlayerID,
    hpasses.obstacles.trans h.obstacles, exec_snoc.mpr ⟨_, h.round, hpasses.round⟩, ?_⟩
  intro p i w hw
  obtain ⟨v, hv, hgoes⟩ := hpasses.units p i w hw
  obtain ⟨u, hu, hdriven⟩ := h.units p i v hv
  rw [h.obstacles] at hgoes
  rw [drivesSince_snoc h.round]
  exact ⟨u, hu, hdriven.goes hgoes⟩

/-- A load begins a level. -/
theorem Ready.follows_load (h : s.Ready) (levelNumber : Int) (clock : Nat → F) :
    ∃ g, (s.loadGame levelNumber clock).game = some g ∧ g.ownPlayerID = idNone ∧
      (∀ u ∈ g.gameUnits, Game.Stationed (Game.level levelNumber) u) ∧
      (s.loadGame levelNumber clock).Follows g [] (s.loadGame levelNumber clock) g := by
  obtain ⟨g, hreloaded⟩ := h.loadGame levelNumber clock
  obtain ⟨dead, es, hserving⟩ := hreloaded.serving
  obtain ⟨g₁, hg₁, hstationed, -⟩ := loadGame_stationed s levelNumber clock
  obtain rfl : g = g₁ := Option.some.inj (hserving.game.symm.trans hg₁)
  refine ⟨g, hserving.game, hreloaded.ownPlayerID, hstationed,
    Or.inr ⟨g, dead, es, hserving⟩, hserving.game, hreloaded.ownPlayerID, rfl, rfl, ?_⟩
  intro p i v hv
  obtain ⟨hmem, -⟩ := List.mem_filter.mp (List.mem_of_getElem? hv)
  exact ⟨v, hv, .living (hstationed v hmem).isLiving rfl⟩

/-- A level, from its load. -/
theorem Ready.follows (h : s.Ready) (levelNumber : Int) (clock : Nat → F)
    (hlevel : ∀ e ∈ events, e.InLevel)
    (hevents : exec step (s.loadGame levelNumber clock) events = some t) :
    ∃ g g', (s.loadGame levelNumber clock).game = some g ∧ g.ownPlayerID = idNone ∧
      (∀ u ∈ g.gameUnits, Game.Stationed (Game.level levelNumber) u) ∧
      (s.loadGame levelNumber clock).Follows g events t g' := by
  obtain ⟨g, hg, hown, hstationed, hstart⟩ := h.follows_load levelNumber clock
  have hlast : ∃ g', (s.loadGame levelNumber clock).Follows g events t g' := by
    refine exec_history (P := fun events t => ∃ g', (s.loadGame levelNumber clock).Follows g events t g')
      ⟨g, hstart⟩ ?_ (guarded_of_mem fun e he _ => hlevel e he) hevents
    rintro events t e s' _ he ⟨g', hfollows⟩ hstep
    obtain ⟨g'', hpasses⟩ := hfollows.ready.passes hfollows.game hfollows.ownPlayerID he hstep
    exact ⟨g'', hfollows.passes hpasses (ready_step hfollows.ready hstep)⟩
  obtain ⟨g', hfollows⟩ := hlast
  exact ⟨g, g', hg, hown, hstationed, hfollows⟩

/-- **Each unit goes its own way.** In any level, and whatever its players do, each unit that a player's index
    leads to is where the requests for it and the round's frames have driven it from its station, by itself
    among the obstacles; only a fleeing one can have died in a frame, and it then goes on as a dead one. -/
theorem unit_trajectory (unset : Nat → Unset F) (levelNumber : Int) (clock : Nat → F)
    (hpast : exec step (run unset) past = some s) (hlevel : ∀ e ∈ events, e.InLevel)
    (hevents : exec step (s.loadGame levelNumber clock) events = some t) :
    ∃ g g', (s.loadGame levelNumber clock).game = some g ∧ t.game = some g' ∧
      ∀ p i v, g'.unitByIndex p i = some v →
        ∃ u, g.unitByIndex p i = some u ∧ Game.Stationed (Game.level levelNumber) u ∧
          GameUnit.Driven g.gameObstacles ((s.loadGame levelNumber clock).drivesSince g events p i) u v := by
  obtain ⟨g, g', hg, hown, hstationed, hfollows⟩ :=
    (ready_run unset hpast).follows levelNumber clock hlevel hevents
  refine ⟨g, g', hg, hfollows.game, ?_⟩
  intro p i v hv
  rw [Game.unitByIndex_of_own (Or.inl hfollows.ownPlayerID)] at hv
  obtain ⟨u, hu, hdriven⟩ := hfollows.units p i v hv
  obtain ⟨hmem, -⟩ := List.mem_filter.mp (List.mem_of_getElem? hu)
  rw [Game.unitByIndex_of_own (Or.inl hown)]
  exact ⟨u, hu, hstationed u hmem, hdriven⟩

theorem zeroed_run : exec step (run zeroed) [] = some (run zeroed) := rfl

/-- A level in which the first player steers a unit. -/
def steeredLevel : List (Event Int) :=
  [.handleSessionAccepted 7, .handleSessionAccepted 8,
   .handleMessageReceived 7 ⟨messageIDEvent, .moveRequest ⟨1, 0, 1⟩, none⟩,
   .startGame fun _ => 0, .proceed fun _ => 1]

theorem steeredLevel_inLevel : ∀ e ∈ steeredLevel, e.InLevel := by decide

theorem steeredLevel_isSome :
    (exec step ((run zeroed).loadGame 1 fun _ => 0) steeredLevel).isSome = true := by decide +kernel

theorem unit_trajectory_steeredLevel :
    ∃ t g g' u v, exec step ((run zeroed).loadGame 1 fun _ => 0) steeredLevel = some t ∧
      ((run zeroed).loadGame 1 fun _ => 0).game = some g ∧ t.game = some g' ∧
      g.unitByIndex idFirstClient 1 = some u ∧ g'.unitByIndex idFirstClient 1 = some v ∧
      GameUnit.Driven g.gameObstacles
        (((run zeroed).loadGame 1 fun _ => 0).drivesSince g steeredLevel idFirstClient 1) u v := by
  obtain ⟨g', v, hg', hv, -, -⟩ :=
    exists_firstUnit (s := (exec step _ steeredLevel).get steeredLevel_isSome) (by decide +kernel)
  obtain ⟨g, g₁, hg, hg₁, hunits⟩ := unit_trajectory zeroed 1 (fun _ => 0) zeroed_run
    steeredLevel_inLevel (Option.some_get steeredLevel_isSome).symm
  obtain rfl : g' = g₁ := Option.some.inj (hg'.symm.trans hg₁)
  obtain ⟨u, hu, -, hdriven⟩ := hunits idFirstClient 1 v hv
  exact ⟨_, g, g', u, v, (Option.some_get steeredLevel_isSome).symm, hg, hg', hu, hv, hdriven⟩

/-- **Nobody moves another player's units.** Two levels without messages of the game itself, with the same
    calls except for messages of sessions outside `S`, leave the units of a player whom only sessions in `S`
    play in the same state, all of it: every hunting unit, and every fleeing one that lives in both. -/
theorem motion_isolated (S : SessionID → Bool) (unset : Nat → Unset F) (levelNumber : Int)
    (clock : Nat → F) (hpast : exec step (run unset) past = some s)
    (hlevel : ∀ e ∈ events, e.InLevel) (hlevel' : ∀ e ∈ events', e.InLevel)
    (hevents : exec step (s.loadGame levelNumber clock) events = some t)
    (hevents' : exec step (s.loadGame levelNumber clock) events' = some t')
    (hsame : events.filter (·.concerns S) = events'.filter (·.concerns S))
    {p : PlayerID} (hp : ∀ q ∈ t.playerProfiles, q.playerID = p → S q.session = true)
    (hg : t.game = some g) (hg' : t'.game = some g') {i : UInt8} {u v : GameUnit F}
    (hu : g.unitByIndex p i = some u) (hv : g'.unitByIndex p i = some v)
    (hliving : u.isHunting = true ∨ u.isLiving = true ∧ v.isLiving = true) : u = v := by
  have hready := ready_run unset hpast
  obtain ⟨g₀, g₁, hg₀, -, -, hfollows⟩ := hready.follows levelNumber clock hlevel hevents
  obtain ⟨g₀', g₁', hg₀', -, -, hfollows'⟩ := hready.follows levelNumber clock hlevel' hevents'
  obtain rfl : g₀ = g₀' := Option.some.inj (hg₀.symm.trans hg₀')
  obtain rfl : g = g₁ := Option.some.inj (hg.symm.trans hfollows.game)
  obtain rfl : g' = g₁' := Option.some.inj (hg'.symm.trans hfollows'.game)
  -- both rounds have come to the same, and the player has been driven the same way
  have hplayed : ∀ session, (t.round g).players session = some p → S session = true := by
    intro session hsession
    obtain ⟨q, hq, hqp⟩ := Option.map_eq_some_iff.mp hsession
    obtain ⟨hmem, rfl⟩ := mem_of_playerProfileBySession hq
    exact hp q hmem hqp
  have hround : t.round g = t'.round g' := by
    have hround' := Round.exec_concerns (S := S) hfollows.round
    rw [hsame, Round.exec_concerns hfollows'.round] at hround'
    exact (Option.some.inj hround').symm
  have hdrives := Round.labels_concerns i hfollows.round hplayed
  rw [hround] at hplayed
  rw [hsame, Round.labels_concerns i hfollows'.round hplayed] at hdrives
  rw [Game.unitByIndex_of_own (Or.inl hfollows.ownPlayerID)] at hu
  rw [Game.unitByIndex_of_own (Or.inl hfollows'.ownPlayerID)] at hv
  obtain ⟨w, hw, hdriven⟩ := hfollows.units p i u hu
  obtain ⟨w', hw', hdriven'⟩ := hfollows'.units p i v hv
  obtain rfl : w = w' := Option.some.inj (hw.symm.trans hw')
  rw [drivesSince, hdrives] at hdriven'
  exact hdriven.unique hdriven' (hliving.imp_left hdriven.isHunting.symm.trans)

/-- The second player steers, too. -/
def rivalLevel : List (Event Int) :=
  [.handleSessionAccepted 7, .handleSessionAccepted 8,
   .handleMessageReceived 7 ⟨messageIDEvent, .moveRequest ⟨1, 0, 1⟩, none⟩,
   .handleMessageReceived 8 ⟨messageIDEvent, .moveRequest ⟨1, 0, 1⟩, none⟩,
   .startGame fun _ => 0, .proceed fun _ => 1]

theorem rivalLevel_inLevel : ∀ e ∈ rivalLevel, e.InLevel := by decide

theorem rivalLevel_isSome :
    (exec step ((run zeroed).loadGame 1 fun _ => 0) rivalLevel).isSome = true := by decide +kernel

theorem motion_isolated_rivalLevel :
    ∃ t t' g g' u, exec step ((run zeroed).loadGame 1 fun _ => 0) steeredLevel = some t ∧
      exec step ((run zeroed).loadGame 1 fun _ => 0) rivalLevel = some t' ∧
      t.game = some g ∧ t'.game = some g' ∧
      g.unitByIndex idFirstClient 1 = some u ∧ g'.unitByIndex idFirstClient 1 = some u := by
  obtain ⟨g, u, hg, hu, hliving, -⟩ :=
    exists_firstUnit (s := (exec step _ steeredLevel).get steeredLevel_isSome) (by decide +kernel)
  obtain ⟨g', v, hg', hv, hliving', -⟩ :=
    exists_firstUnit (s := (exec step _ rivalLevel).get rivalLevel_isSome) (by decide +kernel)
  obtain rfl := motion_isolated (· == 7) zeroed 1 (fun _ => 0) zeroed_run steeredLevel_inLevel
    rivalLevel_inLevel (Option.some_get steeredLevel_isSome).symm
    (Option.some_get rivalLevel_isSome).symm rfl (by decide +kernel) hg hg' hu hv
    (Or.inr ⟨hliving, hliving'⟩)
  exact ⟨_, _, g, g', u, (Option.some_get steeredLevel_isSome).symm,
    (Option.some_get rivalLevel_isSome).symm, hg, hg', hu, hv⟩

end GameServer

end Footscreen
