import Footscreen.Lib.Refinement
import Footscreen.Game.Correctness.Frames
import Footscreen.Game.Correctness.ServerRuns

/-!
# `Game.Correctness.Controls` — the controls of the players

What the server is for, seen from a player: there is one lever and one lamp for each unit of each player.
A request moves the one or switches the other, a load puts all of them back, and nothing else touches
them. `Controls` is that machine; frames, broadcasts and the start of a round are no steps of it. What the
controls of some players have come to depends on their own requests only (`sameFor_run`).

`Steered` says that a unit does what its controls say: one that has died or arrived no longer accelerates.
A frame keeps it (`Frame.sameControls`).
-/

namespace Footscreen

open FloatArith Lib

variable {F : Type}

/-! ## The controls -/

/-- Who plays, and what was last asked for each unit of the level. -/
structure Controls (F : Type) where
  players      : SessionID → Option PlayerID
  nextPlayerID : PlayerID
  moves        : PlayerID → UInt8 → Option (MoveRequest F)
  highlights   : PlayerID → UInt8 → Option Bool

namespace Controls

def start : Controls F := ⟨fun _ => none, idFirstClient, fun _ _ => none, fun _ _ => none⟩

/-- What a player asks for. -/
inductive Request (F : Type) where
  | move (r : MoveRequest F)
  | highlight (r : HighlightRequest)

def Request.unitIndex : Request F → UInt8
  | .move r      => r.unitIndex
  | .highlight r => r.unitIndex

/-- The player's lever for a unit is moved, or its lamp switched. -/
def set (c : Controls F) (p : PlayerID) : Request F → Controls F
  | .move r => { c with moves := fun q i =>
      if q = p ∧ i = r.unitIndex then some r else c.moves q i }
  | .highlight r => { c with highlights := fun q i =>
      if q = p ∧ i = r.unitIndex then some r.isHighlighted else c.highlights q i }

inductive Event (F : Type) where
  | load
  | accept (session : SessionID)
  | request (session : SessionID) (r : Request F)

/-- A session keeps its first player; one without a player is not listened to. -/
def step (c : Controls F) : Event F → Option (Controls F)
  | .load => some { c with moves := fun _ _ => none, highlights := fun _ _ => none }
  | .accept session => some { c with
      players := fun t => if t = session then c.players t <|> some c.nextPlayerID else c.players t
      nextPlayerID := c.nextPlayerID + 1 }
  | .request session r => (c.players session).map (c.set · r)

end Controls

/-- The request in a message; only those with the ID of events are listened to. -/
def GameMessage.request (m : GameMessage F) : Option (Controls.Request F) :=
  if m.messageID = messageIDEvent then
    match m.payload with
    | .moveRequest r      => some (.move r)
    | .highlightRequest r => some (.highlight r)
    | _                   => none
  else none

/-- What a call means to the controls. -/
def GameServer.Event.controls : GameServer.Event F → List (Controls.Event F)
  | .loadGame ..                     => [.load]
  | .handleSessionAccepted session   => [.accept session]
  | .handleMessageReceived session m => (m.request.map (.request session)).toList
  | _                                => []

/-! ## Isolation of the players -/

namespace Controls

variable {c c' d : Controls F} {S : SessionID → Bool} {e : Event F}

/-- The event is no request, or one of these sessions. -/
def Event.concerns (S : SessionID → Bool) : Event F → Bool
  | .request session _ => S session
  | _                  => true

/-- The same players, and the same controls for those that only these sessions play. -/
structure SameFor (S : SessionID → Bool) (c c' : Controls F) : Prop where
  players      : c'.players = c.players
  nextPlayerID : c'.nextPlayerID = c.nextPlayerID
  controls     : ∀ p, (∀ session, c.players session = some p → S session = true) →
    c'.moves p = c.moves p ∧ c'.highlights p = c.highlights p

/-- A request is for the controls of one unit of its player. -/
theorem set_elsewhere {p q : PlayerID} {i : UInt8} {r : Request F} (h : ¬ (q = p ∧ i = r.unitIndex)) :
    (c.set p r).moves q i = c.moves q i ∧ (c.set p r).highlights q i = c.highlights q i := by
  cases r with
  | move r      => exact ⟨if_neg h, rfl⟩
  | highlight r => exact ⟨rfl, if_neg h⟩

theorem set_other {p q : PlayerID} (hne : q ≠ p) (r : Request F) :
    (c.set p r).moves q = c.moves q ∧ (c.set p r).highlights q = c.highlights q :=
  ⟨funext fun _ => (set_elsewhere fun h => hne h.1).1, funext fun _ => (set_elsewhere fun h => hne h.1).2⟩

theorem set_players (p : PlayerID) (r : Request F) :
    (c.set p r).players = c.players ∧ (c.set p r).nextPlayerID = c.nextPlayerID := by
  cases r <;> exact ⟨rfl, rfl⟩

theorem set_congr {q : PlayerID} (p : PlayerID) (r : Request F)
    (h : c'.moves q = c.moves q ∧ c'.highlights q = c.highlights q) :
    (c'.set p r).moves q = (c.set p r).moves q ∧ (c'.set p r).highlights q = (c.set p r).highlights q := by
  obtain ⟨hmoves, hhighlights⟩ := h
  cases r with
  | move r =>
      refine ⟨?_, hhighlights⟩
      unfold set
      dsimp only
      rw [hmoves]
  | highlight r =>
      refine ⟨hmoves, ?_⟩
      unfold set
      dsimp only
      rw [hhighlights]

/-- A step that is not seen leaves these players' controls alone. -/
theorem sameFor_step (h : SameFor S c c') (hstep : c.step e = some d) :
    ∃ d', exec step c' ([e].filter (·.concerns S)) = some d' ∧ SameFor S d d' := by
  cases e with
  | load =>
      cases hstep
      exact ⟨_, rfl, h.players, h.nextPlayerID, fun _ _ => ⟨rfl, rfl⟩⟩
  | accept session =>
      cases hstep
      refine ⟨_, rfl, ?_, congrArg (· + 1) h.nextPlayerID, fun p hp => h.controls p fun t ht => ?_⟩
      · dsimp only
        rw [h.players, h.nextPlayerID]
      · apply hp t
        dsimp only
        rw [ht]
        split <;> rfl
  | request session r =>
      obtain ⟨p, hp, rfl⟩ := Option.map_eq_some_iff.mp hstep
      obtain ⟨hplayers, hnext⟩ := set_players (c := c) p r
      cases hS : S session with
      | true =>
          obtain ⟨hplayers', hnext'⟩ := set_players (c := c') p r
          refine ⟨c'.set p r, ?_, ?_, ?_, ?_⟩
          · have hconcerns : (Event.request session r).concerns S = true := hS
            rw [List.filter_cons, if_pos hconcerns]
            show (c'.players session).map (c'.set · r) >>= some = _
            rw [h.players, hp]
            rfl
          · rw [hplayers, hplayers', h.players]
          · rw [hnext, hnext', h.nextPlayerID]
          · rw [hplayers]
            exact fun q hq => set_congr p r (h.controls q hq)
      | false =>
          refine ⟨c', ?_, h.players.trans hplayers.symm, h.nextPlayerID.trans hnext.symm, ?_⟩
          · have hconcerns : (Event.request session r).concerns S = false := hS
            rw [List.filter_cons, if_neg (ne_true_of_eq_false hconcerns)]
            rfl
          · rw [hplayers]
            intro q hq
            -- the request's player is played by another session
            have hne : q ≠ p := by
              rintro rfl
              rw [hq session hp] at hS
              cases hS
            obtain ⟨hmoves, hhighlights⟩ := set_other (c := c) hne r
            rw [hmoves, hhighlights]
            exact h.controls q hq

theorem sameFor_simulates : Simulates step step (fun _ _ => True)
    (fun e fs => fs = [e].filter (·.concerns S)) (SameFor (F := F) S) := by
  constructor
  intro c e d c' h _ hstep
  obtain ⟨d', hd', h'⟩ := sameFor_step h hstep
  exact ⟨_, d', rfl, hd', h'⟩

/-- **Isolation**: what these sessions' players have come to depends on their own requests only. -/
theorem sameFor_run (S : SessionID → Bool) {es : List (Event F)} (h : exec step start es = some c) :
    ∃ c', exec step start (es.filter (·.concerns S)) = some c' ∧ SameFor S c c' := by
  obtain ⟨c', hrun, hsame⟩ := (sameFor_simulates (S := S)).run_flatMap
    (⟨rfl, rfl, fun _ _ => ⟨rfl, rfl⟩⟩ : SameFor S start start) (guarded_of_forall fun _ _ => trivial) h
  rw [← List.filter_flatMap, List.flatMap_singleton'] at hrun
  exact ⟨c', hrun, hsame⟩

end Controls

/-! ## What was asked for last -/

namespace Controls

variable {c d : Controls F} {session : SessionID} {p : PlayerID} {i : UInt8}

/-- What a request says about the lever of a unit. -/
def Request.moveOf (i : UInt8) : Request F → Option (MoveRequest F)
  | .move r      => if i = r.unitIndex then some r else none
  | .highlight _ => none

/-- What a request says about the lamp of a unit. -/
def Request.highlightOf (i : UInt8) : Request F → Option Bool
  | .move _      => none
  | .highlight r => if i = r.unitIndex then some r.isHighlighted else none

/-- The last of the requests that move the lever. -/
def lastMove (rs : List (Request F)) (i : UInt8) : Option (MoveRequest F) :=
  (rs.filterMap (·.moveOf i)).getLast?

/-- What the last of the requests that switch the lamp says. -/
def lastHighlight (rs : List (Request F)) (i : UInt8) : Option Bool :=
  (rs.filterMap (·.highlightOf i)).getLast?

/-- The requests of a session. -/
def asks (session : SessionID) : List (Event F) → List (Request F)
  | []                 => []
  | .request t r :: es => if t = session then r :: asks session es else asks session es
  | _ :: es            => asks session es

theorem asks_append (es fs : List (Event F)) :
    asks session (es ++ fs) = asks session es ++ asks session fs := by
  induction es with
  | nil => rfl
  | cons e es ih =>
      cases e with
      | load | accept _ => exact ih
      | request t r =>
          rw [List.cons_append, asks, asks, ih]
          split <;> rfl

theorem lastMove_append (rs rs' : List (Request F)) :
    lastMove (rs ++ rs') i = (lastMove rs' i).or (lastMove rs i) := by
  unfold lastMove
  rw [List.filterMap_append, List.getLast?_append]

theorem lastHighlight_append (rs rs' : List (Request F)) :
    lastHighlight (rs ++ rs') i = (lastHighlight rs' i).or (lastHighlight rs i) := by
  unfold lastHighlight
  rw [List.filterMap_append, List.getLast?_append]

theorem lastMove_one (r : Request F) : lastMove [r] i = r.moveOf i := by
  unfold lastMove
  rw [List.filterMap_cons]
  cases r.moveOf i <;> rfl

theorem lastHighlight_one (r : Request F) : lastHighlight [r] i = r.highlightOf i := by
  unfold lastHighlight
  rw [List.filterMap_cons]
  cases r.highlightOf i <;> rfl

/-- A request, seen from its player. -/
theorem set_own (c : Controls F) (p : PlayerID) (i : UInt8) (r : Request F) :
    (c.set p r).moves p i = (r.moveOf i).or (c.moves p i) ∧
      (c.set p r).highlights p i = (r.highlightOf i).or (c.highlights p i) := by
  cases r with
  | move r =>
      refine ⟨?_, rfl⟩
      show (if p = p ∧ i = r.unitIndex then _ else _) = Option.or (if i = r.unitIndex then _ else _) _
      by_cases hi : i = r.unitIndex
      · rw [if_pos ⟨rfl, hi⟩, if_pos hi]
        rfl
      · rw [if_neg fun h => hi h.2, if_neg hi]
        rfl
  | highlight r =>
      refine ⟨rfl, ?_⟩
      show (if p = p ∧ i = r.unitIndex then _ else _) = Option.or (if i = r.unitIndex then _ else _) _
      by_cases hi : i = r.unitIndex
      · rw [if_pos ⟨rfl, hi⟩, if_pos hi]
        rfl
      · rw [if_neg fun h => hi h.2, if_neg hi]
        rfl

/-- A session keeps its player. -/
theorem players_step {e : Event F} (hstep : c.step e = some d) (hp : c.players session = some p) :
    d.players session = some p := by
  cases e with
  | load =>
      cases hstep
      exact hp
  | accept t =>
      cases hstep
      dsimp only
      rw [hp]
      split <;> rfl
  | request t r =>
      obtain ⟨q, -, rfl⟩ := Option.map_eq_some_iff.mp hstep
      rw [(set_players q r).1]
      exact hp

/-- The session has no other player, and the player no other session. -/
def PlayedBy (c : Controls F) (session : SessionID) (p : PlayerID) : Prop :=
  ∀ t q, c.players t = some q → (t = session ↔ q = p)

theorem PlayedBy.of_step {e : Event F} (h : d.PlayedBy session p) (hstep : c.step e = some d) :
    c.PlayedBy session p := fun t q ht => h t q (players_step hstep ht)

theorem PlayedBy.of_run {es : List (Event F)} (h : d.PlayedBy session p)
    (hrun : exec step c es = some d) : c.PlayedBy session p :=
  exec_trace (P := fun _ d => d.PlayedBy session p → c.PlayedBy session p) id
    (fun _ ih hstep h => ih (h.of_step hstep)) hrun h

/-- A step that is no load: what the player's session asks for counts. -/
theorem last_step {e : Event F} (h : d.PlayedBy session p) (hstep : c.step e = some d)
    (hload : e ≠ .load) (i : UInt8) :
    d.moves p i = (lastMove (asks session [e]) i).or (c.moves p i) ∧
      d.highlights p i = (lastHighlight (asks session [e]) i).or (c.highlights p i) := by
  cases e with
  | load => exact absurd rfl hload
  | accept t =>
      cases hstep
      exact ⟨rfl, rfl⟩
  | request t r =>
      have hplayed : c.PlayedBy session p := h.of_step hstep
      obtain ⟨q, hq, rfl⟩ := Option.map_eq_some_iff.mp hstep
      by_cases ht : t = session
      · obtain rfl := (hplayed t q hq).mp ht
        have hasks : asks session [.request t r] = [r] := if_pos ht
        rw [hasks, lastMove_one, lastHighlight_one]
        exact c.set_own q i r
      · have hne : p ≠ q := fun hpq => ht ((hplayed t q hq).mpr hpq.symm)
        have hasks : asks session [.request t r] = [] := if_neg ht
        obtain ⟨hmoves, hhighlights⟩ := set_other (c := c) hne r
        rw [hasks, hmoves, hhighlights]
        exact ⟨rfl, rfl⟩

/-- As long as the session asks for nothing, its player's controls are as at the start. -/
theorem unasked_run {es : List (Event F)} (h : exec step start es = some c)
    (hplayed : c.PlayedBy session p) (hasks : asks session es = []) (i : UInt8) :
    c.moves p i = none ∧ c.highlights p i = none := by
  refine exec_trace (P := fun es c => c.PlayedBy session p → asks session es = [] →
    c.moves p i = none ∧ c.highlights p i = none) (fun _ _ => ⟨rfl, rfl⟩) ?_ h hplayed hasks
  rintro es c e d - ih hstep hplayed hasks
  rw [asks_append, List.append_eq_nil_iff] at hasks
  obtain ⟨hasks, hlast⟩ := hasks
  obtain ⟨hmoves, hhighlights⟩ := ih (hplayed.of_step hstep) hasks
  by_cases hload : e = .load
  · obtain rfl := hload
    cases hstep
    exact ⟨rfl, rfl⟩
  · obtain ⟨hmoves', hhighlights'⟩ := last_step hplayed hstep hload i
    rw [hmoves', hhighlights', hlast, hmoves, hhighlights]
    exact ⟨rfl, rfl⟩

/-- As long as there is no load, the last request for a unit counts. -/
theorem last_run {es : List (Event F)} (h : exec step c es = some d) (hplayed : d.PlayedBy session p)
    (hload : .load ∉ es) (i : UInt8) :
    d.moves p i = (lastMove (asks session es) i).or (c.moves p i) ∧
      d.highlights p i = (lastHighlight (asks session es) i).or (c.highlights p i) := by
  refine exec_trace (P := fun es d => d.PlayedBy session p → .load ∉ es →
    d.moves p i = (lastMove (asks session es) i).or (c.moves p i) ∧
      d.highlights p i = (lastHighlight (asks session es) i).or (c.highlights p i))
    (fun _ _ => ⟨rfl, rfl⟩) ?_ h hplayed hload
  rintro es c' e d - ih hstep hplayed hload
  rw [List.mem_append, not_or] at hload
  obtain ⟨hload, hlast⟩ := hload
  obtain ⟨hmoves, hhighlights⟩ := ih (hplayed.of_step hstep) hload
  obtain ⟨hmoves', hhighlights'⟩ :=
    last_step hplayed hstep (fun he => hlast (List.mem_singleton.mpr he.symm)) i
  rw [hmoves', hhighlights', hmoves, hhighlights, asks_append, lastMove_append, lastHighlight_append,
    Option.or_assoc, Option.or_assoc]
  exact ⟨rfl, rfl⟩

/-- **What was asked for last.** In a run whose loads all come before the first request of a player's session,
    the player's controls are as the session asked last. -/
theorem last_asked {es es' : List (Event F)} (h : exec step start (es ++ es') = some c)
    (hplayed : c.PlayedBy session p) (hasks : asks session es = []) (hload : .load ∉ es') (i : UInt8) :
    c.moves p i = lastMove (asks session (es ++ es')) i ∧
      c.highlights p i = lastHighlight (asks session (es ++ es')) i := by
  rw [exec_append] at h
  obtain ⟨d, hd, hrun⟩ := Option.bind_eq_some_iff.mp h
  obtain ⟨hmoves, hhighlights⟩ := unasked_run hd (hplayed.of_run hrun) hasks i
  obtain ⟨hmoves', hhighlights'⟩ := last_run hrun hplayed hload i
  rw [asks_append, hasks, List.nil_append, hmoves', hhighlights', hmoves, hhighlights]
  exact ⟨Option.or_none, Option.or_none⟩

end Controls

/-- What a request does to the unit it is for. -/
def Controls.Request.change [FloatArith F] : Controls.Request F → GameUnit F → GameUnit F
  | .move r      => (·.setAcceleration (requestedAcceleration r))
  | .highlight r => (·.setHighlighted r.isHighlighted)

/-! ## What a frame keeps -/

namespace GameUnit

variable [FloatArith F] {u v w : GameUnit F}

/-- The unit is as its lever and its lamp say; the lever holds as long as the unit can move. -/
structure Steered (move : Option (MoveRequest F)) (highlight : Option Bool) (u : GameUnit F) : Prop where
  isHighlighted : u.gameUnitData.isHighlighted = highlight.getD false
  acceleration  : u.isLiving = true → u.hasArrived = false →
    u.acceleration = (move.map requestedAcceleration).getD .zero

omit [FloatArith F] in
/-- The same controls, unless the unit has stopped for good. -/
structure SameControls (u v : GameUnit F) : Prop where
  owner         : v.owner = u.owner
  isHighlighted : v.gameUnitData.isHighlighted = u.gameUnitData.isHighlighted
  acceleration  : v.isLiving = true → v.hasArrived = false →
    u.isLiving = true ∧ u.hasArrived = false ∧ v.acceleration = u.acceleration

omit [FloatArith F] in
theorem sameControls_refl (u : GameUnit F) : SameControls u u :=
  ⟨rfl, rfl, fun hliving harrived => ⟨hliving, harrived, rfl⟩⟩

omit [FloatArith F] in
theorem SameControls.trans (h : SameControls u v) (h' : SameControls v w) : SameControls u w := by
  refine ⟨h'.owner.trans h.owner, h'.isHighlighted.trans h.isHighlighted, ?_⟩
  intro hliving harrived
  obtain ⟨hliving', harrived', heq'⟩ := h'.acceleration hliving harrived
  obtain ⟨hliving'', harrived'', heq⟩ := h.acceleration hliving' harrived'
  exact ⟨hliving'', harrived'', heq'.trans heq⟩

theorem Steered.same {move : Option (MoveRequest F)} {highlight : Option Bool}
    (h : Steered move highlight u) (hsame : SameControls u v) : Steered move highlight v := by
  refine ⟨hsame.isHighlighted.trans h.isHighlighted, ?_⟩
  intro hliving harrived
  obtain ⟨hliving', harrived', heq⟩ := hsame.acceleration hliving harrived
  exact heq.trans (h.acceleration hliving' harrived')

/-- The unit does what is asked. -/
theorem Steered.set {c : Controls F} (p : PlayerID) (r : Controls.Request F)
    (h : Steered (c.moves p r.unitIndex) (c.highlights p r.unitIndex) u) :
    Steered ((c.set p r).moves p r.unitIndex) ((c.set p r).highlights p r.unitIndex) (r.change u) := by
  cases r with
  | move r =>
      have hlever : (c.set p (.move r)).moves p r.unitIndex = some r := if_pos ⟨rfl, rfl⟩
      refine ⟨h.isHighlighted, fun _ _ => ?_⟩
      show _ = (((c.set p (.move r)).moves p r.unitIndex).map requestedAcceleration).getD .zero
      rw [hlever]
      rfl
  | highlight r =>
      have hlamp : (c.set p (.highlight r)).highlights p r.unitIndex = some r.isHighlighted :=
        if_pos ⟨rfl, rfl⟩
      refine ⟨?_, h.acceleration⟩
      show _ = ((c.set p (.highlight r)).highlights p r.unitIndex).getD false
      rw [hlamp]
      rfl

/-- A unit that stops for good loses its acceleration, and no other unit does. -/
theorem move_sameControls (u : GameUnit F) (dt : F) : SameControls u (u.move dt) := by
  unfold move
  split
  · next hstopped =>
      refine ⟨rfl, rfl, fun (hliving : u.isLiving = true) (harrived : u.hasArrived = false) => ?_⟩
      rw [hliving, harrived] at hstopped
      cases hstopped
  · exact ⟨rfl, rfl, fun hliving harrived => ⟨hliving, harrived, rfl⟩⟩

omit [FloatArith F] in
theorem SameControls.ite (h : SameControls u v) (c : Prop) [Decidable c] (x y : F) (velocity : Vec2 F) :
    SameControls u (if c then { v.setPosition x y with velocity := velocity } else v) := by
  split
  · exact h.trans ⟨rfl, rfl, fun hliving harrived => ⟨hliving, harrived, rfl⟩⟩
  · exact h

theorem reflectOnWalls_sameControls (u : GameUnit F) : SameControls u u.reflectOnWalls := by
  unfold reflectOnWalls
  exact ((((sameControls_refl u).ite _ _ _ _).ite _ _ _ _).ite _ _ _ _).ite _ _ _ _

theorem advance_sameControls (u : GameUnit F) (dt : F) : SameControls u (u.advance dt) := by
  have hmoved := (move_sameControls u dt).trans (reflectOnWalls_sameControls _)
  unfold advance
  dsimp only
  split
  · refine hmoved.trans ⟨rfl, rfl, fun _ harrived => ?_⟩
    cases harrived
  · exact hmoved

theorem separateFrom_sameControls (u : GameUnit F) (o : GameObstacle F) :
    SameControls u (u.separateFrom o) := by
  unfold separateFrom
  dsimp only
  split <;> exact ⟨rfl, rfl, fun hliving harrived => ⟨hliving, harrived, rfl⟩⟩

theorem separateUnit_sameControls (os : List (GameObstacle F)) (u : GameUnit F) :
    SameControls u (Game.separateUnit os u) := by
  unfold Game.separateUnit
  induction os generalizing u with
  | nil => exact sameControls_refl u
  | cons o os ih =>
      rw [List.foldl_cons]
      split
      · exact (separateFrom_sameControls u o).trans (ih _)
      · exact ih u

omit [FloatArith F] in
theorem Caught.sameControls (h : Game.Caught u v) : SameControls u v := by
  rcases h with rfl | ⟨_, rfl⟩
  · exact sameControls_refl _
  · exact ⟨rfl, rfl, fun hliving _ => by cases hliving⟩

/-- **A frame** leaves the controls of a unit alone. -/
theorem Frame.sameControls {dt : F} {os : List (GameObstacle F)} (h : Game.Frame dt os u v) :
    SameControls u v :=
  ((advance_sameControls u dt).trans (separateUnit_sameControls os _)).trans (Caught.sameControls h)

end GameUnit

end Footscreen
