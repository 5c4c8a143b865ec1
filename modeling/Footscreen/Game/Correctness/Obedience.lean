import Footscreen.Game.Correctness.Controls
import Footscreen.Game.Correctness.Play
import Footscreen.Game.Correctness.Requests

/-!
# `Game.Correctness.Obedience` — the server does what its players ask

`controlled_simulates` is the diagram of one call of the server: the players are those of `Controls`, and the
units do what these say (`Controlled`). The two theorems about runs are that diagram from the start of the
server (`controls_refine`), and the isolation of the players through it (`players_isolated`).
-/

namespace Footscreen

open FloatArith Lib

variable {F : Type}

/-! ## The units of one player -/

namespace Game

variable {g g' : Game F} {p : PlayerID} {i : Nat} {u v : GameUnit F}

/-- What relates the units of two games one by one, and keeps their owners, relates those of a player. -/
theorem forall₂_unitsOf {R : GameUnit F → GameUnit F → Prop} (howner : ∀ u v, R u v → v.owner = u.owner)
    (h : List.Forall₂ R g.gameUnits g'.gameUnits) (p : PlayerID) :
    List.Forall₂ R (g.unitsOf p) (g'.unitsOf p) := by
  refine List.rel_filter ?_ h
  intro u v huv
  show ownedBy p u = true ↔ ownedBy p v = true
  unfold ownedBy
  rw [howner u v huv]

theorem unitsOf_related {R : GameUnit F → GameUnit F → Prop} (howner : ∀ u v, R u v → v.owner = u.owner)
    (h : List.Forall₂ R g.gameUnits g'.gameUnits) (hv : (g'.unitsOf p)[i]? = some v) :
    ∃ u, (g.unitsOf p)[i]? = some u ∧ R u v := by
  have hunits := forall₂_unitsOf howner h p
  obtain ⟨hlt, rfl⟩ := List.getElem?_eq_some_iff.mp hv
  have hlt' : i < (g.unitsOf p).length := hunits.length_eq ▸ hlt
  exact ⟨_, List.getElem?_eq_getElem hlt', hunits.get hlt' hlt⟩

theorem unitsOf_relates {R : GameUnit F → GameUnit F → Prop} (howner : ∀ u v, R u v → v.owner = u.owner)
    (h : List.Forall₂ R g.gameUnits g'.gameUnits) (hu : (g.unitsOf p)[i]? = some u) :
    ∃ v, (g'.unitsOf p)[i]? = some v ∧ R u v := by
  have hunits := forall₂_unitsOf howner h p
  obtain ⟨hlt, rfl⟩ := List.getElem?_eq_some_iff.mp hu
  have hlt' : i < (g'.unitsOf p).length := hunits.length_eq ▸ hlt
  exact ⟨_, List.getElem?_eq_getElem hlt', hunits.get hlt hlt'⟩

variable [FloatArith F]

theorem proceed_sameControls (g : Game F) (clock : Nat → F) :
    List.Forall₂ GameUnit.SameControls g.gameUnits (g.proceed clock).1.gameUnits := by
  cases hmoves : g.moves clock with
  | true => exact (proceed_frame hmoves).imp fun _ _ => GameUnit.Frame.sameControls
  | false =>
      rw [proceed_still hmoves]
      exact List.forall₂_same.mpr fun u _ => GameUnit.sameControls_refl u

theorem loadUnits_unlit (owner : PlayerID) (isHunting : Bool) (ps : List Point) (number : UInt8)
    (s : Game F × Context F) (hs : ∀ u ∈ s.1.gameUnits, u.gameUnitData.isHighlighted = false) :
    ∀ u ∈ (loadUnits owner isHunting ps number s).1.gameUnits, u.gameUnitData.isHighlighted = false := by
  induction ps generalizing number s with
  | nil => exact hs
  | cons p ps ih =>
      obtain ⟨g, c⟩ := s
      apply ih (number + 1) _
      intro u hu
      rcases List.mem_append.mp hu with hu | hu
      · exact hs u hu
      · rw [List.mem_singleton.mp hu]
        rfl

/-- A load leaves all lamps off. -/
theorem load_unlit (g : Game F) (c : Context F) (levelNumber : Int) (clock : Nat → F) :
    ∀ u ∈ (g.load c levelNumber clock).1.gameUnits, u.gameUnitData.isHighlighted = false := by
  let l := level levelNumber
  let s₁ := loadUnits idFirstClient false l.unitPositionsPlayer1 1 (g.reset c)
  let s₂ := loadUnits (idFirstClient + 1) true l.unitPositionsPlayer2 1 s₁
  have h₁ : ∀ u ∈ s₁.1.gameUnits, u.gameUnitData.isHighlighted = false :=
    loadUnits_unlit _ _ _ _ _ fun u hu => by cases hu
  have h₂ : ∀ u ∈ s₂.1.gameUnits, u.gameUnitData.isHighlighted = false :=
    loadUnits_unlit _ _ _ _ _ h₁
  have hunits := (loadObstacles_loaded [] (l.obstaclePositions.zip l.obstacleRadii) s₂).2.2
  intro u hu
  apply h₂ u
  rw [← hunits]
  exact hu

end Game

/-! ## The server -/

namespace GameServer

variable [FloatArith F] {s s' : GameServer F} {g : Game F} {c c' : Controls F}
  {session : SessionID} {m : GameMessage F} {e : Event F}

/-- The server's players are those of the controls, and its units do what these say. -/
structure Controlled (s : GameServer F) (c : Controls F) : Prop where
  ready        : s.Ready
  players      : ∀ session, (s.playerProfileBySession session).map (·.playerID) = c.players session
  nextPlayerID : s.nextPlayerID = c.nextPlayerID
  units        : ∀ g, s.game = some g → g.ownPlayerID = idNone ∧
    ∀ p (i : UInt8) u, (g.unitsOf p)[i.toNat]? = some u →
      GameUnit.Steered (c.moves p i) (c.highlights p i) u

theorem controlled_run (unset : Nat → Unset F) : (run unset).Controlled Controls.start :=
  ⟨Or.inl ⟨rfl, rfl⟩, fun _ => rfl, rfl, fun _ hg => by cases hg⟩

omit [FloatArith F] in
/-- A server that keeps its profiles and its game. -/
theorem Controlled.of_eq [FloatArith F] (h : s.Controlled c) (hready : s'.Ready)
    (hgame : s'.game = s.game) (hprofiles : s'.playerProfiles = s.playerProfiles)
    (hnext : s'.nextPlayerID = s.nextPlayerID) : s'.Controlled c := by
  refine ⟨hready, fun session => ?_, hnext.trans h.nextPlayerID, ?_⟩
  · rw [← h.players session]
    unfold playerProfileBySession
    rw [hprofiles]
  · rw [hgame]
    exact h.units

/-- A game in which the controls are the same. -/
theorem Controlled.mapGame (h : s.Controlled c) {f : Game F → Game F} (hf : Game.Keeps f)
    (hsame : ∀ g, s.game = some g → List.Forall₂ GameUnit.SameControls g.gameUnits (f g).gameUnits) :
    (s.mapGame f).Controlled c := by
  refine ⟨h.ready.mapGame hf, h.players, h.nextPlayerID, ?_⟩
  intro g' hg'
  obtain ⟨g, hg, rfl⟩ := Option.map_eq_some_iff.mp hg'
  obtain ⟨hown, hunits⟩ := h.units g hg
  refine ⟨(hf g).2.2.2.trans hown, ?_⟩
  intro p i v hv
  obtain ⟨u, hu, huv⟩ := Game.unitsOf_related (fun _ _ h => h.owner) (hsame g hg) hv
  exact (hunits p i u hu).same huv

theorem loadGame_unlit (s : GameServer F) (levelNumber : Int) (clock : Nat → F) :
    ∃ g, (s.loadGame levelNumber clock).game = some g ∧
      ∀ u ∈ g.gameUnits, u.gameUnitData.isHighlighted = false := by
  refine ⟨_, rfl, ?_⟩
  exact Game.load_unlit (Game.new s.context clock).1 _ levelNumber fun i => clock (i + 2)

/-- A load puts all controls back. -/
theorem Controlled.loadGame (h : s.Controlled c) (levelNumber : Int) (clock : Nat → F) :
    (s.loadGame levelNumber clock).Controlled
      { c with moves := fun _ _ => none, highlights := fun _ _ => none } := by
  obtain ⟨g, hreloaded⟩ := h.ready.loadGame levelNumber clock
  obtain ⟨dead, es, hserving⟩ := hreloaded.serving
  refine ⟨Or.inr ⟨g, dead, es, hserving⟩, h.players, h.nextPlayerID, ?_⟩
  intro g' hg'
  obtain rfl : g = g' := Option.some.inj (hserving.game.symm.trans hg')
  refine ⟨hreloaded.ownPlayerID, ?_⟩
  intro p i u hu
  obtain ⟨hmem, -⟩ := List.mem_filter.mp (List.mem_of_getElem? hu)
  obtain ⟨g₁, hg₁, hstationed, -⟩ := loadGame_stationed s levelNumber clock
  obtain rfl : g = g₁ := Option.some.inj (hserving.game.symm.trans hg₁)
  obtain ⟨g₂, hg₂, hunlit⟩ := loadGame_unlit s levelNumber clock
  obtain rfl : g = g₂ := Option.some.inj (hserving.game.symm.trans hg₂)
  exact ⟨hunlit u hmem, fun _ _ => (hstationed u hmem).acceleration⟩

theorem Controlled.accept (h : s.Controlled c) (hstep : s.handleSessionAccepted session = some s') :
    s'.Controlled { c with
      players := fun t => if t = session then c.players t <|> some c.nextPlayerID else c.players t
      nextPlayerID := c.nextPlayerID + 1 } := by
  obtain ⟨g, p, hg, rfl⟩ := handleSessionAccepted_inv hstep
  refine ⟨h.ready.of_eq rfl rfl, ?_, congrArg (· + 1) h.nextPlayerID, h.units⟩
  intro t
  have hprofile := playerProfileBySession_addProfile s session t
  show ((s.addProfile session).playerProfileBySession t).map _ = _
  rw [hprofile]
  dsimp only
  rw [← h.players t, ← h.nextPlayerID]
  split
  · cases s.playerProfileBySession t <;> rfl
  · rfl

/-! ### Requests -/

theorem change_identity (r : Controls.Request F) (u : GameUnit F) :
    (r.change u).identity = u.identity := by
  cases r <;> rfl

omit [FloatArith F] in
/-- The unit with the index among those of the session's player is changed, if there is one. -/
theorem Ready.changeUnit_unitsOf {f : GameUnit F → GameUnit F} {p : PlayerProfile} (index : UInt8)
    (h : s.Ready) (hg : s.game = some g) (hown : g.ownPlayerID = idNone)
    (hp : s.playerProfileBySession session = some p) (hf : ∀ u, (f u).identity = u.identity) :
    ∃ g', s.changeUnit session index f = { s with game := some g' } ∧ g'.ownPlayerID = idNone ∧
      ∀ q, g'.unitsOf q = if q = p.playerID then (g.unitsOf p.playerID).modify index.toNat f
        else g.unitsOf q := by
  obtain ⟨hnone, -⟩ | ⟨g₁, dead, es, hserving⟩ := h
  · cases hnone.symm.trans hg
  obtain rfl : g = g₁ := Option.some.inj (hg.symm.trans hserving.game)
  have howner : ∀ u, (f u).owner = u.owner := fun u => congrArg Prod.snd (hf u)
  have hfind := Game.unitByIndex_of_own (Or.inl hown : _ ∨ g.ownPlayerID = p.playerID) index
  cases hu : (g.unitsOf p.playerID)[index.toNat]? with
  | none =>
      rw [hu] at hfind
      refine ⟨g, ?_, hown, ?_⟩
      · unfold GameServer.changeUnit
        rw [hp, hg]
        dsimp only
        rw [hfind, ← hg]
      · intro q
        split
        · next heq => rw [heq, List.modify_eq_self (List.getElem?_eq_none_iff.mp hu)]
        · rfl
  | some u =>
      rw [hu] at hfind
      exact ⟨_, changeUnit_of_some hp hg hfind, hown,
        (Game.modifyUnit_changesOnly hserving.objects hu f).unitsOf_eq howner⟩

/-- A control is moved, and its unit with it. -/
theorem Controlled.change {f : GameUnit F → GameUnit F} {p : PlayerProfile} {index : UInt8}
    (h : s.Controlled c) (hp : s.playerProfileBySession session = some p)
    (hf : ∀ u, (f u).identity = u.identity) (hready : (s.changeUnit session index f).Ready)
    (hplayers : c'.players = c.players) (hnext : c'.nextPlayerID = c.nextPlayerID)
    (hunit : ∀ u, GameUnit.Steered (c.moves p.playerID index) (c.highlights p.playerID index) u →
      GameUnit.Steered (c'.moves p.playerID index) (c'.highlights p.playerID index) (f u))
    (hothers : ∀ q i, ¬ (q = p.playerID ∧ i = index) →
      c'.moves q i = c.moves q i ∧ c'.highlights q i = c.highlights q i) :
    (s.changeUnit session index f).Controlled c' := by
  have hkept : (s.changeUnit session index f).playerProfiles = s.playerProfiles ∧
      (s.changeUnit session index f).nextPlayerID = s.nextPlayerID := by
    rcases changeUnit_cases s session index f with heq | ⟨_, _, _, _, _, _, _, heq⟩
    all_goals
      rw [heq]
      exact ⟨rfl, rfl⟩
  refine ⟨hready, ?_, ?_, ?_⟩
  · intro t
    rw [hplayers, ← h.players t]
    unfold playerProfileBySession
    rw [hkept.1]
  · rw [hkept.2, hnext]
    exact h.nextPlayerID
  · intro g' hg'
    cases hg : s.game with
    | none =>
        have hsame : s.changeUnit session index f = s := by
          unfold changeUnit
          rw [hp, hg]
        rw [hsame, hg] at hg'
        cases hg'
    | some g =>
        obtain ⟨hown, hunits⟩ := h.units g hg
        obtain ⟨g₁, heq, hown', hunits'⟩ := h.ready.changeUnit_unitsOf index hg hown hp hf
        rw [heq] at hg'
        obtain rfl : g₁ = g' := Option.some.inj hg'
        refine ⟨hown', ?_⟩
        intro q i v hv
        rw [hunits' q] at hv
        by_cases hthis : q = p.playerID ∧ i = index
        · obtain ⟨rfl, rfl⟩ := hthis
          rw [if_pos rfl, List.getElem?_modify_eq] at hv
          obtain ⟨u, hu, rfl⟩ := Option.map_eq_some_iff.mp hv
          exact hunit u (hunits _ _ u hu)
        · obtain ⟨hmoves, hhighlights⟩ := hothers q i hthis
          rw [hmoves, hhighlights]
          apply hunits q i v
          split at hv
          · next hq =>
              have hi : index.toNat ≠ i.toNat := fun hi => hthis ⟨hq, UInt8.toNat_inj.mp hi.symm⟩
              rw [List.getElem?_modify_ne _ _ hi] at hv
              rw [hq]
              exact hv
          · exact hv

/-- A request changes the unit it is for. -/
theorem Controlled.receive {p : PlayerProfile} (h : s.Controlled c) (hm : IsRequest m)
    (hid : m.messageID = messageIDEvent) (hp : s.playerProfileBySession session = some p) :
    s.handleMessageReceived session m =
      some (s.changeUnit session (changeOf m).1 (changeOf m).2) := by
  rcases h.ready with ⟨hnone, -⟩ | ⟨g, dead, es, hserving⟩
  · obtain ⟨t, ht, heffect⟩ := h.ready.request_effect hm session
    have hsame : s.changeUnit session (changeOf m).1 (changeOf m).2 = s := by
      unfold changeUnit
      rw [hp, hnone]
    rw [ht, hsame]
    cases heffect with
    | refused => rfl
    | accelerated _ _ _ hg _ _ => cases hnone.symm.trans hg
    | highlighted _ _ _ hg _ _ => cases hnone.symm.trans hg
  · exact Attending.receive ⟨hserving, (h.units g hserving.game).1, hp⟩ hm hid

/-- A message that is no request is ignored, and so is a request with another ID. -/
theorem Ready.receive_ignored (session : SessionID) (h : s.Ready) (ht : ¬ GameType m.contentType)
    (hnone : requestsOf m.contentType m.messageID = []) :
    ∃ closed, s.handleMessageReceived session m = some { s with closed := closed } := by
  by_cases hm : m.contentType = messageUndefined
  · refine ⟨s.closed ++ [session], ?_⟩
    unfold handleMessageReceived
    rw [if_pos hm]
  · refine ⟨s.closed, ?_⟩
    rcases h with ⟨_, hhandlers⟩ | ⟨g, dead, es, h⟩
    · rw [handleMessageReceived_eq hm, hhandlers, callbacks_requestHandlers, hnone]
      rfl
    · rw [h.receive_other session hm ht, hnone]
      rfl

/-! ## The diagram -/

/-- The messages received are none of the game's own, which a client could change any entity with. -/
def Event.Commands : Event F → Prop
  | .handleMessageReceived _ m => ¬ GameType m.contentType
  | _                          => True

/-- A message with a request is one, and the server reads from it what the request asks for. -/
theorem changeOf_request {r : Controls.Request F} (hr : m.request = some r) :
    IsRequest m ∧ m.messageID = messageIDEvent ∧ changeOf m = (r.unitIndex, r.change) := by
  unfold GameMessage.request at hr
  split at hr
  · next hid =>
      split at hr
      · next hp =>
          cases hr
          exact ⟨Or.inl (congrArg Payload.contentType hp), hid, by unfold changeOf; rw [hp]; rfl⟩
      · next hp =>
          cases hr
          exact ⟨Or.inr (congrArg Payload.contentType hp), hid, by unfold changeOf; rw [hp]; rfl⟩
      · cases hr
  · cases hr

omit [FloatArith F] in
/-- A message without a request calls no handler of one. -/
theorem requestsOf_no_request (hr : m.request = none) : requestsOf m.contentType m.messageID = [] := by
  unfold requestsOf
  split
  · rfl
  · next hid =>
      rw [GameMessage.request, if_pos (not_not.mp hid)] at hr
      split
      · next hmove =>
          obtain ⟨r, hp⟩ := payload_of_moveRequest hmove
          rw [hp] at hr
          cases hr
      · split
        · next hhighlight =>
            obtain ⟨r, hp⟩ := payload_of_highlightRequest hhighlight
            rw [hp] at hr
            cases hr
        · rfl

/-- One message. -/
theorem Controlled.received {p : PlayerProfile} (h : s.Controlled c) (ht : ¬ GameType m.contentType)
    (hp : s.playerProfileBySession session = some p)
    (hstep : s.handleMessageReceived session m = some s') (hready : s'.Ready) :
    ∃ c', exec Controls.step c (m.request.map (.request session)).toList = some c' ∧
      s'.Controlled c' := by
  cases hr : m.request with
  | none =>
      obtain ⟨closed, heq⟩ := h.ready.receive_ignored session ht (requestsOf_no_request hr)
      obtain rfl := Option.some.inj (heq.symm.trans hstep)
      exact ⟨c, rfl, h.of_eq hready rfl rfl rfl⟩
  | some r =>
      obtain ⟨hm, hid, hchange⟩ := changeOf_request hr
      have hplayer := h.players session
      rw [hp, Option.map_some] at hplayer
      obtain ⟨hplayers, hnext⟩ := Controls.set_players (c := c) p.playerID r
      rw [h.receive hm hid hp, hchange] at hstep
      obtain rfl := Option.some.inj hstep
      refine ⟨c.set p.playerID r, ?_, h.change hp (change_identity r) hready hplayers hnext ?_ ?_⟩
      · show (c.players session).map (c.set · r) >>= some = _
        rw [← hplayer]
        rfl
      · exact fun u hu => hu.set p.playerID r
      · exact fun q i hne => Controls.set_elsewhere hne

/-- **One call**, seen as steps of the controls. -/
theorem controlled_simulates : Simulates (step (F := F)) Controls.step (fun _ e => e.Commands)
    (fun e fs => fs = e.controls) Controlled := by
  constructor
  intro s e s' c h hcommands hstep
  have hready := ready_step h.ready hstep
  suffices ∃ c', exec Controls.step c e.controls = some c' ∧ s'.Controlled c' by
    obtain ⟨c', hc', h'⟩ := this
    exact ⟨_, c', rfl, hc', h'⟩
  cases e with
  | loadGame levelNumber clock =>
      cases hstep
      exact ⟨_, rfl, h.loadGame levelNumber clock⟩
  | startGame clock =>
      cases hstep
      exact ⟨c, rfl, h.mapGame (Game.start_keeps clock) fun g _ =>
        List.forall₂_same.mpr fun u _ => GameUnit.sameControls_refl u⟩
  | proceed clock =>
      cases hstep
      exact ⟨c, rfl, h.mapGame (Game.proceed_keeps clock) fun g _ => g.proceed_sameControls clock⟩
  | synchronize =>
      obtain ⟨_, _, rfl⟩ := synchronize_inv hstep
      exact ⟨c, rfl, h.of_eq hready rfl rfl rfl⟩
  | handleSessionAccepted session => exact ⟨_, rfl, h.accept hstep⟩
  | handleMessageReceived session m =>
      have hsome : (if (s.playerProfileBySession session).isSome
        then s.handleMessageReceived session m else none) = some s' := hstep
      split at hsome
      · next hp =>
          obtain ⟨p, hp⟩ := Option.isSome_iff_exists.mp hp
          exact h.received hcommands hp hsome hready
      · cases hsome

/-- The controls at the end of a run. -/
theorem controlled_of_run {unset : Nat → Unset F} {events : List (Event F)}
    (hcommands : ∀ e ∈ events, e.Commands) (h : exec step (run unset) events = some s) :
    ∃ c, exec Controls.step Controls.start (events.flatMap Event.controls) = some c ∧
      s.Controlled c :=
  controlled_simulates.run_flatMap (controlled_run unset) (guarded_of_mem fun e he _ => hcommands e he) h

/-- **The server is its players' controls.** In any run in which clients send no messages of the game itself,
    each unit that a player's index leads to is highlighted as that player last asked, and accelerated so as
    long as it is living and has not arrived. -/
theorem controls_refine (unset : Nat → Unset F) {events : List (Event F)}
    (hcommands : ∀ e ∈ events, e.Commands) (h : exec step (run unset) events = some s) :
    ∃ c, exec Controls.step Controls.start (events.flatMap Event.controls) = some c ∧
      (∀ session, (s.playerProfileBySession session).map (·.playerID) = c.players session) ∧
      ∀ g, s.game = some g → ∀ p i u, g.unitByIndex p i = some u →
        GameUnit.Steered (c.moves p i) (c.highlights p i) u := by
  obtain ⟨c, hrun, hcontrolled⟩ := controlled_of_run hcommands h
  refine ⟨c, hrun, hcontrolled.players, ?_⟩
  intro g hg p i u hu
  obtain ⟨hown, hunits⟩ := hcontrolled.units g hg
  rw [Game.unitByIndex_of_own (Or.inl hown)] at hu
  exact hunits p i u hu

/-- Two players, of whom the first steers a unit. -/
def steeredRun : List (Event Int) :=
  [.loadGame 1 fun _ => 0, .handleSessionAccepted 7, .handleSessionAccepted 8,
   .handleMessageReceived 7 ⟨messageIDEvent, .moveRequest ⟨1, 0, 1⟩, none⟩,
   .startGame fun _ => 0, .proceed fun _ => 0]

theorem steeredRun_commands : ∀ e ∈ steeredRun, e.Commands := by
  unfold steeredRun Event.Commands GameType
  simp only [List.forall_mem_cons, List.not_mem_nil, false_imp_iff, implies_true, and_true, true_and]
  decide

theorem steeredRun_isSome : (exec step (run zeroed) steeredRun).isSome = true := by decide +kernel

def steered : GameServer Int := (exec step (run zeroed) steeredRun).get steeredRun_isSome

theorem steered_eq : exec step (run zeroed) steeredRun = some steered :=
  (Option.some_get steeredRun_isSome).symm

/-- The unit of the first player at index 1, as long as it can move. -/
def firstUnit (s : GameServer Int) : Option (GameUnit Int) :=
  (s.game.bind (·.unitByIndex idFirstClient 1)).filter fun u => u.isLiving && !u.hasArrived

theorem exists_firstUnit {s : GameServer Int} (h : (firstUnit s).isSome = true) :
    ∃ g u, s.game = some g ∧ g.unitByIndex idFirstClient 1 = some u ∧ u.isLiving = true ∧
      u.hasArrived = false := by
  obtain ⟨u, hu⟩ := Option.isSome_iff_exists.mp h
  obtain ⟨hu, hactive⟩ := Option.filter_eq_some_iff.mp hu
  obtain ⟨g, hg, hu⟩ := Option.bind_eq_some_iff.mp hu
  obtain ⟨hliving, harrived⟩ := Bool.and_eq_true_iff.mp hactive
  exact ⟨g, u, hg, hu, hliving, by simpa using harrived⟩

theorem controls_refine_steeredRun :
    ∃ c g u, exec Controls.step Controls.start (steeredRun.flatMap Event.controls) = some c ∧
      steered.game = some g ∧ g.unitByIndex idFirstClient 1 = some u ∧
      u.acceleration = ((c.moves idFirstClient 1).map requestedAcceleration).getD .zero := by
  obtain ⟨g, u, hg, hu, hliving, harrived⟩ := exists_firstUnit (s := steered) (by decide +kernel)
  obtain ⟨c, hc, -, hunits⟩ := controls_refine zeroed steeredRun_commands steered_eq
  exact ⟨c, g, u, hc, hg, hu, (hunits g hg _ _ u hu).acceleration hliving harrived⟩

/-- **Isolation.** In two runs with the same loads, the same accepted sessions and the same requests of the
    sessions in `S`, in which clients send no messages of the game itself, a player whom only these
    sessions play has units with the same highlights and, where they live and have not arrived in either
    run, the same accelerations, whatever the other players ask for. -/
theorem players_isolated (S : SessionID → Bool) (unset unset' : Nat → Unset F)
    {events events' : List (Event F)} (hcommands : ∀ e ∈ events, e.Commands)
    (hcommands' : ∀ e ∈ events', e.Commands)
    (h : exec step (run unset) events = some s) (h' : exec step (run unset') events' = some s')
    (hsame : (events.flatMap Event.controls).filter (·.concerns S) =
      (events'.flatMap Event.controls).filter (·.concerns S))
    {p : PlayerID} (hp : ∀ q ∈ s.playerProfiles, q.playerID = p → S q.session = true)
    {g g' : Game F} (hg : s.game = some g) (hg' : s'.game = some g') {i : UInt8} {u u' : GameUnit F}
    (hu : g.unitByIndex p i = some u) (hu' : g'.unitByIndex p i = some u') :
    u.gameUnitData.isHighlighted = u'.gameUnitData.isHighlighted ∧
      (u.isLiving = true → u.hasArrived = false → u'.isLiving = true → u'.hasArrived = false →
        u.acceleration = u'.acceleration) := by
  obtain ⟨c, hrun, hcontrolled⟩ := controlled_of_run hcommands h
  obtain ⟨c', hrun', hcontrolled'⟩ := controlled_of_run hcommands' h'
  obtain ⟨d, hd, hsame₁⟩ := Controls.sameFor_run S hrun
  obtain ⟨d', hd', hsame₂⟩ := Controls.sameFor_run S hrun'
  obtain rfl : d = d' := Option.some.inj (hd.symm.trans ((congrArg _ hsame).trans hd'))
  -- both runs have the same players, and `p` is played by sessions in `S` only
  have hplayed : ∀ session, c.players session = some p → S session = true := by
    intro session hsession
    rw [← hcontrolled.players session] at hsession
    obtain ⟨q, hq, hqp⟩ := Option.map_eq_some_iff.mp hsession
    obtain ⟨hmem, rfl⟩ := mem_of_playerProfileBySession hq
    exact hp q hmem hqp
  have hplayers : c'.players = c.players := hsame₂.players.symm.trans hsame₁.players
  obtain ⟨hmoves₁, hhighlights₁⟩ := hsame₁.controls p hplayed
  obtain ⟨hmoves₂, hhighlights₂⟩ := hsame₂.controls p (by rw [hplayers]; exact hplayed)
  obtain ⟨hown, hunits⟩ := hcontrolled.units g hg
  obtain ⟨hown', hunits'⟩ := hcontrolled'.units g' hg'
  rw [Game.unitByIndex_of_own (Or.inl hown)] at hu
  rw [Game.unitByIndex_of_own (Or.inl hown')] at hu'
  have hsteered := hunits p i u hu
  have hsteered' := hunits' p i u' hu'
  rw [← hmoves₂, ← hhighlights₂, hmoves₁, hhighlights₁] at hsteered'
  refine ⟨hsteered.isHighlighted.trans hsteered'.isHighlighted.symm, ?_⟩
  intro hliving harrived hliving' harrived'
  exact (hsteered.acceleration hliving harrived).trans (hsteered'.acceleration hliving' harrived').symm

/-- The second player steers, too, and the round does not start. -/
def rivalRun : List (Event Int) :=
  [.loadGame 1 fun _ => 0, .handleSessionAccepted 7, .handleSessionAccepted 8,
   .handleMessageReceived 8 ⟨messageIDEvent, .moveRequest ⟨1, 0, 0⟩, none⟩,
   .handleMessageReceived 7 ⟨messageIDEvent, .moveRequest ⟨1, 0, 1⟩, none⟩]

theorem rivalRun_commands : ∀ e ∈ rivalRun, e.Commands := by
  unfold rivalRun Event.Commands GameType
  simp only [List.forall_mem_cons, List.not_mem_nil, false_imp_iff, implies_true, and_true, true_and]
  decide

theorem rivalRun_isSome : (exec step (run zeroed) rivalRun).isSome = true := by decide +kernel

def rivalled : GameServer Int := (exec step (run zeroed) rivalRun).get rivalRun_isSome

theorem players_isolated_rivalRun :
    ∃ g g' u u', steered.game = some g ∧ rivalled.game = some g' ∧
      g.unitByIndex idFirstClient 1 = some u ∧ g'.unitByIndex idFirstClient 1 = some u' ∧
      u.acceleration = u'.acceleration := by
  obtain ⟨g, u, hg, hu, hliving, harrived⟩ := exists_firstUnit (s := steered) (by decide +kernel)
  obtain ⟨g', u', hg', hu', hliving', harrived'⟩ := exists_firstUnit (s := rivalled) (by decide +kernel)
  obtain ⟨-, hsame⟩ := players_isolated (· == 7) zeroed zeroed steeredRun_commands rivalRun_commands
    steered_eq (Option.some_get rivalRun_isSome).symm rfl (by decide +kernel) hg hg' hu hu'
  exact ⟨g, g', u, u', hg, hg', hu, hu', hsame hliving harrived hliving' harrived'⟩

end GameServer

end Footscreen
