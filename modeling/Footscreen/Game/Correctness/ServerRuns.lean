import Footscreen.Game.Correctness.ServerDispatch
import Footscreen.Lib.Run

/-!
# `Game.Correctness.ServerRuns` — runs of the server

The server as a machine: `step` takes one whole call of one of its entry points. `synchronize_eq` and
`handleSessionAccepted_eq` say what is sent, `Reloaded` what a load leaves; `ready_run` is the induction
over runs.
-/

namespace Footscreen

open FloatArith Lib

variable {F : Type} [FloatArith F]

namespace GameServer

variable {s s' : GameServer F} {g g' : Game F} {c c' : Context F} {dead : List Nat}
  {es es' : List (MessageID × Nat)} {session : SessionID} {m : GameMessage F}

/-! ## Sending -/

/-- What a broadcast of a game sends: every message with an ID, to every player. -/
def broadcast (s : GameServer F) (g : Game F) : List (SessionID × GameMessage F) :=
  (g.messages.filter fun m => m.messageID != messageIDNone).flatMap fun m =>
    s.playerProfiles.map fun p => (p.session, m)

omit [FloatArith F] in
theorem contentType_of_mem_messages (hm : m ∈ g.messages) : m.contentType ≠ messageUndefined := by
  rcases List.mem_append.mp hm with hm | hm
  · obtain ⟨u, _, rfl⟩ := List.mem_map.mp hm
    show messageGameUnit ≠ messageUndefined
    decide
  · obtain ⟨o, _, rfl⟩ := List.mem_map.mp hm
    show messageGameObstacle ≠ messageUndefined
    decide

omit [FloatArith F] in
theorem foldl_sendTo (ps : List PlayerProfile) (s : GameServer F) (m : GameMessage F) :
    ps.foldl (fun s p => s.sendTo p.session m) s =
      { s with outbox := s.outbox ++ ps.map fun p => (p.session, m) } := by
  induction ps generalizing s with
  | nil => simp
  | cons p ps ih =>
      rw [List.foldl_cons, ih]
      simp [sendTo]

omit [FloatArith F] in
theorem synchronize_eq (hg : s.game = some g) :
    s.synchronize = some { s with outbox := s.outbox ++ s.broadcast g } := by
  -- `send` returns early on a message without an ID, and sends every other to all profiles
  have hloop : ∀ (ms : List (GameMessage F)) (s : GameServer F),
      (∀ m ∈ ms, m.contentType ≠ messageUndefined) →
      ms.foldlM (fun s m => s.send m idAllClients) s =
        some { s with outbox := s.outbox ++
          (ms.filter fun m => m.messageID != messageIDNone).flatMap fun m =>
            s.playerProfiles.map fun p => (p.session, m) } := by
    intro ms
    induction ms with
    | nil =>
        intro s _
        simp
    | cons m ms ih =>
        intro s hms
        have hrest := fun m hm => hms m (List.mem_cons_of_mem _ hm)
        rw [List.foldlM_cons, send, if_neg (hms m List.mem_cons_self)]
        by_cases hid : m.messageID = messageIDNone
        · rw [if_pos hid, List.filter_cons_of_neg (by simp [hid])]
          exact ih s hrest
        · rw [if_neg hid, if_neg (by decide), if_pos rfl, foldl_sendTo,
            List.filter_cons_of_pos (by simp [hid]), List.flatMap_cons]
          refine (ih _ hrest).trans ?_
          simp
  have hsend : s.synchronize = g.messages.foldlM (fun s m => s.send m idAllClients) s := by
    unfold synchronize
    rw [hg]
    rfl
  rw [hsend]
  exact hloop g.messages s fun m hm => contentType_of_mem_messages hm

omit [FloatArith F] in
theorem synchronize_none (hg : s.game = none) : s.synchronize = none := by
  unfold synchronize
  rw [hg]
  rfl

omit [FloatArith F] in
theorem synchronize_inv (h : s.synchronize = some s') :
    ∃ g, s.game = some g ∧ s' = { s with outbox := s.outbox ++ s.broadcast g } := by
  obtain ⟨g, hg⟩ : ∃ g, s.game = some g := by
    apply Option.ne_none_iff_exists'.mp
    intro hg
    rw [synchronize_none hg] at h
    cases h
  rw [synchronize_eq hg] at h
  exact ⟨g, hg, (Option.some.inj h).symm⟩

omit [FloatArith F] in
/-- Messages to one session. -/
theorem foldl_sendTo_session (session : SessionID) (ms : List (GameMessage F)) (s : GameServer F) :
    ms.foldl (fun s m => s.sendTo session m) s =
      { s with outbox := s.outbox ++ ms.map (session, ·) } := by
  induction ms generalizing s with
  | nil => simp
  | cons m ms ih =>
      rw [List.foldl_cons, ih]
      simp [sendTo]

omit [FloatArith F] in
/-- The profile that has just been added is found. -/
theorem profile_of_addProfile (s : GameServer F) (session : SessionID) :
    ∃ p, (s.addProfile session).playerProfileBySession session = some p := by
  refine Option.isSome_iff_exists.mp ?_
  unfold playerProfileBySession addProfile
  simp

omit [FloatArith F] in
/-- A new session gets the next player's ID, unless it has one. -/
theorem playerProfileBySession_addProfile (s : GameServer F) (session t : SessionID) :
    (s.addProfile session).playerProfileBySession t =
      if t = session then s.playerProfileBySession t <|> some ⟨s.nextPlayerID, session⟩
      else s.playerProfileBySession t := by
  unfold playerProfileBySession addProfile
  rw [List.find?_append]
  by_cases ht : t = session
  · rw [if_pos ht, ht]
    simp
  · rw [if_neg ht]
    simp [Ne.symm ht]

omit [FloatArith F] in
/-- An accepted session gets its player's ID, and then the game. -/
theorem handleSessionAccepted_eq (session : SessionID) (hg : s.game = some g) :
    ∃ p, (s.addProfile session).playerProfileBySession session = some p ∧
      s.handleSessionAccepted session = some { s.addProfile session with outbox :=
        s.outbox ++ (session, newPlayerIDMessage p.playerID) :: g.messages.map (session, ·) } := by
  obtain ⟨p, hp⟩ := profile_of_addProfile s session
  refine ⟨p, hp, ?_⟩
  have hsend : s.handleSessionAccepted session = some (g.messages.foldl
      (fun s m => s.sendTo session m)
      ((s.addProfile session).sendTo session (newPlayerIDMessage p.playerID))) := by
    unfold handleSessionAccepted
    dsimp only
    rw [hp]
    show (s.game.bind _) = _
    rw [hg]
    rfl
  rw [hsend, foldl_sendTo_session]
  simp [sendTo, addProfile]

omit [FloatArith F] in
theorem handleSessionAccepted_none (hg : s.game = none) : s.handleSessionAccepted session = none := by
  obtain ⟨p, hp⟩ := profile_of_addProfile s session
  unfold handleSessionAccepted
  dsimp only
  rw [hp]
  show (s.game.bind _) = none
  rw [hg]
  rfl

omit [FloatArith F] in
theorem handleSessionAccepted_inv (h : s.handleSessionAccepted session = some s') :
    ∃ g p, s.game = some g ∧ s' = { s.addProfile session with outbox :=
      s.outbox ++ (session, newPlayerIDMessage p) :: g.messages.map (session, ·) } := by
  obtain ⟨g, hg⟩ : ∃ g, s.game = some g := by
    apply Option.ne_none_iff_exists'.mp
    intro hg
    rw [handleSessionAccepted_none hg] at h
    cases h
  obtain ⟨p, _, heq⟩ := handleSessionAccepted_eq session hg
  rw [heq] at h
  exact ⟨g, p.playerID, hg, (Option.some.inj h).symm⟩

/-! ## Loading -/

omit [FloatArith F] in
theorem tracked_empty {base : MessageHandlers Callback} (hus : g.gameUnits = [])
    (hos : g.gameObstacles = []) (hc : c.messageHandlers = base) : Game.Tracked g c base [] := by
  have hkeys : g.keys = [] := by
    unfold Game.keys
    rw [hus, hos]
    rfl
  refine ⟨by rw [hc, List.map_nil, List.append_nil], ?_, ?_, ?_⟩
  · intro e
    rw [hkeys]
    simp
  · rw [hkeys]
    exact List.nodup_nil
  · intro e he
    rw [hkeys] at he
    cases he

omit [FloatArith F] in
theorem serverHandlers_append (as : List Nat) (a : Nat) :
    serverHandlers (as ++ [a]) = serverHandlers as ++ Game.gameHandlers a := by
  unfold serverHandlers
  rw [List.flatMap_append, List.append_assoc]
  simp

/-- What a load leaves: a new game with the entities of the level and the next message IDs, served in
    place of the old one. -/
structure Reloaded (s s' : GameServer F) (levelNumber : Int) (g : Game F) : Prop where
  serving        : ∃ dead es, s'.Serving g dead es
  units          : g.gameUnits.map (·.messageID) =
    Game.idsFrom s.context.nextMessageID (Game.level levelNumber).unitCount
  obstacles      : g.gameObstacles.map (·.messageID) =
    Game.idsFrom (Game.idAfter s.context.nextMessageID (Game.level levelNumber).unitCount)
      (Game.level levelNumber).obstacleCount
  counter        : s'.context.nextMessageID = Game.idAfter s.context.nextMessageID
    (Game.level levelNumber).entityCount
  ownPlayerID    : g.ownPlayerID = idNone
  playerProfiles : s'.playerProfiles = s.playerProfiles
  outbox         : s'.outbox = s.outbox

/-- A load fills the new game behind the handlers `as` of the old ones. -/
theorem reloaded_of {levelNumber : Int} {clock : Nat → F} (as : List Nat)
    (hus : g.gameUnits = []) (hos : g.gameObstacles = []) (hown : g.ownPlayerID = idNone)
    (hload : s.loadGame levelNumber clock =
      s.withGame (g.load c levelNumber fun i => clock (i + 2)))
    (hhandlers : c.messageHandlers = serverHandlers (as ++ [g.address]))
    (hcounter : c.nextMessageID = s.context.nextMessageID) (hlt : ∀ a ∈ as, a < g.address)
    (hnext : g.address < c.nextAddress) :
    s.Reloaded (s.loadGame levelNumber clock) levelNumber
      (g.load c levelNumber fun i => clock (i + 2)).1 := by
  obtain ⟨hloaded, hids, hids'⟩ := Game.load_loaded (c := c) (serverHandlers (as ++ [g.address]))
    levelNumber (fun i => clock (i + 2)) hus hos
  obtain ⟨es, htracked⟩ := hloaded.tracked [] (tracked_empty hus hos hhandlers)
  rw [hload]
  refine ⟨⟨as, es, rfl, ?_, ?_, ?_⟩, ?_, ?_, ?_, hloaded.ownPlayerID.trans hown, rfl, rfl⟩
  · rw [hloaded.address]
    exact htracked
  · rw [hloaded.address]
    exact hlt
  · rw [hloaded.address]
    exact Nat.lt_of_lt_of_le hnext hloaded.nextAddress
  · rw [hids, hcounter]
  · rw [hids', hcounter]
  · rw [← hcounter]
    exact hloaded.counter

/-- **A load** serves a new game, whether or not there was one. -/
theorem Ready.loadGame (h : s.Ready) (levelNumber : Int) (clock : Nat → F) :
    ∃ g, s.Reloaded (s.loadGame levelNumber clock) levelNumber g := by
  have hhandlers := Game.initializeMessageHandlers_eq s.context.allocate s.context.nextAddress
  rcases h with ⟨hnone, hrequests⟩ | ⟨g, dead, es, h⟩
  · refine ⟨_, reloaded_of (g := (Game.new s.context clock).1)
      (c := (Game.new s.context clock).2) [] rfl rfl rfl ?_ ?_ rfl ?_ (Nat.lt_succ_self _)⟩
    · unfold GameServer.loadGame
      rw [hnone]
      rfl
    · refine hhandlers.trans ?_
      show s.context.messageHandlers ++ _ = serverHandlers ([] ++ [s.context.nextAddress])
      rw [hrequests, serverHandlers_append]
      rfl
    · intro a ha
      cases ha
  · -- the old game's entities take their handlers with them, but its own handlers stay
    have hreset := h.tracked.reset_handlers hhandlers fun hd hhd =>
      not_first_of_mem_serverHandlers (dead ++ [g.address] ++ [s.context.nextAddress])
        (by rw [serverHandlers_append]; exact hhd)
    obtain ⟨hcounter, hnext⟩ := Game.release_rest
      (g.gameUnits.map (·.messageID) ++ g.gameObstacles.map (·.messageID))
      (Game.new s.context clock).2
    refine ⟨_, reloaded_of (g := (Game.new s.context clock).1)
      (c := (g.reset (Game.new s.context clock).2).2) (dead ++ [g.address])
      rfl rfl rfl ?_ ?_ ?_ ?_ ?_⟩
    · unfold GameServer.loadGame
      rw [h.game]
      rfl
    · refine hreset.trans ?_
      exact (serverHandlers_append _ _).symm
    · exact hcounter
    · intro a ha
      show a < s.context.nextAddress
      rcases List.mem_append.mp ha with ha | ha
      · exact Nat.lt_trans (h.dead_lt a ha) h.nextAddress
      · rw [List.mem_singleton.mp ha]
        exact h.nextAddress
    · exact Nat.lt_of_lt_of_eq (Nat.lt_succ_self _) hnext.symm

/-! ## Runs -/

/-- Memory that is zero. -/
def zeroed : Nat → Unset Int := fun _ =>
  { gameUnitData := ⟨0, 0, 0, 0, false, false, false⟩, isHunting := false, gameObstacleData := ⟨0, 0, 0⟩ }

/-- One call of an entry point. -/
inductive Event (F : Type) where
  | loadGame (levelNumber : Int) (clock : Nat → F)
  | startGame (clock : Nat → F)
  | proceed (clock : Nat → F)
  | synchronize
  | handleSessionAccepted (session : SessionID)
  | handleMessageReceived (session : SessionID) (m : GameMessage F)

/-- A session's messages are received from when it has been accepted. -/
def step (s : GameServer F) : Event F → Option (GameServer F)
  | .loadGame levelNumber clock => some (s.loadGame levelNumber clock)
  | .startGame clock => some (s.startGame clock)
  | .proceed clock => some (s.proceed clock)
  | .synchronize => s.synchronize
  | .handleSessionAccepted session => s.handleSessionAccepted session
  | .handleMessageReceived session m =>
      if (s.playerProfileBySession session).isSome then s.handleMessageReceived session m else none

omit [FloatArith F] in
/-- The server only sends, and keeps its game. -/
theorem Ready.of_eq (h : s.Ready) (hgame : s'.game = s.game) (hcontext : s'.context = s.context) :
    s'.Ready := by
  rcases h with ⟨hnone, hhandlers⟩ | ⟨g, dead, es, h⟩
  · refine Or.inl ⟨hgame.trans hnone, ?_⟩
    rw [hcontext]
    exact hhandlers
  · refine Or.inr ⟨g, dead, es, hgame.trans h.game, ?_, h.dead_lt, ?_⟩
    · rw [hcontext]
      exact h.tracked
    · rw [hcontext]
      exact h.nextAddress

/-- The server with another game, if it has one. -/
def mapGame (s : GameServer F) (f : Game F → Game F) : GameServer F := { s with game := s.game.map f }

omit [FloatArith F] in
theorem Ready.mapGame (h : s.Ready) {f : Game F → Game F} (hf : Game.Keeps f) :
    (s.mapGame f).Ready := by
  rcases h with ⟨hnone, hhandlers⟩ | ⟨g, dead, es, h⟩
  · refine Or.inl ⟨?_, hhandlers⟩
    show s.game.map f = none
    rw [hnone]
    rfl
  · obtain ⟨hids, hos, haddress, _⟩ := hf g
    refine Or.inr ⟨f g, dead, es, ?_⟩
    unfold GameServer.mapGame
    rw [h.game]
    exact h.of_keys (Game.keys_of_identities hids hos) haddress

omit [FloatArith F] in
/-- **A request** changes the game, and keeps every entity. -/
theorem RequestEffect.mapGame (h : s.RequestEffect session s') :
    ∃ f, Game.Keeps f ∧ s' = s.mapGame f := by
  have hmap : ∀ {g : Game F} (f : Game F → Game F), s.game = some g →
      { s with game := some (f g) } = s.mapGame f := by
    intro g f hg
    unfold GameServer.mapGame
    rw [hg]
    rfl
  cases h with
  | refused =>
      refine ⟨id, fun _ => ⟨rfl, rfl, rfl, rfl⟩, ?_⟩
      unfold GameServer.mapGame
      rw [Option.map_id]
      rfl
  | accelerated u a _ hg _ _ =>
      have hkeeps : Game.Keeps fun g : Game F => g.modifyUnit u.address (·.setAcceleration a) :=
        Game.modifyUnit_keeps u.address fun _ => rfl
      exact ⟨_, hkeeps, hmap (fun g => g.modifyUnit u.address (·.setAcceleration a)) hg⟩
  | highlighted u b _ hg _ _ =>
      have hkeeps : Game.Keeps fun g : Game F => g.modifyUnit u.address (·.setHighlighted b) :=
        Game.modifyUnit_keeps u.address fun _ => rfl
      exact ⟨_, hkeeps, hmap (fun g => g.modifyUnit u.address (·.setHighlighted b)) hg⟩

omit [FloatArith F] in
theorem RequestEffect.ready (heffect : s.RequestEffect session s') (h : s.Ready) : s'.Ready := by
  obtain ⟨f, hf, rfl⟩ := heffect.mapGame
  exact h.mapGame hf

theorem handleGameUnit_context (g : Game F) (c : Context F) (m : GameMessage F) :
    (g.handleGameUnit c m).1.address = g.address ∧
      c.nextAddress ≤ (g.handleGameUnit c m).2.nextAddress := by
  cases hid : g.unitByID m.messageID with
  | some u =>
      rw [Game.handleGameUnit_of_some (by rw [hid]; rfl)]
      exact ⟨rfl, Nat.le_refl _⟩
  | none =>
      rw [Game.handleGameUnit_of_none hid, Game.setMessageID_nextAddress]
      exact ⟨rfl, Nat.le_succ _⟩

theorem handleGameObstacle_context (g : Game F) (c : Context F) (m : GameMessage F) :
    (g.handleGameObstacle c m).1.address = g.address ∧
      c.nextAddress ≤ (g.handleGameObstacle c m).2.nextAddress := by
  cases hid : g.obstacleByID m.messageID with
  | some o =>
      rw [Game.handleGameObstacle_of_some (by rw [hid]; rfl)]
      exact ⟨rfl, Nat.le_refl _⟩
  | none =>
      rw [Game.handleGameObstacle_of_none hid, Game.setMessageID_nextAddress]
      exact ⟨rfl, Nat.le_succ _⟩

/-- A message of the game, too, leaves its entities tracked. -/
theorem Serving.receive_ready (h : s.Serving g dead es) (ht : GameType m.contentType)
    (hs' : s.handleMessageReceived session m = some s') : s'.Ready := by
  -- an update keeps all keys; a creation is tracked by the handler it adds
  have hupdate : (s.withGame (g.update (receivedOn m session), s.context)).Ready :=
    Or.inr ⟨_, dead, es, h.withGame (h.tracked.of_keys Game.update_keys) rfl (Nat.le_refl _)⟩
  rcases payload_of_gameType ht with ⟨d, hp⟩ | ⟨d, hp⟩ | ⟨q, hp⟩
  · rw [h.receive_gameUnit hp] at hs'
    split at hs'
    · cases hs'
      split
      · exact hupdate
      · obtain ⟨es', htracked⟩ := h.tracked.handleGameUnit (receivedOn m session)
        obtain ⟨haddress, hnext⟩ := handleGameUnit_context g s.context (receivedOn m session)
        exact Or.inr ⟨_, dead, es', h.withGame htracked haddress hnext⟩
    · cases hs'
  · rw [h.receive_gameObstacle hp] at hs'
    split at hs'
    · cases hs'
      split
      · exact hupdate
      · obtain ⟨es', htracked⟩ := h.tracked.handleGameObstacle (receivedOn m session)
        obtain ⟨haddress, hnext⟩ := handleGameObstacle_context g s.context (receivedOn m session)
        exact Or.inr ⟨_, dead, es', h.withGame htracked haddress hnext⟩
    · cases hs'
  · rw [h.receive_newPlayerID hp] at hs'
    split at hs'
    · cases hs'
      exact Or.inr ⟨_, dead, es, h.withGame (h.tracked.of_keys rfl) rfl (Nat.le_refl _)⟩
    · cases hs'

theorem Ready.receive (h : s.Ready) (hs' : s.handleMessageReceived session m = some s') :
    s'.Ready := by
  by_cases hm : m.contentType = messageUndefined
  · unfold handleMessageReceived at hs'
    rw [if_pos hm] at hs'
    cases hs'
    exact h.of_eq rfl rfl
  · by_cases ht : s.game = none ∨ ¬ GameType m.contentType
    · obtain ⟨t, hreceived, heffect⟩ := h.receive_other session hm ht
      rw [hreceived] at hs'
      cases hs'
      exact heffect.ready h
    · rw [not_or, not_not] at ht
      rcases h with ⟨hnone, _⟩ | ⟨g, dead, es, h⟩
      · exact absurd hnone ht.1
      · exact h.receive_ready ht.2 hs'

theorem ready_step (h : s.Ready) {e : Event F} (hstep : s.step e = some s') : s'.Ready := by
  cases e with
  | loadGame levelNumber clock =>
      cases hstep
      obtain ⟨g, hreloaded⟩ := h.loadGame levelNumber clock
      obtain ⟨dead, es, hserving⟩ := hreloaded.serving
      exact Or.inr ⟨g, dead, es, hserving⟩
  | startGame clock =>
      cases hstep
      exact h.mapGame (Game.start_keeps clock)
  | proceed clock =>
      cases hstep
      exact h.mapGame (Game.proceed_keeps clock)
  | synchronize =>
      obtain ⟨_, _, rfl⟩ := synchronize_inv hstep
      exact h.of_eq rfl rfl
  | handleSessionAccepted session =>
      obtain ⟨_, _, _, rfl⟩ := handleSessionAccepted_inv hstep
      exact h.of_eq rfl rfl
  | handleMessageReceived session m =>
      have hsome : (if (s.playerProfileBySession session).isSome
        then s.handleMessageReceived session m else none) = some s' := hstep
      split at hsome
      · exact h.receive hsome
      · cases hsome

/-- The messages that clients send are requests. -/
def IsRequest (m : GameMessage F) : Prop :=
  m.contentType = messageMoveRequest ∨ m.contentType = messageHighlightRequest

instance (m : GameMessage F) : Decidable (IsRequest m) := inferInstanceAs (Decidable (_ ∨ _))

/-- The messages received are requests. -/
def Event.Requests : Event F → Prop
  | .handleMessageReceived _ m => IsRequest m
  | _                          => True

instance (e : Event F) : Decidable e.Requests :=
  match e with
  | .handleMessageReceived _ m => inferInstanceAs (Decidable (IsRequest m))
  | .loadGame _ _ | .startGame _ | .proceed _ | .synchronize | .handleSessionAccepted _ =>
      inferInstanceAs (Decidable True)

theorem Ready.request_effect (h : s.Ready) (hm : IsRequest m) (session : SessionID) :
    ∃ s', s.handleMessageReceived session m = some s' ∧ s.RequestEffect session s' := by
  -- a request has a type, and none that the game handles
  have hundefined : m.contentType ≠ messageUndefined := by
    rcases hm with hm | hm
    all_goals
      rw [hm]
      decide
  have hno : ¬ GameType m.contentType := by
    rcases hm with hm | hm
    all_goals
      rw [hm]
      unfold GameType
      decide
  exact h.receive_other session hundefined (Or.inr hno)

theorem Ready.request (h : s.Ready) (hm : IsRequest m)
    (hs' : s.handleMessageReceived session m = some s') : ∃ f, Game.Keeps f ∧ s' = s.mapGame f := by
  obtain ⟨t, ht, heffect⟩ := h.request_effect hm session
  rw [hs'] at ht
  cases ht
  exact heffect.mapGame

/-- **Between two calls** of any run, the server is ready. -/
theorem ready_run (unset : Nat → Unset F) {events : List (Event F)}
    (h : exec step (run unset) events = some s) : s.Ready :=
  exec_invariant (I := Ready) (fun hu ht => ready_step hu ht) (Or.inl ⟨rfl, rfl⟩) h

end GameServer

end Footscreen
