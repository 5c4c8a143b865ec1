import Footscreen.Game.GameServer
import Footscreen.Game.Correctness.Rounds
import Footscreen.Game.Correctness.Lookup

/-!
# `Game.Correctness.ServerDispatch` — what a message does to the server

`Serving` is what holds of a server between two calls: its registry has the request handlers, the
handlers of every game that was ever loaded, and one handler for each entity of the current game. The
`receive_` lemmas say, for each type of message, what `handleMessageReceived` does in such a state.

A move request and a highlight request take the same way: from the session to its profile, from the
profile's player to the unit with the index, and each of these may be missing. `changeUnit` is that way
with a change at its end; the two handlers differ in the change alone. `RequestEffect` is all that a
request can do.
-/

namespace Footscreen

open FloatArith

variable {F : Type}

/-- The acceleration that the server reads from a request. -/
def requestedAcceleration [FloatArith F] (r : MoveRequest F) : Vec2 F :=
  let strength := if ofInt 0 < r.strength then r.strength else ofInt 0
  let strength := if strength < ofInt 1 then strength else ofInt 1
  Vec2.scale ⟨cos r.angle, -sin r.angle⟩ (strength * GameUnit.maximalAcceleration)

namespace GameServer

/-! ## The registry -/

/-- The handlers that `GameServer::initializeMessageHandlers` adds. -/
def requestHandlers : MessageHandlers Callback :=
  [⟨messageMoveRequest, messageIDEvent, some .handleMoveRequest⟩,
   ⟨messageHighlightRequest, messageIDEvent, some .handleHighlightRequest⟩]

/-- The request callbacks that a message calls. -/
def requestsOf (t : ContentType) (messageID : MessageID) : List Callback :=
  if messageID ≠ messageIDEvent then []
  else if t = messageMoveRequest then [.handleMoveRequest]
  else if t = messageHighlightRequest then [.handleHighlightRequest]
  else []

/-- The handlers in front of the entities': those of requests, and of the games at some addresses. -/
def serverHandlers (addresses : List Nat) : MessageHandlers Callback :=
  requestHandlers ++ addresses.flatMap Game.gameHandlers

theorem callbacks_requestHandlers (t : ContentType) (messageID : MessageID) :
    requestHandlers.callbacks t messageID = requestsOf t messageID := by
  have hhandles : ∀ (t' : ContentType) (k : Callback), t' ≠ messageAllTypes →
      (MessageHandler.mk t' messageIDEvent (some k)).handles t messageID =
        decide (t = t' ∧ messageID = messageIDEvent) := by
    intro t' k ht'
    have hevent : messageIDEvent ≠ messageIDAll := by decide
    rw [Bool.eq_iff_iff, MessageHandler.handles_iff]
    simp [ht', hevent]
  unfold requestHandlers MessageHandlers.callbacks requestsOf
  simp only [List.filter_cons, List.filter_nil, hhandles messageMoveRequest _ (by decide),
    hhandles messageHighlightRequest _ (by decide), decide_eq_true_iff]
  by_cases hid : messageID = messageIDEvent
  · by_cases hmove : t = messageMoveRequest
    · subst hmove
      simp [hid, messageMoveRequest, messageHighlightRequest]
    · by_cases hhighlight : t = messageHighlightRequest
      · subst hhighlight
        simp [hid, hmove]
      · simp [hid, hmove, hhighlight]
  · simp [hid]

theorem callbacks_serverHandlers (addresses : List Nat) (t : ContentType) (messageID : MessageID) :
    (serverHandlers addresses).callbacks t messageID =
      requestsOf t messageID ++ addresses.flatMap fun a => Game.callbackOf a t := by
  unfold serverHandlers
  rw [MessageHandlers.callbacks_append, callbacks_requestHandlers]
  congr 1
  induction addresses with
  | nil => rfl
  | cons a as ih =>
      rw [List.flatMap_cons, List.flatMap_cons, MessageHandlers.callbacks_append, ih,
        Game.callbacks_gameHandlers]

theorem not_first_of_mem_serverHandlers (addresses : List Nat) {h : MessageHandler Callback}
    (hh : h ∈ serverHandlers addresses) : ¬ messageIDFirst ≤ h.messageID := by
  rcases List.mem_append.mp hh with hh | hh
  · unfold requestHandlers at hh
    simp only [List.mem_cons, List.not_mem_nil, or_false] at hh
    rcases hh with rfl | rfl
    · decide
    · decide
  · obtain ⟨a, _, hh⟩ := List.mem_flatMap.mp hh
    exact Game.not_first_of_mem_gameHandlers hh

/-- A server with the game `g`, which replaced the games at the addresses `dead`. -/
structure Serving (s : GameServer F) (g : Game F) (dead : List Nat) (es : List (MessageID × Nat)) :
    Prop where
  game        : s.game = some g
  tracked     : Game.Tracked g s.context (serverHandlers (dead ++ [g.address])) es
  dead_lt     : ∀ a ∈ dead, a < g.address
  nextAddress : g.address < s.context.nextAddress

/-- Between two calls: there is no game yet, or one is served. -/
def Ready (s : GameServer F) : Prop :=
  s.game = none ∧ s.context.messageHandlers = requestHandlers ∨ ∃ g dead es, s.Serving g dead es

/-- The server with another state of its game. -/
def withGame (s : GameServer F) (r : Game F × Context F) : GameServer F :=
  { s with game := some r.1, context := r.2 }

variable {s s' : GameServer F} {g g' : Game F} {c c' : Context F} {dead : List Nat}
  {es es' : List (MessageID × Nat)} {session : SessionID} {m : GameMessage F}

theorem Serving.withGame (h : s.Serving g dead es)
    (htracked : Game.Tracked g' c' (serverHandlers (dead ++ [g.address])) es')
    (haddress : g'.address = g.address) (hnext : s.context.nextAddress ≤ c'.nextAddress) :
    (s.withGame (g', c')).Serving g' dead es' := by
  refine ⟨rfl, ?_, ?_, ?_⟩
  · rw [haddress]
    exact htracked
  · rw [haddress]
    exact h.dead_lt
  · rw [haddress]
    exact Nat.lt_of_lt_of_le h.nextAddress hnext

/-- A change of the game that keeps its entities' keys. -/
theorem Serving.of_keys (h : s.Serving g dead es) (hkeys : g'.keys = g.keys)
    (haddress : g'.address = g.address) :
    ({ s with game := some g' } : GameServer F).Serving g' dead es := by
  refine ⟨rfl, ?_, ?_, ?_⟩
  · rw [haddress]
    exact h.tracked.of_keys hkeys
  · rw [haddress]
    exact h.dead_lt
  · rw [haddress]
    exact h.nextAddress

/-! ## Receiving a message -/

/-- What `handleMessageReceived` passes on. -/
def receivedOn (m : GameMessage F) (session : SessionID) : GameMessage F :=
  { m with networkServerSession := some session }

variable [FloatArith F]

/-- Callbacks that are not the server's own run on its game. -/
theorem foldlM_callback (ks : List Callback) (hgame : s.game = some g)
    (hks : ∀ k ∈ ks, k ≠ .handleMoveRequest ∧ k ≠ .handleHighlightRequest) :
    ks.foldlM (fun s k => callback m k s) s =
      (Game.run m ks (g, s.context)).map s.withGame := by
  induction ks generalizing s g with
  | nil =>
      obtain ⟨⟩ := s
      cases hgame
      rfl
  | cons k ks ih =>
      obtain ⟨hmove, hhighlight⟩ := hks k List.mem_cons_self
      have hcall : callback m k s =
          (Game.callback m k (some g) s.context).map s.withGame := by
        rw [← hgame]
        cases k with
        | handleMoveRequest      => exact absurd rfl hmove
        | handleHighlightRequest => exact absurd rfl hhighlight
        | _                      => rfl
      rw [List.foldlM_cons, Game.run_cons, hcall]
      cases Game.callback m k (some g) s.context with
      | none   => rfl
      | some r => exact ih rfl fun k hk => hks k (List.mem_cons_of_mem _ hk)

theorem handleMessageReceived_eq (hm : m.contentType ≠ messageUndefined) :
    s.handleMessageReceived session m =
      (s.context.messageHandlers.callbacks m.contentType m.messageID).foldlM
        (fun s k => callback (receivedOn m session) k s) s := by
  unfold handleMessageReceived
  rw [if_neg hm]
  show Option.map Prod.fst (MessageHandlers.handleMessage _ _ m.contentType m.messageID s) = _
  rw [MessageHandlers.handleMessage_eq, Option.map_map]
  exact Option.map_id'

omit [FloatArith F] in
theorem callbackOf_ne_request {a : Nat} {t : ContentType} :
    ∀ k ∈ Game.callbackOf a t, k ≠ .handleMoveRequest ∧ k ≠ .handleHighlightRequest := by
  intro k hk
  unfold Game.callbackOf at hk
  split at hk
  · simp [List.mem_singleton.mp hk]
  · split at hk
    · simp [List.mem_singleton.mp hk]
    · split at hk
      · simp [List.mem_singleton.mp hk]
      · cases hk

/-- A message that is no request runs on the game: the callbacks of the games, then the entities'. -/
theorem Serving.receive_eq_run (session : SessionID) (h : s.Serving g dead es)
    (hm : m.contentType ≠ messageUndefined) (hrequest : requestsOf m.contentType m.messageID = []) :
    s.handleMessageReceived session m =
      (Game.run (receivedOn m session)
        ((dead ++ [g.address]).flatMap (fun a => Game.callbackOf a m.contentType) ++
          (Game.addressesOf es m.messageID).map .updateData) (g, s.context)).map s.withGame := by
  rw [handleMessageReceived_eq hm, h.tracked.callbacks_eq, callbacks_serverHandlers, hrequest,
    List.nil_append]
  -- none of these is the server's own callback
  apply foldlM_callback _ h.game
  intro k hk
  rcases List.mem_append.mp hk with hk | hk
  · obtain ⟨a, _, hk⟩ := List.mem_flatMap.mp hk
    exact callbackOf_ne_request k hk
  · obtain ⟨a, _, rfl⟩ := List.mem_map.mp hk
    simp

/-- The types whose messages call a callback of every game. -/
def GameType (t : ContentType) : Prop :=
  t = messageGameUnit ∨ t = messageGameObstacle ∨ t = messageNewPlayerID

omit [FloatArith F] in
theorem callbackOf_of_not {a : Nat} {t : ContentType} (ht : ¬ GameType t) :
    Game.callbackOf a t = [] := by
  unfold GameType at ht
  rw [not_or, not_or] at ht
  unfold Game.callbackOf
  rw [if_neg ht.1, if_neg ht.2.1, if_neg ht.2.2]

omit [FloatArith F] in
theorem requestsOf_of_gameType {t : ContentType} (ht : GameType t) (messageID : MessageID) :
    requestsOf t messageID = [] := by
  unfold requestsOf
  rcases ht with rfl | rfl | rfl
  · exact ite_self _
  · exact ite_self _
  · exact ite_self _

/-- A callback of a game that has been destroyed. -/
theorem run_dead {a : Nat} {t : ContentType} (ks : List Callback) (ht : GameType t)
    (ha : a ≠ g.address) : Game.run m (Game.callbackOf a t ++ ks) (g, c) = none := by
  rcases ht with rfl | rfl | rfl
  · show (Game.callback m (.handleGameUnit a) (some g) c).bind _ = none
    rw [Game.callback, if_neg ha.symm]
    rfl
  · show (Game.callback m (.handleGameObstacle a) (some g) c).bind _ = none
    rw [Game.callback, if_neg ha.symm]
    rfl
  · show (Game.callback m (.handleNewPlayerID a) (some g) c).bind _ = none
    rw [Game.callback, if_neg ha.symm]
    rfl

/-- A message of the game runs on it, unless an earlier game is still registered. -/
theorem Serving.receive_game (h : s.Serving g dead es) (ht : GameType m.contentType) :
    s.handleMessageReceived session m =
      if dead = [] then
        (Game.run (receivedOn m session)
          (Game.callbackOf g.address m.contentType ++
            (Game.addressesOf es m.messageID).map .updateData) (g, s.context)).map s.withGame
      else none := by
  have hm : m.contentType ≠ messageUndefined := by
    rcases ht with ht | ht | ht
    all_goals
      rw [ht]
      decide
  rw [h.receive_eq_run session hm (requestsOf_of_gameType ht m.messageID)]
  cases dead with
  | nil => simp
  | cons a as =>
      -- the first replaced game's callback comes first, and calls a destroyed object
      have ha : a ≠ g.address := Nat.ne_of_lt (h.dead_lt a List.mem_cons_self)
      rw [if_neg (List.cons_ne_nil a as), List.cons_append, List.flatMap_cons, List.append_assoc,
        run_dead _ ht ha]
      rfl

theorem Serving.receive_gameUnit {d : GameUnitData F} (h : s.Serving g dead es)
    (hm : m.payload = .gameUnit d) :
    s.handleMessageReceived session m =
      if dead = [] then
        some (s.withGame (if (g.unitByID m.messageID).isSome
          then (g.update (receivedOn m session), s.context)
          else g.handleGameUnit s.context (receivedOn m session)))
      else none := by
  have hct : m.contentType = messageGameUnit := by
    unfold GameMessage.contentType
    rw [hm]
    rfl
  have hrun := h.tracked.run_gameUnit (m := receivedOn m session) hct
  rw [h.receive_game (Or.inl hct), hct]
  split
  · exact congrArg (Option.map _) hrun
  · rfl

theorem Serving.receive_gameObstacle {d : GameObstacleData F} (h : s.Serving g dead es)
    (hm : m.payload = .gameObstacle d) :
    s.handleMessageReceived session m =
      if dead = [] then
        some (s.withGame (if (g.obstacleByID m.messageID).isSome
          then (g.update (receivedOn m session), s.context)
          else g.handleGameObstacle s.context (receivedOn m session)))
      else none := by
  have hct : m.contentType = messageGameObstacle := by
    unfold GameMessage.contentType
    rw [hm]
    rfl
  have hrun := h.tracked.run_gameObstacle (m := receivedOn m session) hct
  rw [h.receive_game (Or.inr (Or.inl hct)), hct]
  split
  · exact congrArg (Option.map _) hrun
  · rfl

theorem Serving.receive_newPlayerID {playerID : PlayerID} (h : s.Serving g dead es)
    (hm : m.payload = .newPlayerID playerID) :
    s.handleMessageReceived session m =
      if dead = [] then some (s.withGame ({ g with ownPlayerID := playerID }, s.context))
      else none := by
  have hct : m.contentType = messageNewPlayerID := by
    unfold GameMessage.contentType
    rw [hm]
    rfl
  have hrun := h.tracked.run_newPlayerID (m := receivedOn m session) hct
  have hgame : g.handleNewPlayerID (receivedOn m session) = { g with ownPlayerID := playerID } := by
    unfold Game.handleNewPlayerID receivedOn
    rw [hm]
  rw [h.receive_game (Or.inr (Or.inr hct)), hct]
  split
  · rw [hgame] at hrun
    exact congrArg (Option.map _) hrun
  · rfl

/-- A message of another type calls the request's callback, if it is a request, and no other effect. -/
theorem Serving.receive_other (session : SessionID) (h : s.Serving g dead es)
    (hm : m.contentType ≠ messageUndefined) (ht : ¬ GameType m.contentType) :
    s.handleMessageReceived session m =
      (requestsOf m.contentType m.messageID).foldlM
        (fun s k => callback (receivedOn m session) k s) s := by
  have hu : (receivedOn m session).contentType ≠ messageGameUnit := fun hu => ht (Or.inl hu)
  have ho : (receivedOn m session).contentType ≠ messageGameObstacle :=
    fun ho => ht (Or.inr (Or.inl ho))
  have hflat : ((dead ++ [g.address]).flatMap fun a => Game.callbackOf a m.contentType) = [] := by
    rw [List.flatMap_eq_nil_iff]
    exact fun a _ => callbackOf_of_not ht
  have hself : s.withGame (g, s.context) = s := by
    obtain ⟨⟩ := s
    cases h.game
    rfl
  by_cases hrequest : requestsOf m.contentType m.messageID = []
  · have hrun := h.tracked.run_of_ne hu ho
    have heq := h.receive_eq_run session hm hrequest
    rw [hflat, List.nil_append] at heq
    rw [heq, hrequest]
    refine (congrArg (Option.map s.withGame) hrun).trans ?_
    show some (s.withGame (g, s.context)) = _
    rw [hself]
    rfl
  · -- a request has an ID that no entity's handler takes
    have hid : m.messageID = messageIDEvent := by
      by_contra hid
      exact hrequest (if_pos hid)
    have hnone : Game.addressesOf es m.messageID = [] := by
      rw [List.eq_nil_iff_forall_not_mem]
      intro a ha
      have hfirst : messageIDFirst ≤ m.messageID :=
        ((h.tracked.entities _).mp (Game.mem_addressesOf.mp ha)).2
      rw [hid] at hfirst
      exact absurd hfirst (by decide)
    rw [handleMessageReceived_eq hm, h.tracked.callbacks_eq, callbacks_serverHandlers, hflat, hnone]
    simp

/-! ## Requests -/

section

variable {p : PlayerProfile} {u : GameUnit F} {index : UInt8} {f : GameUnit F → GameUnit F}

omit [FloatArith F] in
/-- The unit with the index among those of the session's player is changed, if there is one. -/
def changeUnit (s : GameServer F) (session : SessionID) (index : UInt8)
    (f : GameUnit F → GameUnit F) : GameServer F :=
  match s.playerProfileBySession session with
  | none => s
  | some p =>
      match s.game with
      | none => s
      | some g =>
          match g.unitByIndex p.playerID index with
          | none   => s
          | some u => { s with game := some (g.modifyUnit u.address f) }

omit [FloatArith F] in
theorem changeUnit_of_some (hp : s.playerProfileBySession session = some p) (hg : s.game = some g)
    (hu : g.unitByIndex p.playerID index = some u) :
    s.changeUnit session index f = { s with game := some (g.modifyUnit u.address f) } := by
  unfold changeUnit
  rw [hp, hg]
  dsimp only
  rw [hu]

omit [FloatArith F] in
/-- A request is refused, or changes one unit of the session's player. -/
theorem changeUnit_cases (s : GameServer F) (session : SessionID) (index : UInt8)
    (f : GameUnit F → GameUnit F) :
    s.changeUnit session index f = s ∨
      ∃ p g u, s.playerProfileBySession session = some p ∧ s.game = some g ∧
        u ∈ g.gameUnits ∧ u.owner = p.playerID ∧
        s.changeUnit session index f = { s with game := some (g.modifyUnit u.address f) } := by
  unfold changeUnit
  cases s.playerProfileBySession session with
  | none => exact Or.inl rfl
  | some p =>
      cases s.game with
      | none => exact Or.inl rfl
      | some g =>
          dsimp only
          cases hu : g.unitByIndex p.playerID index with
          | none => exact Or.inl rfl
          | some u =>
              obtain ⟨hmem, howner⟩ := Game.mem_of_unitByIndex hu
              exact Or.inr ⟨p, g, u, rfl, rfl, hmem, howner, rfl⟩

theorem handleMoveRequest_eq {r : MoveRequest F} (hr : m.payload = .moveRequest r)
    (hsession : m.networkServerSession = some session) :
    s.handleMoveRequest m =
      some (s.changeUnit session r.unitIndex (·.setAcceleration (requestedAcceleration r))) := by
  unfold handleMoveRequest changeUnit
  rw [hr, hsession, Option.bind_some]
  dsimp only
  cases s.playerProfileBySession session with
  | none => rfl
  | some p =>
      cases s.game with
      | none => rfl
      | some g =>
          dsimp only
          cases g.unitByIndex p.playerID r.unitIndex <;> rfl

omit [FloatArith F] in
theorem handleHighlightRequest_eq {r : HighlightRequest} (hr : m.payload = .highlightRequest r)
    (hsession : m.networkServerSession = some session) :
    s.handleHighlightRequest m =
      some (s.changeUnit session r.unitIndex (·.setHighlighted r.isHighlighted)) := by
  unfold handleHighlightRequest changeUnit
  rw [hr, hsession, Option.bind_some]
  dsimp only
  cases s.playerProfileBySession session with
  | none => rfl
  | some p =>
      cases s.game with
      | none => rfl
      | some g =>
          dsimp only
          cases g.unitByIndex p.playerID r.unitIndex <;> rfl

end

/-- What a request of a session can do: nothing, or one change of one unit of its own player. -/
inductive RequestEffect (s : GameServer F) (session : SessionID) : GameServer F → Prop where
  | refused : RequestEffect s session s
  | accelerated {p : PlayerProfile} {g : Game F} (u : GameUnit F) (a : Vec2 F)
      (hp : s.playerProfileBySession session = some p) (hg : s.game = some g)
      (hu : u ∈ g.gameUnits) (howner : u.owner = p.playerID) :
      RequestEffect s session
        { s with game := some (g.modifyUnit u.address (·.setAcceleration a)) }
  | highlighted {p : PlayerProfile} {g : Game F} (u : GameUnit F) (b : Bool)
      (hp : s.playerProfileBySession session = some p) (hg : s.game = some g)
      (hu : u ∈ g.gameUnits) (howner : u.owner = p.playerID) :
      RequestEffect s session
        { s with game := some (g.modifyUnit u.address (·.setHighlighted b)) }

/-- A type without a registered size is none of the game's. -/
theorem ne_of_not_registered {t u : ContentType} (ht : ¬ Registered t) (hu : Registered u) : t ≠ u := by
  rintro rfl
  exact ht hu

omit [FloatArith F] in
theorem payload_of_moveRequest (hm : m.contentType = messageMoveRequest) :
    ∃ r, m.payload = .moveRequest r := by
  unfold GameMessage.contentType at hm
  cases hp : m.payload with
  | moveRequest r => exact ⟨r, rfl⟩
  | other t ht =>
      rw [hp] at hm
      exact absurd hm (ne_of_not_registered ht (by decide))
  | _ =>
      rw [hp] at hm
      simp [Payload.contentType, messageGameUnit, messageMoveRequest, messageHighlightRequest,
        messageGameObstacle, messageNewPlayerID] at hm

omit [FloatArith F] in
theorem payload_of_highlightRequest (hm : m.contentType = messageHighlightRequest) :
    ∃ r, m.payload = .highlightRequest r := by
  unfold GameMessage.contentType at hm
  cases hp : m.payload with
  | highlightRequest r => exact ⟨r, rfl⟩
  | other t ht =>
      rw [hp] at hm
      exact absurd hm (ne_of_not_registered ht (by decide))
  | _ =>
      rw [hp] at hm
      simp [Payload.contentType, messageGameUnit, messageMoveRequest, messageHighlightRequest,
        messageGameObstacle, messageNewPlayerID] at hm

omit [FloatArith F] in
theorem payload_of_gameType (hm : GameType m.contentType) :
    (∃ d, m.payload = .gameUnit d) ∨ (∃ d, m.payload = .gameObstacle d) ∨
      ∃ playerID, m.payload = .newPlayerID playerID := by
  unfold GameMessage.contentType at hm
  cases hp : m.payload with
  | gameUnit d           => exact Or.inl ⟨d, rfl⟩
  | gameObstacle d       => exact Or.inr (Or.inl ⟨d, rfl⟩)
  | newPlayerID playerID => exact Or.inr (Or.inr ⟨playerID, rfl⟩)
  | moveRequest r =>
      rw [hp] at hm
      exact absurd (show GameType messageMoveRequest from hm) (by unfold GameType; decide)
  | highlightRequest r =>
      rw [hp] at hm
      exact absurd (show GameType messageHighlightRequest from hm) (by unfold GameType; decide)
  | other t ht =>
      rw [hp] at hm
      rcases hm with hm | hm | hm
      all_goals exact absurd hm (ne_of_not_registered ht (by decide))

theorem handleMoveRequest_effect {r : MoveRequest F} (hm : m.payload = .moveRequest r)
    (hsession : m.networkServerSession = some session) :
    ∃ s', s.handleMoveRequest m = some s' ∧ s.RequestEffect session s' := by
  refine ⟨_, handleMoveRequest_eq hm hsession, ?_⟩
  rcases changeUnit_cases s session r.unitIndex (·.setAcceleration (requestedAcceleration r)) with
    heq | ⟨p, g, u, hp, hg, hu, howner, heq⟩
  · rw [heq]
    exact .refused
  · rw [heq]
    exact .accelerated u _ hp hg hu howner

omit [FloatArith F] in
theorem handleHighlightRequest_effect {r : HighlightRequest} (hm : m.payload = .highlightRequest r)
    (hsession : m.networkServerSession = some session) :
    ∃ s', s.handleHighlightRequest m = some s' ∧ s.RequestEffect session s' := by
  refine ⟨_, handleHighlightRequest_eq hm hsession, ?_⟩
  rcases changeUnit_cases s session r.unitIndex (·.setHighlighted r.isHighlighted) with
    heq | ⟨p, g, u, hp, hg, hu, howner, heq⟩
  · rw [heq]
    exact .refused
  · rw [heq]
    exact .highlighted u _ hp hg hu howner

/-- The requests that a message makes. -/
theorem requestsOf_effect (s : GameServer F) (session : SessionID) (m : GameMessage F) :
    ∃ s', (requestsOf m.contentType m.messageID).foldlM
        (fun s k => callback (receivedOn m session) k s) s = some s' ∧
      s.RequestEffect session s' := by
  unfold requestsOf
  split
  · exact ⟨s, rfl, .refused⟩
  · split
    · next hmove =>
        obtain ⟨r, hr⟩ := payload_of_moveRequest hmove
        obtain ⟨s', hs', heffect⟩ :=
          handleMoveRequest_effect (s := s) (m := receivedOn m session) hr rfl
        refine ⟨s', ?_, heffect⟩
        show (s.handleMoveRequest (receivedOn m session)).bind some = _
        rw [Option.bind_fun_some, hs']
    · split
      · next hhighlight =>
          obtain ⟨r, hr⟩ := payload_of_highlightRequest hhighlight
          obtain ⟨s', hs', heffect⟩ :=
            handleHighlightRequest_effect (s := s) (m := receivedOn m session) hr rfl
          refine ⟨s', ?_, heffect⟩
          show (s.handleHighlightRequest (receivedOn m session)).bind some = _
          rw [Option.bind_fun_some, hs']
      · exact ⟨s, rfl, .refused⟩

/-- **Any other message** of a session is a request, or has no effect. -/
theorem Ready.receive_other (session : SessionID) (h : s.Ready)
    (hm : m.contentType ≠ messageUndefined) (ht : s.game = none ∨ ¬ GameType m.contentType) :
    ∃ s', s.handleMessageReceived session m = some s' ∧ s.RequestEffect session s' := by
  obtain ⟨s', hs', heffect⟩ := requestsOf_effect s session m
  refine ⟨s', ?_, heffect⟩
  rw [← hs']
  rcases h with ⟨_, hhandlers⟩ | ⟨g, dead, es, h⟩
  · rw [handleMessageReceived_eq hm, hhandlers, callbacks_requestHandlers]
  · rcases ht with hnone | ht
    · rw [h.game] at hnone
      cases hnone
    · exact h.receive_other session hm ht

end GameServer

end Footscreen
