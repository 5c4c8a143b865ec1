import Footscreen.Game.Game

/-!
# `Game.GameServer` — the server

`GameServer` with its `GameNetworkServer`: the player profiles, the game, and the handlers of requests.
What a session's `send` is given is appended to `outbox`; the sessions deliver it in that order. A step
is `none` where the code dereferences an empty pointer or calls a destroyed object.
-/

namespace Footscreen

open FloatArith

structure PlayerProfile where
  playerID : PlayerID
  session  : SessionID
deriving DecidableEq

/-- The server's state, with all that has been sent and the sessions reported as closed. -/
structure GameServer (F : Type) where
  context        : Context F
  game           : Option (Game F)
  playerProfiles : List PlayerProfile
  nextPlayerID   : PlayerID
  outbox         : List (SessionID × GameMessage F)
  closed         : List SessionID

namespace GameServer

variable {F : Type}

/-! ## The network server -/

/-- `playerProfileBySession`. -/
def playerProfileBySession (s : GameServer F) (session : SessionID) : Option PlayerProfile :=
  s.playerProfiles.find? fun p => p.session == session

/-- `playerProfileByID`. -/
def playerProfileByID (s : GameServer F) (playerID : PlayerID) : Option PlayerProfile :=
  s.playerProfiles.find? fun p => p.playerID == playerID

/-- `session->send`. -/
def sendTo (s : GameServer F) (session : SessionID) (m : GameMessage F) : GameServer F :=
  { s with outbox := s.outbox ++ [(session, m)] }

/-- `send`. For a single receiver the test of the profile is the wrong way round: an existing player is
    reported as missing, and a missing one is dereferenced. -/
def send (s : GameServer F) (m : GameMessage F) (receiverID : PlayerID) : Option (GameServer F) :=
  if m.contentType = messageUndefined then some s
  else if m.messageID = messageIDNone then some s
  else if receiverID = idServer then some s
  else if receiverID = idAllClients then
    some (s.playerProfiles.foldl (fun s p => s.sendTo p.session m) s)
  else
    match s.playerProfileByID receiverID with
    | some _ => some s
    | none   => none

/-! ## Requests -/

variable [FloatArith F]

/-- `handleMoveRequest`. -/
def handleMoveRequest (s : GameServer F) (m : GameMessage F) : Option (GameServer F) :=
  match m.payload with
  | .moveRequest r =>
      match m.networkServerSession.bind s.playerProfileBySession with
      | none => some s
      | some playerProfile =>
          match s.game with
          | none => some s
          | some g =>
              match g.unitByIndex playerProfile.playerID r.unitIndex with
              | none => some s
              | some matchingGameUnit =>
                  let accelerationX := cos r.angle
                  let accelerationY := -sin r.angle
                  -- `std::max`, then `std::min`
                  let strength := if ofInt 0 < r.strength then r.strength else ofInt 0
                  let strength := if strength < ofInt 1 then strength else ofInt 1
                  let strength := strength * GameUnit.maximalAcceleration
                  let acceleration := Vec2.scale ⟨accelerationX, accelerationY⟩ strength
                  let g := g.modifyUnit matchingGameUnit.address (·.setAcceleration acceleration)
                  some { s with game := some g }
  -- without its content the request's unit index is unset
  | _ => none

/-- `handleHighlightRequest`. -/
def handleHighlightRequest (s : GameServer F) (m : GameMessage F) : Option (GameServer F) :=
  match m.payload with
  | .highlightRequest r =>
      match m.networkServerSession.bind s.playerProfileBySession with
      | none => some s
      | some playerProfile =>
          match s.game with
          | none => some s
          | some g =>
              match g.unitByIndex playerProfile.playerID r.unitIndex with
              | none => some s
              | some matchingGameUnit =>
                  let g := g.modifyUnit matchingGameUnit.address (·.setHighlighted r.isHighlighted)
                  some { s with game := some g }
  | _ => none

/-- A registered callback, called with a message. -/
def callback (m : GameMessage F) (k : Callback) (s : GameServer F) : Option (GameServer F) :=
  match k with
  | .handleMoveRequest      => s.handleMoveRequest m
  | .handleHighlightRequest => s.handleHighlightRequest m
  | k => (Game.callback m k s.game s.context).map fun (g, c) => { s with game := some g, context := c }

/-- `handleMessageReceived`. -/
def handleMessageReceived (s : GameServer F) (session : SessionID) (m : GameMessage F) :
    Option (GameServer F) :=
  -- the source compares the type with the player ID 0, the value of `MESSAGE_UNDEFINED`
  if m.contentType = messageUndefined then some { s with closed := s.closed ++ [session] }
  else
    let m := { m with networkServerSession := some session }
    (s.context.messageHandlers.handleMessage (callback m) m.contentType m.messageID s).map Prod.fst

/-! ## The server's own steps -/

/-- A server after `run`: the request handlers are registered, and there is no game. -/
def run (unset : Nat → Unset F) : GameServer F where
  context := {
    messageHandlers :=
      [⟨messageMoveRequest, messageIDEvent, some .handleMoveRequest⟩,
       ⟨messageHighlightRequest, messageIDEvent, some .handleHighlightRequest⟩]
    nextMessageID := messageIDFirst
    nextAddress := 0
    unset := unset }
  game := none
  playerProfiles := []
  nextPlayerID := idFirstClient
  outbox := []
  closed := []

/-- `loadGame`. The new game replaces the old one, and is then filled: `clock` is read by both. -/
def loadGame (s : GameServer F) (levelNumber : Int) (clock : Nat → F) : GameServer F :=
  let (g, c) := Game.new s.context clock
  -- the assignment destroys the old game with its units and obstacles
  let c := match s.game with
    | some old => (old.reset c).2
    | none     => c
  let (g, c) := g.load c levelNumber fun i => clock (i + 2)
  { s with game := some g, context := c }

/-- `startGame`. -/
def startGame (s : GameServer F) (clock : Nat → F) : GameServer F :=
  { s with game := s.game.map (·.start clock) }

/-- The first half of an iteration of `loop`. -/
def proceed (s : GameServer F) (clock : Nat → F) : GameServer F :=
  { s with game := s.game.map fun g => (g.proceed clock).1 }

/-- `m_game->synchronize(ID_ALL_CLIENTS)`, the second half. -/
def synchronize (s : GameServer F) : Option (GameServer F) := do
  let g ← s.game
  g.messages.foldlM (fun s m => s.send m idAllClients) s

/-- The network server's part of `handleSessionAccepted`: a profile for the session. -/
def addProfile (s : GameServer F) (session : SessionID) : GameServer F :=
  { s with playerProfiles := s.playerProfiles ++ [⟨s.nextPlayerID, session⟩],
           nextPlayerID := s.nextPlayerID + 1 }

/-- `handleSessionAccepted`: the profile, the player's ID, and the game. -/
def handleSessionAccepted (s : GameServer F) (session : SessionID) : Option (GameServer F) := do
  let s := s.addProfile session
  match s.playerProfileBySession session with
  | none => return s
  | some playerProfile =>
      let s := s.sendTo session (newPlayerIDMessage playerProfile.playerID)
      let g ← s.game
      return g.messages.foldl (fun s m => s.sendTo session m) s

end GameServer

end Footscreen
