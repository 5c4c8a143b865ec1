import Footscreen.Game.GameServer
import Footscreen.Network.Session
import Mathlib.Logic.Function.Basic

/-!
# `Game.GameNetworkServer` — the server's end of all connections

`GameNetworkServer` with its sessions, on the level of packages: the player profiles, each session's read
loop and write queue, and a log of what it reports, dispatches and queues. The callbacks of handlers
change the game and send nothing, so a dispatch is an entry in the log.

The game's thread broadcasts while the network thread accepts sessions and completes their reads and
writes. A broadcast is cut at each of its sends.
-/

namespace Footscreen

/-- What the server does to a session, or because of it. -/
inductive Action where
  | onSessionAccepted (session : SessionID)
  | onSessionClosed (session : SessionID)
  | handleMessage (session : SessionID) (m : MessageData) (senderID : PlayerID)
  | deliver (session : SessionID) (m : MessageData)

def Action.session : Action → SessionID
  | .onSessionAccepted session | .onSessionClosed session => session
  | .handleMessage session _ _ | .deliver session _       => session

structure GameNetworkServer where
  playerProfiles : List PlayerProfile
  nextPlayerID   : PlayerID
  reading        : SessionID → Option ReadLoop
  writes         : SessionID → WriteQueue
  broadcast      : Option (MessageData × Nat)
  log            : List Action

namespace GameNetworkServer

/-- `run`: no session has been accepted yet. -/
def run : GameNetworkServer where
  playerProfiles := []
  nextPlayerID   := idFirstClient
  reading        := fun _ => none
  writes         := fun _ => .empty
  broadcast      := none
  log            := []

/-- `playerProfileByID`. -/
def playerProfileByID (s : GameNetworkServer) (playerID : PlayerID) : Option PlayerProfile :=
  s.playerProfiles.find? fun p => p.playerID == playerID

/-- `playerProfileBySession`. -/
def playerProfileBySession (s : GameNetworkServer) (session : SessionID) : Option PlayerProfile :=
  s.playerProfiles.find? fun p => p.session == session

def act (s : GameNetworkServer) (a : Action) : GameNetworkServer := { s with log := s.log ++ [a] }

/-! ## Sending -/

/-- `session->send`. -/
def sendTo (s : GameNetworkServer) (session : SessionID) (m : MessageData) : Option GameNetworkServer :=
  (NetworkServerSession.deliver (s.writes session) m).map fun q =>
    { s with writes := Function.update s.writes session q }.act (.deliver session m)

/-- The tests of `send`, around its loop over all profiles. An existing single receiver is reported as
    missing, and a missing one is dereferenced. -/
def sendTests (s : GameNetworkServer) (m : MessageData) (receiverID : PlayerID)
    (loop : Option GameNetworkServer) : Option GameNetworkServer :=
  if m.contentType = messageUndefined then some s
  else if m.messageID = messageIDNone then some s
  else if receiverID = idServer then some s
  else if receiverID = idAllClients then loop
  else
    match s.playerProfileByID receiverID with
    | some _ => some s
    | none   => none

/-- The loop of `send`. -/
def sendAll (s : GameNetworkServer) (m : MessageData) (ps : List PlayerProfile) :
    Option GameNetworkServer :=
  ps.foldlM (fun s p => s.sendTo p.session m) s

/-- `send`. -/
def send (s : GameNetworkServer) (m : MessageData) (receiverID : PlayerID) : Option GameNetworkServer :=
  s.sendTests m receiverID (s.sendAll m s.playerProfiles)

/-- `send` up to the loop over the profiles. -/
def beginSend (s : GameNetworkServer) (m : MessageData) (receiverID : PlayerID) :
    Option GameNetworkServer :=
  s.sendTests m receiverID (some { s with broadcast := some (m, 0) })

/-- The next round of the loop in `send`. -/
def sendNext (s : GameNetworkServer) : Option GameNetworkServer :=
  match s.broadcast with
  | none => none
  | some (m, j) =>
      match s.playerProfiles[j]? with
      | none   => some { s with broadcast := none }
      | some p => (s.sendTo p.session m).map fun s => { s with broadcast := some (m, j + 1) }

/-! ## Sessions -/

/-- `handleMessageReceived`. -/
def handleMessageReceived (s : GameNetworkServer) (session : SessionID) (m : MessageData) :
    GameNetworkServer :=
  -- the source compares the type with the player ID 0, the value of `MESSAGE_UNDEFINED`
  if m.contentType = messageUndefined then s.act (.onSessionClosed session)
  else
    let m := m.setNetworkServerSession (some session)
    match s.playerProfileBySession session with
    | none               => s.act (.handleMessage session m idNewClient)
    | some playerProfile => s.act (.handleMessage session m playerProfile.playerID)

/-- What the server has connected to a session's signals. `GameServer::handleSessionClosed` is empty. -/
def handleSignal (session : SessionID) (s : GameNetworkServer) : Signal → GameNetworkServer
  | .onMessageReceived m => s.handleMessageReceived session m
  | .onClosed            => s.act (.onSessionClosed session)
  -- the signals of a client
  | .onConnectionClosed | .onConnectionEstablished | .onConnectionFailed => s

/-- A new session object is accepted: it starts to read and gets a profile, and `GameServer` sends it the
    player's ID and the game, `messages`. -/
def handleSessionAccepted (s : GameNetworkServer) (session : SessionID) (loop : ReadLoop)
    (messages : List MessageData) : Option GameNetworkServer :=
  -- nothing has happened to a new object
  if s.log.any fun a => a.session = session then none
  else do
    let loop ← NetworkServerSession.start loop
    let s := { s with
      reading := Function.update s.reading session (some loop)
      playerProfiles := s.playerProfiles ++ [PlayerProfile.mk s.nextPlayerID session]
      nextPlayerID := s.nextPlayerID + 1 }
    messages.foldlM (fun s m => s.sendTo session m) (s.act (.onSessionAccepted session))

/-- The session's read completes: with as many bytes as it asked for, or with an error. -/
def completeRead (s : GameNetworkServer) (session : SessionID) (bytes : Option (List UInt8)) :
    Option GameNetworkServer := do
  let loop ← s.reading session
  let read ← loop.pending
  if bytes.all fun w => w.length = read.length then
    let (loop, signals) ← Side.server.completeRead loop read bytes
    return signals.foldl (handleSignal session)
      { s with reading := Function.update s.reading session (some loop) }
  else none

/-- The session's `i`-th outstanding write completes. -/
def completeWrite (s : GameNetworkServer) (session : SessionID) (i : Nat) (error : Bool) :
    Option GameNetworkServer := do
  let q := s.writes session
  let _ ← q.outstanding[i]?
  let (q, signals) ← NetworkServerSession.handleWrite
    { q with outstanding := q.outstanding.eraseIdx i } error
  return signals.foldl (handleSignal session)
    { s with writes := Function.update s.writes session q }

/-! ## Steps -/

inductive Event where
  | handleSessionAccepted (session : SessionID) (loop : ReadLoop) (messages : List MessageData)
  | completeRead (session : SessionID) (bytes : Option (List UInt8))
  | completeWrite (session : SessionID) (i : Nat) (error : Bool)
  | beginSend (m : MessageData) (receiverID : PlayerID)
  | sendNext

/-- One step of either thread; the game's thread is in one `send` at a time. -/
def step (s : GameNetworkServer) : Event → Option GameNetworkServer
  | .handleSessionAccepted session loop messages => s.handleSessionAccepted session loop messages
  | .completeRead session bytes => s.completeRead session bytes
  | .completeWrite session i error => s.completeWrite session i error
  | .beginSend m receiverID => if s.broadcast.isNone then s.beginSend m receiverID else none
  | .sendNext => s.sendNext

end GameNetworkServer

end Footscreen
