import Footscreen.Game.GameNetworkServer

/-!
# `Game.NetworkServer` — accepting connections

`NetworkServer`, with the `GameNetworkServer` that listens to its signal. A session object is created before
the client it is for connects, and destroyed again if accepting fails; `new` returns any address at which
no session lives, one that has been freed not excepted. A step is `none` where the code would destroy an
object that does not exist.
-/

namespace Footscreen

structure NetworkServer where
  /-- The session objects that exist. -/
  allocated         : List SessionID
  /-- The session that the outstanding `async_accept` is for; none when the service has been stopped. -/
  newSession        : Option SessionID
  sessions          : List SessionID
  gameNetworkServer : GameNetworkServer

namespace NetworkServer

/-- `startAccept`, where `new` returns `address`. -/
def startAccept (s : NetworkServer) (address : SessionID) : Option NetworkServer :=
  if address ∈ s.allocated then none
  else some { s with allocated := s.allocated ++ [address], newSession := some address }

/-- `delete session`. -/
def delete (s : NetworkServer) (session : SessionID) : Option NetworkServer :=
  if session ∈ s.allocated then some { s with allocated := s.allocated.erase session } else none

/-- A client has connected: its session starts to read, and is announced. -/
def accept (s : NetworkServer) (session : SessionID) (loop : ReadLoop) (messages : List MessageData) :
    Option NetworkServer := do
  let s := { s with sessions := s.sessions ++ [session] }
  let gameNetworkServer ← s.gameNetworkServer.handleSessionAccepted session loop messages
  return { s with gameNetworkServer := gameNetworkServer }

/-- `handleAccept`. -/
def handleAccept (s : NetworkServer) (session : SessionID) (error : Bool) (loop : ReadLoop)
    (messages : List MessageData) (address : SessionID) : Option NetworkServer := do
  let s ← if !error then s.accept session loop messages else s.delete session
  s.startAccept address

/-- `release`: the service goes with the outstanding operation, and then the sessions. -/
def release (s : NetworkServer) : Option NetworkServer :=
  s.sessions.foldlM delete { s with newSession := none }

/-- `run`, up to where it waits for the first client: `new` has returned `address`. -/
def run (address : SessionID) : NetworkServer where
  allocated         := [address]
  newSession        := some address
  sessions          := []
  gameNetworkServer := .run

inductive Event where
  /-- The outstanding accept completes, and `new` returns `address` for the next one. -/
  | handleAccept (error : Bool) (loop : ReadLoop) (messages : List MessageData) (address : SessionID)
  /-- Anything else that happens to the sessions. -/
  | gameNetworkServer (e : GameNetworkServer.Event)
  | release

/-- Sessions are announced by `handleAccept` only. -/
def Event.announces : GameNetworkServer.Event → Bool
  | .handleSessionAccepted .. => true
  | _                         => false

/-- A step of the network thread, or of the game's thread while it sends. -/
def step (s : NetworkServer) : Event → Option NetworkServer
  | .handleAccept error loop messages address =>
      s.newSession.bind fun session => s.handleAccept session error loop messages address
  | .gameNetworkServer e =>
      if s.newSession.isSome && !Event.announces e then
        (s.gameNetworkServer.step e).map fun g => { s with gameNetworkServer := g }
      else none
  | .release => if s.newSession.isSome then s.release else none

end NetworkServer

end Footscreen
