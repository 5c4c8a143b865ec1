import Footscreen.Game.GameServer

/-!
# `Game.ServerThreads` — the calls of the server, statement by statement

`GameServer` takes its two pointers as they are; here they come and go. `m_game` is empty until a
`loadGame`, and `stop` deletes the network server and clears `m_gameNetworkServer`. After `run`, `loop`
has a thread of its own, and any number of calls may be under way in others, each at its next statement.
A step is one statement of one thread. What a step does to the two pointers is its `Access`, and a pointer
that is dereferenced while it is empty is noted in `faults`, as is a call that returns with the mutex
locked; the thread has then ended.

The game and its units keep a copy of the pointer to the network server. It dangles after a `stop`, and is
another matter.
-/

namespace Footscreen

abbrev ThreadID := Nat

/-- The thread that `run` starts. -/
def loopThread : ThreadID := 0

namespace ServerThreads

/-- What the server's two handlers of requests are called with. -/
inductive Request (F : Type) where
  | moveRequest (r : MoveRequest F)
  | highlightRequest (r : HighlightRequest)

/-- What a statement does to `m_game` and `m_gameNetworkServer`. -/
inductive Access where
  /-- Nothing, or it looks at `m_game` after a test. -/
  | other
  | assignGame
  /-- `m_game` is dereferenced without a test. -/
  | useGame
  /-- `m_gameNetworkServer` is dereferenced, or tested by `loop`. -/
  | useNetworkServer
  | clearNetworkServer
deriving DecidableEq

inductive Fault where
  | emptyGame
  | nullNetworkServer
  | returnedLocked
deriving DecidableEq

/-- The statement that a thread is at. -/
inductive Statement (F : Type) where
  /-- In no call. -/
  | idle
  | ended
  -- `loop`
  | loopLock
  | loopTest
  | loopTestGame
  | loopProceed
  | loopSynchronize
  | loopUnlock
  -- `stop`
  | stopLock
  | stopGame
  | stopNetworkServer
  | stopDelete
  | stopUnlock
  -- `loadGame`
  | newGame (levelNumber : Int)
  | assignGame (newGame : Game F) (levelNumber : Int)
  | load (levelNumber : Int)
  -- `startGame`
  | startTestGame
  | start
  -- `handleSessionAccepted`
  | acceptedProfile (session : SessionID)
  | acceptedPlayerID (session : SessionID) (playerID : PlayerID)
  | acceptedSynchronize (session : SessionID)
  -- `handleMoveRequest` and `handleHighlightRequest`
  | requestProfile (session : SessionID) (r : Request F)
  | requestTestGame (session : SessionID) (r : Request F)
  | requestUnit (session : SessionID) (r : Request F)

def Statement.access {F : Type} : Statement F → Access
  | .loopTest | .stopNetworkServer | .newGame _ | .acceptedProfile _ | .requestProfile .. =>
      .useNetworkServer
  | .loopSynchronize | .stopGame | .acceptedSynchronize _ => .useGame
  | .assignGame .. => .assignGame
  | .stopDelete    => .clearNetworkServer
  | _              => .other

inductive Call (F : Type) where
  | loadGame (levelNumber : Int)
  | startGame
  | handleSessionAccepted (session : SessionID)
  | handleRequest (session : SessionID) (r : Request F)
  | stop

inductive Event (F : Type) where
  | call (t : ThreadID) (c : Call F)
  | step (t : ThreadID) (access : Access) (clock : Nat → F)

def Event.access {F : Type} : Event F → Access
  | .call ..         => .other
  | .step _ access _ => access

end ServerThreads

/-- The server with its threads. -/
structure ServerThreads (F : Type) where
  server        : GameServer F
  /-- `m_gameNetworkServer` is not null. -/
  networkServer : Bool
  stopMutex     : Option ThreadID
  threads       : ThreadID → ServerThreads.Statement F
  faults        : List (ThreadID × ServerThreads.Fault)

namespace ServerThreads

variable {F : Type}

/-! ## Control -/

/-- The thread goes on to a statement. -/
def goto (s : ServerThreads F) (t : ThreadID) (p : Statement F) : ServerThreads F :=
  { s with threads := Function.update s.threads t p }

def fault (s : ServerThreads F) (t : ThreadID) (f : Fault) : ServerThreads F :=
  { s.goto t .ended with faults := s.faults ++ [(t, f)] }

/-- A call returns. -/
def leave (s : ServerThreads F) (t : ThreadID) (p : Statement F) : ServerThreads F :=
  if s.stopMutex = some t then { s.goto t p with faults := s.faults ++ [(t, .returnedLocked)] }
  else s.goto t p

/-- `m_stopMutex.lock()` waits for the mutex. -/
def lock (s : ServerThreads F) (t : ThreadID) (p : Statement F) : Option (ServerThreads F) :=
  if s.stopMutex = none then some { s.goto t p with stopMutex := some t } else none

/-- `m_game->…`. -/
def useGame (s : ServerThreads F) (t : ThreadID) (f : Game F → ServerThreads F) : ServerThreads F :=
  match s.server.game with
  | none   => s.fault t .emptyGame
  | some g => f g

/-- `m_gameNetworkServer->…`. -/
def useNetworkServer (s : ServerThreads F) (t : ThreadID) (s' : ServerThreads F) : ServerThreads F :=
  if s.networkServer then s' else s.fault t .nullNetworkServer

variable [FloatArith F]

/-! ## Statements -/

/-- The handler's look-up of the unit and what it does to it. The profile that was found before is found
    again. -/
def Request.handle (s : GameServer F) (session : SessionID) : Request F → Option (GameServer F)
  | .moveRequest r      => s.handleMoveRequest ⟨messageIDEvent, .moveRequest r, some session⟩
  | .highlightRequest r => s.handleHighlightRequest ⟨messageIDEvent, .highlightRequest r, some session⟩

/-- A thread executes the statement it is at. -/
def execute (s : ServerThreads F) (t : ThreadID) (clock : Nat → F) :
    Statement F → Option (ServerThreads F)
  | .idle | .ended => none
  | .loopLock => s.lock t .loopTest
  -- the `return` leaves the mutex locked
  | .loopTest => some (if s.networkServer then s.goto t .loopTestGame else s.leave t .ended)
  | .loopTestGame => some (s.goto t (if s.server.game.isSome then .loopProceed else .loopSynchronize))
  | .loopProceed =>
      some (s.useGame t fun _ => { s with server := s.server.proceed clock }.goto t .loopSynchronize)
  -- not under the test
  | .loopSynchronize =>
      match s.server.synchronize with
      | none        => some (s.fault t .emptyGame)
      | some server => some ({ s with server := server }.goto t .loopUnlock)
  | .loopUnlock => some { s.goto t .loopLock with stopMutex := none }
  | .stopLock => s.lock t .stopGame
  | .stopGame =>
      some (s.useGame t fun g =>
        let (g, c) := g.stop s.server.context
        { s with server := { s.server with game := some g, context := c } }.goto t .stopNetworkServer)
  -- its handlers are removed
  | .stopNetworkServer =>
      let c := { s.server.context with messageHandlers := [] }
      some (s.useNetworkServer t ({ s with server := { s.server with context := c } }.goto t .stopDelete))
  | .stopDelete => some ({ s with networkServer := false }.goto t .stopUnlock)
  | .stopUnlock => some ({ s with stopMutex := none }.leave t .idle)
  -- the constructor adds its handlers
  | .newGame levelNumber =>
      let (g, c) := Game.new s.server.context clock
      some (s.useNetworkServer t
        ({ s with server := { s.server with context := c } }.goto t (.assignGame g levelNumber)))
  -- the game that was there before is destroyed
  | .assignGame g levelNumber =>
      let c := match s.server.game with
        | some old => (old.reset s.server.context).2
        | none     => s.server.context
      some ({ s with server := { s.server with game := some g, context := c } }.goto t
        (.load levelNumber))
  | .load levelNumber =>
      some (s.useGame t fun g =>
        let (g, c) := g.load s.server.context levelNumber clock
        { s with server := { s.server with game := some g, context := c } }.leave t .idle)
  | .startTestGame => some (if s.server.game.isSome then s.goto t .start else s.leave t .idle)
  | .start => some (s.useGame t fun _ => { s with server := s.server.startGame clock }.leave t .idle)
  | .acceptedProfile session =>
      some (s.useNetworkServer t (match s.server.playerProfileBySession session with
        | none               => s.leave t .idle
        | some playerProfile => s.goto t (.acceptedPlayerID session playerProfile.playerID)))
  | .acceptedPlayerID session playerID =>
      some ({ s with server := s.server.sendTo session (newPlayerIDMessage playerID) }.goto t
        (.acceptedSynchronize session))
  | .acceptedSynchronize session =>
      some (s.useGame t fun g =>
        { s with server := g.messages.foldl (fun s m => s.sendTo session m) s.server }.leave t .idle)
  | .requestProfile session r =>
      some (s.useNetworkServer t (match s.server.playerProfileBySession session with
        | none   => s.leave t .idle
        | some _ => s.goto t (.requestTestGame session r)))
  | .requestTestGame session r =>
      some (if s.server.game.isSome then s.goto t (.requestUnit session r) else s.leave t .idle)
  | .requestUnit session r =>
      (r.handle s.server session).map fun server =>
        s.useGame t fun _ => { s with server := server }.leave t .idle

/-- A call begins. Before it calls `handleSessionAccepted`, the network server makes the profile. -/
def begin (s : ServerThreads F) (t : ThreadID) : Call F → ServerThreads F
  | .loadGame levelNumber => s.goto t (.newGame levelNumber)
  | .startGame            => s.goto t .startTestGame
  | .handleSessionAccepted session =>
      let server := if s.networkServer then s.server.addProfile session else s.server
      { s with server := server }.goto t (.acceptedProfile session)
  | .handleRequest session r => s.goto t (.requestProfile session r)
  | .stop => s.goto t .stopLock

/-! ## Steps -/

/-- A thread in no call begins one; any other executes its next statement. -/
def step (s : ServerThreads F) : Event F → Option (ServerThreads F)
  | .call t c =>
      match s.threads t with
      | .idle => some (s.begin t c)
      | _     => none
  | .step t access clock =>
      if (s.threads t).access = access then s.execute t clock (s.threads t) else none

/-- The server after `run`: `loop` is about to lock the mutex. -/
def run (unset : Nat → Unset F) : ServerThreads F where
  server        := GameServer.run unset
  networkServer := true
  stopMutex     := none
  threads t     := if t = loopThread then .loopLock else .idle
  faults        := []

end ServerThreads

end Footscreen
