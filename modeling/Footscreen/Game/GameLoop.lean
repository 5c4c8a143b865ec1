import Footscreen.Game.GameServer

/-!
# `Game.GameLoop` — the two threads of the server

`GameServer::loop` proceeds and broadcasts in one thread; the network thread accepts sessions and handles
their messages. A step here sends at most one message: the loops of `Game::synchronize` and `send`, and
the acceptance of a session, are cut at each of their sends. `loop` holds the server's mutex, which the
network thread never takes, so their steps interleave freely. The mutex that each entity holds while it
is sent rules some interleavings out; nothing here depends on it.
-/

namespace Footscreen

variable {F : Type}

/-- Where `loop` is in `m_game->synchronize(ID_ALL_CLIENTS)`. -/
inductive Broadcast (F : Type) where
  | idle
  /-- The `i`-th entity is next. -/
  | entity (i : Nat)
  /-- The `i`-th entity's message goes out, next to the `j`-th profile. -/
  | sending (i : Nat) (m : GameMessage F) (j : Nat)

/-- Where the network thread is in the acceptance of a session. -/
inductive Acceptance where
  | idle
  /-- The profile has been appended. -/
  | newPlayerID (session : SessionID)
  /-- The `i`-th entity is next, in `m_game->synchronize(session)`. -/
  | entity (session : SessionID) (i : Nat)

structure GameLoop (F : Type) where
  server     : GameServer F
  broadcast  : Broadcast F
  acceptance : Acceptance

namespace GameLoop

variable [FloatArith F]

/-! ## Steps -/

/-- The next step of a broadcast. -/
def broadcastNext (r : GameLoop F) : Option (GameLoop F) :=
  match r.broadcast with
  | .idle => none
  | .entity i => do
      let g ← r.server.game
      match g.messages[i]? with
      | none => return { r with broadcast := .idle }
      | some m =>
          -- the tests of `send`
          if m.contentType = messageUndefined ∨ m.messageID = messageIDNone then
            return { r with broadcast := .entity (i + 1) }
          else return { r with broadcast := .sending i m 0 }
  | .sending i m j =>
      match r.server.playerProfiles[j]? with
      | none   => some { r with broadcast := .entity (i + 1) }
      | some p => some { r with server := r.server.sendTo p.session m, broadcast := .sending i m (j + 1) }

/-- The next step of an acceptance. -/
def acceptNext (r : GameLoop F) : Option (GameLoop F) :=
  match r.acceptance with
  | .idle => none
  | .newPlayerID session =>
      match r.server.playerProfileBySession session with
      | none => some { r with acceptance := .idle }
      | some p =>
          some { r with server := r.server.sendTo session (newPlayerIDMessage p.playerID),
                        acceptance := .entity session 0 }
  | .entity session i => do
      let g ← r.server.game
      match g.messages[i]? with
      | none   => return { r with acceptance := .idle }
      | some m =>
          return { r with server := r.server.sendTo session m, acceptance := .entity session (i + 1) }

inductive Event (F : Type) where
  | startGame (clock : Nat → F)
  | proceed (clock : Nat → F)
  | synchronize
  | broadcastNext
  | handleSessionAccepted (session : SessionID)
  | acceptNext
  | handleMessageReceived (session : SessionID) (m : GameMessage F)

/-- One step. `loop` does one thing after the other, and so does the network thread; a session is accepted
    once, and its messages are requests. -/
def step (r : GameLoop F) : Event F → Option (GameLoop F)
  | .startGame clock => some { r with server := r.server.startGame clock }
  | .proceed clock =>
      match r.broadcast with
      | .idle => some { r with server := r.server.proceed clock }
      | _     => none
  | .synchronize =>
      match r.broadcast with
      | .idle => some { r with broadcast := .entity 0 }
      | _     => none
  | .broadcastNext => r.broadcastNext
  | .handleSessionAccepted session =>
      match r.acceptance, r.server.playerProfileBySession session with
      -- a new session, and the network thread is not inside another acceptance
      | .idle, none =>
          some { r with server := r.server.addProfile session, acceptance := .newPlayerID session }
      | _, _        => none
  | .acceptNext => r.acceptNext
  | .handleMessageReceived session m =>
      match r.acceptance with
      | .idle =>
          if m.contentType = messageMoveRequest ∨ m.contentType = messageHighlightRequest then
            (r.server.handleMessageReceived session m).map fun s => { r with server := s }
          else none
      | _     => none

/-- A server that has loaded one level, before any client has joined. -/
def start (unset : Nat → Unset F) (levelNumber : Int) (clock : Nat → F) : GameLoop F where
  server     := (GameServer.run unset).loadGame levelNumber clock
  broadcast  := .idle
  acceptance := .idle

end GameLoop

end Footscreen
