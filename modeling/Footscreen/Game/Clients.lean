import Footscreen.Game.Correctness.Levels

/-!
# `Game.Clients` — a server and all of its clients

Any number of clients that connect to one server, lose the connection at any point, and connect again. A
connection is one session of the server; what the session has sent and the client has not yet processed is
lost with it. A client keeps its `Game` from one connection to the next: `handleConnectionClosed` cleans up
nothing (`cleanUpLeftGame`).
-/

namespace Footscreen

variable {F : Type}

/-- A client, and the session of its connection. -/
structure Peer (F : Type) where
  client    : GameClient F
  session   : Option SessionID
  /-- How many of the session's messages it has processed. -/
  received  : Nat
  /-- What it has processed, in all its sessions. -/
  processed : List (GameMessage F)
  /-- It has been connected before, or is now. -/
  joined    : Bool
  /-- A level was loaded after it had first connected. -/
  reloaded  : Bool

/-- The client while the server makes a call. -/
def Peer.after (e : GameServer.Event F) (p : Peer F) : Peer F :=
  { p with reloaded := Link.reloadedAfter p.joined p.reloaded e }

structure Clients (F : Type) where
  server : GameServer F
  peers  : Nat → Peer F
  /-- The last broadcast came after the last change. -/
  synced : Bool

namespace Clients

/-- Calls of the server, and what happens to the `k`-th client. -/
inductive Event (F : Type) where
  | server (e : GameServer.Event F)
  | connect (k : Nat) (session : SessionID)
  | receive (k : Nat)
  | disconnect (k : Nat)

def Event.call : Event F → Option (GameServer.Event F)
  | .server e          => some e
  | .connect _ session => some (.handleSessionAccepted session)
  | _                  => none

/-- The calls of the server. -/
def serverCalls (events : List (Event F)) : List (GameServer.Event F) := events.filterMap Event.call

/-- One client changes. -/
def setPeer (c : Clients F) (k : Nat) (p : Peer F) : Clients F :=
  { c with peers := Function.update c.peers k p }

@[simp] theorem peers_setPeer_self (c : Clients F) (k : Nat) (p : Peer F) :
    (c.setPeer k p).peers k = p := Function.update_self _ _ _

theorem peers_setPeer_of_ne (c : Clients F) {j k : Nat} (p : Peer F) (h : j ≠ k) :
    (c.setPeer k p).peers j = c.peers j := Function.update_of_ne h _ _

variable [FloatArith F]

def step (c : Clients F) : Event F → Option (Clients F)
  | .server e =>
      if Link.Allowed c.server e then
        (c.server.step e).map fun s =>
          { server := s, peers := fun k => (c.peers k).after e
            synced := Link.syncedAfter c.synced e }
      else none
  | .connect k session =>
      if (c.peers k).session = none ∧ (c.server.playerProfileBySession session).isNone then
        (c.server.handleSessionAccepted session).map fun s =>
          { c with server := s }.setPeer k
            { c.peers k with session := some session, received := 0, joined := true }
      else none
  | .receive k => do
      let session ← (c.peers k).session
      let m ← (sentTo c.server.outbox session)[(c.peers k).received]?
      let client ← (c.peers k).client.handleMessage m
      return c.setPeer k
        { c.peers k with client := client, received := (c.peers k).received + 1
                         processed := (c.peers k).processed ++ [m] }
  | .disconnect k => some (c.setPeer k { c.peers k with session := none })

/-- A server that has just started, and clients that have not connected yet. -/
def start (unset : Nat → Unset F) (clients : Nat → (Nat → Unset F) × (Nat → F)) : Clients F where
  server := GameServer.run unset
  peers k := {
    client := GameClient.new (clients k).1 (clients k).2
    session := none
    received := 0
    processed := []
    joined := false
    reloaded := false }
  synced := false

/-- How many message IDs the loads of a run generate. -/
def generated : List (Event F) → Nat
  | []                => 0
  | .server e :: rest => Link.generatedBy e + generated rest
  | _ :: rest         => generated rest

end Clients

end Footscreen
