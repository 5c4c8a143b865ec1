import Footscreen.Game.Correctness.Levels
import Footscreen.Game.Payload
import Footscreen.Network.Connection

/-!
# `Game.ByteLink` — a server and a client, down to the bytes

The server and one of its clients with the connection between them. What the server sends to the client's
session is delivered to the session's write queue in the form it has in memory, goes over the stream, and
is handed to the client's handlers when the client's read loop has received it. The server's own steps,
the sends of a broadcast, the pieces on the stream, completions and errors come in any order.
-/

namespace Footscreen

open Lib

variable {F : Type} [FloatBytes F]

/-- `Message::synchronize`, for the one registered member of a message: the package that is sent. The padding
    of the header and of the member, and the rest of `m_content`, hold anything. -/
def GameMessage.toMessageData (m : GameMessage F) (headerPadding : UInt8) (padding : Nat → UInt8)
    (unset : Buffer) : Option MessageData :=
  let bytes := m.payload.toBytes padding
  (unset.copyIn bytes).map fun content =>
    { header := { messageID := m.messageID, contentType := m.contentType, padding := headerPadding,
                  contentLength := UInt16.ofNat bytes.length }
      content := content
      networkServerSession := none }

/-- The message that a received package is to the handlers. -/
def GameMessage.ofFrame (f : Framing.Frame MessageHeader UInt8) : Option (GameMessage F) :=
  (Payload.ofBytes f.1.contentType f.2).map fun payload => ⟨f.1.messageID, payload, none⟩

/-- A server and one of its clients. -/
structure ByteLink (F : Type) where
  server     : GameServer F
  connection : Connection
  client     : GameClient F
  /-- How many of the messages to the client its session has been handed. -/
  delivered  : Nat
  /-- The last broadcast came after the last change. -/
  synced     : Bool
  /-- A level was loaded after the client had connected. -/
  reloaded   : Bool

namespace ByteLink

/-- What the network does by itself. -/
inductive NetworkEvent where
  | transmit (i n : Nat)
  | completeWrite (i : Nat) (error : Bool)
  | completeRead (e : ReadCompletion)

def NetworkEvent.toConnection : NetworkEvent → Connection.Event
  | .transmit i n          => .transmit i n
  | .completeWrite i error => .completeWrite i error
  | .completeRead e        => .completeRead e

inductive Event (F : Type) where
  | server (e : GameServer.Event F)
  /-- The session is handed the next message. -/
  | deliver (headerPadding : UInt8) (padding : Nat → UInt8) (unset : Buffer)
  | network (e : NetworkEvent)

variable [FloatArith F]

/-- What the client makes of newly received packages. -/
def receive (client : GameClient F) (received : List (Framing.Frame MessageHeader UInt8)) :
    Option (GameClient F) :=
  received.foldlM (fun client f => (GameMessage.ofFrame f).bind client.handleMessage) client

def step (session : SessionID) (l : ByteLink F) : Event F → Option (ByteLink F)
  | .server e =>
      if Link.Allowed l.server e then
        (l.server.step e).map fun s =>
          { l with server := s, synced := Link.syncedAfter l.synced e,
                   reloaded := Link.reloadedAfter
                     (l.server.playerProfileBySession session).isSome l.reloaded e }
      else none
  | .deliver headerPadding padding unset => do
      let m ← (sentTo l.server.outbox session)[l.delivered]?
      let messageData ← m.toMessageData headerPadding padding unset
      let connection ← l.connection.step .server .client (.deliver messageData)
      return { l with connection := connection, delivered := l.delivered + 1 }
  | .network e => do
      let connection ← l.connection.step .server .client e.toConnection
      let received := connection.reader.messages.map MessageData.frame
      let client ← receive l.client (received.drop l.connection.reader.messages.length)
      return { l with connection := connection, client := client }

/-- A server that has just started, and a client that has not connected yet. -/
def start (unset unset' : Nat → Unset F) (clock : Nat → F) (loop : ReadLoop) : ByteLink F where
  server     := GameServer.run unset
  connection := Connection.start loop
  client     := GameClient.new unset' clock
  delivered  := 0
  synced     := false
  reloaded   := false

omit [FloatBytes F] [FloatArith F]

/-- How many message IDs the loads of a run generate. -/
def generated : List (Event F) → Nat
  | []                => 0
  | .server e :: rest => Link.generatedBy e + generated rest
  | _ :: rest         => generated rest

def Event.call : Event F → Option (GameServer.Event F)
  | .server e => some e
  | _         => none

/-- The calls of the server. -/
def serverCalls (events : List (Event F)) : List (GameServer.Event F) := events.filterMap Event.call

/-- No read or write fails. -/
def Event.isSound : Event F → Bool
  | .network e => e.toConnection.isSound
  | _          => true

/-- The session is handed the next message, or the network goes on without failing. -/
def Event.isProgress : Event F → Bool
  | .server _      => false
  | .deliver _ _ _ => true
  | .network e     => e.toConnection.isProgress

end ByteLink

end Footscreen
