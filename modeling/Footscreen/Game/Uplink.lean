import Footscreen.Game.ByteLink
import Footscreen.Game.Correctness.Controls

/-!
# `Game.Uplink` — the requests of the clients, down to the bytes

The connections from all clients to the server. What a client asks for in `moveUnit` or `highlightUnit` is
delivered to its write queue in the form it has in memory, goes over the stream, and is handed to the
server's handlers when the session's read loop has received it. Each client has a connection of its own;
their pieces, completions and errors, and the server's own calls, come in any order.

The server may be part of something larger (`Host`), such as a `ByteLink`, which is the way back.
-/

namespace Footscreen

open Lib

/-- What a client sends to ask for something. -/
def Controls.Request.toMessage {F : Type} : Controls.Request F → GameMessage F
  | .move r      => ⟨messageIDEvent, .moveRequest r, none⟩
  | .highlight r => ⟨messageIDEvent, .highlightRequest r, none⟩

/-- The calls of a server, or of something that contains one. -/
structure Host (F σ α : Type) where
  step             : σ → α → Option σ
  /-- The server handles a message of a session. -/
  receive          : SessionID → GameMessage F → α
  received         : α → Option (SessionID × GameMessage F)
  received_receive : ∀ session m, received (receive session m) = some (session, m)

/-- The server and the connections to it. -/
structure Uplink (σ : Type) where
  host        : σ
  connections : SessionID → Connection

namespace Uplink

variable {F σ α : Type}

inductive Event (F α : Type) where
  /-- A call that no message causes. -/
  | call (e : α)
  /-- The client of a session asks for something. -/
  | ask (session : SessionID) (r : Controls.Request F) (headerPadding : UInt8)
      (padding : Nat → UInt8) (unset : Buffer)
  /-- What the network does to the session's connection by itself. -/
  | network (session : SessionID) (e : ByteLink.NetworkEvent)

/-- What has become of a session's connection. -/
def connect (u : Uplink σ) (session : SessionID) (c : Connection) : Uplink σ :=
  { u with connections := fun t => if t = session then c else u.connections t }

variable [FloatBytes F] (H : Host F σ α)

/-- What the server makes of newly received packages. -/
def receive (session : SessionID) (host : σ) (received : List (Framing.Frame MessageHeader UInt8)) :
    Option σ :=
  received.foldlM (fun host f =>
    (GameMessage.ofFrame f).bind fun m => H.step host (H.receive session m)) host

def step (u : Uplink σ) : Event F α → Option (Uplink σ)
  | .call e =>
      if (H.received e).isNone then (H.step u.host e).map fun host => { u with host := host }
      else none
  | .ask session r headerPadding padding unset => do
      let messageData ← r.toMessage.toMessageData headerPadding padding unset
      let connection ← (u.connections session).step .client .server (.deliver messageData)
      return u.connect session connection
  | .network session e => do
      let connection ← (u.connections session).step .client .server e.toConnection
      let received := connection.reader.messages.map MessageData.frame
      let host ← receive H session u.host
        (received.drop (u.connections session).reader.messages.length)
      return { u.connect session connection with host := host }

/-- No client has asked for anything. -/
def start (host : σ) (loop : ReadLoop) : Uplink σ := ⟨host, fun _ => .start loop⟩

/-! ## What a run is about -/

/-- The calls that no message caused, in order. -/
def calls : List (Event F α) → List α
  | []              => []
  | .call e :: rest => e :: calls rest
  | _ :: rest       => calls rest

/-- What a session's client has asked for, in order. -/
def asked (session : SessionID) : List (Event F α) → List (Controls.Request F)
  | []                    => []
  | .ask t r _ _ _ :: rest => if t = session then r :: asked session rest else asked session rest
  | _ :: rest             => asked session rest

/-- The session's messages among the calls. -/
def heard (session : SessionID) (es : List α) : List (GameMessage F) :=
  es.filterMap fun e => ((H.received e).filter (·.1 = session)).map Prod.snd

/-- No read or write fails. -/
def Event.isSound : Event F α → Bool
  | .network _ e => e.toConnection.isSound
  | _            => true

end Uplink

/-! ## Servers -/

/-- The message that is handled in a call. -/
def GameServer.Event.received {F : Type} : GameServer.Event F → Option (SessionID × GameMessage F)
  | .handleMessageReceived session m => some (session, m)
  | _                                => none

/-- The server alone. -/
def GameServer.host {F : Type} [FloatArith F] : Host F (GameServer F) (GameServer.Event F) where
  step                 := GameServer.step
  receive              := .handleMessageReceived
  received             := Event.received
  received_receive _ _ := rfl

/-- The message that is handled in a call of the server. -/
def ByteLink.Event.received {F : Type} : ByteLink.Event F → Option (SessionID × GameMessage F)
  | .server e => e.received
  | _         => none

/-- The server with what it sends to one of its clients. -/
def ByteLink.host {F : Type} [FloatArith F] [FloatBytes F] (session : SessionID) :
    Host F (ByteLink F) (ByteLink.Event F) where
  step                 := ByteLink.step session
  receive t m          := .server (.handleMessageReceived t m)
  received             := Event.received
  received_receive _ _ := rfl

end Footscreen
