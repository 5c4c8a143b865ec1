import Footscreen.Game.Game

/-!
# `Game.GameClient` — a client

A `GameClient` holds one `Game`, created once; its handlers fill it with what the server sends.
-/

namespace Footscreen

structure GameClient (F : Type) where
  context : Context F
  game    : Game F

namespace GameClient

variable {F : Type} [FloatArith F]

/-- A new client, in a program that has created nothing else. -/
def new (unset : Nat → Unset F) (clock : Nat → F) : GameClient F :=
  let (g, c) := Game.new
    { messageHandlers := [], nextMessageID := messageIDFirst, nextAddress := 0, unset := unset } clock
  { context := c, game := g }

/-- A registered callback, called with a message. -/
def callback (m : GameMessage F) (k : Callback) (s : GameClient F) : Option (GameClient F) :=
  (Game.callback m k (some s.game) s.context).map fun (g, c) => { context := c, game := g }

/-- `handleMessage`, which `onMessageReceived` is connected to. -/
def handleMessage (s : GameClient F) (m : GameMessage F) : Option (GameClient F) :=
  (s.context.messageHandlers.handleMessage (callback m) m.contentType m.messageID s).map Prod.fst

/-- The messages of a list, one after the other. -/
def handleMessages : GameClient F → List (GameMessage F) → Option (GameClient F)
  | s, []      => some s
  | s, m :: ms => (s.handleMessage m).bind fun s => s.handleMessages ms

end GameClient

end Footscreen
