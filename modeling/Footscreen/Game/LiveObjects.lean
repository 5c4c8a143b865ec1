import Footscreen.Game.GameServer

/-!
# `Game.LiveObjects` — objects that handlers are bound to

The server's program as far as objects register handlers: `m_game` with its units and obstacles, and the
other `Message`s on the server's interface. A `Message` is anything with a message ID; what its registered
members hold plays no role here. Its ID can be set at any time, also again.
-/

namespace Footscreen

/-- `messages` are the IDs and addresses of the `Message`s that no game owns. -/
structure LiveObjects (F : Type) where
  server   : GameServer F
  messages : List (MessageID × Nat)

namespace LiveObjects

variable {F : Type}

/-- The server's program after `run`. -/
def run (unset : Nat → Unset F) : LiveObjects F := ⟨GameServer.run unset, []⟩

/-- The constructor of `Message`. -/
def newMessage (s : LiveObjects F) : LiveObjects F :=
  let c := s.server.context
  { server := { s.server with context := c.allocate }
    messages := s.messages ++ [(messageIDNone, c.nextAddress)] }

/-- The destructor of the `Message` at an address. -/
def destroy (s : LiveObjects F) (address : Nat) : Option (LiveObjects F) := do
  let (messageID, _) ← s.messages.find? fun m => m.2 == address
  return { server := { s.server with context := s.server.context.release messageID }
           messages := s.messages.filter fun m => m.2 != address }

/-- `setMessageID` of the object at an address: a `Message`, or a unit or obstacle of the game. -/
def setMessageID (s : LiveObjects F) (address : Nat) (messageID : MessageID) :
    Option (LiveObjects F) :=
  let c := s.server.context.setMessageID address messageID
  if s.messages.any fun m => m.2 == address then
    some { server := { s.server with context := c }
           messages := s.messages.map fun m => if m.2 = address then (messageID, m.2) else m }
  else do
    let g ← s.server.game
    if g.gameUnits.any fun u => u.address == address then
      let g := g.modifyUnit address fun u => { u with messageID := messageID }
      return { s with server := { s.server with game := some g, context := c } }
    else if g.gameObstacles.any fun o => o.address == address then
      let g := g.modifyObstacle address fun o => { o with messageID := messageID }
      return { s with server := { s.server with game := some g, context := c } }
    else none

/-- `generateMessageID`. -/
def generateMessageID (s : LiveObjects F) (address : Nat) : Option (LiveObjects F) :=
  let c := s.server.context
  let server := { s.server with context := { c with nextMessageID := c.nextMessageID + 1 } }
  setMessageID { s with server := server } address c.nextMessageID

/-- `createFromData`: `setMessageID`, and then `updateData`. -/
def createFromData (s : LiveObjects F) (address : Nat) (m : GameMessage F) : Option (LiveObjects F) := do
  let s ← s.setMessageID address m.messageID
  let updateData g := (Game.modifyUnit g address (·.updateData m)).modifyObstacle address (·.updateData m)
  return { s with server := { s.server with game := s.server.game.map updateData } }

variable [FloatArith F]

/-- `GameServer::loadGame`. -/
def loadGame (s : LiveObjects F) (levelNumber : Int) (clock : Nat → F) : LiveObjects F :=
  { s with server := s.server.loadGame levelNumber clock }

/-- `Game::load` of `m_game`. -/
def load (s : LiveObjects F) (levelNumber : Int) (clock : Nat → F) : Option (LiveObjects F) := do
  let g ← s.server.game
  let (g, c) := g.load s.server.context levelNumber clock
  return { s with server := { s.server with game := some g, context := c } }

omit [FloatArith F] in
/-- `Game::stop` of `m_game`. -/
def stop (s : LiveObjects F) : Option (LiveObjects F) := do
  let g ← s.server.game
  let (g, c) := g.stop s.server.context
  return { s with server := { s.server with game := some g, context := c } }

inductive Event (F : Type) where
  | loadGame (levelNumber : Int) (clock : Nat → F)
  | load (levelNumber : Int) (clock : Nat → F)
  | stop
  | newMessage
  | setMessageID (address : Nat) (messageID : MessageID)
  | generateMessageID (address : Nat)
  | createFromData (address : Nat) (m : GameMessage F)
  | destroy (address : Nat)

def step (s : LiveObjects F) : Event F → Option (LiveObjects F)
  | .loadGame levelNumber clock => some (s.loadGame levelNumber clock)
  | .load levelNumber clock => s.load levelNumber clock
  | .stop => s.stop
  | .newMessage => some s.newMessage
  | .setMessageID address messageID => s.setMessageID address messageID
  | .generateMessageID address => s.generateMessageID address
  | .createFromData address m => s.createFromData address m
  | .destroy address => s.destroy address

end LiveObjects

end Footscreen
