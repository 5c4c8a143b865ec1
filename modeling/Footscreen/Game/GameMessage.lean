import Footscreen.Game.GameUnit
import Footscreen.Game.MessageHandler

/-!
# `Game.GameMessage` — the messages of the game

A `MessageData` whose content has the size that is registered for its type, with the content as the
value it carries. The other types have no registered size; nothing reads their content.
-/

namespace Footscreen

/-- `MoveRequest::NetworkData`. -/
structure MoveRequest (F : Type) where
  unitIndex : UInt8
  angle     : F
  strength  : F

/-- `HighlightRequest::NetworkData`. -/
structure HighlightRequest where
  unitIndex     : UInt8
  isHighlighted : Bool

/-- The type has a registered size. -/
def Registered (t : ContentType) : Prop := messageGameUnit ≤ t ∧ t ≤ messageNewPlayerID

instance (t : ContentType) : Decidable (Registered t) := inferInstanceAs (Decidable (_ ∧ _))

/-- The content of a message, by its type. -/
inductive Payload (F : Type) where
  | gameUnit (d : GameUnitData F)
  | moveRequest (r : MoveRequest F)
  | highlightRequest (r : HighlightRequest)
  | gameObstacle (d : GameObstacleData F)
  | newPlayerID (playerID : PlayerID)
  | other (t : ContentType) (ht : ¬ Registered t)

def Payload.contentType {F : Type} : Payload F → ContentType
  | .gameUnit _         => messageGameUnit
  | .moveRequest _      => messageMoveRequest
  | .highlightRequest _ => messageHighlightRequest
  | .gameObstacle _     => messageGameObstacle
  | .newPlayerID _      => messageNewPlayerID
  | .other t _          => t

/-- A message; the server notes the session it came from. -/
structure GameMessage (F : Type) where
  messageID            : MessageID
  payload              : Payload F
  networkServerSession : Option SessionID

def GameMessage.contentType {F : Type} (m : GameMessage F) : ContentType := m.payload.contentType

variable {F : Type}

/-- What `Message::synchronize` sends of a unit: its one registered member. -/
def GameUnit.toMessage (u : GameUnit F) : GameMessage F := ⟨u.messageID, .gameUnit u.gameUnitData, none⟩

def GameObstacle.toMessage (o : GameObstacle F) : GameMessage F :=
  ⟨o.messageID, .gameObstacle o.gameObstacleData, none⟩

/-- What a `NewPlayerID` sends. -/
def newPlayerIDMessage (playerID : PlayerID) : GameMessage F :=
  ⟨messageIDEvent, .newPlayerID playerID, none⟩

/-- `Message::updateData` on a unit: the member takes the content of a message of its type. -/
def GameUnit.updateData (u : GameUnit F) (m : GameMessage F) : GameUnit F :=
  match m.payload with
  | .gameUnit d => { u with gameUnitData := d }
  | _           => u

def GameObstacle.updateData (o : GameObstacle F) (m : GameMessage F) : GameObstacle F :=
  match m.payload with
  | .gameObstacle d => { o with gameObstacleData := d }
  | _               => o

end Footscreen
