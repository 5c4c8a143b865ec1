import Footscreen.Game.GameMessage

/-!
# `Game.Game` — the state of one game

The units and obstacles of a level, the timers of a round, and the player's own ID. The server computes
with a `Game`; a client's `Game` is filled by the messages of the server. Both are the same class, and
both register the same handlers.

A `Context` is what a game shares with the rest of its program: the handlers of its network interface,
the message ID generated next, and the memory that objects are created in. Every new object has an
address of its own. A timer's reading is a parameter: `clock i` is the `i`-th time that a function reads
the clock.
-/

namespace Footscreen

open FloatArith

/-- What the registered callbacks are bound to. -/
inductive Callback where
  | handleGameUnit (game : Nat)
  | handleGameObstacle (game : Nat)
  | handleNewPlayerID (game : Nat)
  | updateData (message : Nat)
  | handleMoveRequest
  | handleHighlightRequest
deriving DecidableEq

/-- The members of a new object that its constructor leaves as they are in memory. -/
structure Unset (F : Type) where
  gameUnitData     : GameUnitData F
  isHunting        : Bool
  gameObstacleData : GameObstacleData F

structure Context (F : Type) where
  messageHandlers : MessageHandlers Callback
  nextMessageID   : MessageID
  nextAddress     : Nat
  unset           : Nat → Unset F

variable {F : Type}

/-! ## Messages as objects -/

namespace Context

/-- The handler that `Message::setMessageID` adds. -/
def setMessageID (c : Context F) (address : Nat) (messageID : MessageID) : Context F :=
  if messageIDFirst ≤ messageID then
    { c with messageHandlers :=
        c.messageHandlers.addMessageHandler messageAllTypes messageID (.updateData address) }
  else c

/-- The destructor of a `Message`. -/
def release (c : Context F) (messageID : MessageID) : Context F :=
  if messageIDFirst ≤ messageID then
    { c with messageHandlers := c.messageHandlers.removeAllMessageHandlers messageID }
  else c

/-- The next object's memory is taken. -/
def allocate (c : Context F) : Context F := { c with nextAddress := c.nextAddress + 1 }

end Context

namespace GameUnit

variable [FloatArith F]

/-- The constructor of `GameUnit`. -/
def new (c : Context F) : GameUnit F × Context F :=
  let unset := c.unset c.nextAddress
  ({ address := c.nextAddress, messageID := messageIDNone,
     gameUnitData := { unset.gameUnitData with
       isLiving := true, hasArrived := false, isHighlighted := false },
     velocity := .zero, acceleration := .zero, isHunting := unset.isHunting }, c.allocate)

/-- `setMessageID`. -/
def setMessageID (u : GameUnit F) (c : Context F) (messageID : MessageID) : GameUnit F × Context F :=
  ({ u with messageID := messageID }, c.setMessageID u.address messageID)

/-- `generateMessageID`; the counter has 16 bits. -/
def generateMessageID (u : GameUnit F) (c : Context F) : GameUnit F × Context F :=
  u.setMessageID { c with nextMessageID := c.nextMessageID + 1 } c.nextMessageID

/-- `createFromData`. -/
def createFromData (u : GameUnit F) (c : Context F) (m : GameMessage F) : GameUnit F × Context F :=
  let (u, c) := u.setMessageID c m.messageID
  (u.updateData m, c)

end GameUnit

namespace GameObstacle

variable [FloatArith F]

/-- The constructor of `GameObstacle`. -/
def new (c : Context F) : GameObstacle F × Context F :=
  ({ address := c.nextAddress, messageID := messageIDNone,
     gameObstacleData := { (c.unset c.nextAddress).gameObstacleData with radius := ofInt 64 } },
   c.allocate)

/-- `setMessageID`. -/
def setMessageID (o : GameObstacle F) (c : Context F) (messageID : MessageID) :
    GameObstacle F × Context F :=
  ({ o with messageID := messageID }, c.setMessageID o.address messageID)

/-- `generateMessageID`. -/
def generateMessageID (o : GameObstacle F) (c : Context F) : GameObstacle F × Context F :=
  o.setMessageID { c with nextMessageID := c.nextMessageID + 1 } c.nextMessageID

/-- `createFromData`. -/
def createFromData (o : GameObstacle F) (c : Context F) (m : GameMessage F) :
    GameObstacle F × Context F :=
  let (o, c) := o.setMessageID c m.messageID
  (o.updateData m, c)

end GameObstacle

/-! ## The game -/

structure Game (F : Type) where
  address       : Nat
  hasStarted    : Bool
  hasFinished   : Bool
  timer         : F
  durationTimer : F
  lastUnitTime  : F
  gameUnits     : List (GameUnit F)
  gameObstacles : List (GameObstacle F)
  ownPlayerID   : PlayerID

namespace Game

/-! ### Lookup -/

/-- `unitByID`. -/
def unitByID (g : Game F) (messageID : MessageID) : Option (GameUnit F) :=
  g.gameUnits.find? fun u => u.messageID == messageID

/-- `obstacleByID`. -/
def obstacleByID (g : Game F) (messageID : MessageID) : Option (GameObstacle F) :=
  g.gameObstacles.find? fun o => o.messageID == messageID

/-- The loop of `unitByIndex`; the running index has 8 bits. -/
def unitByIndexFrom (playerID : PlayerID) (index : UInt8) :
    UInt8 → List (GameUnit F) → Option (GameUnit F)
  | _, [] => none
  | currentIndex, u :: us =>
      -- another player's unit is skipped and not counted
      if u.gameUnitData.owner ≠ playerID then unitByIndexFrom playerID index currentIndex us
      else if currentIndex = index then some u
      else unitByIndexFrom playerID index (currentIndex + 1) us

/-- `unitByIndex`: the player's unit with this index; empty for an opponent's units. -/
def unitByIndex (g : Game F) (playerID : PlayerID) (index : UInt8) : Option (GameUnit F) :=
  -- the server's own ID is `idNone`, so it looks among any player's units
  if g.ownPlayerID ≠ idNone ∧ g.ownPlayerID ≠ playerID then none
  else unitByIndexFrom playerID index 0 g.gameUnits

/-- `unitByIndex` among the own units. -/
def ownUnitByIndex (g : Game F) (index : UInt8) : Option (GameUnit F) :=
  g.unitByIndex g.ownPlayerID index

/-- A change of the unit at an address, through a pointer to it. -/
def modifyUnit (g : Game F) (address : Nat) (f : GameUnit F → GameUnit F) : Game F :=
  { g with gameUnits := g.gameUnits.map fun u => if u.address = address then f u else u }

def modifyObstacle (g : Game F) (address : Nat) (f : GameObstacle F → GameObstacle F) : Game F :=
  { g with gameObstacles := g.gameObstacles.map fun o => if o.address = address then f o else o }

/-! ### Requests -/

/-- The request that `moveUnit` sends to the server. -/
def moveUnit (index : Int) (angle strength : F) : GameMessage F :=
  ⟨messageIDEvent, .moveRequest ⟨UInt8.ofInt index, angle, strength⟩, none⟩

/-- The request that `highlightUnit` sends to the server. -/
def highlightUnit (index : Int) (isHighlighted : Bool) : GameMessage F :=
  ⟨messageIDEvent, .highlightRequest ⟨UInt8.ofInt index, isHighlighted⟩, none⟩

/-! ### Handlers -/

/-- `handleNewPlayerID`. A `NewPlayerID` that has received nothing holds `idNone`. -/
def handleNewPlayerID (g : Game F) (m : GameMessage F) : Game F :=
  match m.payload with
  | .newPlayerID playerID => { g with ownPlayerID := playerID }
  | _                     => { g with ownPlayerID := idNone }

variable [FloatArith F]

/-- `handleGameUnit`: create the unit, if there is none with the message's ID. -/
def handleGameUnit (g : Game F) (c : Context F) (m : GameMessage F) : Game F × Context F :=
  if (g.unitByID m.messageID).isSome then (g, c)
  else
    let (newGameUnit, c) := GameUnit.new c
    let (newGameUnit, c) := newGameUnit.createFromData c m
    ({ g with gameUnits := g.gameUnits ++ [newGameUnit] }, c)

/-- `handleGameObstacle`. -/
def handleGameObstacle (g : Game F) (c : Context F) (m : GameMessage F) : Game F × Context F :=
  if (g.obstacleByID m.messageID).isSome then (g, c)
  else
    let (newGameObstacle, c) := GameObstacle.new c
    let (newGameObstacle, c) := newGameObstacle.createFromData c m
    ({ g with gameObstacles := g.gameObstacles ++ [newGameObstacle] }, c)

/-- `initializeMessageHandlers`. -/
def initializeMessageHandlers (c : Context F) (address : Nat) : Context F :=
  let hs := c.messageHandlers
  let hs := hs.addMessageHandler messageGameUnit messageIDAll (.handleGameUnit address)
  let hs := hs.addMessageHandler messageGameObstacle messageIDAll (.handleGameObstacle address)
  let hs := hs.addMessageHandler messageNewPlayerID messageIDAll (.handleNewPlayerID address)
  { c with messageHandlers := hs }

/-- The constructor of `Game`. -/
def new (c : Context F) (clock : Nat → F) : Game F × Context F :=
  ({ address := c.nextAddress, hasStarted := false, hasFinished := false,
     timer := clock 0, durationTimer := clock 1, lastUnitTime := -ofInt 1,
     gameUnits := [], gameObstacles := [], ownPlayerID := idNone },
   initializeMessageHandlers c.allocate c.nextAddress)

/-- A callback bound to a game, or to a unit or obstacle of one. It is `none` when that object is not the
    game `game`, nor one of its entities: it has been destroyed. -/
def callback (m : GameMessage F) (k : Callback) (game : Option (Game F)) (c : Context F) :
    Option (Game F × Context F) :=
  match game with
  | none => none
  | some g =>
      match k with
      | .handleGameUnit a     => if g.address = a then some (g.handleGameUnit c m) else none
      | .handleGameObstacle a => if g.address = a then some (g.handleGameObstacle c m) else none
      | .handleNewPlayerID a  => if g.address = a then some (g.handleNewPlayerID m, c) else none
      | .updateData a =>
          if g.gameUnits.any (fun u => u.address = a) then
            some (g.modifyUnit a (·.updateData m), c)
          else if g.gameObstacles.any (fun o => o.address = a) then
            some (g.modifyObstacle a (·.updateData m), c)
          else none
      | .handleMoveRequest | .handleHighlightRequest => none

/-! ### Synchronization -/

/-- What `synchronize` sends, in order: the units, then the obstacles. -/
def messages (g : Game F) : List (GameMessage F) :=
  g.gameUnits.map GameUnit.toMessage ++ g.gameObstacles.map GameObstacle.toMessage

/-! ### Rounds -/

/-- `reset`: the units and obstacles are destroyed. -/
def reset (g : Game F) (c : Context F) : Game F × Context F :=
  ({ g with gameUnits := [], gameObstacles := [] },
   (g.gameUnits.map (·.messageID) ++ g.gameObstacles.map (·.messageID)).foldl Context.release c)

/-- `start`. -/
def start (g : Game F) (clock : Nat → F) : Game F :=
  { g with hasStarted := true, durationTimer := clock 0 }

/-- `stop`. -/
def stop (g : Game F) (c : Context F) : Game F × Context F :=
  { g with hasStarted := false }.reset c

/-- What the scoring at the end of a round prints. -/
structure Result (F : Type) where
  arrivedUnits   : Nat
  survivingUnits : Nat
  lastUnitTime   : F

def Result.score (r : Result F) : Nat := 2 * r.arrivedUnits + r.survivingUnits

/-- The scoring of `proceed`. -/
def result (g : Game F) : Result F where
  arrivedUnits := g.gameUnits.countP fun u => !u.isHunting && u.hasArrived && u.isLiving
  survivingUnits := g.gameUnits.countP fun u => !u.isHunting && !u.hasArrived && u.isLiving
  lastUnitTime := g.lastUnitTime

/-- The movement loop of `proceed`, from the `i`-th unit on: the units, and `m_lastUnitTime`. -/
def moveUnits (timeDifference durationTimer : F) (clock : Nat → F) :
    Nat → List (GameUnit F) → F → List (GameUnit F) × F
  | _, [], lastUnitTime => ([], lastUnitTime)
  | i, u :: us, lastUnitTime =>
      let u := (u.move timeDifference).reflectOnWalls
      -- only a fleeing unit arrives, and its time is noted
      if !u.hasArrived && !u.isHunting && decide (ofInt 480 - GameUnit.unitRadius ≤ u.y) then
        let (us, lastUnitTime) :=
          moveUnits timeDifference durationTimer clock (i + 1) us (clock (3 + i) - durationTimer)
        (u.setArrived true :: us, lastUnitTime)
      else
        let (us, lastUnitTime) := moveUnits timeDifference durationTimer clock (i + 1) us lastUnitTime
        (u :: us, lastUnitTime)

/-- The obstacle loop of `proceed` for one unit. -/
def separateUnit (obstacles : List (GameObstacle F)) (u : GameUnit F) : GameUnit F :=
  obstacles.foldl (fun u o => if u.collidesWithObstacle o then u.separateFrom o else u) u

/-- One pair of the collision loop of `proceed`: the one of the two that is not hunting dies. -/
def collideUnits (us : List (GameUnit F)) (i j : Nat) : List (GameUnit F) :=
  match us[i]?, us[j]? with
  | some u, some v =>
      -- a pair is looked at twice, once from each side
      if i = j || !u.collidesWith v then us
      else
        let us := if !u.isHunting then us.modify i (·.setLiving false) else us
        if !v.isHunting then us.modify j (·.setLiving false) else us
  | _, _ => us

/-- The collision loops of `proceed`. -/
def catchUnits (us : List (GameUnit F)) : List (GameUnit F) :=
  (List.range us.length).foldl
    (fun us i => (List.range us.length).foldl (fun us j => collideUnits us i j) us) us

/-- `proceed`: the next state, and the result if the round ends. -/
def proceed (g : Game F) (clock : Nat → F) : Game F × Option (Result F) :=
  let timeDifference := clock 0 - g.timer
  let g := { g with timer := clock 1 }
  if !g.hasStarted then (g, none)
  else
    -- the scoring runs once, and nothing moves from then on
    let finishes := decide (ofInt 60 < clock 2 - g.durationTimer) && !g.hasFinished
    let result := if finishes then some g.result else none
    let g := { g with hasFinished := g.hasFinished || finishes }
    if g.hasFinished then (g, result)
    else
      let (us, lastUnitTime) :=
        moveUnits timeDifference g.durationTimer clock 0 g.gameUnits g.lastUnitTime
      let us := us.map (separateUnit g.gameObstacles)
      ({ g with gameUnits := catchUnits us, lastUnitTime := lastUnitTime }, result)

/-! ### Levels -/

/-- The tables of `load`. -/
structure Level where
  unitPositionsPlayer1 : List Point
  unitPositionsPlayer2 : List Point
  obstaclePositions    : List Point
  obstacleRadii        : List Int

/-- The level with a number; every other number is level 1. -/
def level (levelNumber : Int) : Level :=
  if levelNumber = 2 then
    { unitPositionsPlayer1 := [⟨20, 96⟩, ⟨100, 80⟩, ⟨180, 64⟩, ⟨380, 80⟩, ⟨460, 96⟩]
      unitPositionsPlayer2 := [⟨20, 360⟩, ⟨100, 344⟩, ⟨300, 328⟩, ⟨380, 344⟩, ⟨460, 360⟩]
      obstaclePositions := [⟨240, 240⟩, ⟨0, 0⟩, ⟨0, 480⟩, ⟨480, 0⟩, ⟨480, 480⟩]
      obstacleRadii := [50, 50, 50, 50, 50] }
  else if levelNumber = 3 then
    { unitPositionsPlayer1 := [⟨20, 96⟩, ⟨60, 80⟩, ⟨100, 64⟩, ⟨420, 80⟩, ⟨460, 96⟩]
      unitPositionsPlayer2 := [⟨20, 360⟩, ⟨60, 344⟩, ⟨380, 328⟩, ⟨420, 344⟩, ⟨460, 360⟩]
      obstaclePositions := [⟨240, 0⟩, ⟨240, 480⟩, ⟨240, 80⟩, ⟨240, 400⟩, ⟨0, 240⟩, ⟨480, 240⟩,
        ⟨160, 240⟩, ⟨320, 240⟩]
      obstacleRadii := [75, 75, 60, 60, 50, 50, 30, 30] }
  else if levelNumber = 4 then
    { unitPositionsPlayer1 := [⟨340, 96⟩, ⟨370, 80⟩, ⟨400, 64⟩, ⟨430, 80⟩, ⟨460, 96⟩]
      unitPositionsPlayer2 := [⟨20, 360⟩, ⟨50, 344⟩, ⟨80, 328⟩, ⟨110, 344⟩, ⟨140, 360⟩]
      obstaclePositions := [⟨40, 40⟩, ⟨440, 440⟩, ⟨240, 40⟩, ⟨240, 440⟩, ⟨200, 200⟩, ⟨280, 280⟩]
      obstacleRadii := [100, 100, 75, 75, 30, 30] }
  else
    { unitPositionsPlayer1 := [⟨20, 96⟩, ⟨60, 96⟩, ⟨100, 96⟩, ⟨420, 96⟩, ⟨460, 96⟩]
      unitPositionsPlayer2 := [⟨20, 360⟩, ⟨60, 360⟩, ⟨380, 360⟩, ⟨420, 360⟩, ⟨460, 360⟩]
      obstaclePositions := [⟨44, 192⟩, ⟨44 + 88, 192⟩, ⟨436, 192⟩, ⟨436 - 88, 192⟩, ⟨216, 272⟩,
        ⟨264, 272⟩]
      obstacleRadii := [44, 44, 44, 44, 12, 12] }

/-- A unit loop of `load`. -/
def loadUnits (owner : PlayerID) (isHunting : Bool) :
    List Point → UInt8 → Game F × Context F → Game F × Context F
  | [], _, s => s
  | p :: ps, unitNumber, (g, c) =>
      let (u, c) := GameUnit.new c
      let (u, c) := u.generateMessageID c
      let u := u.setNumber unitNumber
      let u := u.setOwner owner
      let u := u.setPosition (ofInt p.x) (ofInt p.y)
      let u := u.setHunting isHunting
      loadUnits owner isHunting ps (unitNumber + 1) ({ g with gameUnits := g.gameUnits ++ [u] }, c)

/-- The obstacle loop of `load`. -/
def loadObstacles : List (Point × Int) → Game F × Context F → Game F × Context F
  | [], s => s
  | (p, radius) :: ps, (g, c) =>
      let (o, c) := GameObstacle.new c
      let (o, c) := o.generateMessageID c
      let o := o.setPosition (ofInt p.x) (ofInt p.y)
      let o := o.setRadius (ofInt radius)
      loadObstacles ps ({ g with gameObstacles := g.gameObstacles ++ [o] }, c)

/-- `load`. -/
def load (g : Game F) (c : Context F) (levelNumber : Int) (clock : Nat → F) : Game F × Context F :=
  let l := level levelNumber
  let s := g.reset c
  let s := loadUnits idFirstClient false l.unitPositionsPlayer1 1 s
  let s := loadUnits (idFirstClient + 1) true l.unitPositionsPlayer2 1 s
  let (g, c) := loadObstacles (l.obstaclePositions.zip l.obstacleRadii) s
  ({ g with timer := clock 0 }, c)

end Game

end Footscreen
