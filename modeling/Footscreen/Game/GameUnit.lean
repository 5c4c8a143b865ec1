import Footscreen.Game.FloatArith
import Footscreen.Network.MessageData

/-!
# `Game.GameUnit` — units and obstacles

The two kinds of entity of a game. `GameUnitData` and `GameObstacleData` are what is synchronized over
the network; a unit also has a velocity, an acceleration and a hunting flag that stay on the server. An
entity is a `Message` of the network with one registered member, its data: its message ID is the
header's, and `address` is the object that the callbacks of its handlers are bound to.
-/

namespace Footscreen

open FloatArith

variable {F : Type} [FloatArith F]

/-! ## Vectors -/

/-- `cv::Vec2f` and `cv::Point2f`. -/
structure Vec2 (F : Type) where
  x : F
  y : F
deriving DecidableEq

/-- `cv::Point`. -/
structure Point where
  x : Int
  y : Int
deriving DecidableEq

def Vec2.zero : Vec2 F := ⟨ofInt 0, ofInt 0⟩
def Vec2.add (v w : Vec2 F) : Vec2 F := ⟨v.x + w.x, v.y + w.y⟩
def Vec2.sub (v w : Vec2 F) : Vec2 F := ⟨v.x - w.x, v.y - w.y⟩
def Vec2.scale (v : Vec2 F) (a : F) : Vec2 F := ⟨v.x * a, v.y * a⟩
def Vec2.dot (v w : Vec2 F) : F := v.x * w.x + v.y * w.y
def Vec2.norm (v : Vec2 F) : F := sqrt (v.dot v)

def Point.sub (p q : Point) : Point := ⟨p.x - q.x, p.y - q.y⟩
def Point.toVec (p : Point) : Vec2 F := ⟨ofInt p.x, ofInt p.y⟩

/-- `norm` of a point with integer coordinates. -/
def Point.norm (p : Point) : F := sqrt (ofInt (p.x * p.x + p.y * p.y))

/-! ## Obstacles -/

structure GameObstacleData (F : Type) where
  x      : F
  y      : F
  radius : F
deriving DecidableEq

structure GameObstacle (F : Type) where
  address          : Nat
  messageID        : MessageID
  gameObstacleData : GameObstacleData F

namespace GameObstacle

def radius (o : GameObstacle F) : F := o.gameObstacleData.radius

/-- `position`: the coordinates, cut to integers. -/
def position (o : GameObstacle F) : Point := ⟨trunc o.gameObstacleData.x, trunc o.gameObstacleData.y⟩

def setPosition (o : GameObstacle F) (x y : F) : GameObstacle F :=
  { o with gameObstacleData := { o.gameObstacleData with x := x, y := y } }

def setRadius (o : GameObstacle F) (radius : F) : GameObstacle F :=
  { o with gameObstacleData := { o.gameObstacleData with radius := radius } }

end GameObstacle

/-! ## Units -/

structure GameUnitData (F : Type) where
  x             : F
  y             : F
  number        : UInt8
  owner         : PlayerID
  isHighlighted : Bool
  isLiving      : Bool
  hasArrived    : Bool
deriving DecidableEq

structure GameUnit (F : Type) where
  address      : Nat
  messageID    : MessageID
  gameUnitData : GameUnitData F
  velocity     : Vec2 F
  acceleration : Vec2 F
  isHunting    : Bool

namespace GameUnit

/-! ### Constants -/

def maximalVelocity : F := ofInt 110
def maximalAcceleration : F := ofInt 1000
def brakeFactor : F := ofInt 10

/-- The radius of every unit (`s_radius`). -/
def unitRadius : F := ofInt 8

/-! ### Members -/

def x (u : GameUnit F) : F := u.gameUnitData.x
def y (u : GameUnit F) : F := u.gameUnitData.y
def owner (u : GameUnit F) : PlayerID := u.gameUnitData.owner
def isLiving (u : GameUnit F) : Bool := u.gameUnitData.isLiving
def hasArrived (u : GameUnit F) : Bool := u.gameUnitData.hasArrived

def setPosition (u : GameUnit F) (x y : F) : GameUnit F :=
  { u with gameUnitData := { u.gameUnitData with x := x, y := y } }

def setNumber (u : GameUnit F) (number : UInt8) : GameUnit F :=
  { u with gameUnitData := { u.gameUnitData with number := number } }

def setOwner (u : GameUnit F) (owner : PlayerID) : GameUnit F :=
  { u with gameUnitData := { u.gameUnitData with owner := owner } }

def setLiving (u : GameUnit F) (isLiving : Bool) : GameUnit F :=
  { u with gameUnitData := { u.gameUnitData with isLiving := isLiving } }

def setArrived (u : GameUnit F) (hasArrived : Bool) : GameUnit F :=
  { u with gameUnitData := { u.gameUnitData with hasArrived := hasArrived } }

def setHighlighted (u : GameUnit F) (isHighlighted : Bool) : GameUnit F :=
  { u with gameUnitData := { u.gameUnitData with isHighlighted := isHighlighted } }

def setHunting (u : GameUnit F) (isHunting : Bool) : GameUnit F := { u with isHunting := isHunting }

def setAcceleration (u : GameUnit F) (acceleration : Vec2 F) : GameUnit F :=
  { u with acceleration := acceleration }

section Setters

omit [FloatArith F]

@[simp] theorem isLiving_setLiving (u : GameUnit F) (b : Bool) : (u.setLiving b).isLiving = b := rfl

@[simp] theorem setLiving_self (u : GameUnit F) : u.setLiving u.isLiving = u := rfl

@[simp] theorem acceleration_setAcceleration (u : GameUnit F) (a : Vec2 F) :
    (u.setAcceleration a).acceleration = a := rfl

@[simp] theorem isHighlighted_setHighlighted (u : GameUnit F) (b : Bool) :
    (u.setHighlighted b).gameUnitData.isHighlighted = b := rfl

end Setters

/-- `position`: the coordinates, cut to integers. -/
def position (u : GameUnit F) : Point := ⟨trunc u.x, trunc u.y⟩

/-- The colour that `render` draws the unit in: blue, green and red. -/
def color (u : GameUnit F) : Nat × Nat × Nat :=
  if u.hasArrived then (255, 255, 255)
  else if !u.isLiving then (0, 0, 0)
  else if u.owner = idFirstClient then (192, 160, 0)
  else (0, 64, 192)

/-! ### Movement -/

/-- `move`: brake, accelerate, limit the speed, then move. -/
def move (u : GameUnit F) (timeDifference : F) : GameUnit F :=
  if !u.isLiving || u.hasArrived then
    { u with velocity := .zero, acceleration := .zero }
  else
    let acceleration := u.acceleration.sub (u.velocity.scale brakeFactor)
    let velocity := u.velocity.add (acceleration.scale timeDifference)
    let velocityNorm := velocity.norm
    let velocity :=
      if maximalVelocity < velocityNorm then velocity.scale (maximalVelocity / velocityNorm)
      else velocity
    { u with velocity := velocity }.setPosition
      (u.x + velocity.x * timeDifference) (u.y + velocity.y * timeDifference)

/-- `reflectOnWalls`: beyond a wall the coordinate is set back to it and the velocity turned. -/
def reflectOnWalls (u : GameUnit F) : GameUnit F :=
  let low : F := unitRadius / ofInt 2
  let high : F := ofInt 480 - unitRadius / ofInt 2
  let u := if u.x < low then
    { u.setPosition low u.y with velocity := ⟨-u.velocity.x, u.velocity.y⟩ } else u
  let u := if high < u.x then
    { u.setPosition high u.y with velocity := ⟨-u.velocity.x, u.velocity.y⟩ } else u
  let u := if u.y < low then
    { u.setPosition u.x low with velocity := ⟨u.velocity.x, -u.velocity.y⟩ } else u
  if high < u.y then
    { u.setPosition u.x high with velocity := ⟨u.velocity.x, -u.velocity.y⟩ } else u

/-! ### Collisions -/

/-- `collidesWith` another unit: only a hunting one with one that is not. -/
def collidesWith (u v : GameUnit F) : Bool :=
  if u.isHunting && v.isHunting then false
  else if !u.isHunting && !v.isHunting then false
  else
    let distance : F := (u.position.sub v.position).norm
    decide (distance < ofInt 2 * unitRadius)

/-- `collidesWith` an obstacle. -/
def collidesWithObstacle (u : GameUnit F) (o : GameObstacle F) : Bool :=
  let distance : F := (u.position.sub o.position).norm
  decide (distance < unitRadius + o.radius)

/-- `reflectOn`: take out the velocity along the axis and put its amount back, outward. -/
def reflectOn (u : GameUnit F) (o : GameObstacle F) : GameUnit F :=
  let axis1 : Vec2 F := (u.position.sub o.position).toVec
  let axis1 := axis1.scale (ofInt 1 / axis1.norm)
  let initialSpeedOnAxis1 := u.velocity.dot axis1
  let velocity := u.velocity.sub (axis1.scale initialSpeedOnAxis1)
  let finalSpeedOnAxis1 := -initialSpeedOnAxis1
  { u with velocity := velocity.add (axis1.scale (fabs finalSpeedOnAxis1)) }

/-- `separateFrom`: reflect, then move by the overlap, if it is positive. -/
def separateFrom (u : GameUnit F) (o : GameObstacle F) : GameUnit F :=
  let u := u.reflectOn o
  let direction : Vec2 F := (u.position.sub o.position).toVec
  let distance := direction.norm
  let overlappingDistance := distance - (unitRadius + o.radius)
  if overlappingDistance ≤ ofInt 0 then u
  else
    let separatingVector :=
      direction.scale (overlappingDistance * (ofInt 12 / ofInt 10) / direction.norm)
    u.setPosition (u.x + separatingVector.x) (u.y + separatingVector.y)

end GameUnit

end Footscreen
