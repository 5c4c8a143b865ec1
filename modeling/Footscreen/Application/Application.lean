import Mathlib.LinearAlgebra.Matrix.Defs
import Footscreen.Application.Calibration
import Footscreen.Game.GameClient

/-!
# `Application.Application` — the loop of the program

`Application` runs the calibration wizard and then, for every frame of the camera, looks for a foot on
the floor and moves the unit nearest to it. An image is what it shows at each position; what OpenCV does
to the depth image on the way to the contours is a parameter, `Vision`, and frames come from the camera
as `frames i`, in the order in which a call asks for them. What is only drawn or printed is left out, and
so are the skeleton tracker and the motor, which are switched off.
-/

namespace Footscreen

open FloatArith

/-- What the client computes directions with. -/
class SteeringArith (F : Type) where
  atan2 : F → F → F
  pi    : F

export SteeringArith (atan2 pi)

instance : SteeringArith Int where
  atan2 _ _ := 0
  pi        := 3

/-! ## Images -/

/-- What an image shows at a position. -/
abbrev Image (F V : Type) := Vec2 F → V

section

variable {F V : Type} [FloatArith F]

/-- `cv::flip(.., 1)` of an image that is 640 pixels wide. -/
def Image.flip (image : Image F V) : Image F V := fun p => image ⟨ofInt 639 - p.x, p.y⟩

/-- `cv::perspectiveTransform` of a point. A point at infinity becomes the origin. -/
def perspectiveTransform (m : Matrix (Fin 3) (Fin 3) F) (p : Vec2 F) : Vec2 F :=
  let w := m 2 0 * p.x + m 2 1 * p.y + m 2 2
  if ofInt 0 < fabs w then
    ⟨(m 0 0 * p.x + m 0 1 * p.y + m 0 2) / w, (m 1 0 * p.x + m 1 1 * p.y + m 1 2) / w⟩
  else .zero

/-- A contour: how many points it has, and the ellipse that is fitted to them. -/
structure Contour (F : Type) where
  size   : Nat
  center : Vec2 F
  width  : F
  height : F

/-- What OpenCV computes from depth images: `amplify` and `convert` change each pixel, and `findContours`
    compares the converted image with that of the empty floor. -/
structure Vision (F D : Type) where
  amplify      : D → D
  convert      : D → D
  findContours : Image F D → Image F D → List (Contour F)

end

/-! ## The application -/

structure Application (F B D : Type) where
  gameClient        : GameClient F
  calibration       : Calibration F (Matrix (Fin 3) (Fin 3) F)
  bgrImage          : Image F B
  depthImage        : Image F D
  calibrationImage  : Image F D
  isFinished        : Bool
  isTouchCalibrated : Bool
  isTouching        : Bool

/-- What the application asks the server for: directly, or by messages to it. -/
inductive Command (F : Type) where
  | startGame
  | send (m : GameMessage F)

namespace Application

variable {F B D : Type} [FloatArith F]

/-- `getFrame` of the depth camera. -/
def getFrame (a : Application F B D) (frame : Image F B × Image F D) : Application F B D :=
  { a with bgrImage := frame.1, depthImage := frame.2 }

/-- `flipHorizontally`. -/
def flipHorizontally (a : Application F B D) : Application F B D :=
  { a with bgrImage := a.bgrImage.flip, depthImage := a.depthImage.flip }

/-! ### Touches -/

/-- `calibrateTouch`. -/
def calibrateTouch (a : Application F B D) (vision : Vision F D) (frame : Image F B × Image F D) :
    Application F B D :=
  let a := (a.getFrame frame).flipHorizontally
  let a := { a with depthImage := vision.amplify ∘ a.depthImage }
  { a with calibrationImage := vision.convert ∘ a.depthImage, isTouchCalibrated := true }

/-- `MIN_CONTOUR_POINTS`. -/
def minContourPoints : Nat := 10

/-- The loop of `detectTouch` over the contours: the largest ellipse so far, and its centre. -/
def largestEllipse (contours : List (Contour F)) : F × Vec2 F :=
  contours.foldl
    (fun (maxEllipseSize, maxEllipseCenter) contour =>
      if contour.size < minContourPoints then (maxEllipseSize, maxEllipseCenter)
      else
        let currentSize := contour.width * contour.height
        if maxEllipseSize < currentSize then (currentSize, contour.center)
        else (maxEllipseSize, maxEllipseCenter))
    (ofInt 0, ⟨-ofInt 1, -ofInt 1⟩)

/-- `detectTouch`. -/
def detectTouch (a : Application F B D) (vision : Vision F D) (frame : Image F B × Image F D) :
    Application F B D × Vec2 F :=
  let a := if !a.isTouchCalibrated then a.calibrateTouch vision frame else a
  let a := { a with depthImage := vision.amplify ∘ a.depthImage }
  let src := vision.convert ∘ a.depthImage
  let (_, center) := largestEllipse (vision.findContours src a.calibrationImage)
  ({ a with isTouching := decide (ofInt 0 ≤ center.x) && decide (ofInt 0 ≤ center.y) }, center)

/-! ### Frames -/

/-- The loop of `processFrame` over the indices: the nearest unit so far with its distance, and the
    requests. -/
def selectUnit (game : Game F) (touch : Vec2 F) :
    List Int → Int × F → Option ((Int × F) × List (GameMessage F))
  | [], nearest => some (nearest, [])
  | i :: is, (minDistanceIndex, minDistance) => do
      let unit ← game.ownUnitByIndex (UInt8.ofInt i)
      let currentDistance := (touch.sub ⟨unit.x, unit.y⟩).norm
      let nearest := if minDistanceIndex = -1 ∨ currentDistance < minDistance then (i, currentDistance)
        else (minDistanceIndex, minDistance)
      let (nearest, requests) ← selectUnit game touch is nearest
      return (nearest, Game.highlightUnit i false :: requests)

variable [SteeringArith F]

/-- The angle of the move request for a touch. -/
def steeringAngle (unit : GameUnit F) (touch : Vec2 F) : F := atan2 (unit.y - touch.y) (unit.x - touch.x)

/-- The requests of `processFrame` for a touch. -/
def requestsFor (game : Game F) (touch : Vec2 F) : Option (List (GameMessage F)) := do
  let ((minDistanceIndex, _), requests) ← selectUnit game touch [0, 1, 2, 3, 4] (-1, ofInt 0)
  let unit ← game.ownUnitByIndex (UInt8.ofInt minDistanceIndex)
  return requests ++
    [Game.moveUnit minDistanceIndex (steeringAngle unit touch) (ofInt 1 / ofInt 10),
     Game.highlightUnit minDistanceIndex true]

/-- `processFrame`: the touch in floor coordinates, and the requests. -/
def processFrame (a : Application F B D) (vision : Vision F D) (frame : Image F B × Image F D) :
    Option (Application F B D × Vec2 F × List (GameMessage F)) := do
  let a := a.flipHorizontally
  let (a, touch) := a.detectTouch vision frame
  let cameraToPhysical ← a.calibration.cameraToPhysical
  let touch := perspectiveTransform cameraToPhysical touch
  let requests ← requestsFor a.gameClient.game touch
  return (a, touch, requests)

/-! ### The loop -/

/-- What the loop does for a key. -/
def keyCommands (key : Option Char) : List (Command F) :=
  match key with
  | some 'r' => [.startGame]
  | some 'w' => [.send (Game.moveUnit 0 (pi / ofInt 2) (ofInt 1))]
  | some 'a' => [.send (Game.moveUnit 0 pi (ofInt 1))]
  | some 's' => [.send (Game.moveUnit 0 (ofInt 3 * (pi / ofInt 2)) (ofInt 1))]
  | some 'd' => [.send (Game.moveUnit 0 (ofInt 0) (ofInt 1))]
  | some ' ' => [.send (Game.moveUnit 0 (ofInt 0) (ofInt 0))]
  | some 'h' => [.send (Game.highlightUnit 0 true)]
  | some 'u' => [.send (Game.highlightUnit 0 false)]
  | _        => []

/-- `loop`, before all clicks of the wizard have been evaluated: the wizard gets the camera's image. -/
def calibrationLoop (a : Application F B D) (perspective : Quad F → Quad F → Matrix (Fin 3) (Fin 3) F)
    (key : Option Char) (frame : Image F B × Image F D) : Option (Application F B D) := do
  let a := if key = some 'q' then { a with isFinished := true } else a
  let a := a.getFrame frame
  let calibration ← a.calibration.loop perspective
  return { a with calibration := calibration }

/-- `loop`, in play. -/
def gameLoop (a : Application F B D) (vision : Vision F D) (key : Option Char)
    (frames : Nat → Image F B × Image F D) : Option (Application F B D × List (Command F)) :=
  let a := if key = some 'q' then { a with isFinished := true } else a
  let (a, frames) := if key = some 'c' then
    (a.calibrateTouch vision (frames 0), fun i => frames (i + 1)) else (a, frames)
  if a.isFinished then some (a, keyCommands key)
  else do
    let (a, _, requests) ← (a.getFrame (frames 0)).processFrame vision (frames 1)
    return (a, keyCommands key ++ requests.map .send)

/-- `loop`. -/
def loop (a : Application F B D) (perspective : Quad F → Quad F → Matrix (Fin 3) (Fin 3) F)
    (vision : Vision F D) (key : Option Char) (frames : Nat → Image F B × Image F D) :
    Option (Application F B D × List (Command F)) :=
  if !a.calibration.hasTerminated then
    (a.calibrationLoop perspective key (frames 0)).map (·, [])
  else a.gameLoop vision key frames

end Application

end Footscreen
