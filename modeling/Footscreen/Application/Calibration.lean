import Mathlib.Data.Fin.VecNotation
import Footscreen.Game.GameUnit

/-!
# `Application.Calibration` — the calibration wizard

`Calibration` takes four clicks for the projector and four for the camera, and then computes the
homographies between these points and the corners of the floor. OpenCV's `getPerspectiveTransform` is the
parameter `perspective`, with matrices of any type. Of the wizard's picture only the text on it is
modelled. A step is `none` where the code indexes past a list or OpenCV throws.
-/

namespace Footscreen

open FloatArith

/-- Four points. -/
abbrev Quad (F : Type) := Fin 4 → Vec2 F

/-- `calibrationImage` holds the texts that are put on the picture; a matrix is `none` while it is
    empty. -/
structure Calibration (F M : Type) where
  hasTerminated                : Bool
  calibrationImage             : List String
  circleNames                  : List String
  isProjectorCalibrated        : Bool
  numberOfProjectorCoordinates : Nat
  projectorCoordinates         : List (Vec2 F)
  isCameraCalibrated           : Bool
  numberOfCameraCoordinates    : Nat
  cameraCoordinates            : List (Vec2 F)
  physicalToProjector          : Option M
  projectorToPhysical          : Option M
  physicalToCamera             : Option M
  cameraToPhysical             : Option M

namespace Calibration

variable {F M : Type}

/-! ## Clicks -/

/-- `restart`. -/
def restart (c : Calibration F M) : Calibration F M :=
  { c with
    hasTerminated                := false
    isProjectorCalibrated        := false
    isCameraCalibrated           := false
    numberOfProjectorCoordinates := 0
    numberOfCameraCoordinates    := 0
    projectorCoordinates         := []
    cameraCoordinates            := [] }

/-- The constructor. -/
def new : Calibration F M where
  hasTerminated                := false
  calibrationImage             := []
  circleNames                  :=
    ["bottom-left (red)", "bottom-right (green)", "top-right (blue)", "top-left (black)"]
  isProjectorCalibrated        := false
  numberOfProjectorCoordinates := 0
  projectorCoordinates         := []
  isCameraCalibrated           := false
  numberOfCameraCoordinates    := 0
  cameraCoordinates            := []
  physicalToProjector          := none
  projectorToPhysical          := none
  physicalToCamera             := none
  cameraToPhysical             := none

variable [FloatArith F]

/-- `handleMouseClick`. -/
def handleMouseClick (c : Calibration F M) (x y : Int) : Calibration F M :=
  if c.numberOfProjectorCoordinates < 4 then
    let c := { c with
      projectorCoordinates         := c.projectorCoordinates ++ [⟨ofInt x, ofInt y⟩]
      numberOfProjectorCoordinates := c.numberOfProjectorCoordinates + 1 }
    if 4 ≤ c.numberOfProjectorCoordinates then { c with isProjectorCalibrated := true } else c
  else if c.numberOfCameraCoordinates < 4 then
    let c := { c with
      cameraCoordinates         := c.cameraCoordinates ++ [⟨ofInt x, ofInt y⟩]
      numberOfCameraCoordinates := c.numberOfCameraCoordinates + 1 }
    if 4 ≤ c.numberOfCameraCoordinates then { c with isCameraCalibrated := true } else c
  else c

/-- `CV_EVENT_LBUTTONDOWN`. -/
def leftButtonDown : Int := 1

/-- `mouseCallback`. -/
def mouseCallback (c : Calibration F M) (event x y : Int) : Calibration F M :=
  if event ≠ leftButtonDown then c else c.handleMouseClick x y

/-! ## The matrices -/

/-- The corners of the floor. -/
def topLeft : Vec2 F := ⟨ofInt 0, ofInt 0⟩
def topRight : Vec2 F := ⟨ofInt 480, ofInt 0⟩
def bottomLeft : Vec2 F := ⟨ofInt 0, ofInt 480⟩
def bottomRight : Vec2 F := ⟨ofInt 480, ofInt 480⟩

def targetPoints : List (Vec2 F) := [bottomLeft, bottomRight, topRight, topLeft]

omit [FloatArith F] in
/-- `cv::getPerspectiveTransform`, which takes four points each and throws for any other number. -/
def getPerspectiveTransform (perspective : Quad F → Quad F → M) (src dst : List (Vec2 F)) : Option M :=
  if h : src.length = 4 ∧ dst.length = 4 then
    some (perspective (fun k => src.get (k.cast h.1.symm)) fun k => dst.get (k.cast h.2.symm))
  else none

variable (perspective : Quad F → Quad F → M)

/-- `computeHomography`. -/
def computeHomography (c : Calibration F M) : Option (Calibration F M) := do
  let projectorToPhysical ← getPerspectiveTransform perspective c.projectorCoordinates targetPoints
  let physicalToProjector ← getPerspectiveTransform perspective targetPoints c.projectorCoordinates
  let physicalToCamera ← getPerspectiveTransform perspective targetPoints c.cameraCoordinates
  let cameraToPhysical ← getPerspectiveTransform perspective c.cameraCoordinates targetPoints
  return { c with
    projectorToPhysical := some projectorToPhysical
    physicalToProjector := some physicalToProjector
    physicalToCamera    := some physicalToCamera
    cameraToPhysical    := some cameraToPhysical }

/-! ## The loop -/

omit [FloatArith F] in
/-- The text that asks for a click on the `i`-th circle. -/
def putInfo (c : Calibration F M) (i : Nat) : Option (Calibration F M) := do
  let name ← c.circleNames[i]?
  return { c with calibrationImage := c.calibrationImage ++ ["Click on the " ++ name ++ " circle."] }

omit [FloatArith F] in
/-- `calibrateProjector`. -/
def calibrateProjector (c : Calibration F M) : Option (Calibration F M) :=
  c.putInfo c.numberOfProjectorCoordinates

omit [FloatArith F] in
/-- `calibrateCamera`. -/
def calibrateCamera (c : Calibration F M) : Option (Calibration F M) :=
  c.putInfo c.numberOfCameraCoordinates

/-- `calibrate`. -/
def calibrate (c : Calibration F M) : Option (Calibration F M) :=
  if !c.isProjectorCalibrated then c.calibrateProjector
  else if !c.isCameraCalibrated then c.calibrateCamera
  else do
    let c ← c.computeHomography perspective
    return { c with hasTerminated := true }

/-- `loop`. -/
def loop (c : Calibration F M) : Option (Calibration F M) :=
  { c with calibrationImage := [] }.calibrate perspective

inductive Event where
  | mouseCallback (event x y : Int)
  | loop
  | restart

def step (c : Calibration F M) : Event → Option (Calibration F M)
  | .mouseCallback event x y => some (c.mouseCallback event x y)
  | .loop                    => c.loop perspective
  | .restart                 => some c.restart

end Calibration

end Footscreen
