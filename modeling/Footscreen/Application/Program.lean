import Footscreen.Application.Application
import Footscreen.Lib.Median

/-!
# `Application.Program` — the program and its eyes

`main`, and the filters that `detectTouch` sends the depth image through on the way to the contours. The
value of a pixel is a number that saturates where OpenCV has no more bits for it: 16 in a depth image, 8
in the image that it is converted to. What OpenCV computes is in `OpenCV`, and what its documentation says
about that in `Documented`.
-/

namespace Footscreen

open FloatArith Lib

/-! ## OpenCV -/

/-- `convertTo` of a pixel to 8 bits with the factor 1/256, `medianBlur` with a window of 25 × 25 pixels,
    and `findContours` with the ellipses that are fitted to the contours. -/
structure OpenCV (F : Type) where
  convertTo    : Nat → Nat
  medianBlur   : Image F Nat → Image F Nat
  findContours : Image F Nat → List (Contour F)

namespace OpenCV

variable {F : Type} [FloatArith F]

/-- `IMAGE_AMPLIFICATION`. -/
def imageAmplification : Nat := 10

/-- `LEG_THRESHOLD`. -/
def legThreshold : Nat := 35

/-- `m_depthImage *= IMAGE_AMPLIFICATION`, for one pixel. -/
def amplify (d : Nat) : Nat := min (imageAmplification * d) 65535

/-- `cv::absdiff`, for one pixel. -/
def absdiff (v w : Nat) : Nat := v - w + (w - v)

/-- `cv::threshold` with `THRESH_TOZERO`. -/
def threshToZero (thresh v : Nat) : Nat := if thresh < v then v else 0

/-- `cv::threshold` with `THRESH_TOZERO_INV`. -/
def threshToZeroInv (thresh v : Nat) : Nat := if thresh < v then 0 else v

/-- The image `thresholdedDepth` of `detectTouch`. -/
def thresholdedDepth (cv : OpenCV F) (src calibrationImage : Image F Nat) : Image F Nat :=
  let diff := fun p => absdiff (src p) (calibrationImage p)
  let diff := cv.medianBlur diff
  let diff := fun p => min (10 * diff p) 255
  let withoutGround := fun p => threshToZeroInv legThreshold (diff p)
  fun p => threshToZero 20 (withoutGround p)

/-- What `detectTouch` does with its images. -/
def vision (cv : OpenCV F) : Vision F Nat where
  amplify                           := amplify
  convert                           := cv.convertTo
  findContours src calibrationImage := cv.findContours (cv.thresholdedDepth src calibrationImage)

/-! ### The documentation -/

/-- A pixel of the image. -/
def Inside (x y : Int) : Prop := 0 ≤ x ∧ x < 640 ∧ 0 ≤ y ∧ y < 480

/-- Its position. -/
def pixel (x y : Int) : Vec2 F := ⟨ofInt x, ofInt y⟩

/-- `BORDER_REPLICATE`. -/
def replicate (size i : Int) : Int := max 0 (min i (size - 1))

/-- The pixels around one. -/
def window (x y : Int) : List (Vec2 F) :=
  (List.range 25).flatMap fun j => (List.range 25).map fun i =>
    pixel (replicate 640 (x + i - 12)) (replicate 480 (y + j - 12))

/-- What is known of OpenCV: `convertTo` rounds to the nearest value and saturates, `medianBlur` takes the
    median of the window around a pixel, and there are no contours where nothing is left. -/
structure Documented (cv : OpenCV F) : Prop where
  convertTo    : ∀ d, ∃ r, 256 * r ≤ d + 128 ∧ d ≤ 256 * r + 128 ∧ cv.convertTo d = min r 255
  medianBlur   : ∀ image x y, Inside x y →
    IsMedian (cv.medianBlur image (pixel x y)) ((window x y).map image)
  findContours : ∀ image : Image F Nat, (∀ x y, Inside x y → image (pixel x y) = 0) →
    cv.findContours image = []

end OpenCV

/-! ## The program -/

namespace Application

variable {F B D : Type} [FloatArith F] [SteeringArith F]

inductive Event (F B D : Type) where
  /-- A round of the loop of `main`. -/
  | loop (key : Option Char) (frames : Nat → Image F B × Image F D)
  | mouseCallback (event x y : Int)
  /-- The network thread has changed the client. -/
  | receive (gameClient : GameClient F)

/-- `main`, after the constructor. -/
def step (perspective : Quad F → Quad F → Matrix (Fin 3) (Fin 3) F) (vision : Vision F D)
    (a : Application F B D) : Event F B D → Option (Application F B D)
  | .loop key frames =>
      if a.isFinished then none else (a.loop perspective vision key frames).map Prod.fst
  | .mouseCallback event x y =>
      some { a with calibration := a.calibration.mouseCallback event x y }
  | .receive gameClient => some { a with gameClient := gameClient }

end Application

end Footscreen
