import Mathlib.Data.List.MinMax
import Footscreen.Application.Correctness.Steering
import Footscreen.Lib.Selection

/-!
# `Application.Correctness.Detection` — the touch that is detected

`detectTouch` searches for the largest ellipse among the contours with enough points, with the size 0 and
the centre (-1, -1) for "none yet". OpenCV's ellipses have positive sizes, so the search is right
(`largestEllipse_eq`). The centre then also serves as the flag: a touch counts as one if its coordinates
are not negative, which the centre of an ellipse beyond the image border need not be
(`touch_exact_iff`).
-/

namespace Footscreen

open FloatArith Lib

namespace Application

variable {B D : Type} {a : Application ℝ B D} {vision : Vision ℝ D} {frame : Image ℝ B × Image ℝ D}
  {contours : List (Contour ℝ)} {contour : Contour ℝ}

/-- The contour has enough points. -/
def accepted (contour : Contour ℝ) : Bool := decide (minContourPoints ≤ contour.size)

/-- The size of the ellipse. -/
noncomputable def area (contour : Contour ℝ) : ℝ := contour.width * contour.height

/-- The first contour with the largest ellipse, among the accepted ones. -/
noncomputable def largest (contours : List (Contour ℝ)) : Option (Contour ℝ) :=
  (contours.filter accepted).argmax area

/-- The state of the loop: the largest ellipse so far. -/
noncomputable def largestSoFar : Option (Contour ℝ) → ℝ × Vec2 ℝ
  | none         => (ofInt 0, ⟨-ofInt 1, -ofInt 1⟩)
  | some contour => (area contour, contour.center)

/-- What is known of `fitEllipse`: the ellipses have a positive width and height. -/
def Fitted (contours : List (Contour ℝ)) : Prop :=
  ∀ contour ∈ contours, 0 < contour.width ∧ 0 < contour.height

theorem mem_of_largest (h : largest contours = some contour) :
    contour ∈ contours ∧ accepted contour = true :=
  List.mem_filter.mp (List.argmax_mem h)

theorem largest_eq_none :
    largest contours = none ↔ ¬ ∃ contour ∈ contours, accepted contour = true := by
  unfold largest
  rw [List.argmax_eq_none, List.filter_eq_nil_iff]
  simp

/-- **The search** finds the first of the largest ellipses. -/
theorem largestEllipse_eq (h : Fitted contours) :
    largestEllipse contours = largestSoFar (largest contours) := by
  have hloop : largestEllipse contours = (contours.filter accepted).foldl
      (fun best contour => if best.1 < area contour then (area contour, contour.center) else best)
      (largestSoFar none) := by
    rw [List.foldl_filter]
    unfold largestEllipse
    refine congrArg (List.foldl · _ contours) ?_
    funext ⟨maxEllipseSize, maxEllipseCenter⟩ contour
    unfold accepted
    dsimp only
    by_cases hsize : contour.size < minContourPoints
    · have hfew : ¬ decide (minContourPoints ≤ contour.size) = true := by simpa using hsize
      rw [if_pos hsize, if_neg hfew]
    · have henough : decide (minContourPoints ≤ contour.size) = true := by simpa using hsize
      rw [if_neg hsize, if_pos henough]
      rfl
  rw [hloop]
  show (contours.filter accepted).foldl _ (largestSoFar none) = largestSoFar
    ((contours.filter accepted).foldl (List.argAux fun b c => area c < area b) none)
  refine foldl_argAux _ largestSoFar (P := fun contour => 0 < area contour) ?_ ?_ ?_ ?_
  · intro contour harea
    apply if_pos
    show ofInt 0 < area contour
    rw [ofInt_zero]
    exact harea
  · intro b c _ _
    show (if area b < area c then _ else _) = _
    split
    · rfl
    · rfl
  · rintro b ⟨⟩
  · intro contour hcontour
    obtain ⟨hwidth, hheight⟩ := h contour (List.mem_filter.mp hcontour).1
    exact mul_pos hwidth hheight

/-- The contours that OpenCV finds in the frame. -/
noncomputable def contoursOf (a : Application ℝ B D) (vision : Vision ℝ D) (frame : Image ℝ B × Image ℝ D) :
    List (Contour ℝ) :=
  let a := if !a.isTouchCalibrated then a.calibrateTouch vision frame else a
  vision.findContours (vision.convert ∘ vision.amplify ∘ a.depthImage) a.calibrationImage

theorem detectTouch_eq (h : Fitted (a.contoursOf vision frame)) :
    (a.detectTouch vision frame).2 = (largestSoFar (largest (a.contoursOf vision frame))).2 ∧
      ((a.detectTouch vision frame).1.isTouching = true ↔
        0 ≤ (a.detectTouch vision frame).2.x ∧ 0 ≤ (a.detectTouch vision frame).2.y) := by
  constructor
  · rw [← largestEllipse_eq h]
    rfl
  · have hflag : (a.detectTouch vision frame).1.isTouching =
        (decide (ofInt 0 ≤ (a.detectTouch vision frame).2.x) &&
          decide (ofInt 0 ≤ (a.detectTouch vision frame).2.y)) := rfl
    rw [hflag, Bool.and_eq_true, decide_eq_true_iff, decide_eq_true_iff, ofInt_zero]

/-- What `detectTouch` is for: it returns the centre of the first largest ellipse among the accepted
    contours, or (-1, -1), and it says whether there is one. -/
structure TouchExact (a : Application ℝ B D) (vision : Vision ℝ D) (frame : Image ℝ B × Image ℝ D) :
    Prop where
  found  : ∀ contour, largest (a.contoursOf vision frame) = some contour →
    (a.detectTouch vision frame).2 = contour.center
  missed : largest (a.contoursOf vision frame) = none → (a.detectTouch vision frame).2 = ⟨-1, -1⟩
  flag   : (a.detectTouch vision frame).1.isTouching = true ↔
    ∃ contour ∈ a.contoursOf vision frame, accepted contour = true

/-- **The detected touch** is the largest accepted contour, and it is noticed if and only if its centre is
    not beyond the left or the upper border of the image. -/
theorem touch_exact_iff (h : Fitted (a.contoursOf vision frame)) :
    TouchExact a vision frame ↔ ∀ contour, largest (a.contoursOf vision frame) = some contour →
      0 ≤ contour.center.x ∧ 0 ≤ contour.center.y := by
  obtain ⟨hcentre, hflag⟩ := detectTouch_eq h
  have hnone : largestSoFar none = (0, ⟨-1, -1⟩) := by
    unfold largestSoFar
    rw [ofInt_zero, ofInt_one]
  constructor
  · intro hexact contour hlargest
    have hexists := hexact.flag.mpr ⟨contour, mem_of_largest hlargest⟩
    rw [← hexact.found contour hlargest]
    exact hflag.mp hexists
  · intro hinside
    refine ⟨?_, ?_, ?_⟩
    · intro contour hlargest
      rw [hcentre, hlargest]
      rfl
    · intro hlargest
      rw [hcentre, hlargest, hnone]
    · cases hlargest : largest (a.contoursOf vision frame) with
      | none =>
          rw [hlargest, hnone] at hcentre
          rw [hflag, hcentre]
          refine iff_of_false ?_ (largest_eq_none.mp hlargest)
          rintro ⟨hx, -⟩
          norm_num at hx
      | some contour =>
          rw [hlargest] at hcentre
          rw [hflag, hcentre]
          exact iff_of_true (hinside contour hlargest) ⟨contour, mem_of_largest hlargest⟩

/-! ## Contours at the border -/

/-- The floor, in an image that OpenCV finds the given contours in. -/
def seeing (contours : List (Contour ℝ)) : Vision ℝ Unit := ⟨id, id, fun _ _ => contours⟩

/-- The program in play. -/
noncomputable def watching : Application ℝ Unit Unit where
  gameClient        :=
    { context :=
        { messageHandlers := [], nextMessageID := messageIDFirst, nextAddress := 0
          unset := fun _ => ⟨⟨0, 0, 0, 0, false, false, false⟩, false, ⟨0, 0, 0⟩⟩ }
      game := fiveUnits idFirstClient }
  calibration       := .new
  bgrImage          := fun _ => ()
  depthImage        := fun _ => ()
  calibrationImage  := fun _ => ()
  isFinished        := false
  isTouchCalibrated := true
  isTouching        := false

def still : Image ℝ Unit × Image ℝ Unit := (fun _ => (), fun _ => ())

/-- A foot that is partly outside of the image, to the left. -/
noncomputable def outside : Contour ℝ := ⟨40, ⟨ofInt (-2), ofInt 100⟩, ofInt 30, ofInt 20⟩

theorem outside_fitted : Fitted [outside] := by
  intro contour hcontour
  rw [List.mem_singleton.mp hcontour]
  exact ⟨by norm_num [outside, ofInt_real], by norm_num [outside, ofInt_real]⟩

theorem touch_exact_outside :
    TouchExact watching (seeing [outside]) still ↔ ∀ contour, largest [outside] = some contour →
      0 ≤ contour.center.x ∧ 0 ≤ contour.center.y :=
  touch_exact_iff outside_fitted

/-- The foot is found, and is not noticed. -/
theorem outside_unnoticed :
    Fitted [outside] ∧ accepted outside = true ∧
      (watching.detectTouch (seeing [outside]) still).2 = outside.center ∧
      (watching.detectTouch (seeing [outside]) still).1.isTouching = false ∧
      ¬ TouchExact watching (seeing [outside]) still := by
  have hlargest : largest (watching.contoursOf (seeing [outside]) still) = some outside := rfl
  have hfitted : Fitted (watching.contoursOf (seeing [outside]) still) := outside_fitted
  obtain ⟨hcentre, hflag⟩ := detectTouch_eq hfitted
  rw [hlargest] at hcentre
  have hunnoticed : ¬ (watching.detectTouch (seeing [outside]) still).1.isTouching = true := by
    rw [hflag, hcentre]
    rintro ⟨hx, -⟩
    have hx' : (0 : ℝ) ≤ ((-2 : Int) : ℝ) := hx
    norm_num at hx'
  refine ⟨outside_fitted, rfl, hcentre, Bool.eq_false_iff.mpr hunnoticed, ?_⟩
  intro hexact
  exact hunnoticed (hexact.flag.mpr ⟨outside, mem_of_largest hlargest⟩)

end Application

end Footscreen
