import Footscreen.Lib.Homography
import Footscreen.Application.Correctness.Steering

/-!
# `Application.Correctness.Touch` — from the camera's pixels to the floor

The wizard shows the camera's image as it is, and its homography is for that image; `processFrame` looks
for touches in the mirrored one. `touch_mapped_iff`: a touch is mapped to the floor point that it is at if
and only if its pixel is on the mirror axis, where there is no whole pixel.
-/

namespace Footscreen

open FloatArith Lib

namespace Application

/-! ## Pixels and floor points -/

/-- The coordinates of a point. -/
def pair (v : Vec2 ℝ) : ℝ × ℝ := (v.x, v.y)

theorem pair_inj {v w : Vec2 ℝ} (h : pair v = pair w) : v = w := by
  obtain ⟨hx, hy⟩ := Prod.mk.inj h
  obtain ⟨vx, vy⟩ := v
  obtain ⟨wx, wy⟩ := w
  exact congrArg₂ Vec2.mk hx hy

/-- Where a pixel is in the mirrored image. -/
noncomputable def mirror (c : Vec2 ℝ) : Vec2 ℝ := ⟨ofInt 639 - c.x, c.y⟩

theorem mirror_mirror (c : Vec2 ℝ) : mirror (mirror c) = c := by
  unfold mirror
  dsimp only
  rw [sub_sub_cancel]

/-- A pixel on the mirror axis. -/
theorem mirror_eq_self {c : Vec2 ℝ} : mirror c = c ↔ 2 * c.x = 639 := by
  have hwidth : (ofInt 639 : ℝ) = 639 := by norm_num [ofInt_real]
  unfold mirror
  rw [hwidth]
  constructor
  · intro h
    have hx : 639 - c.x = c.x := congrArg Vec2.x h
    linarith
  · intro h
    have hx : 639 - c.x = c.x := by linarith
    rw [hx]

/-- The map has no value there: the last coordinate is zero. -/
def AtInfinity (m : Matrix (Fin 3) (Fin 3) ℝ) (q : Vec2 ℝ) : Prop :=
  m.mulVec (lift (pair q)) (Fin.last 2) = 0

theorem mulVec_pair (m : Matrix (Fin 3) (Fin 3) ℝ) (q : Vec2 ℝ) (i : Fin 3) :
    m.mulVec (lift (pair q)) i = m i 0 * q.x + m i 1 * q.y + m i 2 := by
  simp [Matrix.mulVec, dotProduct, Fin.sum_univ_three, lift, pair]

theorem atInfinity_iff {m : Matrix (Fin 3) (Fin 3) ℝ} {q : Vec2 ℝ} :
    AtInfinity m q ↔ m 2 0 * q.x + m 2 1 * q.y + m 2 2 = 0 := by
  rw [AtInfinity, mulVec_pair]
  exact Iff.rfl

theorem perspectiveTransform_of_infinity {m : Matrix (Fin 3) (Fin 3) ℝ} {q : Vec2 ℝ}
    (h : AtInfinity m q) : perspectiveTransform m q = .zero := by
  unfold perspectiveTransform
  apply if_neg
  show ¬ ofInt 0 < |m 2 0 * q.x + m 2 1 * q.y + m 2 2|
  rw [atInfinity_iff.mp h, ofInt_zero, abs_zero]
  exact lt_irrefl 0

/-- Elsewhere OpenCV computes the map of the matrix. -/
theorem perspectiveTransform_iff {m : Matrix (Fin 3) (Fin 3) ℝ} {q p : Vec2 ℝ}
    (h : ¬ AtInfinity m q) : perspectiveTransform m q = p ↔ Sends m (pair q) (pair p) := by
  obtain ⟨w, hw⟩ : ∃ w, w = m 2 0 * q.x + m 2 1 * q.y + m 2 2 := ⟨_, rfl⟩
  have hne : w ≠ 0 := fun hzero => h (atInfinity_iff.mpr (hw.symm.trans hzero))
  have htransform : perspectiveTransform m q =
      ⟨(m 0 0 * q.x + m 0 1 * q.y + m 0 2) / w, (m 1 0 * q.x + m 1 1 * q.y + m 1 2) / w⟩ := by
    rw [hw]
    unfold perspectiveTransform
    apply if_pos
    show ofInt 0 < |m 2 0 * q.x + m 2 1 * q.y + m 2 2|
    rw [← hw, ofInt_zero]
    exact abs_pos.mpr hne
  rw [htransform]
  constructor
  · rintro rfl
    refine ⟨w, hne, ?_⟩
    funext i
    rw [mulVec_pair]
    fin_cases i
    · exact (mul_div_cancel₀ _ hne).symm
    · exact (mul_div_cancel₀ _ hne).symm
    · show m 2 0 * q.x + m 2 1 * q.y + m 2 2 = w * 1
      rw [mul_one, hw]
  · rintro ⟨w', hw', hsends⟩
    have hthird : w = w' := by
      have h2 := congrFun hsends 2
      rw [mulVec_pair, ← hw] at h2
      simpa using h2
    have hx := congrFun hsends 0
    have hy := congrFun hsends 1
    rw [mulVec_pair] at hx hy
    apply pair_inj
    apply Prod.ext
    · show (m 0 0 * q.x + m 0 1 * q.y + m 0 2) / w = p.x
      rw [hx, hthird]
      exact mul_div_cancel_left₀ p.x hw'
    · show (m 1 0 * q.x + m 1 1 * q.y + m 1 2) / w = p.y
      rw [hy, hthird]
      exact mul_div_cancel_left₀ p.y hw'

/-- **The mirrored pixel** is mapped to the same floor point, or it is not. -/
theorem mirrored_iff {m : Matrix (Fin 3) (Fin 3) ℝ} (hm : m.det ≠ 0) {c p : Vec2 ℝ}
    (h : Sends m (pair c) (pair p)) :
    perspectiveTransform m (mirror c) = p ↔
      2 * c.x = 639 ∨ AtInfinity m (mirror c) ∧ p = .zero := by
  by_cases hinfinity : AtInfinity m (mirror c)
  · have hoff : mirror c ≠ c := by
      intro heq
      rw [heq] at hinfinity
      obtain ⟨w, hw, hsends⟩ := h
      have hthird := congrFun hsends 2
      rw [mulVec_pair] at hthird
      have hzero : w * 1 = 0 := hthird.symm.trans (atInfinity_iff.mp hinfinity)
      exact hw (by simpa using hzero)
    rw [perspectiveTransform_of_infinity hinfinity, ← mirror_eq_self]
    constructor
    · intro hp
      exact Or.inr ⟨hinfinity, hp.symm⟩
    · rintro (heq | ⟨-, hp⟩)
      · exact absurd heq hoff
      · exact hp.symm
  · rw [perspectiveTransform_iff hinfinity, ← mirror_eq_self]
    constructor
    · intro hsends
      exact Or.inl (pair_inj (hsends.injective hm h))
    · rintro (heq | ⟨hno, -⟩)
      · rw [heq]
        exact h
      · exact absurd hno hinfinity

/-! ## Frames -/

section

variable {B D : Type} {colour : B → Vec2 ℝ → Prop} {depth : D → Vec2 ℝ → Prop} {vision : Vision ℝ D}
  {p c : Vec2 ℝ} {frame frame' : Image ℝ B × Image ℝ D}

variable (colour depth p c) in
/-- The camera sees the floor point `p` at the pixel `c`. The relations say which values show a point. -/
structure Seen (frame : Image ℝ B × Image ℝ D) : Prop where
  colour : colour (frame.1 c) p
  depth  : ∀ q, depth (frame.2 q) p ↔ q = c

variable (colour) in
/-- The matrix is the homography that maps the pixels of an image to the floor. -/
structure MapsImage (m : Matrix (Fin 3) (Fin 3) ℝ) (image : Image ℝ B) : Prop where
  det   : m.det ≠ 0
  sends : ∀ q p, colour (image q) p → Sends m (pair q) (pair p)

/-- The wizard gets the frame as it is. -/
theorem calibrationLoop_bgrImage {a a' : Application ℝ B D}
    {perspective : Quad ℝ → Quad ℝ → Matrix (Fin 3) (Fin 3) ℝ} {key : Option Char}
    (h : a.calibrationLoop perspective key frame = some a') : a'.bgrImage = frame.1 := by
  obtain ⟨calibration, -, h⟩ := Option.bind_eq_some_iff.mp h
  cases h
  rfl

/-- A mirrored frame shows the floor point at the mirrored pixel. -/
theorem Seen.flip (h : Seen colour depth p c frame) (q : Vec2 ℝ) :
    depth (frame.2.flip q) p ↔ q = mirror c := by
  have hflip : depth (frame.2.flip q) p ↔ mirror q = c := h.depth (mirror q)
  rw [hflip]
  constructor
  · rintro rfl
    exact (mirror_mirror q).symm
  · rintro rfl
    exact mirror_mirror c

/-- **`detectTouch`** works on a mirrored frame, whether it calibrates first or not. -/
theorem detectTouch_image (a : Application ℝ B D)
    (hamplify : ∀ d p, depth (vision.amplify d) p ↔ depth d p)
    (h : Seen colour depth p c frame) (h' : Seen colour depth p c frame') (q : Vec2 ℝ) :
    depth (((a.getFrame frame).flipHorizontally.detectTouch vision frame').1.depthImage q) p ↔
      q = mirror c := by
  unfold detectTouch
  dsimp only
  split
  · show depth (vision.amplify (vision.amplify (frame'.2.flip q))) p ↔ q = mirror c
    rw [hamplify, hamplify]
    exact h'.flip q
  · show depth (vision.amplify (frame.2.flip q)) p ↔ q = mirror c
    rw [hamplify]
    exact h.flip q

theorem detectTouch_calibration (a : Application ℝ B D) :
    (a.detectTouch vision frame).1.calibration = a.calibration := by
  unfold detectTouch
  dsimp only
  split <;> rfl

/-- What `processFrame` computes from the touch. -/
theorem processFrame_touch {a a' : Application ℝ B D} {touch : Vec2 ℝ}
    {requests : List (GameMessage ℝ)}
    (h : a.processFrame vision frame = some (a', touch, requests)) :
    ∃ m, a.calibration.cameraToPhysical = some m ∧
      touch = perspectiveTransform m (a.flipHorizontally.detectTouch vision frame).2 := by
  obtain ⟨m, hm, h⟩ := Option.bind_eq_some_iff.mp h
  have hm : (a.flipHorizontally.detectTouch vision frame).1.calibration.cameraToPhysical = some m := hm
  rw [detectTouch_calibration] at hm
  obtain ⟨requests', -, h⟩ := Option.bind_eq_some_iff.mp h
  cases h
  exact ⟨m, hm, rfl⟩

variable (depth vision p) in
/-- `detectTouch` returns a pixel that shows the floor point, in the image that it has worked on. -/
def Detects (a : Application ℝ B D) (frame : Image ℝ B × Image ℝ D) : Prop :=
  depth ((a.detectTouch vision frame).1.depthImage (a.detectTouch vision frame).2) p

/-- **Touches.** The floor is calibrated for the image that the wizard shows, and a touch is found at the
    pixel of the floor point in the image that is worked on. It is mapped to the floor point if and only if
    its pixel is on the mirror axis, or if the mirrored pixel has no image and the point is the origin. -/
theorem touch_mapped_iff (hamplify : ∀ d p, depth (vision.amplify d) p ↔ depth d p)
    {wizard wizard' : Application ℝ B D} {perspective : Quad ℝ → Quad ℝ → Matrix (Fin 3) (Fin 3) ℝ}
    {key : Option Char} {shown : Image ℝ B × Image ℝ D}
    (hwizard : wizard.calibrationLoop perspective key shown = some wizard')
    (hshown : Seen colour depth p c shown) {a a' : Application ℝ B D} {m : Matrix (Fin 3) (Fin 3) ℝ}
    (hm : a.calibration.cameraToPhysical = some m) (hmaps : MapsImage colour m wizard'.bgrImage)
    (hframe : Seen colour depth p c frame) (hframe' : Seen colour depth p c frame')
    {touch : Vec2 ℝ} {requests : List (GameMessage ℝ)}
    (h : (a.getFrame frame).processFrame vision frame' = some (a', touch, requests))
    (hdetect : Detects depth vision p (a.getFrame frame).flipHorizontally frame') :
    touch = p ↔ 2 * c.x = 639 ∨ AtInfinity m (mirror c) ∧ p = .zero := by
  obtain ⟨m', hm', rfl⟩ := processFrame_touch h
  obtain rfl : m = m' := Option.some.inj (hm.symm.trans hm')
  have hsends : Sends m (pair c) (pair p) := by
    apply hmaps.sends
    rw [calibrationLoop_bgrImage hwizard]
    exact hshown.colour
  have htouch := (detectTouch_image a hamplify hframe hframe' _).mp hdetect
  rw [htouch]
  exact mirrored_iff hmaps.det hsends

end

/-! ## A camera above the floor -/

/-- An image that shows the floor point with the coordinates of each pixel. -/
def fromAbove : Image ℝ (Vec2 ℝ) × Image ℝ (Vec2 ℝ) := (id, id)

/-- OpenCV finds one contour, where the floor point at `c` is in the mirrored image. -/
noncomputable def marked (c : Vec2 ℝ) : Vision ℝ (Vec2 ℝ) where
  amplify      := id
  convert      := id
  findContours := fun _ _ => [⟨10, mirror c, 1, 1⟩]

theorem marked_detectTouch (a : Application ℝ (Vec2 ℝ) (Vec2 ℝ)) (c : Vec2 ℝ)
    (frame : Image ℝ (Vec2 ℝ) × Image ℝ (Vec2 ℝ)) : (a.detectTouch (marked c) frame).2 = mirror c := by
  have hlargest : largestEllipse [(⟨10, mirror c, 1, 1⟩ : Contour ℝ)] = (1 * 1, mirror c) := by
    have hsize : (ofInt 0 : ℝ) < 1 * 1 := by
      rw [ofInt_zero, one_mul]
      exact one_pos
    exact if_pos hsize
  exact congrArg Prod.snd hlargest

theorem fromAbove_seen (c : Vec2 ℝ) : Seen Eq Eq c c fromAbove := ⟨rfl, fun _ => Iff.rfl⟩

theorem one_mapsImage (image : Image ℝ (Vec2 ℝ)) (h : image = id) : MapsImage Eq 1 image := by
  refine ⟨?_, ?_⟩
  · rw [Matrix.det_one]
    exact one_ne_zero
  · rintro q p rfl
    refine ⟨1, one_ne_zero, ?_⟩
    rw [h, Matrix.one_mulVec, one_smul]
    rfl

theorem perspectiveTransform_one (q : Vec2 ℝ) : perspectiveTransform 1 q = q := by
  unfold perspectiveTransform
  simp [fabs, ofInt_real]

/-- The program while the wizard runs, and in play with the identity as homography. -/
noncomputable def wizardRunning : Application ℝ (Vec2 ℝ) (Vec2 ℝ) where
  gameClient        := ⟨⟨[], messageIDFirst, 0, fun _ => ⟨⟨0, 0, 0, 0, false, false, false⟩, false, ⟨0, 0, 0⟩⟩⟩,
    fiveUnits idFirstClient⟩
  calibration       := .new
  bgrImage          := id
  depthImage        := id
  calibrationImage  := id
  isFinished        := false
  isTouchCalibrated := true
  isTouching        := false

noncomputable def inPlay : Application ℝ (Vec2 ℝ) (Vec2 ℝ) :=
  { wizardRunning with calibration := { Calibration.new with cameraToPhysical := some 1 } }

theorem wizardRunning_loop : ∃ a, wizardRunning.calibrationLoop (fun _ _ => 0) none fromAbove = some a :=
  ⟨_, rfl⟩

theorem inPlay_processFrame (c : Vec2 ℝ) :
    ∃ a touch requests, (inPlay.getFrame fromAbove).processFrame (marked c) fromAbove =
      some (a, touch, requests) := by
  obtain ⟨detected, hdetected⟩ : ∃ detected, detected =
    (inPlay.getFrame fromAbove).flipHorizontally.detectTouch (marked c) fromAbove := ⟨_, rfl⟩
  have hgame : detected.1.gameClient.game = fiveUnits idFirstClient := by
    rw [hdetected]
    rfl
  have hcalibration : detected.1.calibration.cameraToPhysical = some 1 := by
    rw [hdetected, detectTouch_calibration]
    rfl
  obtain ⟨requests, hrequests⟩ :=
    exists_requestsFor (perspectiveTransform 1 detected.2) fiveUnits_isSome
  refine ⟨detected.1, perspectiveTransform 1 detected.2, requests, ?_⟩
  unfold processFrame
  dsimp only
  rw [← hdetected, hcalibration, hgame, Option.bind_eq_bind, Option.bind_some, hrequests]
  rfl

theorem inPlay_detects (c : Vec2 ℝ) :
    Detects Eq (marked c) c (inPlay.getFrame fromAbove).flipHorizontally fromAbove := by
  unfold Detects
  rw [marked_detectTouch]
  exact (detectTouch_image inPlay (fun _ _ => Iff.rfl) (fromAbove_seen c) (fromAbove_seen c) _).mpr rfl

theorem touch_mapped_on_axis :
    ∃ a touch requests, (inPlay.getFrame fromAbove).processFrame (marked ⟨639 / 2, 100⟩) fromAbove =
      some (a, touch, requests) ∧ touch = ⟨639 / 2, 100⟩ := by
  obtain ⟨wizard', hwizard⟩ := wizardRunning_loop
  obtain ⟨a, touch, requests, h⟩ := inPlay_processFrame ⟨639 / 2, 100⟩
  refine ⟨a, touch, requests, h, ?_⟩
  have hseen := fromAbove_seen ⟨639 / 2, 100⟩
  have hmaps := one_mapsImage wizard'.bgrImage (calibrationLoop_bgrImage hwizard)
  exact (touch_mapped_iff (fun _ _ => Iff.rfl) hwizard hseen rfl hmaps hseen hseen h
    (inPlay_detects _)).mpr (Or.inl (mul_div_cancel₀ 639 two_ne_zero))

/-- A touch at the floor point (100, 100) is mapped to (539, 100). -/
theorem touch_mirrored :
    Seen Eq Eq ⟨100, 100⟩ ⟨100, 100⟩ fromAbove ∧
    (∃ wizard', wizardRunning.calibrationLoop (fun _ _ => 0) none fromAbove = some wizard' ∧
      MapsImage Eq 1 wizard'.bgrImage) ∧
    inPlay.calibration.cameraToPhysical = some 1 ∧
    ∃ a touch requests, (inPlay.getFrame fromAbove).processFrame (marked ⟨100, 100⟩) fromAbove =
        some (a, touch, requests) ∧
      Detects Eq (marked ⟨100, 100⟩) ⟨100, 100⟩ (inPlay.getFrame fromAbove).flipHorizontally fromAbove ∧
      touch ≠ ⟨100, 100⟩ := by
  obtain ⟨wizard', hwizard⟩ := wizardRunning_loop
  obtain ⟨a, touch, requests, h⟩ := inPlay_processFrame ⟨100, 100⟩
  have hmaps := one_mapsImage wizard'.bgrImage (calibrationLoop_bgrImage hwizard)
  refine ⟨fromAbove_seen _, ⟨wizard', hwizard, hmaps⟩, rfl, a, touch, requests, h, inPlay_detects _, ?_⟩
  obtain ⟨m, hm, htouch⟩ := processFrame_touch h
  obtain rfl : (1 : Matrix (Fin 3) (Fin 3) ℝ) = m := Option.some.inj hm
  rw [htouch, marked_detectTouch, perspectiveTransform_one]
  intro heq
  have hx : (ofInt 639 - 100 : ℝ) = 100 := congrArg Vec2.x heq
  norm_num [ofInt_real] at hx

end Application

end Footscreen
