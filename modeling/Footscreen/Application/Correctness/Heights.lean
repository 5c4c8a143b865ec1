import Footscreen.Application.Program
import Footscreen.Application.Correctness.Commands

/-!
# `Application.Correctness.Heights` — what is a touch, and what is not

The filters of `detectTouch` keep a pixel if the median of its window is off by exactly three gray levels
from the image of the floor. Where the camera sees something else than a foot's height above the floor in
every window, noise in fewer than half of its pixels not counted, there is no touch.

`Look` is what `detectTouch` compares. A `Watched` program goes with the look of its last frame, from the
wizard on, whenever the floor is calibrated anew; `Watched.Knows` says that the calibration image is that
of the look's floor. `no_foot_no_touch` says what a frame comes to that shows no foot.
-/

namespace Footscreen

open FloatArith Lib

namespace OpenCV

variable {F : Type} [FloatArith F] {cv : OpenCV F} {d e : Nat} {x y : Int}

/-! ## Gray levels -/

/-- The gray level of a depth. -/
def gray (cv : OpenCV F) (d : Nat) : Nat := cv.convertTo (amplify d)

/-- **A small difference** in depth stays below three gray levels. -/
theorem Documented.gray_near (h : cv.Documented) (hnear : absdiff d e ≤ 51) :
    absdiff (cv.gray d) (cv.gray e) < 3 := by
  obtain ⟨r, hr, hr', hd⟩ := h.convertTo (amplify d)
  obtain ⟨s, hs, hs', he⟩ := h.convertTo (amplify e)
  unfold gray
  rw [hd, he]
  unfold absdiff at hnear ⊢
  unfold amplify imageAmplification at hr hr' hs hs'
  omega

/-- **A large one** is above them, unless the depths are too large for eight bits. -/
theorem Documented.gray_far (h : cv.Documented) (hfar : 102 < absdiff d e) (hbits : max d e ≤ 6540) :
    3 < absdiff (cv.gray d) (cv.gray e) := by
  obtain ⟨r, hr, hr', hd⟩ := h.convertTo (amplify d)
  obtain ⟨s, hs, hs', he⟩ := h.convertTo (amplify e)
  unfold gray
  rw [hd, he]
  unfold absdiff at hfar ⊢
  unfold amplify imageAmplification at hr hr' hs hs'
  omega

/-- The frame that calibrates the floor is amplified twice. -/
theorem Documented.gray_amplified (h : cv.Documented) (hmin : 12 ≤ d) (hmax : d ≤ 6438) :
    3 < absdiff (cv.gray (amplify d)) (cv.gray d) := by
  obtain ⟨r, hr, hr', hd⟩ := h.convertTo (amplify (amplify d))
  obtain ⟨s, hs, hs', he⟩ := h.convertTo (amplify d)
  unfold gray
  rw [hd, he]
  unfold absdiff
  unfold amplify imageAmplification at hr hr' hs hs'
  omega

/-! ## Pixels that are kept -/

theorem window_length : (window x y : List (Vec2 F)).length = 625 := by
  unfold window
  rw [List.length_flatMap]
  simp

omit [FloatArith F] in
/-- A pixel is kept if the median of its window is three. -/
theorem thresholdedDepth_eq_zero {src calibrationImage : Image F Nat} {p : Vec2 F} :
    cv.thresholdedDepth src calibrationImage p = 0 ↔
      cv.medianBlur (fun q => absdiff (src q) (calibrationImage q)) p ≠ 3 := by
  unfold thresholdedDepth threshToZero threshToZeroInv legThreshold
  dsimp only
  split_ifs <;> omega

/-- Most pixels of the window show something that is a foot's height above the floor. -/
def FootAt (floor frame : Image F Nat) (x y : Int) : Prop :=
  Most (fun p => 51 < absdiff (frame p) (floor p)) (window x y) ∧
    Most (fun p => absdiff (frame p) (floor p) ≤ 102 ∨ 6540 < max (frame p) (floor p)) (window x y)

/-- Most pixels of the window have no proper depth. -/
def BlindAt (frame : Image F Nat) (x y : Int) : Prop :=
  Most (fun p => frame p < 12 ∨ 6438 < frame p) (window x y)

/-- Noise does not look like a foot. -/
theorem not_footAt {floor frame : Image F Nat}
    (h : Most (fun p => absdiff (frame p) (floor p) ≤ 51) (window x y)) : ¬ FootAt floor frame x y := by
  rintro ⟨hfoot, -⟩
  obtain ⟨p, -, hnear, hfar⟩ := h.exists_both hfoot
  exact Nat.not_lt.mpr hnear hfar

/-- What is kept of a difference has a median of three. -/
theorem Documented.most (h : cv.Documented) (hinside : Inside x y) {src calibrationImage : Image F Nat}
    (hkept : cv.thresholdedDepth src calibrationImage (pixel x y) ≠ 0) :
    Most (fun p => absdiff (src p) (calibrationImage p) ≤ 3) (window x y) ∧
      Most (fun p => 3 ≤ absdiff (src p) (calibrationImage p)) (window x y) := by
  have hmedian := h.medianBlur (fun q => absdiff (src q) (calibrationImage q)) x y hinside
  rw [not_not.mp (mt thresholdedDepth_eq_zero.mpr hkept)] at hmedian
  exact ⟨most_map.mp hmedian.le, most_map.mp hmedian.ge⟩

theorem Documented.footAt (h : cv.Documented) (hinside : Inside x y) {floor frame : Image F Nat}
    (hkept : cv.thresholdedDepth (cv.gray ∘ frame) (cv.gray ∘ floor) (pixel x y) ≠ 0) :
    FootAt floor frame x y := by
  obtain ⟨hle, hge⟩ := h.most hinside hkept
  constructor
  · refine hge.mono fun p _ hthree => ?_
    by_contra hnear
    exact Nat.not_lt.mpr hthree (h.gray_near (Nat.not_lt.mp hnear))
  · refine hle.mono fun p _ hthree => ?_
    by_contra hfar
    rw [not_or, Nat.not_le, Nat.not_lt] at hfar
    exact Nat.not_lt.mpr hthree (h.gray_far hfar.1 hfar.2)

theorem Documented.blindAt (h : cv.Documented) (hinside : Inside x y) {frame : Image F Nat}
    (hkept : cv.thresholdedDepth (cv.gray ∘ amplify ∘ frame) (cv.gray ∘ frame) (pixel x y) ≠ 0) :
    BlindAt frame x y := by
  obtain ⟨hle, -⟩ := h.most hinside hkept
  refine hle.mono fun p _ hthree => ?_
  by_contra hproper
  rw [not_or, Nat.not_lt, Nat.not_lt] at hproper
  exact Nat.not_lt.mpr hthree (h.gray_amplified hproper.1 hproper.2)

/-! ## Looks -/

/-- What `detectTouch` compares. -/
inductive Look (F : Type) where
  /-- The frame calibrates the floor, and is compared with itself. -/
  | calibrating (frame : Image F Nat)
  | comparing (floor frame : Image F Nat)

namespace Look

/-- The floor, as the camera has seen it. -/
def floor : Look F → Image F Nat
  | calibrating frame => frame
  | comparing floor _ => floor

/-- There may be a foot in the mirrored image. -/
def Shows : Look F → Int → Int → Prop
  | calibrating frame     => BlindAt frame.flip
  | comparing floor frame => FootAt floor.flip frame.flip

/-- What `detectTouch` is left with. -/
def kept (cv : OpenCV F) : Look F → Image F Nat
  | calibrating frame     => cv.thresholdedDepth (cv.gray ∘ amplify ∘ frame.flip) (cv.gray ∘ frame.flip)
  | comparing floor frame => cv.thresholdedDepth (cv.gray ∘ frame.flip) (cv.gray ∘ floor.flip)

theorem shows_of_kept (h : cv.Documented) (look : Look F) (hinside : Inside x y)
    (hkept : look.kept cv (pixel x y) ≠ 0) : look.Shows x y := by
  cases look with
  | calibrating frame     => exact h.blindAt hinside hkept
  | comparing floor frame => exact h.footAt hinside hkept

end Look

end OpenCV

/-! ## Runs -/

namespace Application

variable {F B : Type} [FloatArith F] [SteeringArith F] {a a' : Application F B Nat} {cv : OpenCV F}
  {frame : Image F B × Image F Nat} {perspective : Quad F → Quad F → Matrix (Fin 3) (Fin 3) F}
  {commands : List (Command F)}

/-- The program, and the last look at the floor since it was calibrated. -/
structure Watched (F B : Type) where
  application : Application F B Nat
  look        : Option (OpenCV.Look F)

namespace Watched

variable {w w' : Watched F B} {key : Option Char} {frames : Nat → Image F B × Image F Nat}
  {look : OpenCV.Look F}

/-- The look of a round of the loop. -/
def nextLook (w : Watched F B) (key : Option Char) (frames : Nat → Image F B × Image F Nat) :
    Option (OpenCV.Look F) :=
  if !w.application.calibration.hasTerminated || key = some 'q' then w.look
  else if key = some 'c' then some (.comparing (frames 0).2 (frames 1).2)
  else if !w.application.isTouchCalibrated then some (.calibrating (frames 1).2)
  else w.look.map fun look => .comparing look.floor (frames 0).2

def step (perspective : Quad F → Quad F → Matrix (Fin 3) (Fin 3) F) (cv : OpenCV F) (w : Watched F B)
    (e : Event F B Nat) : Option (Watched F B) :=
  (w.application.step perspective cv.vision e).map fun application =>
    { application
      look :=
        match e with
        | .loop key frames => w.nextLook key frames
        | _                => w.look }

/-- The calibration image is that of the look's floor. -/
def Knows (cv : OpenCV F) (w : Watched F B) : Prop :=
  ∀ look, w.look = some look → w.application.isTouchCalibrated = true ∧
    w.application.calibrationImage = cv.gray ∘ look.floor.flip

end Watched

/-! ### One frame -/

/-- `detectTouch` is about to compare what the look says. -/
def Sees (cv : OpenCV F) (a : Application F B Nat) (frame : Image F B × Image F Nat) :
    OpenCV.Look F → Prop
  | .calibrating shown     => a.isTouchCalibrated = false ∧ frame.2 = shown
  | .comparing floor shown => a.isTouchCalibrated = true ∧ a.calibrationImage = cv.gray ∘ floor.flip ∧
      a.depthImage = shown.flip

omit [SteeringArith F] in
/-- **`detectTouch`** finds its contours in what is kept, and knows the floor. -/
theorem Sees.detectTouch {look : OpenCV.Look F} {detected : Application F B Nat} {center : Vec2 F}
    (h : a.Sees cv frame look) (hdetect : a.detectTouch cv.vision frame = (detected, center)) :
    center = (largestEllipse (cv.findContours (look.kept cv))).2 ∧
      detected.isTouching = (decide (ofInt 0 ≤ center.x) && decide (ofInt 0 ≤ center.y)) ∧
      detected.isTouchCalibrated = true ∧ detected.calibrationImage = cv.gray ∘ look.floor.flip := by
  cases look with
  | calibrating shown =>
      obtain ⟨huncalibrated, rfl⟩ := h
      unfold Application.detectTouch at hdetect
      rw [huncalibrated] at hdetect
      cases hdetect
      exact ⟨rfl, rfl, rfl, rfl⟩
  | comparing floor shown =>
      obtain ⟨hcalibrated, hfloor, hshown⟩ := h
      unfold Application.detectTouch at hdetect
      rw [hcalibrated] at hdetect
      cases hdetect
      refine ⟨?_, rfl, hcalibrated, hfloor⟩
      show (largestEllipse (cv.vision.findContours (cv.gray ∘ a.depthImage) a.calibrationImage)).2 = _
      rw [hfloor, hshown]
      rfl

/-- `c` first calibrates the floor, with a frame of its own. -/
def prepared (a : Application F B Nat) (vision : Vision F Nat) (key : Option Char)
    (frames : Nat → Image F B × Image F Nat) :
    Application F B Nat × (Nat → Image F B × Image F Nat) :=
  if key = some 'c' then (a.calibrateTouch vision (frames 0), fun i => frames (i + 1)) else (a, frames)

/-- What `detectTouch` comes to in a round of the loop. -/
def detected (a : Application F B Nat) (vision : Vision F Nat) (key : Option Char)
    (frames : Nat → Image F B × Image F Nat) : Application F B Nat × Vec2 F :=
  let (a, frames) := a.prepared vision key frames
  (a.getFrame (frames 0)).flipHorizontally.detectTouch vision (frames 1)

section

variable {vision : Vision F Nat} {key : Option Char} {frames : Nat → Image F B × Image F Nat}

omit [SteeringArith F] in
theorem prepared_keeps (a : Application F B Nat) (vision : Vision F Nat) (key : Option Char)
    (frames : Nat → Image F B × Image F Nat) :
    (a.prepared vision key frames).1.calibration = a.calibration ∧
      (a.prepared vision key frames).1.gameClient = a.gameClient ∧
      (a.prepared vision key frames).1.isFinished = a.isFinished := by
  unfold prepared
  split
  · exact ⟨rfl, rfl, rfl⟩
  · exact ⟨rfl, rfl, rfl⟩

omit [SteeringArith F] in
theorem detected_calibration (a : Application F B Nat) (vision : Vision F Nat) (key : Option Char)
    (frames : Nat → Image F B × Image F Nat) :
    (a.detected vision key frames).1.calibration = a.calibration :=
  (detectTouch_keeps _ _ _).1.trans (a.prepared_keeps vision key frames).1

/-- A round of the loop, once the wizard is over, is a frame. -/
theorem gameLoop_frame (hrunning : a.isFinished = false) (hkey : key ≠ some 'q') :
    a.gameLoop vision key frames =
      (((a.prepared vision key frames).1.getFrame
        ((a.prepared vision key frames).2 0)).processFrame vision
          ((a.prepared vision key frames).2 1)).map fun r =>
        (r.1, keyCommands key ++ r.2.2.map .send) := by
  obtain ⟨-, -, hfinished⟩ := a.prepared_keeps vision key frames
  obtain ⟨b, hb⟩ : ∃ b, b = a.prepared vision key frames := ⟨_, rfl⟩
  have hplay : a.gameLoop vision key frames =
      if b.1.isFinished then some (b.1, keyCommands key)
      else ((b.1.getFrame (b.2 0)).processFrame vision (b.2 1)).bind fun r =>
        some (r.1, keyCommands key ++ r.2.2.map .send) := by
    unfold gameLoop
    rw [if_neg hkey, hb]
    rfl
  rw [hplay, hb, hfinished, hrunning]
  exact Option.map_eq_bind.symm

/-- **A round in play** makes the requests for what it has detected. -/
theorem gameLoop_eq (hrunning : a.isFinished = false) (hkey : key ≠ some 'q')
    {m : Matrix (Fin 3) (Fin 3) F} (hm : a.calibration.cameraToPhysical = some m) :
    a.gameLoop vision key frames =
      (requestsFor a.gameClient.game
        (perspectiveTransform m (a.detected vision key frames).2)).map fun requests =>
          ((a.detected vision key frames).1, keyCommands key ++ requests.map .send) := by
  obtain ⟨hcalibration, hclient, -⟩ := a.prepared_keeps vision key frames
  have hm' : ((a.prepared vision key frames).1.getFrame
      ((a.prepared vision key frames).2 0)).calibration.cameraToPhysical = some m := by
    rw [← hm, ← hcalibration]
    rfl
  rw [gameLoop_frame hrunning hkey, processFrame_eq hm', Option.map_map, ← hclient]
  rfl

theorem gameLoop_inv (hrunning : a.isFinished = false) (hkey : key ≠ some 'q')
    (h : a.gameLoop vision key frames = some (a', commands)) :
    ∃ m requests, a' = (a.detected vision key frames).1 ∧ a.calibration.cameraToPhysical = some m ∧
      requestsFor a.gameClient.game (perspectiveTransform m (a.detected vision key frames).2) =
        some requests ∧
      commands = keyCommands key ++ requests.map .send := by
  have hhomography : ∃ m, a.calibration.cameraToPhysical = some m := by
    rw [gameLoop_frame hrunning hkey] at h
    obtain ⟨r, hframe, -⟩ := Option.map_eq_some_iff.mp h
    obtain ⟨m, hm, -⟩ := Option.bind_eq_some_iff.mp hframe
    exact ⟨m, (congrArg Calibration.cameraToPhysical (a.detected_calibration _ _ _)).symm.trans hm⟩
  obtain ⟨m, hm⟩ := hhomography
  rw [gameLoop_eq hrunning hkey hm] at h
  obtain ⟨requests, hrequests, heq⟩ := Option.map_eq_some_iff.mp h
  cases heq
  exact ⟨m, requests, rfl, hm, hrequests, rfl⟩

end

namespace Watched

variable {w w' : Watched F B} {key : Option Char} {frames : Nat → Image F B × Image F Nat}
  {look : OpenCV.Look F} {e : Event F B Nat}

omit [SteeringArith F] in
/-- In play, `detectTouch` gets to see the next look. -/
theorem Knows.sees (h : w.Knows cv) (hplay : w.application.calibration.hasTerminated = true)
    (hkey : key ≠ some 'q') (hlook : w.nextLook key frames = some look) :
    ((w.application.prepared cv.vision key frames).1.getFrame
        ((w.application.prepared cv.vision key frames).2 0)).flipHorizontally.Sees cv
      ((w.application.prepared cv.vision key frames).2 1) look := by
  have hloop : ¬ (!w.application.calibration.hasTerminated || decide (key = some 'q')) = true := by
    simp [hplay, hkey]
  unfold nextLook at hlook
  rw [if_neg hloop] at hlook
  unfold prepared
  split_ifs at hlook ⊢ with hc huncalibrated
  · obtain rfl := Option.some.inj hlook
    exact ⟨rfl, rfl, rfl⟩
  · have huncalibrated' : w.application.isTouchCalibrated = false := by simpa using huncalibrated
    obtain rfl := Option.some.inj hlook
    exact ⟨huncalibrated', rfl⟩
  · obtain ⟨last, hlast, rfl⟩ := Option.map_eq_some_iff.mp hlook
    obtain ⟨hcalibrated, hfloor⟩ := h last hlast
    exact ⟨hcalibrated, hfloor, rfl⟩

omit [SteeringArith F] in
/-- **What is detected**, in play: the touch, and the floor for the next time. -/
theorem Knows.detected (h : w.Knows cv) (hplay : w.application.calibration.hasTerminated = true)
    (hkey : key ≠ some 'q') (hlook : w.nextLook key frames = some look) :
    let center := (largestEllipse (cv.findContours (look.kept cv))).2
    (w.application.detected cv.vision key frames).2 = center ∧
      (w.application.detected cv.vision key frames).1.isTouching =
        (decide (ofInt 0 ≤ center.x) && decide (ofInt 0 ≤ center.y)) ∧
      (w.application.detected cv.vision key frames).1.isTouchCalibrated = true ∧
      (w.application.detected cv.vision key frames).1.calibrationImage =
        cv.gray ∘ look.floor.flip := by
  have hdetect : w.application.detected cv.vision key frames =
      ((w.application.detected cv.vision key frames).1, (w.application.detected cv.vision key frames).2) :=
    (Prod.eta _).symm
  obtain ⟨hcenter, htouching, hknown⟩ := (h.sees hplay hkey hlook).detectTouch hdetect
  rw [hcenter] at htouching
  exact ⟨hcenter, htouching, hknown⟩

/-- **One step** keeps the floor in mind. -/
theorem Knows.step (h : w.Knows cv) (hstep : w.step perspective cv e = some w') : w'.Knows cv := by
  obtain ⟨a', hevent, rfl⟩ := Option.map_eq_some_iff.mp hstep
  cases e with
  | mouseCallback event x y =>
      cases hevent
      exact h
  | receive gameClient =>
      cases hevent
      exact h
  | loop key frames =>
      cases hrunning : w.application.isFinished with
      | true =>
          rw [Application.step, hrunning] at hevent
          cases hevent
      | false =>
          rw [Application.step, hrunning] at hevent
          obtain ⟨⟨a', commands⟩, hloop, rfl⟩ := Option.map_eq_some_iff.mp hevent
          cases hplay : w.application.calibration.hasTerminated with
          | false =>
              have hsame : w.nextLook key frames = w.look := by
                unfold nextLook
                rw [hplay]
                rfl
              rw [Application.loop, hplay] at hloop
              obtain ⟨b, hwizard, heq⟩ := Option.map_eq_some_iff.mp hloop
              cases heq
              obtain ⟨calibration, -, heq⟩ := Option.bind_eq_some_iff.mp hwizard
              cases heq
              intro look hlook
              have hkept := h look (hsame ▸ hlook)
              dsimp only
              split
              · exact hkept
              · exact hkept
          | true =>
              by_cases hkey : key = some 'q'
              · subst hkey
                have hsame : w.nextLook (some 'q') frames = w.look := by
                  unfold nextLook
                  rw [hplay]
                  rfl
                rw [Application.loop, hplay] at hloop
                cases hloop
                intro look hlook
                exact h look (hsame ▸ hlook)
              · intro look hlook
                rw [Application.loop, hplay] at hloop
                obtain ⟨-, -, rfl, -⟩ := gameLoop_inv hrunning hkey hloop
                exact (h.detected hplay hkey hlook).2.2

/-- **The run**: whatever the program has been started with, it knows the floor that it looks at. -/
theorem knows_run {events : List (Event F B Nat)}
    (h : exec (Watched.step perspective cv) ⟨a, none⟩ events = some w) : w.Knows cv :=
  exec_invariant (I := Knows cv) Knows.step (fun _ hnone => by cases hnone) h

/-- **No foot, no touch.** Whatever the program has done since it was started, a frame without a foot in
    any window has no touch, and its requests are those for the point (-1, -1) of the camera's image. -/
theorem no_foot_no_touch (hcv : cv.Documented) (hnegative : ¬ (ofInt 0 : F) ≤ -ofInt 1)
    {events : List (Event F B Nat)}
    (h : exec (Watched.step perspective cv) ⟨a, none⟩ events = some w)
    (hrunning : w.application.isFinished = false)
    (hplay : w.application.calibration.hasTerminated = true) (hkey : key ≠ some 'q')
    (hlook : w.nextLook key frames = some look)
    (hloop : w.application.loop perspective cv.vision key frames = some (a', commands))
    (hnofoot : ∀ x y, OpenCV.Inside x y → ¬ look.Shows x y) :
    a'.isTouching = false ∧
      ∃ m requests, w.application.calibration.cameraToPhysical = some m ∧
        requestsFor w.application.gameClient.game (perspectiveTransform m ⟨-ofInt 1, -ofInt 1⟩) =
          some requests ∧
        commands = keyCommands key ++ requests.map .send := by
  rw [Application.loop, hplay] at hloop
  obtain ⟨m, requests, rfl, hm, hrequests, hcommands⟩ := gameLoop_inv hrunning hkey hloop
  obtain ⟨htouch, htouching, -⟩ := (knows_run h).detected hplay hkey hlook
  have hempty : cv.findContours (look.kept cv) = [] := by
    apply hcv.findContours
    intro x y hinside
    by_contra hkept
    exact hnofoot x y hinside (look.shows_of_kept hcv hinside hkept)
  have hcenter : (largestEllipse (cv.findContours (look.kept cv))).2 = ⟨-ofInt 1, -ofInt 1⟩ := by
    rw [hempty]
    rfl
  rw [htouch, hcenter] at hrequests
  rw [hcenter] at htouching
  refine ⟨?_, m, requests, hm, hrequests, hcommands⟩
  rw [htouching, decide_eq_false hnegative]
  rfl

end Watched

/-! ## An empty floor -/

/-- OpenCV, where it finds a contour as soon as anything is left. -/
def eager : OpenCV Int where
  convertTo d        := min ((d + 128) / 256) 255
  medianBlur image p := median ((OpenCV.window p.x p.y).map image) 0
  findContours image :=
    if ∀ x : Nat, x < 640 → ∀ y : Nat, y < 480 → image (OpenCV.pixel x y) = 0 then []
    else [⟨10, ⟨0, 0⟩, 1, 1⟩]

theorem eager_documented : eager.Documented := by
  refine ⟨?_, ?_, ?_⟩
  · intro d
    exact ⟨(d + 128) / 256, by omega, by omega, rfl⟩
  · intro image x y _
    have hodd : ((OpenCV.window x y).map image).length % 2 = 1 := by
      rw [List.length_map, OpenCV.window_length (F := Int) (x := x) (y := y)]
    have hmedian := isMedian_median hodd 0
    unfold eager
    dsimp only
    exact hmedian
  · intro image hempty
    have hall : ∀ x : Nat, x < 640 → ∀ y : Nat, y < 480 → image (OpenCV.pixel x y) = 0 := by
      intro x hx y hy
      apply hempty
      unfold OpenCV.Inside
      omega
    unfold eager
    dsimp only
    exact if_pos hall

/-- The floor is two metres away; then there is a mat on it. -/
def matOnFloor (i : Nat) : Image Int Unit × Image Int Nat :=
  (fun _ => (), fun _ => if i = 0 then 2000 else 1960)

/-- The program in play. -/
def started : Application Int Unit Nat where
  gameClient        := untouched.gameClient
  calibration       := { untouched.calibration with hasTerminated := true }
  bgrImage          := fun _ => ()
  depthImage        := fun _ => 0
  calibrationImage  := fun _ => 0
  isFinished        := false
  isTouchCalibrated := false
  isTouching        := false

/-- The mat is no foot. -/
theorem no_foot_no_touch_mat :
    ∃ a commands, started.loop (fun _ _ => homography) eager.vision (some 'c') matOnFloor =
      some (a, commands) ∧ a.isTouching = false := by
  obtain ⟨requests, hrequests⟩ := Option.isSome_iff_exists.mp
    ((requestsFor_isSome_iff started.gameClient.game (perspectiveTransform homography
      (started.detected eager.vision (some 'c') matOnFloor).2)).mpr (by decide))
  have hgame : ∃ a commands, started.gameLoop eager.vision (some 'c') matOnFloor = some (a, commands) := by
    rw [gameLoop_eq rfl (by decide) rfl, hrequests]
    exact ⟨_, _, rfl⟩
  obtain ⟨a, commands, hgame⟩ := hgame
  have hloop : started.loop (fun _ _ => homography) eager.vision (some 'c') matOnFloor =
      some (a, commands) := hgame
  have hrun : exec (Watched.step (fun _ _ => homography) eager) ⟨started, none⟩ [] =
      some ⟨started, none⟩ := exec_nil
  have hlook : Watched.nextLook ⟨started, none⟩ (some 'c') matOnFloor =
      some (.comparing (matOnFloor 0).2 (matOnFloor 1).2) := rfl
  have hmat : ∀ x y, OpenCV.Inside x y →
      ¬ (OpenCV.Look.comparing (matOnFloor 0).2 (matOnFloor 1).2).Shows x y := by
    intro x y _
    apply OpenCV.not_footAt
    refine most_of_sublist (List.Sublist.refl _) ?_ fun p _ => ?_
    · rw [OpenCV.window_length (F := Int) (x := x) (y := y)]
      omega
    · show OpenCV.absdiff 1960 2000 ≤ 51
      decide
  have huntouched := Watched.no_foot_no_touch eager_documented (by decide) hrun rfl rfl (by decide) hlook
    hloop hmat
  exact ⟨a, commands, hloop, huntouched.1⟩

end Application

end Footscreen
