import Mathlib.Data.List.Basic
import Mathlib.Data.List.OfFn
import Footscreen.Application.Calibration
import Footscreen.Lib.Run

/-!
# `Application.Correctness.Wizard` — the wizard and the clicks it has taken

All of the wizard's state, its counters, flags and lists, is a function of the clicks since the last
restart (`Tracks`), except for when it terminates. `wizard_consistent` reads off what this means for the
indices, for the matrices and for further clicks; no run gets stuck.
-/

namespace Footscreen

open FloatArith Lib

namespace Calibration

variable {F M : Type} [FloatArith F]

/-! ## Clicks -/

/-- The clicks since the last restart, one event later. -/
def clicksAfter (cs : List (Vec2 F)) : Event → List (Vec2 F)
  | .mouseCallback event x y => if event = leftButtonDown then cs ++ [⟨ofInt x, ofInt y⟩] else cs
  | .loop                    => cs
  | .restart                 => []

/-- The left clicks since the last restart. -/
def clicks (events : List Event) : List (Vec2 F) := events.foldl clicksAfter []

/-- The corners, in the order of their names. -/
def corners : Quad F := ![bottomLeft, bottomRight, topRight, topLeft]

variable (perspective : Quad F → Quad F → M)

/-- The matrices are those between the clicked points and the corners. -/
structure ComputedFrom (projector camera : Quad F) (c : Calibration F M) : Prop where
  projectorToPhysical : c.projectorToPhysical = some (perspective projector corners)
  physicalToProjector : c.physicalToProjector = some (perspective corners projector)
  physicalToCamera    : c.physicalToCamera = some (perspective corners camera)
  cameraToPhysical    : c.cameraToPhysical = some (perspective camera corners)

/-- **The wizard is consistent** with the clicks that it has got. -/
structure Consistent (cs : List (Vec2 F)) (c : Calibration F M) : Prop where
  projectorCount : c.numberOfProjectorCoordinates = c.projectorCoordinates.length
  cameraCount    : c.numberOfCameraCoordinates = c.cameraCoordinates.length
  projectorMost  : c.numberOfProjectorCoordinates ≤ 4
  cameraMost     : c.numberOfCameraCoordinates ≤ 4
  projectorFlag  : c.isProjectorCalibrated = true ↔ c.numberOfProjectorCoordinates = 4
  cameraFlag     : c.isCameraCalibrated = true ↔ c.numberOfCameraCoordinates = 4
  cameraAfter    : c.cameraCoordinates ≠ [] → c.projectorCoordinates.length = 4
  names          : c.circleNames =
    ["bottom-left (red)", "bottom-right (green)", "top-right (blue)", "top-left (black)"]
  /-- The indices of `calibrateProjector` and `calibrateCamera`, when these are called. -/
  projectorIndex : c.isProjectorCalibrated = false → c.numberOfProjectorCoordinates < 4
  cameraIndex    : c.isProjectorCalibrated = true → c.isCameraCalibrated = false →
    c.numberOfCameraCoordinates < 4
  /-- The lists when `computeHomography` is called. -/
  homography     : c.isProjectorCalibrated = true → c.isCameraCalibrated = true →
    c.projectorCoordinates.length = 4 ∧ c.cameraCoordinates.length = 4
  prompt         : cs.length < 8 → ∀ name ∈ c.circleNames[cs.length % 4]?,
    (c.loop perspective).map (·.calibrationImage) = some ["Click on the " ++ name ++ " circle."]
  finish         : 8 ≤ cs.length → (c.loop perspective).map (·.hasTerminated) = some true
  computed       : c.hasTerminated = true → ∃ projector camera : Quad F,
    cs.take 8 = List.ofFn projector ++ List.ofFn camera ∧
      ComputedFrom perspective projector camera c
  beyond         : 8 ≤ cs.length → ∀ event x y, c.mouseCallback event x y = c

/-! ## The state behind the clicks -/

/-- The wizard's state for the clicks since the last restart. -/
structure Tracks (cs : List (Vec2 F)) (c : Calibration F M) : Prop where
  names          : c.circleNames =
    ["bottom-left (red)", "bottom-right (green)", "top-right (blue)", "top-left (black)"]
  projector      : c.projectorCoordinates = cs.take 4
  projectorCount : c.numberOfProjectorCoordinates = min 4 cs.length
  projectorFlag  : c.isProjectorCalibrated = true ↔ 4 ≤ cs.length
  camera         : c.cameraCoordinates = (cs.drop 4).take 4
  cameraCount    : c.numberOfCameraCoordinates = min 4 (cs.length - 4)
  cameraFlag     : c.isCameraCalibrated = true ↔ 8 ≤ cs.length
  computed       : c.hasTerminated = true → ∃ projector camera : Quad F,
    cs.take 8 = List.ofFn projector ++ List.ofFn camera ∧
      ComputedFrom perspective projector camera c

variable {perspective} {cs : List (Vec2 F)} {c c' : Calibration F M} {e : Event}

omit [FloatArith F] in
theorem take_snoc_of_lt {n : Nat} (p : Vec2 F) (h : cs.length < n) :
    (cs ++ [p]).take n = cs.take n ++ [p] := by
  rw [List.take_of_length_le (by simp; omega), List.take_of_length_le (by omega)]

omit [FloatArith F] in
theorem take_snoc_of_le {n : Nat} (p : Vec2 F) (h : n ≤ cs.length) :
    (cs ++ [p]).take n = cs.take n :=
  List.take_append_of_le_length h

omit [FloatArith F] in
/-- Four points in a list. -/
theorem exists_quad {ps : List (Vec2 F)} (h : ps.length = 4) : ∃ p : Quad F, ps = List.ofFn p := by
  obtain ⟨a, b, c, d, rfl⟩ := List.length_eq_four.mp h
  exact ⟨![a, b, c, d], rfl⟩

omit [FloatArith F] in
theorem getPerspectiveTransform_ofFn (src dst : Quad F) :
    getPerspectiveTransform perspective (List.ofFn src) (List.ofFn dst) =
      some (perspective src dst) := by
  have hget : ∀ (q : Quad F) (h : 4 = (List.ofFn q).length),
      (fun k : Fin 4 => (List.ofFn q).get (k.cast h)) = q := by
    intro q h
    funext k
    rw [List.get_ofFn]
    rfl
  unfold getPerspectiveTransform
  rw [dif_pos ⟨List.length_ofFn, List.length_ofFn⟩, hget, hget]

theorem targetPoints_eq : (targetPoints : List (Vec2 F)) = List.ofFn corners := rfl

theorem tracks_new : Tracks perspective [] (new : Calibration F M) := by
  refine ⟨rfl, rfl, rfl, ?_, rfl, rfl, ?_, ?_⟩
  · simp [new]
  · simp [new]
  · intro h
    cases h

theorem Tracks.restart (h : Tracks perspective cs c) : Tracks perspective [] c.restart := by
  refine ⟨h.names, rfl, rfl, ?_, rfl, rfl, ?_, ?_⟩
  · simp [Calibration.restart]
  · simp [Calibration.restart]
  · intro hno
    cases hno

/-- A click that the wizard still takes has not been followed by its end. -/
theorem Tracks.not_terminated (h : Tracks perspective cs c) (hlt : cs.length < 8) :
    c.hasTerminated = false := by
  by_contra hyes
  rw [Bool.not_eq_false] at hyes
  obtain ⟨projector, camera, heq, -⟩ := h.computed hyes
  have hlength := congrArg List.length heq
  rw [List.length_append, List.length_ofFn, List.length_ofFn, List.length_take] at hlength
  omega

/-- A click for the projector. -/
theorem handleMouseClick_projector (x y : Int) (h : c.numberOfProjectorCoordinates < 4) :
    c.handleMouseClick x y = { c with
      projectorCoordinates         := c.projectorCoordinates ++ [⟨ofInt x, ofInt y⟩]
      numberOfProjectorCoordinates := c.numberOfProjectorCoordinates + 1
      isProjectorCalibrated        :=
        c.isProjectorCalibrated || decide (4 ≤ c.numberOfProjectorCoordinates + 1) } := by
  unfold handleMouseClick
  rw [if_pos h]
  dsimp only
  split
  · next hfull => simp [hfull]
  · next hfull => simp [hfull]

/-- A click for the camera. -/
theorem handleMouseClick_camera (x y : Int) (h : ¬ c.numberOfProjectorCoordinates < 4)
    (h' : c.numberOfCameraCoordinates < 4) :
    c.handleMouseClick x y = { c with
      cameraCoordinates         := c.cameraCoordinates ++ [⟨ofInt x, ofInt y⟩]
      numberOfCameraCoordinates := c.numberOfCameraCoordinates + 1
      isCameraCalibrated        :=
        c.isCameraCalibrated || decide (4 ≤ c.numberOfCameraCoordinates + 1) } := by
  unfold handleMouseClick
  rw [if_neg h, if_pos h']
  dsimp only
  split
  · next hfull => simp [hfull]
  · next hfull => simp [hfull]

/-- From the eighth click on nothing changes. -/
theorem Tracks.beyond (h : Tracks perspective cs c) (h8 : 8 ≤ cs.length) (x y : Int) :
    c.handleMouseClick x y = c := by
  have hprojector := h.projectorCount
  have hcamera := h.cameraCount
  unfold handleMouseClick
  rw [if_neg (by omega), if_neg (by omega)]

theorem Tracks.click (h : Tracks perspective cs c) (x y : Int) :
    Tracks perspective (cs ++ [⟨ofInt x, ofInt y⟩]) (c.handleMouseClick x y) := by
  have hlength : (cs ++ [(⟨ofInt x, ofInt y⟩ : Vec2 F)]).length = cs.length + 1 := List.length_append
  have hprojector := h.projectorCount
  have hprojectorFlag := h.projectorFlag
  have hcamera := h.cameraCount
  have hcameraFlag := h.cameraFlag
  by_cases h4 : cs.length < 4
  · have hrunning := h.not_terminated (by omega)
    rw [handleMouseClick_projector x y (by omega)]
    refine ⟨h.names, ?_, ?_, ?_, ?_, ?_, ?_, ?_⟩
    · rw [take_snoc_of_lt _ h4, ← h.projector]
    · dsimp only
      omega
    · rw [Bool.or_eq_true, decide_eq_true_iff, hprojectorFlag]
      omega
    · rw [List.drop_of_length_le (by omega), h.camera, List.drop_of_length_le (by omega)]
    · dsimp only
      omega
    · dsimp only
      rw [hcameraFlag]
      omega
    · intro hyes
      exact absurd (hrunning.symm.trans hyes) Bool.false_ne_true
  by_cases h8 : cs.length < 8
  · have hrunning := h.not_terminated h8
    have hdrop : (cs ++ [(⟨ofInt x, ofInt y⟩ : Vec2 F)]).drop 4 = cs.drop 4 ++ [⟨ofInt x, ofInt y⟩] :=
      List.drop_append_of_le_length (by omega)
    rw [handleMouseClick_camera x y (by omega) (by omega)]
    refine ⟨h.names, ?_, ?_, ?_, ?_, ?_, ?_, ?_⟩
    · rw [take_snoc_of_le _ (by omega), ← h.projector]
    · dsimp only
      omega
    · dsimp only
      rw [hprojectorFlag]
      omega
    · rw [hdrop, take_snoc_of_lt _ (by rw [List.length_drop]; omega), ← h.camera]
    · dsimp only
      omega
    · rw [Bool.or_eq_true, decide_eq_true_iff, hcameraFlag]
      omega
    · intro hyes
      exact absurd (hrunning.symm.trans hyes) Bool.false_ne_true
  · have hdrop : (cs ++ [(⟨ofInt x, ofInt y⟩ : Vec2 F)]).drop 4 = cs.drop 4 ++ [⟨ofInt x, ofInt y⟩] :=
      List.drop_append_of_le_length (by omega)
    rw [h.beyond (by omega)]
    refine ⟨h.names, ?_, ?_, ?_, ?_, ?_, ?_, ?_⟩
    · rw [take_snoc_of_le _ (by omega), ← h.projector]
    · omega
    · rw [hprojectorFlag]
      omega
    · rw [hdrop, take_snoc_of_le _ (by rw [List.length_drop]; omega), ← h.camera]
    · omega
    · rw [hcameraFlag]
      omega
    · rw [take_snoc_of_le _ (by omega)]
      exact h.computed

theorem Tracks.mouseCallback (h : Tracks perspective cs c) (event x y : Int) :
    Tracks perspective (clicksAfter cs (.mouseCallback event x y)) (c.mouseCallback event x y) := by
  show Tracks perspective (if event = leftButtonDown then cs ++ [⟨ofInt x, ofInt y⟩] else cs)
    (if event ≠ leftButtonDown then c else c.handleMouseClick x y)
  by_cases hleft : event = leftButtonDown
  · rw [if_pos hleft, if_neg (not_not.mpr hleft)]
    exact h.click x y
  · rw [if_neg hleft, if_pos hleft]
    exact h

/-! ## The loop -/

/-- The picture plays no role. -/
theorem Tracks.withImage (h : Tracks perspective cs c) (image : List String) :
    Tracks perspective cs { c with calibrationImage := image } := by
  refine ⟨h.names, h.projector, h.projectorCount, h.projectorFlag, h.camera, h.cameraCount, h.cameraFlag,
    ?_⟩
  intro hterminated
  obtain ⟨projector, camera, htake, hcomputed⟩ := h.computed hterminated
  exact ⟨projector, camera, htake, hcomputed.projectorToPhysical, hcomputed.physicalToProjector,
    hcomputed.physicalToCamera, hcomputed.cameraToPhysical⟩

/-- While clicks are missing, the loop asks for the next one. -/
theorem Tracks.loop_prompt (h : Tracks perspective cs c) (h8 : cs.length < 8) {name : String}
    (hname : c.circleNames[cs.length % 4]? = some name) :
    c.loop perspective =
      some { c with calibrationImage := ["Click on the " ++ name ++ " circle."] } := by
  have hprojector := h.projectorCount
  have hcamera := h.cameraCount
  unfold loop calibrate
  dsimp only
  by_cases h4 : cs.length < 4
  · have hindex : c.numberOfProjectorCoordinates = cs.length % 4 := by omega
    have hflag : c.isProjectorCalibrated = false := by
      rw [← Bool.not_eq_true, h.projectorFlag]
      omega
    rw [hflag]
    unfold calibrateProjector putInfo
    dsimp only
    rw [hindex, hname]
    rfl
  · have hindex : c.numberOfCameraCoordinates = cs.length % 4 := by omega
    have hflag : c.isProjectorCalibrated = true := h.projectorFlag.mpr (by omega)
    have hflag' : c.isCameraCalibrated = false := by
      rw [← Bool.not_eq_true, h.cameraFlag]
      omega
    rw [hflag, hflag']
    unfold calibrateCamera putInfo
    dsimp only
    rw [hindex, hname]
    rfl

/-- With all clicks, the loop computes the matrices from them and terminates. -/
theorem Tracks.loop_finish (h : Tracks perspective cs c) (h8 : 8 ≤ cs.length) :
    ∃ c' projector camera, c.loop perspective = some c' ∧ c'.hasTerminated = true ∧
      cs.take 8 = List.ofFn projector ++ List.ofFn camera ∧
      ComputedFrom perspective projector camera c' ∧ Tracks perspective cs c' := by
  obtain ⟨projector, hprojector⟩ : ∃ p : Quad F, cs.take 4 = List.ofFn p :=
    exists_quad (by rw [List.length_take]; omega)
  obtain ⟨camera, hcamera⟩ : ∃ p : Quad F, (cs.drop 4).take 4 = List.ofFn p :=
    exists_quad (by rw [List.length_take, List.length_drop]; omega)
  have htake : cs.take 8 = List.ofFn projector ++ List.ofFn camera := by
    rw [← hprojector, ← hcamera]
    exact @List.take_add _ cs 4 4
  have hflag := h.projectorFlag.mpr (by omega)
  have hflag' := h.cameraFlag.mpr h8
  have hloop : c.loop perspective = some { c with
      hasTerminated       := true
      calibrationImage    := []
      projectorToPhysical := some (perspective projector corners)
      physicalToProjector := some (perspective corners projector)
      physicalToCamera    := some (perspective corners camera)
      cameraToPhysical    := some (perspective camera corners) } := by
    unfold loop calibrate computeHomography
    dsimp only
    rw [hflag, hflag', h.projector, h.camera, hprojector, hcamera, targetPoints_eq]
    simp only [getPerspectiveTransform_ofFn]
    rfl
  have hcomputed : ∀ c' : Calibration F M, c.loop perspective = some c' →
      ComputedFrom perspective projector camera c' := by
    intro c' hc'
    rw [hloop] at hc'
    cases hc'
    exact ⟨rfl, rfl, rfl, rfl⟩
  refine ⟨_, projector, camera, hloop, rfl, htake, hcomputed _ hloop, ?_⟩
  exact ⟨h.names, h.projector, h.projectorCount, h.projectorFlag, h.camera, h.cameraCount, h.cameraFlag,
    fun _ => ⟨projector, camera, htake, hcomputed _ hloop⟩⟩

/-- There is a name for every click. -/
theorem Tracks.exists_name (h : Tracks perspective cs c) :
    ∃ name, c.circleNames[cs.length % 4]? = some name := by
  rw [h.names]
  exact ⟨_, List.getElem?_eq_getElem (Nat.mod_lt _ (by decide))⟩

/-! ## Runs -/

/-- **One event**: it can happen, and the state follows the clicks. -/
theorem Tracks.next (h : Tracks perspective cs c) (e : Event) :
    ∃ c', c.step perspective e = some c' ∧ Tracks perspective (clicksAfter cs e) c' := by
  cases e with
  | mouseCallback event x y => exact ⟨_, rfl, h.mouseCallback event x y⟩
  | loop =>
      by_cases h8 : cs.length < 8
      · obtain ⟨name, hname⟩ := h.exists_name
        exact ⟨_, h.loop_prompt h8 hname, h.withImage _⟩
      · obtain ⟨c', -, -, hloop, -, -, -, htracks⟩ := h.loop_finish (by omega)
        exact ⟨c', hloop, htracks⟩
  | restart => exact ⟨_, rfl, h.restart⟩

theorem tracks_run (perspective : Quad F → Quad F → M) (events : List Event) :
    ∃ c : Calibration F M, exec (step perspective) new events = some c ∧
      Tracks perspective (clicks events) c := by
  induction events using List.reverseRecOn with
  | nil => exact ⟨new, rfl, tracks_new⟩
  | append_singleton events e ih =>
      obtain ⟨c, hc, htracks⟩ := ih
      obtain ⟨c', hc', htracks'⟩ := htracks.next e
      unfold clicks
      rw [List.foldl_append]
      exact ⟨c', exec_snoc.mpr ⟨c, hc, hc'⟩, htracks'⟩

theorem tracks_of_run {events : List Event} (h : exec (step perspective) new events = some c) :
    Tracks perspective (clicks events) c := by
  obtain ⟨c', hc', htracks⟩ := tracks_run perspective events
  obtain rfl : c' = c := Option.some.inj (hc'.symm.trans h)
  exact htracks

theorem Tracks.consistent (h : Tracks perspective cs c) : Consistent perspective cs c := by
  have hprojectorCount := h.projectorCount
  have hprojectorFlag := h.projectorFlag
  have hcameraCount := h.cameraCount
  have hcameraFlag := h.cameraFlag
  have hprojector : c.projectorCoordinates.length = min 4 cs.length := by
    rw [h.projector, List.length_take]
  have hcamera : c.cameraCoordinates.length = min 4 (cs.length - 4) := by
    rw [h.camera, List.length_take, List.length_drop]
  constructor
  case projectorCount => omega
  case cameraCount    => omega
  case projectorMost  => omega
  case cameraMost     => omega
  case projectorFlag  => rw [hprojectorFlag]; omega
  case cameraFlag     => rw [hcameraFlag]; omega
  case names          => exact h.names
  case computed       => exact h.computed
  case cameraAfter =>
    intro hne
    have hpos := List.length_pos_iff.mpr hne
    omega
  case projectorIndex =>
    intro hflag
    rw [← Bool.not_eq_true, hprojectorFlag] at hflag
    omega
  case cameraIndex =>
    intro _ hflag
    rw [← Bool.not_eq_true, hcameraFlag] at hflag
    omega
  case homography =>
    intro _ hflag
    rw [hcameraFlag] at hflag
    omega
  case prompt =>
    intro h8 name hname
    rw [h.loop_prompt h8 hname]
    rfl
  case finish =>
    intro h8
    obtain ⟨c', -, -, hloop, hterminated, -⟩ := h.loop_finish h8
    rw [hloop, Option.map_some, hterminated]
  case beyond =>
    intro h8 event x y
    unfold Calibration.mouseCallback
    split
    · rfl
    · exact h.beyond h8 x y

/-- **The wizard** never gets stuck, and is consistent with its clicks in every state. -/
theorem wizard_consistent (perspective : Quad F → Quad F → M) (events : List Event) :
    ∃ c : Calibration F M, exec (step perspective) new events = some c ∧
      Consistent perspective (clicks events) c := by
  obtain ⟨c, hc, htracks⟩ := tracks_run perspective events
  exact ⟨c, hc, htracks.consistent⟩

end Calibration

end Footscreen
