import Footscreen.Application.Correctness.Steering

/-!
# `Application.Correctness.Commands` — what a frame asks the server for

A frame looks up the first five of the client's own units, whatever its touch, so it completes exactly if
there are as many (`requestsFor_isSome_iff`). When it does, it has sent one move request and highlighted
one unit: nothing asks `m_isTouching`, which `detectTouch` has just set (`silent_iff`).
-/

namespace Footscreen

open FloatArith

namespace Application

section

variable {F B D : Type} [FloatArith F] {game : Game F} {touch : Vec2 F} {requests : List (GameMessage F)}
  {a a' : Application F B D} {vision : Vision F D} {frame : Image F B × Image F D}

/-! ## Completing -/

theorem mem_indices {i : Nat} (hi : i < 5) : (i : Int) ∈ ([0, 1, 2, 3, 4] : List Int) := by
  simp only [List.mem_cons, List.not_mem_nil, or_false]
  omega

theorem exists_index {j : Int} (hj : j ∈ ([0, 1, 2, 3, 4] : List Int)) : ∃ i < 5, j = ((i : Nat) : Int) := by
  simp only [List.mem_cons, List.not_mem_nil, or_false] at hj
  exact ⟨j.toNat, by omega, by omega⟩

/-- The first indices are sent as they are. -/
theorem index_toNat {i : Nat} (hi : i < 5) : (UInt8.ofInt i).toNat = i := by
  have hsent : ∀ j ∈ ([0, 1, 2, 3, 4] : List Int), ((UInt8.ofInt j).toNat : Int) = j := by decide
  exact Int.ofNat_inj.mp (hsent i (mem_indices hi))

omit [FloatArith F] in
theorem ownUnits_isSome (h : 5 ≤ (game.unitsOf game.ownPlayerID).length) :
    ∀ i ∈ [0, 1, 2, 3, 4], (game.ownUnitByIndex (UInt8.ofInt i)).isSome := by
  intro j hj
  obtain ⟨i, hi, rfl⟩ := exists_index hj
  rw [Game.ownUnitByIndex_eq, index_toNat hi, isSome_getElem?]
  exact hi.trans_le h

variable [SteeringArith F]

/-- **A frame completes** exactly if the client has five units of its own. -/
theorem requestsFor_isSome_iff (game : Game F) (touch : Vec2 F) :
    (requestsFor game touch).isSome ↔ 5 ≤ (game.unitsOf game.ownPlayerID).length := by
  constructor
  · intro h
    obtain ⟨requests, hrequests⟩ := Option.isSome_iff_exists.mp h
    obtain ⟨_, _, hselect, -, -⟩ := requestsFor_inv hrequests
    -- the last round of the loop has found its unit
    have hlast : (game.ownUnitByIndex 4).isSome := selectUnit_units hselect 4 (by decide)
    rw [Game.ownUnitByIndex_eq, isSome_getElem?] at hlast
    exact hlast
  · intro h
    obtain ⟨requests, hrequests⟩ := exists_requestsFor touch (ownUnits_isSome h)
    rw [hrequests]
    rfl

omit [SteeringArith F] in
theorem detectTouch_keeps (a : Application F B D) (vision : Vision F D)
    (frame : Image F B × Image F D) :
    (a.detectTouch vision frame).1.calibration = a.calibration ∧
      (a.detectTouch vision frame).1.gameClient = a.gameClient := by
  unfold detectTouch
  dsimp only
  split
  · exact ⟨rfl, rfl⟩
  · exact ⟨rfl, rfl⟩

/-- `processFrame`, from the camera's homography on: the touch, and the requests for it. -/
theorem processFrame_eq {m : Matrix (Fin 3) (Fin 3) F} (hm : a.calibration.cameraToPhysical = some m) :
    a.processFrame vision frame =
      (requestsFor a.gameClient.game
        (perspectiveTransform m (a.flipHorizontally.detectTouch vision frame).2)).map fun requests =>
          ((a.flipHorizontally.detectTouch vision frame).1,
            perspectiveTransform m (a.flipHorizontally.detectTouch vision frame).2, requests) := by
  obtain ⟨detected, hdetected⟩ : ∃ detected, detected = a.flipHorizontally.detectTouch vision frame :=
    ⟨_, rfl⟩
  obtain ⟨hcalibration, hclient⟩ := detectTouch_keeps a.flipHorizontally vision frame
  rw [← hdetected] at hcalibration hclient ⊢
  have hhomography : detected.1.calibration.cameraToPhysical = some m := by
    rw [hcalibration]
    exact hm
  have hgame : detected.1.gameClient.game = a.gameClient.game := by
    rw [hclient]
    rfl
  unfold processFrame
  dsimp only
  rw [← hdetected, hhomography, Option.bind_eq_bind, Option.bind_some, hgame]
  cases requestsFor a.gameClient.game (perspectiveTransform m detected.2) <;> rfl

/-! ## Requests without a touch -/

/-- The move requests among some messages. -/
def moveRequests (ms : List (GameMessage F)) : List (MoveRequest F) :=
  ms.filterMap fun m =>
    match m.payload with
    | .moveRequest r => some r
    | _              => none

/-- The messages neither move a unit nor highlight one. -/
def Silent (ms : List (GameMessage F)) : Prop :=
  moveRequests ms = [] ∧ ∀ m ∈ ms, ∀ r, m.payload = .highlightRequest r → r.isHighlighted = false

theorem moveRequests_eq (h : requestsFor game touch = some requests) :
    ∃ r, moveRequests requests = [r] := by
  obtain ⟨i, unit, -, rfl⟩ := requestsFor_eq h
  exact ⟨_, rfl⟩

theorem not_silent (h : requestsFor game touch = some requests) : ¬ Silent requests := by
  rintro ⟨hmoves, -⟩
  obtain ⟨r, hr⟩ := moveRequests_eq h
  rw [hmoves] at hr
  cases hr

/-- **No touch, no command**, only where the frame does not get as far as its requests: where the client
    has fewer than five units of its own, and the frame dereferences an empty pointer. -/
theorem silent_iff {m : Matrix (Fin 3) (Fin 3) F} (hm : a.calibration.cameraToPhysical = some m)
    (huntouched : (a.flipHorizontally.detectTouch vision frame).1.isTouching = false) :
    (∀ a' touch requests, a.processFrame vision frame = some (a', touch, requests) →
        a'.isTouching = false → Silent requests) ↔
      (a.gameClient.game.unitsOf a.gameClient.game.ownPlayerID).length < 5 := by
  rw [processFrame_eq hm]
  constructor
  · intro hsilent
    by_contra hfive
    obtain ⟨requests, hrequests⟩ :=
      Option.isSome_iff_exists.mp ((requestsFor_isSome_iff _ _).mpr (not_lt.mp hfive))
    rw [hrequests] at hsilent
    exact not_silent hrequests (hsilent _ _ _ rfl huntouched)
  · intro hfew a' touch requests h _
    obtain ⟨requests', hrequests, heq⟩ := Option.map_eq_some_iff.mp h
    have hfive := (requestsFor_isSome_iff _ _).mp (Option.isSome_iff_exists.mpr ⟨requests', hrequests⟩)
    exact absurd hfew (not_lt.mpr hfive)

end

/-! ## A camera that sees nothing -/

/-- The player's own unit, in the middle of the floor. -/
def ownUnit (address : Nat) : GameUnit Int where
  address      := address
  messageID    := messageIDFirst
  gameUnitData := ⟨240, 240, 1, idFirstClient, false, true, false⟩
  velocity     := .zero
  acceleration := .zero
  isHunting    := false

/-- The identity. -/
def homography : Matrix (Fin 3) (Fin 3) Int := fun i j => if i = j then 1 else 0

/-- A program in play, with five units. -/
def untouched : Application Int Unit Unit where
  gameClient :=
    { context :=
        { messageHandlers := [], nextMessageID := messageIDFirst, nextAddress := 6
          unset := fun _ => ⟨⟨0, 0, 0, 0, false, false, false⟩, false, ⟨0, 0, 0⟩⟩ }
      game :=
        { address := 0, hasStarted := true, hasFinished := false, timer := 0, durationTimer := 0
          lastUnitTime := -1, gameUnits := [1, 2, 3, 4, 5].map ownUnit, gameObstacles := []
          ownPlayerID := idFirstClient } }
  calibration       := { Calibration.new with cameraToPhysical := some homography }
  bgrImage          := fun _ => ()
  depthImage        := fun _ => ()
  calibrationImage  := fun _ => ()
  isFinished        := false
  isTouchCalibrated := true
  isTouching        := false

/-- There are no contours. -/
def emptyFloor : Vision Int Unit := ⟨id, id, fun _ _ => []⟩

def dark : Image Int Unit × Image Int Unit := (fun _ => (), fun _ => ())

theorem emptyFloor_untouched :
    (untouched.flipHorizontally.detectTouch emptyFloor dark).1.isTouching = false := by
  decide

theorem silent_iff_untouched :
    (∀ a' touch requests, untouched.processFrame emptyFloor dark = some (a', touch, requests) →
        a'.isTouching = false → Silent requests) ↔
      (untouched.gameClient.game.unitsOf untouched.gameClient.game.ownPlayerID).length < 5 :=
  silent_iff rfl emptyFloor_untouched

/-- The unit that is nearest to the point (-1, -1) is sent there, and highlighted. -/
theorem untouched_commands :
    ∃ a' touch requests, untouched.processFrame emptyFloor dark = some (a', touch, requests) ∧
      a'.isTouching = false ∧ touch = ⟨-1, -1⟩ ∧ ¬ Silent requests := by
  have hfive : 5 ≤ (untouched.gameClient.game.unitsOf idFirstClient).length := by decide
  obtain ⟨requests, hrequests⟩ :=
    Option.isSome_iff_exists.mp ((requestsFor_isSome_iff untouched.gameClient.game ⟨-1, -1⟩).mpr hfive)
  have htouch : perspectiveTransform homography
      (untouched.flipHorizontally.detectTouch emptyFloor dark).2 = ⟨-1, -1⟩ := by decide
  have hframe : untouched.processFrame emptyFloor dark = _ := processFrame_eq rfl
  rw [htouch, hrequests] at hframe
  exact ⟨_, _, requests, hframe, emptyFloor_untouched, rfl, not_silent hrequests⟩

end Application

end Footscreen
