import Footscreen.Application.Correctness.Heights
import Footscreen.Application.Correctness.Wizard

/-!
# `Application.Correctness.Play` — the program, from clicks to commands

The program is in play from the first round after eight clicks on (`Over`), and the homographies are those
of these clicks for the rest of the run (`Follows`), whatever is clicked later. `commands_of_run` says what
a round asks the server for, in terms of what has come in: the clicks, the two frames that are compared,
and the client's game.
-/

namespace Footscreen

open FloatArith Lib

namespace Application

variable {F B : Type} [FloatArith F] [SteeringArith F] {a a' : Application F B Nat} {cv : OpenCV F}
  {vision : Vision F Nat} {perspective : Quad F → Quad F → Matrix (Fin 3) (Fin 3) F}
  {key : Option Char} {frames : Nat → Image F B × Image F Nat} {commands : List (Command F)}
  {events : List (Event F B Nat)} {e : Event F B Nat}

/-! ## Clicks -/

/-- What the wizard hears of an event, whatever its state. -/
def Event.click : Event F B Nat → Option Calibration.Event
  | .mouseCallback event x y => some (.mouseCallback event x y)
  | _                        => none

/-- The left clicks of a run. -/
def clicks (events : List (Event F B Nat)) : List (Vec2 F) :=
  Calibration.clicks (events.filterMap Event.click)

/-- A round came after eight clicks. -/
def Over (events : List (Event F B Nat)) : Prop :=
  ∃ before key frames after, events = before ++ Event.loop key frames :: after ∧ 8 ≤ (clicks before).length

omit [SteeringArith F] in
theorem clicks_snoc (e : Event F B Nat) :
    clicks (events ++ [e]) = (e.click.map (Calibration.clicksAfter (clicks events))).getD (clicks events) := by
  unfold clicks Calibration.clicks
  rw [List.filterMap_append, List.foldl_append]
  cases e <;> rfl

omit [SteeringArith F] in
theorem over_snoc : Over (events ++ [e]) ↔
    Over events ∨ (∃ key frames, e = .loop key frames) ∧ 8 ≤ (clicks events).length := by
  constructor
  · rintro ⟨before, key, frames, after, heq, h8⟩
    rcases List.eq_nil_or_concat after with rfl | ⟨after, last, rfl⟩
    · obtain ⟨rfl, hlast⟩ := List.append_inj' heq rfl
      exact Or.inr ⟨⟨key, frames, List.singleton_inj.mp hlast⟩, h8⟩
    · rw [List.concat_eq_append, ← List.cons_append, ← List.append_assoc] at heq
      obtain ⟨rfl, -⟩ := List.append_inj' heq rfl
      exact Or.inl ⟨before, key, frames, after, rfl, h8⟩
  · rintro (⟨before, key, frames, after, rfl, h8⟩ | ⟨⟨key, frames, rfl⟩, h8⟩)
    · exact ⟨before, key, frames, after ++ [e], by rw [List.append_assoc, List.cons_append], h8⟩
    · exact ⟨events, key, frames, [], rfl, h8⟩

/-! ## Runs -/

/-- The wizard's state follows the clicks, and it is over when it should be. -/
structure Follows (perspective : Quad F → Quad F → Matrix (Fin 3) (Fin 3) F) (events : List (Event F B Nat))
    (a : Application F B Nat) : Prop where
  tracks : Calibration.Tracks perspective (clicks events) a.calibration
  inPlay : a.calibration.hasTerminated = true ↔ Over events

omit [SteeringArith F] in
theorem mouseCallback_hasTerminated {M : Type} (c : Calibration F M) (event x y : Int) :
    (c.mouseCallback event x y).hasTerminated = c.hasTerminated := by
  unfold Calibration.mouseCallback Calibration.handleMouseClick
  dsimp only
  split_ifs <;> rfl

/-- A round in play leaves the wizard alone. -/
theorem gameLoop_calibration (hrunning : a.isFinished = false)
    (h : a.gameLoop vision key frames = some (a', commands)) : a'.calibration = a.calibration := by
  by_cases hkey : key = some 'q'
  · subst hkey
    cases h
    rfl
  · obtain ⟨-, -, rfl, -⟩ := gameLoop_inv hrunning hkey h
    exact a.detected_calibration vision key frames

/-- **A round of the wizard** goes through, and is the last one if all clicks are there. -/
theorem Follows.wizard (h : Follows perspective events a) (hwizard : a.calibration.hasTerminated = false)
    (vision : Vision F Nat) (key : Option Char) (frames : Nat → Image F B × Image F Nat) :
    ∃ a', a.loop perspective vision key frames = some (a', []) ∧
      Calibration.Tracks perspective (clicks events) a'.calibration ∧
      (a'.calibration.hasTerminated = true ↔ 8 ≤ (clicks events).length) := by
  have hround : ∃ c, a.calibration.loop perspective = some c ∧
      Calibration.Tracks perspective (clicks events) c ∧
      (c.hasTerminated = true ↔ 8 ≤ (clicks events).length) := by
    by_cases h8 : (clicks events).length < 8
    · obtain ⟨name, hname⟩ := h.tracks.exists_name
      refine ⟨_, h.tracks.loop_prompt h8 hname, h.tracks.withImage _, ?_⟩
      exact iff_of_false (Bool.eq_false_iff.mp hwizard) (Nat.not_le.mpr h8)
    · obtain ⟨c, -, -, hloop, hterminated, -, -, htracks⟩ := h.tracks.loop_finish (Nat.not_lt.mp h8)
      exact ⟨c, hloop, htracks, iff_of_true hterminated (Nat.not_lt.mp h8)⟩
  obtain ⟨c, hloop, htracks, hterminated⟩ := hround
  obtain ⟨b, hb⟩ : ∃ b, b = if key = some 'q' then { a with isFinished := true } else a := ⟨_, rfl⟩
  have hcalibration : b.calibration = a.calibration := by
    rw [hb]
    split
    · rfl
    · rfl
  have hround : a.calibrationLoop perspective key (frames 0) =
      some { b.getFrame (frames 0) with calibration := c } := by
    unfold calibrationLoop
    dsimp only
    rw [← hb, getFrame, hcalibration, hloop]
    rfl
  refine ⟨{ b.getFrame (frames 0) with calibration := c }, ?_, htracks, hterminated⟩
  rw [loop, hwizard, hround]
  rfl

/-- **One step**. -/
theorem Follows.step (h : Follows perspective events a) (hstep : a.step perspective vision e = some a') :
    Follows perspective (events ++ [e]) a' := by
  cases e with
  | mouseCallback event x y =>
      cases hstep
      refine ⟨?_, ?_⟩
      · rw [clicks_snoc]
        exact h.tracks.mouseCallback event x y
      · rw [mouseCallback_hasTerminated, h.inPlay, over_snoc]
        simp
  | receive gameClient =>
      cases hstep
      refine ⟨?_, ?_⟩
      · rw [clicks_snoc]
        exact h.tracks
      · rw [over_snoc]
        simpa using h.inPlay
  | loop key frames =>
      have hclicks : clicks (events ++ [Event.loop key frames]) = clicks events := clicks_snoc _
      cases hrunning : a.isFinished with
      | true =>
          rw [Application.step, hrunning] at hstep
          cases hstep
      | false =>
          rw [Application.step, hrunning] at hstep
          obtain ⟨⟨a', commands⟩, hloop, rfl⟩ := Option.map_eq_some_iff.mp hstep
          cases hplay : a.calibration.hasTerminated with
          | false =>
              obtain ⟨b, hwizard, htracks, hterminated⟩ := h.wizard hplay vision key frames
              rw [hwizard] at hloop
              cases hloop
              refine ⟨hclicks ▸ htracks, ?_⟩
              have hnot : ¬ Over events := by
                rw [← h.inPlay, hplay]
                exact Bool.false_ne_true
              rw [hterminated, over_snoc, or_iff_right hnot]
              exact (and_iff_right ⟨key, frames, rfl⟩).symm
          | true =>
              rw [loop, hplay] at hloop
              have hcalibration : a'.calibration = a.calibration := gameLoop_calibration hrunning hloop
              refine ⟨?_, ?_⟩
              · rw [hclicks, hcalibration]
                exact h.tracks
              · rw [hcalibration]
                exact iff_of_true hplay (over_snoc.mpr (Or.inl (h.inPlay.mp hplay)))

omit [SteeringArith F] in
theorem follows_start (hnew : a.calibration = .new) : Follows perspective [] a := by
  refine ⟨hnew ▸ Calibration.tracks_new, ?_⟩
  rw [hnew]
  refine iff_of_false Bool.false_ne_true ?_
  rintro ⟨before, key, frames, after, heq, -⟩
  exact absurd heq.symm (List.append_ne_nil_of_right_ne_nil _ (List.cons_ne_nil _ _))

/-- **The run.** -/
theorem follows_exec (hnew : a.calibration = .new)
    (h : exec (step perspective vision) a events = some a') : Follows perspective events a' :=
  exec_trace (P := fun events a' => Follows perspective events a') (follows_start hnew)
    (fun _ ih hstep => ih.step hstep) h

namespace Watched

variable {w : Watched F B} {look : OpenCV.Look F}

/-- The program does not notice that it is watched. -/
theorem exec_application (h : exec (Watched.step perspective cv) ⟨a, none⟩ events = some w) :
    exec (Application.step perspective cv.vision) a events = some w.application := by
  refine exec_trace (P := fun events (w : Watched F B) =>
    exec (Application.step perspective cv.vision) a events = some w.application) rfl ?_ h
  intro events w e w' _ ih hstep
  obtain ⟨a', hevent, rfl⟩ := Option.map_eq_some_iff.mp hstep
  exact exec_snoc.mpr ⟨w.application, ih, hevent⟩

/-- **Commands.** Before the wizard is over, no round asks for anything, and every one goes through. From
    then on, a round asks for what the pressed key stands for, and for the requests for its touch: the
    largest ellipse in what is kept of its look, mapped by the homography of the fifth to eighth click. -/
theorem commands_of_run (key : Option Char) (frames : Nat → Image F B × Image F Nat)
    (hnew : a.calibration = .new)
    (h : exec (Watched.step perspective cv) ⟨a, none⟩ events = some w)
    (hrunning : w.application.isFinished = false) :
    (¬ Over events → (w.application.loop perspective cv.vision key frames).map Prod.snd = some []) ∧
      (Over events → key ≠ some 'q' → ∀ look, w.nextLook key frames = some look →
        ∃ projector camera : Quad F,
          (clicks events).take 8 = List.ofFn projector ++ List.ofFn camera ∧
          (w.application.loop perspective cv.vision key frames).map Prod.snd =
            (requestsFor w.application.gameClient.game
              (perspectiveTransform (perspective camera Calibration.corners)
                (largestEllipse (cv.findContours (look.kept cv))).2)).map fun requests =>
              keyCommands key ++ requests.map .send) := by
  have hfollows := follows_exec hnew (exec_application h)
  have hknows := knows_run h
  constructor
  · intro hnot
    have hwizard : w.application.calibration.hasTerminated = false := by
      rw [← hfollows.inPlay] at hnot
      exact Bool.eq_false_iff.mpr hnot
    obtain ⟨a', hloop, -⟩ := hfollows.wizard hwizard cv.vision key frames
    rw [hloop]
    rfl
  · intro hover hkey look hlook
    have hplay := hfollows.inPlay.mpr hover
    obtain ⟨projector, camera, htake, hcomputed⟩ := hfollows.tracks.computed hplay
    refine ⟨projector, camera, htake, ?_⟩
    rw [← (hknows.detected hplay hkey hlook).1, loop, hplay]
    have hround : w.application.gameLoop cv.vision key frames = _ :=
      gameLoop_eq hrunning hkey hcomputed.cameraToPhysical
    refine (congrArg (Option.map Prod.snd) hround).trans ?_
    rw [Option.map_map]
    rfl

end Watched

/-! ## Eight clicks -/

/-- The program at its start. -/
def constructed : Application Int Unit Nat := { started with calibration := .new }

/-- Four clicks for the projector and four for the camera, and another one that comes too late. -/
def nineClicks : List (Event Int Unit Nat) :=
  (List.range 9).map (fun i : Nat => .mouseCallback 1 (10 * i) 20) ++ [.loop none matOnFloor]

theorem nineClicks_isSome :
    (exec (Watched.step (fun _ _ => homography) eager) ⟨constructed, none⟩ nineClicks).isSome = true := rfl

/-- The program behind the wizard. -/
def calibrated : Watched Int Unit := (exec _ _ nineClicks).get nineClicks_isSome

/-- A frame right after that, with the mat: the requests are those for the touch in the difference of the two
    frames. -/
theorem commands_of_run_nineClicks :
    (calibrated.application.loop (fun _ _ => homography) eager.vision (some 'c') matOnFloor).map Prod.snd =
      (requestsFor calibrated.application.gameClient.game
        (perspectiveTransform homography (largestEllipse (eager.findContours
          (OpenCV.Look.kept eager (.comparing (matOnFloor 0).2 (matOnFloor 1).2)))).2)).map fun requests =>
        keyCommands (some 'c') ++ requests.map .send := by
  have hrun : exec (Watched.step (fun _ _ => homography) eager) ⟨constructed, none⟩ nineClicks =
      some calibrated := (Option.some_get nineClicks_isSome).symm
  have hover : Over nineClicks := ⟨_, none, matOnFloor, [], rfl, by decide⟩
  obtain ⟨-, hplay⟩ := Watched.commands_of_run (some 'c') matOnFloor rfl hrun rfl
  obtain ⟨projector, camera, -, hcommands⟩ := hplay hover (by decide) _ rfl
  exact hcommands

end Application

end Footscreen
