import Footscreen.Game.RealArith
import Footscreen.Lib.Homography
import Footscreen.Application.Correctness.Wizard

/-!
# `Application.Correctness.Maps` — whether the computed maps are inverse to each other

The matrices for the two directions are computed independently. `maps_inverse_iff`: OpenCV's contract
makes them inverse on the corners if and only if neither group of clicks has three points on a line. The
wizard accepts any clicks.
-/

namespace Footscreen

open FloatArith Lib

namespace Calibration

/-! ## Termination does not depend on the matrices -/

section

variable {F M N : Type} [FloatArith F] {perspective : Quad F → Quad F → M}
  {perspective' : Quad F → Quad F → N} {cs : List (Vec2 F)} {c : Calibration F M} {c' : Calibration F N}

theorem handleMouseClick_hasTerminated (c : Calibration F M) (x y : Int) :
    (c.handleMouseClick x y).hasTerminated = c.hasTerminated := by
  unfold handleMouseClick
  dsimp only
  split_ifs <;> rfl

theorem mouseCallback_hasTerminated (c : Calibration F M) (event x y : Int) :
    (c.mouseCallback event x y).hasTerminated = c.hasTerminated := by
  unfold mouseCallback
  split
  · rfl
  · exact handleMouseClick_hasTerminated c x y

/-- The loop ends the wizard when it has all clicks. -/
theorem Tracks.loop_hasTerminated (h : Tracks perspective cs c) {d : Calibration F M}
    (hloop : c.loop perspective = some d) :
    d.hasTerminated = (c.hasTerminated || decide (8 ≤ cs.length)) := by
  by_cases h8 : cs.length < 8
  · obtain ⟨name, hname⟩ := h.exists_name
    rw [h.loop_prompt h8 hname] at hloop
    cases hloop
    simp [h8]
  · obtain ⟨d', -, -, hloop', hterminated, -⟩ := h.loop_finish (by omega)
    obtain rfl : d' = d := Option.some.inj (hloop'.symm.trans hloop)
    rw [hterminated]
    simp [not_lt.mp h8]

theorem hasTerminated_eq {events : List Event} (h : exec (step perspective) new events = some c)
    (h' : exec (step perspective') new events = some c') : c.hasTerminated = c'.hasTerminated := by
  induction events using List.reverseRecOn generalizing c c' with
  | nil =>
      cases h
      cases h'
      rfl
  | append_singleton events e ih =>
      obtain ⟨b, hb, hstep⟩ := exec_snoc.mp h
      obtain ⟨b', hb', hstep'⟩ := exec_snoc.mp h'
      have hsame := ih hb hb'
      cases e with
      | mouseCallback event x y =>
          cases hstep
          cases hstep'
          rw [mouseCallback_hasTerminated, mouseCallback_hasTerminated]
          exact hsame
      | loop =>
          rw [(tracks_of_run hb).loop_hasTerminated hstep, (tracks_of_run hb').loop_hasTerminated hstep',
            hsame]
      | restart =>
          cases hstep
          cases hstep'
          rfl

end

/-! ## The contract -/

/-- The coordinates of four points. -/
def coordinates (q : Quad ℝ) (k : Fin 4) : ℝ × ℝ := ((q k).x, (q k).y)

/-- The matrix sends the points of one quadruple to those of the other. -/
def SendsAll (m : Matrix (Fin 3) (Fin 3) ℝ) (src dst : Quad ℝ) : Prop :=
  ∀ k, Sends m (coordinates src k) (coordinates dst k)

/-- What OpenCV promises of `getPerspectiveTransform`. -/
def Documented (perspective : Quad ℝ → Quad ℝ → Matrix (Fin 3) (Fin 3) ℝ) : Prop :=
  ∀ src dst, (∃ m, m.det ≠ 0 ∧ SendsAll m src dst) → SendsAll (perspective src dst) src dst

/-- One map after the other returns each corner to itself. -/
def Returns (there back : Matrix (Fin 3) (Fin 3) ℝ) : Prop :=
  ∀ k, ∃ p, Sends there (coordinates corners k) p ∧ Sends back p (coordinates corners k)

/-- The maps are inverse to each other on the corners. -/
structure MapsInverse (c : Calibration ℝ (Matrix (Fin 3) (Fin 3) ℝ)) : Prop where
  projector : ∃ there ∈ c.physicalToProjector, ∃ back ∈ c.projectorToPhysical, Returns there back
  camera    : ∃ there ∈ c.physicalToCamera, ∃ back ∈ c.cameraToPhysical, Returns there back

theorem coordinates_corners :
    coordinates corners = ![((0 : ℝ), (480 : ℝ)), (480, 480), (480, 0), (0, 0)] := by
  have hzero : ((0 : Int) : ℝ) = 0 := Int.cast_zero
  have hside : ((480 : Int) : ℝ) = 480 := by norm_num
  funext k
  fin_cases k
  · exact Prod.ext hzero hside
  · exact Prod.ext hside hside
  · exact Prod.ext hside hzero
  · exact Prod.ext hzero hzero

theorem corners_generalPosition : GeneralPosition (coordinates corners) := by
  rw [coordinates_corners]
  constructor
  · show orient ((480 : ℝ), (480 : ℝ)) (480, 0) (0, 0) ≠ 0
    norm_num [orient]
  · show orient ((0 : ℝ), (480 : ℝ)) (480, 0) (0, 0) ≠ 0
    norm_num [orient]
  · show orient ((0 : ℝ), (480 : ℝ)) (480, 480) (0, 0) ≠ 0
    norm_num [orient]
  · show orient ((0 : ℝ), (480 : ℝ)) (480, 480) (480, 0) ≠ 0
    norm_num [orient]

/-- Within the contract the maps of points in general position are inverse to each other. -/
theorem returns_of_generalPosition {perspective : Quad ℝ → Quad ℝ → Matrix (Fin 3) (Fin 3) ℝ}
    (hdoc : Documented perspective) {q : Quad ℝ} (hq : GeneralPosition (coordinates q)) :
    Returns (perspective corners q) (perspective q corners) := by
  have hthere := hdoc corners q (exists_sends corners_generalPosition hq)
  have hback := hdoc q corners (exists_sends hq corners_generalPosition)
  exact fun k => ⟨coordinates q k, hthere k, hback k⟩

/-! ## A solver that keeps the contract, and no more -/

open Classical in
/-- It finds a matrix where there is one, and returns the zero matrix where there is none. -/
noncomputable def solver (src dst : Quad ℝ) : Matrix (Fin 3) (Fin 3) ℝ :=
  if h : ∃ m, SendsAll m src dst then h.choose else 0

theorem solver_sendsAll {src dst : Quad ℝ} (h : ∃ m, SendsAll m src dst) :
    SendsAll (solver src dst) src dst := by
  unfold solver
  rw [dif_pos h]
  exact h.choose_spec

theorem solver_documented : Documented solver := by
  rintro src dst ⟨m, -, hm⟩
  exact solver_sendsAll ⟨m, hm⟩

/-- With three points on a line there is no way back to the corners. -/
theorem solver_not_returns {q : Quad ℝ} (hq : ¬ GeneralPosition (coordinates q))
    (there : Matrix (Fin 3) (Fin 3) ℝ) : ¬ Returns there (solver q corners) := by
  have hnone : ¬ ∃ m, SendsAll m q corners := by
    rintro ⟨m, hm⟩
    exact hq (.of_sends hm corners_generalPosition)
  have hzero : solver q corners = 0 := dif_neg hnone
  rw [hzero]
  intro hreturns
  obtain ⟨p, -, w, hw, heq⟩ := hreturns 0
  rw [Matrix.zero_mulVec] at heq
  have hthird : w * 1 = 0 := (congrFun heq 2).symm
  exact hw (by simpa using hthird)

/-! ## Runs -/

/-- What a terminated wizard has computed. -/
theorem computedFrom_of_run {perspective : Quad ℝ → Quad ℝ → Matrix (Fin 3) (Fin 3) ℝ}
    {events : List Event} {c : Calibration ℝ (Matrix (Fin 3) (Fin 3) ℝ)}
    (h : exec (step perspective) new events = some c) (hterminated : c.hasTerminated = true)
    {projector camera : Quad ℝ}
    (hclicks : (clicks events).take 8 = List.ofFn projector ++ List.ofFn camera) :
    ComputedFrom perspective projector camera c := by
  obtain ⟨projector', camera', hclicks', hcomputed⟩ := (tracks_of_run h).computed hterminated
  obtain ⟨hprojector, hcamera⟩ := List.append_inj (hclicks'.symm.trans hclicks) (by simp)
  rw [← List.ofFn_injective hprojector, ← List.ofFn_injective hcamera]
  exact hcomputed

/-- **The maps are inverse** to each other, by what OpenCV promises, if and only if no three of the clicks
    for the projector are on a line, and no three of those for the camera. -/
theorem maps_inverse_iff {perspective : Quad ℝ → Quad ℝ → Matrix (Fin 3) (Fin 3) ℝ}
    {events : List Event} {c : Calibration ℝ (Matrix (Fin 3) (Fin 3) ℝ)}
    (h : exec (step perspective) new events = some c) (hterminated : c.hasTerminated = true)
    {projector camera : Quad ℝ}
    (hclicks : (clicks events).take 8 = List.ofFn projector ++ List.ofFn camera) :
    (∀ perspective', Documented perspective' →
        ∀ c', exec (step perspective') new events = some c' → MapsInverse c') ↔
      GeneralPosition (coordinates projector) ∧ GeneralPosition (coordinates camera) := by
  constructor
  · intro hinverse
    obtain ⟨c', hc', -⟩ := tracks_run solver events
    have hcomputed := computedFrom_of_run hc' ((hasTerminated_eq hc' h).trans hterminated) hclicks
    obtain ⟨⟨there, -, back, hback, hreturns⟩, there', -, back', hback', hreturns'⟩ :=
      hinverse solver solver_documented c' hc'
    rw [hcomputed.projectorToPhysical, Option.mem_some_iff] at hback
    rw [hcomputed.cameraToPhysical, Option.mem_some_iff] at hback'
    subst hback hback'
    constructor
    · by_contra hno
      exact solver_not_returns hno there hreturns
    · by_contra hno
      exact solver_not_returns hno there' hreturns'
  · rintro ⟨hprojector, hcamera⟩ perspective' hdoc c' hc'
    have hcomputed := computedFrom_of_run hc' ((hasTerminated_eq hc' h).trans hterminated) hclicks
    exact ⟨⟨_, hcomputed.physicalToProjector, _, hcomputed.projectorToPhysical,
        returns_of_generalPosition hdoc hprojector⟩,
      _, hcomputed.physicalToCamera, _, hcomputed.cameraToPhysical,
      returns_of_generalPosition hdoc hcamera⟩

/-- Clicks on some points, and then the loop. -/
def clickAll (ps : List Point) : List Event :=
  ps.map (fun p => .mouseCallback leftButtonDown p.x p.y) ++ [.loop]

/-- The corners of a rectangle. -/
def rectangle : List Point := [⟨100, 400⟩, ⟨500, 400⟩, ⟨500, 100⟩, ⟨100, 100⟩]

noncomputable def rectangleQuad : Quad ℝ :=
  ![⟨ofInt 100, ofInt 400⟩, ⟨ofInt 500, ofInt 400⟩, ⟨ofInt 500, ofInt 100⟩, ⟨ofInt 100, ofInt 100⟩]

theorem rectangleQuad_generalPosition : GeneralPosition (coordinates rectangleQuad) := by
  constructor
  · show orient ((ofInt 500 : ℝ), (ofInt 400 : ℝ)) (ofInt 500, ofInt 100) (ofInt 100, ofInt 100) ≠ 0
    norm_num [orient, ofInt_real]
  · show orient ((ofInt 100 : ℝ), (ofInt 400 : ℝ)) (ofInt 500, ofInt 100) (ofInt 100, ofInt 100) ≠ 0
    norm_num [orient, ofInt_real]
  · show orient ((ofInt 100 : ℝ), (ofInt 400 : ℝ)) (ofInt 500, ofInt 400) (ofInt 100, ofInt 100) ≠ 0
    norm_num [orient, ofInt_real]
  · show orient ((ofInt 100 : ℝ), (ofInt 400 : ℝ)) (ofInt 500, ofInt 400) (ofInt 500, ofInt 100) ≠ 0
    norm_num [orient, ofInt_real]

/-- The wizard on the rectangle, clicked twice. -/
theorem maps_inverse_rectangle :
    ∃ c, exec (step solver) new (clickAll (rectangle ++ rectangle)) = some c ∧ c.hasTerminated = true ∧
      MapsInverse c ∧
      ∀ perspective', Documented perspective' →
        ∀ c', exec (step perspective') new (clickAll (rectangle ++ rectangle)) = some c' →
          MapsInverse c' := by
  have hrun : ∃ c, exec (step solver) new (clickAll (rectangle ++ rectangle)) = some c ∧
      c.hasTerminated = true := ⟨_, rfl, rfl⟩
  obtain ⟨c, hc, hterminated⟩ := hrun
  have hclicks : (clicks (clickAll (rectangle ++ rectangle))).take 8 =
      List.ofFn rectangleQuad ++ List.ofFn rectangleQuad := rfl
  have hinverse := (maps_inverse_iff hc hterminated hclicks).mpr
    ⟨rectangleQuad_generalPosition, rectangleQuad_generalPosition⟩
  exact ⟨c, hc, hterminated, hinverse solver solver_documented c hc, hinverse⟩

/-! ## Four times the same point -/

/-- The point that is clicked. -/
noncomputable def samePoint : Quad ℝ := fun _ => ⟨ofInt 100, ofInt 100⟩

def samePoints : List Event := clickAll (List.replicate 8 ⟨100, 100⟩)

/-- A matrix that sends everything to the point. -/
theorem exists_sendsAll_samePoint : ∃ m, SendsAll m corners samePoint := by
  refine ⟨!![0, 0, 100; 0, 0, 100; 0, 0, 1], ?_⟩
  intro k
  refine ⟨1, one_ne_zero, ?_⟩
  funext i
  fin_cases i <;> norm_num [Matrix.mulVec, lift, coordinates, samePoint, ofInt_real]

/-- No map sends one point to two. -/
theorem not_returns_samePoint {there : Matrix (Fin 3) (Fin 3) ℝ} (back : Matrix (Fin 3) (Fin 3) ℝ)
    (hthere : SendsAll there corners samePoint) : ¬ Returns there back := by
  intro hreturns
  obtain ⟨p, hp, hback⟩ := hreturns 0
  obtain ⟨p', hp', hback'⟩ := hreturns 1
  obtain rfl : p = p' := (hp.unique (hthere 0)).trans ((hthere 1).unique hp')
  have hcorner := congrArg Prod.fst (hback.unique hback')
  rw [coordinates_corners] at hcorner
  norm_num at hcorner

/-- The wizard accepts the clicks. Whatever OpenCV computes for the way back, if it maps the corners to the
    point, as it has promised, then the maps are not inverse. -/
theorem maps_not_inverse :
    (∃ perspective, Documented perspective ∧ ∃ c, exec (step perspective) new samePoints = some c ∧
      c.hasTerminated = true ∧ ¬ MapsInverse c) ∧
    ∀ perspective, SendsAll (perspective corners samePoint) corners samePoint →
      ∀ c, exec (step perspective) new samePoints = some c → ¬ MapsInverse c := by
  have hfails : ∀ perspective, SendsAll (perspective corners samePoint) corners samePoint →
      ∀ c, exec (step perspective) new samePoints = some c → ¬ MapsInverse c := by
    intro perspective hsends c hc hinverse
    have hterminated : c.hasTerminated = true := by
      obtain rfl : _ = c := Option.some.inj hc
      rfl
    have hclicks : (clicks samePoints).take 8 = List.ofFn samePoint ++ List.ofFn samePoint := rfl
    have hcomputed := computedFrom_of_run hc hterminated hclicks
    obtain ⟨there, hthere, back, -, hreturns⟩ := hinverse.projector
    rw [hcomputed.physicalToProjector, Option.mem_some_iff] at hthere
    subst hthere
    exact not_returns_samePoint back hsends hreturns
  refine ⟨⟨solver, solver_documented, _, rfl, rfl, ?_⟩, hfails⟩
  exact hfails solver (solver_sendsAll exists_sendsAll_samePoint) _ rfl

end Calibration

end Footscreen
