import Mathlib.Analysis.SpecialFunctions.Complex.Arg
import Footscreen.Game.RealArith
import Footscreen.Game.Correctness.Requests
import Footscreen.Application.Application

/-!
# `Application.Correctness.Steering` — where a touch sends the unit

The client takes the angle of a touch in image coordinates, in which y grows downward, and the server
decodes it with y growing upward. `steering_parallel_iff`: the unit moves along the line through it and
the touch if and only if the two are level or one above the other.
-/

namespace Footscreen

open FloatArith

noncomputable instance : SteeringArith ℝ where
  atan2 y x := Complex.arg ⟨x, y⟩
  pi        := Real.pi

/-! ## The client's side -/

namespace Application

section

variable {F : Type} [FloatArith F] {game : Game F} {touch : Vec2 F} {is : List Int}
  {nearest nearest' : Int × F} {requests : List (GameMessage F)}

/-- The nearest unit so far, after one unit more. -/
def nearer (touch : Vec2 F) (unit : GameUnit F) (i : Int) (nearest : Int × F) : Int × F :=
  let currentDistance := (touch.sub ⟨unit.x, unit.y⟩).norm
  if nearest.1 = -1 ∨ currentDistance < nearest.2 then (i, currentDistance) else nearest

theorem selectUnit_cons {i : Int} {unit : GameUnit F}
    (hunit : game.ownUnitByIndex (UInt8.ofInt i) = some unit) :
    selectUnit game touch (i :: is) nearest =
      (selectUnit game touch is (nearer touch unit i nearest)).map fun result =>
        (result.1, Game.highlightUnit i false :: result.2) := by
  obtain ⟨j, d⟩ := nearest
  show (game.ownUnitByIndex (UInt8.ofInt i)).bind _ = _
  rw [hunit, Option.bind_some]
  show (selectUnit game touch is (nearer touch unit i (j, d))).bind _ = _
  cases selectUnit game touch is (nearer touch unit i (j, d)) <;> rfl

/-- The loop goes through if the units are there. -/
theorem exists_selectUnit (touch : Vec2 F) (nearest : Int × F)
    (h : ∀ i ∈ is, (game.ownUnitByIndex (UInt8.ofInt i)).isSome) :
    ∃ nearest' requests, selectUnit game touch is nearest = some (nearest', requests) := by
  induction is generalizing nearest with
  | nil => exact ⟨nearest, [], rfl⟩
  | cons i is ih =>
      obtain ⟨unit, hunit⟩ := Option.isSome_iff_exists.mp (h i List.mem_cons_self)
      obtain ⟨nearest', requests, hrest⟩ :=
        ih (nearer touch unit i nearest) fun j hj => h j (List.mem_cons_of_mem i hj)
      rw [selectUnit_cons hunit, hrest]
      exact ⟨nearest', _, rfl⟩

/-- The first step of the loop, taken back. -/
theorem selectUnit_inv {i : Int}
    (h : selectUnit game touch (i :: is) nearest = some (nearest', requests)) :
    ∃ unit rest, game.ownUnitByIndex (UInt8.ofInt i) = some unit ∧
      selectUnit game touch is (nearer touch unit i nearest) = some (nearest', rest) ∧
      requests = Game.highlightUnit i false :: rest := by
  cases hunit : game.ownUnitByIndex (UInt8.ofInt i) with
  | none =>
      obtain ⟨j, d⟩ := nearest
      unfold selectUnit at h
      rw [hunit] at h
      cases h
  | some unit =>
      rw [selectUnit_cons hunit] at h
      obtain ⟨⟨n, rest⟩, hrest, heq⟩ := Option.map_eq_some_iff.mp h
      cases heq
      exact ⟨unit, rest, rfl, hrest, rfl⟩

/-- A loop that has gone through has found a unit for each index. -/
theorem selectUnit_units (h : selectUnit game touch is nearest = some (nearest', requests)) :
    ∀ i ∈ is, (game.ownUnitByIndex (UInt8.ofInt i)).isSome := by
  induction is generalizing nearest requests with
  | nil =>
      intro i hi
      cases hi
  | cons i is ih =>
      obtain ⟨unit, rest, hunit, hrest, -⟩ := selectUnit_inv h
      refine List.forall_mem_cons.mpr ⟨?_, ih hrest⟩
      rw [hunit]
      rfl

theorem selectUnit_requests (h : selectUnit game touch is nearest = some (nearest', requests)) :
    requests = is.map (Game.highlightUnit · false) := by
  induction is generalizing nearest requests with
  | nil =>
      cases h
      rfl
  | cons i is ih =>
      obtain ⟨unit, rest, -, hrest, rfl⟩ := selectUnit_inv h
      rw [ih hrest]
      rfl

/-- The selected index comes from the loop. -/
theorem selectUnit_index (h : selectUnit game touch is nearest = some (nearest', requests)) :
    nearest'.1 = nearest.1 ∨ nearest'.1 ∈ is := by
  induction is generalizing nearest requests with
  | nil =>
      cases h
      exact Or.inl rfl
  | cons i is ih =>
      obtain ⟨unit, rest, -, hrest, -⟩ := selectUnit_inv h
      rcases ih hrest with heq | hmem
      · unfold nearer at heq
        dsimp only at heq
        split at heq
        · exact Or.inr (heq ▸ List.mem_cons_self)
        · exact Or.inl heq
      · exact Or.inr (List.mem_cons_of_mem i hmem)

variable [SteeringArith F]

/-- The nearest unit's index is found, and then its unit. -/
theorem requestsFor_inv (h : requestsFor game touch = some requests) :
    ∃ nearest' unit, selectUnit game touch [0, 1, 2, 3, 4] (-1, ofInt 0) =
        some (nearest', [0, 1, 2, 3, 4].map (Game.highlightUnit · false)) ∧
      game.ownUnitByIndex (UInt8.ofInt nearest'.1) = some unit ∧
      requests = [0, 1, 2, 3, 4].map (Game.highlightUnit · false) ++
        [Game.moveUnit nearest'.1 (steeringAngle unit touch) (ofInt 1 / ofInt 10),
         Game.highlightUnit nearest'.1 true] := by
  obtain ⟨⟨⟨i, d⟩, highlights⟩, hselect, h⟩ := Option.bind_eq_some_iff.mp h
  obtain ⟨unit, hunit, h⟩ := Option.bind_eq_some_iff.mp h
  cases h
  obtain rfl := selectUnit_requests hselect
  exact ⟨(i, d), unit, hselect, hunit, rfl⟩

/-- **The requests of a frame**: no highlights, and then the selected unit's. -/
theorem requestsFor_eq (h : requestsFor game touch = some requests) :
    ∃ (i : Int) (unit : GameUnit F), game.ownUnitByIndex (UInt8.ofInt i) = some unit ∧
      requests = [0, 1, 2, 3, 4].map (Game.highlightUnit · false) ++
        [Game.moveUnit i (steeringAngle unit touch) (ofInt 1 / ofInt 10), Game.highlightUnit i true] := by
  obtain ⟨nearest', unit, -, hunit, hrequests⟩ := requestsFor_inv h
  exact ⟨nearest'.1, unit, hunit, hrequests⟩

/-- With five units there are requests. -/
theorem exists_requestsFor (touch : Vec2 F)
    (h : ∀ i ∈ [0, 1, 2, 3, 4], (game.ownUnitByIndex (UInt8.ofInt i)).isSome) :
    ∃ requests, requestsFor game touch = some requests := by
  obtain ⟨⟨i, d⟩, requests, hselect⟩ :=
    exists_selectUnit touch (-1, ofInt 0) h
  -- the first unit is taken in any case
  have hi : i ∈ [0, 1, 2, 3, 4] := by
    obtain ⟨unit, rest, -, hrest, -⟩ := selectUnit_inv hselect
    have hfirst : nearer touch unit 0 (-1, ofInt 0) = (0, (touch.sub ⟨unit.x, unit.y⟩).norm) := by
      unfold nearer
      exact if_pos (Or.inl rfl)
    rw [hfirst] at hrest
    rcases selectUnit_index hrest with heq | hmem
    · exact List.mem_cons.mpr (Or.inl heq)
    · exact List.mem_cons_of_mem 0 hmem
  obtain ⟨unit, hunit⟩ := Option.isSome_iff_exists.mp (h i hi)
  unfold requestsFor
  rw [hselect, Option.bind_eq_bind, Option.bind_some]
  dsimp only
  rw [hunit]
  exact ⟨_, rfl⟩

/-- There is one move request among them. -/
theorem moveRequest_eq (h : requestsFor game touch = some requests) {m : GameMessage F}
    {r : MoveRequest F} (hm : m ∈ requests) (hr : m.payload = .moveRequest r) :
    ∃ unit, game.ownUnitByIndex r.unitIndex = some unit ∧
      r.angle = steeringAngle unit touch ∧ r.strength = ofInt 1 / ofInt 10 := by
  obtain ⟨i, unit, hunit, rfl⟩ := requestsFor_eq h
  rcases List.mem_append.mp hm with hm | hm
  · obtain ⟨j, -, rfl⟩ := List.mem_map.mp hm
    cases hr
  · rcases List.mem_cons.mp hm with rfl | hm
    · cases hr
      exact ⟨unit, hunit, rfl, rfl⟩
    · rw [List.mem_singleton.mp hm] at hr
      cases hr

end

/-! ## Both together -/

/-- The cross product; it is zero for parallel vectors. -/
def cross (v w : Vec2 ℝ) : ℝ := v.x * w.y - v.y * w.x

/-- A frame's request has a tenth of the maximal acceleration. -/
theorem acceleration_of_touch {r : MoveRequest ℝ} (hr : r.strength = ofInt 1 / ofInt 10) :
    requestedAcceleration r = ⟨Real.cos r.angle * 100, -Real.sin r.angle * 100⟩ := by
  have htenth : r.strength = 1 / 10 := by
    rw [hr]
    norm_num [ofInt_real]
  have hmaximal : (GameUnit.maximalAcceleration : ℝ) = 1000 := by
    show ((1000 : Int) : ℝ) = 1000
    norm_num
  have hstrength : (1 / 10 : ℝ) * 1000 = 100 := by norm_num
  unfold requestedAcceleration
  dsimp only
  rw [htenth, ofInt_zero, ofInt_one, if_pos (by norm_num), if_pos (by norm_num), hmaximal, hstrength]
  rfl

theorem cross_acceleration {r : MoveRequest ℝ} {unit : GameUnit ℝ} {touch : Vec2 ℝ}
    (hangle : r.angle = steeringAngle unit touch) (hr : r.strength = ofInt 1 / ofInt 10) :
    cross (requestedAcceleration r) (Vec2.sub ⟨unit.x, unit.y⟩ touch) =
      200 * ((unit.x - touch.x) * (unit.y - touch.y)) / ‖(⟨unit.x - touch.x, unit.y - touch.y⟩ : ℂ)‖ := by
  obtain ⟨z, hz⟩ : ∃ z : ℂ, z = ⟨unit.x - touch.x, unit.y - touch.y⟩ := ⟨_, rfl⟩
  have harg : r.angle = Complex.arg z := by
    rw [hangle, hz]
    rfl
  have hx : unit.x - touch.x = z.re := by rw [hz]
  have hy : unit.y - touch.y = z.im := by rw [hz]
  rw [acceleration_of_touch hr, harg, ← hz]
  show Real.cos z.arg * 100 * (unit.y - touch.y) - -Real.sin z.arg * 100 * (unit.x - touch.x) = _
  rw [hx, hy]
  by_cases hzero : z = 0
  · rw [hzero]
    simp
  · rw [Complex.cos_arg hzero, Complex.sin_arg]
    ring

/-- **Steering.** The acceleration that the server computes from a frame's move request is parallel to the
    line through the selected unit and the touch if and only if that line is level or upright. -/
theorem steering_parallel_iff {game : Game ℝ} {touch : Vec2 ℝ} {requests : List (GameMessage ℝ)}
    (h : requestsFor game touch = some requests) {m : GameMessage ℝ} {r : MoveRequest ℝ}
    (hm : m ∈ requests) (hr : m.payload = .moveRequest r) :
    ∃ unit, game.ownUnitByIndex r.unitIndex = some unit ∧
      ∀ (s : GameServer ℝ) (session : SessionID) (p : PlayerProfile) (g : Game ℝ) (u : GameUnit ℝ),
        s.playerProfileBySession session = some p → s.game = some g →
        g.unitByIndex p.playerID r.unitIndex = some u →
        ∃ acceleration,
          s.handleMoveRequest { m with networkServerSession := some session } = some { s with
            game := some (g.modifyUnit u.address (·.setAcceleration acceleration)) } ∧
          (cross acceleration (Vec2.sub ⟨unit.x, unit.y⟩ touch) = 0 ↔
            touch.x = unit.x ∨ touch.y = unit.y) := by
  obtain ⟨unit, hunit, hangle, hstrength⟩ := moveRequest_eq h hm hr
  refine ⟨unit, hunit, ?_⟩
  intro s session p g u hp hg hu
  refine ⟨requestedAcceleration r, GameServer.handleMoveRequest_accelerates hr rfl hp hg hu, ?_⟩
  rw [cross_acceleration hangle hstrength, div_eq_zero_iff, mul_eq_zero, mul_eq_zero, sub_eq_zero,
    sub_eq_zero, norm_eq_zero]
  constructor
  · rintro ((htwo | hx | hy) | hzero)
    · norm_num at htwo
    · exact Or.inl hx.symm
    · exact Or.inr hy.symm
    · -- the unit is at the touch
      exact Or.inl (sub_eq_zero.mp (congrArg Complex.re hzero)).symm
  · rintro (hx | hy)
    · exact Or.inl (Or.inr (Or.inl hx.symm))
    · exact Or.inl (Or.inr (Or.inr hy.symm))

/-! ## Five units in one place -/

/-- A player's unit in the middle of the floor. -/
noncomputable def centred (address : Nat) : GameUnit ℝ where
  address      := address
  messageID    := messageIDFirst
  gameUnitData := ⟨ofInt 240, ofInt 240, 1, idFirstClient, false, true, false⟩
  velocity     := .zero
  acceleration := .zero
  isHunting    := false

/-- A game with five of them, seen by the player with the given ID or by the server. -/
noncomputable def fiveUnits (ownPlayerID : PlayerID) : Game ℝ where
  address       := 0
  hasStarted    := true
  hasFinished   := false
  timer         := 0
  durationTimer := 0
  lastUnitTime  := -1
  gameUnits     := [1, 2, 3, 4, 5].map centred
  gameObstacles := []
  ownPlayerID   := ownPlayerID

noncomputable def fiveUnitsServer : GameServer ℝ :=
  { GameServer.run fun _ => ⟨⟨0, 0, 0, 0, false, false, false⟩, false, ⟨0, 0, 0⟩⟩ with
    game := some (fiveUnits idNone), playerProfiles := [⟨idFirstClient, 7⟩] }

/-- The touch is above the units, to the left. -/
noncomputable def corner : Vec2 ℝ := ⟨ofInt 140, ofInt 140⟩

theorem fiveUnits_isSome : ∀ i ∈ [0, 1, 2, 3, 4],
    ((fiveUnits idFirstClient).ownUnitByIndex (UInt8.ofInt i)).isSome := by
  intro i hi
  fin_cases hi <;> rfl

/-- The frame's move request, and the units at both ends. -/
theorem fiveUnits_request :
    ∃ requests, requestsFor (fiveUnits idFirstClient) corner = some requests ∧
      ∃ (m : GameMessage ℝ) (r : MoveRequest ℝ) (unit : GameUnit ℝ), m ∈ requests ∧
        m.payload = .moveRequest r ∧
        (fiveUnits idFirstClient).ownUnitByIndex r.unitIndex = some unit ∧
        (fiveUnits idNone).unitByIndex idFirstClient r.unitIndex = some unit ∧
        unit.x = ofInt 240 ∧ unit.y = ofInt 240 := by
  obtain ⟨requests, hrequests⟩ := exists_requestsFor corner fiveUnits_isSome
  obtain ⟨i, unit, hunit, rfl⟩ := requestsFor_eq hrequests
  have hplace : unit.x = ofInt 240 ∧ unit.y = ofInt 240 := by
    obtain ⟨hmem, -⟩ := Game.mem_of_unitByIndex hunit
    obtain ⟨address, -, rfl⟩ := List.mem_map.mp hmem
    exact ⟨rfl, rfl⟩
  refine ⟨_, hrequests, _, _, unit, List.mem_append_right _ List.mem_cons_self, rfl, hunit, hunit, hplace⟩

theorem steering_parallel_fiveUnits :
    ∃ requests, requestsFor (fiveUnits idFirstClient) corner = some requests ∧
      ∃ m ∈ requests, ∃ r, m.payload = .moveRequest r ∧
        ∃ unit, (fiveUnits idFirstClient).ownUnitByIndex r.unitIndex = some unit ∧
          ∀ (s : GameServer ℝ) (session : SessionID) (p : PlayerProfile) (g : Game ℝ) (u : GameUnit ℝ),
            s.playerProfileBySession session = some p → s.game = some g →
            g.unitByIndex p.playerID r.unitIndex = some u →
            ∃ acceleration,
              s.handleMoveRequest { m with networkServerSession := some session } = some { s with
                game := some (g.modifyUnit u.address (·.setAcceleration acceleration)) } ∧
              (cross acceleration (Vec2.sub ⟨unit.x, unit.y⟩ corner) = 0 ↔
                corner.x = unit.x ∨ corner.y = unit.y) := by
  obtain ⟨requests, hrequests, m, r, -, hm, hr, -⟩ := fiveUnits_request
  exact ⟨requests, hrequests, m, hm, r, hr, steering_parallel_iff hrequests hm hr⟩

/-- The unit is sent to the right and down, across the line to the touch. -/
theorem steering_across :
    ∃ requests, requestsFor (fiveUnits idFirstClient) corner = some requests ∧
      ∃ (m : GameMessage ℝ) (r : MoveRequest ℝ) (unit : GameUnit ℝ) (acceleration : Vec2 ℝ),
        m ∈ requests ∧ m.payload = .moveRequest r ∧
        (fiveUnits idFirstClient).ownUnitByIndex r.unitIndex = some unit ∧
        (⟨unit.x, unit.y⟩ : Vec2 ℝ) ≠ corner ∧
        fiveUnitsServer.handleMoveRequest { m with networkServerSession := some 7 } =
          some { fiveUnitsServer with
            game := some ((fiveUnits idNone).modifyUnit unit.address
              (·.setAcceleration acceleration)) } ∧
        cross acceleration (Vec2.sub ⟨unit.x, unit.y⟩ corner) ≠ 0 := by
  obtain ⟨requests, hrequests, m, r, unit, hm, hr, hunit, hserver, hx, hy⟩ := fiveUnits_request
  obtain ⟨unit', hunit', hangle, hstrength⟩ := moveRequest_eq hrequests hm hr
  obtain rfl : unit = unit' := Option.some.inj (hunit.symm.trans hunit')
  have hdx : unit.x - corner.x = 100 := by
    rw [hx]
    show ((240 : Int) : ℝ) - ((140 : Int) : ℝ) = 100
    norm_num
  have hdy : unit.y - corner.y = 100 := by
    rw [hy]
    show ((240 : Int) : ℝ) - ((140 : Int) : ℝ) = 100
    norm_num
  refine ⟨requests, hrequests, m, r, unit, requestedAcceleration r, hm, hr, hunit, ?_, ?_, ?_⟩
  · intro heq
    have hsame : unit.x = corner.x := congrArg Vec2.x heq
    rw [hsame, sub_self] at hdx
    norm_num at hdx
  · exact GameServer.handleMoveRequest_accelerates hr rfl rfl rfl hserver
  · rw [cross_acceleration hangle hstrength, hdx, hdy]
    apply div_ne_zero
    · norm_num
    · rw [norm_ne_zero_iff]
      intro hzero
      have hre : (100 : ℝ) = 0 := congrArg Complex.re hzero
      norm_num at hre

end Application

end Footscreen
