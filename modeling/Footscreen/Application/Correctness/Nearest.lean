import Footscreen.Game.Correctness.Fate
import Footscreen.Application.Correctness.Touch
import Footscreen.Application.Correctness.Commands

/-!
# `Application.Correctness.Nearest` — the unit that a touch selects

The loop of `processFrame` is a search for the least distance, with the index -1 for "none yet"
(`selectUnit_argmin`). Each round also takes a highlight back, and the selected unit's comes last, so the
server ends with exactly that one among the first five (`nearest_selected`).
-/

namespace Footscreen

open FloatArith Lib

namespace Application

variable {B D : Type} {a : Application ℝ B D} {vision : Vision ℝ D} {frame : Image ℝ B × Image ℝ D}
  {game : Game ℝ} {touch : Vec2 ℝ} {nearest nearest' : Int × ℝ} {is : List Int}
  {requests : List (GameMessage ℝ)} {i : Nat}

/-! ## The search -/

/-- The distance of the touch to a unit. -/
noncomputable def distanceOf (touch : Vec2 ℝ) (unit : GameUnit ℝ) : ℝ :=
  (touch.sub ⟨unit.x, unit.y⟩).norm

/-- The distance of the touch to the own unit with an index. -/
noncomputable def distanceAt (game : Game ℝ) (touch : Vec2 ℝ) (i : Int) : ℝ :=
  match game.ownUnitByIndex (UInt8.ofInt i) with
  | some unit => distanceOf touch unit
  | none      => 0

/-- The state of the loop: the nearest index so far, with its distance. -/
noncomputable def nearestSoFar (game : Game ℝ) (touch : Vec2 ℝ) : Option Int → Int × ℝ
  | none   => (-1, ofInt 0)
  | some i => (i, distanceAt game touch i)

theorem selectUnit_foldl (h : selectUnit game touch is nearest = some (nearest', requests)) :
    nearest' = is.foldl
      (fun nearest i => if nearest.1 = -1 ∨ distanceAt game touch i < nearest.2
        then (i, distanceAt game touch i) else nearest) nearest := by
  induction is generalizing nearest requests with
  | nil =>
      cases h
      rfl
  | cons i is ih =>
      obtain ⟨unit, rest, hunit, hrest, -⟩ := selectUnit_inv h
      have hdistance : distanceAt game touch i = distanceOf touch unit := by
        unfold distanceAt
        rw [hunit]
      rw [List.foldl_cons, ih hrest, hdistance]
      rfl

/-- **The search** finds the first index of the least distance. -/
theorem selectUnit_argmin (his : ∀ i ∈ is, i ≠ -1)
    (h : selectUnit game touch is (-1, ofInt 0) = some (nearest', requests)) :
    nearest' = nearestSoFar game touch (is.argmin (distanceAt game touch)) := by
  rw [selectUnit_foldl h]
  show is.foldl _ (nearestSoFar game touch none) = nearestSoFar game touch
    (is.foldl (List.argAux fun b c => distanceAt game touch b < distanceAt game touch c) none)
  refine foldl_argAux _ (nearestSoFar game touch) (P := (· ≠ -1)) ?_ ?_ ?_ his
  · intro i _
    exact if_pos (Or.inl rfl)
  · intro j i hj _
    have hcases : (nearestSoFar game touch (some j)).1 = -1 ∨
        distanceAt game touch i < (nearestSoFar game touch (some j)).2 ↔
          distanceAt game touch i < distanceAt game touch j := or_iff_right hj
    rw [if_congr hcases rfl rfl]
    split
    · rfl
    · rfl
  · rintro b ⟨⟩

/-- The `i`-th of the units is the nearest to the touch among the first five, and the first of those. -/
structure Nearest (units : List (GameUnit ℝ)) (touch : Vec2 ℝ) (i : Nat) : Prop where
  lt    : i < 5
  least : ∀ u, units[i]? = some u → ∀ j < 5, ∀ v, units[j]? = some v →
    distanceOf touch u ≤ distanceOf touch v
  first : ∀ u, units[i]? = some u → ∀ j < 5, ∀ v, units[j]? = some v →
    distanceOf touch v = distanceOf touch u → i ≤ j

theorem distanceAt_of_unit {u : GameUnit ℝ} (hi : i < 5)
    (hu : (game.unitsOf game.ownPlayerID)[i]? = some u) :
    distanceAt game touch i = distanceOf touch u := by
  unfold distanceAt
  rw [Game.ownUnitByIndex_eq, index_toNat hi, hu]

theorem idxOf_indices : ∀ i : Nat, i < 5 → ∀ j : Nat, j < 5 →
    ([0, 1, 2, 3, 4] : List Int).idxOf (i : Int) ≤ ([0, 1, 2, 3, 4] : List Int).idxOf (j : Int) →
      i ≤ j := by
  decide

theorem nearest_of_argmin
    (h : ([0, 1, 2, 3, 4] : List Int).argmin (distanceAt game touch) = some (i : Int)) (hi : i < 5) :
    Nearest (game.unitsOf game.ownPlayerID) touch i := by
  obtain ⟨-, hleast, hfirst⟩ := List.mem_argmin_iff.mp h
  refine ⟨hi, ?_, ?_⟩
  · intro u hu j hj v hv
    have hle := hleast j (mem_indices hj)
    rwa [distanceAt_of_unit hi hu, distanceAt_of_unit hj hv] at hle
  · intro u hu j hj v hv heq
    apply idxOf_indices i hi j hj
    apply hfirst j (mem_indices hj)
    rw [distanceAt_of_unit hi hu, distanceAt_of_unit hj hv, heq]

/-- **The requests** of a frame are about the nearest unit. -/
theorem requestsFor_nearest (h : requestsFor game touch = some requests) :
    ∃ (i : Nat) (angle : ℝ), Nearest (game.unitsOf game.ownPlayerID) touch i ∧
      requests = [0, 1, 2, 3, 4].map (Game.highlightUnit · false) ++
        [Game.moveUnit i angle (ofInt 1 / ofInt 10), Game.highlightUnit i true] := by
  obtain ⟨nearest, unit, hselect, -, hrequests⟩ := requestsFor_inv h
  have hargmin := selectUnit_argmin (by decide) hselect
  cases hfound : ([0, 1, 2, 3, 4] : List Int).argmin (distanceAt game touch) with
  | none => exact absurd (List.argmin_eq_none.mp hfound) (List.cons_ne_nil _ _)
  | some index =>
      obtain ⟨i, hi, rfl⟩ := exists_index (List.argmin_mem hfound)
      rw [hfound] at hargmin
      rw [hargmin] at hrequests
      exact ⟨i, steeringAngle unit touch, nearest_of_argmin hfound hi, hrequests⟩

/-! ## The highlights on the server -/

/-- Which of a player's units are highlighted. -/
def highlights (g : Game ℝ) (playerID : PlayerID) : List Bool :=
  (g.unitsOf playerID).map fun u => u.gameUnitData.isHighlighted

/-- A player's units, changed by requests. -/
noncomputable def changed (us : List (GameUnit ℝ)) (ms : List (GameMessage ℝ)) : List (GameUnit ℝ) :=
  ms.foldl (fun us m => us.modify (GameServer.changeOf m).1.toNat (GameServer.changeOf m).2) us

theorem flags_setHighlighted (us : List (GameUnit ℝ)) (j : Nat) (b : Bool) :
    (us.modify j (·.setHighlighted b)).map (fun u => u.gameUnitData.isHighlighted) =
      (us.map fun u => u.gameUnitData.isHighlighted).set j b := by
  apply map_modify_set
  exact fun _ => rfl

theorem flags_setAcceleration (us : List (GameUnit ℝ)) (j : Nat) (acceleration : Vec2 ℝ) :
    (us.modify j (·.setAcceleration acceleration)).map (fun u => u.gameUnitData.isHighlighted) =
      us.map fun u => u.gameUnitData.isHighlighted := by
  apply map_modify_keep
  exact fun _ => rfl

theorem changed_highlights (us : List (GameUnit ℝ)) (is : List Int) (b : Bool) :
    (changed us (is.map (Game.highlightUnit · b))).map (fun u => u.gameUnitData.isHighlighted) =
      is.foldl (fun bs i => bs.set (UInt8.ofInt i).toNat b)
        (us.map fun u => u.gameUnitData.isHighlighted) := by
  induction is generalizing us with
  | nil => rfl
  | cons i is ih =>
      refine (ih _).trans ?_
      rw [List.foldl_cons]
      exact congrArg (List.foldl _ · is) (flags_setHighlighted us _ b)

/-- **The highlights** after the requests of a frame. -/
theorem changed_frame (us : List (GameUnit ℝ)) (hi : i < 5) (angle : ℝ) (hus : 5 ≤ us.length) (k : Nat) :
    ((changed us ([0, 1, 2, 3, 4].map (Game.highlightUnit · false) ++
        [Game.moveUnit i angle (ofInt 1 / ofInt 10), Game.highlightUnit i true])).map
          fun u => u.gameUnitData.isHighlighted)[k]? =
      if k < 5 then some (decide (k = i)) else (us.map fun u => u.gameUnitData.isHighlighted)[k]? := by
  obtain ⟨bs, hbs⟩ : ∃ bs, bs = us.map fun u => u.gameUnitData.isHighlighted := ⟨_, rfl⟩
  have hlength : 5 ≤ bs.length := by
    rw [hbs, List.length_map]
    exact hus
  obtain ⟨cleared, hcleared⟩ : ∃ cleared, cleared = ([0, 1, 2, 3, 4] : List Int).foldl
    (fun bs i => bs.set (UInt8.ofInt i).toNat false) bs := ⟨_, rfl⟩
  have hflags : (changed us ([0, 1, 2, 3, 4].map (Game.highlightUnit · false) ++
      [Game.moveUnit i angle (ofInt 1 / ofInt 10), Game.highlightUnit i true])).map
        (fun u => u.gameUnitData.isHighlighted) = cleared.set i true := by
    unfold changed
    rw [List.foldl_append]
    refine (flags_setHighlighted _ _ true).trans ?_
    refine congrArg₂ (List.set · · true) ?_ (index_toNat hi)
    refine (flags_setAcceleration _ _ _).trans ?_
    rw [hcleared, hbs]
    exact changed_highlights us [0, 1, 2, 3, 4] false
  have hoff : cleared[k]? = if k < 5 then some false else bs[k]? := by
    rw [hcleared, getElem?_foldl_set]
    have hmem : k ∈ ([0, 1, 2, 3, 4] : List Int).map (fun i => (UInt8.ofInt i).toNat) ↔ k < 5 := by
      show k ∈ [0, 1, 2, 3, 4] ↔ _
      simp only [List.mem_cons, List.not_mem_nil, or_false]
      omega
    have hwithin : k < 5 ∧ k < bs.length ↔ k < 5 := and_iff_left_of_imp fun hk => hk.trans_le hlength
    rw [if_congr ((and_congr_left' hmem).trans hwithin) rfl rfl]
  rw [hflags, ← hbs]
  by_cases hki : k = i
  · subst hki
    have hlt : k < cleared.length := by
      rw [if_pos hi] at hoff
      exact (List.getElem?_eq_some_iff.mp hoff).1
    rw [List.getElem?_set_self hlt, if_pos hi, decide_eq_true rfl]
  · rw [List.getElem?_set_ne (Ne.symm hki), hoff, decide_eq_false hki]

/-! ## Both together -/

theorem frame_requests {units : List (GameUnit ℝ)} (hi : i < 5) (angle : ℝ) (hlength : 5 ≤ units.length) :
    ∀ m ∈ [0, 1, 2, 3, 4].map (Game.highlightUnit · false) ++
        [Game.moveUnit i angle (ofInt 1 / ofInt 10), Game.highlightUnit i true],
      GameServer.IsRequest m ∧ m.messageID = messageIDEvent ∧
        (GameServer.changeOf m).1.toNat < units.length := by
  have hindex : ∀ {j : Nat}, j < 5 → (UInt8.ofInt j).toNat < units.length := by
    intro j hj
    rw [index_toNat hj]
    exact hj.trans_le hlength
  intro m hm
  rcases List.mem_append.mp hm with hm | hm
  · obtain ⟨j, hj, rfl⟩ := List.mem_map.mp hm
    obtain ⟨k, hk, rfl⟩ := exists_index hj
    exact ⟨Or.inr rfl, rfl, hindex hk⟩
  · rcases List.mem_cons.mp hm with rfl | hm
    · exact ⟨Or.inl rfl, rfl, hindex hi⟩
    · rw [List.mem_singleton.mp hm]
      exact ⟨Or.inr rfl, rfl, hindex hi⟩

/-- **The nearest own unit** is selected and alone highlighted: one move request is sent, to the nearest of
    the client's first five units, and once the server has received the requests of the frame, exactly the
    unit with its index is highlighted among the player's first five. No other highlight changes. -/
theorem nearest_selected {m : Matrix (Fin 3) (Fin 3) ℝ} {s : GameServer ℝ} {g : Game ℝ} {dead : List Nat}
    {es : List (MessageID × Nat)} {session : SessionID} {p : PlayerProfile}
    (hm : a.calibration.cameraToPhysical = some m)
    (htouch : perspectiveTransform m (a.flipHorizontally.detectTouch vision frame).2 = touch)
    (hplayer : a.gameClient.game.ownPlayerID = p.playerID) (hserver : s.Attending g dead es session p)
    (hclient : 5 ≤ (a.gameClient.game.unitsOf p.playerID).length)
    (hlength : 5 ≤ (g.unitsOf p.playerID).length) :
    ∃ a' requests i r s' g', a.processFrame vision frame = some (a', touch, requests) ∧
      moveRequests requests = [r] ∧ r.unitIndex.toNat = i ∧
      Nearest (a.gameClient.game.unitsOf p.playerID) touch i ∧
      requests.foldlM (fun s m => s.handleMessageReceived session m) s = some s' ∧ s'.game = some g' ∧
      (∀ k, (highlights g' p.playerID)[k]? =
        if k < 5 then some (decide (k = i)) else (highlights g p.playerID)[k]?) ∧
      ∀ playerID, playerID ≠ p.playerID → highlights g' playerID = highlights g playerID := by
  have hown : 5 ≤ (a.gameClient.game.unitsOf a.gameClient.game.ownPlayerID).length := by
    rw [hplayer]
    exact hclient
  obtain ⟨requests, hrequests⟩ := Option.isSome_iff_exists.mp ((requestsFor_isSome_iff _ touch).mpr hown)
  have hframe : a.processFrame vision frame = _ := processFrame_eq hm
  rw [htouch, hrequests] at hframe
  obtain ⟨i, angle, hnearest, rfl⟩ := requestsFor_nearest hrequests
  obtain ⟨s', g', hrun, hserver', hunits⟩ :=
    hserver.requests (frame_requests hnearest.lt angle hlength)
  rw [hplayer] at hnearest
  have hindex := index_toNat hnearest.lt
  refine ⟨_, _, i, _, s', g', hframe, rfl, hindex, hnearest, hrun, hserver'.serving.game, ?_, ?_⟩
  · intro k
    unfold highlights
    rw [hunits, if_pos rfl]
    exact changed_frame _ hnearest.lt angle hlength k
  · intro playerID hne
    unfold highlights
    rw [hunits, if_neg hne]

/-! ## The first player of level 1 -/

/-- Level 1 is loaded. -/
noncomputable def firstLevel : GameServer ℝ := (GameServer.run GameServer.zeroedReal).loadGame 1 fun _ => 0

theorem firstLevel_units :
    firstLevel.game.map (fun g => (g.unitsOf idFirstClient).length) = some 5 := rfl

theorem firstLevel_attending : ∃ g dead es,
    (firstLevel.addProfile 7).Attending g dead es 7 ⟨idFirstClient, 7⟩ ∧
      5 ≤ (g.unitsOf idFirstClient).length := by
  obtain ⟨g, hreloaded⟩ := GameServer.Ready.loadGame (s := GameServer.run GameServer.zeroedReal)
    (Or.inl ⟨rfl, rfl⟩) 1 fun _ => 0
  obtain ⟨dead, es, hserving⟩ := hreloaded.serving
  have hunits := firstLevel_units
  unfold firstLevel at hunits
  rw [hserving.game, Option.map_some, Option.some.injEq] at hunits
  exact ⟨g, dead, es, ⟨⟨hserving.game, hserving.tracked, hserving.dead_lt, hserving.nextAddress⟩,
    hreloaded.ownPlayerID, rfl⟩, hunits.ge⟩

/-- The first player's client, which has the units where the level places them. -/
noncomputable def firstClient : Application ℝ (Vec2 ℝ) (Vec2 ℝ) :=
  { inPlay with gameClient := { inPlay.gameClient with
      game := { fiveUnits idFirstClient with
        gameUnits := List.zipWith (fun address p => (centred address).setPosition (ofInt p.x) (ofInt p.y))
          [1, 2, 3, 4, 5] (Game.level 1).unitPositionsPlayer1 } } }

/-- The third unit is the nearest to a point below it. -/
theorem nearest_firstClient
    (h : Nearest (firstClient.gameClient.game.unitsOf idFirstClient) ⟨100, 100⟩ i) : i = 2 := by
  have hnear : ∀ u, (firstClient.gameClient.game.unitsOf idFirstClient)[i]? = some u →
      |100 - u.x| ≤ 4 := by
    intro u hu
    calc |100 - u.x| ≤ distanceOf ⟨100, 100⟩ u := Vec2.abs_x_le_norm ⟨100 - u.x, 100 - u.y⟩
      _ ≤ distanceOf ⟨100, 100⟩ ((centred 3).setPosition (ofInt 100) (ofInt 96)) :=
          h.least u hu 2 (by norm_num) _ rfl
      _ ≤ 4 := by
          apply Real.sqrt_le_iff.mpr
          show (0 : ℝ) ≤ 4 ∧ (100 - ((100 : Int) : ℝ)) * (100 - ((100 : Int) : ℝ)) +
            (100 - ((96 : Int) : ℝ)) * (100 - ((96 : Int) : ℝ)) ≤ 4 ^ 2
          norm_num
  have hlt := h.lt
  have hcases : i = 0 ∨ i = 1 ∨ i = 2 ∨ i = 3 ∨ i = 4 := by omega
  rcases hcases with rfl | rfl | rfl | rfl | rfl
  · have hfar : |100 - ((20 : Int) : ℝ)| ≤ 4 := hnear _ rfl
    norm_num at hfar
  · have hfar : |100 - ((60 : Int) : ℝ)| ≤ 4 := hnear _ rfl
    norm_num at hfar
  · rfl
  · have hfar : |100 - ((420 : Int) : ℝ)| ≤ 4 := hnear _ rfl
    norm_num at hfar
  · have hfar : |100 - ((460 : Int) : ℝ)| ≤ 4 := hnear _ rfl
    norm_num at hfar

theorem nearest_selected_firstLevel :
    ∃ g, (firstLevel.addProfile 7).game = some g ∧ ∃ a' requests r s' g',
      firstClient.processFrame (marked ⟨539, 100⟩) fromAbove = some (a', ⟨100, 100⟩, requests) ∧
      moveRequests requests = [r] ∧ r.unitIndex.toNat = 2 ∧
      requests.foldlM (fun s m => s.handleMessageReceived 7 m) (firstLevel.addProfile 7) = some s' ∧
      s'.game = some g' ∧
      (∀ k, (highlights g' idFirstClient)[k]? =
        if k < 5 then some (decide (k = 2)) else (highlights g idFirstClient)[k]?) ∧
      ∀ playerID, playerID ≠ idFirstClient → highlights g' playerID = highlights g playerID := by
  obtain ⟨g, dead, es, hattending, hlength⟩ := firstLevel_attending
  have htouch : perspectiveTransform 1 (firstClient.flipHorizontally.detectTouch (marked ⟨539, 100⟩)
      fromAbove).2 = ⟨100, 100⟩ := by
    rw [marked_detectTouch, perspectiveTransform_one]
    norm_num [mirror, ofInt_real]
  obtain ⟨a', requests, i, r, s', g', hframe, hrequests, hindex, hnearest, hrun, hg', hlights⟩ :=
    nearest_selected rfl htouch rfl hattending (by decide) hlength
  obtain rfl := nearest_firstClient hnearest
  exact ⟨g, hattending.serving.game, a', requests, r, s', g', hframe, hrequests, hindex, hrun, hg', hlights⟩

end Application

end Footscreen
