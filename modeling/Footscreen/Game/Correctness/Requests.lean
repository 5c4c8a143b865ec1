import Footscreen.Game.RealArith
import Footscreen.Game.Correctness.ServerRuns
import Footscreen.Game.Correctness.Lookup

/-!
# `Game.Correctness.Requests` — what a request changes

Both requests change one unit of the sender's player (`changeUnit`), if it is there. `changeUnit_obeys`
says which one, and what stays; `requests_exact` adds the acceleration that the server reads from a
request. A server that receives several requests of a session makes their changes in order
(`Attending.requests`).
-/

namespace Footscreen

open FloatArith

/-! ## Accelerations -/

theorem maximalAcceleration_real : (GameUnit.maximalAcceleration : ℝ) = 1000 := by
  show ((1000 : Int) : ℝ) = 1000
  norm_num

/-- The server's two comparisons keep the strength between 0 and 1. -/
theorem requestedAcceleration_real (r : MoveRequest ℝ) :
    requestedAcceleration r = Vec2.scale ⟨Real.cos r.angle, -Real.sin r.angle⟩
      (min (max r.strength 0) 1 * GameUnit.maximalAcceleration) := by
  have hmax : (if (ofInt 0 : ℝ) < r.strength then r.strength else ofInt 0) = max r.strength 0 := by
    rw [ofInt_zero]
    split
    · next h => exact (max_eq_left h.le).symm
    · next h => exact (max_eq_right (not_lt.mp h)).symm
  have hmin : (if max r.strength 0 < (ofInt 1 : ℝ) then max r.strength 0 else ofInt 1) =
      min (max r.strength 0) 1 := by
    rw [ofInt_one]
    split
    · next h => exact (min_eq_left h.le).symm
    · next h => exact (min_eq_right (not_lt.mp h)).symm
  unfold requestedAcceleration
  dsimp only
  rw [hmax, hmin]
  rfl

/-- The direction has unit length, so the acceleration is within its limit. -/
theorem requestedAcceleration_norm_le (r : MoveRequest ℝ) :
    (requestedAcceleration r).norm ≤ GameUnit.maximalAcceleration := by
  have hdirection : (⟨Real.cos r.angle, -Real.sin r.angle⟩ : Vec2 ℝ).norm = 1 := by
    rw [Vec2.norm_real, neg_mul_neg, ← sq, ← sq, Real.cos_sq_add_sin_sq, Real.sqrt_one]
  have hstrength : 0 ≤ min (max r.strength 0) 1 := le_min (le_max_right _ _) zero_le_one
  have hlimit : (0 : ℝ) ≤ GameUnit.maximalAcceleration := by
    rw [maximalAcceleration_real]
    norm_num
  rw [requestedAcceleration_real, Vec2.norm_scale _ (mul_nonneg hstrength hlimit), hdirection, one_mul]
  exact mul_le_of_le_one_left hlimit (min_le_right _ _)

namespace GameServer

section

variable {F : Type} {s s' : GameServer F} {m : GameMessage F} {session : SessionID} {p : PlayerProfile}
  {g : Game F} {u : GameUnit F} {index : UInt8} {f : GameUnit F → GameUnit F} {dead : List Nat}
  {es : List (MessageID × Nat)}

/-! ## What comes of it -/

/-- A profile is found by its session, if no two profiles have the same. -/
theorem playerProfileBySession_of_mem (hsessions : (s.playerProfiles.map (·.session)).Nodup)
    (hp : p ∈ s.playerProfiles) (hsession : p.session = session) :
    s.playerProfileBySession session = some p := by
  subst hsession
  exact Lib.find?_key hsessions hp

theorem mem_of_playerProfileBySession (hp : s.playerProfileBySession session = some p) :
    p ∈ s.playerProfiles ∧ p.session = session :=
  ⟨List.mem_of_find?_eq_some hp, by simpa using List.find?_some hp⟩

/-- The request of the session is granted: if its player has a unit with the index, then this unit is
    changed by `f` and nothing else is; otherwise nothing is. -/
structure Obeys (s s' : GameServer F) (g : Game F) (session : SessionID) (index : UInt8)
    (f : GameUnit F → GameUnit F) : Prop where
  granted : ∀ p ∈ s.playerProfiles, p.session = session →
    index.toNat < (g.unitsOf p.playerID).length →
    ∃ g', s' = { s with game := some g' } ∧ g.ChangesOnly g' p.playerID index.toNat f
  refused : (∀ p ∈ s.playerProfiles, p.session = session →
    (g.unitsOf p.playerID).length ≤ index.toNat) → s' = s

/-- **The way of a request**, where no unit is listed twice and no session has two profiles. -/
theorem changeUnit_obeys (hg : s.game = some g) (hserver : g.ownPlayerID = idNone)
    (hobjects : (g.gameUnits.map (·.address)).Nodup)
    (hsessions : (s.playerProfiles.map (·.session)).Nodup) :
    s.Obeys (s.changeUnit session index f) g session index f := by
  constructor
  · intro p hp hsession hlt
    have hprofile := playerProfileBySession_of_mem hsessions hp hsession
    have hunit : (g.unitsOf p.playerID)[index.toNat]? = some (g.unitsOf p.playerID)[index.toNat] :=
      List.getElem?_eq_getElem hlt
    refine ⟨_, changeUnit_of_some hprofile hg ?_, Game.modifyUnit_changesOnly hobjects hunit f⟩
    rw [Game.unitByIndex_of_own (Or.inl hserver), hunit]
  · intro hnone
    unfold changeUnit
    cases hprofile : s.playerProfileBySession session with
    | none => rfl
    | some p =>
        obtain ⟨hp, hsession⟩ := mem_of_playerProfileBySession hprofile
        rw [hg]
        dsimp only
        rw [Game.unitByIndex_of_own (Or.inl hserver), List.getElem?_eq_none (hnone p hp hsession)]

/-! ## Requests in order -/

/-- The server plays the game `g`, and knows the session's player. -/
structure Attending (s : GameServer F) (g : Game F) (dead : List Nat) (es : List (MessageID × Nat))
    (session : SessionID) (p : PlayerProfile) : Prop where
  serving : s.Serving g dead es
  server  : g.ownPlayerID = idNone
  profile : s.playerProfileBySession session = some p

theorem Serving.objects (h : s.Serving g dead es) : (g.gameUnits.map (·.address)).Nodup := by
  have haddresses := h.tracked.addresses
  unfold Game.keys at haddresses
  rw [List.map_append, List.map_map] at haddresses
  exact haddresses.of_append_left

/-- **One request**: the unit at its index is changed among its player's units. -/
theorem Attending.changeUnit (h : s.Attending g dead es session p)
    (hlt : index.toNat < (g.unitsOf p.playerID).length) (hf : ∀ u, (f u).identity = u.identity) :
    ∃ g', (s.changeUnit session index f).Attending g' dead es session p ∧
      ∀ playerID, g'.unitsOf playerID =
        if playerID = p.playerID then (g.unitsOf p.playerID).modify index.toNat f
        else g.unitsOf playerID := by
  have hunit : (g.unitsOf p.playerID)[index.toNat]? = some (g.unitsOf p.playerID)[index.toNat] :=
    List.getElem?_eq_getElem hlt
  have hfound : g.unitByIndex p.playerID index = some (g.unitsOf p.playerID)[index.toNat] := by
    rw [Game.unitByIndex_of_own (Or.inl h.server), hunit]
  obtain ⟨hids, hos, haddress, hown⟩ := Game.modifyUnit_keeps _ hf g
  refine ⟨_, ⟨?_, hown.trans h.server, ?_⟩, ?_⟩
  · rw [changeUnit_of_some h.profile h.serving.game hfound]
    exact h.serving.of_keys (Game.keys_of_identities hids hos) haddress
  · rw [changeUnit_of_some h.profile h.serving.game hfound]
    exact h.profile
  · have howner : ∀ u, (f u).owner = u.owner := fun u => congrArg Prod.snd (hf u)
    exact (Game.modifyUnit_changesOnly h.serving.objects hunit f).unitsOf_eq howner

variable [FloatArith F]

theorem handleMoveRequest_accelerates {r : MoveRequest F} (hr : m.payload = .moveRequest r)
    (hsession : m.networkServerSession = some session)
    (hp : s.playerProfileBySession session = some p) (hg : s.game = some g)
    (hu : g.unitByIndex p.playerID r.unitIndex = some u) :
    s.handleMoveRequest m = some { s with
      game := some (g.modifyUnit u.address (·.setAcceleration (requestedAcceleration r))) } := by
  rw [handleMoveRequest_eq hr hsession, changeUnit_of_some hp hg hu]

/-- What a request asks for: the index, and the change. -/
def changeOf (m : GameMessage F) : UInt8 × (GameUnit F → GameUnit F) :=
  match m.payload with
  | .moveRequest r      => (r.unitIndex, (·.setAcceleration (requestedAcceleration r)))
  | .highlightRequest r => (r.unitIndex, (·.setHighlighted r.isHighlighted))
  | _                   => (0, id)

omit [FloatArith F] in
theorem not_gameType_of_request (hm : IsRequest m) :
    m.contentType ≠ messageUndefined ∧ ¬ GameType m.contentType := by
  unfold GameType
  rcases hm with hm | hm
  · rw [hm]
    decide
  · rw [hm]
    decide

/-- The dispatch of a request calls its handler. -/
theorem Attending.receive (h : s.Attending g dead es session p) (hm : IsRequest m)
    (hid : m.messageID = messageIDEvent) :
    s.handleMessageReceived session m =
      some (s.changeUnit session (changeOf m).1 (changeOf m).2) := by
  obtain ⟨hdefined, hgame⟩ := not_gameType_of_request hm
  rw [h.serving.receive_other session hdefined hgame]
  unfold requestsOf changeOf
  rw [if_neg (not_not.mpr hid)]
  rcases hm with hm | hm
  · obtain ⟨r, hr⟩ := payload_of_moveRequest hm
    rw [if_pos hm, hr]
    show (s.handleMoveRequest (receivedOn m session)).bind some = _
    rw [Option.bind_fun_some, handleMoveRequest_eq (m := receivedOn m session) hr rfl]
  · obtain ⟨r, hr⟩ := payload_of_highlightRequest hm
    rw [if_neg (by rw [hm]; decide), if_pos hm, hr]
    show (s.handleHighlightRequest (receivedOn m session)).bind some = _
    rw [Option.bind_fun_some, handleHighlightRequest_eq (m := receivedOn m session) hr rfl]

theorem changeOf_identity (m : GameMessage F) (u : GameUnit F) :
    ((changeOf m).2 u).identity = u.identity := by
  unfold changeOf
  cases m.payload <;> rfl

/-- **Requests in order**: each changes the unit at its index, and other players' units stay. -/
theorem Attending.requests {ms : List (GameMessage F)} (h : s.Attending g dead es session p)
    (hms : ∀ m ∈ ms, IsRequest m ∧ m.messageID = messageIDEvent ∧
      (changeOf m).1.toNat < (g.unitsOf p.playerID).length) :
    ∃ s' g', ms.foldlM (fun s m => s.handleMessageReceived session m) s = some s' ∧
      s'.Attending g' dead es session p ∧
      ∀ playerID, g'.unitsOf playerID =
        if playerID = p.playerID then
          ms.foldl (fun us m => us.modify (changeOf m).1.toNat (changeOf m).2) (g.unitsOf p.playerID)
        else g.unitsOf playerID := by
  induction ms generalizing s g with
  | nil =>
      refine ⟨s, g, rfl, h, ?_⟩
      intro playerID
      split
      · next heq => rw [heq]; rfl
      · rfl
  | cons m ms ih =>
      obtain ⟨⟨hm, hid, hlt⟩, hrest⟩ := List.forall_mem_cons.mp hms
      obtain ⟨g₁, h₁, hunits₁⟩ := h.changeUnit hlt (changeOf_identity m)
      have hown := hunits₁ p.playerID
      rw [if_pos rfl] at hown
      obtain ⟨s', g', hrun, h', hunits'⟩ := ih h₁ fun m' hm' => by
        rw [hown, List.length_modify]
        exact hrest m' hm'
      refine ⟨s', g', ?_, h', ?_⟩
      · rw [List.foldlM_cons, h.receive hm hid]
        exact hrun
      · intro playerID
        rw [hunits', hown, List.foldl_cons]
        split
        · rfl
        · next hne => rw [hunits₁, if_neg hne]

end

/-- **Requests** change the addressed unit of the sender's player, in its acceleration or its highlight,
    and nothing else. -/
theorem requests_exact {s : GameServer ℝ} {g : Game ℝ} (hg : s.game = some g)
    (hserver : g.ownPlayerID = idNone) (hobjects : (g.gameUnits.map (·.address)).Nodup)
    (hsessions : (s.playerProfiles.map (·.session)).Nodup) (session : SessionID) (m : GameMessage ℝ)
    (hm : m.networkServerSession = some session) :
    (∀ r, m.payload = .moveRequest r →
      ∃ s' acceleration, s.handleMoveRequest m = some s' ∧
        s.Obeys s' g session r.unitIndex (·.setAcceleration acceleration) ∧
        acceleration = Vec2.scale ⟨Real.cos r.angle, -Real.sin r.angle⟩
          (min (max r.strength 0) 1 * GameUnit.maximalAcceleration) ∧
        acceleration.norm ≤ GameUnit.maximalAcceleration) ∧
      ∀ r, m.payload = .highlightRequest r →
        ∃ s', s.handleHighlightRequest m = some s' ∧
          s.Obeys s' g session r.unitIndex (·.setHighlighted r.isHighlighted) := by
  constructor
  · intro r hr
    refine ⟨_, _, handleMoveRequest_eq hr hm, changeUnit_obeys hg hserver hobjects hsessions, ?_, ?_⟩
    · exact requestedAcceleration_real r
    · exact requestedAcceleration_norm_le r
  · intro r hr
    exact ⟨_, handleHighlightRequest_eq hr hm, changeUnit_obeys hg hserver hobjects hsessions⟩

/-! ## Two units of one player -/

/-- A unit in the middle of the floor, with nothing set. -/
noncomputable def idle (address : Nat) (owner : PlayerID) : GameUnit ℝ where
  address      := address
  messageID    := messageIDFirst
  gameUnitData := ⟨ofInt 240, ofInt 240, 1, owner, false, true, false⟩
  velocity     := .zero
  acceleration := .zero
  isHunting    := false

/-- A server with a player, between whose units there is one of another player. -/
noncomputable def twoUnits : GameServer ℝ where
  context        := { messageHandlers := [], nextMessageID := messageIDFirst, nextAddress := 3
                      unset := fun _ => ⟨⟨0, 0, 0, 0, false, false, false⟩, false, ⟨0, 0, 0⟩⟩ }
  game           := some
    { address := 3, hasStarted := true, hasFinished := false, timer := 0, durationTimer := 0
      lastUnitTime := -1, gameObstacles := [], ownPlayerID := idNone
      gameUnits := [idle 0 idFirstClient, idle 1 (idFirstClient + 1), idle 2 idFirstClient] }
  playerProfiles := [⟨idFirstClient, 7⟩]
  nextPlayerID   := idFirstClient + 1
  outbox         := []
  closed         := []

/-- A request for the second unit of the player, which is the third of the game. -/
theorem requests_exact_twoUnits :
    ∃ g s' g' acceleration, twoUnits.game = some g ∧
      twoUnits.handleMoveRequest ⟨messageIDEvent, .moveRequest ⟨1, 0, 2⟩, some 7⟩ = some s' ∧
      twoUnits.Obeys s' g 7 1 (·.setAcceleration acceleration) ∧
      acceleration.norm ≤ GameUnit.maximalAcceleration ∧ s'.game = some g' ∧
      ∃ u ∈ g'.gameUnits, u.owner = idFirstClient ∧ u.acceleration = acceleration := by
  obtain ⟨hmove, -⟩ := requests_exact (s := twoUnits) rfl rfl (by show [0, 1, 2].Nodup; decide)
    (by show [(7 : SessionID)].Nodup; decide) 7 ⟨messageIDEvent, .moveRequest ⟨1, 0, 2⟩, some 7⟩ rfl
  obtain ⟨s', acceleration, hs', hobeys, -, hnorm⟩ := hmove ⟨1, 0, 2⟩ rfl
  obtain ⟨g', hgranted, hchanges⟩ := hobeys.granted _ List.mem_cons_self rfl (by decide)
  obtain ⟨u, -, howner, hu⟩ := hchanges.exists_unit
  refine ⟨_, s', g', acceleration, rfl, hs', hobeys, hnorm, by rw [hgranted], _, hu, howner, ?_⟩
  simp

end GameServer

end Footscreen
