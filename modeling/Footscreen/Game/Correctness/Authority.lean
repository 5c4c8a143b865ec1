import Footscreen.Game.Correctness.Replica
import Footscreen.Game.Correctness.ServerRuns

/-!
# `Game.Correctness.Authority` — what one player's message may change

A player may steer and highlight the units it owns, and nothing else (`Harmless`). Requests keep to that.
But the server's `Game` registers the handlers that a client's game needs, so a message of one of the
game's own types is taken from a player like one from the server: it overwrites entities, creates them, or
sets the server's own player ID. `harmless_iff` says exactly which messages are harmless all the same:
those that `Restates` what the server has.
-/

namespace Footscreen

open FloatArith Lib

variable {F : Type}

/-! ## Harmless changes -/

/-- Of a unit of its own, a player may change the acceleration and the highlight flag. -/
def OnlyOwn (playerID : PlayerID) (u u' : GameUnit F) : Prop :=
  u' = u ∨ u.owner = playerID ∧ ∃ a b, u' = (u.setAcceleration a).setHighlighted b

/-- No more has changed of the game than a player may change. -/
def Harmless (playerID : PlayerID) : Option (Game F) → Option (Game F) → Prop
  | none, none      => True
  | some g, some g' =>
      List.Forall₂ (OnlyOwn playerID) g.gameUnits g'.gameUnits ∧
        g' = { g with gameUnits := g'.gameUnits }
  | _, _            => False

theorem Harmless.refl (playerID : PlayerID) (g : Option (Game F)) : Harmless playerID g g := by
  cases g with
  | none   => trivial
  | some g => exact ⟨List.forall₂_same.mpr fun _ _ => Or.inl rfl, rfl⟩

theorem OnlyOwn.identity {playerID : PlayerID} {u u' : GameUnit F} (h : OnlyOwn playerID u u') :
    u'.identity = u.identity := by
  rcases h with rfl | ⟨_, a, b, rfl⟩
  · rfl
  · rfl

theorem identities_of_onlyOwn {playerID : PlayerID} {us us' : List (GameUnit F)}
    (h : List.Forall₂ (OnlyOwn playerID) us us') : Game.identities us' = Game.identities us := by
  unfold Game.identities
  induction h with
  | nil => rfl
  | cons hu _ ih => rw [List.map_cons, List.map_cons, hu.identity, ih]

/-- No unit lives or dies by a harmless change. -/
theorem Harmless.isLiving {playerID : PlayerID} {g g' : Option (Game F)}
    (h : Harmless playerID g g') :
    g'.map (fun g => g.gameUnits.map GameUnit.isLiving) =
      g.map fun g => g.gameUnits.map GameUnit.isLiving := by
  have hliving : ∀ {us us' : List (GameUnit F)}, List.Forall₂ (OnlyOwn playerID) us us' →
      us'.map GameUnit.isLiving = us.map GameUnit.isLiving := by
    intro us us' hus
    induction hus with
    | nil => rfl
    | cons hu _ ih =>
        rw [List.map_cons, List.map_cons, ih]
        rcases hu with rfl | ⟨_, a, b, rfl⟩
        · rfl
        · rfl
  cases g with
  | none =>
      cases g' with
      | none   => rfl
      | some _ => exact h.elim
  | some g =>
      cases g' with
      | none    => exact h.elim
      | some g' => exact congrArg some (hliving h.1)

/-- After a harmless change every player's indices stand for the units they stood for. -/
theorem Harmless.unitByIndex {playerID : PlayerID} {g g' : Game F}
    (h : Harmless playerID (some g) (some g')) (q : PlayerID) (index : UInt8) :
    (g'.unitByIndex q index).map GameUnit.identity =
      (g.unitByIndex q index).map GameUnit.identity := by
  obtain ⟨hunits, hgame⟩ := h
  refine Game.unitByIndex_identity (identities_of_onlyOwn hunits) ?_ q index
  rw [hgame]

/-- Changes of the entities, one by one. -/
theorem harmless_map {playerID : PlayerID} {g : Game F} {f : GameUnit F → GameUnit F} :
    Harmless playerID (some g) (some { g with gameUnits := g.gameUnits.map f }) ↔
      ∀ u ∈ g.gameUnits, OnlyOwn playerID u (f u) := by
  have hunits : List.Forall₂ (OnlyOwn playerID) g.gameUnits (g.gameUnits.map f) ↔
      ∀ u ∈ g.gameUnits, OnlyOwn playerID u (f u) := by
    rw [List.forall₂_map_right_iff, List.forall₂_same]
  constructor
  · rintro ⟨h, _⟩
    exact hunits.mp h
  · intro h
    exact ⟨hunits.mpr h, rfl⟩

/-- Another unit at the end is not harmless. -/
theorem not_harmless_append {playerID : PlayerID} {g g' : Game F} {u : GameUnit F}
    (h : g'.gameUnits = g.gameUnits ++ [u]) : ¬ Harmless playerID (some g) (some g') := by
  rintro ⟨hunits, _⟩
  have hlength := hunits.length_eq
  rw [h, List.length_append, List.length_singleton] at hlength
  exact absurd hlength (Nat.ne_of_lt (Nat.lt_succ_self _))

namespace GameServer

variable {s s' : GameServer F} {g : Game F} {dead : List Nat} {es : List (MessageID × Nat)}
  {session : SessionID} {m : GameMessage F} {p : PlayerProfile}

/-! ## Requests -/

/-- **Requests are harmless.** -/
theorem RequestEffect.harmless (h : s.RequestEffect session s') (hready : s.Ready)
    (hp : s.playerProfileBySession session = some p) : Harmless p.playerID s.game s'.game := by
  -- a change of the unit at an address is a change of that unit alone
  have hmodify : ∀ {g : Game F} {u : GameUnit F} {f : GameUnit F → GameUnit F},
      s.game = some g → u ∈ g.gameUnits → OnlyOwn p.playerID u (f u) →
      Harmless p.playerID s.game (some (g.modifyUnit u.address f)) := by
    intro g u f hg hu hf
    rw [hg]
    apply harmless_map.mpr
    intro v hv
    by_cases haddress : v.address = u.address
    · rw [if_pos haddress]
      rcases hready with ⟨hnone, _⟩ | ⟨g', dead, es, hserving⟩
      · rw [hg] at hnone
        cases hnone
      · obtain rfl : g = g' := Option.some.inj (hg.symm.trans hserving.game)
        have hnodup : (g.gameUnits.map (·.address)).Nodup := by
          have haddresses := hserving.tracked.addresses
          unfold Game.keys at haddresses
          rw [List.map_append, List.map_map] at haddresses
          exact haddresses.of_append_left
        rw [List.inj_on_of_nodup_map hnodup hv hu haddress]
        exact hf
    · rw [if_neg haddress]
      exact Or.inl rfl
  cases h with
  | refused => exact Harmless.refl _ _
  | accelerated u a hp' hg hu howner =>
      rw [hp] at hp'
      cases hp'
      exact hmodify hg hu (Or.inr ⟨howner, a, u.gameUnitData.isHighlighted, rfl⟩)
  | highlighted u b hp' hg hu howner =>
      rw [hp] at hp'
      cases hp'
      exact hmodify hg hu (Or.inr ⟨howner, u.acceleration, b, rfl⟩)

/-! ## Messages of the game's own types -/

/-- The registry holds no handler of a game that was replaced. -/
def OnlyGame (s : GameServer F) (g : Game F) : Prop :=
  ∀ h ∈ s.context.messageHandlers, ∀ a,
    h.messageHandlerCallback = some (.handleGameUnit a) → a = g.address

/-- A message is a request, of no type that the game handles, or one that says again what the server
    has: no new entity, no other data, save a unit's own player on its highlight flag, and no other
    player ID. An ID that no entity's handler takes updates nothing. -/
def Restates (s : GameServer F) (playerID : PlayerID) (m : GameMessage F) : Prop :=
  ∀ g, s.game = some g →
    match m.payload with
    | .gameUnit d =>
        s.OnlyGame g ∧ (∃ u ∈ g.gameUnits, u.messageID = m.messageID) ∧
          ∀ u ∈ g.gameUnits, messageIDFirst ≤ m.messageID → u.messageID = m.messageID →
            d = u.gameUnitData ∨
              u.owner = playerID ∧ d = { u.gameUnitData with isHighlighted := d.isHighlighted }
    | .gameObstacle d =>
        s.OnlyGame g ∧ (∃ o ∈ g.gameObstacles, o.messageID = m.messageID) ∧
          ∀ o ∈ g.gameObstacles, messageIDFirst ≤ m.messageID → o.messageID = m.messageID →
            d = o.gameObstacleData
    | .newPlayerID playerID => s.OnlyGame g ∧ playerID = g.ownPlayerID
    | _ => True

theorem Serving.onlyGame_iff (h : s.Serving g dead es) : s.OnlyGame g ↔ dead = [] := by
  have hhandlers := h.tracked.handlers
  constructor
  · intro honly
    cases dead with
    | nil => rfl
    | cons a as =>
        have hmem : (⟨messageGameUnit, messageIDAll, some (.handleGameUnit a)⟩ :
            MessageHandler Callback) ∈ s.context.messageHandlers := by
          rw [hhandlers]
          apply List.mem_append_left
          apply List.mem_append_right
          exact List.mem_flatMap.mpr ⟨a, List.mem_cons_self, List.mem_cons_self⟩
        have heq := honly _ hmem a rfl
        exact absurd heq (Nat.ne_of_lt (h.dead_lt a List.mem_cons_self))
  · rintro rfl hd hmem a ha
    rw [hhandlers] at hmem
    unfold serverHandlers requestHandlers Game.gameHandlers at hmem
    simp only [List.nil_append, List.flatMap_cons, List.flatMap_nil, List.append_nil,
      List.mem_append, List.mem_cons, List.not_mem_nil, or_false, List.mem_map] at hmem
    rcases hmem with ((rfl | rfl) | rfl | rfl | rfl) | ⟨e, _, rfl⟩
    all_goals cases ha
    rfl

/-- The data that a unit may take from a player's message. -/
theorem onlyOwn_updateData {playerID : PlayerID} {u : GameUnit F} {d : GameUnitData F}
    (hm : m.payload = .gameUnit d) :
    OnlyOwn playerID u (u.updateData m) ↔
      d = u.gameUnitData ∨
        u.owner = playerID ∧ d = { u.gameUnitData with isHighlighted := d.isHighlighted } := by
  have hupdate : u.updateData m = { u with gameUnitData := d } := by
    unfold GameUnit.updateData
    rw [hm]
  rw [hupdate]
  constructor
  · rintro (h | ⟨howner, a, b, h⟩)
    · exact Or.inl (congrArg GameUnit.gameUnitData h)
    · refine Or.inr ⟨howner, ?_⟩
      have hd : d = { u.gameUnitData with isHighlighted := b } := congrArg GameUnit.gameUnitData h
      rw [hd]
  · rintro (rfl | ⟨howner, hd⟩)
    · exact Or.inl rfl
    · refine Or.inr ⟨howner, u.acceleration, d.isHighlighted, ?_⟩
      show ({ u with gameUnitData := d } : GameUnit F) =
        { u with gameUnitData := { u.gameUnitData with isHighlighted := d.isHighlighted } }
      rw [← hd]

/-- An update by a unit message is harmless if each unit it reaches may take its data. -/
theorem harmless_update_unit (playerID : PlayerID) {d : GameUnitData F}
    (hm : m.payload = .gameUnit d) :
    Harmless playerID (some g) (some (g.update m)) ↔
      ∀ u ∈ g.gameUnits, messageIDFirst ≤ m.messageID → u.messageID = m.messageID →
        d = u.gameUnitData ∨
          u.owner = playerID ∧ d = { u.gameUnitData with isHighlighted := d.isHighlighted } := by
  have hobstacles : (g.update m).gameObstacles = g.gameObstacles := by
    apply Game.update_obstacles_of_ne
    unfold GameMessage.contentType
    rw [hm]
    show messageGameUnit ≠ messageGameObstacle
    decide
  have hgame : g.update m = { g with gameUnits := g.gameUnits.map fun u =>
      if messageIDFirst ≤ m.messageID ∧ u.messageID = m.messageID then u.updateData m else u } := by
    rw [← hobstacles]
    rfl
  rw [hgame, harmless_map]
  apply forall₂_congr
  intro u _
  by_cases hid : messageIDFirst ≤ m.messageID ∧ u.messageID = m.messageID
  · rw [if_pos hid, onlyOwn_updateData hm]
    exact ⟨fun h _ _ => h, fun h => h hid.1 hid.2⟩
  · rw [if_neg hid]
    exact ⟨fun _ hfirst heq => absurd ⟨hfirst, heq⟩ hid, fun _ => Or.inl rfl⟩

/-- An update by an obstacle message is harmless if it brings no new data. -/
theorem harmless_update_obstacle (playerID : PlayerID) {d : GameObstacleData F}
    (hm : m.payload = .gameObstacle d) :
    Harmless playerID (some g) (some (g.update m)) ↔
      ∀ o ∈ g.gameObstacles, messageIDFirst ≤ m.messageID → o.messageID = m.messageID →
        d = o.gameObstacleData := by
  have hunits : (g.update m).gameUnits = g.gameUnits := by
    apply Game.update_units_of_ne
    unfold GameMessage.contentType
    rw [hm]
    show messageGameObstacle ≠ messageGameUnit
    decide
  have hupdate : ∀ o : GameObstacle F, o.updateData m = { o with gameObstacleData := d } := by
    intro o
    unfold GameObstacle.updateData
    rw [hm]
  constructor
  · rintro ⟨_, hgame⟩ o ho hfirst hid
    have hobstacles : (g.update m).gameObstacles = g.gameObstacles := by rw [hgame]
    unfold Game.update at hobstacles
    have ho' := List.map_inj_left.mp (hobstacles.trans (List.map_id' _).symm) o ho
    rw [if_pos ⟨hfirst, hid⟩, hupdate] at ho'
    exact congrArg GameObstacle.gameObstacleData ho'
  · intro h
    -- data that is there already changes nothing
    have hself : g.update m = g := by
      have hobstacles : (g.update m).gameObstacles = g.gameObstacles := by
        refine (List.map_congr_left ?_).trans (List.map_id' _)
        intro o ho
        split
        · next hid => rw [hupdate, h o ho hid.1 hid.2]
        · rfl
      show ({ g with gameUnits := (g.update m).gameUnits,
                     gameObstacles := (g.update m).gameObstacles } : Game F) = g
      rw [hunits, hobstacles]
    rw [hself]
    exact Harmless.refl _ _

/-! ## Which messages are harmless -/

variable [FloatArith F]

/-- Processing the message changes no more than the player may change. -/
def Respected (s : GameServer F) (session : SessionID) (p : PlayerProfile) (m : GameMessage F) : Prop :=
  ∃ s', s.handleMessageReceived session m = some s' ∧ Harmless p.playerID s.game s'.game

/-- What follows from the outcome of a message of the game. -/
theorem Serving.respected_iff {r : Game F × Context F} (h : s.Serving g dead es)
    (hreceive : s.handleMessageReceived session m =
      if dead = [] then some (s.withGame r) else none) :
    s.Respected session p m ↔ s.OnlyGame g ∧ Harmless p.playerID (some g) (some r.1) := by
  unfold Respected
  rw [hreceive, h.onlyGame_iff, h.game]
  constructor
  · rintro ⟨s', hs', hharmless⟩
    split at hs'
    · next hdead =>
        cases hs'
        exact ⟨hdead, hharmless⟩
    · cases hs'
  · rintro ⟨hdead, hharmless⟩
    rw [if_pos hdead]
    exact ⟨_, rfl, hharmless⟩

theorem Serving.respected_gameUnit {d : GameUnitData F} (h : s.Serving g dead es)
    (hm : m.payload = .gameUnit d) :
    s.Respected session p m ↔ s.Restates p.playerID m := by
  have hrestates : s.Restates p.playerID m ↔ s.OnlyGame g ∧
      (∃ u ∈ g.gameUnits, u.messageID = m.messageID) ∧
        ∀ u ∈ g.gameUnits, messageIDFirst ≤ m.messageID → u.messageID = m.messageID →
          d = u.gameUnitData ∨
            u.owner = p.playerID ∧ d = { u.gameUnitData with isHighlighted := d.isHighlighted } := by
    unfold Restates
    rw [h.game, hm]
    simp
  rw [hrestates, h.respected_iff (h.receive_gameUnit hm)]
  apply and_congr_right
  intro _
  by_cases hsome : (g.unitByID m.messageID).isSome = true
  · have hexists : ∃ u ∈ g.gameUnits, u.messageID = m.messageID := by
      have hmem := Game.isSome_unitByID.mp hsome
      rw [Game.unitTable_keys, List.mem_map] at hmem
      exact hmem
    rw [if_pos hsome]
    have hupdate := harmless_update_unit (g := g) (m := receivedOn m session) (d := d)
      p.playerID hm
    exact hupdate.trans (and_iff_right hexists).symm
  · -- without a unit of its ID the message creates one
    have hnone := Option.not_isSome_iff_eq_none.mp hsome
    rw [if_neg hsome, Game.handleGameUnit_of_none (m := receivedOn m session) hnone]
    constructor
    · intro hharmless
      exact absurd hharmless (not_harmless_append rfl)
    · rintro ⟨⟨u, hu, hid⟩, _⟩
      exact absurd hid (Game.unitByID_eq_none.mp hnone u hu)

theorem Serving.respected_gameObstacle {d : GameObstacleData F} (h : s.Serving g dead es)
    (hm : m.payload = .gameObstacle d) :
    s.Respected session p m ↔ s.Restates p.playerID m := by
  have hrestates : s.Restates p.playerID m ↔ s.OnlyGame g ∧
      (∃ o ∈ g.gameObstacles, o.messageID = m.messageID) ∧
        ∀ o ∈ g.gameObstacles, messageIDFirst ≤ m.messageID → o.messageID = m.messageID →
          d = o.gameObstacleData := by
    unfold Restates
    rw [h.game, hm]
    simp
  rw [hrestates, h.respected_iff (h.receive_gameObstacle hm)]
  apply and_congr_right
  intro _
  by_cases hsome : (g.obstacleByID m.messageID).isSome = true
  · have hexists : ∃ o ∈ g.gameObstacles, o.messageID = m.messageID := by
      have hmem := Game.isSome_obstacleByID.mp hsome
      rw [Game.obstacleTable_keys, List.mem_map] at hmem
      exact hmem
    rw [if_pos hsome]
    have hupdate := harmless_update_obstacle (g := g) (m := receivedOn m session) (d := d)
      p.playerID hm
    exact hupdate.trans (and_iff_right hexists).symm
  · have hnone := Option.not_isSome_iff_eq_none.mp hsome
    rw [if_neg hsome, Game.handleGameObstacle_of_none (m := receivedOn m session) hnone]
    constructor
    · rintro ⟨_, hgame⟩
      have hobstacles := congrArg (fun g => g.gameObstacles.length) hgame
      rw [List.length_append, List.length_singleton] at hobstacles
      exact absurd hobstacles (Nat.succ_ne_self _)
    · rintro ⟨⟨o, ho, hid⟩, _⟩
      exact absurd hid (Game.obstacleByID_eq_none.mp hnone o ho)

theorem Serving.respected_newPlayerID {playerID : PlayerID} (h : s.Serving g dead es)
    (hm : m.payload = .newPlayerID playerID) :
    s.Respected session p m ↔ s.Restates p.playerID m := by
  have hrestates : s.Restates p.playerID m ↔ s.OnlyGame g ∧ playerID = g.ownPlayerID := by
    unfold Restates
    rw [h.game, hm]
    simp
  rw [hrestates, h.respected_iff (h.receive_newPlayerID hm)]
  apply and_congr_right
  intro _
  constructor
  · rintro ⟨_, hgame⟩
    exact congrArg Game.ownPlayerID hgame
  · rintro rfl
    exact Harmless.refl _ (some g)

/-- **Server authority.** In every state that a run reaches, a player's message changes nothing but the
    acceleration and the highlight flag of its own units exactly if it is a request, of no type of the
    game, or says again what the server has. -/
theorem harmless_iff (unset : Nat → Unset F) (events : List (Event F))
    (h : exec step (run unset) events = some s) (hp : s.playerProfileBySession session = some p)
    (hm : m.contentType ≠ messageUndefined) :
    (∃ s', s.handleMessageReceived session m = some s' ∧ Harmless p.playerID s.game s'.game) ↔
      s.Restates p.playerID m := by
  have hready := ready_run unset h
  -- requests and unknown types first, then the three types that the game handles
  by_cases ht : s.game = none ∨ ¬ GameType m.contentType
  · obtain ⟨s', hs', heffect⟩ := hready.receive_other session hm ht
    refine ⟨?_, fun _ => ⟨s', hs', heffect.harmless hready hp⟩⟩
    intro _ g hg
    rcases ht with hnone | ht
    · rw [hg] at hnone
      cases hnone
    · unfold GameMessage.contentType at ht
      cases hpayload : m.payload with
      | gameUnit d =>
          rw [hpayload] at ht
          exact absurd (Or.inl rfl) ht
      | gameObstacle d =>
          rw [hpayload] at ht
          exact absurd (Or.inr (Or.inl rfl)) ht
      | newPlayerID q =>
          rw [hpayload] at ht
          exact absurd (Or.inr (Or.inr rfl)) ht
      | _ => trivial
  · rw [not_or, not_not] at ht
    rcases hready with ⟨hnone, _⟩ | ⟨g, dead, es, hserving⟩
    · exact absurd hnone ht.1
    · rcases payload_of_gameType ht.2 with ⟨d, hpayload⟩ | ⟨d, hpayload⟩ | ⟨q, hpayload⟩
      · exact hserving.respected_gameUnit hpayload
      · exact hserving.respected_gameObstacle hpayload
      · exact hserving.respected_newPlayerID hpayload

/-! ## A player's message that is not -/

/-- Level 1, and two players. -/
def twoPlayers : List (Event Int) :=
  [.loadGame 1 fun _ => 0, .handleSessionAccepted 0, .handleSessionAccepted 1]

theorem twoPlayers_run : (exec step (run zeroed) twoPlayers).isSome = true := by decide +kernel

def served : GameServer Int := (exec step (run zeroed) twoPlayers).get twoPlayers_run

theorem served_eq : exec step (run zeroed) twoPlayers = some served :=
  (Option.some_get twoPlayers_run).symm

theorem served_profile : served.playerProfileBySession 0 = some ⟨idFirstClient, 0⟩ := by
  decide +kernel

/-- A request of the first player is harmless. -/
theorem harmless_moveRequest :
    ∃ s', served.handleMessageReceived 0 ⟨messageIDEvent, .moveRequest ⟨0, 0, 1⟩, none⟩ = some s' ∧
      Harmless idFirstClient served.game s'.game :=
  (harmless_iff zeroed twoPlayers served_eq served_profile (by decide)).mpr fun _ _ => trivial

/-- The first player's client sends the second player's first unit, dead. -/
def foreignUnit : GameMessage Int := ⟨8, .gameUnit ⟨20, 360, 1, 5, false, false, false⟩, none⟩

/-- The server takes the second player's unit from the first player, and it dies. -/
theorem foreign_unit_dies :
    exec step (run zeroed) twoPlayers = some served ∧
      served.playerProfileBySession 0 = some ⟨idFirstClient, 0⟩ ∧
      (served.game.bind (·.unitByID 8)).map (fun u => (u.owner, u.isLiving)) = some (5, true) ∧
      ((served.handleMessageReceived 0 foreignUnit).bind fun s =>
        (s.game.bind (·.unitByID 8)).map fun u => (u.owner, u.isLiving)) = some (5, false) ∧
      ¬ ∃ s', served.handleMessageReceived 0 foreignUnit = some s' ∧
        Harmless idFirstClient served.game s'.game := by
  refine ⟨served_eq, served_profile, by decide +kernel, by decide +kernel, ?_⟩
  rintro ⟨s', hs', hharmless⟩
  -- a harmless change lets every unit live
  have hdies : ((served.handleMessageReceived 0 foreignUnit).map fun s =>
      s.game.map fun g => g.gameUnits.map GameUnit.isLiving) ≠
      some (served.game.map fun g => g.gameUnits.map GameUnit.isLiving) := by decide +kernel
  rw [hs', Option.map_some, hharmless.isLiving] at hdies
  exact hdies rfl

end GameServer

end Footscreen
