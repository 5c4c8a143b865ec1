import Footscreen.Game.Correctness.Dispatch
import Footscreen.Game.GameClient
import Footscreen.Lib.Replica

/-!
# `Game.Correctness.Replica` — a client mirrors what it is sent

A client's `Game` starts empty and learns of its entities by messages. `Mirrors` is what holds after any
list of server messages: the registry is tracked, and the units and the obstacles are the tables that
`replay` builds from the messages. A message creates an entity or updates one, never both, and never an
entity of the other kind (`mirrors_step`); `client_replica` reads the result off the invariant.
-/

namespace Footscreen

open FloatArith Lib

variable {F : Type}

/-! ## Server messages -/

/-- The messages that a server sends. An entity's message has an ID of its own. -/
inductive ServerMessage (F : Type) where
  | gameUnit (messageID : MessageID) (hid : messageIDFirst ≤ messageID) (d : GameUnitData F)
  | gameObstacle (messageID : MessageID) (hid : messageIDFirst ≤ messageID) (d : GameObstacleData F)
  | newPlayerID (playerID : PlayerID)

namespace ServerMessage

def toMessage : ServerMessage F → GameMessage F
  | gameUnit messageID _ d     => ⟨messageID, .gameUnit d, none⟩
  | gameObstacle messageID _ d => ⟨messageID, .gameObstacle d, none⟩
  | newPlayerID playerID       => newPlayerIDMessage playerID

def unitUpdate : ServerMessage F → Option (MessageID × GameUnitData F)
  | gameUnit messageID _ d => some (messageID, d)
  | _                      => none

def obstacleUpdate : ServerMessage F → Option (MessageID × GameObstacleData F)
  | gameObstacle messageID _ d => some (messageID, d)
  | _                          => none

def playerIDUpdate : ServerMessage F → Option PlayerID
  | newPlayerID playerID => some playerID
  | _                    => none

end ServerMessage

/-- The unit messages of a list: their IDs and payloads. -/
def unitUpdates (ms : List (ServerMessage F)) : List (MessageID × GameUnitData F) :=
  ms.filterMap ServerMessage.unitUpdate

def obstacleUpdates (ms : List (ServerMessage F)) : List (MessageID × GameObstacleData F) :=
  ms.filterMap ServerMessage.obstacleUpdate

/-- The last player ID that a list of messages announces. -/
def lastPlayerID (ms : List (ServerMessage F)) : PlayerID :=
  (ms.filterMap ServerMessage.playerIDUpdate).getLastD idNone

theorem unitUpdates_snoc (ms : List (ServerMessage F)) (m : ServerMessage F) :
    unitUpdates (ms ++ [m]) = unitUpdates ms ++ m.unitUpdate.toList := by
  unfold unitUpdates
  rw [List.filterMap_append]
  cases hm : m.unitUpdate <;> simp [hm]

theorem obstacleUpdates_snoc (ms : List (ServerMessage F)) (m : ServerMessage F) :
    obstacleUpdates (ms ++ [m]) = obstacleUpdates ms ++ m.obstacleUpdate.toList := by
  unfold obstacleUpdates
  rw [List.filterMap_append]
  cases hm : m.obstacleUpdate <;> simp [hm]

theorem lastPlayerID_snoc (ms : List (ServerMessage F)) (m : ServerMessage F) :
    lastPlayerID (ms ++ [m]) = m.playerIDUpdate.getD (lastPlayerID ms) := by
  unfold lastPlayerID
  rw [List.filterMap_append]
  cases hm : m.playerIDUpdate <;> simp [hm]

/-! ## Tables of a game -/

def GameUnit.entry (u : GameUnit F) : MessageID × GameUnitData F := (u.messageID, u.gameUnitData)

def GameObstacle.entry (o : GameObstacle F) : MessageID × GameObstacleData F :=
  (o.messageID, o.gameObstacleData)

/-- The units as a table from their IDs to their synchronized data. -/
def Game.unitTable (g : Game F) : List (MessageID × GameUnitData F) := g.gameUnits.map (·.entry)

def Game.obstacleTable (g : Game F) : List (MessageID × GameObstacleData F) :=
  g.gameObstacles.map (·.entry)

namespace Game

variable {g : Game F} {c : Context F} {m : GameMessage F}

theorem unitTable_keys : g.unitTable.map Prod.fst = g.gameUnits.map (·.messageID) := by
  unfold unitTable
  rw [List.map_map]
  rfl

theorem obstacleTable_keys : g.obstacleTable.map Prod.fst = g.gameObstacles.map (·.messageID) := by
  unfold obstacleTable
  rw [List.map_map]
  rfl

/-- On the table of units, a unit message is an update of the key it has. -/
theorem unitTable_update {d : GameUnitData F} (hid : messageIDFirst ≤ m.messageID)
    (hm : m.payload = .gameUnit d) :
    (g.update m).unitTable =
      g.unitTable.map fun e => if e.1 = m.messageID then (m.messageID, d) else e := by
  unfold unitTable update
  rw [List.map_map, List.map_map]
  apply List.map_congr_left
  intro u _
  simp only [Function.comp_apply, hid, true_and]
  by_cases hu : u.messageID = m.messageID
  · simp [GameUnit.entry, GameUnit.updateData, hu, hm]
  · simp [GameUnit.entry, hu]

theorem obstacleTable_update {d : GameObstacleData F} (hid : messageIDFirst ≤ m.messageID)
    (hm : m.payload = .gameObstacle d) :
    (g.update m).obstacleTable =
      g.obstacleTable.map fun e => if e.1 = m.messageID then (m.messageID, d) else e := by
  unfold obstacleTable update
  rw [List.map_map, List.map_map]
  apply List.map_congr_left
  intro o _
  simp only [Function.comp_apply, hid, true_and]
  by_cases ho : o.messageID = m.messageID
  · simp [GameObstacle.entry, GameObstacle.updateData, ho, hm]
  · simp [GameObstacle.entry, ho]

theorem update_units_of_ne (hm : m.contentType ≠ messageGameUnit) :
    (g.update m).gameUnits = g.gameUnits := by
  refine (List.map_congr_left ?_).trans (List.map_id' _)
  intro u _
  rw [GameUnit.updateData_of_ne hm, ite_self]

theorem update_obstacles_of_ne (hm : m.contentType ≠ messageGameObstacle) :
    (g.update m).gameObstacles = g.gameObstacles := by
  refine (List.map_congr_left ?_).trans (List.map_id' _)
  intro o _
  rw [GameObstacle.updateData_of_ne hm, ite_self]

theorem isSome_unitByID {messageID : MessageID} :
    (g.unitByID messageID).isSome = true ↔ messageID ∈ g.unitTable.map Prod.fst := by
  rw [unitTable_keys, unitByID, List.find?_isSome, List.mem_map]
  simp only [beq_iff_eq]

theorem isSome_obstacleByID {messageID : MessageID} :
    (g.obstacleByID messageID).isSome = true ↔ messageID ∈ g.obstacleTable.map Prod.fst := by
  rw [obstacleTable_keys, obstacleByID, List.find?_isSome, List.mem_map]
  simp only [beq_iff_eq]

variable [FloatArith F]

theorem createdUnit_entry {d : GameUnitData F} (hm : m.payload = .gameUnit d) :
    (createdUnit c m).entry = (m.messageID, d) := by
  simp only [GameUnit.entry, createdUnit, GameUnit.updateData, hm]

theorem createdObstacle_entry {d : GameObstacleData F} (hm : m.payload = .gameObstacle d) :
    (createdObstacle c m).entry = (m.messageID, d) := by
  simp only [GameObstacle.entry, createdObstacle, GameObstacle.updateData, hm]

/-- **A unit message is one upsert** of the table of units, and touches nothing else. -/
theorem Tracked.receive_gameUnit {base : MessageHandlers Callback} {es : List (MessageID × Nat)}
    {d : GameUnitData F} (h : Tracked g c base es) (hn : (g.unitTable.map Prod.fst).Nodup)
    (hid : messageIDFirst ≤ m.messageID) (hm : m.payload = .gameUnit d) :
    ∃ g' c' es',
      run m (.handleGameUnit g.address :: (addressesOf es m.messageID).map .updateData) (g, c) =
        some (g', c') ∧ Tracked g' c' base es' ∧
      g'.unitTable = upsert m.messageID d g.unitTable ∧ g'.obstacleTable = g.obstacleTable ∧
      g'.address = g.address ∧ g'.ownPlayerID = g.ownPlayerID := by
  have hct : m.contentType = messageGameUnit := by
    unfold GameMessage.contentType
    rw [hm]
    rfl
  rw [h.run_gameUnit hct]
  by_cases hsome : (g.unitByID m.messageID).isSome = true
  · rw [if_pos hsome]
    refine ⟨_, _, es, rfl, h.of_keys update_keys, ?_, ?_, rfl, rfl⟩
    · rw [unitTable_update hid hm, upsert_of_mem hn (isSome_unitByID.mp hsome)]
    · unfold obstacleTable
      rw [update_obstacles_of_ne (by rw [hct]; decide)]
  · rw [if_neg hsome]
    have hnone : g.unitByID m.messageID = none := Option.not_isSome_iff_eq_none.mp hsome
    obtain ⟨es', h'⟩ := h.handleGameUnit m
    rw [handleGameUnit_of_none hnone] at h' ⊢
    refine ⟨_, _, es', rfl, h', ?_, rfl, rfl, rfl⟩
    rw [upsert_of_not_mem (mt isSome_unitByID.mpr hsome)]
    unfold unitTable
    rw [List.map_append, List.map_singleton, createdUnit_entry hm]

/-- **An obstacle message is one upsert** of the table of obstacles, and touches nothing else. -/
theorem Tracked.receive_gameObstacle {base : MessageHandlers Callback} {es : List (MessageID × Nat)}
    {d : GameObstacleData F} (h : Tracked g c base es) (hn : (g.obstacleTable.map Prod.fst).Nodup)
    (hid : messageIDFirst ≤ m.messageID) (hm : m.payload = .gameObstacle d) :
    ∃ g' c' es',
      run m (.handleGameObstacle g.address :: (addressesOf es m.messageID).map .updateData) (g, c) =
        some (g', c') ∧ Tracked g' c' base es' ∧
      g'.unitTable = g.unitTable ∧ g'.obstacleTable = upsert m.messageID d g.obstacleTable ∧
      g'.address = g.address ∧ g'.ownPlayerID = g.ownPlayerID := by
  have hct : m.contentType = messageGameObstacle := by
    unfold GameMessage.contentType
    rw [hm]
    rfl
  rw [h.run_gameObstacle hct]
  by_cases hsome : (g.obstacleByID m.messageID).isSome = true
  · rw [if_pos hsome]
    refine ⟨_, _, es, rfl, h.of_keys update_keys, ?_, ?_, rfl, rfl⟩
    · unfold unitTable
      rw [update_units_of_ne (by rw [hct]; decide)]
    · rw [obstacleTable_update hid hm, upsert_of_mem hn (isSome_obstacleByID.mp hsome)]
  · rw [if_neg hsome]
    have hnone : g.obstacleByID m.messageID = none := Option.not_isSome_iff_eq_none.mp hsome
    obtain ⟨es', h'⟩ := h.handleGameObstacle m
    rw [handleGameObstacle_of_none hnone] at h' ⊢
    refine ⟨_, _, es', rfl, h', rfl, ?_, rfl, rfl⟩
    rw [upsert_of_not_mem (mt isSome_obstacleByID.mpr hsome)]
    unfold obstacleTable
    rw [List.map_append, List.map_singleton, createdObstacle_entry hm]

end Game

/-! ## The client -/

namespace GameClient

variable [FloatArith F] {s s' : GameClient F} {m : GameMessage F}

/-- A client runs a message's callbacks on its game. -/
theorem foldlM_callback (ks : List Callback) (s : GameClient F) :
    ks.foldlM (fun s k => callback m k s) s =
      (Game.run m ks (s.game, s.context)).map fun r => { context := r.2, game := r.1 } := by
  induction ks generalizing s with
  | nil => rfl
  | cons k ks ih =>
      rw [List.foldlM_cons, Game.run_cons]
      unfold callback
      cases Game.callback m k (some s.game) s.context with
      | none => rfl
      | some r => exact ih _

theorem handleMessage_eq :
    s.handleMessage m =
      (Game.run m (s.context.messageHandlers.callbacks m.contentType m.messageID)
        (s.game, s.context)).map fun r => { context := r.2, game := r.1 } := by
  unfold handleMessage
  rw [MessageHandlers.handleMessage_eq, foldlM_callback]
  cases Game.run m (s.context.messageHandlers.callbacks m.contentType m.messageID)
      (s.game, s.context) with
  | none => rfl
  | some r => rfl

theorem handleMessages_append {ms ns : List (GameMessage F)} :
    s.handleMessages (ms ++ ns) = (s.handleMessages ms).bind fun s => s.handleMessages ns := by
  induction ms generalizing s with
  | nil => rfl
  | cons m ms ih =>
      rw [List.cons_append, handleMessages, handleMessages]
      cases s.handleMessage m with
      | none => rfl
      | some t => exact ih

/-- A client after the messages `ms`: its registry is tracked, and its game mirrors them. -/
structure Mirrors (s : GameClient F) (ms : List (ServerMessage F)) : Prop where
  tracked     : ∃ es, Game.Tracked s.game s.context (Game.gameHandlers s.game.address) es
  units       : s.game.unitTable = replay (unitUpdates ms)
  obstacles   : s.game.obstacleTable = replay (obstacleUpdates ms)
  ownPlayerID : s.game.ownPlayerID = lastPlayerID ms

/-- A fresh client mirrors no messages. -/
theorem mirrors_new (unset : Nat → Unset F) (clock : Nat → F) : (new unset clock).Mirrors [] := by
  refine ⟨⟨[], ?_, ?_, List.nodup_nil, ?_⟩, rfl, rfl, rfl⟩
  · rw [List.map_nil, List.append_nil]
    exact Game.initializeMessageHandlers_eq _ _
  · intro e
    constructor
    · intro he
      cases he
    · rintro ⟨he, _⟩
      cases he
  · intro e he
    cases he

/-- One more message. -/
theorem mirrors_step {ms : List (ServerMessage F)} (h : s.Mirrors ms) (m : ServerMessage F) :
    ∃ s', s.handleMessage m.toMessage = some s' ∧ s'.Mirrors (ms ++ [m]) := by
  obtain ⟨⟨es, htracked⟩, hunits, hobstacles, hown⟩ := h
  rw [handleMessage_eq, htracked.callbacks_eq, Game.callbacks_gameHandlers]
  cases m with
  | gameUnit messageID hid d =>
      have hn : (s.game.unitTable.map Prod.fst).Nodup := by
        rw [hunits]
        exact nodup_keys_replay
      obtain ⟨g', c', es', hrun, htracked', hunits', hobstacles', haddress, hown'⟩ :=
        htracked.receive_gameUnit (m := (ServerMessage.gameUnit messageID hid d).toMessage) hn hid rfl
      refine ⟨⟨c', g'⟩, ?_, ⟨es', by rw [haddress]; exact htracked'⟩, ?_, ?_, ?_⟩
      · exact congrArg (Option.map _) hrun
      · rw [hunits', hunits, unitUpdates_snoc]
        exact (replay_snoc (e := (messageID, d))).symm
      · rw [hobstacles', hobstacles, obstacleUpdates_snoc]
        exact congrArg replay (List.append_nil (obstacleUpdates ms)).symm
      · rw [hown', hown, lastPlayerID_snoc]
        rfl
  | gameObstacle messageID hid d =>
      have hn : (s.game.obstacleTable.map Prod.fst).Nodup := by
        rw [hobstacles]
        exact nodup_keys_replay
      obtain ⟨g', c', es', hrun, htracked', hunits', hobstacles', haddress, hown'⟩ :=
        htracked.receive_gameObstacle (m := (ServerMessage.gameObstacle messageID hid d).toMessage)
          hn hid rfl
      refine ⟨⟨c', g'⟩, ?_, ⟨es', by rw [haddress]; exact htracked'⟩, ?_, ?_, ?_⟩
      · exact congrArg (Option.map _) hrun
      · rw [hunits', hunits, unitUpdates_snoc]
        exact congrArg replay (List.append_nil (unitUpdates ms)).symm
      · rw [hobstacles', hobstacles, obstacleUpdates_snoc]
        exact (replay_snoc (e := (messageID, d))).symm
      · rw [hown', hown, lastPlayerID_snoc]
        rfl
  | newPlayerID playerID =>
      have hrun := htracked.run_newPlayerID
        (m := (ServerMessage.newPlayerID (F := F) playerID).toMessage) rfl
      refine ⟨⟨s.context, s.game.handleNewPlayerID (newPlayerIDMessage playerID)⟩, ?_,
        ⟨es, htracked.of_keys rfl⟩, ?_, ?_, ?_⟩
      · exact congrArg (Option.map _) hrun
      · show s.game.unitTable = _
        rw [hunits, unitUpdates_snoc]
        exact congrArg replay (List.append_nil (unitUpdates ms)).symm
      · show s.game.obstacleTable = _
        rw [hobstacles, obstacleUpdates_snoc]
        exact congrArg replay (List.append_nil (obstacleUpdates ms)).symm
      · show playerID = _
        rw [lastPlayerID_snoc]
        rfl

/-- A client mirrors every list of server messages. -/
theorem mirrors_run (unset : Nat → Unset F) (clock : Nat → F) (ms : List (ServerMessage F)) :
    ∃ s, (new unset clock).handleMessages (ms.map ServerMessage.toMessage) = some s ∧
      s.Mirrors ms := by
  induction ms using List.reverseRecOn with
  | nil => exact ⟨_, rfl, mirrors_new unset clock⟩
  | append_singleton ms m ih =>
      obtain ⟨s, hrun, hmirrors⟩ := ih
      obtain ⟨s', hstep, hmirrors'⟩ := mirrors_step hmirrors m
      refine ⟨s', ?_, hmirrors'⟩
      rw [List.map_append, handleMessages_append, hrun, Option.bind_some]
      show (s.handleMessage m.toMessage).bind _ = _
      rw [hstep]
      rfl

/-- **Client replica.** After any server messages a fresh client holds one unit for each ID that unit
    messages had, in the order of first appearance, with the payload of the last message of that ID; the
    same of obstacles; and its player ID is the last one announced. -/
theorem client_replica (unset : Nat → Unset F) (clock : Nat → F) (ms : List (ServerMessage F)) :
    ∃ s, (new unset clock).handleMessages (ms.map ServerMessage.toMessage) = some s ∧
      s.game.gameUnits.map (·.messageID) = ((unitUpdates ms).map Prod.fst).eraseDups ∧
      (∀ u ∈ s.game.gameUnits, IsLast (unitUpdates ms) (u.messageID, u.gameUnitData)) ∧
      s.game.gameObstacles.map (·.messageID) = ((obstacleUpdates ms).map Prod.fst).eraseDups ∧
      (∀ o ∈ s.game.gameObstacles,
        IsLast (obstacleUpdates ms) (o.messageID, o.gameObstacleData)) ∧
      s.game.ownPlayerID = lastPlayerID ms := by
  obtain ⟨s, hrun, hmirrors⟩ := mirrors_run unset clock ms
  refine ⟨s, hrun, ?_, ?_, ?_, ?_, hmirrors.ownPlayerID⟩
  · rw [← Game.unitTable_keys, hmirrors.units, keys_replay]
  · intro u hu
    rw [← mem_replay_iff, ← hmirrors.units]
    exact List.mem_map_of_mem hu
  · rw [← Game.obstacleTable_keys, hmirrors.obstacles, keys_replay]
  · intro o ho
    rw [← mem_replay_iff, ← hmirrors.obstacles]
    exact List.mem_map_of_mem ho

end GameClient

end Footscreen
