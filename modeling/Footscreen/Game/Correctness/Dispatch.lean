import Footscreen.Game.Correctness.Registry

/-!
# `Game.Correctness.Dispatch` — what a message does to a game

A message runs the game's own handler for its type, which may create an entity, and then the handlers of
the entities with its ID. `run` is a sequence of such callbacks; the `run_` lemmas say, for each kind of
message, what the sequence leaves of a tracked game. A new entity's handler is added while the dispatch
goes on over the old list, so it is created from the message and not updated by it.
-/

namespace Footscreen

open FloatArith

variable {F : Type} [FloatArith F]

namespace Game

variable {g g' : Game F} {c c' : Context F} {m : GameMessage F} {base : MessageHandlers Callback}
  {es : List (MessageID × Nat)}

/-! ## Running callbacks -/

/-- Callbacks run one after the other on a game that exists. -/
def run (m : GameMessage F) (ks : List Callback) (s : Game F × Context F) :
    Option (Game F × Context F) :=
  ks.foldlM (fun s k => callback m k (some s.1) s.2) s

theorem run_cons {k : Callback} {ks : List Callback} {s : Game F × Context F} :
    run m (k :: ks) s = (callback m k (some s.1) s.2).bind (run m ks) := rfl

/-- One `updateData` call, on an entity of the game. -/
theorem callback_updateData {a : Nat} (h : (g.keys.map Prod.snd).Nodup)
    (ha : a ∈ g.keys.map Prod.snd) :
    callback m (.updateData a) (some g) c = some (g.updateAt m (· == a), c) := by
  have hdisjoint : ∀ u ∈ g.gameUnits, ∀ o ∈ g.gameObstacles, u.address ≠ o.address := by
    unfold keys at h
    rw [List.map_append] at h
    intro u hu o ho heq
    apply List.disjoint_of_nodup_append h (List.mem_map_of_mem (List.mem_map_of_mem hu))
    show u.address ∈ _
    rw [heq]
    exact List.mem_map_of_mem (f := Prod.snd) (List.mem_map_of_mem ho)
  have hunit : ∀ u : GameUnit F, (if u.address = a then u.updateData m else u) =
      if (u.address == a) = true then u.updateData m else u :=
    fun u => if_congr beq_iff_eq.symm rfl rfl
  have hobstacle : ∀ o : GameObstacle F, (if o.address = a then o.updateData m else o) =
      if (o.address == a) = true then o.updateData m else o :=
    fun o => if_congr beq_iff_eq.symm rfl rfl
  unfold callback
  by_cases hany : g.gameUnits.any (fun u => u.address = a) = true
  · -- the address is a unit's, so no obstacle has it
    obtain ⟨u, hu, hua⟩ := List.any_eq_true.mp hany
    have hua : u.address = a := of_decide_eq_true hua
    have hos : (g.gameObstacles.map fun o => if (o.address == a) = true then o.updateData m else o) =
        g.gameObstacles := by
      refine (List.map_congr_left fun o ho => if_neg ?_).trans (List.map_id' _)
      rw [beq_iff_eq, ← hua]
      exact (hdisjoint u hu o ho).symm
    simp only [hany, if_true, modifyUnit, updateAt, hunit, hos]
  · -- the address is an obstacle's
    have hus : (g.gameUnits.map fun u => if (u.address == a) = true then u.updateData m else u) =
        g.gameUnits := by
      refine (List.map_congr_left fun u hu => if_neg ?_).trans (List.map_id' _)
      intro hua
      exact hany (List.any_eq_true.mpr ⟨u, hu, decide_eq_true (beq_iff_eq.mp hua)⟩)
    have hany' : g.gameObstacles.any (fun o => o.address = a) = true := by
      obtain ⟨e, he, rfl⟩ := List.mem_map.mp ha
      rcases mem_keys.mp he with ⟨u, hu, rfl⟩ | ⟨o, ho, rfl⟩
      · exact absurd (List.any_eq_true.mpr ⟨u, hu, decide_eq_true rfl⟩) hany
      · exact List.any_eq_true.mpr ⟨o, ho, decide_eq_true rfl⟩
    simp only [hany, hany', if_true, modifyObstacle, updateAt, hobstacle, hus]
    rfl

/-- `updateData` calls on entities of the game. -/
theorem run_updateData {as : List Nat} (h : (g.keys.map Prod.snd).Nodup)
    (has : ∀ a ∈ as, a ∈ g.keys.map Prod.snd) :
    run m (as.map .updateData) (g, c) = some (g.updateAt m fun a => decide (a ∈ as), c) := by
  induction as generalizing g with
  | nil =>
      have hself : (g.updateAt m fun a => decide (a ∈ ([] : List Nat))) = g :=
        updateAt_eq_self (fun u _ hp => by simp at hp) (fun o _ hp => by simp at hp)
      rw [hself]
      rfl
  | cons a as ih =>
      rw [List.map_cons, run_cons, callback_updateData h (has a List.mem_cons_self), Option.bind_some]
      have hkeys := updateAt_keys (g := g) (m := m) (· == a)
      rw [ih (by rw [hkeys]; exact h)
        (fun b hb => by rw [hkeys]; exact has b (List.mem_cons_of_mem _ hb)), updateAt_updateAt]
      have hfun : (fun b => (b == a) || decide (b ∈ as)) = fun b => decide (b ∈ a :: as) := by
        funext b
        simp only [List.mem_cons, Bool.decide_or, Bool.beq_eq_decide_eq]
      rw [hfun]

/-- **The entities' handlers** of a registry make the message's `update`. -/
theorem Tracked.run_entities (h : Tracked g c base es) :
    run m ((addressesOf es m.messageID).map .updateData) (g, c) = some (g.update m, c) := by
  have has : ∀ a ∈ addressesOf es m.messageID, a ∈ g.keys.map Prod.snd := by
    intro a ha
    exact List.mem_map_of_mem (f := Prod.snd) ((h.entities _).mp (mem_addressesOf.mp ha)).1
  rw [run_updateData h.addresses has, h.updateAt_eq_update fun a => ?_]
  rw [decide_eq_true_iff, mem_addressesOf]

/-! ## Creation -/

/-- The unit that `handleGameUnit` creates. -/
def createdUnit (c : Context F) (m : GameMessage F) : GameUnit F :=
  { (GameUnit.new c).1 with messageID := m.messageID }.updateData m

def createdObstacle (c : Context F) (m : GameMessage F) : GameObstacle F :=
  { (GameObstacle.new c).1 with messageID := m.messageID }.updateData m

@[simp] theorem createdUnit_key : (createdUnit c m).key = (m.messageID, c.nextAddress) :=
  GameUnit.updateData_key _ m

@[simp] theorem createdObstacle_key : (createdObstacle c m).key = (m.messageID, c.nextAddress) :=
  GameObstacle.updateData_key _ m

theorem handleGameUnit_of_some (h : (g.unitByID m.messageID).isSome = true) :
    g.handleGameUnit c m = (g, c) := by
  unfold handleGameUnit
  rw [if_pos h]

theorem handleGameUnit_of_none (h : g.unitByID m.messageID = none) :
    g.handleGameUnit c m =
      ({ g with gameUnits := g.gameUnits ++ [createdUnit c m] },
       c.allocate.setMessageID c.nextAddress m.messageID) := by
  unfold handleGameUnit
  rw [h]
  rfl

theorem handleGameObstacle_of_some (h : (g.obstacleByID m.messageID).isSome = true) :
    g.handleGameObstacle c m = (g, c) := by
  unfold handleGameObstacle
  rw [if_pos h]

theorem handleGameObstacle_of_none (h : g.obstacleByID m.messageID = none) :
    g.handleGameObstacle c m =
      ({ g with gameObstacles := g.gameObstacles ++ [createdObstacle c m] },
       c.allocate.setMessageID c.nextAddress m.messageID) := by
  unfold handleGameObstacle
  rw [h]
  rfl

/-- The handlers that a game has registered keep its registry tracked. -/
theorem Tracked.handleGameUnit (h : Tracked g c base es) (m : GameMessage F) :
    ∃ es', Tracked (g.handleGameUnit c m).1 (g.handleGameUnit c m).2 base es' := by
  cases hid : g.unitByID m.messageID with
  | some u =>
      rw [handleGameUnit_of_some (by rw [hid]; rfl)]
      exact ⟨es, h⟩
  | none =>
      rw [handleGameUnit_of_none hid]
      refine h.add ?_ setMessageID_allocate setMessageID_nextAddress
      rw [← createdUnit_key (c := c) (m := m)]
      exact keys_add_unit g _

theorem Tracked.handleGameObstacle (h : Tracked g c base es) (m : GameMessage F) :
    ∃ es', Tracked (g.handleGameObstacle c m).1 (g.handleGameObstacle c m).2 base es' := by
  cases hid : g.obstacleByID m.messageID with
  | some o =>
      rw [handleGameObstacle_of_some (by rw [hid]; rfl)]
      exact ⟨es, h⟩
  | none =>
      rw [handleGameObstacle_of_none hid]
      refine h.add ?_ setMessageID_allocate setMessageID_nextAddress
      rw [keys_add_obstacle, createdObstacle_key]

/-! ## What each message does -/

/-- The handlers that `initializeMessageHandlers` adds for the game at an address. -/
def gameHandlers (address : Nat) : MessageHandlers Callback :=
  [⟨messageGameUnit, messageIDAll, some (.handleGameUnit address)⟩,
   ⟨messageGameObstacle, messageIDAll, some (.handleGameObstacle address)⟩,
   ⟨messageNewPlayerID, messageIDAll, some (.handleNewPlayerID address)⟩]

theorem not_first_of_mem_gameHandlers {address : Nat} {h : MessageHandler Callback}
    (hh : h ∈ gameHandlers address) : ¬ messageIDFirst ≤ h.messageID := by
  have hall : ¬ messageIDFirst ≤ messageIDAll := by decide
  unfold gameHandlers at hh
  simp only [List.mem_cons, List.not_mem_nil, or_false] at hh
  rcases hh with rfl | rfl | rfl
  · exact hall
  · exact hall
  · exact hall

/-- The callback of a game that handles a type, if there is one. -/
def callbackOf (address : Nat) (t : ContentType) : List Callback :=
  if t = messageGameUnit then [.handleGameUnit address]
  else if t = messageGameObstacle then [.handleGameObstacle address]
  else if t = messageNewPlayerID then [.handleNewPlayerID address]
  else []

omit [FloatArith F] in
theorem initializeMessageHandlers_eq (c : Context F) (address : Nat) :
    (initializeMessageHandlers c address).messageHandlers =
      c.messageHandlers ++ gameHandlers address := by
  unfold initializeMessageHandlers MessageHandlers.addMessageHandler gameHandlers
  simp

theorem callbacks_gameHandlers (address : Nat) (t : ContentType) (messageID : MessageID) :
    (gameHandlers address).callbacks t messageID = callbackOf address t := by
  have hhandles : ∀ (t' : ContentType) (k : Callback), t' ≠ messageAllTypes →
      (MessageHandler.mk t' messageIDAll (some k)).handles t messageID = decide (t = t') := by
    intro t' k ht'
    rw [Bool.eq_iff_iff, MessageHandler.handles_iff]
    simp [ht']
  unfold gameHandlers MessageHandlers.callbacks callbackOf
  simp only [List.filter_cons, List.filter_nil, hhandles messageGameUnit _ (by decide),
    hhandles messageGameObstacle _ (by decide), hhandles messageNewPlayerID _ (by decide),
    decide_eq_true_iff]
  by_cases hu : t = messageGameUnit
  · subst hu
    rfl
  · by_cases ho : t = messageGameObstacle
    · subst ho
      rfl
    · by_cases hn : t = messageNewPlayerID
      · subst hn
        rfl
      · simp [hu, ho, hn]

omit [FloatArith F] in
/-- Only messages of an entity's type update entities. -/
theorem update_of_ne (hu : m.contentType ≠ messageGameUnit)
    (ho : m.contentType ≠ messageGameObstacle) : g.update m = g := by
  have hus : (g.gameUnits.map fun u =>
      if messageIDFirst ≤ m.messageID ∧ u.messageID = m.messageID then u.updateData m else u) =
      g.gameUnits := by
    refine (List.map_congr_left ?_).trans (List.map_id' _)
    intro u _
    rw [GameUnit.updateData_of_ne hu, ite_self]
  have hos : (g.gameObstacles.map fun o =>
      if messageIDFirst ≤ m.messageID ∧ o.messageID = m.messageID then o.updateData m else o) =
      g.gameObstacles := by
    refine (List.map_congr_left ?_).trans (List.map_id' _)
    intro o _
    rw [GameObstacle.updateData_of_ne ho, ite_self]
  unfold update
  rw [hus, hos]

/-- A unit message: it updates the units with its ID, or creates one if there is none. -/
theorem Tracked.run_gameUnit (h : Tracked g c base es) (hm : m.contentType = messageGameUnit) :
    run m (.handleGameUnit g.address :: (addressesOf es m.messageID).map .updateData) (g, c) =
      some (if (g.unitByID m.messageID).isSome then (g.update m, c) else g.handleGameUnit c m) := by
  have hcall : callback m (.handleGameUnit g.address) (some g) c = some (g.handleGameUnit c m) :=
    if_pos rfl
  rw [run_cons, hcall, Option.bind_some]
  cases hid : g.unitByID m.messageID with
  | some u =>
      rw [handleGameUnit_of_some (by rw [hid]; rfl), h.run_entities]
      rfl
  | none =>
      -- the old list of handlers goes on over the new game
      obtain ⟨es', h'⟩ := h.handleGameUnit m
      rw [handleGameUnit_of_none hid] at h' ⊢
      have has : ∀ a ∈ addressesOf es m.messageID, (m.messageID, a) ∈ g.keys :=
        fun a ha => ((h.entities _).mp (mem_addressesOf.mp ha)).1
      rw [run_updateData h'.addresses fun a ha => ?_]
      · rw [updateAt_eq_self]
        · rfl
        · -- no unit, old or new, has both the ID and one of the registered addresses
          intro u hu haddress
          have hkey := has u.address (of_decide_eq_true haddress)
          rcases List.mem_append.mp hu with hu | hu
          · have heq := h.key_inj (mem_keys.mpr (Or.inl ⟨u, hu, rfl⟩)) hkey rfl
            exact absurd (congrArg Prod.fst heq) (unitByID_eq_none.mp hid u hu)
          · have hnew : u.address = c.nextAddress := by
              rw [List.mem_singleton.mp hu]
              exact congrArg Prod.snd createdUnit_key
            rw [hnew] at hkey
            exact absurd (h.fresh _ hkey) (Nat.lt_irrefl _)
        · intro o _ _
          exact GameObstacle.updateData_of_ne (by rw [hm]; decide)
      · rw [List.mem_map]
        exact ⟨_, ((keys_add_unit g _).mem_iff).mpr (List.mem_append_left _ (has a ha)), rfl⟩

/-- An obstacle message: it updates the obstacles with its ID, or creates one if there is none. -/
theorem Tracked.run_gameObstacle (h : Tracked g c base es)
    (hm : m.contentType = messageGameObstacle) :
    run m (.handleGameObstacle g.address :: (addressesOf es m.messageID).map .updateData) (g, c) =
      some (if (g.obstacleByID m.messageID).isSome then (g.update m, c)
        else g.handleGameObstacle c m) := by
  have hcall : callback m (.handleGameObstacle g.address) (some g) c =
      some (g.handleGameObstacle c m) := if_pos rfl
  rw [run_cons, hcall, Option.bind_some]
  cases hid : g.obstacleByID m.messageID with
  | some o =>
      rw [handleGameObstacle_of_some (by rw [hid]; rfl), h.run_entities]
      rfl
  | none =>
      obtain ⟨es', h'⟩ := h.handleGameObstacle m
      rw [handleGameObstacle_of_none hid] at h' ⊢
      have has : ∀ a ∈ addressesOf es m.messageID, (m.messageID, a) ∈ g.keys :=
        fun a ha => ((h.entities _).mp (mem_addressesOf.mp ha)).1
      rw [run_updateData h'.addresses fun a ha => ?_]
      · rw [updateAt_eq_self]
        · rfl
        · intro u _ _
          exact GameUnit.updateData_of_ne (by rw [hm]; decide)
        -- as for units: nothing old has the ID, and the new address is not registered yet
        · intro o ho haddress
          have hkey := has o.address (of_decide_eq_true haddress)
          rcases List.mem_append.mp ho with ho | ho
          · have heq := h.key_inj (mem_keys.mpr (Or.inr ⟨o, ho, rfl⟩)) hkey rfl
            exact absurd (congrArg Prod.fst heq) (obstacleByID_eq_none.mp hid o ho)
          · have hnew : o.address = c.nextAddress := by
              rw [List.mem_singleton.mp ho]
              exact congrArg Prod.snd createdObstacle_key
            rw [hnew] at hkey
            exact absurd (h.fresh _ hkey) (Nat.lt_irrefl _)
      · rw [List.mem_map, keys_add_obstacle]
        exact ⟨_, List.mem_append_left _ (has a ha), rfl⟩

/-- A message with a player's ID: the game takes the ID, and no entity changes. -/
theorem Tracked.run_newPlayerID (h : Tracked g c base es)
    (hm : m.contentType = messageNewPlayerID) :
    run m (.handleNewPlayerID g.address :: (addressesOf es m.messageID).map .updateData) (g, c) =
      some (g.handleNewPlayerID m, c) := by
  have hcall : callback m (.handleNewPlayerID g.address) (some g) c =
      some (g.handleNewPlayerID m, c) := if_pos rfl
  have hkeys : (g.handleNewPlayerID m).keys = g.keys := by
    unfold handleNewPlayerID
    split <;> rfl
  rw [run_cons, hcall, Option.bind_some, (h.of_keys hkeys).run_entities,
    update_of_ne (by rw [hm]; decide) (by rw [hm]; decide)]

/-- A message of any other type leaves the game alone. -/
theorem Tracked.run_of_ne (h : Tracked g c base es) (hu : m.contentType ≠ messageGameUnit)
    (ho : m.contentType ≠ messageGameObstacle) :
    run m ((addressesOf es m.messageID).map .updateData) (g, c) = some (g, c) := by
  rw [h.run_entities, update_of_ne hu ho]

end Game

end Footscreen
