import Footscreen.Game.Game
import Mathlib.Data.List.Nodup

/-!
# `Game.Correctness.Registry` — which object a message reaches

A game's units and obstacles each have a handler of their own, added by `setMessageID` while the game's
own handlers may be running. `Tracked` ties the registry to the entities: behind the handlers `base` it
holds one handler for each entity with an ID of its own, and no other. From it, `run_entities`: a
message's `updateData` calls reach exactly the entities with the message's ID, and `update` is what they
do. Both the server and the clients dispatch through these lemmas.
-/

namespace Footscreen

open FloatArith

variable {F : Type}

/-! ## Keys -/

/-- The handler of an entity, from its message ID and its address. -/
def entityHandler (e : MessageID × Nat) : MessageHandler Callback :=
  ⟨messageAllTypes, e.1, some (.updateData e.2)⟩

def GameUnit.key (u : GameUnit F) : MessageID × Nat := (u.messageID, u.address)
def GameObstacle.key (o : GameObstacle F) : MessageID × Nat := (o.messageID, o.address)

@[simp] theorem GameUnit.updateData_key (u : GameUnit F) (m : GameMessage F) :
    (u.updateData m).key = u.key := by
  unfold updateData
  split <;> rfl

@[simp] theorem GameObstacle.updateData_key (o : GameObstacle F) (m : GameMessage F) :
    (o.updateData m).key = o.key := by
  unfold updateData
  split <;> rfl

theorem GameUnit.updateData_idem (u : GameUnit F) (m : GameMessage F) :
    (u.updateData m).updateData m = u.updateData m := by
  unfold updateData
  cases m.payload <;> rfl

theorem GameObstacle.updateData_idem (o : GameObstacle F) (m : GameMessage F) :
    (o.updateData m).updateData m = o.updateData m := by
  unfold updateData
  cases m.payload <;> rfl

theorem GameUnit.updateData_of_ne {u : GameUnit F} {m : GameMessage F}
    (h : m.contentType ≠ messageGameUnit) :
    u.updateData m = u := by
  unfold GameUnit.updateData
  split
  · next d hd => exact absurd (by unfold GameMessage.contentType; rw [hd]; rfl) h
  · rfl

theorem GameObstacle.updateData_of_ne {o : GameObstacle F} {m : GameMessage F}
    (h : m.contentType ≠ messageGameObstacle) :
    o.updateData m = o := by
  unfold GameObstacle.updateData
  split
  · next d hd => exact absurd (by unfold GameMessage.contentType; rw [hd]; rfl) h
  · rfl

namespace Game

variable {g g' : Game F} {c c' : Context F} {m : GameMessage F} {base : MessageHandlers Callback}
  {es : List (MessageID × Nat)}

/-- The IDs and addresses of a game's entities. -/
def keys (g : Game F) : List (MessageID × Nat) :=
  g.gameUnits.map (·.key) ++ g.gameObstacles.map (·.key)

theorem mem_keys {e : MessageID × Nat} :
    e ∈ g.keys ↔ (∃ u ∈ g.gameUnits, u.key = e) ∨ ∃ o ∈ g.gameObstacles, o.key = e := by
  unfold keys
  simp

/-- The registry holds `base` and one handler for each entity with an ID of its own; no two entities
    share an address, and none has the next object's. -/
structure Tracked (g : Game F) (c : Context F) (base : MessageHandlers Callback)
    (es : List (MessageID × Nat)) : Prop where
  handlers  : c.messageHandlers = base ++ es.map entityHandler
  entities  : ∀ e, e ∈ es ↔ e ∈ g.keys ∧ messageIDFirst ≤ e.1
  addresses : (g.keys.map Prod.snd).Nodup
  fresh     : ∀ e ∈ g.keys, e.2 < c.nextAddress

/-- Only the keys matter. -/
theorem Tracked.of_keys (h : Tracked g c base es) (hkeys : g'.keys = g.keys) :
    Tracked g' c base es := by
  refine ⟨h.handlers, ?_, ?_, ?_⟩
  · rw [hkeys]
    exact h.entities
  · rw [hkeys]
    exact h.addresses
  · rw [hkeys]
    exact h.fresh

/-- Two entities at one address are one. -/
theorem Tracked.key_inj (h : Tracked g c base es) {e e' : MessageID × Nat} (he : e ∈ g.keys)
    (he' : e' ∈ g.keys) (haddress : e.2 = e'.2) : e = e' :=
  List.inj_on_of_nodup_map h.addresses he he' haddress

/-! ## The update of a message -/

/-- `updateData` of the entities whose addresses `p` selects. -/
def updateAt (g : Game F) (m : GameMessage F) (p : Nat → Bool) : Game F :=
  { g with
    gameUnits := g.gameUnits.map fun u => if p u.address then u.updateData m else u
    gameObstacles := g.gameObstacles.map fun o => if p o.address then o.updateData m else o }

/-- `updateData` of the entities with the message's ID, if that is an ID of its own. -/
def update (g : Game F) (m : GameMessage F) : Game F :=
  { g with
    gameUnits := g.gameUnits.map fun u =>
      if messageIDFirst ≤ m.messageID ∧ u.messageID = m.messageID then u.updateData m else u
    gameObstacles := g.gameObstacles.map fun o =>
      if messageIDFirst ≤ m.messageID ∧ o.messageID = m.messageID then o.updateData m else o }

theorem map_update_units_key (p : GameUnit F → Prop) [DecidablePred p] (us : List (GameUnit F)) :
    (us.map fun u => if p u then u.updateData m else u).map (·.key) = us.map (·.key) := by
  rw [List.map_map]
  apply List.map_congr_left
  intro u _
  show (if p u then u.updateData m else u).key = u.key
  split
  · exact u.updateData_key m
  · rfl

theorem map_update_obstacles_key (p : GameObstacle F → Prop) [DecidablePred p]
    (os : List (GameObstacle F)) :
    (os.map fun o => if p o then o.updateData m else o).map (·.key) = os.map (·.key) := by
  rw [List.map_map]
  apply List.map_congr_left
  intro o _
  show (if p o then o.updateData m else o).key = o.key
  split
  · exact o.updateData_key m
  · rfl

theorem update_keys : (g.update m).keys = g.keys := by
  unfold keys update
  rw [map_update_units_key, map_update_obstacles_key]

theorem updateAt_keys (p : Nat → Bool) : (g.updateAt m p).keys = g.keys := by
  unfold keys updateAt
  rw [map_update_units_key, map_update_obstacles_key]

/-- An update that changes no selected entity changes nothing. -/
theorem updateAt_eq_self {p : Nat → Bool}
    (hunits : ∀ u ∈ g.gameUnits, p u.address = true → u.updateData m = u)
    (hobstacles : ∀ o ∈ g.gameObstacles, p o.address = true → o.updateData m = o) :
    g.updateAt m p = g := by
  have hus : (g.gameUnits.map fun u => if p u.address then u.updateData m else u) = g.gameUnits := by
    refine (List.map_congr_left ?_).trans (List.map_id' _)
    intro u hu
    split
    · next hp => exact hunits u hu hp
    · rfl
  have hos : (g.gameObstacles.map fun o => if p o.address then o.updateData m else o) =
      g.gameObstacles := by
    refine (List.map_congr_left ?_).trans (List.map_id' _)
    intro o ho
    split
    · next hp => exact hobstacles o ho hp
    · rfl
  unfold updateAt
  rw [hus, hos]

theorem updateAt_updateAt (p q : Nat → Bool) :
    (g.updateAt m p).updateAt m q = g.updateAt m fun a => p a || q a := by
  unfold updateAt
  simp only [List.map_map]
  congr 1
  · apply List.map_congr_left
    intro u _
    have haddress : (u.updateData m).address = u.address := congrArg Prod.snd (u.updateData_key m)
    simp only [Function.comp_apply]
    by_cases hp : p u.address = true
    · by_cases hq : q u.address = true
      · simp [haddress, hp, hq, u.updateData_idem m]
      · simp [haddress, hp, hq]
    · simp [hp]
  · apply List.map_congr_left
    intro o _
    have haddress : (o.updateData m).address = o.address := congrArg Prod.snd (o.updateData_key m)
    simp only [Function.comp_apply]
    by_cases hp : p o.address = true
    · by_cases hq : q o.address = true
      · simp [haddress, hp, hq, o.updateData_idem m]
      · simp [haddress, hp, hq]
    · simp [hp]

/-- Selecting the entities of the registry by the message's ID is `update`. -/
theorem Tracked.updateAt_eq_update (h : Tracked g c base es) {p : Nat → Bool}
    (hp : ∀ a, p a = true ↔ (m.messageID, a) ∈ es) : g.updateAt m p = g.update m := by
  -- an address stands for one key, so selecting by address is selecting by ID
  have hiff : ∀ e ∈ g.keys,
      (p e.2 = true ↔ messageIDFirst ≤ m.messageID ∧ e.1 = m.messageID) := by
    intro e he
    rw [hp, h.entities]
    constructor
    · rintro ⟨hmem, hfirst⟩
      have heq := h.key_inj he hmem rfl
      exact ⟨hfirst, congrArg Prod.fst heq⟩
    · rintro ⟨hfirst, hid⟩
      rw [← hid] at hfirst ⊢
      exact ⟨he, hfirst⟩
  have hus : (g.gameUnits.map fun u => if p u.address then u.updateData m else u) =
      g.gameUnits.map fun u =>
        if messageIDFirst ≤ m.messageID ∧ u.messageID = m.messageID then u.updateData m else u := by
    apply List.map_congr_left
    intro u hu
    have hu' := hiff u.key (mem_keys.mpr (Or.inl ⟨u, hu, rfl⟩))
    exact if_congr hu' rfl rfl
  have hos : (g.gameObstacles.map fun o => if p o.address then o.updateData m else o) =
      g.gameObstacles.map fun o =>
        if messageIDFirst ≤ m.messageID ∧ o.messageID = m.messageID then o.updateData m else o := by
    apply List.map_congr_left
    intro o ho
    have ho' := hiff o.key (mem_keys.mpr (Or.inr ⟨o, ho, rfl⟩))
    exact if_congr ho' rfl rfl
  unfold updateAt update
  rw [hus, hos]

/-! ## Which entities a message calls -/

/-- The addresses that the entities' handlers call for a message ID. -/
def addressesOf (es : List (MessageID × Nat)) (messageID : MessageID) : List Nat :=
  (es.filter fun e => e.1 == messageID).map Prod.snd

theorem mem_addressesOf {a : Nat} {messageID : MessageID} :
    a ∈ addressesOf es messageID ↔ (messageID, a) ∈ es := by
  unfold addressesOf
  simp only [List.mem_map, List.mem_filter, beq_iff_eq, Prod.exists]
  constructor
  · rintro ⟨_, _, ⟨hmem, rfl⟩, rfl⟩
    exact hmem
  · intro hmem
    exact ⟨messageID, a, ⟨hmem, rfl⟩, rfl⟩

/-- An entity's handler takes every type, and its own ID. -/
theorem entityHandler_handles {e : MessageID × Nat} (he : messageIDFirst ≤ e.1)
    (messageType : ContentType) (messageID : MessageID) :
    (entityHandler e).handles messageType messageID = (e.1 == messageID) := by
  have hall : e.1 ≠ messageIDAll := by
    rintro hid
    rw [hid] at he
    exact absurd he (by decide)
  rw [Bool.eq_iff_iff, MessageHandler.handles_iff, beq_iff_eq]
  constructor
  · rintro ⟨-, hid | hid⟩
    · exact absurd hid hall
    · exact hid.symm
  · exact fun hid => ⟨Or.inl rfl, Or.inr hid.symm⟩

theorem callbacks_entities {messageType : ContentType} {messageID : MessageID}
    (hes : ∀ e ∈ es, messageIDFirst ≤ e.1) :
    MessageHandlers.callbacks (es.map entityHandler) messageType messageID =
      (addressesOf es messageID).map .updateData := by
  induction es with
  | nil => rfl
  | cons e es ih =>
      have he := entityHandler_handles (hes e List.mem_cons_self) messageType messageID
      have ih := ih fun e he => hes e (List.mem_cons_of_mem _ he)
      rw [List.map_cons, MessageHandlers.callbacks_cons, ih]
      unfold addressesOf
      cases hid : e.1 == messageID with
      | false =>
          rw [MessageHandlers.callbacks_singleton_of_not (he.trans hid)]
          simp [hid]
      | true =>
          rw [MessageHandlers.callbacks_singleton (he.trans hid) rfl]
          simp [hid]

/-- The callbacks of a registry: those of the handlers in front, then the entities'. -/
theorem Tracked.callbacks_eq (h : Tracked g c base es) (messageType : ContentType)
    (messageID : MessageID) :
    c.messageHandlers.callbacks messageType messageID =
      base.callbacks messageType messageID ++ (addressesOf es messageID).map .updateData := by
  have hes : ∀ e ∈ es, messageIDFirst ≤ e.1 := fun e he => ((h.entities e).mp he).2
  rw [h.handlers, MessageHandlers.callbacks_append, callbacks_entities hes]

/-! ## New entities -/

/-- A new entity at the next address keeps the registry tracked. -/
theorem Tracked.add {messageID : MessageID} (h : Tracked g c base es)
    (hkeys : g'.keys.Perm (g.keys ++ [(messageID, c.nextAddress)]))
    (hhandlers : c'.messageHandlers = (c.setMessageID c.nextAddress messageID).messageHandlers)
    (haddress : c'.nextAddress = c.nextAddress + 1) : ∃ es', Tracked g' c' base es' := by
  have hmem : ∀ e, e ∈ g'.keys ↔ e ∈ g.keys ∨ e = (messageID, c.nextAddress) := by
    intro e
    rw [hkeys.mem_iff, List.mem_append, List.mem_singleton]
  -- the new object's address is beyond those in use
  have haddresses : (g'.keys.map Prod.snd).Nodup := by
    rw [(hkeys.map Prod.snd).nodup_iff, List.map_append, List.nodup_append]
    refine ⟨h.addresses, List.nodup_singleton _, ?_⟩
    intro a ha b hb
    obtain ⟨e, he, rfl⟩ := List.mem_map.mp ha
    rw [List.map_singleton, List.mem_singleton] at hb
    rw [hb]
    exact Nat.ne_of_lt (h.fresh e he)
  have hfresh : ∀ e ∈ g'.keys, e.2 < c'.nextAddress := by
    intro e he
    rw [haddress]
    rcases (hmem e).mp he with he | rfl
    · exact Nat.lt_succ_of_lt (h.fresh e he)
    · exact Nat.lt_succ_self _
  unfold Context.setMessageID at hhandlers
  -- a handler is added for an ID of its own, and for no other
  by_cases hfirst : messageIDFirst ≤ messageID
  · refine ⟨es ++ [(messageID, c.nextAddress)], ?_, ?_, haddresses, hfresh⟩
    · rw [hhandlers, if_pos hfirst, List.map_append, ← List.append_assoc, ← h.handlers]
      rfl
    · intro e
      rw [List.mem_append, List.mem_singleton, h.entities, hmem]
      constructor
      · rintro (⟨he, hid⟩ | rfl)
        · exact ⟨Or.inl he, hid⟩
        · exact ⟨Or.inr rfl, hfirst⟩
      · rintro ⟨he | rfl, hid⟩
        · exact Or.inl ⟨he, hid⟩
        · exact Or.inr rfl
  · refine ⟨es, ?_, ?_, haddresses, hfresh⟩
    · rw [hhandlers, if_neg hfirst]
      exact h.handlers
    · intro e
      rw [h.entities, hmem]
      constructor
      · rintro ⟨he, hid⟩
        exact ⟨Or.inl he, hid⟩
      · rintro ⟨he | rfl, hid⟩
        · exact ⟨he, hid⟩
        · exact absurd hid hfirst

theorem unitByID_eq_none {messageID : MessageID} :
    g.unitByID messageID = none ↔ ∀ u ∈ g.gameUnits, u.messageID ≠ messageID := by
  unfold unitByID
  simp

theorem obstacleByID_eq_none {messageID : MessageID} :
    g.obstacleByID messageID = none ↔ ∀ o ∈ g.gameObstacles, o.messageID ≠ messageID := by
  unfold obstacleByID
  simp

theorem keys_add_unit (g : Game F) (u : GameUnit F) :
    ({ g with gameUnits := g.gameUnits ++ [u] } : Game F).keys.Perm (g.keys ++ [u.key]) := by
  unfold keys
  rw [List.map_append, List.append_assoc, List.append_assoc]
  exact List.Perm.append_left _ List.perm_append_comm

theorem keys_add_obstacle (g : Game F) (o : GameObstacle F) :
    ({ g with gameObstacles := g.gameObstacles ++ [o] } : Game F).keys = g.keys ++ [o.key] := by
  unfold keys
  rw [List.map_append, ← List.append_assoc]
  rfl

theorem setMessageID_nextAddress {address : Nat} {messageID : MessageID} :
    (c.setMessageID address messageID).nextAddress = c.nextAddress := by
  unfold Context.setMessageID
  split <;> rfl

theorem setMessageID_allocate {address : Nat} {messageID : MessageID} :
    (c.allocate.setMessageID address messageID).messageHandlers =
      (c.setMessageID address messageID).messageHandlers := by
  unfold Context.setMessageID
  split <;> rfl

end Game

end Footscreen
