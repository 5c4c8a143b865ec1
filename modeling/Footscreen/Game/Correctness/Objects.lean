import Footscreen.Game.LiveObjects
import Footscreen.Game.Correctness.ServerRuns

/-!
# `Game.Correctness.Objects` — what an operation does to objects and handlers

`Bound` says that every registered callback is bound to an object that exists. What an operation does to
the registry and the objects is a `Change`: handlers with some message IDs are removed, some objects die,
and new handlers are bound to objects that exist. A change keeps `Bound` if and only if the handlers of
the objects that die are among those removed (`Change.bound_iff`). There is one lemma for each operation;
`Placed` is the invariant that they need.
-/

namespace Footscreen

open FloatArith Lib

variable {F : Type}

/-! ## Where new entities are -/

namespace Game

variable [FloatArith F] {g : Game F} {c : Context F}

/-- All entities are at this address or behind it. -/
def Beyond (n : Nat) (s : Game F × Context F) : Prop :=
  n ≤ s.2.nextAddress ∧ ∀ e ∈ s.1.keys, n ≤ e.2

omit [FloatArith F] in
theorem Beyond.add {n : Nat} {s s' : Game F × Context F} (h : Beyond n s) (messageID : MessageID)
    (hkeys : s'.1.keys.Perm (s.1.keys ++ [(messageID, s.2.nextAddress)]))
    (haddress : s'.2.nextAddress = s.2.nextAddress + 1) : Beyond n s' := by
  refine ⟨by rw [haddress]; exact Nat.le_succ_of_le h.1, ?_⟩
  intro e he
  rcases List.mem_append.mp (hkeys.mem_iff.mp he) with he | he
  · exact h.2 e he
  · rw [List.mem_singleton.mp he]
    exact h.1

theorem loadUnits_beyond {n : Nat} (owner : PlayerID) (isHunting : Bool) (ps : List Point)
    (number : UInt8) {s : Game F × Context F} (h : Beyond n s) :
    Beyond n (loadUnits owner isHunting ps number s) := by
  induction ps generalizing number s with
  | nil => exact h
  | cons p ps ih =>
      obtain ⟨g, c⟩ := s
      refine ih (number + 1) (h.add c.nextMessageID ?_ (generate_context c).2.1)
      exact keys_add_unit g _

theorem loadObstacles_beyond {n : Nat} (ps : List (Point × Int)) {s : Game F × Context F}
    (h : Beyond n s) : Beyond n (loadObstacles ps s) := by
  induction ps generalizing s with
  | nil => exact h
  | cons p ps ih =>
      obtain ⟨g, c⟩ := s
      refine ih (h.add c.nextMessageID ?_ (generate_context c).2.1)
      exact .of_eq (keys_add_obstacle g _)

omit [FloatArith F] in
theorem addresses_eq (g : Game F) :
    g.keys.map Prod.snd = g.gameUnits.map (·.address) ++ g.gameObstacles.map (·.address) := by
  unfold keys
  rw [List.map_append, List.map_map, List.map_map]
  rfl

omit [FloatArith F] in
theorem modifyUnit_addresses (address : Nat) {f : GameUnit F → GameUnit F}
    (hf : ∀ u, (f u).address = u.address) :
    (g.modifyUnit address f).keys.map Prod.snd = g.keys.map Prod.snd := by
  rw [addresses_eq, addresses_eq]
  unfold modifyUnit
  rw [List.map_map]
  congr 1
  apply List.map_congr_left
  intro u _
  show (if u.address = address then f u else u).address = u.address
  split
  · exact hf u
  · rfl

omit [FloatArith F] in
theorem modifyObstacle_addresses (address : Nat) {f : GameObstacle F → GameObstacle F}
    (hf : ∀ o, (f o).address = o.address) :
    (g.modifyObstacle address f).keys.map Prod.snd = g.keys.map Prod.snd := by
  rw [addresses_eq, addresses_eq]
  unfold modifyObstacle
  rw [List.map_map]
  congr 1
  apply List.map_congr_left
  intro o _
  show (if o.address = address then f o else o).address = o.address
  split
  · exact hf o
  · rfl

omit [FloatArith F] in
theorem messageIDs_eq (g : Game F) :
    g.keys.map Prod.fst = g.gameUnits.map (·.messageID) ++ g.gameObstacles.map (·.messageID) := by
  unfold keys
  rw [List.map_append, List.map_map, List.map_map]
  rfl

/-- What a load leaves behind the handlers that its `reset` has left. -/
structure Filled (g g' : Game F) (c c' : Context F) (es : List (MessageID × Nat)) : Prop where
  address     : g'.address = g.address
  handlers    : c'.messageHandlers = (g.reset c).2.messageHandlers ++ es.map entityHandler
  entities    : ∀ e, e ∈ es ↔ e ∈ g'.keys ∧ messageIDFirst ≤ e.1
  addresses   : (g'.keys.map Prod.snd).Nodup
  fresh       : ∀ e ∈ g'.keys, c.nextAddress ≤ e.2 ∧ e.2 < c'.nextAddress
  nextAddress : c.nextAddress ≤ c'.nextAddress

theorem load_filled (g : Game F) (c : Context F) (levelNumber : Int) (clock : Nat → F) :
    ∃ es, Filled g (g.load c levelNumber clock).1 c (g.load c levelNumber clock).2 es := by
  -- the same as a load of the empty game that `reset` leaves
  have hload : g.load c levelNumber clock =
      (g.reset c).1.load (g.reset c).2 levelNumber clock := rfl
  obtain ⟨hloaded, -, -⟩ := load_loaded (g := (g.reset c).1) (c := (g.reset c).2)
    (g.reset c).2.messageHandlers levelNumber clock rfl rfl
  obtain ⟨es, htracked⟩ := hloaded.tracked [] (GameServer.tracked_empty rfl rfl rfl)
  have hnext : (g.reset c).2.nextAddress = c.nextAddress := (release_rest _ _).2
  have hbeyond : Beyond c.nextAddress (g.load c levelNumber clock) := by
    have hreset : Beyond c.nextAddress (g.reset c) :=
      ⟨Nat.le_of_eq hnext.symm, fun e he => by cases he⟩
    exact loadObstacles_beyond _ (loadUnits_beyond _ _ _ _ (loadUnits_beyond _ _ _ _ hreset))
  rw [← hload] at hloaded htracked
  exact ⟨es, hloaded.address, htracked.handlers, htracked.entities, htracked.addresses,
    fun e he => ⟨hbeyond.2 e he, htracked.fresh e he⟩, hbeyond.1⟩

end Game

namespace LiveObjects

/-! ## Objects and handlers -/

/-- The IDs and addresses of the game's units and obstacles. -/
def entities (s : LiveObjects F) : List (MessageID × Nat) :=
  match s.server.game with
  | none   => []
  | some g => g.keys

/-- Where the `Message` objects are. -/
def addresses (s : LiveObjects F) : List Nat :=
  s.messages.map Prod.snd ++ s.entities.map Prod.snd

/-- The object that the callback is bound to exists; the server itself does. -/
def Alive (s : LiveObjects F) : Callback → Prop
  | .handleGameUnit a | .handleGameObstacle a | .handleNewPlayerID a =>
      s.server.game.map (·.address) = some a
  | .updateData a => a ∈ s.addresses
  | .handleMoveRequest | .handleHighlightRequest => True

instance (s : LiveObjects F) (k : Callback) : Decidable (s.Alive k) := by
  cases k <;> unfold Alive <;> infer_instance

/-- The registered handlers. -/
def handlers (s : LiveObjects F) : MessageHandlers Callback := s.server.context.messageHandlers

/-- **No handler has outlived its object.** -/
def Bound (s : LiveObjects F) : Prop :=
  ∀ h ∈ s.handlers, ∀ k, h.messageHandlerCallback = some k → s.Alive k

instance (s : LiveObjects F) : Decidable s.Bound :=
  inferInstanceAs (Decidable (∀ h ∈ s.handlers, ∀ k ∈ h.messageHandlerCallback, s.Alive k))

/-- No message calls a callback that is not bound to an object. -/
theorem bound_iff_callbacks {s : LiveObjects F} :
    s.Bound ↔ ∀ messageType messageID, ∀ k ∈ s.handlers.callbacks messageType messageID, s.Alive k := by
  constructor
  · intro h messageType messageID k hk
    obtain ⟨hd, hhd, hcallback⟩ := List.mem_filterMap.mp hk
    exact h hd (List.mem_filter.mp hhd).1 k hcallback
  · intro h hd hhd k hk
    -- a message of the handler's own type and ID calls it
    refine h hd.messageType hd.messageID k (List.mem_filterMap.mpr ⟨hd, ?_, hk⟩)
    rw [List.mem_filter]
    exact ⟨hhd, MessageHandler.handles_iff.mpr ⟨Or.inr rfl, Or.inr rfl⟩⟩

/-! ## Changes -/

/-- What a step does: the objects that `Dies` die, the handlers with message IDs in `ids` are removed, and
    the handlers `new` are added, for objects that exist then. -/
structure Change (Dies : Callback → Prop) (ids : List MessageID) (new : MessageHandlers Callback)
    (s t : LiveObjects F) : Prop where
  handlers : t.handlers =
    (s.handlers.filter fun h => !(decide (messageIDFirst ≤ h.messageID) && decide (h.messageID ∈ ids)))
      ++ new
  new      : ∀ h ∈ new, ∀ k, h.messageHandlerCallback = some k → t.Alive k
  alive    : ∀ k, s.Alive k → (t.Alive k ↔ ¬ Dies k)

variable {s t : LiveObjects F} {Dies : Callback → Prop} {ids : List MessageID}
  {new : MessageHandlers Callback}

/-- A change leaves no handler behind if and only if it removes those of the objects that die. -/
theorem Change.bound_iff (h : Change Dies ids new s t) (hs : s.Bound) :
    t.Bound ↔ ∀ hd ∈ s.handlers, ∀ k, hd.messageHandlerCallback = some k → Dies k →
      messageIDFirst ≤ hd.messageID ∧ hd.messageID ∈ ids := by
  constructor
  · intro ht hd hhd k hk hdies
    by_contra hno
    have hkept : hd ∈ t.handlers := by
      rw [h.handlers]
      refine List.mem_append_left _ (List.mem_filter.mpr ⟨hhd, ?_⟩)
      simpa [← not_le, or_iff_not_imp_left] using hno
    exact (h.alive k (hs hd hhd k hk)).mp (ht hd hkept k hk) hdies
  · intro hok hd hhd k hk
    rw [h.handlers] at hhd
    rcases List.mem_append.mp hhd with hhd | hhd
    · obtain ⟨hhd, hkept⟩ := List.mem_filter.mp hhd
      apply (h.alive k (hs hd hhd k hk)).mpr
      intro hdies
      obtain ⟨hfirst, hid⟩ := hok hd hhd k hk hdies
      simp [hfirst, hid] at hkept
    · exact h.new hd hhd k hk

/-! ## Where objects are -/

/-- Objects have addresses of their own, the game has registered its handlers, and an object is registered
    under IDs of its own only. -/
structure Placed (s : LiveObjects F) : Prop where
  addresses : s.addresses.Nodup
  fresh     : ∀ a ∈ s.addresses, a < s.server.context.nextAddress
  game      : ∀ g, s.server.game = some g → g.address < s.server.context.nextAddress
  own       : ∀ g, s.server.game = some g →
    (⟨messageGameUnit, messageIDAll, some (.handleGameUnit g.address)⟩ : MessageHandler Callback) ∈
      s.handlers
  first     : ∀ h ∈ s.handlers, ∀ a, h.messageHandlerCallback = some (.updateData a) →
    messageIDFirst ≤ h.messageID

theorem placed_run (unset : Nat → Unset F) : (run unset).Placed := by
  refine ⟨List.nodup_nil, ?_, ?_, ?_, ?_⟩
  · intro a ha
    cases ha
  · intro g hg
    cases hg
  · intro g hg
    cases hg
  · intro h hh a hk
    rcases List.mem_cons.mp hh with rfl | hh
    · cases hk
    · rw [List.mem_singleton.mp hh] at hk
      cases hk

/-- Handlers that are kept or added, with the game where it was. -/
theorem Placed.of_change (h : s.Placed) (hc : Change Dies ids new s t)
    (haddresses : t.addresses.Nodup)
    (hfresh : ∀ a ∈ t.addresses, a < t.server.context.nextAddress)
    (hgame : t.server.game.map (·.address) = s.server.game.map (·.address))
    (hnext : s.server.context.nextAddress ≤ t.server.context.nextAddress)
    (hnew : ∀ h ∈ new, ∀ a, h.messageHandlerCallback = some (.updateData a) →
      messageIDFirst ≤ h.messageID) : t.Placed := by
  have hold : ∀ g, t.server.game = some g →
      ∃ g', s.server.game = some g' ∧ g'.address = g.address := by
    intro g hg
    rw [hg] at hgame
    exact Option.map_eq_some_iff.mp hgame.symm
  refine ⟨haddresses, hfresh, ?_, ?_, ?_⟩
  · intro g hg
    obtain ⟨g', hg', haddress⟩ := hold g hg
    rw [← haddress]
    exact Nat.lt_of_lt_of_le (h.game g' hg') hnext
  · intro g hg
    obtain ⟨g', hg', haddress⟩ := hold g hg
    rw [hc.handlers, ← haddress]
    -- a handler for all IDs survives any destructor
    refine List.mem_append_left _ (List.mem_filter.mpr ⟨h.own g' hg', ?_⟩)
    have hall : ¬ messageIDFirst ≤ messageIDAll := by decide
    simp [hall]
  · intro hd hhd a hk
    rw [hc.handlers] at hhd
    rcases List.mem_append.mp hhd with hhd | hhd
    · exact h.first hd (List.mem_filter.mp hhd).1 a hk
    · exact hnew hd hhd a hk

/-! ## The steps -/

/-- No object dies, and none is created. -/
theorem change_alive (haddresses : t.addresses = s.addresses)
    (hgame : t.server.game.map (·.address) = s.server.game.map (·.address)) (k : Callback) :
    t.Alive k ↔ s.Alive k := by
  cases k with
  | updateData a            => exact iff_of_eq (congrArg (a ∈ ·) haddresses)
  | handleGameUnit a        => exact iff_of_eq (congrArg (· = some a) hgame)
  | handleGameObstacle a    => exact iff_of_eq (congrArg (· = some a) hgame)
  | handleNewPlayerID a     => exact iff_of_eq (congrArg (· = some a) hgame)
  | handleMoveRequest       => exact Iff.rfl
  | handleHighlightRequest  => exact Iff.rfl

/-- The handler that `setMessageID` adds. -/
def handlerOf (address : Nat) (messageID : MessageID) : MessageHandlers Callback :=
  if messageIDFirst ≤ messageID then [entityHandler (messageID, address)] else []

theorem setMessageID_handlers (c : Context F) (address : Nat) (messageID : MessageID) :
    (c.setMessageID address messageID).messageHandlers =
      c.messageHandlers ++ handlerOf address messageID := by
  unfold Context.setMessageID handlerOf
  split
  · rfl
  · exact (List.append_nil _).symm

/-- An ID is set: the objects are the same, and one has a handler more. -/
structure Identified (address : Nat) (messageID : MessageID) (s t : LiveObjects F) : Prop where
  addresses   : t.addresses = s.addresses
  game        : t.server.game.map (·.address) = s.server.game.map (·.address)
  nextAddress : t.server.context.nextAddress = s.server.context.nextAddress
  handlers    : t.handlers = s.handlers ++ handlerOf address messageID
  alive       : address ∈ s.addresses

theorem addresses_of_game {g : Game F} (hg : s.server.game = some g) :
    s.addresses = s.messages.map Prod.snd ++ g.keys.map Prod.snd := by
  unfold addresses entities
  rw [hg]

theorem setMessageID_identified {address : Nat} {messageID : MessageID}
    (h : s.setMessageID address messageID = some t) : Identified address messageID s t := by
  unfold setMessageID at h
  dsimp only at h
  split at h
  · next hmessage =>
      cases h
      have hmap : (s.messages.map fun m => if m.2 = address then (messageID, m.2) else m).map Prod.snd =
          s.messages.map Prod.snd := by
        rw [List.map_map]
        apply List.map_congr_left
        intro m _
        show (if m.2 = address then (messageID, m.2) else m).2 = m.2
        split <;> rfl
      refine ⟨congrArg (· ++ s.entities.map Prod.snd) hmap, rfl, Game.setMessageID_nextAddress,
        setMessageID_handlers _ _ _, List.mem_append_left _ ?_⟩
      obtain ⟨m, hm, haddress⟩ := List.any_eq_true.mp hmessage
      exact List.mem_map.mpr ⟨m, hm, beq_iff_eq.mp haddress⟩
  · obtain ⟨g, hg, h⟩ := Option.bind_eq_some_iff.mp h
    have haddresses := addresses_of_game hg
    split at h
    · next hunit =>
        cases h
        refine ⟨?_, by rw [hg]; rfl, Game.setMessageID_nextAddress, setMessageID_handlers _ _ _, ?_⟩
        · rw [haddresses, addresses_of_game rfl]
          exact congrArg _ (Game.modifyUnit_addresses address fun _ => rfl)
        · obtain ⟨u, hu, haddress⟩ := List.any_eq_true.mp hunit
          rw [haddresses, ← beq_iff_eq.mp haddress]
          exact List.mem_append_right _ (List.mem_map.mpr
            ⟨u.key, Game.mem_keys.mpr (Or.inl ⟨u, hu, rfl⟩), rfl⟩)
    · split at h
      · next hobstacle =>
          cases h
          refine ⟨?_, by rw [hg]; rfl, Game.setMessageID_nextAddress, setMessageID_handlers _ _ _, ?_⟩
          · rw [haddresses, addresses_of_game rfl]
            exact congrArg _ (Game.modifyObstacle_addresses address fun _ => rfl)
          · obtain ⟨o, ho, haddress⟩ := List.any_eq_true.mp hobstacle
            rw [haddresses, ← beq_iff_eq.mp haddress]
            exact List.mem_append_right _ (List.mem_map.mpr
              ⟨o.key, Game.mem_keys.mpr (Or.inr ⟨o, ho, rfl⟩), rfl⟩)
      · cases h

theorem generateMessageID_identified {address : Nat} (h : s.generateMessageID address = some t) :
    ∃ messageID, Identified address messageID s t := by
  have hid := setMessageID_identified h
  exact ⟨_, hid.addresses, hid.game, hid.nextAddress, hid.handlers, hid.alive⟩

theorem createFromData_identified {address : Nat} {m : GameMessage F}
    (h : s.createFromData address m = some t) : Identified address m.messageID s t := by
  obtain ⟨u, hu, h⟩ := Option.bind_eq_some_iff.mp h
  cases h
  have hid := setMessageID_identified hu
  refine ⟨?_, ?_, hid.nextAddress, hid.handlers, hid.alive⟩
  · rw [← hid.addresses]
    cases hg : u.server.game with
    | none   => simp [addresses, entities, hg]
    | some g =>
        have hdata : ∀ o : GameObstacle F, (o.updateData m).address = o.address := fun o =>
          congrArg Prod.snd (o.updateData_key m)
        have hdata' : ∀ u : GameUnit F, (u.updateData m).address = u.address := fun u =>
          congrArg Prod.snd (u.updateData_key m)
        rw [addresses_of_game hg, addresses_of_game rfl, Game.modifyObstacle_addresses address hdata,
          Game.modifyUnit_addresses address hdata']
  · rw [← hid.game, Option.map_map]
    rfl

theorem Identified.change {address : Nat} {messageID : MessageID}
    (h : Identified address messageID s t) :
    Change (fun _ => False) [] (handlerOf address messageID) s t := by
  refine ⟨?_, ?_, ?_⟩
  · rw [h.handlers]
    simp
  · intro hd hhd k hk
    unfold handlerOf at hhd
    split at hhd
    · rw [List.mem_singleton.mp hhd] at hk
      cases hk
      show address ∈ t.addresses
      rw [h.addresses]
      exact h.alive
    · cases hhd
  · intro k hk
    rw [change_alive h.addresses h.game]
    exact ⟨fun _ => id, fun _ => hk⟩

theorem Identified.placed {address : Nat} {messageID : MessageID} (hs : s.Placed)
    (h : Identified address messageID s t) : t.Placed := by
  refine hs.of_change h.change ?_ ?_ h.game (Nat.le_of_eq h.nextAddress.symm) ?_
  · rw [h.addresses]
    exact hs.addresses
  · rw [h.addresses, h.nextAddress]
    exact hs.fresh
  · intro hd hhd a hk
    unfold handlerOf at hhd
    split at hhd
    · next hfirst =>
        rw [List.mem_singleton.mp hhd]
        exact hfirst
    · cases hhd

theorem newMessage_change (h : s.Placed) :
    Change (fun _ => False) [] [] s s.newMessage ∧ s.newMessage.Placed := by
  have hmem : ∀ a, a ∈ s.newMessage.addresses ↔
      a ∈ s.addresses ∨ a = s.server.context.nextAddress := by
    intro a
    show a ∈ (s.messages ++ [_]).map Prod.snd ++ s.entities.map Prod.snd ↔ _
    unfold addresses
    simp
    tauto
  have hchange : Change (fun _ => False) [] [] s s.newMessage := by
    refine ⟨?_, ?_, ?_⟩
    · show s.handlers = _
      simp
    · intro hd hhd
      cases hhd
    · intro k hk
      refine ⟨fun _ => id, ?_⟩
      intro _
      cases k with
      | updateData a => exact (hmem a).mpr (Or.inl hk)
      | _            => exact hk
  refine ⟨hchange, h.of_change hchange ?_ ?_ rfl (Nat.le_succ _) ?_⟩
  · -- the new object is behind all others
    have hperm : s.newMessage.addresses.Perm (s.server.context.nextAddress :: s.addresses) := by
      show ((s.messages ++ [_]).map Prod.snd ++ s.entities.map Prod.snd).Perm _
      rw [List.map_append, List.append_assoc]
      exact List.perm_middle
    rw [hperm.nodup_iff, List.nodup_cons]
    exact ⟨fun hin => Nat.lt_irrefl _ (h.fresh _ hin), h.addresses⟩
  · intro a ha
    show a < s.server.context.nextAddress + 1
    rcases (hmem a).mp ha with ha | rfl
    · exact Nat.lt_succ_of_lt (h.fresh a ha)
    · exact Nat.lt_succ_self _
  · intro hd hhd
    cases hhd

theorem destroy_change {address : Nat} (hs : s.Placed) (h : s.destroy address = some t) :
    ∃ messageID, (messageID, address) ∈ s.messages ∧
      Change (· = .updateData address) [messageID] [] s t ∧ t.Placed := by
  obtain ⟨⟨messageID, a⟩, hfind, h⟩ := Option.bind_eq_some_iff.mp h
  have hmem := List.mem_of_find?_eq_some hfind
  obtain rfl : a = address := by simpa using List.find?_some hfind
  cases h
  have haddress : a ∈ s.messages.map Prod.snd := List.mem_map.mpr ⟨_, hmem, rfl⟩
  -- no other object is there
  have hother : a ∉ s.entities.map Prod.snd := fun hin =>
    (List.nodup_append.mp hs.addresses).2.2 a haddress a hin rfl
  have hrest : ∀ b, b ∈ (s.messages.filter fun m => m.2 != a).map Prod.snd ++ s.entities.map Prod.snd ↔
      b ∈ s.addresses ∧ b ≠ a := by
    intro b
    unfold addresses
    rw [List.mem_append, List.mem_append]
    constructor
    · rintro (hb | hb)
      · obtain ⟨m, hm, rfl⟩ := List.mem_map.mp hb
        obtain ⟨hm, hne⟩ := List.mem_filter.mp hm
        exact ⟨Or.inl (List.mem_map.mpr ⟨m, hm, rfl⟩), by simpa using hne⟩
      · exact ⟨Or.inr hb, fun hab => hother (hab ▸ hb)⟩
    · rintro ⟨hb | hb, hne⟩
      · obtain ⟨m, hm, rfl⟩ := List.mem_map.mp hb
        exact Or.inl (List.mem_map.mpr ⟨m, List.mem_filter.mpr ⟨hm, by simpa using hne⟩, rfl⟩)
      · exact Or.inr hb
  obtain ⟨-, hnext⟩ := Game.release_rest [messageID] s.server.context
  have hchange : Change (· = .updateData a) [messageID] [] s
      { server := { s.server with context := s.server.context.release messageID }
        messages := s.messages.filter fun m => m.2 != a } := by
    refine ⟨?_, ?_, ?_⟩
    · rw [List.append_nil]
      exact Game.release_handlers [messageID] s.server.context
    · intro hd hhd
      cases hhd
    · intro k hk
      cases k with
      | updateData b =>
          refine (hrest b).trans ⟨fun hb heq => hb.2 (Callback.updateData.inj heq), ?_⟩
          intro hb
          exact ⟨hk, fun heq => hb (congrArg _ heq)⟩
      | _ => exact ⟨fun _ heq => (nomatch heq), fun _ => hk⟩
  refine ⟨messageID, hmem, hchange, hs.of_change hchange ?_ ?_ rfl (Nat.le_of_eq hnext.symm)
    ?_⟩
  · exact hs.addresses.sublist (((List.filter_sublist).map _).append_right _)
  · intro b hb
    exact Nat.lt_of_lt_of_eq (hs.fresh b ((hrest b).mp hb).1) hnext.symm
  · intro hd hhd
    cases hhd

/-- The entities of the game. -/
def Owned (s : LiveObjects F) : Callback → Prop
  | .updateData a => a ∈ s.entities.map Prod.snd
  | _             => False

/-- The game's entities are others now, at addresses that were free. -/
theorem Placed.refilled {g : Game F} (h : s.Placed) (hmessages : t.messages = s.messages)
    (hg : t.server.game = some g) (hnodup : (g.keys.map Prod.snd).Nodup)
    (hfresh : ∀ e ∈ g.keys,
      s.server.context.nextAddress ≤ e.2 ∧ e.2 < t.server.context.nextAddress)
    (hnext : s.server.context.nextAddress ≤ t.server.context.nextAddress) :
    t.addresses.Nodup ∧ (∀ a ∈ t.addresses, a < t.server.context.nextAddress) ∧
      ∀ a ∈ s.addresses, (a ∈ t.addresses ↔ a ∉ s.entities.map Prod.snd) := by
  obtain ⟨hmnodup, -, hdisjoint⟩ := List.nodup_append.mp h.addresses
  have hold : ∀ a ∈ s.messages.map Prod.snd, a < s.server.context.nextAddress := fun a ha =>
    h.fresh a (List.mem_append_left _ ha)
  rw [addresses_of_game hg, hmessages]
  refine ⟨List.nodup_append.mpr ⟨hmnodup, hnodup, ?_⟩, ?_,
    ?_⟩
  · intro a ha b hb
    obtain ⟨e, he, rfl⟩ := List.mem_map.mp hb
    exact Nat.ne_of_lt (Nat.lt_of_lt_of_le (hold a ha) (hfresh e he).1)
  · intro a ha
    rcases List.mem_append.mp ha with ha | ha
    · exact Nat.lt_of_lt_of_le (hold a ha) hnext
    · obtain ⟨e, he, rfl⟩ := List.mem_map.mp ha
      exact (hfresh e he).2
  · intro a ha
    rw [List.mem_append]
    constructor
    · rintro (hin | hin)
      · exact fun hentity => hdisjoint a hin a hentity rfl
      · obtain ⟨e, he, rfl⟩ := List.mem_map.mp hin
        exact absurd (h.fresh e.2 ha) (Nat.not_lt.mpr (hfresh e he).1)
    · intro hno
      exact Or.inl ((List.mem_append.mp ha).resolve_right hno)

/-- The handlers of a load's entities are bound to these, under their IDs. -/
theorem entityHandlers_alive {g g' : Game F} {c c' : Context F} {es : List (MessageID × Nat)}
    (hf : Game.Filled g g' c c' es) (hg : t.server.game = some g') :
    ∀ hd ∈ es.map entityHandler, (∀ k, hd.messageHandlerCallback = some k → t.Alive k) ∧
      ∀ a, hd.messageHandlerCallback = some (.updateData a) → messageIDFirst ≤ hd.messageID := by
  intro hd hhd
  obtain ⟨e, he, rfl⟩ := List.mem_map.mp hhd
  obtain ⟨hkey, hfirst⟩ := (hf.entities e).mp he
  constructor
  · intro k hk
    cases hk
    show e.2 ∈ t.addresses
    rw [addresses_of_game hg]
    exact List.mem_append_right _ (List.mem_map_of_mem hkey)
  · intro a _
    exact hfirst

/-- The entities of the game are destroyed, and others are registered with `es`. -/
theorem Placed.replace {g g' : Game F} {c' : Context F} {es : List (MessageID × Nat)} (h : s.Placed)
    (hg : s.server.game = some g) (hf : Game.Filled g g' s.server.context c' es)
    (ht : t = { s with server := { s.server with game := some g', context := c' } }) :
    Change s.Owned (s.entities.map Prod.fst) (es.map entityHandler) s t ∧ t.Placed := by
  have hentities : s.entities = g.keys := by
    unfold entities
    rw [hg]
  have hgame : t.server.game.map (·.address) = s.server.game.map (·.address) := by
    rw [ht, hg]
    exact congrArg some hf.address
  have htg : t.server.game = some g' := by rw [ht]
  have hcontext : t.server.context = c' := by rw [ht]
  obtain ⟨hnodup, hfresh, halive⟩ := h.refilled (by rw [ht]) htg hf.addresses
    (by rw [hcontext]; exact hf.fresh) (by rw [hcontext]; exact hf.nextAddress)
  have hnew := entityHandlers_alive hf htg
  have hchange : Change s.Owned (s.entities.map Prod.fst) (es.map entityHandler) s t := by
    refine ⟨?_, fun hd hhd => (hnew hd hhd).1, ?_⟩
    · show t.server.context.messageHandlers = _
      rw [hcontext, hf.handlers, hentities, Game.messageIDs_eq]
      unfold Game.reset
      rw [Game.release_handlers]
      rfl
    · intro k hk
      cases k with
      | updateData a           => exact halive a hk
      | handleMoveRequest      => exact ⟨fun _ => id, fun _ => trivial⟩
      | handleHighlightRequest => exact ⟨fun _ => id, fun _ => trivial⟩
      | _ => exact ⟨fun _ => id, fun _ => hgame.trans hk⟩
  refine ⟨hchange, h.of_change hchange hnodup hfresh hgame ?_ fun hd hhd => (hnew hd hhd).2⟩
  rw [hcontext]
  exact hf.nextAddress

theorem stop_filled (g : Game F) (c : Context F) : Game.Filled g (g.stop c).1 c (g.stop c).2 [] := by
  obtain ⟨-, hnext⟩ := Game.release_rest
    (g.gameUnits.map (·.messageID) ++ g.gameObstacles.map (·.messageID)) c
  refine ⟨rfl, ?_, ?_, List.nodup_nil, ?_, Nat.le_of_eq hnext.symm⟩
  · exact (List.append_nil _).symm
  · intro e
    constructor
    · intro he
      cases he
    · rintro ⟨he, -⟩
      cases he
  · intro e he
    cases he

/-- The game and its entities. -/
def OwnedByServer (s : LiveObjects F) : Callback → Prop
  | .handleGameUnit a | .handleGameObstacle a | .handleNewPlayerID a =>
      s.server.game.map (·.address) = some a
  | k => s.Owned k

section Loading

variable [FloatArith F]

/-- The context that a new game is loaded in: it has been created, and the old one destroyed. -/
theorem loadGame_handlers (s : LiveObjects F) (clock : Nat → F) {c : Context F}
    (hc : c = match s.server.game with
      | some old => (old.reset (Game.new s.server.context clock).2).2
      | none     => (Game.new s.server.context clock).2) :
    c.messageHandlers = (s.handlers.filter fun h =>
        !(decide (messageIDFirst ≤ h.messageID) && decide (h.messageID ∈ s.entities.map Prod.fst))) ++
          Game.gameHandlers s.server.context.nextAddress ∧
      c.nextAddress = s.server.context.nextAddress + 1 := by
  have hnew : (Game.new s.server.context clock).2.messageHandlers =
      s.handlers ++ Game.gameHandlers s.server.context.nextAddress :=
    Game.initializeMessageHandlers_eq _ _
  -- handlers for all IDs survive the old entities
  have hkept : ∀ ids : List MessageID, (Game.gameHandlers s.server.context.nextAddress).filter
      (fun h => !(decide (messageIDFirst ≤ h.messageID) && decide (h.messageID ∈ ids))) =
        Game.gameHandlers s.server.context.nextAddress := by
    intro ids
    have hall : ¬ messageIDFirst ≤ messageIDAll := by decide
    simp [Game.gameHandlers, hall]
  unfold entities
  cases hg : s.server.game with
  | none =>
      rw [hg] at hc
      rw [hc]
      refine ⟨hnew.trans ?_, rfl⟩
      simp
  | some old =>
      rw [hg] at hc
      rw [hc]
      refine ⟨?_, (Game.release_rest _ _).2⟩
      unfold Game.reset
      rw [Game.release_handlers, hnew, List.filter_append, hkept, Game.messageIDs_eq]

omit [FloatArith F] in
/-- The handlers of a game are bound to it. -/
theorem gameHandlers_alive {address : Nat} (h : t.server.game.map (·.address) = some address) :
    ∀ hd ∈ Game.gameHandlers address, (∀ k, hd.messageHandlerCallback = some k → t.Alive k) ∧
      ∀ a, hd.messageHandlerCallback = some (.updateData a) → messageIDFirst ≤ hd.messageID := by
  intro hd hhd
  simp only [Game.gameHandlers, List.mem_cons, List.not_mem_nil, or_false] at hhd
  rcases hhd with rfl | rfl | rfl
  all_goals
    constructor
    · intro k hk
      cases hk
      exact h
    · intro a hk
      cases hk

omit [FloatArith F] in
/-- A game at a free address, with its entities, takes the place of the old one with its own. -/
theorem alive_of_replaced (hs : s.Placed)
    (hgame : t.server.game.map (·.address) = some s.server.context.nextAddress)
    (halive : ∀ a ∈ s.addresses, (a ∈ t.addresses ↔ a ∉ s.entities.map Prod.snd)) (k : Callback)
    (hk : s.Alive k) : t.Alive k ↔ ¬ s.OwnedByServer k := by
  -- the old game is not where the new one is
  have hold : ∀ a, s.server.game.map (·.address) = some a →
      (t.server.game.map (·.address) = some a ↔ ¬ s.server.game.map (·.address) = some a) := by
    intro a ha
    obtain ⟨g, hg, rfl⟩ := Option.map_eq_some_iff.mp ha
    have hlt := hs.game g hg
    rw [hgame, ha]
    simp only [Option.some.injEq, not_true_eq_false, iff_false]
    omega
  cases k with
  | updateData a           => exact halive a hk
  | handleGameUnit a       => exact hold a hk
  | handleGameObstacle a   => exact hold a hk
  | handleNewPlayerID a    => exact hold a hk
  | handleMoveRequest      => exact ⟨fun _ => id, fun _ => trivial⟩
  | handleHighlightRequest => exact ⟨fun _ => id, fun _ => trivial⟩

/-- **A load of a new game**: the old one dies with its entities, and the new one has handlers of its own
    and those of the level's entities. -/
theorem loadGame_change (hs : s.Placed) (levelNumber : Int) (clock : Nat → F) :
    ∃ g c es, (s.loadGame levelNumber clock).server.game = some g ∧
      Game.Filled (Game.new s.server.context clock).1 g c
        (s.loadGame levelNumber clock).server.context es ∧
      c.nextAddress = s.server.context.nextAddress + 1 ∧
      Change s.OwnedByServer (s.entities.map Prod.fst)
        (Game.gameHandlers s.server.context.nextAddress ++ es.map entityHandler) s
        (s.loadGame levelNumber clock) ∧
      (s.loadGame levelNumber clock).Placed := by
  obtain ⟨c, hc⟩ : ∃ c, c = match s.server.game with
      | some old => (old.reset (Game.new s.server.context clock).2).2
      | none     => (Game.new s.server.context clock).2 := ⟨_, rfl⟩
  obtain ⟨hhandlers, hnext⟩ := loadGame_handlers s clock hc
  obtain ⟨es, hf⟩ := Game.load_filled (Game.new s.server.context clock).1 c levelNumber
    fun i => clock (i + 2)
  have ht : s.loadGame levelNumber clock = { s with server := { s.server with
      game := some ((Game.new s.server.context clock).1.load c levelNumber fun i => clock (i + 2)).1
      context := ((Game.new s.server.context clock).1.load c levelNumber
        fun i => clock (i + 2)).2 } } := by
    rw [hc]
    rfl
  generalize (Game.new s.server.context clock).1.load c levelNumber
    (fun i => clock (i + 2)) = r at hf ht
  generalize s.loadGame levelNumber clock = t at ht
  have haddress : r.1.address = s.server.context.nextAddress := hf.address
  have hfill : t.handlers = (s.handlers.filter fun h => !(decide (messageIDFirst ≤ h.messageID) &&
      decide (h.messageID ∈ s.entities.map Prod.fst))) ++
        (Game.gameHandlers s.server.context.nextAddress ++ es.map entityHandler) := by
    rw [← List.append_assoc, ← hhandlers, ht]
    exact hf.handlers
  have htg : t.server.game = some r.1 := by rw [ht]
  have hcontext : t.server.context = r.2 := by rw [ht]
  have hle : s.server.context.nextAddress < t.server.context.nextAddress := by
    rw [hcontext]
    exact Nat.lt_of_lt_of_le (hnext ▸ Nat.lt_succ_self _) hf.nextAddress
  obtain ⟨hnodup, hfresh, halive⟩ := hs.refilled (by rw [ht]) htg hf.addresses
    (fun e he => by
      have hbounds := hf.fresh e he
      rw [hcontext]
      exact ⟨by omega, hbounds.2⟩) (Nat.le_of_lt hle)
  have hgame : t.server.game.map (·.address) = some s.server.context.nextAddress := by
    rw [htg]
    exact congrArg some haddress
  -- the new handlers, one kind after the other
  have hnew : ∀ hd ∈ Game.gameHandlers s.server.context.nextAddress ++ es.map entityHandler,
      (∀ k, hd.messageHandlerCallback = some k → t.Alive k) ∧
      ∀ a, hd.messageHandlerCallback = some (.updateData a) → messageIDFirst ≤ hd.messageID := by
    intro hd hhd
    rcases List.mem_append.mp hhd with hhd | hhd
    · exact gameHandlers_alive hgame hd hhd
    · exact entityHandlers_alive hf htg hd hhd
  have hchange : Change s.OwnedByServer (s.entities.map Prod.fst)
      (Game.gameHandlers s.server.context.nextAddress ++ es.map entityHandler) s t :=
    ⟨hfill, fun hd hhd => (hnew hd hhd).1, alive_of_replaced hs hgame halive⟩
  refine ⟨r.1, c, es, htg, hcontext ▸ hf, hnext, hchange, hnodup, hfresh, ?_, ?_, ?_⟩
  · intro g hg
    obtain rfl : r.1 = g := Option.some.inj (htg.symm.trans hg)
    rw [haddress]
    exact hle
  · intro g hg
    obtain rfl : r.1 = g := Option.some.inj (htg.symm.trans hg)
    rw [hfill, haddress]
    exact List.mem_append_right _ (List.mem_append_left _ List.mem_cons_self)
  · intro hd hhd a hk
    rw [hfill] at hhd
    rcases List.mem_append.mp hhd with hhd | hhd
    · exact hs.first hd (List.mem_filter.mp hhd).1 a hk
    · exact (hnew hd hhd).2 a hk

end Loading

end LiveObjects

end Footscreen
