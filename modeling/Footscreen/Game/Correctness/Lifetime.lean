import Footscreen.Game.Correctness.Objects

/-!
# `Game.Correctness.Lifetime` — no handler outlives its object

`bound_always_iff`: all registered callbacks are bound to existing objects, at every point of a run, if
and only if every step of the run is `Clean`. It is not when it replaces a game, whose own handlers
nothing removes, nor when it destroys an object that is still registered under an ID it had before.
-/

namespace Footscreen

open FloatArith Lib

namespace LiveObjects

variable {F : Type} {s t : LiveObjects F} {ids : List MessageID} {new : MessageHandlers Callback}

/-- The objects that die are registered under IDs that these objects have now, and under no others. -/
def RegisteredAs (s : LiveObjects F) (dying : List (MessageID × Nat)) : Prop :=
  ∀ h ∈ s.handlers, ∀ e ∈ dying, h.messageHandlerCallback = some (.updateData e.2) →
    h.messageID ∈ dying.map Prod.fst

instance (s : LiveObjects F) (dying : List (MessageID × Nat)) : Decidable (s.RegisteredAs dying) :=
  inferInstanceAs (Decidable (∀ h ∈ s.handlers, _))

/-- What a step may be for no handler to be left behind: a game is not replaced, and the objects that are
    destroyed have had no other IDs that they are still registered under. -/
def Clean (s : LiveObjects F) : Event F → Prop
  | .loadGame ..      => s.server.game.isNone
  | .load .. | .stop  => s.RegisteredAs s.entities
  | .destroy address  => s.RegisteredAs (s.messages.filter fun m => m.2 = address)
  | _                 => True

instance (s : LiveObjects F) (e : Event F) : Decidable (Clean s e) := by
  cases e <;> unfold Clean <;> infer_instance

/-! ## Steps -/

/-- A step that destroys nothing leaves nothing behind. -/
theorem Change.bound_of_none (h : Change (fun _ => False) ids new s t) (hs : s.Bound) : t.Bound :=
  (h.bound_iff hs).mpr fun _ _ _ _ hno => hno.elim

/-- Entities that die, as a change and as a condition. -/
theorem Change.bound_iff_entities (h : Change s.Owned (s.entities.map Prod.fst) new s t) (hs : s.Bound)
    (hp : s.Placed) : t.Bound ↔ s.RegisteredAs s.entities := by
  rw [h.bound_iff hs]
  constructor
  · intro hok hd hhd e he hk
    exact (hok hd hhd _ hk (List.mem_map_of_mem he)).2
  · intro hok hd hhd k hk hdies
    cases k with
    | updateData a =>
        obtain ⟨e, he, rfl⟩ := List.mem_map.mp hdies
        exact ⟨hp.first hd hhd _ hk, hok hd hhd e he hk⟩
    | _ => exact hdies.elim

theorem destroy_iff {address : Nat} (hp : s.Placed) (hs : s.Bound)
    (h : s.destroy address = some t) :
    t.Bound ↔ s.RegisteredAs (s.messages.filter fun m => m.2 = address) := by
  obtain ⟨messageID, hmem, hchange, -⟩ := destroy_change hp h
  -- there is one object at the address
  have hone : ∀ e, e ∈ (s.messages.filter fun m => m.2 = address) ↔ e = (messageID, address) := by
    intro e
    rw [List.mem_filter, decide_eq_true_iff]
    constructor
    · rintro ⟨he, hea⟩
      exact List.inj_on_of_nodup_map (List.nodup_append.mp hp.addresses).1 he hmem hea
    · rintro rfl
      exact ⟨hmem, rfl⟩
  rw [hchange.bound_iff hs]
  constructor
  · intro hok hd hhd e he hk
    rw [(hone e).mp he] at hk
    obtain ⟨-, hid⟩ := hok hd hhd _ hk rfl
    rw [List.mem_singleton.mp hid]
    exact List.mem_map.mpr ⟨_, (hone _).mpr rfl, rfl⟩
  · rintro hok hd hhd k hk rfl
    obtain ⟨e, he, heq⟩ := List.mem_map.mp (hok hd hhd _ ((hone _).mpr rfl) hk)
    rw [(hone e).mp he] at heq
    rw [← heq]
    exact ⟨heq ▸ hp.first hd hhd _ hk, List.mem_singleton.mpr rfl⟩

variable [FloatArith F] {e : Event F}

theorem loadGame_iff (hp : s.Placed) (hs : s.Bound) (levelNumber : Int) (clock : Nat → F) :
    (s.loadGame levelNumber clock).Bound ↔ s.server.game.isNone := by
  obtain ⟨_, _, _, _, _, _, hchange, -⟩ := loadGame_change hp levelNumber clock
  rw [hchange.bound_iff hs]
  constructor
  · intro hok
    cases hg : s.server.game with
    | none   => rfl
    | some g =>
        -- no destructor removes the handlers that the game itself has registered
        have hdies : s.OwnedByServer (.handleGameUnit g.address) :=
          Option.map_eq_some_iff.mpr ⟨g, hg, rfl⟩
        obtain ⟨hfirst, -⟩ := hok _ (hp.own g hg) _ rfl hdies
        have hall : ¬ messageIDFirst ≤ messageIDAll := by decide
        exact absurd hfirst hall
  · intro hnone hd hhd k hk hdies
    rw [Option.isNone_iff_eq_none] at hnone
    have hentities : s.entities = [] := by
      unfold entities
      rw [hnone]
    cases k with
    | updateData a =>
        have hdies' : a ∈ s.entities.map Prod.snd := hdies
        rw [hentities] at hdies'
        cases hdies'
    | handleMoveRequest      => exact hdies.elim
    | handleHighlightRequest => exact hdies.elim
    | _ =>
        have hdies' : s.server.game.map (·.address) = some _ := hdies
        rw [hnone] at hdies'
        cases hdies'

omit [FloatArith F] in
/-- The game's entities are replaced by others, or by none. -/
theorem replace_step {g g' : Game F} {c' : Context F} {es : List (MessageID × Nat)} (hp : s.Placed)
    (hg : s.server.game = some g) (hf : Game.Filled g g' s.server.context c' es)
    (ht : t = { s with server := { s.server with game := some g', context := c' } }) :
    t.Placed ∧ (s.Bound → (t.Bound ↔ s.RegisteredAs s.entities)) := by
  obtain ⟨hchange, hplaced⟩ := hp.replace hg hf ht
  exact ⟨hplaced, fun hs => hchange.bound_iff_entities hs hp⟩

/-- **One step** leaves a handler behind if and only if it is not `Clean`. -/
theorem step_bound (hp : s.Placed) (h : step s e = some t) :
    t.Placed ∧ (s.Bound → (t.Bound ↔ Clean s e)) := by
  -- setting an ID destroys nothing
  have hidentified : ∀ {address : Nat} {messageID : MessageID}, Identified address messageID s t →
      t.Placed ∧ (s.Bound → (t.Bound ↔ True)) := fun hid =>
    ⟨hid.placed hp, fun hs => ⟨fun _ => trivial, fun _ => hid.change.bound_of_none hs⟩⟩
  cases e with
  | loadGame levelNumber clock =>
      cases h
      obtain ⟨_, _, _, _, _, _, _, hplaced⟩ := loadGame_change hp levelNumber clock
      exact ⟨hplaced, fun hs => loadGame_iff hp hs levelNumber clock⟩
  | load levelNumber clock =>
      obtain ⟨g, hg, h⟩ := Option.bind_eq_some_iff.mp h
      cases h
      obtain ⟨es, hf⟩ := Game.load_filled g s.server.context levelNumber clock
      exact replace_step hp hg hf rfl
  | stop =>
      obtain ⟨g, hg, h⟩ := Option.bind_eq_some_iff.mp h
      cases h
      exact replace_step hp hg (stop_filled g s.server.context) rfl
  | newMessage =>
      cases h
      obtain ⟨hchange, hplaced⟩ := newMessage_change hp
      exact ⟨hplaced, fun hs => ⟨fun _ => trivial, fun _ => hchange.bound_of_none hs⟩⟩
  | setMessageID address messageID => exact hidentified (setMessageID_identified h)
  | generateMessageID address =>
      obtain ⟨messageID, hid⟩ := generateMessageID_identified h
      exact hidentified hid
  | createFromData address m => exact hidentified (createFromData_identified h)
  | destroy address =>
      obtain ⟨-, -, -, hplaced⟩ := destroy_change hp h
      exact ⟨hplaced, fun hs => destroy_iff hp hs h⟩

/-! ## Runs -/

omit [FloatArith F] in
theorem bound_run (unset : Nat → Unset F) : (run unset).Bound := by
  intro h hh k hk
  rcases List.mem_cons.mp hh with rfl | hh
  · cases hk
    trivial
  · rw [List.mem_singleton.mp hh] at hk
    cases hk
    trivial

/-- **No handler outlives its object**, in any state of a run, if and only if every step of the run is
    clean. -/
theorem bound_always_iff (unset : Nat → Unset F) {events : List (Event F)}
    (h : exec step (run unset) events = some s) :
    (∀ past, past <+: events → ∀ t, exec step (run unset) past = some t → t.Bound) ↔
      Guarded step Clean (run unset) events :=
  exec_always_iff (I := Bound) (J := Placed) (bound_run unset) (placed_run unset)
    (fun hp hstep => (step_bound hp hstep).1) (fun hp hs hstep => (step_bound hp hstep).2 hs) h

/-- A game is loaded and stopped, and an object gets an ID and is destroyed. -/
def onceEach : List (Event Int) :=
  [.loadGame 1 fun _ => 0, .newMessage, .generateMessageID 17, .stop, .destroy 17]

theorem bound_always_onceEach :
    (exec step (run GameServer.zeroed) onceEach).isSome = true ∧
      ∀ past, past <+: onceEach → ∀ t, exec step (run GameServer.zeroed) past = some t → t.Bound := by
  have hrun : (exec step (run GameServer.zeroed) onceEach).isSome = true := by decide +kernel
  obtain ⟨s, hs⟩ := Option.isSome_iff_exists.mp hrun
  exact ⟨hrun, (bound_always_iff GameServer.zeroed hs).mpr (by decide +kernel)⟩

/-- The handlers that a game has registered stay when another one replaces it; those of an object under
    its first ID stay when it has got a second one and is destroyed. -/
theorem handlers_left_behind :
    (∃ s, exec step (run GameServer.zeroed) [.loadGame 1 fun _ => 0, .loadGame 1 fun _ => 0] = some s ∧
      ¬ s.Bound) ∧
    ∃ s, exec step (run GameServer.zeroed)
        [.newMessage, .generateMessageID 0, .generateMessageID 0, .destroy 0] = some s ∧
      ¬ s.Bound := by
  constructor
  · have h : ∃ s ∈ exec step (run GameServer.zeroed)
        [.loadGame 1 fun _ => 0, .loadGame 1 fun _ => 0], ¬ s.Bound := by decide +kernel
    exact h
  · have h : ∃ s ∈ exec step (run GameServer.zeroed)
        [.newMessage, .generateMessageID 0, .generateMessageID 0, .destroy 0], ¬ s.Bound := by
      decide +kernel
    exact h

end LiveObjects

end Footscreen
