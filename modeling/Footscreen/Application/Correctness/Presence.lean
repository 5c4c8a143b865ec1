import Footscreen.Application.Correctness.Commands
import Footscreen.Game.Correctness.Replica
import Footscreen.Game.Correctness.Rounds

/-!
# `Application.Correctness.Presence` — frames while the units arrive

Frames go on while the messages of the server arrive, and dereference the first five own units whether
they are there or not. The client mirrors the messages that it has heard (`Replica`), so these say which
frames complete: those in which five units have the player as their owner (`frames_complete_iff`).
-/

namespace Footscreen

open FloatArith Lib

variable {F : Type}

/-- What happens to a client. -/
inductive ClientEvent (F : Type) where
  | receive (m : ServerMessage F)
  | stop
  | frame (touch : Vec2 F)

namespace ClientEvent

/-- The messages that the game still shows, after one event more. Of those before a stop, only the
    announced player IDs are left. -/
def hear (ms : List (ServerMessage F)) : ClientEvent F → List (ServerMessage F)
  | receive m => ms ++ [m]
  | stop      => ms.filter fun m => m.playerIDUpdate.isSome
  | frame _   => ms

def heard (past : List (ClientEvent F)) : List (ServerMessage F) := past.foldl hear []

theorem heard_snoc (past : List (ClientEvent F)) (e : ClientEvent F) :
    heard (past ++ [e]) = hear (heard past) e := by
  unfold heard
  rw [List.foldl_append]
  rfl

end ClientEvent

/-- The units that belong to the player announced last, by their last messages. -/
def ownEntries (ms : List (ServerMessage F)) : List (MessageID × GameUnitData F) :=
  (replay (unitUpdates ms)).filter fun e => e.2.owner == lastPlayerID ms

namespace GameClient

section

variable [FloatArith F] {s : GameClient F} {ms : List (ServerMessage F)}

omit [FloatArith F] in
theorem Mirrors.ownUnits (h : s.Mirrors ms) :
    (s.game.unitsOf s.game.ownPlayerID).length = (ownEntries ms).length := by
  unfold ownEntries Game.unitsOf
  rw [← h.units, ← h.ownPlayerID, Game.unitTable, List.filter_map, List.length_map]
  rfl

/-- `Game::stop` of a client. -/
def stop (s : GameClient F) : GameClient F :=
  { context := (s.game.stop s.context).2, game := (s.game.stop s.context).1 }

omit [FloatArith F] in
/-- An update that no announcement makes is not among what the announcements make. -/
theorem filterMap_announced {β : Type} {f : ServerMessage F → Option β}
    (hf : ∀ m, m.playerIDUpdate.isSome = true → f m = none) (ms : List (ServerMessage F)) :
    (ms.filter fun m => m.playerIDUpdate.isSome).filterMap f = [] := by
  rw [List.filterMap_eq_nil_iff]
  intro m hm
  exact hf m (List.mem_filter.mp hm).2

omit [FloatArith F] in
theorem unitUpdates_announced (ms : List (ServerMessage F)) :
    unitUpdates (ms.filter fun m => m.playerIDUpdate.isSome) = [] := by
  apply filterMap_announced
  intro m hm
  cases m with
  | newPlayerID playerID => rfl
  | _ => cases hm

omit [FloatArith F] in
theorem obstacleUpdates_announced (ms : List (ServerMessage F)) :
    obstacleUpdates (ms.filter fun m => m.playerIDUpdate.isSome) = [] := by
  apply filterMap_announced
  intro m hm
  cases m with
  | newPlayerID playerID => rfl
  | _ => cases hm

omit [FloatArith F] in
theorem lastPlayerID_announced (ms : List (ServerMessage F)) :
    lastPlayerID (ms.filter fun m => m.playerIDUpdate.isSome) = lastPlayerID ms := by
  unfold lastPlayerID
  congr 1
  induction ms with
  | nil => rfl
  | cons m ms ih =>
      cases m with
      | newPlayerID playerID => exact congrArg (playerID :: ·) ih
      | _ => exact ih

omit [FloatArith F] in
/-- **A stop** destroys the entities with their handlers; the player keeps its ID. -/
theorem Mirrors.stop (h : s.Mirrors ms) :
    s.stop.Mirrors (ms.filter fun m => m.playerIDUpdate.isSome) := by
  obtain ⟨es, htracked⟩ := h.tracked
  have hbase : ∀ hd ∈ Game.gameHandlers s.game.address ++ [], ¬ messageIDFirst ≤ hd.messageID := by
    intro hd hhd
    rw [List.append_nil] at hhd
    exact Game.not_first_of_mem_gameHandlers hhd
  have hhandlers := htracked.reset_handlers (List.append_nil _).symm hbase
  refine ⟨⟨[], ?_, ?_, List.nodup_nil, ?_⟩, ?_, ?_, ?_⟩
  · exact hhandlers.trans rfl
  · intro e
    constructor
    · intro he
      cases he
    · rintro ⟨he, -⟩
      cases he
  · intro e he
    cases he
  · rw [unitUpdates_announced]
    rfl
  · rw [obstacleUpdates_announced]
    rfl
  · rw [lastPlayerID_announced, ← h.ownPlayerID]
    rfl

variable [SteeringArith F]

/-- One event. A frame has no effect on the client; it is `none` where `processFrame` dereferences an
    empty pointer. -/
def step (s : GameClient F) : ClientEvent F → Option (GameClient F)
  | .receive m   => s.handleMessage m.toMessage
  | .stop        => some s.stop
  | .frame touch => (Application.requestsFor s.game touch).map fun _ => s

/-- An event that can happen: at a frame, the client has five units of its own. -/
def Can (past : List (ClientEvent F)) : ClientEvent F → Prop
  | .frame _ => 5 ≤ (ownEntries (ClientEvent.heard past)).length
  | _        => True

theorem mirrors_of_step {past : List (ClientEvent F)} {e : ClientEvent F} {s' : GameClient F}
    (h : s.Mirrors (ClientEvent.heard past)) (hstep : s.step e = some s') :
    s'.Mirrors (ClientEvent.heard (past ++ [e])) := by
  rw [ClientEvent.heard_snoc]
  cases e with
  | receive m =>
      obtain ⟨t, ht, hmirrors⟩ := mirrors_step h m
      obtain rfl : t = s' := Option.some.inj (ht.symm.trans hstep)
      exact hmirrors
  | stop =>
      cases hstep
      exact h.stop
  | frame touch =>
      obtain ⟨-, -, rfl⟩ := Option.map_eq_some_iff.mp hstep
      exact h

theorem step_isSome_iff {past : List (ClientEvent F)} (h : s.Mirrors (ClientEvent.heard past))
    (e : ClientEvent F) : (s.step e).isSome ↔ Can past e := by
  cases e with
  | receive m =>
      obtain ⟨t, ht, -⟩ := mirrors_step h m
      refine iff_of_true ?_ trivial
      show (s.handleMessage m.toMessage).isSome
      rw [ht]
      rfl
  | stop => exact iff_of_true rfl trivial
  | frame touch =>
      show (Option.map _ _).isSome ↔ 5 ≤ _
      rw [Option.isSome_map, Application.requestsFor_isSome_iff, h.ownUnits]

/-- **Frames** dereference no empty pointer, in exactly the runs in which at each frame at least five of
    the units that have arrived since the last stop belong to the player announced last. -/
theorem frames_complete_iff (unset : Nat → Unset F) (clock : Nat → F) (events : List (ClientEvent F)) :
    (exec step (new unset clock) events).isSome ↔
      ∀ past touch, past ++ [.frame touch] <+: events →
        5 ≤ (ownEntries (ClientEvent.heard past)).length := by
  rw [exec_isSome_iff (P := fun past s => s.Mirrors (ClientEvent.heard past)) (mirrors_new unset clock)
    mirrors_of_step fun e h => step_isSome_iff h e]
  constructor
  · exact fun hcan past touch hprefix => hcan past (.frame touch) hprefix
  · intro hframes past e hprefix
    cases e with
    | frame touch => exact hframes past touch hprefix
    | _ => trivial

end

/-! ## A frame before the units -/

/-- The first messages to a player that joins: its ID, and the first of its units. -/
def firstMessages : List (ClientEvent Int) :=
  [.receive (.newPlayerID idFirstClient),
   .receive (.gameUnit messageIDFirst (by decide) ⟨20, 96, 1, idFirstClient, false, true, false⟩)]

/-- The frame after them looks for the second unit, and faults. -/
theorem frame_before_units :
    (exec step (new GameServer.zeroed fun _ => 0) firstMessages).isSome = true ∧
      exec step (new GameServer.zeroed fun _ => 0) (firstMessages ++ [.frame ⟨240, 240⟩]) = none :=
  ⟨rfl, rfl⟩

end GameClient

end Footscreen
