import Footscreen.Game.Correctness.Levels

/-!
# `Game.Correctness.Wraparound` — when the message IDs run out

The counter of message IDs has 16 bits and starts again at the reserved values. A client gets entities
only by messages with their IDs (`receive_keys`), and a broadcast sends none with `messageIDNone`: after
enough loads an obstacle never reaches the clients. So the bound of `Link.client_converges` is needed.
-/

namespace Footscreen

open FloatArith Lib

variable {F : Type} [FloatArith F]

/-! ## A client gets entities by messages -/

namespace GameClient

variable {s : GameClient F} {m : GameMessage F}

/-- Its registry is the one of its game. -/
def Tracks (s : GameClient F) : Prop :=
  ∃ es, Game.Tracked s.game s.context (Game.gameHandlers s.game.address) es

/-- A created unit has the message's ID. -/
theorem handleGameUnit_keys {g : Game F} {c : Context F} (hnone : g.unitByID m.messageID = none) :
    ∀ e ∈ (g.handleGameUnit c m).1.keys, e ∈ g.keys ∨ e.1 = m.messageID := by
  intro e he
  rw [Game.handleGameUnit_of_none hnone] at he
  rcases List.mem_append.mp ((Game.keys_add_unit _ _).mem_iff.mp he) with he | he
  · exact Or.inl he
  · rw [List.mem_singleton.mp he, Game.createdUnit_key]
    exact Or.inr rfl

/-- So has a created obstacle. -/
theorem handleGameObstacle_keys {g : Game F} {c : Context F}
    (hnone : g.obstacleByID m.messageID = none) :
    ∀ e ∈ (g.handleGameObstacle c m).1.keys, e ∈ g.keys ∨ e.1 = m.messageID := by
  intro e he
  rw [Game.handleGameObstacle_of_none hnone] at he
  have he' := Game.keys_add_obstacle g (Game.createdObstacle c m) ▸ he
  rcases List.mem_append.mp he' with he | he
  · exact Or.inl he
  · rw [List.mem_singleton.mp he, Game.createdObstacle_key]
    exact Or.inr rfl

omit [FloatArith F] in
/-- A player's ID changes no entity. -/
theorem handleNewPlayerID_keys (g : Game F) (m : GameMessage F) :
    (g.handleNewPlayerID m).keys = g.keys ∧ (g.handleNewPlayerID m).address = g.address := by
  unfold Game.handleNewPlayerID
  split <;> exact ⟨rfl, rfl⟩

/-- Any message is processed, and adds at most an entity with its ID. -/
theorem handleMessage_keys (h : s.Tracks) (m : GameMessage F) :
    ∃ s', s.handleMessage m = some s' ∧ s'.Tracks ∧
      ∀ e ∈ s'.game.keys, e ∈ s.game.keys ∨ e.1 = m.messageID := by
  obtain ⟨es, htracked⟩ := h
  have hupdate : Tracks ⟨s.context, s.game.update m⟩ :=
    ⟨es, htracked.of_keys Game.update_keys⟩
  have hkeep : ∀ e ∈ (s.game.update m).keys, e ∈ s.game.keys ∨ e.1 = m.messageID := by
    intro e he
    rw [Game.update_keys] at he
    exact Or.inl he
  rw [handleMessage_eq, htracked.callbacks_eq, Game.callbacks_gameHandlers]
  unfold Game.callbackOf
  by_cases hu : m.contentType = messageGameUnit
  · rw [if_pos hu, List.singleton_append, htracked.run_gameUnit hu]
    by_cases hsome : (s.game.unitByID m.messageID).isSome = true
    · rw [if_pos hsome]
      exact ⟨_, rfl, hupdate, hkeep⟩
    · rw [if_neg hsome]
      obtain ⟨es', htracked'⟩ := htracked.handleGameUnit m
      have haddress := (GameServer.handleGameUnit_context s.game s.context m).1
      refine ⟨_, rfl, ⟨es', ?_⟩, ?_⟩
      · rw [haddress]
        exact htracked'
      · exact handleGameUnit_keys (Option.not_isSome_iff_eq_none.mp hsome)
  · rw [if_neg hu]
    by_cases ho : m.contentType = messageGameObstacle
    · rw [if_pos ho, List.singleton_append, htracked.run_gameObstacle ho]
      by_cases hsome : (s.game.obstacleByID m.messageID).isSome = true
      · rw [if_pos hsome]
        exact ⟨_, rfl, hupdate, hkeep⟩
      · rw [if_neg hsome]
        obtain ⟨es', htracked'⟩ := htracked.handleGameObstacle m
        have haddress := (GameServer.handleGameObstacle_context s.game s.context m).1
        refine ⟨_, rfl, ⟨es', ?_⟩, ?_⟩
        · rw [haddress]
          exact htracked'
        · exact handleGameObstacle_keys (Option.not_isSome_iff_eq_none.mp hsome)
    · rw [if_neg ho]
      by_cases hn : m.contentType = messageNewPlayerID
      · rw [if_pos hn, List.singleton_append, htracked.run_newPlayerID hn]
        obtain ⟨hkeys, haddress⟩ := handleNewPlayerID_keys s.game m
        refine ⟨_, rfl, ⟨es, ?_⟩, fun e he => Or.inl ?_⟩
        · rw [haddress]
          exact htracked.of_keys hkeys
        · rw [← hkeys]
          exact he
      · rw [if_neg hn, List.nil_append, htracked.run_of_ne hu ho]
        exact ⟨_, rfl, ⟨es, htracked⟩, fun e he => Or.inl he⟩

end GameClient

namespace Link

variable {l : Link F} {session : SessionID}

/-- The client processes its next `k` messages, and gets no other entities. -/
theorem receive_keys (session : SessionID) (h : l.client.Tracks) {k : Nat}
    (hk : l.received + k ≤ (sentTo l.server.outbox session).length) :
    ∃ l', exec (step session) l (List.replicate k .receive) = some l' ∧ l'.server = l.server ∧
      l'.received = l.received + k ∧ l'.synced = l.synced ∧
      ∀ e ∈ l'.client.game.keys, e ∈ l.client.game.keys ∨
        e.1 ∈ (sentTo l.server.outbox session).map (·.messageID) := by
  induction k generalizing l with
  | zero => exact ⟨l, rfl, rfl, rfl, rfl, fun e he => Or.inl he⟩
  | succ k ih =>
      have hlt : l.received < (sentTo l.server.outbox session).length := by omega
      obtain ⟨client, hclient, htracks, hkeys⟩ :=
        GameClient.handleMessage_keys h (sentTo l.server.outbox session)[l.received]
      have hstep : step session l .receive =
          some { l with client := client, received := l.received + 1 } := by
        rw [step, List.getElem?_eq_getElem hlt, Option.bind_some, hclient]
        rfl
      obtain ⟨l', hrun, hserver, hreceived, hsynced, hkeys'⟩ :=
        ih (l := { l with client := client, received := l.received + 1 }) htracks
          (by show l.received + 1 + k ≤ (sentTo l.server.outbox session).length; omega)
      refine ⟨l', ?_, hserver, ?_, hsynced, ?_⟩
      · rw [List.replicate_succ, exec_cons, hstep]
        exact hrun
      · rw [hreceived]
        show l.received + 1 + k = _
        omega
      · intro e he
        rcases hkeys' e he with he | he
        · rcases hkeys e he with he | he
          · exact Or.inl he
          · refine Or.inr ?_
            rw [he]
            exact List.mem_map_of_mem (List.getElem_mem hlt)
        · exact Or.inr he

theorem load_step (session : SessionID) (l : Link F) (levelNumber : Int) (clock : Nat → F) :
    ∃ l', step session l (.server (.loadGame levelNumber clock)) = some l' ∧
      l'.server = l.server.loadGame levelNumber clock ∧ l'.client = l.client ∧
      l'.received = l.received :=
  ⟨_, rfl, rfl, rfl, rfl⟩

theorem synchronize_step (session : SessionID) {g : Game F} (hg : l.server.game = some g) :
    ∃ l', step session l (.server .synchronize) = some l' ∧
      l'.server = { l.server with outbox := l.server.outbox ++ l.server.broadcast g } ∧
      l'.client = l.client ∧ l'.received = l.received ∧ l'.synced = true := by
  refine ⟨{ l with server := _, synced := true }, ?_, rfl, rfl, rfl, rfl⟩
  have hallowed : Allowed l.server .synchronize := trivial
  rw [step, if_pos hallowed]
  show Option.map _ l.server.synchronize = _
  rw [GameServer.synchronize_eq hg]
  rfl

/-- Loads of one level, one after the other: the counter moves on, and nothing is sent. -/
theorem load_replicate (session : SessionID) (h : l.server.Ready) (levelNumber : Int)
    (clock : Nat → F) (k : Nat) :
    ∃ l', exec (step session) l (List.replicate k (.server (.loadGame levelNumber clock))) = some l' ∧
      l'.server.Ready ∧ l'.client = l.client ∧ l'.received = l.received ∧
      l'.server.context.nextMessageID = Game.idAfter l.server.context.nextMessageID
        (k * (Game.level levelNumber).entityCount) ∧
      l'.server.playerProfiles = l.server.playerProfiles ∧ l'.server.outbox = l.server.outbox := by
  induction k generalizing l with
  | zero =>
      refine ⟨l, rfl, h, rfl, rfl, ?_, rfl, rfl⟩
      rw [Nat.zero_mul]
      rfl
  | succ k ih =>
      obtain ⟨g, hreloaded⟩ := h.loadGame levelNumber clock
      obtain ⟨dead, es, hserving⟩ := hreloaded.serving
      obtain ⟨l₁, hl₁, hserver, hclient, hreceived⟩ :=
        load_step session l levelNumber clock
      have hready : l₁.server.Ready := by
        rw [hserver]
        exact Or.inr ⟨g, dead, es, hserving⟩
      obtain ⟨l', hrun, hready', hclient', hreceived', hcounter, hprofiles, houtbox⟩ := ih hready
      refine ⟨l', ?_, hready', hclient'.trans hclient, hreceived'.trans hreceived, ?_, ?_, ?_⟩
      · rw [List.replicate_succ, exec_cons, hl₁]
        exact hrun
      · rw [hcounter, hserver, hreloaded.counter, ← Game.idAfter_add, Nat.succ_mul, Nat.add_comm]
      · rw [hprofiles, hserver, hreloaded.playerProfiles]
      · rw [houtbox, hserver, hreloaded.outbox]

/-! ## Too many loads -/

/-- A client joins level 1. -/
def joined : List (Event Int) :=
  [.server (.loadGame 1 fun _ => 0), .server (.handleSessionAccepted 7)]

theorem joined_run :
    (exec (step 7) (start GameServer.zeroed GameServer.zeroed fun _ => 0) joined).isSome = true := by
  decide +kernel

def joinedLink : Link Int :=
  (exec (step 7) (start GameServer.zeroed GameServer.zeroed fun _ => 0) joined).get joined_run

theorem joinedLink_eq :
    exec (step 7) (start GameServer.zeroed GameServer.zeroed fun _ => 0) joined = some joinedLink :=
  (Option.some_get joined_run).symm

/-- The client joins, the level is loaded until the IDs start again, and the client gets the last game. -/
def wrapAround : List (Event Int) :=
  joined ++ (List.replicate 4094 (.server (.loadGame 1 fun _ => 0)) ++
    ([.server (.loadGame 1 fun _ => 0), .server .synchronize] ++ List.replicate 32 .receive))

omit [FloatArith F] in
/-- What is sent to the only player. -/
theorem sentTo_broadcast_one {s : GameServer F} {g : Game F} {p : PlayerProfile}
    (hp : s.playerProfiles = [p]) :
    (sentTo (s.broadcast g) p.session).map (·.messageID) =
      (g.messages.map (·.messageID)).filter fun id => id != messageIDNone := by
  have hone : s.broadcast g =
      (g.messages.filter fun m => m.messageID != messageIDNone).map (p.session, ·) := by
    unfold GameServer.broadcast
    rw [hp]
    exact List.map_eq_flatMap.symm
  rw [hone, sentTo_map_self, List.filter_map]
  rfl

/-- **The bound is needed**: the last game has an obstacle that never reaches the client. -/
theorem lost_on_wraparound :
    ∃ l g, exec (step 7) (start GameServer.zeroed GameServer.zeroed fun _ => 0) wrapAround = some l ∧
      (l.server.playerProfileBySession 7).isSome = true ∧
      l.received = (sentTo l.server.outbox 7).length ∧ l.synced = true ∧ l.server.game = some g ∧
      (∃ o ∈ g.gameObstacles, o.messageID = messageIDNone) ∧
      ∀ o ∈ l.client.game.gameObstacles, o.messageID ≠ messageIDNone := by
  obtain ⟨ms, hlinked⟩ := linked_run joinedLink_eq (by decide +kernel)
  have hjoined := joinedLink_eq
  have hcounter : joinedLink.server.context.nextMessageID = 19 := by decide +kernel
  have hprofiles : joinedLink.server.playerProfiles = [⟨idFirstClient, 7⟩] := by decide +kernel
  have hsent : (sentTo joinedLink.server.outbox 7).map (·.messageID) =
      messageIDEvent :: Game.idsFrom 3 16 := by decide +kernel
  have hkeys : joinedLink.client.game.keys = [] := by decide +kernel
  have hreceived : joinedLink.received = 0 := by decide +kernel
  -- only these facts about the joined state are used from here on
  generalize joinedLink = l₀ at hjoined hlinked hcounter hprofiles hsent hkeys hreceived
  -- 4094 loads of 16 entities: the counter is at 19 + 65504 = 65523
  obtain ⟨l₁, hl₁, hready, hclient₁, hreceived₁, hcounter₁, hprofiles₁, houtbox₁⟩ :=
    load_replicate 7 hlinked.feeding.ready 1 (fun _ => 0) 4094
  have hnext : l₁.server.context.nextMessageID = 65523 := by
    rw [hcounter₁, hcounter, ← UInt16.toNat_inj, idAfter_toNat]
    decide +kernel
  -- the last load, whose obstacles take the IDs 65533 to 2
  obtain ⟨g, hreloaded⟩ := hready.loadGame 1 fun _ => 0
  obtain ⟨dead, es, hserving⟩ := hreloaded.serving
  have hids : g.gameObstacles.map (·.messageID) = [65533, 65534, 65535, 0, 1, 2] := by
    rw [hreloaded.obstacles, hnext]
    decide +kernel
  have hmessages : g.messages.map (·.messageID) =
      Game.idsFrom 65523 10 ++ [65533, 65534, 65535, 0, 1, 2] := by
    unfold Game.messages
    rw [List.map_append, List.map_map, List.map_map]
    have hunits := hreloaded.units
    rw [hnext] at hunits
    exact congrArg₂ (· ++ ·) hunits hids
  obtain ⟨l₂, hl₂, hserver₂, hclient₂, hreceived₂⟩ :=
    load_step 7 l₁ 1 fun _ => 0
  rw [← hserver₂] at hreloaded hserving
  -- the broadcast, which leaves out the obstacle without an ID
  obtain ⟨l₃, hl₃, hserver₃, hclient₃, hreceived₃, hsynced₃⟩ :=
    synchronize_step 7 hserving.game
  have hprofiles₂ : l₂.server.playerProfiles = [⟨idFirstClient, 7⟩] := by
    rw [hreloaded.playerProfiles, hprofiles₁, hprofiles]
  have hall : (sentTo l₃.server.outbox 7).map (·.messageID) = messageIDEvent :: Game.idsFrom 3 16 ++
      (Game.idsFrom 65523 10 ++ [65533, 65534, 65535, 0, 1, 2]).filter
        fun id => id != messageIDNone := by
    have hbroadcast := sentTo_broadcast_one (g := g) hprofiles₂
    rw [hserver₃]
    show (sentTo (l₂.server.outbox ++ _) 7).map _ = _
    rw [sentTo_append, List.map_append, hbroadcast, hmessages, hreloaded.outbox, houtbox₁, hsent]
  have hlength : (sentTo l₃.server.outbox 7).length = 32 := by
    rw [← List.length_map (f := GameMessage.messageID), hall]
    decide +kernel
  have htracks : l₃.client.Tracks := by
    rw [hclient₃, hclient₂, hclient₁]
    exact hlinked.mirrors.tracked
  have hreceived₃' : l₃.received = 0 := by
    rw [hreceived₃, hreceived₂, hreceived₁, hreceived]
  obtain ⟨l₄, hl₄, hserver₄, hreceived₄, hsynced₄, hkeys₄⟩ :=
    receive_keys 7 (k := 32) htracks (by omega)
  have hprofiles₄ : l₄.server.playerProfiles = [⟨idFirstClient, 7⟩] := by
    rw [hserver₄, hserver₃]
    exact hprofiles₂
  refine ⟨l₄, g, ?_, ?_, ?_, hsynced₄.trans hsynced₃, ?_, ?_, ?_⟩
  · have hlast : exec (step 7) l₁ [.server (.loadGame 1 fun _ => 0), .server .synchronize] =
        some l₃ := by
      rw [exec_cons, hl₂, Option.bind_some, exec_cons, hl₃]
      rfl
    unfold wrapAround
    exact exec_append_of hjoined (exec_append_of hl₁ (exec_append_of hlast hl₄))
  · unfold GameServer.playerProfileBySession
    rw [hprofiles₄]
    rfl
  · rw [hreceived₄, hreceived₃', hserver₄, hlength]
  · rw [hserver₄, hserver₃]
    exact hserving.game
  · have hmem : messageIDNone ∈ g.gameObstacles.map (·.messageID) := by
      rw [hids]
      decide
    exact List.mem_map.mp hmem
  · intro o ho hnone
    have hkey : o.key ∈ l₄.client.game.keys := Game.mem_keys.mpr (Or.inr ⟨o, ho, rfl⟩)
    rcases hkeys₄ o.key hkey with hkey | hkey
    · rw [hclient₃, hclient₂, hclient₁, hkeys] at hkey
      cases hkey
    · have hzero : o.key.1 = messageIDNone := hnone
      rw [hzero, hall] at hkey
      exact absurd hkey (by decide +kernel)

/-- **No convergence** without conditions: a client that sees two levels keeps the units of the first;
    and when the IDs have run out, entities of the current level may be missing. -/
theorem no_convergence :
    (∃ l, exec (step 7) (start GameServer.zeroed GameServer.zeroed fun _ => 0) twoLevels = some l ∧
      (l.server.playerProfileBySession 7).isSome = true ∧
      l.received = (sentTo l.server.outbox 7).length ∧ l.synced = true ∧
      some (l.client.game.gameUnits.map (·.messageID)) ≠
        l.server.game.map fun g => g.gameUnits.map (·.messageID)) ∧
    ∃ l g, exec (step 7) (start GameServer.zeroed GameServer.zeroed fun _ => 0) wrapAround = some l ∧
      (l.server.playerProfileBySession 7).isSome = true ∧
      l.received = (sentTo l.server.outbox 7).length ∧ l.synced = true ∧ l.server.game = some g ∧
      (∃ o ∈ g.gameObstacles, o.messageID = messageIDNone) ∧
      ∀ o ∈ l.client.game.gameObstacles, o.messageID ≠ messageIDNone :=
  ⟨stale_after_reload, lost_on_wraparound⟩

end Link

end Footscreen
