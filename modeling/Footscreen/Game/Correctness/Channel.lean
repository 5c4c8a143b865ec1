import Footscreen.Game.Correctness.Replica
import Footscreen.Game.Correctness.ServerRuns
import Mathlib.Algebra.Group.Nat.Defs

/-!
# `Game.Correctness.Channel` — what a session is sent

The part of the server's outbox that goes to one session, in order. What a game sends are server messages
(`Numbered.serverMessages`), provided that its entities have message IDs of their own; the entities of a
level do as long as the counter of 16 bits has not run out (`Reloaded.numbered`).
-/

namespace Footscreen

open FloatArith Lib

variable {F : Type}

/-! ## One session's messages -/

/-- What `session` has been sent, in order. -/
def sentTo (outbox : List (SessionID × GameMessage F)) (session : SessionID) : List (GameMessage F) :=
  (outbox.filter fun x => x.1 == session).map Prod.snd

theorem sentTo_append (o o' : List (SessionID × GameMessage F)) (session : SessionID) :
    sentTo (o ++ o') session = sentTo o session ++ sentTo o' session := by
  unfold sentTo
  rw [List.filter_append, List.map_append]

theorem sentTo_map_self (ms : List (GameMessage F)) (session : SessionID) :
    sentTo (ms.map (session, ·)) session = ms := by
  unfold sentTo
  rw [List.filter_eq_self.mpr (by simp), List.map_map]
  exact List.map_id' ms

theorem sentTo_map_other (ms : List (GameMessage F)) {session session' : SessionID}
    (h : session' ≠ session) : sentTo (ms.map (session', ·)) session = [] := by
  unfold sentTo
  rw [List.filter_eq_nil_iff.mpr (by simp [h])]
  rfl

/-- One message to every player: a session of one profile gets it once. -/
theorem sentTo_players (ps : List PlayerProfile) (hn : (ps.map (·.session)).Nodup)
    (m : GameMessage F) (session : SessionID) :
    sentTo (ps.map fun p => (p.session, m)) session =
      if session ∈ ps.map (·.session) then [m] else [] := by
  induction ps with
  | nil => rfl
  | cons p ps ih =>
      rw [List.map_cons, List.nodup_cons] at hn
      -- the session's profile is the first one, or among the others
      have ih := ih hn.2
      have hcons : sentTo ((p :: ps).map fun p => (p.session, m)) session =
          (if p.session = session then [m] else []) ++
            sentTo (ps.map fun p => (p.session, m)) session := by
        unfold sentTo
        by_cases hp : p.session = session
        · simp [hp]
        · simp [hp]
      rw [hcons, ih]
      simp only [List.map_cons, List.mem_cons]
      by_cases hp : p.session = session
      · rw [hp] at hn
        simp [hp, hn.1]
      · simp [hp, Ne.symm hp]

/-! ## Numbers -/

theorem idAfter_toNat (messageID : MessageID) (n : Nat) :
    (Game.idAfter messageID n).toNat = (messageID.toNat + n) % 2 ^ 16 := by
  induction n generalizing messageID with
  | zero =>
      rw [Nat.add_zero, Nat.mod_eq_of_lt messageID.toNat_lt]
      rfl
  | succ n ih =>
      unfold Game.idAfter
      rw [ih, UInt16.toNat_add]
      show ((messageID.toNat + 1) % 2 ^ 16 + n) % 2 ^ 16 = _
      omega

/-- Consecutive IDs, as numbers, while the counter does not run out. -/
theorem idsFrom_toNat {messageID : MessageID} {n : Nat} (h : messageID.toNat + n ≤ 2 ^ 16) :
    (Game.idsFrom messageID n).map UInt16.toNat = List.range' messageID.toNat n := by
  induction n generalizing messageID with
  | zero => rfl
  | succ n ih =>
      unfold Game.idsFrom
      rw [List.map_cons, List.range'_succ]
      congr 1
      cases n with
      | zero => rfl
      | succ n =>
          have hnext : (messageID + 1).toNat = messageID.toNat + 1 := by
            rw [UInt16.toNat_add]
            show (messageID.toNat + 1) % 2 ^ 16 = _
            omega
          rw [ih (by omega), hnext]

theorem nodup_idsFrom {messageID : MessageID} {n : Nat} (h : messageID.toNat + n ≤ 2 ^ 16) :
    (Game.idsFrom messageID n).Nodup := by
  apply List.Nodup.of_map UInt16.toNat
  rw [idsFrom_toNat h]
  exact List.nodup_range'

theorem mem_idsFrom {messageID id : MessageID} {n : Nat} (h : messageID.toNat + n ≤ 2 ^ 16)
    (hid : id ∈ Game.idsFrom messageID n) :
    messageID.toNat ≤ id.toNat ∧ id.toNat < messageID.toNat + n := by
  have hmem := List.mem_map_of_mem (f := UInt16.toNat) hid
  rw [idsFrom_toNat h, List.mem_range'_1] at hmem
  exact hmem

/-- The entities of a game have message IDs of their own, from `lo` on and below `hi`. -/
structure Numbered (g : Game F) (lo hi : Nat) : Prop where
  units     : (g.gameUnits.map (·.messageID)).Nodup
  obstacles : (g.gameObstacles.map (·.messageID)).Nodup
  unit      : ∀ u ∈ g.gameUnits, lo ≤ u.messageID.toNat ∧ u.messageID.toNat < hi
  obstacle  : ∀ o ∈ g.gameObstacles, lo ≤ o.messageID.toNat ∧ o.messageID.toNat < hi
  first     : messageIDFirst.toNat ≤ lo

/-- The numbers depend on the IDs alone. -/
theorem Numbered.of_ids {g g' : Game F} {lo hi : Nat} (h : Numbered g lo hi)
    (hus : g'.gameUnits.map (·.messageID) = g.gameUnits.map (·.messageID))
    (hos : g'.gameObstacles.map (·.messageID) = g.gameObstacles.map (·.messageID)) :
    Numbered g' lo hi := by
  refine ⟨?_, ?_, ?_, ?_, h.first⟩
  · rw [hus]
    exact h.units
  · rw [hos]
    exact h.obstacles
  · intro u hu
    have hmem := List.mem_map_of_mem (f := GameUnit.messageID) hu
    rw [hus] at hmem
    obtain ⟨v, hv, hid⟩ := List.mem_map.mp hmem
    rw [← hid]
    exact h.unit v hv
  · intro o ho
    have hmem := List.mem_map_of_mem (f := GameObstacle.messageID) ho
    rw [hos] at hmem
    obtain ⟨v, hv, hid⟩ := List.mem_map.mp hmem
    rw [← hid]
    exact h.obstacle v hv

theorem Numbered.first_le_unit {g : Game F} {lo hi : Nat} (h : Numbered g lo hi) {u : GameUnit F}
    (hu : u ∈ g.gameUnits) : messageIDFirst ≤ u.messageID :=
  UInt16.le_iff_toNat_le.mpr (Nat.le_trans h.first (h.unit u hu).1)

theorem Numbered.first_le_obstacle {g : Game F} {lo hi : Nat} (h : Numbered g lo hi)
    {o : GameObstacle F} (ho : o ∈ g.gameObstacles) : messageIDFirst ≤ o.messageID :=
  UInt16.le_iff_toNat_le.mpr (Nat.le_trans h.first (h.obstacle o ho).1)

/-! ## What a game sends -/

/-- The messages of some units, as server messages. -/
theorem units_serverMessages (us : List (GameUnit F)) (h : ∀ u ∈ us, messageIDFirst ≤ u.messageID) :
    ∃ ms : List (ServerMessage F), us.map GameUnit.toMessage = ms.map ServerMessage.toMessage ∧
      unitUpdates ms = us.map (·.entry) ∧ obstacleUpdates ms = [] := by
  induction us with
  | nil => exact ⟨[], rfl, rfl, rfl⟩
  | cons u us ih =>
      obtain ⟨ms, hms, hunits, hobstacles⟩ := ih fun v hv => h v (List.mem_cons_of_mem _ hv)
      refine ⟨.gameUnit u.messageID (h u List.mem_cons_self) u.gameUnitData :: ms, ?_, ?_, ?_⟩
      · rw [List.map_cons, List.map_cons, hms]
        rfl
      · rw [List.map_cons, ← hunits]
        rfl
      · exact hobstacles

theorem obstacles_serverMessages (os : List (GameObstacle F))
    (h : ∀ o ∈ os, messageIDFirst ≤ o.messageID) :
    ∃ ms : List (ServerMessage F), os.map GameObstacle.toMessage = ms.map ServerMessage.toMessage ∧
      unitUpdates ms = [] ∧ obstacleUpdates ms = os.map (·.entry) := by
  induction os with
  | nil => exact ⟨[], rfl, rfl, rfl⟩
  | cons o os ih =>
      obtain ⟨ms, hms, hunits, hobstacles⟩ := ih fun v hv => h v (List.mem_cons_of_mem _ hv)
      refine ⟨.gameObstacle o.messageID (h o List.mem_cons_self) o.gameObstacleData :: ms, ?_, ?_, ?_⟩
      · rw [List.map_cons, List.map_cons, hms]
        rfl
      · exact hunits
      · rw [List.map_cons, ← hobstacles]
        rfl

theorem unitUpdates_append (ms ns : List (ServerMessage F)) :
    unitUpdates (ms ++ ns) = unitUpdates ms ++ unitUpdates ns := List.filterMap_append

theorem obstacleUpdates_append (ms ns : List (ServerMessage F)) :
    obstacleUpdates (ms ++ ns) = obstacleUpdates ms ++ obstacleUpdates ns := List.filterMap_append

/-- **The messages of a game** carry its tables. -/
theorem Numbered.serverMessages {g : Game F} {lo hi : Nat} (h : Numbered g lo hi) :
    ∃ ms : List (ServerMessage F), g.messages = ms.map ServerMessage.toMessage ∧
      unitUpdates ms = g.unitTable ∧ obstacleUpdates ms = g.obstacleTable := by
  obtain ⟨us, hus, huu, huo⟩ := units_serverMessages g.gameUnits fun u hu => h.first_le_unit hu
  obtain ⟨os, hos, hou, hoo⟩ :=
    obstacles_serverMessages g.gameObstacles fun o ho => h.first_le_obstacle ho
  refine ⟨us ++ os, ?_, ?_, ?_⟩
  · unfold Game.messages
    rw [hus, hos, List.map_append]
  · rw [unitUpdates_append, huu, hou, List.append_nil]
    rfl
  · rw [obstacleUpdates_append, huo, hoo, List.nil_append]
    rfl

/-- No message of such a game is held back. -/
theorem Numbered.messageID_ne {g : Game F} {lo hi : Nat} (h : Numbered g lo hi)
    {m : GameMessage F} (hm : m ∈ g.messages) : m.messageID ≠ messageIDNone := by
  have hfirst : messageIDFirst ≤ m.messageID := by
    rcases List.mem_append.mp hm with hm | hm
    · obtain ⟨u, hu, rfl⟩ := List.mem_map.mp hm
      exact h.first_le_unit hu
    · obtain ⟨o, ho, rfl⟩ := List.mem_map.mp hm
      exact h.first_le_obstacle ho
  rintro hnone
  rw [hnone] at hfirst
  exact absurd hfirst (by decide)

/-- **A broadcast** sends a player's session the whole game, and any other session nothing. -/
theorem Numbered.sentTo_broadcast {g : Game F} {lo hi : Nat} {s : GameServer F}
    (h : Numbered g lo hi) (hn : (s.playerProfiles.map (·.session)).Nodup) (session : SessionID) :
    sentTo (s.broadcast g) session =
      if session ∈ s.playerProfiles.map (·.session) then g.messages else [] := by
  unfold GameServer.broadcast
  rw [List.filter_eq_self.mpr fun m hm => bne_iff_ne.mpr (h.messageID_ne hm)]
  induction g.messages with
  | nil =>
      rw [List.flatMap_nil, ite_self]
      rfl
  | cons m ms ih =>
      rw [List.flatMap_cons, sentTo_append, sentTo_players _ hn, ih]
      split
      · rfl
      · rfl

/-! ## What a load numbers -/

/-- The entities of a level that is loaded have the next IDs. -/
theorem GameServer.Reloaded.numbered {s s' : GameServer F} {levelNumber : Int} {g : Game F} {n : Nat}
    (h : s.Reloaded s' levelNumber g)
    (hcounter : s.context.nextMessageID = Game.idAfter messageIDFirst n)
    (hroom : messageIDFirst.toNat + n + (Game.level levelNumber).entityCount ≤ 2 ^ 16) :
    Numbered g (messageIDFirst.toNat + n)
      (messageIDFirst.toNat + n + (Game.level levelNumber).entityCount) := by
  have hunits := h.units
  have hobstacles := h.obstacles
  obtain ⟨hpos, _⟩ := Game.level_counts levelNumber
  unfold Game.Level.entityCount at hroom ⊢
  generalize (Game.level levelNumber).unitCount = uc at hunits hobstacles hroom ⊢
  generalize (Game.level levelNumber).obstacleCount = oc at hobstacles hpos hroom ⊢
  -- there is an obstacle to come, so the counter has not run out
  have hfirst : s.context.nextMessageID.toNat = messageIDFirst.toNat + n := by
    rw [hcounter, idAfter_toNat]
    omega
  have hnext : (Game.idAfter s.context.nextMessageID uc).toNat = messageIDFirst.toNat + n + uc := by
    rw [idAfter_toNat, hfirst]
    omega
  refine ⟨?_, ?_, ?_, ?_, Nat.le_add_right _ _⟩
  · rw [hunits]
    exact nodup_idsFrom (by omega)
  · rw [hobstacles]
    exact nodup_idsFrom (by omega)
  · intro u hu
    have hmem := List.mem_map_of_mem (f := GameUnit.messageID) hu
    rw [hunits] at hmem
    have hrange := mem_idsFrom (by omega) hmem
    omega
  · intro o ho
    have hmem := List.mem_map_of_mem (f := GameObstacle.messageID) ho
    rw [hobstacles] at hmem
    have hrange := mem_idsFrom (by omega) hmem
    omega

end Footscreen
