import Footscreen.Game.Correctness.Channel
import Footscreen.Game.Correctness.Interleaving
import Footscreen.Lib.Arrival

/-!
# `Game.Correctness.Join` — unit indices after joining a running game

Requests name a unit by its index among the player's units. A client's units are in the order in which
their first messages arrived, the server's in the order of the level; an index means the same unit on both
sides if the player's units have first arrived in the server's order. The acceptance of a session sends
them so. A broadcast that runs meanwhile reaches the new session from wherever it is: `InTurn` says of a
step that it does not put one of the player's units in front of an earlier one, and `indices_agree` that
this is enough, in every interleaving.
-/

namespace Footscreen

open FloatArith Lib

variable {F : Type}

/-! ## Indices -/

/-- The message IDs and owners of some units, in order. -/
def owned (us : List (GameUnit F)) : List (MessageID × PlayerID) :=
  us.map fun u => (u.messageID, u.owner)

/-- The message IDs of a player's units, in order. -/
def idsOf (order : List (MessageID × PlayerID)) (playerID : PlayerID) : List MessageID :=
  (order.filter fun e => e.2 == playerID).map Prod.fst

/-- What the index of 8 bits finds among a player's units. -/
def nth (index : UInt8) : UInt8 → List MessageID → Option MessageID
  | _, []        => none
  | i, id :: ids => if i = index then some id else nth index (i + 1) ids

/-- The loop of `unitByIndex` looks among the player's units alone. -/
theorem unitByIndexFrom_messageID (playerID : PlayerID) (index i : UInt8) (us : List (GameUnit F)) :
    (Game.unitByIndexFrom playerID index i us).map (·.messageID) =
      nth index i (idsOf (owned us) playerID) := by
  induction us generalizing i with
  | nil => rfl
  | cons u us ih =>
      unfold Game.unitByIndexFrom
      by_cases howner : u.gameUnitData.owner = playerID
      · have hids : idsOf (owned (u :: us)) playerID = u.messageID :: idsOf (owned us) playerID := by
          unfold idsOf owned GameUnit.owner
          simp [howner]
        rw [if_neg fun hne => hne howner, hids, nth]
        split
        · rfl
        · exact ih (i + 1)
      · have hids : idsOf (owned (u :: us)) playerID = idsOf (owned us) playerID := by
          unfold idsOf owned GameUnit.owner
          simp [howner]
        rw [if_pos howner, hids]
        exact ih i

/-- Indices mean the same in two games whose players have the same units in the same order. -/
theorem unitByIndex_messageID {g : Game F} {playerID : PlayerID}
    (hown : g.ownPlayerID = idNone ∨ g.ownPlayerID = playerID) (index : UInt8) :
    (g.unitByIndex playerID index).map (·.messageID) =
      nth index 0 (idsOf (owned g.gameUnits) playerID) := by
  have hmine : ¬ (g.ownPlayerID ≠ idNone ∧ g.ownPlayerID ≠ playerID) := by
    rintro ⟨hnone, hother⟩
    rcases hown with h | h
    · exact hnone h
    · exact hother h
  unfold Game.unitByIndex
  rw [if_neg hmine]
  exact unitByIndexFrom_messageID _ _ _ _

/-! ## A client's order -/

/-- The messages include one about the unit. -/
def HasUnit (ms : List (GameMessage F)) (messageID : MessageID) : Prop :=
  ∃ m ∈ ms, m.contentType = messageGameUnit ∧ m.messageID = messageID

instance (ms : List (GameMessage F)) (messageID : MessageID) : Decidable (HasUnit ms messageID) := by
  unfold HasUnit
  infer_instance

/-- The unit IDs of some messages, as they arrive. -/
def arrivals (ms : List (ServerMessage F)) : List MessageID := (unitUpdates ms).map Prod.fst

/-- What was sent about a unit has arrived. -/
theorem HasUnit.arrived {ms : List (ServerMessage F)} {messageID : MessageID}
    (h : HasUnit (ms.map ServerMessage.toMessage) messageID) : messageID ∈ arrivals ms := by
  obtain ⟨m, hm, hct, rfl⟩ := h
  obtain ⟨sm, hsm, rfl⟩ := List.mem_map.mp hm
  cases sm with
  | gameUnit messageID hid d =>
      exact List.mem_map.mpr ⟨_, List.mem_filterMap.mpr ⟨_, hsm, rfl⟩, rfl⟩
  | gameObstacle messageID hid d =>
      exact absurd hct (show messageGameObstacle ≠ messageGameUnit by decide)
  | newPlayerID playerID =>
      exact absurd hct (show messageNewPlayerID ≠ messageGameUnit by decide)

/-- The messages are about the units of `order`, with their owners. -/
def About (order : List (MessageID × PlayerID)) (ms : List (ServerMessage F)) : Prop :=
  ∀ e ∈ unitUpdates ms, (e.1, e.2.owner) ∈ order

variable {order : List (MessageID × PlayerID)} {ms : List (ServerMessage F)} {playerID : PlayerID}

/-- Of distinct units, a player's are those with their IDs. -/
theorem owner_iff (hn : (order.map Prod.fst).Nodup) {e : MessageID × PlayerID} (he : e ∈ order) :
    e.1 ∈ idsOf order playerID ↔ e.2 = playerID := by
  unfold idsOf
  rw [List.mem_map]
  constructor
  · rintro ⟨e', he', hid⟩
    rw [List.mem_filter, beq_iff_eq] at he'
    obtain rfl := List.inj_on_of_nodup_map hn he'.1 he hid
    exact he'.2
  · intro howner
    refine ⟨e, ?_, rfl⟩
    rw [List.mem_filter, beq_iff_eq]
    exact ⟨he, howner⟩

/-- A client's units of a player are those that have arrived, in the order of arrival. -/
theorem idsOf_replay {g : Game F} (hunits : g.unitTable = replay (unitUpdates ms))
    (hn : (order.map Prod.fst).Nodup) (habout : About order ms) :
    idsOf (owned g.gameUnits) playerID =
      (arrivals ms).eraseDups.filter fun a => decide (a ∈ idsOf order playerID) := by
  have htable : owned g.gameUnits = g.unitTable.map fun e => (e.1, e.2.owner) := by
    unfold owned Game.unitTable
    rw [List.map_map]
    rfl
  -- an ID says whose the unit is, so the owners may be read off the server's order
  have hfilter : (replay (unitUpdates ms)).filter (fun e => e.2.owner == playerID) =
      (replay (unitUpdates ms)).filter fun e => decide (e.1 ∈ idsOf order playerID) := by
    apply List.filter_congr
    intro e he
    rw [Bool.eq_iff_iff, beq_iff_eq, decide_eq_true_iff]
    exact (owner_iff hn (habout e (mem_of_mem_replay he))).symm
  unfold arrivals
  rw [← keys_replay, List.filter_map]
  unfold idsOf
  rw [htable, hunits, List.filter_map, List.map_map]
  exact congrArg (List.map Prod.fst) hfilter

theorem nodup_idsOf (hn : (order.map Prod.fst).Nodup) : (idsOf order playerID).Nodup :=
  hn.sublist (List.filter_sublist.map Prod.fst)

/-- **Agreement.** If a player's units have first arrived in order, and all of them have, then they are in
    the same order on both sides. -/
theorem idsOf_complete {g : Game F} (hunits : g.unitTable = replay (unitUpdates ms))
    (hn : (order.map Prod.fst).Nodup) (habout : About order ms)
    (horder : InOrder (idsOf order playerID) (arrivals ms))
    (hall : ∀ e ∈ order, e.1 ∈ arrivals ms) :
    idsOf (owned g.gameUnits) playerID = idsOf order playerID := by
  rw [idsOf_replay hunits hn habout]
  apply horder.complete (nodup_idsOf hn)
  intro a ha
  obtain ⟨e, he, rfl⟩ := List.mem_map.mp ha
  exact hall e (List.mem_filter.mp he).1

/-! ## The invariant -/

namespace GameLoop

/-- The message is the `i`-th entity's: that of the unit there, or an obstacle's. -/
def Stands (order : List (MessageID × PlayerID)) (i : Nat) (m : ServerMessage F) : Prop :=
  m.unitUpdate.map (fun e => (e.1, e.2.owner)) = order[i]? ∧ m.playerIDUpdate = none

/-- A step that does not send `session` a unit of its player before that player's earlier units. -/
def InTurn (session : SessionID) (r : GameLoop F) : Event F → Prop
  | .broadcastNext =>
      match r.broadcast with
      | .sending i _ j =>
          ∀ g ∈ r.server.game, ∀ p ∈ r.server.playerProfileBySession session,
            ∀ q ∈ r.server.playerProfiles[j]?, q.session = session →
              ∀ u ∈ g.gameUnits[i]?, u.owner = p.playerID →
                ∀ v ∈ g.gameUnits.take i, v.owner = p.playerID →
                  HasUnit (sentTo r.server.outbox session) v.messageID
      | _ => True
  | _ => True

instance (session : SessionID) (r : GameLoop F) (e : Event F) : Decidable (InTurn session r e) := by
  unfold InTurn
  split
  · split <;> infer_instance
  · infer_instance

/-- The server has the units of `order`, and has sent `session` the messages `ms`: its player's units have
    arrived in order. What is under way continues that. -/
structure Ordered (session : SessionID) (order : List (MessageID × PlayerID)) (r : GameLoop F)
    (ms : List (ServerMessage F)) : Prop where
  ready      : r.server.Ready
  game       : ∃ g lo hi, r.server.game = some g ∧ Numbered g lo hi ∧ owned g.gameUnits = order ∧
    g.ownPlayerID = idNone
  sent       : sentTo r.server.outbox session = ms.map ServerMessage.toMessage
  about      : About order ms
  playerIDs  : ∀ q ∈ ms.filterMap ServerMessage.playerIDUpdate, ∀ p,
    r.server.playerProfileBySession session = some p → q = p.playerID
  inOrder    : ∀ p, r.server.playerProfileBySession session = some p →
    InOrder (idsOf order p.playerID) (arrivals ms)
  silent     : r.server.playerProfileBySession session = none → ms = []
  broadcast  : ∀ i m j, r.broadcast = .sending i m j → ∃ sm, sm.toMessage = m ∧ Stands order i sm
  acceptance : ∀ i, r.acceptance = .entity session i →
    (r.server.playerProfileBySession session).isSome = true ∧ ∀ e ∈ order.take i, e.1 ∈ arrivals ms

variable {session session' : SessionID} {r r' : GameLoop F} {g g' : Game F} {p : PlayerProfile}

theorem owned_ids (us : List (GameUnit F)) :
    (owned us).map Prod.fst = us.map (·.messageID) := by
  unfold owned
  rw [List.map_map]
  rfl

theorem Ordered.distinct (h : Ordered session order r ms) : (order.map Prod.fst).Nodup := by
  obtain ⟨g, lo, hi, _, hnumbered, rfl, _⟩ := h.game
  rw [owned_ids]
  exact hnumbered.units

/-- Each of a game's messages is a server message for its entity. -/
theorem stands_of_messages {lo hi i : Nat} {m : GameMessage F} (h : Numbered g lo hi)
    (hm : g.messages[i]? = some m) : ∃ sm, sm.toMessage = m ∧ Stands (owned g.gameUnits) i sm := by
  unfold Game.messages at hm
  rw [List.getElem?_append] at hm
  split at hm
  · rw [List.getElem?_map] at hm
    obtain ⟨u, hu, rfl⟩ := Option.map_eq_some_iff.mp hm
    refine ⟨.gameUnit u.messageID (h.first_le_unit (List.mem_of_getElem? hu)) u.gameUnitData, rfl,
      ?_, rfl⟩
    unfold owned
    rw [List.getElem?_map, hu]
    rfl
  · next hlength =>
      rw [List.getElem?_map] at hm
      obtain ⟨o, ho, rfl⟩ := Option.map_eq_some_iff.mp hm
      refine ⟨.gameObstacle o.messageID (h.first_le_obstacle (List.mem_of_getElem? ho))
        o.gameObstacleData, rfl, ?_, rfl⟩
      rw [List.length_map, not_lt] at hlength
      unfold owned
      rw [List.getElem?_map, List.getElem?_eq_none hlength]
      rfl

theorem arrivals_snoc (ms : List (ServerMessage F)) (m : ServerMessage F) :
    arrivals (ms ++ [m]) = arrivals ms ++ (m.unitUpdate.map Prod.fst).toList := by
  unfold arrivals
  rw [unitUpdates_snoc, List.map_append]
  cases m.unitUpdate <;> rfl

/-- An arrival in turn, in terms of positions in `order`. -/
theorem inOrder_snoc {i : Nat} {e : MessageID × PlayerID} {playerID : PlayerID} {v : List MessageID}
    (hn : (order.map Prod.fst).Nodup) (h : InOrder (idsOf order playerID) v) (he : order[i]? = some e)
    (hturn : e.2 = playerID → ∀ e' ∈ order.take i, e'.2 = playerID → e'.1 ∈ v) :
    InOrder (idsOf order playerID) (v ++ [e.1]) := by
  by_cases howner : e.2 = playerID
  · -- the player's units: those in front of the `i`-th, this one, and the rest
    have hsplit : idsOf order playerID =
        idsOf (order.take i) playerID ++ e.1 :: idsOf (order.drop (i + 1)) playerID := by
      obtain ⟨hlt, rfl⟩ := List.getElem?_eq_some_iff.mp he
      have hparts : order = order.take i ++ order[i] :: order.drop (i + 1) := by
        rw [List.getElem_cons_drop, List.take_append_drop]
      unfold idsOf
      conv_lhs => rw [hparts]
      have hmine : (order[i] :: order.drop (i + 1)).filter (fun e => e.2 == playerID) =
          order[i] :: (order.drop (i + 1)).filter fun e => e.2 == playerID :=
        List.filter_cons_of_pos (beq_iff_eq.mpr howner)
      rw [List.filter_append, hmine, List.map_append, List.map_cons]
    rw [hsplit] at h ⊢
    apply h.snoc
    · apply nodup_idsOf
      exact hn.sublist ((List.take_sublist i order).map Prod.fst)
    · intro b hb
      obtain ⟨e', he', rfl⟩ := List.mem_map.mp hb
      rw [List.mem_filter, beq_iff_eq] at he'
      exact hturn howner e' he'.1 he'.2
  · apply h.snoc_other
    rw [owner_iff hn (List.mem_of_getElem? he)]
    exact howner

/-- Nothing goes out to the session. -/
theorem Ordered.keep (h : Ordered session order r ms) (hready : r'.server.Ready)
    (hgame : ∀ g, r.server.game = some g → ∃ g', r'.server.game = some g' ∧
      owned g'.gameUnits = owned g.gameUnits ∧
      g'.gameObstacles.map (·.messageID) = g.gameObstacles.map (·.messageID) ∧
      g'.ownPlayerID = g.ownPlayerID)
    (hsent : sentTo r'.server.outbox session = sentTo r.server.outbox session)
    (hprofile : r'.server.playerProfileBySession session = r.server.playerProfileBySession session)
    (hbroadcast : ∀ i m j, r'.broadcast = .sending i m j → ∃ sm, sm.toMessage = m ∧ Stands order i sm)
    (hacceptance : ∀ i, r'.acceptance = .entity session i → r.acceptance = .entity session i) :
    Ordered session order r' ms := by
  refine ⟨hready, ?_, hsent.trans h.sent, h.about, ?_, ?_, ?_, hbroadcast, ?_⟩
  · obtain ⟨g, lo, hi, hg, hnumbered, howned, hown⟩ := h.game
    obtain ⟨g', hg', howned', hobstacles, hown'⟩ := hgame g hg
    have hids := congrArg (List.map Prod.fst) howned'
    rw [owned_ids, owned_ids] at hids
    exact ⟨g', lo, hi, hg', hnumbered.of_ids hids hobstacles, howned'.trans howned, hown'.trans hown⟩
  · rw [hprofile]
    exact h.playerIDs
  · rw [hprofile]
    exact h.inOrder
  · rw [hprofile]
    exact h.silent
  · intro i hi
    rw [hprofile]
    exact h.acceptance i (hacceptance i hi)

/-- One message goes out to the session, in turn. -/
theorem Ordered.send {m : ServerMessage F} (h : Ordered session order r ms)
    (hp : r.server.playerProfileBySession session = some p)
    (hserver : r'.server = r.server.sendTo session m.toMessage)
    (hunit : ∀ e, m.unitUpdate = some e → ∃ i, order[i]? = some (e.1, e.2.owner) ∧
      (e.2.owner = p.playerID → ∀ e' ∈ order.take i, e'.2 = p.playerID → e'.1 ∈ arrivals ms))
    (hplayer : ∀ q, m.playerIDUpdate = some q → q = p.playerID)
    (hbroadcast : ∀ i m j, r'.broadcast = .sending i m j → ∃ sm, sm.toMessage = m ∧ Stands order i sm)
    (hacceptance : ∀ i, r'.acceptance = .entity session i →
      ∀ e ∈ order.take i, e.1 ∈ arrivals (ms ++ [m])) :
    Ordered session order r' (ms ++ [m]) := by
  have hprofile : r'.server.playerProfileBySession session = some p := by
    rw [hserver]
    exact hp
  refine ⟨?_, ?_, ?_, ?_, ?_, ?_, ?_,
    hbroadcast, fun i hi => ⟨?_, hacceptance i hi⟩⟩
  · rw [hserver]
    exact h.ready.of_eq rfl rfl
  · rw [hserver]
    exact h.game
  · rw [hserver]
    show sentTo (r.server.outbox ++ [m.toMessage].map (session, ·)) session = _
    rw [sentTo_append, sentTo_map_self, h.sent, List.map_append]
    rfl
  · intro e he
    rw [unitUpdates_snoc] at he
    rcases List.mem_append.mp he with he | he
    · exact h.about e he
    · obtain ⟨i, hi, _⟩ := hunit e (Option.mem_toList.mp he)
      exact List.mem_of_getElem? hi
  · intro q hq p' hp'
    rw [List.filterMap_append, List.mem_append] at hq
    rw [hprofile] at hp'
    cases hp'
    rcases hq with hq | hq
    · exact h.playerIDs q hq p hp
    · apply hplayer
      cases hm : m.playerIDUpdate with
      | none    => simp [hm] at hq
      | some q' => simp_all
  · intro p' hp'
    rw [hprofile] at hp'
    cases hp'
    rw [arrivals_snoc]
    cases hm : m.unitUpdate with
    | none =>
        rw [Option.map_none, Option.toList_none, List.append_nil]
        exact h.inOrder p hp
    | some e =>
        obtain ⟨i, hi, hturn⟩ := hunit e hm
        exact inOrder_snoc h.distinct (h.inOrder p hp) hi hturn
  · intro hnone
    rw [hprofile] at hnone
    cases hnone
  · rw [hprofile]
    rfl

/-- The game may change, as long as it keeps its entities. -/
theorem Ordered.mapGame {f : Game F → Game F} (h : Ordered session order r ms) (hf : Game.Keeps f) :
    Ordered session order { r with server := r.server.mapGame f } ms := by
  refine h.keep (h.ready.mapGame hf) ?_ rfl rfl h.broadcast fun _ hi => hi
  intro g hg
  obtain ⟨hids, hos, _, hown⟩ := hf g
  refine ⟨f g, congrArg (Option.map f) hg, ?_, by rw [hos], hown⟩
  have hmap := congrArg (List.map fun i => (i.1.1, i.2)) hids
  unfold Game.identities at hmap
  rw [List.map_map, List.map_map] at hmap
  exact hmap

/-! ## One step of the network thread -/

/-- A session other than this one is sent something. -/
theorem sentTo_other (s : GameServer F) (m : GameMessage F) (h : session' ≠ session) :
    sentTo (s.sendTo session' m).outbox session = sentTo s.outbox session := by
  show sentTo (s.outbox ++ [m].map (session', ·)) session = _
  rw [sentTo_append, sentTo_map_other _ h, List.append_nil]

theorem addProfile_other (s : GameServer F) (h : session' ≠ session) :
    (s.addProfile session').playerProfileBySession session = s.playerProfileBySession session := by
  have hnone : [PlayerProfile.mk s.nextPlayerID session'].find? (fun p => p.session == session) =
      none := by simp [h]
  unfold GameServer.playerProfileBySession GameServer.addProfile
  rw [List.find?_append, hnone, Option.or_none]

/-- A new profile. -/
theorem Ordered.addProfile (h : Ordered session order r ms)
    (hnew : r.server.playerProfileBySession session' = none) :
    Ordered session order
      { r with server := r.server.addProfile session', acceptance := .newPlayerID session' } ms := by
  have hready : (r.server.addProfile session').Ready := h.ready.of_eq rfl rfl
  by_cases hsession : session' = session
  · subst hsession
    obtain rfl := h.silent hnew
    refine ⟨hready, h.game, h.sent, h.about, ?_, fun p _ => inOrder_nil, fun _ => rfl,
      h.broadcast, ?_⟩
    · intro q hq
      cases hq
    · intro i hi
      cases hi
  · apply h.keep hready
    · intro g hg
      exact ⟨g, hg, rfl, rfl, rfl⟩
    · rfl
    · exact addProfile_other r.server hsession
    · exact h.broadcast
    · intro i hi
      cases hi

/-- The player's ID. -/
theorem Ordered.sendPlayerID (h : Ordered session order r ms)
    (hp : r.server.playerProfileBySession session' = some p) :
    ∃ ms', Ordered session order
      { r with server := r.server.sendTo session' (newPlayerIDMessage p.playerID),
               acceptance := .entity session' 0 } ms' := by
  by_cases hsession : session' = session
  · subst hsession
    refine ⟨ms ++ [.newPlayerID p.playerID], h.send hp rfl ?_ ?_ h.broadcast
      ?_⟩
    · intro e he
      cases he
    · intro q hq
      exact (Option.some.inj hq).symm
    · intro i hi
      cases hi
      intro e he
      rw [List.take_zero] at he
      cases he
  · have hready : (r.server.sendTo session' (newPlayerIDMessage p.playerID)).Ready :=
      h.ready.of_eq rfl rfl
    refine ⟨ms, h.keep hready (fun g hg => ⟨g, hg, rfl, rfl, rfl⟩) (sentTo_other _ _ hsession) rfl
      h.broadcast ?_⟩
    intro i hi
    cases hi
    exact absurd rfl hsession

/-- An entity that has been sent, after those in front of it. -/
theorem arrived_succ {i : Nat} {m : ServerMessage F} (hm : Stands order i m)
    (h : ∀ e ∈ order.take i, e.1 ∈ arrivals ms) :
    ∀ e ∈ order.take (i + 1), e.1 ∈ arrivals (ms ++ [m]) := by
  intro e he
  rw [arrivals_snoc, List.mem_append]
  rw [List.take_add_one, List.mem_append] at he
  rcases he with he | he
  · exact Or.inl (h e he)
  · right
    rw [Option.mem_toList, ← hm.1] at he
    obtain ⟨e', he', rfl⟩ := Option.map_eq_some_iff.mp he
    rw [he']
    exact List.mem_singleton.mpr rfl

/-- The `i`-th entity, to the session that is being accepted: everything in front of it was sent. -/
theorem Ordered.sendEntity {i : Nat} {m : GameMessage F} (h : Ordered session order r ms)
    (hacceptance : r.acceptance = .entity session' i) (hg : r.server.game = some g)
    (hm : g.messages[i]? = some m) :
    ∃ ms', Ordered session order
      { r with server := r.server.sendTo session' m, acceptance := .entity session' (i + 1) } ms' := by
  by_cases hsession : session' = session
  · subst hsession
    obtain ⟨g', lo, hi, hg', hnumbered, rfl, hown⟩ := h.game
    rw [hg] at hg'
    cases hg'
    obtain ⟨sm, rfl, hstands⟩ := stands_of_messages hnumbered hm
    -- the acceptance itself sends the units in order
    obtain ⟨hsome, hsent⟩ := h.acceptance i hacceptance
    obtain ⟨p, hp⟩ := Option.isSome_iff_exists.mp hsome
    refine ⟨ms ++ [sm], h.send hp rfl (fun e he => ⟨i, ?_, fun _ e' he' _ => hsent e' he'⟩)
      ?_ h.broadcast ?_⟩
    · rw [← hstands.1, he]
      rfl
    · intro q hq
      rw [hstands.2] at hq
      cases hq
    · intro i' hi'
      cases hi'
      exact arrived_succ hstands hsent
  · have hready : (r.server.sendTo session' m).Ready := h.ready.of_eq rfl rfl
    refine ⟨ms, h.keep hready (fun g hg => ⟨g, hg, rfl, rfl, rfl⟩) (sentTo_other _ _ hsession) rfl
      h.broadcast ?_⟩
    intro i hi
    cases hi
    exact absurd rfl hsession

/-! ## One step of the loop -/

/-- The cursor of a broadcast moves on, past an entity or to one. -/
theorem Ordered.moveTo (h : Ordered session order r ms) {b : Broadcast F}
    (hb : ∀ i m j, b = .sending i m j → ∃ sm, sm.toMessage = m ∧ Stands order i sm) :
    Ordered session order { r with broadcast := b } ms :=
  ⟨h.ready, h.game, h.sent, h.about, h.playerIDs, h.inOrder, h.silent, hb, h.acceptance⟩

/-- A broadcast sends its message to the next profile, in turn. -/
theorem Ordered.sendNext {i j : Nat} {m : GameMessage F} {q : PlayerProfile}
    (h : Ordered session order r ms) (hb : r.broadcast = .sending i m j)
    (hq : r.server.playerProfiles[j]? = some q) (hturn : InTurn session r .broadcastNext) :
    ∃ ms', Ordered session order
      { r with server := r.server.sendTo q.session m, broadcast := .sending i m (j + 1) } ms' := by
  obtain ⟨sm, rfl, hstands⟩ := h.broadcast i m j hb
  have hnext : ∀ i' m' j', (Broadcast.sending i sm.toMessage (j + 1) : Broadcast F) =
      .sending i' m' j' → ∃ sm', sm'.toMessage = m' ∧ Stands order i' sm' := by
    intro i' m' j' heq
    cases heq
    exact ⟨sm, rfl, hstands⟩
  by_cases hsession : q.session = session
  · subst hsession
    have hsome : (r.server.playerProfileBySession q.session).isSome = true := by
      unfold GameServer.playerProfileBySession
      rw [List.find?_isSome]
      exact ⟨q, List.mem_of_getElem? hq, beq_iff_eq.mpr rfl⟩
    obtain ⟨p, hp⟩ := Option.isSome_iff_exists.mp hsome
    refine ⟨ms ++ [sm], h.send hp rfl (fun e he => ⟨i, ?_, ?_⟩)
      ?_ hnext ?_⟩
    · rw [← hstands.1, he]
      rfl
    · intro howner e' he' howner'
      -- the units in front of this one are the server's, and the step is in turn
      obtain ⟨g, lo, hi, hg, hnumbered, hown, _⟩ := h.game
      have hunit : order[i]? = some (e.1, e.2.owner) := by
        rw [← hstands.1, he]
        rfl
      rw [← hown] at hunit he'
      unfold owned at hunit he'
      rw [List.getElem?_map] at hunit
      obtain ⟨u, hu, hue⟩ := Option.map_eq_some_iff.mp hunit
      rw [← List.map_take] at he'
      obtain ⟨v, hv, rfl⟩ := List.mem_map.mp he'
      have huowner : u.owner = p.playerID := (congrArg Prod.snd hue).trans howner
      unfold InTurn at hturn
      rw [hb] at hturn
      have hsent := hturn g hg p hp q hq rfl u hu huowner v hv howner'
      rw [h.sent] at hsent
      exact hsent.arrived
    · intro q' hq'
      rw [hstands.2] at hq'
      cases hq'
    · intro i' hi' e he
      rw [arrivals_snoc]
      exact List.mem_append_left _ ((h.acceptance i' hi').2 e he)
  · have hready : (r.server.sendTo q.session sm.toMessage).Ready := h.ready.of_eq rfl rfl
    exact ⟨ms, h.keep hready (fun g hg => ⟨g, hg, rfl, rfl, rfl⟩) (sentTo_other _ _ hsession) rfl hnext
      fun _ hi => hi⟩

/-- A step of a broadcast, in turn. -/
theorem Ordered.broadcastNext (h : Ordered session order r ms)
    (hturn : InTurn session r .broadcastNext) (hstep : BroadcastStep r r') :
    ∃ ms', Ordered session order r' ms' := by
  cases hstep with
  | finish hb hg hm        => exact ⟨ms, h.moveTo (by simp)⟩
  | drop hb hg hm hdropped => exact ⟨ms, h.moveTo (by simp)⟩
  | begin hb hg hm hkept =>
      refine ⟨ms, h.moveTo ?_⟩
      intro i m j heq
      cases heq
      obtain ⟨g, lo, hi, hg', hnumbered, rfl, _⟩ := h.game
      obtain rfl := Option.some.inj (hg.symm.trans hg')
      exact stands_of_messages hnumbered hm
  | passed hb hq => exact ⟨ms, h.moveTo (by simp)⟩
  | send hb hq   => exact h.sendNext hb hq hturn

/-- A step of an acceptance. -/
theorem Ordered.acceptNext (h : Ordered session order r ms) (hstep : AcceptStep r r') :
    ∃ ms', Ordered session order r' ms' := by
  have hidle : Ordered session order { r with acceptance := .idle } ms := by
    refine ⟨h.ready, h.game, h.sent, h.about, h.playerIDs, h.inOrder, h.silent, h.broadcast, ?_⟩
    intro i hi
    cases hi
  cases hstep with
  | refused ha hp     => exact ⟨ms, hidle⟩
  | newPlayerID ha hp => exact h.sendPlayerID hp
  | finish ha hg hm   => exact ⟨ms, hidle⟩
  | send ha hg hm     => exact h.sendEntity ha hg hm

variable [FloatArith F]

/-- **One step**, in turn. -/
theorem Ordered.step {e : Event F} (h : Ordered session order r ms) (hturn : InTurn session r e)
    (hstep : r.step e = some r') : ∃ ms', Ordered session order r' ms' := by
  cases step_effect h.ready hstep with
  | mapGame hf                 => exact ⟨ms, h.mapGame hf⟩
  | synchronize hb             => exact ⟨ms, h.moveTo (by simp)⟩
  | broadcastNext hnext        => exact h.broadcastNext hturn hnext
  | handleSessionAccepted hnew => exact ⟨ms, h.addProfile hnew⟩
  | acceptNext hnext           => exact h.acceptNext hnext

/-! ## Every interleaving -/

variable {unset unset' : Nat → Unset F} {clock clock' : Nat → F} {levelNumber : Int}
  {events : List (Event F)}

/-- After the load nothing has been sent. -/
theorem ordered_start (unset : Nat → Unset F) (levelNumber : Int) (clock : Nat → F)
    (session : SessionID) :
    ∃ order, Ordered session order (start unset levelNumber clock) [] := by
  have hrun : (GameServer.run unset).Ready := Or.inl ⟨rfl, rfl⟩
  obtain ⟨g, hreloaded⟩ := hrun.loadGame levelNumber clock
  obtain ⟨dead, es, hserving⟩ := hreloaded.serving
  have hroom : messageIDFirst.toNat + 0 + (Game.level levelNumber).entityCount ≤ 2 ^ 16 := by
    have hcount := (Game.level_counts levelNumber).2
    have hfirst : messageIDFirst.toNat = 3 := rfl
    omega
  refine ⟨owned g.gameUnits, Or.inr ⟨g, dead, es, hserving⟩,
    ⟨g, _, _, hserving.game, hreloaded.numbered rfl hroom, rfl, hreloaded.ownPlayerID⟩, ?_,
    ?_, ?_, fun p _ => inOrder_nil, fun _ => rfl, ?_,
    ?_⟩
  · show sentTo ((GameServer.run unset).loadGame levelNumber clock).outbox session = _
    rw [hreloaded.outbox]
    rfl
  · intro e he
    cases he
  · intro q hq
    cases hq
  · intro i m j hb
    cases hb
  · intro i hi
    cases hi

theorem ordered_run (h : exec step (start unset levelNumber clock) events = some r)
    (hturn : Guarded step (InTurn session) (start unset levelNumber clock) events) :
    ∃ order ms, Ordered session order r ms := by
  obtain ⟨order, hstart⟩ := ordered_start unset levelNumber clock session
  refine ⟨order, ?_⟩
  refine exec_guarded (I := fun r => ∃ ms, Ordered session order r ms) ?_ ⟨[], hstart⟩ hturn h
  rintro r e r' hturn ⟨ms, hordered⟩ hstep
  exact hordered.step hturn hstep

omit [FloatArith F] in
/-- A player that has been told its ID, and no other, has it. -/
theorem lastPlayerID_eq {q : PlayerID}
    (hall : ∀ q' ∈ ms.filterMap ServerMessage.playerIDUpdate, q' = q)
    (hmem : ∃ m ∈ ms.map ServerMessage.toMessage, m.contentType = messageNewPlayerID) :
    lastPlayerID ms = q := by
  have hne : ms.filterMap ServerMessage.playerIDUpdate ≠ [] := by
    obtain ⟨m, hm, hct⟩ := hmem
    obtain ⟨sm, hsm, rfl⟩ := List.mem_map.mp hm
    cases sm with
    | gameUnit messageID hid d =>
        exact absurd hct (show messageGameUnit ≠ messageNewPlayerID by decide)
    | gameObstacle messageID hid d =>
        exact absurd hct (show messageGameObstacle ≠ messageNewPlayerID by decide)
    | newPlayerID playerID => exact List.ne_nil_of_mem (List.mem_filterMap.mpr ⟨_, hsm, rfl⟩)
  unfold lastPlayerID
  rw [List.getLastD_eq_getLast?, List.getLast?_eq_some_getLast hne]
  exact hall _ (List.getLast_mem hne)

/-- **Indices agree.** In every interleaving whose steps are all in turn, at every point of what the client
    has processed: once that includes its player ID and every unit, each index means the same unit for
    the client and for the server, or none for both. -/
theorem indices_agree (session : SessionID) (unset unset' : Nat → Unset F) (levelNumber : Int)
    (clock clock' : Nat → F) (events : List (Event F))
    (h : exec step (start unset levelNumber clock) events = some r)
    (hturn : Guarded step (InTurn session) (start unset levelNumber clock) events)
    (hp : r.server.playerProfileBySession session = some p) (k : Nat) :
    ∃ c g, (GameClient.new unset' clock').handleMessages ((sentTo r.server.outbox session).take k) =
        some c ∧ r.server.game = some g ∧
      ((∃ m ∈ (sentTo r.server.outbox session).take k, m.contentType = messageNewPlayerID) →
        (∀ u ∈ g.gameUnits, HasUnit ((sentTo r.server.outbox session).take k) u.messageID) →
        ∀ index, (c.game.ownUnitByIndex index).map (·.messageID) =
          (g.unitByIndex p.playerID index).map (·.messageID)) := by
  obtain ⟨order, ms, hordered⟩ := ordered_run h hturn
  obtain ⟨g, lo, hi, hg, hnumbered, howned, hown⟩ := hordered.game
  obtain ⟨c, hc, hmirrors⟩ := GameClient.mirrors_run unset' clock' (ms.take k)
  have htake : (sentTo r.server.outbox session).take k = (ms.take k).map ServerMessage.toMessage := by
    rw [hordered.sent, List.map_take]
  rw [htake]
  refine ⟨c, g, hc, hg, ?_⟩
  intro hid hall index
  -- the only ID the session is ever sent is its player's
  have hplayer : c.game.ownPlayerID = p.playerID := by
    rw [hmirrors.ownPlayerID]
    refine lastPlayerID_eq (fun q hq => hordered.playerIDs q ?_ p hp) hid
    exact ((List.take_sublist k ms).filterMap _).subset hq
  -- what holds of all arrivals holds of those processed so far
  have hprefix : arrivals (ms.take k) <+: arrivals ms := by
    refine ⟨arrivals (ms.drop k), ?_⟩
    unfold arrivals
    rw [← List.map_append, ← unitUpdates_append, List.take_append_drop]
  have habout : About order (ms.take k) := by
    intro e he
    exact hordered.about e (((List.take_sublist k ms).filterMap _).subset he)
  have harrived : ∀ e ∈ order, e.1 ∈ arrivals (ms.take k) := by
    intro e he
    rw [← howned] at he
    obtain ⟨u, hu, rfl⟩ := List.mem_map.mp he
    exact (hall u hu).arrived
  have hids := idsOf_complete hmirrors.units hordered.distinct habout
    ((hordered.inOrder p hp).mono hprefix) harrived
  unfold Game.ownUnitByIndex
  rw [unitByIndex_messageID (Or.inr rfl), unitByIndex_messageID (Or.inl hown), hplayer, hids, howned]

/-! ## In turn, and not -/

/-- A session is accepted, and a broadcast starts behind it. -/
def inTurn : List (Event Int) :=
  [.handleSessionAccepted 7, .synchronize, .acceptNext, .acceptNext, .broadcastNext, .broadcastNext,
   .broadcastNext, .broadcastNext] ++ List.replicate 15 .acceptNext

theorem inTurn_run : (exec step (start GameServer.zeroed 1 fun _ => 0) inTurn).isSome = true := by
  decide +kernel

def inTurnLoop : GameLoop Int := (exec step (start GameServer.zeroed 1 fun _ => 0) inTurn).get inTurn_run

theorem inTurnLoop_eq : exec step (start GameServer.zeroed 1 fun _ => 0) inTurn = some inTurnLoop :=
  (Option.some_get inTurn_run).symm

/-- The client has processed all messages, and its second unit is the server's second one. -/
theorem indices_agree_inTurn :
    ∃ c g, (GameClient.new GameServer.zeroed fun _ => 0).handleMessages
        ((sentTo inTurnLoop.server.outbox 7).take 18) = some c ∧ inTurnLoop.server.game = some g ∧
      (c.game.ownUnitByIndex 1).map (·.messageID) =
        (g.unitByIndex idFirstClient 1).map (·.messageID) := by
  have hprofile : inTurnLoop.server.playerProfileBySession 7 = some ⟨idFirstClient, 7⟩ := by
    decide +kernel
  have hunits : ∀ g ∈ inTurnLoop.server.game, ∀ u ∈ g.gameUnits,
      HasUnit ((sentTo inTurnLoop.server.outbox 7).take 18) u.messageID := by decide +kernel
  obtain ⟨c, g, hc, hg, hagree⟩ := indices_agree 7 GameServer.zeroed GameServer.zeroed 1 (fun _ => 0)
    (fun _ => 0) inTurn inTurnLoop_eq (by decide +kernel) hprofile 18
  exact ⟨c, g, hc, hg, hagree (by decide +kernel) (hunits g hg) 1⟩

/-- A session is accepted after the broadcast's first unit: the broadcast sends it the second one. -/
def cutIn : List (Event Int) :=
  [.synchronize, .broadcastNext, .broadcastNext, .handleSessionAccepted 7, .broadcastNext,
   .broadcastNext] ++ List.replicate 18 .acceptNext

theorem cutIn_run : (exec step (start GameServer.zeroed 1 fun _ => 0) cutIn).isSome = true := by
  decide +kernel

def cutInLoop : GameLoop Int := (exec step (start GameServer.zeroed 1 fun _ => 0) cutIn).get cutIn_run

theorem cutInLoop_handled :
    ((GameClient.new GameServer.zeroed fun _ => 0).handleMessages
      (sentTo cutInLoop.server.outbox 7)).isSome = true := by
  decide +kernel

theorem cutInLoop_loaded : cutInLoop.server.game.isSome = true := by decide +kernel

/-- The client has processed all messages, but its first unit is the server's second one. -/
theorem indices_differ :
    ∃ r c g, exec step (start GameServer.zeroed 1 fun _ => 0) cutIn = some r ∧
      r.server.playerProfileBySession 7 = some ⟨idFirstClient, 7⟩ ∧
      (GameClient.new GameServer.zeroed fun _ => 0).handleMessages (sentTo r.server.outbox 7) = some c ∧
      r.server.game = some g ∧
      (∃ m ∈ sentTo r.server.outbox 7, m.contentType = messageNewPlayerID) ∧
      (∀ u ∈ g.gameUnits, HasUnit (sentTo r.server.outbox 7) u.messageID) ∧
      c.game.ownPlayerID = idFirstClient ∧
      (c.game.ownUnitByIndex 0).map (·.messageID) = some 4 ∧
      (g.unitByIndex idFirstClient 0).map (·.messageID) = some 3 := by
  refine ⟨cutInLoop, _, _, (Option.some_get cutIn_run).symm, by decide +kernel,
    (Option.some_get cutInLoop_handled).symm, (Option.some_get cutInLoop_loaded).symm, ?_, ?_, ?_, ?_,
    ?_⟩
  · decide +kernel
  · decide +kernel
  · decide +kernel
  · decide +kernel
  · decide +kernel

end GameLoop

end Footscreen
