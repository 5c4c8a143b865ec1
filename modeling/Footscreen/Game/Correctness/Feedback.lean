import Footscreen.Game.Correctness.Uplink

/-!
# `Game.Correctness.Feedback` — a player sees what it asks for

The way there and the way back together: the requests of all clients go to the server over their
connections, and what the server sends to one of them comes back to it (`ByteLink.host`). A session is told
its player's ID, once (`Introduced`); so the client and the server mean the same unit by an index as soon
as their tables agree, and `player_sees` puts the two directions together.
-/

namespace Footscreen

open Lib

variable {F : Type}

/-! ## Introductions -/

/-- The player ID that a message tells. -/
def GameMessage.introduction (m : GameMessage F) : Option PlayerID :=
  match m.payload with
  | .newPlayerID p => some p
  | _              => none

theorem introduction_of_mem_messages {g : Game F} {m : GameMessage F} (hm : m ∈ g.messages) :
    m.introduction = none := by
  rcases List.mem_append.mp hm with hm | hm
  · obtain ⟨u, -, rfl⟩ := List.mem_map.mp hm
    rfl
  · obtain ⟨o, -, rfl⟩ := List.mem_map.mp hm
    rfl

theorem introductions_toMessage (ms : List (ServerMessage F)) :
    (ms.map ServerMessage.toMessage).filterMap GameMessage.introduction =
      ms.filterMap ServerMessage.playerIDUpdate := by
  rw [List.filterMap_map]
  refine List.filterMap_congr fun m _ => ?_
  cases m <;> rfl

namespace GameServer

variable {s s' : GameServer F} {session : SessionID} {e : Event F}

/-- The session has been told its player's ID, once, and a session without a player nothing. -/
def Introduced (s : GameServer F) (session : SessionID) : Prop :=
  (sentTo s.outbox session).filterMap GameMessage.introduction =
    ((s.playerProfileBySession session).map (·.playerID)).toList

/-- Nobody is introduced by a broadcast. -/
theorem introductions_broadcast (s : GameServer F) (g : Game F) (session : SessionID) :
    (sentTo (s.broadcast g) session).filterMap GameMessage.introduction = [] := by
  rw [List.filterMap_eq_nil_iff]
  intro m hm
  obtain ⟨x, hx, rfl⟩ := List.mem_map.mp hm
  obtain ⟨n, hn, hx⟩ := List.mem_flatMap.mp (List.mem_filter.mp hx).1
  obtain ⟨p, -, rfl⟩ := List.mem_map.mp hx
  exact introduction_of_mem_messages (List.mem_filter.mp hn).1

theorem Introduced.of_eq (h : s.Introduced session) (houtbox : s'.outbox = s.outbox)
    (hprofiles : s'.playerProfiles = s.playerProfiles) : s'.Introduced session := by
  unfold Introduced playerProfileBySession
  rw [houtbox, hprofiles]
  exact h

/-- A new session is told its player's ID, before the game. -/
theorem Introduced.accept {t : SessionID} (h : s.Introduced session)
    (hnew : (s.playerProfileBySession t).isNone = true) (hstep : s.handleSessionAccepted t = some s') :
    s'.Introduced session := by
  obtain ⟨g, -, hg, -⟩ := handleSessionAccepted_inv hstep
  obtain ⟨p, hp, heq⟩ := handleSessionAccepted_eq t hg
  obtain rfl := Option.some.inj (heq.symm.trans hstep)
  show (sentTo (s.outbox ++ (newPlayerIDMessage p.playerID :: g.messages).map (t, ·))
    session).filterMap _ = (((s.addProfile t).playerProfileBySession session).map _).toList
  rw [sentTo_append, List.filterMap_append]
  by_cases ht : session = t
  · obtain rfl := ht
    have hfirst : (sentTo s.outbox session).filterMap GameMessage.introduction = [] := by
      rw [Option.isNone_iff_eq_none] at hnew
      rw [Introduced, hnew] at h
      exact h
    have hnone : g.messages.filterMap GameMessage.introduction = [] :=
      List.filterMap_eq_nil_iff.mpr fun _ => introduction_of_mem_messages
    rw [hfirst, sentTo_map_self, List.filterMap_cons, hnone, hp]
    rfl
  · rw [sentTo_map_other _ (Ne.symm ht), playerProfileBySession_addProfile, if_neg ht,
      List.filterMap_nil, List.append_nil]
    exact h

variable [FloatArith F]

/-- **One call** of a server whose sessions are accepted once. -/
theorem Introduced.step (h : s.Introduced session) (hready : s.Ready) (hallowed : Link.Allowed s e)
    (hstep : s.step e = some s') : s'.Introduced session := by
  cases e with
  | loadGame levelNumber clock =>
      cases hstep
      obtain ⟨g, hreloaded⟩ := hready.loadGame levelNumber clock
      exact h.of_eq hreloaded.outbox rfl
  | startGame clock =>
      cases hstep
      exact h.of_eq rfl rfl
  | proceed clock =>
      cases hstep
      exact h.of_eq rfl rfl
  | synchronize =>
      obtain ⟨g, -, rfl⟩ := synchronize_inv hstep
      show (sentTo (s.outbox ++ s.broadcast g) session).filterMap _ = _
      rw [sentTo_append, List.filterMap_append, introductions_broadcast, List.append_nil]
      exact h
  | handleSessionAccepted t => exact h.accept hallowed hstep
  | handleMessageReceived t m =>
      have hsome : (if (s.playerProfileBySession t).isSome
        then s.handleMessageReceived t m else none) = some s' := hstep
      split at hsome
      · obtain ⟨f, -, rfl⟩ := hready.request hallowed hsome
        exact h.of_eq rfl rfl
      · cases hsome

end GameServer

/-! ## The message level -/

namespace Link

variable [FloatArith F] {l : Link F} {session : SessionID} {events : List (Event F)}
  {unset unset' : Nat → Unset F} {clock : Nat → F}

theorem introduced_run (h : exec (step session) (start unset unset' clock) events = some l) :
    l.server.Introduced session := by
  have hstart : (GameServer.run unset).Ready ∧ (GameServer.run unset).Introduced session :=
    ⟨Or.inl ⟨rfl, rfl⟩, rfl⟩
  refine (exec_invariant (I := fun l : Link F => l.server.Ready ∧ l.server.Introduced session)
    ?_ hstart h).2
  rintro l e l' ⟨hready, hintroduced⟩ hstep
  cases e with
  | server e =>
      rw [step] at hstep
      split at hstep
      · next hallowed =>
          obtain ⟨s', hs', rfl⟩ := Option.map_eq_some_iff.mp hstep
          exact ⟨GameServer.ready_step hready hs', hintroduced.step hready hallowed hs'⟩
      · cases hstep
  | receive =>
      obtain ⟨m, -, hstep⟩ := Option.bind_eq_some_iff.mp hstep
      obtain ⟨client, -, rfl⟩ := Option.map_eq_some_iff.mp hstep
      exact ⟨hready, hintroduced⟩

omit [FloatArith F] in
/-- A client that has processed everything knows who it is. -/
theorem Linked.ownPlayerID {ms : List (ServerMessage F)} {n : Nat} {q : PlayerProfile}
    (h : Linked session l ms n) (hintroduced : l.server.Introduced session)
    (hq : l.server.playerProfileBySession session = some q)
    (hprocessed : l.received = (sentTo l.server.outbox session).length) :
    l.client.game.ownPlayerID = q.playerID := by
  rw [GameServer.Introduced, hq, h.feeding.sent, introductions_toMessage] at hintroduced
  have hall : ms.take l.received = ms := by
    rw [hprocessed, h.feeding.sent, List.length_map, List.take_length]
  rw [h.mirrors.ownPlayerID, hall, lastPlayerID, hintroduced]
  rfl

end Link

/-! ## The same index -/

/-- The entries of a player's units, in the order of the units. -/
theorem Game.entries_unitsOf (g : Game F) (p : PlayerID) :
    (g.unitsOf p).map GameUnit.entry = g.unitTable.filter fun e => e.2.owner == p := by
  unfold Game.unitTable Game.unitsOf
  rw [List.filter_map]
  rfl

/-- Where the tables agree, an index leads to the same entry. -/
theorem entry_of_index {g g' : Game F} {p : PlayerID} (htable : g'.unitTable = g.unitTable)
    (hown : g.ownPlayerID = idNone) (hown' : g'.ownPlayerID = p) (i : UInt8) :
    (g'.ownUnitByIndex i).map (·.entry) = (g.unitByIndex p i).map (·.entry) := by
  unfold Game.ownUnitByIndex
  rw [hown', Game.unitByIndex_of_own (Or.inr hown'), Game.unitByIndex_of_own (Or.inl hown),
    ← List.getElem?_map, ← List.getElem?_map, Game.entries_unitsOf, Game.entries_unitsOf, htable]

/-! ## Both ways -/

namespace ByteLink

variable [FloatBytes F] [FloatArith F] {w w' : ByteLink F} {session t : SessionID}
  {es : List (Event F)}

omit [FloatBytes F] [FloatArith F] in
theorem serverCalls_append (es fs : List (Event F)) :
    serverCalls (es ++ fs) = serverCalls es ++ serverCalls fs := List.filterMap_append

omit [FloatBytes F] [FloatArith F] in
theorem mem_serverCalls {e : GameServer.Event F} : e ∈ serverCalls es ↔ .server e ∈ es := by
  unfold serverCalls
  rw [List.mem_filterMap]
  constructor
  · rintro ⟨e', he', hcall⟩
    cases e' with
    | server e' =>
        obtain rfl := Option.some.inj hcall
        exact he'
    | deliver _ _ _ | network _ => cases hcall
  · exact fun he => ⟨_, he, rfl⟩

/-- What an event is to the server. -/
theorem step_server {e : Event F} (hstep : step session w e = some w') :
    e.call = none ∧ w'.server = w.server ∨
      ∃ c, e.call = some c ∧ c.Requests ∧ w.server.step c = some w'.server := by
  cases e with
  | server c =>
      rw [step] at hstep
      split at hstep
      · next hallowed =>
          obtain ⟨s', hs', rfl⟩ := Option.map_eq_some_iff.mp hstep
          exact Or.inr ⟨c, rfl, hallowed.requests, hs'⟩
      · cases hstep
  | deliver headerPadding padding unset =>
      obtain ⟨m, -, hstep⟩ := Option.bind_eq_some_iff.mp hstep
      obtain ⟨d, -, hstep⟩ := Option.bind_eq_some_iff.mp hstep
      obtain ⟨c, -, hstep⟩ := Option.bind_eq_some_iff.mp hstep
      cases hstep
      exact Or.inl ⟨rfl, rfl⟩
  | network e =>
      obtain ⟨c, -, hstep⟩ := Option.bind_eq_some_iff.mp hstep
      obtain ⟨client, -, hstep⟩ := Option.bind_eq_some_iff.mp hstep
      cases hstep
      exact Or.inl ⟨rfl, rfl⟩

/-- The server's part of a run. -/
theorem server_run (h : exec (step session) w es = some w') :
    exec GameServer.step w.server (serverCalls es) = some w'.server :=
  (exec_part ByteLink.server step_server h).1

/-- What the server hears. -/
theorem heard_serverCalls (session t : SessionID) (es : List (Event F)) :
    Uplink.heard (host session) t es = Uplink.heard GameServer.host t (serverCalls es) := by
  induction es with
  | nil => rfl
  | cons e es ih =>
      rw [← List.singleton_append, serverCalls_append, Uplink.heard_append, Uplink.heard_append, ih]
      cases e <;> rfl

omit [FloatBytes F] [FloatArith F] in
/-- Messages are received without generating an ID. -/
theorem generated_filter (es : List (Event F)) :
    generated (es.filter fun e => e.received.isNone) = generated es := by
  induction es with
  | nil => rfl
  | cons e es ih =>
      cases e with
      | server e =>
          cases e with
          | handleMessageReceived _ _ => exact ih.trans (Nat.zero_add _).symm
          | loadGame _ _ | startGame _ | proceed _ | synchronize | handleSessionAccepted _ =>
              exact congrArg (Link.generatedBy _ + ·) ih
      | deliver _ _ _ | network _ => exact ih

end ByteLink

namespace Uplink

open ByteLink

variable [FloatBytes F] [FloatArith F] {u : Uplink (ByteLink F)} {session : SessionID}

/-- **A player sees what it asks for.** The server, the connections of all clients to it, and what it sends to
    one of them, in a run in which no read or write fails, no message ID is generated twice, all loads come
    before the client has connected or asked for anything and no other session plays for its player. Once
    the network can do nothing more for the client in either direction and the last broadcast came after
    the last change, the client knows its own player's ID, each index means the same unit to it and to the
    server, it has the unit's data as the server has it, and the unit is highlighted as the client last
    asked and, while it lives and has not arrived, accelerated as it last asked. -/
theorem player_sees (session : SessionID) (unset unset' : Nat → Unset F) (clock : Nat → F)
    (loop loop' : ReadLoop) (before after : List (Event F (ByteLink.Event F)))
    (hroom : messageIDFirst.toNat + generated (calls (before ++ after)) ≤ 2 ^ 16)
    (hsound : ∀ e ∈ before ++ after, e.isSound = true)
    (hsound' : ∀ e ∈ calls (before ++ after), e.isSound = true)
    (h : exec (step (ByteLink.host session)) (start (ByteLink.start unset unset' clock loop) loop')
      (before ++ after) = some u)
    (hasked : asked session before = []) (hlevel : ∀ e ∈ serverCalls (calls after), e.InLevel)
    {q : PlayerProfile} (hq : u.host.server.playerProfileBySession session = some q)
    (honly : ∀ q' ∈ u.host.server.playerProfiles, q'.playerID = q.playerID → q'.session = session)
    (hrest : Resting (ByteLink.host session) u session)
    (hrest' : ∀ e, e.isProgress = true → u.host.step session e = none)
    (hsynced : u.host.synced = true) (hreloaded : u.host.reloaded = false) :
    ∃ g, u.host.server.game = some g ∧ u.host.client.game.ownPlayerID = q.playerID ∧ ∀ i,
      (u.host.client.game.ownUnitByIndex i).map (·.entry) =
        (g.unitByIndex q.playerID i).map (·.entry) ∧
      ∀ v, g.unitByIndex q.playerID i = some v →
        v.Steered (Controls.lastMove (asked session (before ++ after)) i)
          (Controls.lastHighlight (asked session (before ++ after)) i) := by
  have hopen := open_run hsound h session
  rw [exec_append] at h
  obtain ⟨u₁, h₁, h₂⟩ := Option.bind_eq_some_iff.mp h
  obtain ⟨es₁, htraced₁⟩ := traced_run h₁
  obtain ⟨es₂, htraced⟩ := htraced₁.run_append h₂
  -- the way back
  have hcalls := htraced.calls
  have hroom' : messageIDFirst.toNat + generated (es₁ ++ es₂) ≤ 2 ^ 16 := by
    rw [← generated_filter]
    exact hcalls ▸ hroom
  have hsounds : ∀ e ∈ es₁ ++ es₂, e.isSound = true := by
    intro e he
    cases hreceived : e.received with
    | none =>
        apply hsound'
        rw [← hcalls]
        exact List.mem_filter.mpr ⟨he, Option.isNone_iff_eq_none.mpr hreceived⟩
    | some x =>
        cases e with
        | server e => rfl
        | deliver _ _ _ | network _ => cases hreceived
  obtain ⟨events', l, hrun, hgenerated, -, hrefines⟩ := refines_run htraced.run
  rw [← hgenerated] at hroom'
  obtain ⟨sms, hlinked⟩ := Link.linked_run hrun hroom'
  have hprocessed := hrefines.processed hlinked (ByteLink.open_run hsounds htraced.run) hrest'
  have hq' := hq
  rw [← hrefines.server] at hq'
  obtain ⟨g, old, _, hg, hunits, -, -, -, hold⟩ := hlinked.current (by rw [hq']; rfl) hprocessed
    (hrefines.synced.trans hsynced)
  have hownClient := hlinked.ownPlayerID (Link.introduced_run hrun) hq' hprocessed
  rw [(hold (hrefines.reloaded.trans hreloaded)).1, List.nil_append] at hunits
  rw [hrefines.client] at hunits hownClient
  rw [hrefines.server] at hg
  -- the way there
  have hserver := server_run htraced.run
  have hheard := fun t => (heard_serverCalls session t (es₁ ++ es₂)).symm.trans (htraced.heard t)
  have hcommands := GameServer.commands_of_heard fun t => ⟨_, hheard t⟩
  obtain ⟨c, -, hcontrolled⟩ := GameServer.controlled_of_run hcommands hserver
  have hlistening : Listening (ByteLink.host session) u session := by
    intro r
    obtain ⟨s', hs', -⟩ := hcontrolled.ready.request_effect (toMessage_isRequest r) session
    have hcall : u.host.server.step (.handleMessageReceived session r.toMessage) = some s' :=
      (if_pos (by rw [hq]; rfl)).trans hs'
    show (u.host.step session (.server (.handleMessageReceived session r.toMessage))).isSome = true
    have hallowed : Link.Allowed u.host.server (.handleMessageReceived session r.toMessage) :=
      toMessage_isRequest r
    rw [ByteLink.step, if_pos hallowed, hcall]
    rfl
  have hunheard : heard GameServer.host session (serverCalls es₁) = [] := by
    rw [← heard_serverCalls session, htraced₁.heard session, hasked, List.take_nil]
    rfl
  have hall := (heard_serverCalls session session (es₁ ++ es₂)).symm.trans
    (htraced.heard_all hopen hlistening hrest)
  rw [serverCalls_append] at hcommands hserver hall
  refine ⟨g, hg, hownClient, fun i =>
    ⟨entry_of_index hunits (hcontrolled.units g hg).1 hownClient i, fun v hv => ?_⟩⟩
  refine GameServer.obeys_last hcommands hserver hunheard ?_ hall hq honly hg hv
  refine GameServer.inLevel_of (fun e he => hcommands e (List.mem_append_right _ he)) ?_
  intro e he hown
  apply hlevel e
  rw [mem_serverCalls, ← htraced₁.calls_after htraced]
  exact List.mem_filter.mpr ⟨mem_serverCalls.mp he, hown⟩

/-- A game of level 1, with one player. -/
def joined : List (Event Int32 (ByteLink.Event Int32)) :=
  [.call (.server (.loadGame 1 fun _ => 0)), .call (.server (.handleSessionAccepted 7))]

/-- The player points at a unit, and then receives a broadcast. -/
def pointed : List (Event Int32 (ByteLink.Event Int32)) :=
  [.ask 7 (.highlight ⟨0, true⟩) 0 (fun _ => 0) .zero, .network 7 (.transmit 0 8),
   .network 7 (.completeWrite 0 false), .network 7 (.completeRead .success),
   .network 7 (.completeRead .success), .call (.server .synchronize)] ++
    (oneLevel.drop 3).map .call

theorem pointed_run : (exec (step (ByteLink.host 7)) (start (ByteLink.start zeroed zeroed (fun _ => 0)
    Connection.idleLoop) Connection.idleLoop) (joined ++ pointed)).isSome = true := by
  decide +kernel

/-- The two ends, when everything has arrived. -/
def seen : Uplink (ByteLink Int32) :=
  (exec (step (ByteLink.host 7)) (start (ByteLink.start zeroed zeroed (fun _ => 0)
    Connection.idleLoop) Connection.idleLoop) (joined ++ pointed)).get pointed_run

theorem seen_eq : exec (step (ByteLink.host 7)) (start (ByteLink.start zeroed zeroed (fun _ => 0)
    Connection.idleLoop) Connection.idleLoop) (joined ++ pointed) = some seen :=
  (Option.some_get pointed_run).symm

theorem player_sees_pointed :
    seen.host.client.game.ownPlayerID = idFirstClient ∧
      ∃ w, seen.host.client.game.ownUnitByIndex 0 = some w ∧
        w.gameUnitData.isHighlighted = true := by
  have hq : seen.host.server.playerProfileBySession 7 = some ⟨idFirstClient, 7⟩ := by decide +kernel
  have hrest' := at_rest_of 7 (w := seen.host) (by decide +kernel) (by decide +kernel)
    (by decide +kernel)
  obtain ⟨g, hg, hown, hseen⟩ := player_sees 7 zeroed zeroed (fun _ => 0) Connection.idleLoop
    Connection.idleLoop joined pointed (by decide +kernel) (by decide +kernel)
    (by decide +kernel) seen_eq rfl (by decide +kernel) hq (by decide +kernel)
    (resting_of (by decide +kernel) (by decide +kernel)) hrest' (by decide +kernel)
    (by decide +kernel)
  obtain ⟨hentry, hsteered⟩ := hseen 0
  have hunit : (seen.host.server.game.bind (·.unitByIndex idFirstClient 0)).isSome = true := by
    decide +kernel
  rw [hg, Option.bind_some] at hunit
  obtain ⟨v, hv⟩ := Option.isSome_iff_exists.mp hunit
  rw [hv] at hentry
  obtain ⟨w, hw, hvw⟩ := Option.map_eq_some_iff.mp hentry
  refine ⟨hown, w, hw, ?_⟩
  have hdata : w.gameUnitData = v.gameUnitData := congrArg Prod.snd hvw
  rw [hdata]
  exact (hsteered v hv).isHighlighted

end Uplink

end Footscreen
