import Footscreen.Lib.Resumption
import Footscreen.Game.Clients

/-!
# `Game.Correctness.Agreement` — clients that come and go

Whatever a client has received when it loses its connection, the next one brings it up to date: its tables
await the server's (`Lib.Awaits`), after any part of what it is being sent. `Numbering` is what the server
keeps, and `Attends` what one client has, of which a call of the server and an event of the client each
keep their part.
-/

namespace Footscreen

open FloatArith Lib

variable {F : Type} {s s' : GameServer F} {n : Nat} {session session' : SessionID} {g g' : Game F}

/-! ## The server -/

/-- A server that has generated `n` message IDs. -/
structure Numbering (s : GameServer F) (n : Nat) : Prop where
  ready    : s.Ready
  counter  : s.context.nextMessageID = Game.idAfter messageIDFirst n
  sessions : (s.playerProfiles.map (·.session)).Nodup
  numbered : ∀ g, s.game = some g → ∃ lo, Numbered g lo (messageIDFirst.toNat + n)
  silent   : ∀ session, session ∉ s.playerProfiles.map (·.session) → sentTo s.outbox session = []

theorem numbering_run [FloatArith F] (unset : Nat → Unset F) : Numbering (GameServer.run unset) 0 :=
  ⟨Or.inl ⟨rfl, rfl⟩, rfl, List.nodup_nil, nofun, fun _ _ => rfl⟩

theorem Numbering.mapGame (h : Numbering s n) {f : Game F → Game F} (hf : Game.Keeps f) :
    Numbering (s.mapGame f) n := by
  refine ⟨h.ready.mapGame hf, h.counter, h.sessions, ?_, h.silent⟩
  intro g' hg'
  obtain ⟨g, hg, rfl⟩ := Option.map_eq_some_iff.mp hg'
  obtain ⟨lo, hnumbered⟩ := h.numbered g hg
  exact ⟨lo, hnumbered.of_ids (hf.sameEntities g).units (hf.sameEntities g).obstacles⟩

/-- A load generates the next IDs. -/
theorem Numbering.load [FloatArith F] {levelNumber : Int} (clock : Nat → F) (h : Numbering s n)
    (hroom : messageIDFirst.toNat + n + (Game.level levelNumber).entityCount ≤ 2 ^ 16) :
    Numbering (s.loadGame levelNumber clock) (n + (Game.level levelNumber).entityCount) ∧
      ∃ g, (s.loadGame levelNumber clock).game = some g ∧
        Numbered g (messageIDFirst.toNat + n)
          (messageIDFirst.toNat + n + (Game.level levelNumber).entityCount) := by
  obtain ⟨g, hreloaded⟩ := h.ready.loadGame levelNumber clock
  obtain ⟨dead, es, hserving⟩ := hreloaded.serving
  have hnumbered := hreloaded.numbered h.counter hroom
  refine ⟨⟨Or.inr ⟨g, dead, es, hserving⟩, ?_, ?_, ?_, ?_⟩, g, hserving.game, hnumbered⟩
  · rw [hreloaded.counter, h.counter, ← Game.idAfter_add]
  · rw [hreloaded.playerProfiles]
    exact h.sessions
  · intro g' hg'
    obtain rfl := Option.some.inj (hserving.game.symm.trans hg')
    rw [← Nat.add_assoc]
    exact ⟨_, hnumbered⟩
  · rw [hreloaded.playerProfiles, hreloaded.outbox]
    exact h.silent

/-- A broadcast reaches the players' sessions. -/
theorem Numbering.synchronize [FloatArith F] (h : Numbering s n) (hs' : s.synchronize = some s') :
    Numbering s' n ∧ ∃ g, s.game = some g ∧ s'.game = some g ∧
      s'.playerProfiles = s.playerProfiles ∧
      ∀ session ∈ s.playerProfiles.map (·.session),
        sentTo s'.outbox session = sentTo s.outbox session ++ g.messages := by
  have hready := GameServer.ready_step (e := .synchronize) h.ready hs'
  obtain ⟨g, hg, rfl⟩ := GameServer.synchronize_inv hs'
  obtain ⟨lo, hnumbered⟩ := h.numbered g hg
  have hbroadcast := hnumbered.sentTo_broadcast h.sessions
  refine ⟨⟨hready, h.counter, h.sessions, h.numbered, ?_⟩, g, hg, hg, rfl, ?_⟩
  · intro session hsession
    show sentTo (s.outbox ++ s.broadcast g) session = []
    rw [sentTo_append, hbroadcast, if_neg hsession, h.silent session hsession]
    rfl
  · intro session hsession
    show sentTo (s.outbox ++ s.broadcast g) session = _
    rw [sentTo_append, hbroadcast, if_pos hsession]

/-- A new session is sent its player's ID and the game; any other session is sent nothing. -/
theorem Numbering.accept [FloatArith F] (h : Numbering s n)
    (hnew : session ∉ s.playerProfiles.map (·.session))
    (hs' : s.handleSessionAccepted session = some s') :
    Numbering s' n ∧ ∃ g, s.game = some g ∧ s'.game = some g ∧
      s'.playerProfileBySession session = some ⟨s.nextPlayerID, session⟩ ∧
      sentTo s'.outbox session = newPlayerIDMessage s.nextPlayerID :: g.messages ∧
      ∀ t, t ≠ session → s'.playerProfileBySession t = s.playerProfileBySession t ∧
        sentTo s'.outbox t = sentTo s.outbox t := by
  have hready := GameServer.ready_step (e := .handleSessionAccepted session) h.ready hs'
  obtain ⟨g, hg, -⟩ : ∃ g, s.game = some g ∧ True := by
    obtain ⟨g, -, hg, -⟩ := GameServer.handleSessionAccepted_inv hs'
    exact ⟨g, hg, trivial⟩
  obtain ⟨p, hp, heq⟩ := GameServer.handleSessionAccepted_eq session hg
  have hnone : s.playerProfileBySession session = none := by
    rw [← Option.not_isSome_iff_eq_none, isSome_profile]
    exact hnew
  rw [GameServer.playerProfileBySession_addProfile, if_pos rfl, hnone] at hp
  obtain rfl := Option.some.inj hp
  rw [heq] at hs'
  obtain rfl := Option.some.inj hs'
  have hprofiles : (s.addProfile session).playerProfiles.map (·.session) =
      s.playerProfiles.map (·.session) ++ [session] := List.map_append
  have hother : ∀ other, other ≠ session →
      sentTo (s.outbox ++ (newPlayerIDMessage s.nextPlayerID :: g.messages).map (session, ·)) other =
        sentTo s.outbox other := by
    intro other hne
    rw [sentTo_append, sentTo_map_other _ hne.symm, List.append_nil]
  have hprofile := s.playerProfileBySession_addProfile session
  refine ⟨⟨hready, h.counter, ?_, h.numbered, ?_⟩, g, hg, hg, ?_, ?_, fun t ht => ⟨?_, hother t ht⟩⟩
  · show ((s.addProfile session).playerProfiles.map (·.session)).Nodup
    rw [hprofiles]
    exact h.sessions.append (List.nodup_singleton _) (List.disjoint_singleton.mpr hnew)
  · intro other hmem
    have hmem : other ∉ (s.addProfile session).playerProfiles.map (·.session) := hmem
    rw [hprofiles, List.mem_append, List.mem_singleton, not_or] at hmem
    exact (hother other hmem.2).trans (h.silent other hmem.1)
  · have hself := hprofile session
    rw [if_pos rfl, hnone] at hself
    exact hself
  · show sentTo (s.outbox ++ (newPlayerIDMessage s.nextPlayerID :: g.messages).map (session, ·))
      session = _
    rw [sentTo_append, sentTo_map_self, h.silent session hnew, List.nil_append]
  · have hrest := hprofile t
    rw [if_neg ht] at hrest
    exact hrest

/-! ## One table of one client -/

/-- The messages `ms` and then `ns` as updates of one table: all are of IDs that have been generated, and the
    client's table, made from `ms`, awaits the server's. -/
structure Awaiting {α : Type} (update : ServerMessage F → Option (MessageID × α)) (fresh current : Bool)
    (n : Nat) (ms ns : List (ServerMessage F)) (t : Option (List (MessageID × α))) : Prop where
  older : ∀ e ∈ (ms ++ ns).filterMap update, e.1.toNat < messageIDFirst.toNat + n
  table : ∀ l ∈ t, Awaits fresh current (replay (ms.filterMap update)) (ns.filterMap update) l

section

variable {α : Type} {update : ServerMessage F → Option (MessageID × α)} {fresh fresh' current : Bool}
  {ms ns ks : List (ServerMessage F)} {t t' : Option (List (MessageID × α))} {l : List (MessageID × α)}
  {m : ServerMessage F}

theorem awaiting_nil (fresh current : Bool) (n : Nat) : Awaiting update fresh current n [] [] none :=
  ⟨nofun, nofun⟩

theorem Awaiting.of_keys (h : Awaiting update fresh current n ms ns t)
    (hkeys : ∀ l' ∈ t', ∃ l ∈ t, l'.map Prod.fst = l.map Prod.fst) :
    Awaiting update fresh false n ms ns t' := by
  refine ⟨h.older, fun l' hl' => ?_⟩
  obtain ⟨l, hl, hkeys⟩ := hkeys l' hl'
  exact (h.table l hl).of_keys hkeys

/-- A new table, of new IDs. -/
theorem Awaiting.load {k : Nat} (h : Awaiting update fresh current n ms ns t)
    (hl : ∀ e ∈ l, messageIDFirst.toNat + n ≤ e.1.toNat) (hfresh : fresh' = true → ms = [] ∧ ns = []) :
    Awaiting update fresh' false (n + k) ms ns (some l) := by
  have hother : ∀ e ∈ (ms ++ ns).filterMap update, e.1 ∉ l.map Prod.fst := by
    intro e he hmem
    obtain ⟨d, hd, heq⟩ := List.mem_map.mp hmem
    have hlow := hl d hd
    have hhigh := h.older e he
    rw [heq] at hlow
    omega
  rw [List.filterMap_append] at hother
  refine ⟨fun e he => Nat.lt_of_lt_of_le (h.older e he) (by omega), ?_⟩
  rintro _ ⟨⟩
  apply awaits_new
  · exact fun e he => hother e (List.mem_append_left _ (mem_of_mem_replay he))
  · exact fun e he => hother e (List.mem_append_right _ he)
  · intro hf
    obtain ⟨rfl, rfl⟩ := hfresh hf
    exact ⟨rfl, rfl⟩

/-- The whole table goes out. -/
theorem Awaiting.send (h : Awaiting update fresh current n ms ns (some l))
    (hn : (l.map Prod.fst).Nodup) (hl : ∀ e ∈ l, e.1.toNat < messageIDFirst.toNat + n)
    (hks : ks.filterMap update = l) (current' : Bool) :
    Awaiting update fresh current' n ms (ns ++ ks) (some l) := by
  constructor
  · rw [← List.append_assoc, List.filterMap_append, hks]
    exact List.forall_mem_append.mpr ⟨h.older, hl⟩
  · rintro _ ⟨⟩
    rw [List.filterMap_append, hks]
    exact ((h.table l rfl).snapshot hn).weaken fun _ => rfl

/-- A message arrives. -/
theorem Awaiting.receive (h : Awaiting update fresh current n ms (m :: ns) t) :
    Awaiting update fresh current n (ms ++ [m]) ns t := by
  constructor
  · rw [List.append_assoc]
    exact h.older
  · intro l hl
    have hawaits := h.table l hl
    rw [List.filterMap_append]
    cases hm : update m with
    | none =>
        rw [List.filterMap_cons_none hm] at hawaits
        rw [List.filterMap_cons_none hm, List.filterMap_nil, List.append_nil]
        exact hawaits
    | some e =>
        rw [List.filterMap_cons_some hm] at hawaits
        rw [List.filterMap_cons_some hm, List.filterMap_nil, replay_snoc]
        exact hawaits.receive

/-- The messages on their way are lost. -/
theorem Awaiting.cut (h : Awaiting update fresh current n ms ns t) :
    Awaiting update fresh false n ms [] t := by
  constructor
  · intro e he
    rw [List.append_nil] at he
    apply h.older e
    rw [List.filterMap_append]
    exact List.mem_append_left _ he
  · exact fun l hl => (h.table l hl).cut

theorem Awaiting.weaken {current' : Bool} (h : Awaiting update fresh current n ms ns t)
    (himp : current' = true → current = true) : Awaiting update fresh current' n ms ns t :=
  ⟨h.older, fun l hl => (h.table l hl).weaken himp⟩

end

/-! ## One client -/

/-- A client that mirrors the messages `ms`, with the messages `ns` of its session on their way. -/
structure Attends (s : GameServer F) (synced : Bool) (n : Nat) (p : Peer F)
    (ms ns : List (ServerMessage F)) : Prop where
  mirrors   : p.client.Mirrors ms
  processed : p.processed = ms.map ServerMessage.toMessage
  offline   : p.session = none → ns = []
  online    : ∀ session, p.session = some session → session ∈ s.playerProfiles.map (·.session) ∧
    p.received ≤ (sentTo s.outbox session).length ∧
    (sentTo s.outbox session).drop p.received = ns.map ServerMessage.toMessage
  playerID  : ∀ session q, p.session = some session → s.playerProfileBySession session = some q →
    lastPlayerID (ms ++ ns) = q.playerID
  fresh     : p.joined = false → p.session = none ∧ ms = []
  units     : Awaiting ServerMessage.unitUpdate (!p.reloaded) (synced && p.session.isSome) n ms ns
    (s.game.map (·.unitTable))
  obstacles : Awaiting ServerMessage.obstacleUpdate (!p.reloaded) (synced && p.session.isSome) n ms ns
    (s.game.map (·.obstacleTable))

variable {p : Peer F} {ms ns : List (ServerMessage F)} {synced : Bool}

/-- A client that has not connected yet. -/
theorem attends_start [FloatArith F] (unset unset' : Nat → Unset F) (clock : Nat → F) :
    Attends (GameServer.run unset) false 0 ⟨GameClient.new unset' clock, none, 0, [], false, false⟩
      [] [] :=
  ⟨GameClient.mirrors_new unset' clock, rfl, fun _ => rfl, nofun, nofun, fun _ => ⟨rfl, rfl⟩,
    awaiting_nil _ _ _, awaiting_nil _ _ _⟩

/-- The game changes values, and nothing is sent. -/
theorem Attends.mapGame {f : Game F → Game F} (h : Attends s synced n p ms ns) (hf : Game.Keeps f) :
    Attends (s.mapGame f) false n p ms ns := by
  have hkeys : ∀ g' ∈ (s.mapGame f).game, ∃ g ∈ s.game, g.SameEntities g' := by
    intro g' hg'
    obtain ⟨g, hg, rfl⟩ := Option.map_eq_some_iff.mp hg'
    exact ⟨g, hg, hf.sameEntities g⟩
  refine ⟨h.mirrors, h.processed, h.offline, h.online, h.playerID, h.fresh, h.units.of_keys ?_,
    h.obstacles.of_keys ?_⟩
  · intro l hl
    obtain ⟨g', hg', rfl⟩ := Option.map_eq_some_iff.mp hl
    obtain ⟨g, hg, hsame⟩ := hkeys g' hg'
    exact ⟨_, Option.mem_map_of_mem _ hg, updating_units.keys hsame⟩
  · intro l hl
    obtain ⟨g', hg', rfl⟩ := Option.map_eq_some_iff.mp hl
    obtain ⟨g, hg, hsame⟩ := hkeys g' hg'
    exact ⟨_, Option.mem_map_of_mem _ hg, updating_obstacles.keys hsame⟩

/-- A load: the new tables share no key with what was sent. -/
theorem Attends.load {k : Nat} (h : Attends s synced n p ms ns)
    (hprofiles : s'.playerProfiles = s.playerProfiles) (houtbox : s'.outbox = s.outbox)
    (hg' : s'.game = some g')
    (hnumbered : Numbered g' (messageIDFirst.toNat + n) (messageIDFirst.toNat + n + k)) :
    Attends s' false (n + k) { p with reloaded := p.reloaded || p.joined } ms ns := by
  have hfresh : (!(p.reloaded || p.joined)) = true → ms = [] ∧ ns = [] := by
    intro hf
    rw [Bool.not_eq_true', Bool.or_eq_false_iff] at hf
    obtain ⟨hnone, hms⟩ := h.fresh hf.2
    exact ⟨hms, h.offline hnone⟩
  refine ⟨h.mirrors, h.processed, h.offline, ?_, ?_, h.fresh, ?_, ?_⟩
  · rw [hprofiles, houtbox]
    exact h.online
  · intro session q hsession hq
    apply h.playerID session q hsession
    unfold GameServer.playerProfileBySession at hq ⊢
    rw [← hprofiles]
    exact hq
  · rw [hg']
    refine h.units.load (fun e he => ?_) hfresh
    obtain ⟨u, hu, rfl⟩ := List.mem_map.mp he
    exact (hnumbered.unit u hu).1
  · rw [hg']
    refine h.obstacles.load (fun e he => ?_) hfresh
    obtain ⟨o, ho, rfl⟩ := List.mem_map.mp he
    exact (hnumbered.obstacle o ho).1

/-- A game's messages announce no player ID. -/
theorem no_playerIDs {ks : List (ServerMessage F)} (h : g.messages = ks.map ServerMessage.toMessage) :
    ks.filterMap ServerMessage.playerIDUpdate = [] := by
  rw [List.filterMap_eq_nil_iff]
  intro m hm
  have hmem : m.toMessage ∈ g.messages := h ▸ List.mem_map_of_mem hm
  cases m with
  | gameUnit _ _ _     => rfl
  | gameObstacle _ _ _ => rfl
  | newPlayerID q =>
      rcases List.mem_append.mp hmem with hmem | hmem
      · obtain ⟨u, -, hu⟩ := List.mem_map.mp hmem
        cases congrArg GameMessage.payload hu
      · obtain ⟨o, -, ho⟩ := List.mem_map.mp hmem
        cases congrArg GameMessage.payload ho

/-- A broadcast reaches a client that is connected. -/
theorem Attends.send (h : Attends s synced n p ms ns) (hsession : p.session = some session)
    (hg : s.game = some g) {lo : Nat} (hnumbered : Numbered g lo (messageIDFirst.toNat + n))
    (hg' : s'.game = some g) (hprofiles : s'.playerProfiles = s.playerProfiles)
    (hsent : sentTo s'.outbox session = sentTo s.outbox session ++ g.messages) (synced' : Bool) :
    ∃ ks, Attends s' synced' n p ms (ns ++ ks) := by
  obtain ⟨ks, hks, hunits, hobstacles⟩ := hnumbered.serverMessages
  obtain ⟨hmem, hle, hdrop⟩ := h.online session hsession
  have hgu := h.units
  have hgo := h.obstacles
  rw [hg] at hgu hgo
  refine ⟨ks, h.mirrors, h.processed, fun hnone => ?_, ?_, ?_, h.fresh, ?_, ?_⟩
  · rw [hsession] at hnone
    cases hnone
  · intro t ht
    obtain rfl := Option.some.inj (hsession.symm.trans ht)
    rw [hprofiles, hsent, List.drop_append_of_le_length hle, hdrop, List.map_append, hks, List.length_append]
    exact ⟨hmem, Nat.le_trans hle (Nat.le_add_right _ _), rfl⟩
  · intro t q ht hq
    have hq' : s.playerProfileBySession t = some q := by
      unfold GameServer.playerProfileBySession at hq ⊢
      rw [← hprofiles]
      exact hq
    rw [← h.playerID t q ht hq', ← List.append_assoc]
    unfold lastPlayerID
    rw [List.filterMap_append, no_playerIDs hks, List.append_nil]
  · rw [hg']
    refine hgu.send ?_ (units_lt hnumbered) hunits _
    rw [Game.unitTable_keys]
    exact hnumbered.units
  · rw [hg']
    refine hgo.send ?_ (obstacles_lt hnumbered) hobstacles _
    rw [Game.obstacleTable_keys]
    exact hnumbered.obstacles

/-- A call that keeps the game, and sends the client's session nothing. -/
theorem Attends.of_same (h : Attends s synced n p ms ns) (hgame : s'.game = s.game)
    (hsame : ∀ t, p.session = some t → t ∈ s.playerProfiles.map (·.session) →
      s'.playerProfileBySession t = s.playerProfileBySession t ∧
        sentTo s'.outbox t = sentTo s.outbox t) {synced' : Bool}
    (hsynced : p.session.isSome = true → synced' = true → synced = true) :
    Attends s' synced' n p ms ns := by
  have hcurrent : (synced' && p.session.isSome) = true → (synced && p.session.isSome) = true := by
    rw [Bool.and_eq_true, Bool.and_eq_true]
    exact fun hboth => ⟨hsynced hboth.2 hboth.1, hboth.2⟩
  refine ⟨h.mirrors, h.processed, h.offline, ?_, ?_, h.fresh, ?_, ?_⟩
  · intro t ht
    obtain ⟨hin, hrest⟩ := h.online t ht
    obtain ⟨hprofile, hsent⟩ := hsame t ht hin
    rw [← isSome_profile, hprofile, isSome_profile, hsent]
    exact ⟨hin, hrest⟩
  · intro t q ht hq
    obtain ⟨hprofile, -⟩ := hsame t ht (h.online t ht).1
    rw [hprofile] at hq
    exact h.playerID t q ht hq
  · rw [hgame]
    exact h.units.weaken hcurrent
  · rw [hgame]
    exact h.obstacles.weaken hcurrent

/-- The client connects: it is sent the whole game again. -/
theorem Attends.connect (h : Attends s synced n p ms ns) (hoffline : p.session = none)
    (hg : s.game = some g) {lo : Nat} (hnumbered : Numbered g lo (messageIDFirst.toNat + n))
    (hg' : s'.game = some g) {q : PlayerProfile} (hq : s'.playerProfileBySession session = some q)
    (hsent : sentTo s'.outbox session = newPlayerIDMessage q.playerID :: g.messages) :
    ∃ ks, Attends s' synced n { p with session := some session, received := 0, joined := true } ms ks := by
  obtain ⟨ks, hks, hunits, hobstacles⟩ := hnumbered.serverMessages
  obtain rfl := h.offline hoffline
  have hgu := h.units
  have hgo := h.obstacles
  rw [hg] at hgu hgo
  refine ⟨.newPlayerID q.playerID :: ks, h.mirrors, h.processed, nofun, ?_, ?_, nofun, ?_, ?_⟩
  · rintro _ ⟨⟩
    refine ⟨isSome_profile.mp (by rw [hq]; rfl), Nat.zero_le _, ?_⟩
    rw [List.drop_zero, hsent, List.map_cons, hks]
    rfl
  · rintro _ q' ⟨⟩ hq'
    obtain rfl := Option.some.inj (hq.symm.trans hq')
    have hlast : ServerMessage.playerIDUpdate (.newPlayerID q.playerID : ServerMessage F) =
      some q.playerID := rfl
    unfold lastPlayerID
    rw [List.filterMap_append, List.filterMap_cons_some hlast, no_playerIDs hks]
    exact List.getLastD_concat
  · have hunits' : (ServerMessage.newPlayerID q.playerID :: ks).filterMap ServerMessage.unitUpdate =
        g.unitTable := hunits
    rw [hg']
    refine hgu.send ?_ (units_lt hnumbered) hunits' _
    rw [Game.unitTable_keys]
    exact hnumbered.units
  · have hobstacles' : (ServerMessage.newPlayerID q.playerID :: ks).filterMap
        ServerMessage.obstacleUpdate = g.obstacleTable := hobstacles
    rw [hg']
    refine hgo.send ?_ (obstacles_lt hnumbered) hobstacles' _
    rw [Game.obstacleTable_keys]
    exact hnumbered.obstacles

/-- The connection is lost. -/
theorem Attends.disconnect (h : Attends s synced n p ms ns) :
    Attends s synced n { p with session := none } ms [] := by
  refine ⟨h.mirrors, h.processed, fun _ => rfl, nofun, nofun, fun hnot => ⟨rfl, (h.fresh hnot).2⟩, ?_, ?_⟩
  · rw [Option.isSome_none, Bool.and_false]
    exact h.units.cut
  · rw [Option.isSome_none, Bool.and_false]
    exact h.obstacles.cut

/-- The client processes the next message, which it can. -/
theorem Attends.receive [FloatArith F] {m : GameMessage F} {client : GameClient F}
    (h : Attends s synced n p ms ns) (hsession : p.session = some session)
    (hm : (sentTo s.outbox session)[p.received]? = some m)
    (hclient : p.client.handleMessage m = some client) :
    ∃ m' ns', Attends s synced n { p with
        client := client, received := p.received + 1, processed := p.processed ++ [m] }
      (ms ++ [m']) ns' := by
  obtain ⟨hmem, hle, hdrop⟩ := h.online session hsession
  have hfirst : (ns.map ServerMessage.toMessage)[0]? = some m := by
    rw [← hdrop, List.getElem?_drop, Nat.add_zero]
    exact hm
  cases ns with
  | nil => cases hfirst
  | cons m' ns =>
      obtain rfl := Option.some.inj hfirst
      obtain ⟨client', hclient', hmirrors⟩ := GameClient.mirrors_step h.mirrors m'
      obtain rfl := Option.some.inj (hclient'.symm.trans hclient)
      have hlt : p.received < (sentTo s.outbox session).length := (List.getElem?_eq_some_iff.mp hm).1
      refine ⟨m', ns, hmirrors, ?_, fun hnone => ?_, ?_, ?_, fun hnot => ?_, h.units.receive,
        h.obstacles.receive⟩
      · rw [h.processed, List.map_append]
        rfl
      · rw [hsession] at hnone
        cases hnone
      · intro t ht
        obtain rfl := Option.some.inj (hsession.symm.trans ht)
        refine ⟨hmem, hlt, ?_⟩
        rw [← List.tail_drop, hdrop]
        rfl
      · intro t q ht hq
        rw [List.append_assoc]
        exact h.playerID t q ht hq
      · have hnone := (h.fresh hnot).1
        rw [hsession] at hnone
        cases hnone

/-! ## All clients -/

namespace Clients

variable {c c' : Clients F}

/-- The server keeps its numbers, and each client what it has. -/
structure Agrees (c : Clients F) (n : Nat) : Prop where
  server : Numbering c.server n
  served : c.synced = true → c.server.game.isSome = true
  peers  : ∀ k, ∃ ms ns, Attends c.server c.synced n (c.peers k) ms ns

variable [FloatArith F]

theorem agrees_start (unset : Nat → Unset F) (clients : Nat → (Nat → Unset F) × (Nat → F)) :
    (start unset clients).Agrees 0 :=
  ⟨numbering_run unset, nofun, fun _ => ⟨[], [], attends_start _ _ _⟩⟩

omit [FloatArith F] in
/-- A change of values. -/
theorem Agrees.mapGame {f : Game F → Game F} (h : c.Agrees n) (hf : Game.Keeps f) :
    Agrees { c with server := c.server.mapGame f, synced := false } n := by
  refine ⟨h.server.mapGame hf, nofun, fun k => ?_⟩
  obtain ⟨ms, ns, hattends⟩ := h.peers k
  exact ⟨ms, ns, hattends.mapGame hf⟩

/-- **One call** of the server. -/
theorem Agrees.server_step {e : GameServer.Event F} (h : c.Agrees n)
    (hallowed : Link.Allowed c.server e)
    (hroom : messageIDFirst.toNat + (n + Link.generatedBy e) ≤ 2 ^ 16)
    (hstep : c.server.step e = some s) :
    Agrees { server := s, peers := fun k => (c.peers k).after e, synced := Link.syncedAfter c.synced e }
      (n + Link.generatedBy e) := by
  cases e with
  | loadGame levelNumber clock =>
      cases hstep
      rw [← Nat.add_assoc] at hroom
      obtain ⟨hserver, g, hg, hnumbered⟩ := h.server.load clock hroom
      refine ⟨hserver, nofun, fun k => ?_⟩
      obtain ⟨ms, ns, hattends⟩ := h.peers k
      exact ⟨ms, ns, hattends.load rfl rfl hg hnumbered⟩
  | startGame clock =>
      cases hstep
      exact h.mapGame (Game.start_keeps clock)
  | proceed clock =>
      cases hstep
      exact h.mapGame (Game.proceed_keeps clock)
  | synchronize =>
      obtain ⟨hserver, g, hg, hg', hprofiles, hsent⟩ := h.server.synchronize hstep
      obtain ⟨lo, hnumbered⟩ := h.server.numbered g hg
      refine ⟨hserver, fun _ => by rw [hg']; rfl, fun k => ?_⟩
      obtain ⟨ms, ns, hattends⟩ := h.peers k
      cases hsession : (c.peers k).session with
      | none =>
          refine ⟨ms, ns, hattends.of_same (hg'.trans hg.symm) (fun t ht => ?_) fun hsome => ?_⟩
          · cases hsession.symm.trans ht
          · rw [hsession] at hsome
            cases hsome
      | some session =>
          obtain ⟨ks, hks⟩ := hattends.send hsession hg hnumbered hg' hprofiles
            (hsent session (hattends.online session hsession).1) true
          exact ⟨ms, ns ++ ks, hks⟩
  | handleSessionAccepted session =>
      have hnew : session ∉ c.server.playerProfiles.map (·.session) := by
        rw [← isSome_profile, Option.not_isSome_iff_eq_none, ← Option.isNone_iff_eq_none]
        exact hallowed
      obtain ⟨hserver, g, hg, hg', -, -, hothers⟩ := h.server.accept hnew hstep
      refine ⟨hserver, fun _ => by rw [hg']; rfl, fun k => ?_⟩
      obtain ⟨ms, ns, hattends⟩ := h.peers k
      refine ⟨ms, ns, hattends.of_same (hg'.trans hg.symm) (fun t _ hin => hothers t ?_) fun _ => id⟩
      rintro rfl
      exact hnew hin
  | handleMessageReceived session m =>
      have hsome : (if (c.server.playerProfileBySession session).isSome
        then c.server.handleMessageReceived session m else none) = some s := hstep
      split at hsome
      · obtain ⟨f, hf, rfl⟩ := h.server.ready.request hallowed hsome
        exact h.mapGame hf
      · cases hsome

omit [FloatArith F] in
/-- One client changes, and the others stay. -/
theorem Agrees.setPeer {k : Nat} {p : Peer F} (h : c.Agrees n)
    (hp : ∃ ms ns, Attends c.server c.synced n p ms ns) : (c.setPeer k p).Agrees n := by
  refine ⟨h.server, h.served, fun j => ?_⟩
  by_cases hj : j = k
  · rw [hj, peers_setPeer_self]
    exact hp
  · rw [peers_setPeer_of_ne c p hj]
    exact h.peers j

theorem Agrees.step {e : Event F} (h : c.Agrees n)
    (hroom : messageIDFirst.toNat + (n + generated [e]) ≤ 2 ^ 16) (hstep : c.step e = some c') :
    c'.Agrees (n + generated [e]) := by
  cases e with
  | server e =>
      rw [Clients.step] at hstep
      split at hstep
      · next hallowed =>
          obtain ⟨s, hs, rfl⟩ := Option.map_eq_some_iff.mp hstep
          exact h.server_step hallowed hroom hs
      · cases hstep
  | connect k session =>
      rw [Clients.step] at hstep
      split at hstep
      · next hallowed =>
          obtain ⟨hoffline, hnone⟩ := hallowed
          obtain ⟨s, hs, rfl⟩ := Option.map_eq_some_iff.mp hstep
          -- for the others, this is a session of someone else
          have hothers : Agrees { c with server := s } n :=
            h.server_step (e := .handleSessionAccepted session) hnone hroom hs
          have hnew : session ∉ c.server.playerProfiles.map (·.session) := by
            rw [← isSome_profile, Option.not_isSome_iff_eq_none, ← Option.isNone_iff_eq_none]
            exact hnone
          obtain ⟨-, g, hg, hg', hprofile, hsent, -⟩ := h.server.accept hnew hs
          obtain ⟨lo, hnumbered⟩ := h.server.numbered g hg
          obtain ⟨ms, ns, hattends⟩ := h.peers k
          obtain ⟨ks, hconnected⟩ := hattends.connect hoffline hg hnumbered hg' hprofile hsent
          exact hothers.setPeer ⟨_, _, hconnected⟩
      · cases hstep
  | receive k =>
      obtain ⟨session, hsession, hstep⟩ := Option.bind_eq_some_iff.mp hstep
      obtain ⟨m, hm, hstep⟩ := Option.bind_eq_some_iff.mp hstep
      obtain ⟨client, hclient, hstep⟩ := Option.bind_eq_some_iff.mp hstep
      obtain rfl := Option.some.inj hstep
      obtain ⟨ms, ns, hattends⟩ := h.peers k
      obtain ⟨m, ns', hattends'⟩ := hattends.receive hsession hm hclient
      exact h.setPeer ⟨_, _, hattends'⟩
  | disconnect k =>
      obtain rfl := Option.some.inj hstep
      obtain ⟨ms, ns, hattends⟩ := h.peers k
      exact h.setPeer ⟨_, _, hattends.disconnect⟩

omit [FloatArith F] in
theorem generated_snoc (events : List (Event F)) (e : Event F) :
    generated (events ++ [e]) = generated events + generated [e] := by
  induction events with
  | nil => exact (Nat.zero_add _).symm
  | cons e' events ih =>
      rw [List.cons_append]
      cases e' with
      | server e' => rw [generated, generated, ih, Nat.add_assoc]
      | _         => exact ih

/-- **Any run** keeps it, as long as the message IDs last. -/
theorem agrees_run {unset : Nat → Unset F} {clients : Nat → (Nat → Unset F) × (Nat → F)}
    {events : List (Event F)} (h : exec step (start unset clients) events = some c)
    (hroom : messageIDFirst.toNat + generated events ≤ 2 ^ 16) : c.Agrees (generated events) := by
  revert hroom
  refine exec_trace (P := fun events c => messageIDFirst.toNat + generated events ≤ 2 ^ 16 →
    c.Agrees (generated events)) (fun _ => agrees_start unset clients) ?_ h
  intro events c e c' _ hc hstep hroom
  rw [generated_snoc] at hroom ⊢
  exact (hc (by omega)).step hroom hstep

/-- What an event is to the server. -/
theorem step_server {e : Event F} (hstep : c.step e = some c') :
    e.call = none ∧ c'.server = c.server ∨
      ∃ call, e.call = some call ∧ call.Requests ∧ c.server.step call = some c'.server := by
  cases e with
  | server call =>
      rw [step] at hstep
      split at hstep
      · next hallowed =>
          obtain ⟨s, hs, rfl⟩ := Option.map_eq_some_iff.mp hstep
          exact Or.inr ⟨call, rfl, hallowed.requests, hs⟩
      · cases hstep
  | connect k session =>
      rw [step] at hstep
      split at hstep
      · obtain ⟨s, hs, rfl⟩ := Option.map_eq_some_iff.mp hstep
        exact Or.inr ⟨_, rfl, trivial, hs⟩
      · cases hstep
  | receive k =>
      obtain ⟨session, -, hstep⟩ := Option.bind_eq_some_iff.mp hstep
      obtain ⟨m, -, hstep⟩ := Option.bind_eq_some_iff.mp hstep
      obtain ⟨client, -, hstep⟩ := Option.bind_eq_some_iff.mp hstep
      cases hstep
      exact Or.inl ⟨rfl, rfl⟩
  | disconnect k =>
      cases hstep
      exact Or.inl ⟨rfl, rfl⟩

/-- The server's part of a run. -/
theorem server_run {unset : Nat → Unset F} {clients : Nat → (Nat → Unset F) × (Nat → F)}
    {events : List (Event F)} (h : exec step (start unset clients) events = some c) :
    exec GameServer.step (GameServer.run unset) (serverCalls events) = some c.server ∧
      ∀ e ∈ serverCalls events, e.Requests :=
  exec_part Clients.server step_server h

/-- A client processes what the server has sent. -/
theorem processed_step {e : Event F} {m : GameMessage F} (k : Nat) (hstep : c.step e = some c')
    (hm : m ∈ (c'.peers k).processed) :
    m ∈ (c.peers k).processed ∨ m ∈ c.server.outbox.map Prod.snd := by
  have hpeer : ∀ {d : Clients F} {j : Nat} {p : Peer F}, m ∈ ((d.setPeer j p).peers k).processed →
      m ∈ p.processed ∧ k = j ∨ m ∈ (d.peers k).processed := by
    intro d j p hm
    by_cases hk : k = j
    · obtain rfl := hk
      rw [peers_setPeer_self] at hm
      exact Or.inl ⟨hm, rfl⟩
    · rw [peers_setPeer_of_ne d p hk] at hm
      exact Or.inr hm
  cases e with
  | server call =>
      rw [step] at hstep
      split at hstep
      · obtain ⟨s, -, rfl⟩ := Option.map_eq_some_iff.mp hstep
        exact Or.inl hm
      · cases hstep
  | connect j session =>
      rw [step] at hstep
      split at hstep
      · obtain ⟨s, -, rfl⟩ := Option.map_eq_some_iff.mp hstep
        rcases hpeer hm with ⟨hm, rfl⟩ | hm
        · exact Or.inl hm
        · exact Or.inl hm
      · cases hstep
  | receive j =>
      obtain ⟨session, -, hstep⟩ := Option.bind_eq_some_iff.mp hstep
      obtain ⟨n, hn, hstep⟩ := Option.bind_eq_some_iff.mp hstep
      obtain ⟨client, -, hstep⟩ := Option.bind_eq_some_iff.mp hstep
      obtain rfl := Option.some.inj hstep
      rcases hpeer hm with ⟨hm, rfl⟩ | hm
      · refine (List.mem_append.mp hm).imp_right fun hm => ?_
        rw [List.mem_singleton.mp hm]
        exact List.map_subset Prod.snd List.filter_sublist.subset (List.mem_of_getElem? hn)
      · exact Or.inl hm
  | disconnect j =>
      obtain rfl := Option.some.inj hstep
      rcases hpeer hm with ⟨hm, rfl⟩ | hm
      · exact Or.inl hm
      · exact Or.inl hm

theorem processed_sent {unset : Nat → Unset F} {clients : Nat → (Nat → Unset F) × (Nat → F)}
    {events : List (Event F)} (h : exec step (start unset clients) events = some c) (k : Nat) :
    ∀ m ∈ (c.peers k).processed, m ∈ c.server.outbox.map Prod.snd := by
  refine exec_trace (P := fun _ (c : Clients F) => ∀ m ∈ (c.peers k).processed,
    m ∈ c.server.outbox.map Prod.snd) (fun _ hm => absurd hm List.not_mem_nil) ?_ h
  intro events c e c' hc ih hstep m hm
  have hsent : m ∈ c.server.outbox.map Prod.snd := (processed_step k hstep hm).elim (ih m) id
  rcases step_server hstep with ⟨-, hserver⟩ | ⟨call, -, hrequests, hserver⟩
  · rw [hserver]
    exact hsent
  · obtain ⟨xs, houtbox, -⟩ :=
      GameServer.sent_step (GameServer.ready_run unset (server_run hc).1) hrequests hserver
    rw [houtbox, List.map_append]
    exact List.mem_append_left _ hsent

/-- What it takes for the client to show the game: it is connected, has processed all that its session was
    sent, and the last broadcast came after the last change. -/
structure CaughtUp (c : Clients F) (k : Nat) (session : SessionID) : Prop where
  online    : (c.peers k).session = some session
  processed : (c.peers k).received = (sentTo c.server.outbox session).length
  synced    : c.synced = true

/-- What a client has after a run that it has caught up in: its session's player ID, and the server's tables
    behind what is left of earlier levels, which is nothing if no level was loaded since it first
    connected. -/
def UpToDate (unset : Nat → Unset F) (events : List (Event F)) (c : Clients F) (k : Nat)
    (session : SessionID) : Prop :=
  ∃ g q oldUnits oldObstacles, c.server.game = some g ∧
    c.server.playerProfileBySession session = some q ∧
    (c.peers k).client.game.ownPlayerID = q.playerID ∧
    (GameServer.run unset).Converged (serverCalls events) (c.peers k).processed g
      (c.peers k).client.game oldUnits oldObstacles ∧
    ((c.peers k).reloaded = false → oldUnits = [] ∧ oldObstacles = [])

/-- A client that has caught up is up to date. -/
theorem Agrees.caughtUp {unset : Nat → Unset F} {clients : Nat → (Nat → Unset F) × (Nat → F)}
    {events : List (Event F)} {k : Nat} (h : c.Agrees n)
    (hrun : exec Clients.step (start unset clients) events = some c) (hk : c.CaughtUp k session) :
    c.UpToDate unset events k session := by
  obtain ⟨ms, ns, hattends⟩ := h.peers k
  obtain ⟨g, hg⟩ := Option.isSome_iff_exists.mp (h.served hk.synced)
  obtain ⟨hmem, -, hdrop⟩ := hattends.online session hk.online
  obtain ⟨q, hq⟩ := Option.isSome_iff_exists.mp (isSome_profile.mpr hmem)
  -- nothing is on its way
  rw [hk.processed, List.drop_length] at hdrop
  obtain rfl := List.map_eq_nil_iff.mp hdrop.symm
  have hcurrent : (c.synced && (c.peers k).session.isSome) = true := by
    rw [hk.synced, hk.online]
    rfl
  obtain ⟨old, hunits, hold, hfresh⟩ :=
    (hattends.units.table _ (Option.mem_map_of_mem _ hg)).whole hcurrent
  obtain ⟨old', hobstacles, hold', hfresh'⟩ :=
    (hattends.obstacles.table _ (Option.mem_map_of_mem _ hg)).whole hcurrent
  have hplayer := hattends.playerID session q hk.online hq
  rw [List.append_nil] at hplayer
  obtain ⟨hserver, hrequests⟩ := server_run hrun
  have hsent := processed_sent hrun k
  refine ⟨g, q, old, old', hg, hq, ?_, ⟨?_, ?_, hold, hold', ?_, ?_⟩, fun hno => ?_⟩
  · rw [hattends.mirrors.ownPlayerID, hplayer]
  · exact hattends.mirrors.units.trans hunits
  · exact hattends.mirrors.obstacles.trans hobstacles
  · apply GameServer.stale_of_replay updating_units hrequests hserver hg hsent _ hold
    rw [hattends.processed, unitUpdates_toMessage]
    exact hunits
  · apply GameServer.stale_of_replay updating_obstacles hrequests hserver hg hsent _ hold'
    rw [hattends.processed, obstacleUpdates_toMessage]
    exact hobstacles
  · rw [hno] at hfresh hfresh'
    exact ⟨hfresh rfl, hfresh' rfl⟩

/-- **Convergence of all clients**, whenever and however often each of them has connected, and wherever it
    was cut off: one that has caught up has its session's player ID, and its tables are the server's behind
    what is left of earlier levels; there is nothing left of them if no level was loaded since it first
    connected. -/
theorem clients_converge (unset : Nat → Unset F) (clients : Nat → (Nat → Unset F) × (Nat → F))
    {events : List (Event F)} (hroom : messageIDFirst.toNat + generated events ≤ 2 ^ 16)
    (h : exec step (start unset clients) events = some c) (k : Nat) (session : SessionID)
    (hk : c.CaughtUp k session) : c.UpToDate unset events k session :=
  (agrees_run h hroom).caughtUp h hk

/-- Clients in memory that is zero. -/
def zeroedClients : Nat → (Nat → Unset Int) × (Nat → Int) := fun _ => (GameServer.zeroed, fun _ => 0)

/-- A client that is cut off after five messages, and connects again when the next level has been loaded. -/
def cutOff : List (Event Int) :=
  [.server (.loadGame 1 fun _ => 0), .connect 0 7] ++ List.replicate 5 (.receive 0) ++
    [.disconnect 0, .server (.loadGame 2 fun _ => 0), .connect 0 9, .server .synchronize] ++
    List.replicate 31 (.receive 0)

theorem cutOff_run : (exec (step (F := Int)) (start GameServer.zeroed zeroedClients) cutOff).isSome = true := by
  decide +kernel

/-- It has the four units of level 1 that it was told of in front of those of level 2. -/
theorem clients_converge_cutOff :
    ∃ c g old, exec step (start GameServer.zeroed zeroedClients) cutOff = some c ∧
      c.server.game = some g ∧ (c.peers 0).client.game.unitTable = old ++ g.unitTable ∧
      old.length = 4 ∧
      ∀ e ∈ old, ∃ g', (GameServer.run GameServer.zeroed).Superseded (serverCalls cutOff) g' ∧
        e ∈ g'.unitTable := by
  obtain ⟨g, _, old, _, hg, _, _, hconverged, _⟩ := clients_converge GameServer.zeroed
    zeroedClients (by decide +kernel) (Option.some_get cutOff_run).symm 0 9
    ⟨by decide +kernel, by decide +kernel, by decide +kernel⟩
  refine ⟨_, g, old, (Option.some_get cutOff_run).symm, hg, hconverged.units, ?_,
    fun e he => (hconverged.staleUnits e he).origin⟩
  have hlength := congrArg List.length hconverged.units
  have hgame := congrArg (Option.map fun g => g.unitTable.length) hg
  have hall : (((exec step (start GameServer.zeroed zeroedClients) cutOff).get
      cutOff_run).peers 0).client.game.unitTable.length = 14 := by
    decide +kernel
  have hten : ((exec step (start GameServer.zeroed zeroedClients) cutOff).get
      cutOff_run).server.game.map (fun g => g.unitTable.length) = some 10 := by
    decide +kernel
  rw [hall, List.length_append] at hlength
  have hcurrent : 10 = g.unitTable.length := Option.some.inj (hten.symm.trans hgame)
  omega

/-! ## Catching up -/

/-- A client that is behind can process its next message. -/
theorem Agrees.can_receive {k : Nat} (h : c.Agrees n) (hsession : (c.peers k).session = some session)
    (hlt : (c.peers k).received < (sentTo c.server.outbox session).length) :
    ∃ client, c.step (.receive k) =
      some (c.setPeer k { c.peers k with
        client := client, received := (c.peers k).received + 1
        processed := (c.peers k).processed ++ [(sentTo c.server.outbox session)[(c.peers k).received]] }) := by
  obtain ⟨ms, ns, hattends⟩ := h.peers k
  obtain ⟨-, -, hdrop⟩ := hattends.online session hsession
  have hm := List.getElem?_eq_getElem hlt
  have hfirst : (ns.map ServerMessage.toMessage)[0]? =
      some (sentTo c.server.outbox session)[(c.peers k).received] := by
    rw [← hdrop, List.getElem?_drop, Nat.add_zero]
    exact hm
  cases ns with
  | nil => cases hfirst
  | cons m ns =>
      obtain ⟨client, hclient, -⟩ := GameClient.mirrors_step hattends.mirrors m
      refine ⟨client, ?_⟩
      rw [Clients.step, hsession, Option.bind_eq_bind, Option.bind_some, hm, Option.bind_eq_bind,
        Option.bind_some, ← Option.some.inj hfirst, hclient]
      rfl

/-- It can process all that it has been sent. -/
theorem Agrees.can_drain {k m : Nat} (h : c.Agrees n) (hroom : messageIDFirst.toNat + n ≤ 2 ^ 16)
    (hsession : (c.peers k).session = some session)
    (hm : (c.peers k).received + m = (sentTo c.server.outbox session).length) :
    ∃ c', exec Clients.step c (List.replicate m (.receive k)) = some c' ∧ c'.server = c.server ∧
      c'.synced = c.synced ∧ (c'.peers k).session = some session ∧
      (c'.peers k).received = (sentTo c.server.outbox session).length ∧ c'.Agrees n := by
  induction m generalizing c with
  | zero => exact ⟨c, rfl, rfl, rfl, hsession, hm, h⟩
  | succ m ih =>
      obtain ⟨client, hstep⟩ := h.can_receive hsession (by omega)
      have hnext := h.step (e := Event.receive k) hroom hstep
      obtain ⟨c', hrun, hserver, hsynced, hsession', hreceived, hagrees⟩ := ih hnext
        (by rw [peers_setPeer_self]; exact hsession)
        (by rw [peers_setPeer_self]; exact (Nat.succ_add_eq_add_succ _ _).trans hm)
      refine ⟨c', ?_, hserver, hsynced, hsession', hreceived, hagrees⟩
      rw [List.replicate_succ, exec_cons, hstep]
      exact hrun

/-- A connected client catches up after a broadcast. -/
theorem Agrees.can_catch_up {k : Nat} (h : c.Agrees n) (hroom : messageIDFirst.toNat + n ≤ 2 ^ 16)
    (hsession : (c.peers k).session = some session) (hg : c.server.game = some g) :
    ∃ m c', exec Clients.step c (.server .synchronize :: List.replicate m (.receive k)) = some c' ∧
      c'.CaughtUp k session ∧ c'.Agrees n := by
  let d : Clients F := { c with
    server := { c.server with outbox := c.server.outbox ++ c.server.broadcast g }, synced := true }
  have hallowed : Link.Allowed c.server .synchronize := trivial
  have hstep : c.step (.server .synchronize) = some d := by
    rw [Clients.step, if_pos hallowed]
    show Option.map _ c.server.synchronize = _
    rw [GameServer.synchronize_eq hg]
    rfl
  have hd : d.Agrees n := h.step (e := Event.server .synchronize) hroom hstep
  obtain ⟨ms, ns, hattends⟩ := hd.peers k
  obtain ⟨-, hle, -⟩ := hattends.online session hsession
  obtain ⟨m, hm⟩ := Nat.exists_eq_add_of_le hle
  obtain ⟨c', hrun, hserver, hsynced, hsession', hreceived, hagrees⟩ :=
    hd.can_drain hroom hsession hm.symm
  refine ⟨m, c', ?_, ⟨hsession', ?_, hsynced⟩, hagrees⟩
  · rw [exec_cons, hstep]
    exact hrun
  · rw [hserver]
    exact hreceived

/-- **Recovery.** From any state of any run in which a level is loaded, as long as the message IDs last, a
    client that is cut off can connect again, and one broadcast later its session's messages are all it has
    to process to be up to date. -/
theorem can_recover (unset : Nat → Unset F) (clients : Nat → (Nat → Unset F) × (Nat → F))
    {events : List (Event F)} (hroom : messageIDFirst.toNat + generated events ≤ 2 ^ 16)
    (h : exec step (start unset clients) events = some c) (hgame : c.server.game.isSome = true)
    (k : Nat) (session : SessionID) (hnew : (c.server.playerProfileBySession session).isNone = true) :
    ∃ m c', exec step c (.disconnect k :: .connect k session :: .server .synchronize ::
        List.replicate m (.receive k)) = some c' ∧ c'.CaughtUp k session ∧
      c'.UpToDate unset (events ++ .disconnect k :: .connect k session :: .server .synchronize ::
        List.replicate m (.receive k)) k session := by
  have hagrees := agrees_run h hroom
  obtain ⟨g, hg⟩ := Option.isSome_iff_exists.mp hgame
  let d := c.setPeer k { c.peers k with session := none }
  have hd : d.Agrees (generated events) := hagrees.step (e := .disconnect k) hroom rfl
  have hoffline : (d.peers k).session = none := by rw [peers_setPeer_self]
  obtain ⟨q, -, haccept⟩ := GameServer.handleSessionAccepted_eq session hg
  obtain ⟨s, haccept, hg'⟩ : ∃ s, c.server.handleSessionAccepted session = some s ∧ s.game = some g :=
    ⟨_, haccept, hg⟩
  let d' := { d with server := s }.setPeer k
    { d.peers k with session := some session, received := 0, joined := true }
  have hstep : d.step (.connect k session) = some d' := by
    rw [step, if_pos ⟨hoffline, hnew⟩]
    show Option.map _ (c.server.handleSessionAccepted session) = _
    rw [haccept]
    rfl
  have hsession : (d'.peers k).session = some session := by rw [peers_setPeer_self]
  have hd' : d'.Agrees (generated events) := hd.step (e := .connect k session) hroom hstep
  obtain ⟨m, c', hrun, hcaught, hagrees'⟩ := hd'.can_catch_up hroom hsession hg'
  have hdisconnect : c.step (.disconnect k) = some d := rfl
  have hrun' : exec step c (.disconnect k :: .connect k session :: .server .synchronize ::
      List.replicate m (.receive k)) = some c' := by
    rw [exec_cons, hdisconnect, Option.bind_some, exec_cons, hstep]
    exact hrun
  exact ⟨m, c', hrun', hcaught, hagrees'.caughtUp (exec_append_of h hrun') hcaught⟩

/-- The client of `cutOff` can be cut off once more. -/
theorem can_recover_cutOff :
    ∃ c m c' g, exec step (start GameServer.zeroed zeroedClients) cutOff = some c ∧
      exec step c (.disconnect 0 :: .connect 0 11 :: .server .synchronize ::
        List.replicate m (.receive 0)) = some c' ∧ c'.CaughtUp 0 11 ∧ c'.server.game = some g ∧
      g.unitTable <:+ (c'.peers 0).client.game.unitTable := by
  obtain ⟨m, c', hrun, hcaught, g, _, old, _, hg, _, _, hconverged, _⟩ := can_recover
    GameServer.zeroed zeroedClients (by decide +kernel) (Option.some_get cutOff_run).symm
    (by decide +kernel) 0 11 (by decide +kernel)
  exact ⟨_, m, c', g, (Option.some_get cutOff_run).symm, hrun, hcaught, hg, old,
    hconverged.units.symm⟩

end Clients

end Footscreen
