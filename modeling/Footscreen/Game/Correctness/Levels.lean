import Footscreen.Game.Correctness.Origins

/-!
# `Game.Correctness.Levels` — a client across level loads

A server and one of its clients (`Link`), over any run of loads, starts, frames, requests, broadcasts and
accepted sessions. A load replaces the server's game by one with new message IDs, and no message says that
an entity is gone: the client keeps the entities of earlier levels, in front of the current one's.
`client_converges` says that this is all it keeps: behind them its tables are the server's, as long as the
16 bits of the ID counter last, and what it has left of an earlier level is what it was last sent of it. A
client that joined after the last load has nothing left.
-/

namespace Footscreen

open FloatArith Lib

variable {F : Type}

/-- A server and one of its clients. -/
structure Link (F : Type) where
  server   : GameServer F
  client   : GameClient F
  /-- How many of its messages the client has processed. -/
  received : Nat
  /-- The last broadcast came after the last change. -/
  synced   : Bool
  /-- A level was loaded after the client had connected. -/
  reloaded : Bool

namespace Link

inductive Event (F : Type) where
  | server (e : GameServer.Event F)
  | receive

def Event.call : Event F → Option (GameServer.Event F)
  | .server e => some e
  | .receive  => none

/-- The calls of the server. -/
def serverCalls (events : List (Event F)) : List (GameServer.Event F) := events.filterMap Event.call

/-- A session is accepted once, and clients send requests. -/
def Allowed (s : GameServer F) : GameServer.Event F → Prop
  | .handleSessionAccepted session => (s.playerProfileBySession session).isNone = true
  | .handleMessageReceived _ m     => GameServer.IsRequest m
  | _                              => True

instance (s : GameServer F) (e : GameServer.Event F) : Decidable (Allowed s e) :=
  match e with
  | .handleSessionAccepted _   => inferInstanceAs (Decidable (_ = true))
  | .handleMessageReceived _ m => inferInstanceAs (Decidable (GameServer.IsRequest m))
  | .loadGame _ _ | .startGame _ | .proceed _ | .synchronize => inferInstanceAs (Decidable True)

theorem Allowed.requests {s : GameServer F} {e : GameServer.Event F} (h : Allowed s e) : e.Requests := by
  cases e with
  | handleMessageReceived _ _ => exact h
  | loadGame _ _ | startGame _ | proceed _ | synchronize | handleSessionAccepted _ => trivial

/-- Loads, starts, frames and requests are changes; an accepted session is sent the game as it is. -/
def syncedAfter (synced : Bool) : GameServer.Event F → Bool
  | .synchronize             => true
  | .handleSessionAccepted _ => synced
  | _                        => false

def reloadedAfter (connected reloaded : Bool) : GameServer.Event F → Bool
  | .loadGame _ _ => reloaded || connected
  | _             => reloaded

variable [FloatArith F]

def step (session : SessionID) (l : Link F) : Event F → Option (Link F)
  | .server e =>
      if Allowed l.server e then
        (l.server.step e).map fun s =>
          { l with server := s, synced := syncedAfter l.synced e,
                   reloaded := reloadedAfter (l.server.playerProfileBySession session).isSome
                     l.reloaded e }
      else none
  | .receive =>
      (sentTo l.server.outbox session)[l.received]?.bind fun m =>
        (l.client.handleMessage m).map fun client =>
          { l with client := client, received := l.received + 1 }

/-- A server that has just started, and a client that has not connected yet. -/
def start (unset unset' : Nat → Unset F) (clock : Nat → F) : Link F where
  server   := GameServer.run unset
  client   := GameClient.new unset' clock
  received := 0
  synced   := false
  reloaded := false

omit [FloatArith F]

/-- How many message IDs an event generates. -/
def generatedBy : GameServer.Event F → Nat
  | .loadGame levelNumber _ => (Game.level levelNumber).entityCount
  | _                       => 0

/-- How many message IDs the loads of a run generate. -/
def generated : List (Event F) → Nat
  | []                => 0
  | .server e :: rest => generatedBy e + generated rest
  | .receive :: rest  => generated rest

theorem generated_snoc (events : List (Event F)) (e : Event F) :
    generated (events ++ [e]) = generated events + generated [e] := by
  induction events with
  | nil => exact (Nat.zero_add _).symm
  | cons e' events ih =>
      cases e' with
      | server e' =>
          rw [List.cons_append, generated, generated, ih, Nat.add_assoc]
      | receive => exact ih

end Link

/-! ## One table -/

/-- The client's table, once it has processed everything, against the server's: older entries `old`, none
    if there was no reload, and then the server's, once it has been sent. -/
def Follows {α : Type} (synced reloaded : Bool) (r t : List (MessageID × α)) : Prop :=
  ∃ old, Trails old r t ∧ (synced = true → r = old ++ t) ∧ (reloaded = false → old = [])

variable {α : Type} {synced reloaded : Bool} {r t t' : List (MessageID × α)}

/-- A change of values. -/
theorem Follows.of_keys (h : Follows synced reloaded r t)
    (hkeys : t'.map Prod.fst = t.map Prod.fst) : Follows false reloaded r t' := by
  obtain ⟨old, htrails, _, hold⟩ := h
  refine ⟨old, htrails.of_keys hkeys, ?_, hold⟩
  intro hfalse
  cases hfalse

/-- A new table. -/
theorem follows_new (hother : ∀ e ∈ r, e.1 ∉ t.map Prod.fst) (hr : reloaded = false → r = []) :
    Follows false reloaded r t := by
  refine ⟨r, trails_of_other hother, ?_, hr⟩
  intro hfalse
  cases hfalse

/-- The whole table is sent. -/
theorem Follows.snapshot (h : Follows synced reloaded r t) (hn : (t.map Prod.fst).Nodup)
    (synced' : Bool) : Follows synced' reloaded (upserts r t) t := by
  obtain ⟨old, htrails, _, hold⟩ := h
  rw [htrails.snapshot hn]
  exact ⟨old, Trails.current htrails.older, fun _ => rfl, hold⟩

/-! ## The server's half -/

/-- A server that has generated `n` message IDs and sent `session` the messages `ms`. -/
structure Feeding (session : SessionID) (s : GameServer F) (ms : List (ServerMessage F)) (n : Nat)
    (synced reloaded : Bool) : Prop where
  ready     : s.Ready
  counter   : s.context.nextMessageID = Game.idAfter messageIDFirst n
  sessions  : (s.playerProfiles.map (·.session)).Nodup
  numbered  : ∀ g, s.game = some g → ∃ lo, Numbered g lo (messageIDFirst.toNat + n)
  sent      : sentTo s.outbox session = ms.map ServerMessage.toMessage
  units     : ∀ e ∈ unitUpdates ms, e.1.toNat < messageIDFirst.toNat + n
  obstacles : ∀ e ∈ obstacleUpdates ms, e.1.toNat < messageIDFirst.toNat + n
  silent    : session ∉ s.playerProfiles.map (·.session) → ms = []
  served    : synced = true → s.game.isSome = true
  follows   : ∀ g, s.game = some g →
    Follows (synced && decide (session ∈ s.playerProfiles.map (·.session))) reloaded
        (replay (unitUpdates ms)) g.unitTable ∧
      Follows (synced && decide (session ∈ s.playerProfiles.map (·.session))) reloaded
        (replay (obstacleUpdates ms)) g.obstacleTable

variable {session session' : SessionID} {s s' : GameServer F} {ms : List (ServerMessage F)} {n : Nat}
  {g g' : Game F}

theorem isSome_profile :
    (s.playerProfileBySession session).isSome = true ↔
      session ∈ s.playerProfiles.map (·.session) := by
  unfold GameServer.playerProfileBySession
  rw [List.find?_isSome, List.mem_map]
  simp only [beq_iff_eq]

/-- The keys of a replica that was sent the tables of a game are the game's or older. -/
theorem units_lt {lo : Nat} (h : Numbered g lo (messageIDFirst.toNat + n)) :
    ∀ e ∈ g.unitTable, e.1.toNat < messageIDFirst.toNat + n := by
  intro e he
  obtain ⟨u, hu, rfl⟩ := List.mem_map.mp he
  exact (h.unit u hu).2

theorem obstacles_lt {lo : Nat} (h : Numbered g lo (messageIDFirst.toNat + n)) :
    ∀ e ∈ g.obstacleTable, e.1.toNat < messageIDFirst.toNat + n := by
  intro e he
  obtain ⟨o, ho, rfl⟩ := List.mem_map.mp he
  exact (h.obstacle o ho).2

/-- The game may change, as long as it keeps its entities. -/
theorem Feeding.mapGame {f : Game F → Game F} (h : Feeding session s ms n synced reloaded)
    (hf : Game.Keeps f) : Feeding session (s.mapGame f) ms n false reloaded := by
  have hgame : ∀ g', (s.mapGame f).game = some g' → ∃ g, s.game = some g ∧ g.SameEntities g' := by
    intro g' hg'
    obtain ⟨g, hg, rfl⟩ := Option.map_eq_some_iff.mp hg'
    exact ⟨g, hg, hf.sameEntities g⟩
  refine ⟨h.ready.mapGame hf, h.counter, h.sessions, ?_, h.sent, h.units, h.obstacles,
    h.silent, ?_, ?_⟩
  · intro g' hg'
    obtain ⟨g, hg, hsame⟩ := hgame g' hg'
    obtain ⟨lo, hnumbered⟩ := h.numbered g hg
    exact ⟨lo, hnumbered.of_ids hsame.units hsame.obstacles⟩
  · intro hfalse
    cases hfalse
  · intro g' hg'
    obtain ⟨g, hg, hsame⟩ := hgame g' hg'
    obtain ⟨hunits, hobstacles⟩ := h.follows g hg
    rw [Bool.false_and]
    exact ⟨hunits.of_keys (updating_units.keys hsame), hobstacles.of_keys (updating_obstacles.keys hsame)⟩

/-- A load: the new tables share no key with what was sent. -/
theorem Feeding.load [FloatArith F] {levelNumber : Int} {clock : Nat → F}
    (h : Feeding session s ms n synced reloaded)
    (hroom : messageIDFirst.toNat + n + (Game.level levelNumber).entityCount ≤ 2 ^ 16) :
    Feeding session (s.loadGame levelNumber clock) ms (n + (Game.level levelNumber).entityCount) false
      (reloaded || (s.playerProfileBySession session).isSome) := by
  obtain ⟨g, hreloaded⟩ := h.ready.loadGame levelNumber clock
  obtain ⟨dead, es, hserving⟩ := hreloaded.serving
  have hnumbered := hreloaded.numbered h.counter hroom
  have hgame : ∀ g', (s.loadGame levelNumber clock).game = some g' → g = g' := by
    intro g' hg'
    exact Option.some.inj (hserving.game.symm.trans hg')
  -- before it has connected, the client has been sent nothing
  have hempty : (reloaded || (s.playerProfileBySession session).isSome) = false → ms = [] := by
    intro hfalse
    apply h.silent
    rw [← isSome_profile, (Bool.or_eq_false_iff.mp hfalse).2]
    exact Bool.false_ne_true
  refine ⟨Or.inr ⟨g, dead, es, hserving⟩, ?_, ?_, ?_, ?_, ?_, ?_,
    ?_, ?_, ?_⟩
  · rw [hreloaded.counter, h.counter, ← Game.idAfter_add]
  · rw [hreloaded.playerProfiles]
    exact h.sessions
  · intro g' hg'
    obtain rfl := hgame g' hg'
    refine ⟨messageIDFirst.toNat + n, ?_⟩
    rw [← Nat.add_assoc]
    exact hnumbered
  · rw [hreloaded.outbox]
    exact h.sent
  · intro e he
    exact Nat.lt_of_lt_of_le (h.units e he) (by omega)
  · intro e he
    exact Nat.lt_of_lt_of_le (h.obstacles e he) (by omega)
  · rw [hreloaded.playerProfiles]
    exact h.silent
  · intro hfalse
    cases hfalse
  · intro g' hg'
    obtain rfl := hgame g' hg'
    rw [Bool.false_and]
    refine ⟨follows_new ?_ ?_,
      follows_new ?_ ?_⟩
    · intro e he hmem
      rw [Game.unitTable_keys] at hmem
      obtain ⟨u, hu, hid⟩ := List.mem_map.mp hmem
      -- the level's IDs are beyond all that were sent
      have hlow := (hnumbered.unit u hu).1
      have hhigh := h.units e (mem_of_mem_replay he)
      rw [← hid] at hhigh
      omega
    · intro hfalse
      rw [hempty hfalse]
      rfl
    · intro e he hmem
      rw [Game.obstacleTable_keys] at hmem
      obtain ⟨o, ho, hid⟩ := List.mem_map.mp hmem
      have hlow := (hnumbered.obstacle o ho).1
      have hhigh := h.obstacles e (mem_of_mem_replay he)
      rw [← hid] at hhigh
      omega
    · intro hfalse
      rw [hempty hfalse]
      rfl

/-- The whole game goes out to the session, behind messages that name no entity. -/
theorem Feeding.send {ns : List (ServerMessage F)} {lo : Nat}
    (h : Feeding session s ms n synced reloaded) (hg : s.game = some g)
    (hnumbered : Numbered g lo (messageIDFirst.toNat + n))
    (hunits : unitUpdates ns = g.unitTable) (hobstacles : obstacleUpdates ns = g.obstacleTable)
    (hready : s'.Ready) (hgame : s'.game = some g)
    (hcounter : s'.context.nextMessageID = s.context.nextMessageID)
    (hsessions : (s'.playerProfiles.map (·.session)).Nodup)
    (hmem : session ∈ s'.playerProfiles.map (·.session))
    (hsent : sentTo s'.outbox session = sentTo s.outbox session ++ ns.map ServerMessage.toMessage)
    (synced' : Bool) : Feeding session s' (ms ++ ns) n synced' reloaded := by
  obtain ⟨hfollows, hfollows'⟩ := h.follows g hg
  have hgame' : ∀ g', s'.game = some g' → g = g' :=
    fun g' hg' => Option.some.inj (hgame.symm.trans hg')
  refine ⟨hready, hcounter.trans h.counter, hsessions, ?_, ?_, ?_,
    ?_, fun hno => absurd hmem hno, ?_, ?_⟩
  · intro g' hg'
    obtain rfl := hgame' g' hg'
    exact ⟨lo, hnumbered⟩
  · rw [hsent, h.sent, List.map_append]
  · intro e he
    rw [unitUpdates_append, hunits] at he
    rcases List.mem_append.mp he with he | he
    · exact h.units e he
    · exact units_lt hnumbered e he
  · intro e he
    rw [obstacleUpdates_append, hobstacles] at he
    rcases List.mem_append.mp he with he | he
    · exact h.obstacles e he
    · exact obstacles_lt hnumbered e he
  · intro _
    rw [hgame]
    rfl
  · intro g' hg'
    obtain rfl := hgame' g' hg'
    rw [unitUpdates_append, obstacleUpdates_append, replay_append, replay_append, hunits, hobstacles]
    refine ⟨hfollows.snapshot ?_ _, hfollows'.snapshot ?_ _⟩
    · rw [Game.unitTable_keys]
      exact hnumbered.units
    · rw [Game.obstacleTable_keys]
      exact hnumbered.obstacles

/-- Nothing goes out to the session, and the game stays. -/
theorem Feeding.skip (h : Feeding session s ms n synced reloaded) (hready : s'.Ready)
    (hgame : s'.game = s.game) (hcounter : s'.context.nextMessageID = s.context.nextMessageID)
    (hsessions : (s'.playerProfiles.map (·.session)).Nodup)
    (hmem : session ∈ s'.playerProfiles.map (·.session) ↔ session ∈ s.playerProfiles.map (·.session))
    (hsent : sentTo s'.outbox session = sentTo s.outbox session) {synced' : Bool}
    (hsynced : session ∈ s.playerProfiles.map (·.session) → synced' = true → synced = true)
    (hserved : synced' = true → s.game.isSome = true) :
    Feeding session s' ms n synced' reloaded := by
  -- the tables are up to date only if they were: nothing was sent
  have hand : (synced' && decide (session ∈ s'.playerProfiles.map (·.session))) = true →
      (synced && decide (session ∈ s.playerProfiles.map (·.session))) = true := by
    intro hboth
    rw [Bool.and_eq_true, decide_eq_true_iff] at hboth ⊢
    have hin := hmem.mp hboth.2
    exact ⟨hsynced hin hboth.1, hin⟩
  refine ⟨hready, hcounter.trans h.counter, hsessions, ?_, hsent.trans h.sent, h.units, h.obstacles,
    fun hno => h.silent (mt hmem.mpr hno), ?_, ?_⟩
  · rw [hgame]
    exact h.numbered
  · rw [hgame]
    exact hserved
  · intro g hg
    rw [hgame] at hg
    obtain ⟨⟨old, htrails, hcur, hold⟩, ⟨old', htrails', hcur', hold'⟩⟩ := h.follows g hg
    exact ⟨⟨old, htrails, fun hboth => hcur (hand hboth), hold⟩,
      ⟨old', htrails', fun hboth => hcur' (hand hboth), hold'⟩⟩

variable [FloatArith F]

/-- A broadcast. -/
theorem Feeding.synchronize (h : Feeding session s ms n synced reloaded)
    (hs' : s.synchronize = some s') :
    ∃ ns, Feeding session s' (ms ++ ns) n true reloaded := by
  have hready := GameServer.ready_step (e := .synchronize) h.ready hs'
  obtain ⟨g, hg, rfl⟩ := GameServer.synchronize_inv hs'
  obtain ⟨lo, hnumbered⟩ := h.numbered g hg
  have hbroadcast := hnumbered.sentTo_broadcast h.sessions session
  by_cases hmem : session ∈ s.playerProfiles.map (·.session)
  · obtain ⟨ns, hns, hunits, hobstacles⟩ := hnumbered.serverMessages
    rw [if_pos hmem, hns] at hbroadcast
    refine ⟨ns, h.send hg hnumbered hunits hobstacles hready hg rfl h.sessions hmem ?_ true⟩
    rw [sentTo_append, hbroadcast]
  · rw [if_neg hmem] at hbroadcast
    refine ⟨[], ?_⟩
    rw [List.append_nil]
    refine h.skip hready rfl rfl h.sessions Iff.rfl ?_
      (fun hin => absurd hin hmem) ?_
    · rw [sentTo_append, hbroadcast, List.append_nil]
    · intro _
      rw [hg]
      rfl

/-- A new session, this one or another. -/
theorem Feeding.accept (h : Feeding session s ms n synced reloaded)
    (hnew : (s.playerProfileBySession session').isNone = true)
    (hs' : s.handleSessionAccepted session' = some s') :
    ∃ ns, Feeding session s' (ms ++ ns) n synced reloaded := by
  have hready := GameServer.ready_step (e := .handleSessionAccepted session') h.ready hs'
  -- sessions stay distinct, which `sentTo_broadcast` needs
  have hnot : session' ∉ s.playerProfiles.map (·.session) := by
    intro hmem
    have hsome := isSome_profile.mpr hmem
    rw [Option.isNone_iff_eq_none] at hnew
    rw [hnew] at hsome
    cases hsome
  obtain ⟨g, p, hg, rfl⟩ := GameServer.handleSessionAccepted_inv hs'
  obtain ⟨lo, hnumbered⟩ := h.numbered g hg
  have hprofiles : (s.addProfile session').playerProfiles.map (·.session) =
      s.playerProfiles.map (·.session) ++ [session'] := by
    unfold GameServer.addProfile
    rw [List.map_append]
    rfl
  have hsessions : ((s.addProfile session').playerProfiles.map (·.session)).Nodup := by
    rw [hprofiles, List.nodup_append]
    refine ⟨h.sessions, List.nodup_singleton _, ?_⟩
    intro a ha b hb
    rw [List.mem_singleton.mp hb]
    rintro rfl
    exact hnot ha
  by_cases hsession : session' = session
  · subst hsession
    obtain ⟨ns, hns, hunits, hobstacles⟩ := hnumbered.serverMessages
    have hunits' : unitUpdates (.newPlayerID p :: ns) = g.unitTable := hunits
    have hobstacles' : obstacleUpdates (.newPlayerID p :: ns) = g.obstacleTable :=
      hobstacles
    refine ⟨_, h.send hg hnumbered hunits' hobstacles' hready hg rfl hsessions ?_ ?_ synced⟩
    · show session' ∈ (s.addProfile session').playerProfiles.map (·.session)
      rw [hprofiles]
      exact List.mem_append_right _ (List.mem_singleton.mpr rfl)
    · show sentTo (s.outbox ++ (newPlayerIDMessage p :: g.messages).map (session', ·))
        session' = _
      rw [sentTo_append, sentTo_map_self, hns]
      rfl
  · refine ⟨[], ?_⟩
    rw [List.append_nil]
    refine h.skip hready rfl rfl hsessions ?_ ?_ (fun _ hsynced => hsynced) h.served
    · show session ∈ (s.addProfile session').playerProfiles.map (·.session) ↔ _
      rw [hprofiles, List.mem_append, List.mem_singleton]
      exact or_iff_left (Ne.symm hsession)
    · show sentTo (s.outbox ++ (newPlayerIDMessage p :: g.messages).map (session', ·))
        session = _
      rw [sentTo_append, sentTo_map_other _ hsession, List.append_nil]

/-- **One call** of the server. -/
theorem Feeding.step {e : GameServer.Event F} (h : Feeding session s ms n synced reloaded)
    (hallowed : Link.Allowed s e)
    (hroom : messageIDFirst.toNat + (n + Link.generatedBy e) ≤ 2 ^ 16) (hstep : s.step e = some s') :
    ∃ ns, Feeding session s' (ms ++ ns) (n + Link.generatedBy e) (Link.syncedAfter synced e)
      (Link.reloadedAfter (s.playerProfileBySession session).isSome reloaded e) := by
  have hnone : ∀ {sy re : Bool} {k : Nat}, Feeding session s' ms k sy re →
      ∃ ns, Feeding session s' (ms ++ ns) k sy re := by
    intro sy re k hfeeding
    refine ⟨[], ?_⟩
    rw [List.append_nil]
    exact hfeeding
  cases e with
  | loadGame levelNumber clock =>
      cases hstep
      rw [← Nat.add_assoc] at hroom
      exact hnone (h.load hroom)
  | startGame clock =>
      cases hstep
      exact hnone (h.mapGame (Game.start_keeps clock))
  | proceed clock =>
      cases hstep
      exact hnone (h.mapGame (Game.proceed_keeps clock))
  | synchronize => exact h.synchronize hstep
  | handleSessionAccepted session' => exact h.accept hallowed hstep
  | handleMessageReceived session' m =>
      have hsome : (if (s.playerProfileBySession session').isSome
        then s.handleMessageReceived session' m else none) = some s' := hstep
      split at hsome
      · obtain ⟨f, hf, rfl⟩ := h.ready.request hallowed hsome
        exact hnone (h.mapGame hf)
      · cases hsome

/-! ## Both halves -/

namespace Link

/-- The client mirrors the messages it has processed, out of the `ms` that the server has sent. -/
structure Linked (session : SessionID) (l : Link F) (ms : List (ServerMessage F)) (n : Nat) : Prop where
  feeding  : Feeding session l.server ms n l.synced l.reloaded
  mirrors  : l.client.Mirrors (ms.take l.received)
  received : l.received ≤ ms.length

variable {l l' : Link F} {unset unset' : Nat → Unset F} {clock : Nat → F} {events : List (Event F)}

theorem linked_start : Linked session (start unset unset' clock) [] 0 := by
  refine ⟨⟨Or.inl ⟨rfl, rfl⟩, rfl, List.nodup_nil, ?_, rfl, ?_, ?_,
    fun _ => rfl, ?_, ?_⟩, GameClient.mirrors_new unset' clock, Nat.le_refl 0⟩
  · intro g hg
    cases hg
  · intro e he
    cases he
  · intro e he
    cases he
  · intro hfalse
    cases hfalse
  · intro g hg
    cases hg

/-- The client can process whatever it has been sent. -/
theorem Linked.receive (h : Linked session l ms n) (hpending : l.received < ms.length) :
    ∃ l', step session l .receive = some l' ∧ Linked session l' ms n := by
  obtain ⟨client, hclient, hmirrors⟩ := GameClient.mirrors_step h.mirrors (ms[l.received])
  have hmessage : (sentTo l.server.outbox session)[l.received]? =
      some (ms[l.received]).toMessage := by
    rw [h.feeding.sent, List.getElem?_map, List.getElem?_eq_getElem hpending]
    rfl
  refine ⟨{ l with client := client, received := l.received + 1 }, ?_, h.feeding, ?_, hpending⟩
  · unfold step
    rw [hmessage]
    show Option.map _ (l.client.handleMessage _) = _
    rw [hclient]
    rfl
  · show client.Mirrors (ms.take (l.received + 1))
    rw [List.take_succ_eq_append_getElem hpending]
    exact hmirrors

theorem Linked.step {e : Event F} (h : Linked session l ms n)
    (hroom : messageIDFirst.toNat + (n + generated [e]) ≤ 2 ^ 16)
    (hstep : step session l e = some l') :
    ∃ ms', Linked session l' ms' (n + generated [e]) := by
  cases e with
  | server e =>
      rw [Link.step] at hstep
      split at hstep
      · next hallowed =>
          obtain ⟨s', hs', rfl⟩ := Option.map_eq_some_iff.mp hstep
          obtain ⟨ns, hfeeding⟩ := h.feeding.step hallowed hroom hs'
          refine ⟨ms ++ ns, hfeeding, ?_, ?_⟩
          · show l.client.Mirrors ((ms ++ ns).take l.received)
            rw [List.take_append_of_le_length h.received]
            exact h.mirrors
          · show l.received ≤ (ms ++ ns).length
            rw [List.length_append]
            exact Nat.le_trans h.received (Nat.le_add_right _ _)
      · cases hstep
  | receive =>
      -- a message can be received only if one is pending
      have hpending : l.received < ms.length := by
        obtain ⟨m, hm, _⟩ := Option.bind_eq_some_iff.mp hstep
        rw [h.feeding.sent] at hm
        obtain ⟨hlt, _⟩ := List.getElem?_eq_some_iff.mp hm
        rw [List.length_map] at hlt
        exact hlt
      obtain ⟨l₁, hl₁, hlinked⟩ := h.receive hpending
      rw [hstep] at hl₁
      cases hl₁
      exact ⟨ms, hlinked⟩

theorem linked_run (h : exec (step session) (start unset unset' clock) events = some l)
    (hroom : messageIDFirst.toNat + generated events ≤ 2 ^ 16) :
    ∃ ms, Linked session l ms (generated events) := by
  -- induction over the run; the bound shrinks with it
  revert hroom
  refine exec_trace (P := fun events l => messageIDFirst.toNat + generated events ≤ 2 ^ 16 →
    ∃ ms, Linked session l ms (generated events)) (fun _ => ⟨[], linked_start⟩) ?_ h
  intro events l e l' _ hl hstep hroom
  rw [generated_snoc] at hroom ⊢
  obtain ⟨ms, hlinked⟩ := hl (by omega)
  exact hlinked.step hroom hstep

/-- What an event is to the server. -/
theorem step_server {e : Event F} (hstep : step session l e = some l') :
    e.call = none ∧ l'.server = l.server ∨
      ∃ c, e.call = some c ∧ c.Requests ∧ l.server.step c = some l'.server := by
  cases e with
  | server c =>
      rw [step] at hstep
      split at hstep
      · next hallowed =>
          obtain ⟨s', hs', rfl⟩ := Option.map_eq_some_iff.mp hstep
          exact Or.inr ⟨c, rfl, hallowed.requests, hs'⟩
      · cases hstep
  | receive =>
      obtain ⟨m, -, hstep⟩ := Option.bind_eq_some_iff.mp hstep
      obtain ⟨client, -, rfl⟩ := Option.map_eq_some_iff.mp hstep
      exact Or.inl ⟨rfl, rfl⟩

/-- The server's part of a run. -/
theorem server_run (h : exec (step session) (start unset unset' clock) events = some l) :
    exec GameServer.step (GameServer.run unset) (serverCalls events) = some l.server ∧
      ∀ c ∈ serverCalls events, c.Requests :=
  exec_part Link.server step_server h

omit [FloatArith F] in
/-- The server's tables are what a client has that has processed everything, when the last broadcast came
    after the last change, behind others. -/
theorem Linked.current (h : Linked session l ms n)
    (hconnected : (l.server.playerProfileBySession session).isSome = true)
    (hprocessed : l.received = (sentTo l.server.outbox session).length) (hsynced : l.synced = true) :
    ∃ g oldUnits oldObstacles, l.server.game = some g ∧
      l.client.game.unitTable = oldUnits ++ g.unitTable ∧
      (∀ e ∈ oldUnits, e.1 ∉ g.unitTable.map Prod.fst) ∧
      l.client.game.obstacleTable = oldObstacles ++ g.obstacleTable ∧
      (∀ e ∈ oldObstacles, e.1 ∉ g.obstacleTable.map Prod.fst) ∧
      (l.reloaded = false → oldUnits = [] ∧ oldObstacles = []) := by
  obtain ⟨hfeeding, hmirrors, -⟩ := h
  -- the client mirrors all that was sent
  rw [hprocessed, hfeeding.sent, List.length_map, List.take_length] at hmirrors
  obtain ⟨g, hg⟩ := Option.isSome_iff_exists.mp (hfeeding.served hsynced)
  have hboth : (l.synced && decide (session ∈ l.server.playerProfiles.map (·.session))) = true := by
    rw [hsynced, Bool.true_and, decide_eq_true_iff]
    exact isSome_profile.mp hconnected
  obtain ⟨⟨old, htrails, hcur, hold⟩, ⟨old', htrails', hcur', hold'⟩⟩ := hfeeding.follows g hg
  refine ⟨g, old, old', hg, ?_, htrails.older, ?_, htrails'.older, fun hno => ⟨hold hno, hold' hno⟩⟩
  · exact hmirrors.units.trans (hcur hboth)
  · exact hmirrors.obstacles.trans (hcur' hboth)

/-- The others are stale. -/
theorem Linked.converged {calls : List (GameServer.Event F)} (h : Linked session l ms n)
    (hrun : exec GameServer.step (GameServer.run unset) calls = some l.server)
    (hrequests : ∀ c ∈ calls, c.Requests)
    (hconnected : (l.server.playerProfileBySession session).isSome = true)
    (hprocessed : l.received = (sentTo l.server.outbox session).length) (hsynced : l.synced = true) :
    ∃ g oldUnits oldObstacles, l.server.game = some g ∧
      (GameServer.run unset).Converged calls (sentTo l.server.outbox session) g l.client.game oldUnits
        oldObstacles ∧
      (l.reloaded = false → oldUnits = [] ∧ oldObstacles = []) := by
  obtain ⟨g, old, old', hg, hunits, hother, hobstacles, hother', hold⟩ :=
    h.current hconnected hprocessed hsynced
  obtain ⟨hfeeding, hmirrors, -⟩ := h
  rw [hprocessed, hfeeding.sent, List.length_map, List.take_length] at hmirrors
  have hms : ∀ m ∈ sentTo l.server.outbox session, m ∈ l.server.outbox.map Prod.snd :=
    fun m hm => List.map_subset Prod.snd (List.filter_sublist.subset) hm
  refine ⟨g, old, old', hg, ⟨hunits, hobstacles, hother, hother', ?_, ?_⟩, hold⟩
  · apply GameServer.stale_of_replay updating_units hrequests hrun hg hms _ hother
    rw [hfeeding.sent, unitUpdates_toMessage, ← hmirrors.units]
    exact hunits
  · apply GameServer.stale_of_replay updating_obstacles hrequests hrun hg hms _ hother'
    rw [hfeeding.sent, obstacleUpdates_toMessage, ← hmirrors.obstacles]
    exact hobstacles

/-- **Convergence.** In every run that generates no more message IDs than there are, once the client has
    processed everything and the last broadcast came after the last change, the client's tables are the
    server's behind what is left of earlier levels: the last that it was sent of entities of games that a
    load has replaced. There is nothing left of them if no level was loaded since the client connected. -/
theorem client_converges (session : SessionID) (unset unset' : Nat → Unset F) (clock : Nat → F)
    (events : List (Event F))
    (hroom : messageIDFirst.toNat + generated events ≤ 2 ^ 16)
    (h : exec (step session) (start unset unset' clock) events = some l)
    (hconnected : (l.server.playerProfileBySession session).isSome = true)
    (hprocessed : l.received = (sentTo l.server.outbox session).length) (hsynced : l.synced = true) :
    ∃ g oldUnits oldObstacles, l.server.game = some g ∧
      (GameServer.run unset).Converged (serverCalls events) (sentTo l.server.outbox session) g
        l.client.game oldUnits oldObstacles ∧
      (l.reloaded = false → oldUnits = [] ∧ oldObstacles = []) := by
  obtain ⟨ms, hlinked⟩ := linked_run h hroom
  obtain ⟨hrun, hrequests⟩ := server_run h
  exact hlinked.converged hrun hrequests hconnected hprocessed hsynced

/-- Level 2 is loaded after the client has joined level 1. -/
def twoLevels : List (Event Int) :=
  [.server (.loadGame 1 fun _ => 0), .server (.handleSessionAccepted 7),
   .server (.loadGame 2 fun _ => 0), .server .synchronize] ++ List.replicate 32 .receive

theorem twoLevels_run :
    (exec (step 7) (start GameServer.zeroed GameServer.zeroed fun _ => 0) twoLevels).isSome = true := by
  decide +kernel

/-- The client has the ten units of level 1 in front of those of level 2. -/
theorem converges_twoLevels :
    ∃ l g old, exec (step 7) (start GameServer.zeroed GameServer.zeroed fun _ => 0) twoLevels = some l ∧
      l.server.game = some g ∧ l.client.game.unitTable = old ++ g.unitTable ∧ old.length = 10 ∧
      ∀ e ∈ old, ∃ g', (GameServer.run GameServer.zeroed).Superseded (serverCalls twoLevels) g' ∧
        e ∈ g'.unitTable := by
  obtain ⟨g, old, _, hg, hconverged, _⟩ := client_converges 7
    GameServer.zeroed GameServer.zeroed (fun _ => 0) twoLevels (by decide +kernel)
    (Option.some_get twoLevels_run).symm (by decide +kernel) (by decide +kernel) (by decide +kernel)
  refine ⟨_, g, old, (Option.some_get twoLevels_run).symm, hg, hconverged.units, ?_,
    fun e he => (hconverged.staleUnits e he).origin⟩
  have hlength := congrArg List.length hconverged.units
  have hgame := congrArg (Option.map fun g => g.unitTable.length) hg
  have htwenty : ((exec (step 7) (start GameServer.zeroed GameServer.zeroed fun _ => 0) twoLevels).get
      twoLevels_run).client.game.unitTable.length = 20 := by
    decide +kernel
  have hten : ((exec (step 7) (start GameServer.zeroed GameServer.zeroed fun _ => 0) twoLevels).get
      twoLevels_run).server.game.map (fun g => g.unitTable.length) = some 10 := by
    decide +kernel
  rw [htwenty, List.length_append] at hlength
  have hcurrent : 10 = g.unitTable.length := Option.some.inj (hten.symm.trans hgame)
  omega

/-- The client's units are not the server's. -/
theorem stale_after_reload :
    ∃ l, exec (step 7) (start GameServer.zeroed GameServer.zeroed fun _ => 0) twoLevels = some l ∧
      (l.server.playerProfileBySession 7).isSome = true ∧
      l.received = (sentTo l.server.outbox 7).length ∧ l.synced = true ∧
      some (l.client.game.gameUnits.map (·.messageID)) ≠
        l.server.game.map fun g => g.gameUnits.map (·.messageID) :=
  ⟨_, (Option.some_get twoLevels_run).symm, by decide +kernel, by decide +kernel, by decide +kernel,
    by decide +kernel⟩

end Link

end Footscreen
